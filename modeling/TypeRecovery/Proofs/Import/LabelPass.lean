import TypeRecovery.Proofs.Import.Fresh
import TypeRecovery.Proofs.Program.AddressSpace

/-!
# A pass over all definitions

Every type asks for a label at the address of its definition, which may have it already, from before
or from a type of the same name. In the end an address that takes labels has those that it had, and
behind them the others that types asked for there, each once. Whether a type counts as labelled
depends on its address alone.
-/

namespace TypeRecovery

/-! ## Names at one address -/

/-- The names that are not among the old ones, each once. -/
def newNames (old names : List String) : List String := (names.filter (· ∉ old)).eraseDups

theorem append_newNames_concat (old names : List String) (name : String) :
    old ++ newNames old (names ++ [name]) =
      if name ∈ old ++ newNames old names then old ++ newNames old names
      else old ++ newNames old names ++ [name] := by
  have hmem : name ∈ newNames old names ↔ name ∈ names ∧ name ∉ old := by simp [newNames]
  simp only [List.mem_append, hmem]
  unfold newNames
  rw [List.filter_append, List.filter_singleton]
  by_cases hold : name ∈ old
  · simp [hold]
  · by_cases hnames : name ∈ names <;> simp [hold, hnames, eraseDups_concat]

namespace Program

variable {p : Program} {address other : UInt64}

/-- The address is not zero, and lies in memory if there is any. -/
def TakesLabels (p : Program) (address : UInt64) : Prop :=
  address ≠ 0 ∧ (p.regions = #[] ∨ ∃ r ∈ p.regions,
    r.base.toNat ≤ address.toNat ∧ address.toNat < r.base.toNat + r.length)

theorem acceptsLabel_iff : p.acceptsLabel address = true ↔ p.TakesLabels address := by
  unfold acceptsLabel TakesLabels
  simp only [Bool.and_eq_true, Bool.or_eq_true, decide_eq_true_eq, Array.isEmpty_iff,
    Array.any_eq_true', Region.contains_iff]

theorem labelsAt_after_label (p : Program) (address : UInt64) (name : String) (other : UInt64) :
    (p.after [.label address name]).labelsAt other =
      if address = other ∧ p.acceptsLabel other = true ∧ name ∉ p.labelsAt other then
        p.labelsAt other ++ [name]
      else p.labelsAt other := by
  rw [after_singleton, perform, label]
  by_cases haccepts : p.acceptsLabel address = true
  · rw [if_pos haccepts]
    show ((p.labels.insert address _).find? other).getD [] = _
    rw [AddressMap.find?_insert]
    by_cases hother : other = address
    · subst hother
      by_cases hmem : name ∈ p.labelsAt other <;> simp [haccepts, hmem]
    · rw [if_neg hother, if_neg fun h => hother h.1.symm]
      rfl
  · rw [if_neg haccepts, if_neg]
    · rfl
    · rintro ⟨rfl, h, -⟩
      exact haccepts h

end Program

/-! ## Operations -/

section

variable {ρ : Type}

/-- The labels that types ask for at an address. -/
def labelNames (start : String) (rs : List (TypeRecord ρ)) (address : UInt64) : List String :=
  (rs.filter fun r => r.definitionAddress = address).map fun r => start ++ r.fullName

theorem labelNames_concat (start : String) (rs : List (TypeRecord ρ)) (r : TypeRecord ρ)
    (address : UInt64) :
    labelNames start (rs ++ [r]) address =
      labelNames start rs address ++
        if r.definitionAddress = address then [start ++ r.fullName] else [] := by
  unfold labelNames
  rw [List.filter_append, List.map_append]
  by_cases h : r.definitionAddress = address <;> simp [h]

theorem agreeOutside_after_labelOperations (p : Program) (start : String)
    (rs : List (TypeRecord ρ)) :
    p.AgreeOutside .labels (p.after (rs.map (labelOperation start))) := by
  refine Target.run_agreeOutside (fun op hop => ?_) (.ofProgram p)
  obtain ⟨r, -, rfl⟩ := List.mem_map.1 hop
  rfl

theorem labelsAt_after_labelOperations (p : Program) (start : String) (rs : List (TypeRecord ρ))
    (address : UInt64) :
    (p.after (rs.map (labelOperation start))).labelsAt address =
      p.labelsAt address ++
        if p.acceptsLabel address then
          newNames (p.labelsAt address) (labelNames start rs address)
        else [] := by
  induction rs using List.reverseRecOn with
  | nil =>
    show p.labelsAt address = _
    cases p.acceptsLabel address <;> simp [labelNames, newNames]
  | append_singleton rs r ih =>
    have hagree := (agreeOutside_after_labelOperations p start rs).regions nofun
    rw [List.map_append, List.map_singleton, Program.after_append, labelOperation,
      Program.labelsAt_after_label, Program.acceptsLabel_congr hagree, ih, labelNames_concat]
    cases p.acceptsLabel address with
    | false => simp
    | true =>
      by_cases haddress : r.definitionAddress = address
      · simp only [haddress, if_true, append_newNames_concat, true_and, ite_not]
      · simp [haddress]

/-! ## Counts -/

theorem foldl_labelType_report (start : String) (rs : List (TypeRecord ρ)) (ws : Workspace)
    (hopen : ws.target.IsOpen) :
    (rs.foldl (fun (report, ws) r => labelType start report r ws) ({}, ws)).1 =
      { created := rs.countP fun r => ws.program.acceptsLabel r.definitionAddress
        failed := rs.countP fun r => !ws.program.acceptsLabel r.definitionAddress } := by
  induction rs using List.reverseRecOn with
  | nil => rfl
  | append_singleton rs r ih =>
    have htarget := foldl_labelType_target start rs ({}, ws)
    rw [List.foldl_append, List.foldl_cons, List.foldl_nil]
    generalize List.foldl _ _ rs = s at *
    obtain ⟨report, ws'⟩ := s
    dsimp only at htarget ih ⊢
    have hopen' : ws'.target.IsOpen := by
      rw [htarget]
      exact hopen.run _
    -- The labels that were put on the way do not change which addresses take some.
    have haccepts : ws'.program.acceptsLabel r.definitionAddress =
        ws.program.acceptsLabel r.definitionAddress := by
      apply Program.acceptsLabel_congr
      unfold Workspace.program
      rw [htarget, hopen.run_program]
      exact (agreeOutside_after_labelOperations _ start rs).regions nofun
    rw [labelType_report start report r hopen', haccepts, ih, List.countP_append,
      List.countP_append, List.countP_singleton, List.countP_singleton]
    cases ws.program.acceptsLabel r.definitionAddress <;> rfl

end

/-! ## Programs -/

/-- What a pass over all types leaves of a program, and what it reports. -/
structure Catalog.LabelsDefinitions (c : Catalog) (start : String) (p p' : Program)
    (report : LabelReport) : Prop where
  taken : ∀ address, p.TakesLabels address →
    p'.labelsAt address =
      p.labelsAt address ++ newNames (p.labelsAt address) (labelNames start c.toList address)
  refused : ∀ address, ¬p.TakesLabels address → p'.labelsAt address = p.labelsAt address
  others : p.AgreeOutside .labels p'
  created : report.created = c.toList.countP fun r => p.acceptsLabel r.definitionAddress
  failed : report.failed = c.toList.countP fun r => !p.acceptsLabel r.definitionAddress

/-- An address that takes labels gets those of its types, in the order of the catalog and without
those that it has by then. -/
theorem labelTypes_labelsDefinitions (c : Catalog) (start : String) (p : Program) :
    let done := labelTypes c start (.ofTarget (.ofProgram p))
    c.LabelsDefinitions start p done.2.program done.1 ∧
      ∀ address, p.acceptsLabel address = true ↔ p.TakesLabels address := by
  have hprogram : (labelTypes c start (.ofTarget (.ofProgram p))).2.program =
      p.after (c.toList.map (labelOperation start)) :=
    congrArg Target.program (foldl_labelType_target start c.toList ({}, .ofTarget (.ofProgram p)))
  have hreport := foldl_labelType_report start c.toList (.ofTarget (.ofProgram p))
    (Target.isOpen_ofProgram p)
  have hlabels := labelsAt_after_labelOperations p start c.toList
  rw [← hprogram] at hlabels
  refine ⟨⟨fun address htakes => ?_, fun address htakes => ?_, ?_, ?_, ?_⟩,
    fun address => Program.acceptsLabel_iff⟩
  · rw [hlabels, if_pos (Program.acceptsLabel_iff.2 htakes)]
  · rw [hlabels, if_neg (mt Program.acceptsLabel_iff.1 htakes), List.append_nil]
  · rw [hprogram]
    exact agreeOutside_after_labelOperations p start c.toList
  · exact congrArg LabelReport.created hreport
  · exact congrArg LabelReport.failed hreport

end TypeRecovery
