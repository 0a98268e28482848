import TypeRecovery.Proofs.Import.LastFunction

/-!
# Reports of a second import

Labels and layouts are counted as they were the first time. A function that was created then is
renamed now.
-/

namespace TypeRecovery

/-! ## Labels -/

section

variable {ρ : Type} {ws ws' : Workspace}

theorem labelType_report (start : String) (report : LabelReport) (r : TypeRecord ρ)
    (hopen : ws.target.IsOpen) :
    (labelType start report r ws).1 =
      if ws.program.acceptsLabel r.definitionAddress then
        { report with created := report.created + 1 }
      else { report with failed := report.failed + 1 } := by
  unfold labelType
  rw [Workspace.attempt_eq, hopen.attempt_fst, Program.perform, Program.label]
  show _ = if ws.target.program.acceptsLabel r.definitionAddress then _ else _
  cases ws.target.program.acceptsLabel r.definitionAddress <;> rfl

theorem labelType_regions (start : String) (report : LabelReport) (r : TypeRecord ρ)
    (ws : Workspace) :
    (labelType start report r ws).2.program.regions = ws.program.regions := by
  show (labelType start report r ws).2.target.program.regions = _
  rw [labelType_target]
  have hagree : ws.target.program.AgreeOutside .labels
      (ws.target.run [labelOperation start r]).program := by
    apply Target.run_agreeOutside
    simp [labelOperation, Operation.part]
  exact hagree.regions (by simp)

/-- Two label passes go alike: what one counted, the other counted. -/
structure LabelsAlike (s s' : LabelReport × Workspace) : Prop where
  report : s'.1 = s.1
  isOpen : s.2.target.IsOpen
  isOpen' : s'.2.target.IsOpen
  regions : s'.2.program.regions = s.2.program.regions

theorem LabelsAlike.labelType {s s' : LabelReport × Workspace} (h : LabelsAlike s s')
    (start : String) (r : TypeRecord ρ) :
    LabelsAlike (labelType start s.1 r s.2) (labelType start s'.1 r s'.2) where
  report := by
    rw [labelType_report start s.1 r h.isOpen, labelType_report start s'.1 r h.isOpen', h.report,
      Program.acceptsLabel_congr h.regions]
  isOpen := by
    rw [labelType_target]
    exact h.isOpen.attempt _
  isOpen' := by
    rw [labelType_target]
    exact h.isOpen'.attempt _
  regions := by
    rw [labelType_regions, labelType_regions, h.regions]

theorem labelStage_report (config : ImportConfig) (c : Catalog) (hopen : ws.target.IsOpen)
    (hopen' : ws'.target.IsOpen) (hregions : ws'.program.regions = ws.program.regions) :
    (labelStage config c ws').1 = (labelStage config c ws).1 := by
  unfold labelStage labelTypes
  split
  · refine congrArg some (LabelsAlike.report (List.foldl_rel (r := LabelsAlike) ?_ ?_))
    · exact ⟨rfl, hopen, hopen', hregions⟩
    · intro r _ s s' h
      exact h.labelType config.labelStart r
  · rfl

end

/-! ## Layouts -/

section

variable {c : Catalog} {h : Handles c} {sampleLength : UInt32} {interval : UInt64}

theorem resolveFrom_report {is : List c.Index} {report first second : ResolveReport}
    {ws ws' ws₁ ws₂ : Workspace}
    (hfirst : resolveFrom h sampleLength interval is report ws = (.ok first, ws₁))
    (hsecond : resolveFrom h sampleLength interval is report ws' = (.ok second, ws₂)) :
    second = first := by
  induction is generalizing report ws ws' with
  | nil =>
    cases hfirst
    cases hsecond
    rfl
  | cons i is ih =>
    rw [resolveFrom] at hfirst hsecond
    cases hi : layoutHandle? h i with
    | none =>
      simp only [hi] at hfirst hsecond
      exact ih hfirst hsecond
    | some k =>
      simp only [hi] at hfirst hsecond
      split at hfirst
      · cases hfirst
      · split at hsecond
        · cases hsecond
        · exact ih hfirst hsecond

theorem resolve_report {first second : ResolveReport} {ws ws' ws₁ ws₂ : Workspace}
    (hfirst : resolve h sampleLength interval ws = (.ok first, ws₁))
    (hsecond : resolve h sampleLength interval ws' = (.ok second, ws₂)) : second = first := by
  unfold resolve at hfirst hsecond
  split at hfirst
  · cases hfirst
  · rename_i report ws₃ hreport
    split at hsecond
    · cases hsecond
    · rename_i report' ws₄ hreport'
      cases hfirst
      cases hsecond
      exact resolveFrom_report hreport hreport'

end

/-! ## Functions -/

/-- The report of a second pass: what was created is renamed. -/
def SignatureReport.again (r : SignatureReport) : SignatureReport :=
  { r with created := 0, renamed := r.created + r.renamed }

section

variable {ws ws' : Workspace}

theorem signFunction_report (plan : FunctionPlan) (report : SignatureReport) {f : Function}
    (hopen : ws.target.IsOpen) (hfind : ws.program.function? plan.address = some f) :
    (signFunction plan report ws).1 = { report with applied := report.applied + 1 } := by
  unfold signFunction
  unfold Workspace.program at hfind
  rw [Workspace.attempt_eq, hopen.attempt_fst, Program.perform, Program.applySignature, hfind]
  rfl

theorem nameFunction_of_ok {plan : FunctionPlan} {p : Program} (report : SignatureReport)
    (hopen : ws.target.IsOpen) (h : ws.program.perform (plan.naming ws.program) = .ok p) :
    ∃ ws', nameFunction plan report ws =
        (true,
          if ws.program.functions.contains plan.address then
            { report with renamed := report.renamed + 1 }
          else { report with created := report.created + 1 },
          ws') ∧
      ws'.target.IsOpen ∧ ws'.program = p := by
  have hresult : (ws.target.attempt (plan.naming ws.program)).1 = .ok () := by
    rw [hopen.attempt_fst]
    exact congrArg (Except.map fun _ => ()) h
  have hprogram : (ws.target.attempt (plan.naming ws.program)).2.program = p := by
    rw [hopen.attempt_program]
    exact congrArg (fun result => (Except.toOption result).getD ws.target.program) h
  obtain ⟨hnamed, hreport, htarget⟩ := nameFunction_spec plan report ws
  rw [hresult] at hnamed hreport
  refine ⟨_, Prod.ext hnamed (Prod.ext hreport rfl), ?_, ?_⟩
  · rw [htarget]
    exact hopen.attempt _
  · unfold Workspace.program at hprogram ⊢
    rw [htarget]
    exact hprogram

theorem nameFunction_of_error {plan : FunctionPlan} {e : Error} (report : SignatureReport)
    (hopen : ws.target.IsOpen) (h : ws.program.perform (plan.naming ws.program) = .error e) :
    ∃ ws', nameFunction plan report ws =
      (false, { report with failed := report.failed + 1 }, ws') := by
  have hresult : (ws.target.attempt (plan.naming ws.program)).1 = .error e := by
    rw [hopen.attempt_fst]
    exact congrArg (Except.map fun _ => ()) h
  obtain ⟨hnamed, hreport, -⟩ := nameFunction_spec plan report ws
  rw [hresult] at hnamed hreport
  exact ⟨_, Prod.ext hnamed (Prod.ext hreport rfl)⟩

theorem function?_of_naming {plan : FunctionPlan} {p p' : Program}
    (h : p.perform (plan.naming p) = .ok p') : ∃ f, p'.function? plan.address = some f := by
  rw [FunctionPlan.perform_naming] at h
  split at h
  · cases h
    unfold Program.function?
    rw [AddressMap.find?_insert, if_pos rfl]
    exact ⟨_, rfl⟩
  · split at h
    · cases h
      unfold Program.function?
      rw [AddressMap.find?_insert, if_pos rfl]
      exact ⟨_, rfl⟩
    · cases h

theorem applyPlan_of_ok {plan : FunctionPlan} {p : Program} (report : SignatureReport)
    (hopen : ws.target.IsOpen) (hne : plan.address ≠ 0)
    (h : ws.program.perform (plan.naming ws.program) = .ok p) :
    (applyPlan plan report ws).1 =
      if ws.program.functions.contains plan.address then
        { report with renamed := report.renamed + 1, applied := report.applied + 1 }
      else { report with created := report.created + 1, applied := report.applied + 1 } := by
  obtain ⟨ws', hname, hopen', rfl⟩ := nameFunction_of_ok report hopen h
  obtain ⟨f, hfind⟩ := function?_of_naming h
  unfold applyPlan
  rw [if_neg hne, hname]
  simp only
  rw [signFunction_report plan _ hopen' hfind]
  split <;> rfl

theorem applyPlan_report (plan : FunctionPlan) (report : SignatureReport)
    (hopen : ws.target.IsOpen) :
    (applyPlan plan report ws).1 =
      if plan.address = 0 then { report with skipped := report.skipped + 1 }
      else if ws.program.functions.contains plan.address then
        { report with renamed := report.renamed + 1, applied := report.applied + 1 }
      else if ws.program.acceptsFunction plan.address then
        { report with created := report.created + 1, applied := report.applied + 1 }
      else { report with failed := report.failed + 1 } := by
  have hnaming := plan.perform_naming ws.program
  split
  · rename_i hzero
    unfold applyPlan
    rw [if_pos hzero]
  · rename_i hne
    cases hfind : ws.program.function? plan.address with
    | some f =>
      have hcontains : ws.program.functions.contains plan.address = true := by
        unfold AddressMap.contains
        unfold Program.function? at hfind
        rw [hfind]
        rfl
      rw [hfind] at hnaming
      rw [applyPlan_of_ok report hopen hne hnaming, hcontains]
      rfl
    | none =>
      have hcontains : ws.program.functions.contains plan.address = false := by
        unfold AddressMap.contains
        unfold Program.function? at hfind
        rw [hfind]
        rfl
      rw [hfind] at hnaming
      rw [hcontains]
      cases haccepts : ws.program.acceptsFunction plan.address with
      | true =>
        rw [haccepts] at hnaming
        rw [applyPlan_of_ok report hopen hne hnaming, hcontains]
        rfl
      | false =>
        rw [haccepts] at hnaming
        obtain ⟨ws', hname⟩ := nameFunction_of_error report hopen hnaming
        unfold applyPlan
        rw [if_neg hne, hname]
        rfl

theorem contains_run_operations {t : Target} (ht : t.IsOpen) (plan : FunctionPlan)
    (address : UInt64) :
    (t.run (plan.operations t)).program.functions.contains address =
      (t.program.functions.contains address ||
        plan.isAt address && t.program.acceptsFunction address) := by
  have hfunction := FunctionPlan.run_operations_function? ht plan address
  unfold Program.function? at hfunction
  unfold AddressMap.contains
  rw [hfunction]
  cases plan.isAt address with
  | true => exact FunctionPlan.isSome_onto ..
  | false => simp

theorem contains_run_functionOperations {t : Target} (ht : t.IsOpen) (plans : List FunctionPlan)
    (address : UInt64) :
    (t.run (functionOperations plans t)).program.functions.contains address =
      (t.program.functions.contains address ||
        plans.any (fun plan => plan.isAt address) && t.program.acceptsFunction address) := by
  induction plans generalizing t with
  | nil => simp [functionOperations]
  | cons plan plans ih =>
    rw [functionOperations, Target.run_append, ih (ht.run _), contains_run_operations ht,
      Program.acceptsFunction_congr (run_operations_regions plan t), List.any_cons,
      Bool.and_or_distrib_right, Bool.or_assoc]

/-- Two function passes go alike: the second finds a function wherever the first finds one or may
make one. -/
structure FunctionsAlike (plans : List FunctionPlan) (s s' : SignatureReport × Workspace) :
    Prop where
  report : s'.1 = s.1.again
  isOpen : s.2.target.IsOpen
  isOpen' : s'.2.target.IsOpen
  regions : s'.2.program.regions = s.2.program.regions
  contains : ∀ plan ∈ plans, plan.address ≠ 0 →
    s'.2.program.functions.contains plan.address =
      (s.2.program.functions.contains plan.address || s.2.program.acceptsFunction plan.address)

theorem applyPlan_program (plan : FunctionPlan) (report : SignatureReport) (ws : Workspace) :
    (applyPlan plan report ws).2.program = (ws.target.run (plan.operations ws.target)).program :=
  congrArg Target.program (applyPlan_target plan report ws)

theorem FunctionsAlike.applyPlan {plans : List FunctionPlan} {s s' : SignatureReport × Workspace}
    (h : FunctionsAlike plans s s') {plan : FunctionPlan} (hplan : plan ∈ plans) :
    FunctionsAlike plans (applyPlan plan s.1 s.2) (applyPlan plan s'.1 s'.2) where
  report := by
    rw [applyPlan_report plan s.1 h.isOpen, applyPlan_report plan s'.1 h.isOpen', h.report]
    by_cases hzero : plan.address = 0
    · rw [if_pos hzero, if_pos hzero]
      rfl
    · have haccepts := Program.acceptsFunction_congr h.regions plan.address
      rw [if_neg hzero, if_neg hzero, h.contains plan hplan hzero, haccepts]
      cases s.2.program.functions.contains plan.address <;>
        cases s.2.program.acceptsFunction plan.address <;>
        simp [SignatureReport.again] <;> omega
  isOpen := by
    rw [applyPlan_target]
    exact h.isOpen.run _
  isOpen' := by
    rw [applyPlan_target]
    exact h.isOpen'.run _
  regions := by
    rw [applyPlan_program, applyPlan_program, run_operations_regions, run_operations_regions]
    exact h.regions
  contains := by
    intro other hother hzero
    have hcontains := h.contains other hother hzero
    have haccepts := Program.acceptsFunction_congr h.regions other.address
    have hregions := run_operations_regions plan s.2.target
    rw [applyPlan_program, applyPlan_program, contains_run_operations h.isOpen,
      contains_run_operations h.isOpen', Program.acceptsFunction_congr hregions]
    unfold Workspace.program at hcontains haccepts
    rw [hcontains, haccepts]
    cases s.2.target.program.functions.contains other.address <;>
      cases s.2.target.program.acceptsFunction other.address <;> simp

end

end TypeRecovery
