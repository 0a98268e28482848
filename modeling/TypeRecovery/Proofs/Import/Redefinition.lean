import TypeRecovery.Proofs.Import.Slots
import TypeRecovery.Proofs.Program.Parts

/-!
# Structures that are asked for again

What the registration and the layouts of a catalog left in a program is what they make of it again:
each structure is defined anew by the same last type and filled by the same last type.
-/

namespace TypeRecovery

/-! ## Parts -/

section

variable {ρ : Type} {c : Catalog}

theorem labelOperations_part {config : ImportConfig} {c : Catalog} {op : Operation}
    (h : op ∈ labelOperations config c) : op.part = .labels := by
  unfold labelOperations at h
  split at h
  · obtain ⟨r, -, rfl⟩ := List.mem_map.1 h
    rfl
  · simp at h

theorem defineOperations_part {category : String} {rs : List (TypeRecord ρ)} {op : Operation}
    (h : op ∈ defineOperations category rs) : op.part = .structs := by
  obtain ⟨r, -, rfl⟩ := List.mem_map.1 h
  rfl

theorem rebuildOperations_part {h : Handles c} {sampleLength : UInt32} {is : List c.Index}
    {op : Operation} (hop : op ∈ rebuildOperations h sampleLength is) : op.part = .structs := by
  obtain ⟨i, -, hi⟩ := List.mem_filterMap.1 hop
  unfold rebuildOperation? at hi
  obtain ⟨k, -, rfl⟩ := Option.map_eq_some_iff.1 hi
  rfl

end

/-! ## Names -/

section

variable {ρ : Type} {category : String} {rs : List (TypeRecord ρ)} {t : Target}

theorem handleOf?_of_registered (hpasses : t.Passes (defineOperations category rs))
    {r : TypeRecord ρ} (hr : r ∈ rs) (hstructured : r.isStructured = true) :
    ∃ k, (t.run (defineOperations category rs)).program.handleOf? category r.fullName = some k := by
  induction rs generalizing t with
  | nil => simp at hr
  | cons first rs ih =>
    cases hfirst : scalarOfSystemType? first.systemType with
    | some kind =>
      rw [defineOperations_cons_of_scalar hfirst] at hpasses ⊢
      rcases List.mem_cons.1 hr with rfl | hr
      · simp [TypeRecord.isStructured, hfirst] at hstructured
      · exact ih hpasses hr
    | none =>
      rw [defineOperations_cons_of_none hfirst] at hpasses ⊢
      obtain ⟨hop, hrest⟩ := Target.passes_cons_iff.1 hpasses
      rcases List.mem_cons.1 hr with rfl | hr
      · obtain ⟨k, hprogram, hhandle⟩ := attempt_defineOperation hop
        rw [← hprogram] at hhandle
        have hext := (t.attempt (defineOperation category r)).2.run_extends
          (defineOperations category rs)
        exact ⟨k, hext.handleOf? hhandle⟩
      · exact ih hrest hr

theorem defineOperations_pass_of_named (ht : t.IsOpen)
    (hnames : ∀ r ∈ rs, r.isStructured = true →
      ∃ k, t.program.handleOf? category r.fullName = some k) :
    t.Passes (defineOperations category rs) := by
  intro before op after heq
  have hop : op ∈ defineOperations category rs := by
    rw [heq]
    simp
  obtain ⟨r, hr, rfl⟩ := List.mem_map.1 hop
  obtain ⟨hmem, hstructured⟩ := List.mem_filter.1 hr
  obtain ⟨k, hk⟩ := hnames r hmem hstructured
  have hnow := (t.run_extends before).handleOf? hk
  have hthen := (Program.define_extends (t.run before).program category r.fullName r.size
    .replace).handleOf? hnow
  rw [fatal?_defineOperation, (ht.run before).handle?_eq, hthen]

theorem defineOperations_pass_again (hpasses : t.Passes (defineOperations category rs))
    {t' : Target} (ht' : t'.IsOpen)
    (hext : (t.run (defineOperations category rs)).program.Extends t'.program) :
    t'.Passes (defineOperations category rs) := by
  apply defineOperations_pass_of_named ht'
  intro r hr hstructured
  obtain ⟨k, hk⟩ := handleOf?_of_registered hpasses hr hstructured
  exact ⟨k, hext.handleOf? hk⟩

theorem run_defineOperations_again (hpasses : t.Passes (defineOperations category rs))
    {t' : Target} (ht' : t'.IsOpen)
    (hprogram : t'.program = (t.run (defineOperations category rs)).program) :
    t'.Passes (defineOperations category rs) ∧
      (t'.run (defineOperations category rs)).program = t'.program := by
  have hstart : (t.run (defineOperations category rs)).program.Extends t'.program := by
    rw [hprogram]
    exact .refl _
  have hpasses' := defineOperations_pass_again hpasses ht' hstart
  refine ⟨hpasses', ?_⟩
  apply (Target.run_agreeOutside (fun _ => defineOperations_part) t').eq_of_structs
  intro j
  have hlater : (t.run (defineOperations category rs)).program.Extends
      (t'.run (defineOperations category rs)).program := hstart.trans (Target.run_extends _ _)
  have hfirst := run_defineOperations_structs hpasses hlater j
  have hsecond := run_defineOperations_structs hpasses' (.refl _) j
  rw [← hprogram] at hfirst
  rw [hsecond, hfirst]
  cases last? (definedAt category (t'.run (defineOperations category rs)).program j) rs <;> simp

end

/-! ## Layouts -/

section

variable {c : Catalog} {category : String} {h : Handles c} {sampleLength : UInt32}

theorem Struct.filledBy_filledBy (h : Handles c) (sampleLength : UInt32) (s : Struct)
    (x : Option c.Index) :
    (s.filledBy h sampleLength x).filledBy h sampleLength x = s.filledBy h sampleLength x := by
  cases x <;> rfl

theorem run_structures_again {t : Target} {rs : List c.Record} {is : List c.Index}
    (hdefines : t.Passes (defineOperations category rs))
    (hnamed : h.NamedIn category (t.run (defineOperations category rs)).program)
    (hrebuilds :
      (t.run (defineOperations category rs)).Passes (rebuildOperations h sampleLength is))
    {t' : Target} (ht' : t'.IsOpen)
    (hstructs : t'.program.structs = (t.run
      (defineOperations category rs ++ rebuildOperations h sampleLength is)).program.structs) :
    t'.Passes (defineOperations category rs) ∧
      h.NamedIn category (t'.run (defineOperations category rs)).program ∧
      (t'.run (defineOperations category rs ++ rebuildOperations h sampleLength is)).program =
        t'.program := by
  have hstart : (t.run (defineOperations category rs)).program.Extends t'.program := by
    have hrebuilt := Target.run_extends (t.run (defineOperations category rs))
      (rebuildOperations h sampleLength is)
    unfold Program.Extends Program.titles at hrebuilt ⊢
    rw [hstructs, Target.run_append]
    exact hrebuilt
  have hdefines' := defineOperations_pass_again hdefines ht' hstart
  have hlater : (t.run (defineOperations category rs)).program.Extends
      (t'.run (defineOperations category rs)).program := hstart.trans (Target.run_extends _ _)
  have hnamed' := hnamed.mono hlater
  have hrebuilds' := rebuildOperations_pass (ht'.run (defineOperations category rs)) h
    sampleLength is
  refine ⟨hdefines', hnamed', ?_⟩
  have hagree : t'.program.AgreeOutside .structs
      (t'.run (defineOperations category rs ++ rebuildOperations h sampleLength is)).program := by
    apply Target.run_agreeOutside
    intro op hop
    rcases List.mem_append.1 hop with hop | hop
    · exact defineOperations_part hop
    · exact rebuildOperations_part hop
  apply hagree.eq_of_structs
  intro j
  have hfirst := run_defineOperations_structs hdefines hlater j
  have hfilled := run_rebuildOperations_structs hrebuilds hnamed.lt_of_layoutHandle? j
  have hsecond := run_defineOperations_structs hdefines' (.refl _) j
  have hrefilled := run_rebuildOperations_structs hrebuilds' hnamed'.lt_of_layoutHandle? j
  rw [hfirst] at hfilled
  rw [← Target.run_append, ← hstructs] at hfilled
  rw [hsecond, ← Target.run_append] at hrefilled
  rw [hrefilled, hfilled]
  cases last? (definedAt category (t'.run (defineOperations category rs)).program j) rs with
  | some r => rfl
  | none => simp [Option.map_map, Function.comp_def, Struct.filledBy_filledBy]

end

end TypeRecovery
