import TypeRecovery.Proofs.Catalog.Accepted
import TypeRecovery.Proofs.Import.Redefinition

/-!
# Room for an import

An import asks for at most one new structure for each type. On a target that refuses nothing it ends
well if there is room for that many.
-/

namespace TypeRecovery

/-! ## One structure -/

namespace Program

variable (p : Program) (category name : String) (size : UInt32) (policy : ConflictPolicy)

theorem size_define_le : (p.define category name size policy).structs.size ≤ p.structs.size + 1 := by
  unfold define
  split
  · split <;> simp
  · split <;> simp

theorem exists_handleOf?_define (hroom : p.structs.size < structBound) :
    ∃ k, (p.define category name size policy).handleOf? category name = some k := by
  cases hk : p.handleOf? category name with
  | some k => exact ⟨k, (define_extends p category name size policy).handleOf? hk⟩
  | none =>
    rw [define_of_none hk, if_pos hroom]
    exact ⟨_, handleOf?_push hk⟩

end Program

/-! ## Stages -/

section

variable {ρ : Type} {category : String} {rs : List (TypeRecord ρ)} {t : Target}

theorem defineOperations_pass_of_room (ht : t.IsOpen)
    (hroom : t.program.structs.size + rs.length ≤ Program.structBound) :
    t.Passes (defineOperations category rs) := by
  induction rs generalizing t with
  | nil => exact Target.passes_nil t
  | cons r rs ih =>
    rw [List.length_cons] at hroom
    cases hr : scalarOfSystemType? r.systemType with
    | some kind =>
      rw [defineOperations_cons_of_scalar hr]
      exact ih ht (by omega)
    | none =>
      rw [defineOperations_cons_of_none hr, Target.passes_cons_iff]
      obtain ⟨k, hk⟩ := t.program.exists_handleOf?_define category r.fullName r.size .replace
        (by omega)
      constructor
      · rw [fatal?_defineOperation, ht.handle?_eq, hk]
      · have hprogram : (t.attempt (defineOperation category r)).2.program =
            t.program.define category r.fullName r.size .replace := by
          rw [ht.attempt_program]
          rfl
        have hsize := t.program.size_define_le category r.fullName r.size .replace
        apply ih (ht.attempt _)
        rw [hprogram]
        omega

end

variable {c : Catalog}

theorem register_of_room {category : String} {ws : Workspace} (hopen : ws.target.IsOpen)
    (hroom : ws.program.structs.size + c.size ≤ Program.structBound) :
    ∃ h ws', register c category ws = (.ok h, ws') := by
  rw [← Catalog.length_toList c] at hroom
  exact register_of_passes (defineOperations_pass_of_room hopen hroom)

theorem importOperations_pass_of_room (config : ImportConfig) {t : Target} (ht : t.IsOpen)
    (hroom : t.program.structs.size + c.size ≤ Program.structBound) :
    t.Passes (importOperations config c t) := by
  unfold importOperations structureOperations registrationOperations
  rw [Target.passes_append_iff, Target.passes_append_iff, Target.passes_append_iff]
  refine ⟨⟨⟨labelOperations_pass config c t, ?_⟩, ?_⟩, signatureOperations_pass _ _ _ _⟩
  · -- Labels take no room.
    have hstructs : (t.run (labelOperations config c)).program.structs = t.program.structs :=
      (Target.run_agreeOutside (fun _ => labelOperations_part) t).structs nofun
    apply defineOperations_pass_of_room (ht.run _)
    rw [hstructs, Catalog.length_toList]
    exact hroom
  · exact rebuildOperations_pass (ht.run _) _ _ _

/-! ## Imports -/

theorem importDump_of_room {config : ImportConfig} {source : ChunkSource} {ws : Workspace}
    (hload : (load source config.chunkSize).result = .ok c) (hopen : ws.target.IsOpen)
    (hroom : ws.program.structs.size + c.size ≤ Program.structBound) :
    ∃ session, (importDump config source ws).result = .ok session := by
  obtain ⟨hplay, -⟩ := importDump_play hload ws
  rw [Target.play_of_passes (importOperations_pass_of_room config hopen hroom)] at hplay
  cases hresult : (importDump config source ws).result with
  | ok session => exact ⟨session, rfl⟩
  | error e =>
    rw [hresult] at hplay
    cases hplay

end TypeRecovery
