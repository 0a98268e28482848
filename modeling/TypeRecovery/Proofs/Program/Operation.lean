import TypeRecovery.Program.Target

/-!
# Operations on a program

When an operation succeeds, and what it then makes of the program.
-/

namespace TypeRecovery

namespace Program

variable {p p' : Program}

theorem label_eq_ok_iff {address : UInt64} {name : String} :
    p.label address name = .ok p' ↔
      p.acceptsLabel address = true ∧
        p' = { p with
          labels := p.labels.insert address
            (if name ∈ p.labelsAt address then p.labelsAt address
              else p.labelsAt address ++ [name]) } := by
  unfold label
  split
  · rename_i h
    simp only [Except.ok.injEq, h, true_and]
    exact eq_comm
  · rename_i h
    simp [h]

theorem rebuild_eq_ok_iff {k : StructHandle} {members : List Member} :
    p.rebuild k members = .ok p' ↔
      k.index < p.structs.size ∧
        p' = { p with
          structs := p.structs.modify k.index fun s => { s with members := members } } := by
  unfold rebuild
  split
  · rename_i h
    simp only [Except.ok.injEq, h, true_and]
    exact eq_comm
  · rename_i h
    simp [h]

theorem createFunction_eq_ok_iff {address : UInt64} {name : String} :
    p.createFunction address name = .ok p' ↔
      p.acceptsFunction address = true ∧
        p' = { p with functions := p.functions.insert address ⟨address, name, none⟩ } := by
  unfold createFunction
  split
  · rename_i h
    simp only [Except.ok.injEq, h, true_and]
    exact eq_comm
  · rename_i h
    simp [h]

theorem renameFunction_eq_ok_iff {address : UInt64} {name : String} :
    p.renameFunction address name = .ok p' ↔
      ∃ f, p.functions.find? address = some f ∧
        p' = { p with functions := p.functions.insert address { f with name := name } } := by
  unfold renameFunction function?
  cases p.functions.find? address with
  | none => simp
  | some f => simp only [Except.ok.injEq, Option.some.injEq, exists_eq_left', eq_comm]

theorem applySignature_eq_ok_iff {address : UInt64} {signature : Signature} :
    p.applySignature address signature = .ok p' ↔
      ∃ f, p.functions.find? address = some f ∧
        p' = { p with
          functions := p.functions.insert address { f with signature := some signature } } := by
  unfold applySignature function?
  cases p.functions.find? address with
  | none => simp
  | some f => simp only [Except.ok.injEq, Option.some.injEq, exists_eq_left', eq_comm]

theorem mapRegion_eq_ok_iff {name : String} {base : UInt64} {data : ByteArray}
    {permissions : Permissions} :
    p.mapRegion name base data permissions = .ok p' ↔
      data.size ≠ 0 ∧ ¬maxAddress < base.toNat + data.size ∧
        ¬p.regions.any (·.intersects base data.size) = true ∧
        p' = { p with regions := p.regions.push ⟨name, base, data, permissions⟩ } := by
  unfold mapRegion
  split
  · rename_i h
    simp [h]
  · rename_i h
    split
    · rename_i h'
      simp [h']
    · rename_i h'
      split
      · rename_i h''
        simp only [reduceCtorEq, false_iff, not_and]
        intro _ _ hno
        exact absurd h'' hno
      · rename_i h''
        refine ⟨fun heq => ⟨h, h', h'', (Except.ok.inj heq).symm⟩, fun hp => ?_⟩
        rw [hp.2.2.2]

end Program

end TypeRecovery
