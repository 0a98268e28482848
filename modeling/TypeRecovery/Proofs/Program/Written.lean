import TypeRecovery.Proofs.Program.Parts
import TypeRecovery.Proofs.Program.Structs

/-!
# Where members and signatures come from

What a program holds after operations was there before, or an operation wrote it.
-/

namespace TypeRecovery

namespace Program

/-- Every member and every signature of `p'` was in `p`, at the same place, or is in an operation. -/
structure WrittenBy (p : Program) (ops : List Operation) (p' : Program) : Prop where
  members : ∀ k s', p'.struct? k = some s' → ∀ m ∈ s'.members,
    (∃ s, p.struct? k = some s ∧ m ∈ s.members) ∨ ∃ ms, .rebuild k ms ∈ ops ∧ m ∈ ms
  signatures : ∀ address f' signature, p'.function? address = some f' →
    f'.signature = some signature →
    (∃ f, p.function? address = some f ∧ f.signature = some signature) ∨
      .applySignature address signature ∈ ops

variable {p p₁ p₂ : Program} {ops : List Operation}

theorem WrittenBy.refl (p : Program) (ops : List Operation) : p.WrittenBy ops p where
  members _ s hs _ hm := .inl ⟨s, hs, hm⟩
  signatures _ f _ hf hsignature := .inl ⟨f, hf, hsignature⟩

theorem WrittenBy.of_eq (h : p.WrittenBy ops p₁) (hstructs : p₂.structs = p₁.structs)
    (hfunctions : p₂.functions = p₁.functions) : p.WrittenBy ops p₂ := by
  obtain ⟨hmembers, hsignatures⟩ := h
  constructor
  · unfold struct? at hmembers ⊢
    rw [hstructs]
    exact hmembers
  · unfold function? at hsignatures ⊢
    rw [hfunctions]
    exact hsignatures

theorem WrittenBy.modify (h : p.WrittenBy ops p₁) {k : StructHandle} {f : Struct → Struct}
    (hf : ∀ s, ∀ m ∈ (f s).members, ∃ ms, .rebuild k ms ∈ ops ∧ m ∈ ms) :
    p.WrittenBy ops { p₁ with structs := p₁.structs.modify k.index f } := by
  refine ⟨fun k' s' hs' m hm => ?_, h.signatures⟩
  unfold struct? at hs'
  rw [Array.getElem?_modify] at hs'
  by_cases hat : k.index = k'.index
  · rw [if_pos hat] at hs'
    obtain ⟨s, -, rfl⟩ := Option.map_eq_some_iff.1 hs'
    obtain rfl : k = k' := by
      cases k
      cases k'
      exact congrArg StructHandle.mk hat
    exact .inr (hf s m hm)
  · rw [if_neg hat] at hs'
    exact h.members k' s' hs' m hm

theorem WrittenBy.define (h : p.WrittenBy ops p₁) (category name : String) (size : UInt32)
    (policy : ConflictPolicy) : p.WrittenBy ops (p₁.define category name size policy) := by
  unfold Program.define
  split
  · split
    · exact h.modify (f := fun s => { s with size := size, members := [] }) (by simp)
    · exact h
  · split
    · refine ⟨fun k s' hs' m hm => ?_, h.signatures⟩
      unfold struct? at hs'
      rw [Array.getElem?_push] at hs'
      split at hs'
      · cases hs'
        simp at hm
      · exact h.members k s' hs' m hm
    · exact h

theorem WrittenBy.insert (h : p.WrittenBy ops p₁) {address : UInt64} {f : Function}
    (hf : ∀ signature, f.signature = some signature →
      (∃ f₀, p.function? address = some f₀ ∧ f₀.signature = some signature) ∨
        .applySignature address signature ∈ ops) :
    p.WrittenBy ops { p₁ with functions := p₁.functions.insert address f } := by
  refine ⟨h.members, fun other f' signature hf' hsignature => ?_⟩
  unfold function? at hf'
  rw [AddressMap.find?_insert] at hf'
  split at hf'
  · rename_i hother
    cases hf'
    rw [hother]
    exact hf signature hsignature
  · exact h.signatures other f' signature hf' hsignature

theorem WrittenBy.perform (h : p.WrittenBy ops p₁) {op : Operation} (hop : op ∈ ops)
    (hperform : p₁.perform op = .ok p₂) : p.WrittenBy ops p₂ := by
  cases op with
  | label address name =>
    obtain ⟨-, rfl⟩ := label_eq_ok_iff.1 hperform
    exact h.of_eq rfl rfl
  | define category name size policy =>
    cases hperform
    exact h.define category name size policy
  | rebuild k members =>
    obtain ⟨-, rfl⟩ := rebuild_eq_ok_iff.1 hperform
    exact h.modify (f := fun s => { s with members }) fun s m hm => ⟨members, hop, hm⟩
  | createFunction address name =>
    obtain ⟨-, rfl⟩ := createFunction_eq_ok_iff.1 hperform
    exact h.insert nofun
  | renameFunction address name =>
    obtain ⟨f, hf, rfl⟩ := renameFunction_eq_ok_iff.1 hperform
    exact h.insert fun signature hsignature => h.signatures address f signature hf hsignature
  | applySignature address signature =>
    obtain ⟨f, -, rfl⟩ := applySignature_eq_ok_iff.1 hperform
    refine h.insert fun other hother => ?_
    cases hother
    exact .inr hop
  | mapRegion name base data permissions =>
    obtain ⟨-, -, -, rfl⟩ := mapRegion_eq_ok_iff.1 hperform
    exact h.of_eq rfl rfl

end Program

theorem Target.run_writtenBy (t : Target) (ops : List Operation) :
    t.program.WrittenBy ops (t.run ops).program :=
  run_keeps (P := t.program.WrittenBy ops) (fun _ hop _ _ h hp => h.perform hop hp) (.refl _ _)

end TypeRecovery
