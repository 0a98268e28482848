import TypeRecovery.Proofs.Layout.Origin
import TypeRecovery.Signature.Basic
import Mathlib.Data.Nat.Bitwise

/-!
# The calling convention

A value is passed as it is stored in a field, with one more pointer around it if it is passed by
reference. Only one bit of a method's flags and one bit of a parameter's modifiers count.
-/

namespace TypeRecovery

/-! ## Bits -/

def staticBit : Nat := 4

def byRefBit : Nat := 0

theorem Flag.isIn_eq_testBit {flag : Flag} {k : Nat} (h : flag.mask.toNat = 1 <<< k)
    (word : UInt32) : flag.isIn word = word.toNat.testBit k := by
  unfold isIn
  rw [Bool.eq_iff_iff, beq_iff_eq, ← UInt32.toNat_inj, UInt32.toNat_and, h, Nat.one_shiftLeft,
    Nat.and_two_pow]
  cases word.toNat.testBit k with
  | true => simp
  | false => simp [(Nat.two_pow_pos k).ne]

section

variable {ρ : Type}

theorem MethodRecord.isStatic_eq (m : MethodRecord ρ) :
    m.isStatic = m.flags.toNat.testBit staticBit :=
  Flag.isIn_eq_testBit rfl m.flags

theorem ParamRecord.isByRef_eq (p : ParamRecord ρ) :
    p.isByRef = p.modifiers.toNat.testBit byRefBit :=
  Flag.isIn_eq_testBit rfl p.modifiers

/-- Two parameters that a caller cannot tell apart. -/
structure ParamRecord.Alike (p p' : ParamRecord ρ) : Prop where
  name : p'.name = p.name
  type : p'.type = p.type
  byRef : p'.modifiers.toNat.testBit byRefBit = p.modifiers.toNat.testBit byRefBit

/-- Two methods that are called alike, whatever their names, addresses and other bits are. -/
structure MethodRecord.Alike (m m' : MethodRecord ρ) : Prop where
  result : m'.result = m.result
  static : m'.flags.toNat.testBit staticBit = m.flags.toNat.testBit staticBit
  params : List.Forall₂ ParamRecord.Alike m.params m'.params

end

/-! ## Values -/

variable {c : Catalog} (h : Handles c)

theorem passedAs_eq_storage (i : c.Index) : passedAs h i = (h.storage i).type := by
  unfold passedAs Handles.storage
  split <;> rfl

theorem declaredParameter_congr {p p' : ParamRecord c.Index} (hp : p.Alike p') :
    declaredParameter h p' = declaredParameter h p := by
  unfold declaredParameter
  rw [p'.isByRef_eq, p.isByRef_eq, hp.name, hp.type, hp.byRef]

theorem map_declaredParameter_congr {ps ps' : List (ParamRecord c.Index)}
    (hps : List.Forall₂ ParamRecord.Alike ps ps') :
    ps'.map (declaredParameter h) = ps.map (declaredParameter h) := by
  induction hps with
  | nil => rfl
  | cons hp _ ih => rw [List.map_cons, List.map_cons, declaredParameter_congr h hp, ih]

theorem thisPart_congr {owner : c.Index} {m m' : MethodRecord c.Index} (hm : m.Alike m') :
    thisPart h owner m' = thisPart h owner m := by
  unfold thisPart
  rw [m'.isStatic_eq, m.isStatic_eq, hm.static]

theorem signatureOf_congr (owner : c.Index) {m m' : MethodRecord c.Index} (hm : m.Alike m') :
    signatureOf h owner m' = signatureOf h owner m := by
  unfold signatureOf
  rw [hm.result, thisPart_congr h hm, map_declaredParameter_congr h hm.params]

/-! ## Signatures -/

/-- How a method of a type is called. A value type of more than eight bytes comes back through a
slot. -/
structure Signature.FollowsConvention (s : Signature) (owner : c.Index) (m : MethodRecord c.Index) :
    Prop where
  result : s.result =
    if (c.record m.result).isValueType = true ∧ 8 < (c.record m.result).size.toNat then
      .scalar .void
    else (h.storage m.result).type
  parameters : s.parameters =
    (if (c.record m.result).isValueType = true ∧ 8 < (c.record m.result).size.toNat then
      [⟨"$ret", .pointer (h.dataType m.result)⟩]
    else [])
    ++ [⟨"$ctx", .pointer (.scalar .void)⟩]
    ++ (if m.flags.toNat.testBit staticBit then [] else [⟨"$this", .pointer (h.dataType owner)⟩])
    ++ m.params.map fun p =>
        ⟨p.name,
          if p.modifiers.toNat.testBit byRefBit then .pointer (h.storage p.type).type
          else (h.storage p.type).type⟩
  /-- What is stored is the value of a value type and a pointer to any other. -/
  storage : ∀ i : c.Index, (h.storage i).type =
    if (c.record i).isValueType then h.dataType i else .pointer (h.dataType i)
  fields : ∀ i, ∀ f ∈ inheritedFields c i,
    (fieldCandidate h (c.record i).headerLength f).member.type = (h.storage f.type).type
  otherBits : ∀ m', m.Alike m' → signatureOf h owner m' = s

theorem returnPart_eq (i : c.Index) :
    returnPart h i =
      if (c.record i).isValueType = true ∧ 8 < (c.record i).size.toNat then
        (.scalar .void, [⟨"$ret", .pointer (h.dataType i)⟩])
      else ((h.storage i).type, []) := by
  unfold returnPart returnsThroughSlot
  rw [passedAs_eq_storage]
  simp only [Bool.and_eq_true, decide_eq_true_eq]
  rfl

theorem thisPart_eq (owner : c.Index) (m : MethodRecord c.Index) :
    thisPart h owner m =
      if m.flags.toNat.testBit staticBit then [] else [⟨"$this", .pointer (h.dataType owner)⟩] := by
  unfold thisPart
  rw [m.isStatic_eq]
  rfl

theorem declaredParameter_eq (p : ParamRecord c.Index) :
    declaredParameter h p =
      ⟨p.name,
        if p.modifiers.toNat.testBit byRefBit then .pointer (h.storage p.type).type
        else (h.storage p.type).type⟩ := by
  unfold declaredParameter
  rw [p.isByRef_eq, passedAs_eq_storage]

theorem signatureOf_eq (owner : c.Index) (m : MethodRecord c.Index) :
    signatureOf h owner m =
      ⟨(returnPart h m.result).1,
        (returnPart h m.result).2 ++ ⟨contextName, .voidPointer⟩ ::
          (thisPart h owner m ++ m.params.map (declaredParameter h))⟩ :=
  rfl

/-- A method is called with the slot of its result, the context, its instance and its declared
parameters, as far as it has them, and each value is passed as it is stored. -/
theorem signatureOf_followsConvention (owner : c.Index) (m : MethodRecord c.Index) :
    (signatureOf h owner m).FollowsConvention h owner m where
  result := by
    rw [signatureOf_eq, returnPart_eq]
    split <;> rfl
  parameters := by
    rw [signatureOf_eq, returnPart_eq, thisPart_eq,
      List.map_congr_left fun p _ => declaredParameter_eq h p]
    split <;> simp [contextName, DataType.voidPointer]
  storage i := by
    unfold Handles.storage
    split <;> rfl
  fields i f _ := rfl
  otherBits _ hm := signatureOf_congr h owner hm

end TypeRecovery
