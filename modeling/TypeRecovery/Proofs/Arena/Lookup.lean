import TypeRecovery.Layout.Basic
import TypeRecovery.Proofs.Catalog.Accepted
import TypeRecovery.Signature.Basic

/-!
# Arenas

The types of an import as two plain lists, in which records refer to types by numbers that may lead
nowhere. A layout or a signature has no result if a look-up on the way has none. Those of a catalog
always have one, and it is the one that the catalog gives.
-/

namespace TypeRecovery

structure Arena where
  records : List (TypeRecord Nat)
  representations : List Representation

namespace Arena

/-! ## Looking up -/

section

variable (a : Arena)

def record? (i : Nat) : Option (TypeRecord Nat) := a.records[i]?

def representation? (i : Nat) : Option Representation := a.representations[i]?

/-- A type and its bases. There is no result either if the chain takes more steps than allowed. -/
def baseChain? : (steps : Nat) → (i : Nat) → Option (List (TypeRecord Nat))
  | 0, _ => none
  | steps + 1, i => do
    let r ← a.record? i
    match r.base with
    | none => some [r]
    | some b => (baseChain? steps b).map (r :: ·)

def dataType? (i : Nat) : Option DataType := (a.representation? i).map Representation.dataType

def storage? (i : Nat) : Option Storage := do
  let r ← a.record? i
  let t ← a.dataType? i
  some (if r.isValueType then ⟨t, r.size.toNat⟩ else ⟨.pointer t, pointerSize⟩)

/-! ## Layouts -/

def fieldCandidate? (header : Int) (f : FieldRecord Nat) : Option Candidate := do
  let s ← a.storage? f.type
  some ⟨f.offset.toNat + header, f.name, s⟩

def inheritedFields? (r : TypeRecord Nat) : Option (List (FieldRecord Nat)) := do
  let chain ← a.baseChain? a.records.length r.index
  some (chain.flatMap TypeRecord.fields)

def candidates? (r : TypeRecord Nat) : Option (List Candidate) := do
  let fields ← a.inheritedFields? r
  let cs ← fields.mapM (a.fieldCandidate? r.headerLength)
  some (headerSlots r.headerLength ++ cs)

def layout? (sampleLength : UInt32) (i : Nat) : Option Layout := do
  let r ← a.record? i
  let cs ← a.candidates? r
  let p := pad r.fullName r.size (place r.fullName 0 (sortCandidates cs))
  match r.element with
  | none => some ⟨p.members, p.stop, p.warnings⟩
  | some e => do
    let s ← a.storage? e
    some ⟨p.members ++ trailer p.stop s sampleLength.toNat, p.stop, p.warnings⟩

/-! ## Signatures -/

def passedAs? (i : Nat) : Option DataType := do
  let t ← a.dataType? i
  let r ← a.record? i
  some (if r.isValueType then t else .pointer t)

def returnPart? (i : Nat) : Option (DataType × List Parameter) := do
  let r ← a.record? i
  if r.isValueType && maxDirectReturn < r.size.toNat then do
    let t ← a.dataType? i
    some (.scalar .void, [⟨returnSlotName, .pointer t⟩])
  else do
    let t ← a.passedAs? i
    some (t, [])

def thisPart? (owner : TypeRecord Nat) (m : MethodRecord Nat) : Option (List Parameter) :=
  if m.isStatic then some []
  else do
    let t ← a.dataType? owner.index
    some [⟨thisName, .pointer t⟩]

def declaredParameter? (p : ParamRecord Nat) : Option Parameter := do
  let t ← a.passedAs? p.type
  some ⟨p.name, if p.isByRef then .pointer t else t⟩

def signature? (owner : TypeRecord Nat) (m : MethodRecord Nat) : Option Signature := do
  let (result, slot) ← a.returnPart? m.result
  let this ← a.thisPart? owner m
  let declared ← m.params.mapM a.declaredParameter?
  some ⟨result, slot ++ ⟨contextName, .voidPointer⟩ :: (this ++ declared)⟩

end

/-! ## The arena of a catalog -/

variable {c : Catalog}

/-- The arena holds the records of a catalog and one representation for each. -/
structure Holds (a : Arena) (h : Handles c) : Prop where
  records : a.records = c.toList.map (TypeRecord.map Fin.val)
  representations : a.representations = h.representations.toList

theorem index_map_val (c : Catalog) (i : c.Index) : ((c.record i).map Fin.val).index = i.val :=
  congrArg Fin.val (c.index_record i)

theorem mapM_map_eq_some {α β γ : Type} {f : β → Option γ} {g : α → β} {k : α → γ} {l : List α}
    (hf : ∀ x, f (g x) = some (k x)) : (l.map g).mapM f = some (l.map k) := by
  induction l with
  | nil => rfl
  | cons x l ih => simp [hf, ih]

section

variable {a : Arena} {h : Handles c} (ha : a.Holds h) (i : c.Index)

include ha

theorem Holds.length_eq : a.records.length = c.size := by
  rw [ha.records, List.length_map, Catalog.length_toList]

theorem Holds.record? : a.record? i.val = some ((c.record i).map Fin.val) := by
  unfold Arena.record?
  rw [ha.records, Catalog.toList_eq]
  simp

theorem Holds.representation? : a.representation? i.val = some (h.get i) := by
  unfold Arena.representation?
  rw [ha.representations]
  simp [Handles.get, Vector.get]

theorem Holds.baseChain? {steps : Nat} (hends : chainEnds c.base? steps i = true) :
    a.baseChain? steps i.val =
      some ((chain c.base? steps i).map fun j => (c.record j).map Fin.val) := by
  induction steps generalizing i with
  | zero => simp [chainEnds] at hends
  | succ steps ih =>
    cases hbase : c.base? i with
    | none =>
      rw [Arena.baseChain?, ha.record?, chain_of_none hbase]
      have : ((c.record i).map Fin.val).base = none := congrArg (Option.map Fin.val) hbase
      simp [this]
    | some b =>
      rw [chainEnds_of_some hbase] at hends
      rw [Arena.baseChain?, ha.record?, chain_of_some hbase]
      have : ((c.record i).map Fin.val).base = some b.val := congrArg (Option.map Fin.val) hbase
      simp [this, ih b hends]

theorem Holds.dataType? : a.dataType? i.val = some (h.dataType i) := by
  rw [Arena.dataType?, ha.representation?]
  rfl

theorem Holds.storage? : a.storage? i.val = some (h.storage i) := by
  rw [Arena.storage?, ha.record?, ha.dataType?]
  rfl

theorem Holds.fieldCandidate? (header : Int) (f : FieldRecord c.Index) :
    a.fieldCandidate? header (f.map Fin.val) = some (fieldCandidate h header f) := by
  rw [Arena.fieldCandidate?, show (f.map Fin.val).type = f.type.val from rfl, ha.storage?]
  rfl

theorem Holds.inheritedFields? :
    a.inheritedFields? ((c.record i).map Fin.val) =
      some ((inheritedFields c i).map (FieldRecord.map Fin.val)) := by
  rw [Arena.inheritedFields?, index_map_val, ha.length_eq, ha.baseChain? i (c.grounded i)]
  unfold inheritedFields
  rw [List.map_flatMap]
  exact congrArg some (List.flatMap_map _ _ _)

theorem Holds.candidates? :
    a.candidates? ((c.record i).map Fin.val) = some (candidates h i) := by
  rw [Arena.candidates?, ha.inheritedFields?]
  simp only [Option.bind_eq_bind, Option.bind_some, mapM_map_eq_some (ha.fieldCandidate? _)]
  rfl

theorem Holds.layout? (sampleLength : UInt32) :
    a.layout? sampleLength i.val = some (layout h sampleLength i) := by
  rw [Arena.layout?, ha.record?]
  simp only [Option.bind_eq_bind, Option.bind_some, ha.candidates?]
  unfold layout
  cases helement : (c.record i).element with
  | none =>
    have : ((c.record i).map Fin.val).element = none := congrArg (Option.map Fin.val) helement
    simp only [this, List.append_nil]
    rfl
  | some e =>
    have : ((c.record i).map Fin.val).element = some e.val := congrArg (Option.map Fin.val) helement
    simp only [this, ha.storage?]
    rfl

/-- An array container whose elements are of no type. -/
example : (⟨[.ofDescriptor 0 { element := some 1 }], [.scalar .void]⟩ : Arena).layout? 42 0 = none :=
  rfl

theorem Holds.passedAs? : a.passedAs? i.val = some (passedAs h i) := by
  rw [Arena.passedAs?, ha.dataType?, ha.record?]
  rfl

theorem Holds.returnPart? : a.returnPart? i.val = some (returnPart h i) := by
  rw [Arena.returnPart?, ha.record?]
  simp only [Option.bind_eq_bind, Option.bind_some, ha.dataType?, ha.passedAs?]
  unfold returnPart returnsThroughSlot
  exact (apply_ite some _ _ _).symm

theorem Holds.thisPart? (m : MethodRecord c.Index) :
    a.thisPart? ((c.record i).map Fin.val) (m.map Fin.val) = some (thisPart h i m) := by
  rw [Arena.thisPart?, index_map_val, ha.dataType?]
  exact (apply_ite some _ _ _).symm

theorem Holds.declaredParameter? (p : ParamRecord c.Index) :
    a.declaredParameter? (p.map Fin.val) = some (declaredParameter h p) := by
  rw [Arena.declaredParameter?, show (p.map Fin.val).type = p.type.val from rfl, ha.passedAs?]
  rfl

theorem Holds.signature? (m : MethodRecord c.Index) :
    a.signature? ((c.record i).map Fin.val) (m.map Fin.val) = some (signatureOf h i m) := by
  have hparams : (m.map Fin.val).params = m.params.map (ParamRecord.map Fin.val) := rfl
  rw [Arena.signature?, show (m.map Fin.val).result = m.result.val from rfl, ha.returnPart?,
    ha.thisPart?, hparams, mapM_map_eq_some ha.declaredParameter?]
  rfl

end

end Arena

end TypeRecovery
