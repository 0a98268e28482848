import TypeRecovery.Proofs.Catalog.Renumbering
import TypeRecovery.Layout.Basic
import TypeRecovery.Signature.Basic

/-!
# Layouts under other numbers and handles

Types may have other numbers and structures other handles. A layout and a signature then have the new
handles in place of the old ones and are as they were in everything else.
-/

namespace TypeRecovery

/-! ## Other handles -/

section

variable (σ : StructHandle → StructHandle)

def DataType.rename : DataType → DataType
  | .undefined => .undefined
  | .scalar kind => .scalar kind
  | .struct k => .struct (σ k)
  | .pointer target => .pointer target.rename
  | .array element count elementLength => .array element.rename count elementLength

def Representation.rename : Representation → Representation
  | .scalar kind => .scalar kind
  | .struct k => .struct (σ k)

def Storage.rename (s : Storage) : Storage := { s with type := s.type.rename σ }

def Candidate.rename (x : Candidate) : Candidate := { x with storage := x.storage.rename σ }

def Member.rename (m : Member) : Member := { m with type := m.type.rename σ }

def Placement.rename (p : Placement) : Placement :=
  { p with members := p.members.map (Member.rename σ) }

def Layout.rename (l : Layout) : Layout := { l with members := l.members.map (Member.rename σ) }

def Parameter.rename (x : Parameter) : Parameter := { x with type := x.type.rename σ }

def Signature.rename (s : Signature) : Signature :=
  ⟨s.result.rename σ, s.parameters.map (Parameter.rename σ)⟩

theorem Representation.dataType_rename (x : Representation) :
    (x.rename σ).dataType = x.dataType.rename σ := by
  cases x <;> rfl

/-! ## Placing -/

theorem headerSlots_rename (header : Int) :
    (headerSlots header).map (Candidate.rename σ) = headerSlots header := by
  unfold headerSlots
  split <;> rfl

theorem sortCandidates_rename (cs : List Candidate) :
    sortCandidates (cs.map (Candidate.rename σ)) = (sortCandidates cs).map (Candidate.rename σ) := by
  symm
  apply List.map_mergeSort
  intro a _ b _
  rfl

theorem fillGap_rename (start stop : Nat) :
    (fillGap start stop).map (Member.rename σ) = fillGap start stop := by
  unfold fillGap
  split <;> rfl

theorem place_rename (typeName : String) (cursor : Nat) (cs : List Candidate) :
    place typeName cursor (cs.map (Candidate.rename σ)) = (place typeName cursor cs).rename σ := by
  fun_induction place typeName cursor cs with
  | case1 cursor => rfl
  | case2 cursor x rest h ih =>
    rw [List.map_cons, place, if_pos (show (x.rename σ).storage.length = 0 from h), ih]
  | case3 cursor x rest h hx p ih =>
    rw [List.map_cons, place, if_neg (show ¬(x.rename σ).storage.length = 0 from h),
      if_pos (show (x.rename σ).offset < cursor from hx), ih]
    rfl
  | case4 cursor x rest h hx start p ih =>
    have hrest : place typeName ((x.rename σ).offset.toNat + (x.rename σ).storage.length)
        (rest.map (Candidate.rename σ)) = p.rename σ := ih
    rw [List.map_cons, place, if_neg (show ¬(x.rename σ).storage.length = 0 from h),
      if_neg (show ¬(x.rename σ).offset < cursor from hx)]
    simp only [hrest, Placement.rename, List.map_append, List.map_cons, fillGap_rename]
    rfl

theorem pad_rename (typeName : String) (size : UInt32) (p : Placement) :
    pad typeName size (p.rename σ) = (pad typeName size p).rename σ := by
  have hstop : (p.rename σ).stop = p.stop := rfl
  unfold pad
  rw [hstop]
  split
  · rfl
  · simp only [Placement.rename, List.map_append, fillGap_rename]

theorem trailer_rename (offset : Nat) (element : Storage) (count : Nat) :
    trailer offset (element.rename σ) count =
      (trailer offset element count).map (Member.rename σ) := by
  unfold trailer
  rw [List.map_append, List.map_map]
  rfl

end

/-! ## Layouts and signatures -/

section

variable {c c' : Catalog} (e : c.Renaming c') {h : Handles c} {h' : Handles c'}
  {σ : StructHandle → StructHandle} (hget : ∀ i, h'.get (e.index i) = (h.get i).rename σ)

theorem inheritedFields_renaming (i : c.Index) :
    inheritedFields c' (e.index i) = (inheritedFields c i).map (FieldRecord.map e.index) := by
  unfold inheritedFields
  rw [e.baseChain_eq, List.flatMap_map, List.map_flatMap]
  apply List.flatMap_congr
  intro j _
  rw [e.record_eq]
  rfl

include hget

theorem dataType_renaming (i : c.Index) : h'.dataType (e.index i) = (h.dataType i).rename σ := by
  unfold Handles.dataType
  rw [hget, Representation.dataType_rename]

theorem storage_renaming (i : c.Index) : h'.storage (e.index i) = (h.storage i).rename σ := by
  unfold Handles.storage
  rw [dataType_renaming e hget, e.record_eq, TypeRecord.isValueType_map]
  split <;> rfl

theorem candidates_renaming (i : c.Index) :
    candidates h' (e.index i) = (candidates h i).map (Candidate.rename σ) := by
  have hfield : ∀ (header : Int) (f : FieldRecord c.Index),
      fieldCandidate h' header (f.map e.index) = (fieldCandidate h header f).rename σ := by
    intro header f
    unfold fieldCandidate
    rw [show (f.map e.index).type = e.index f.type from rfl, storage_renaming e hget]
    rfl
  unfold candidates
  dsimp only
  rw [inheritedFields_renaming, e.record_eq, TypeRecord.headerLength_map, List.map_append,
    headerSlots_rename, List.map_map, List.map_map]
  congr 1
  exact List.map_congr_left fun f _ => hfield _ f

theorem layout_renaming (sampleLength : UInt32) (i : c.Index) :
    layout h' sampleLength (e.index i) = (layout h sampleLength i).rename σ := by
  have hbody : body h' (e.index i) = (body h i).rename σ := by
    unfold body
    dsimp only
    rw [candidates_renaming e hget, sortCandidates_rename, place_rename, pad_rename, e.record_eq]
    rfl
  unfold layout
  rw [hbody, e.record_eq]
  cases helement : (c.record i).element with
  | none =>
    have : ((c.record i).map e.index).element = none := congrArg (Option.map e.index) helement
    simp only [this, List.append_nil]
    rfl
  | some x =>
    have : ((c.record i).map e.index).element = some (e.index x) :=
      congrArg (Option.map e.index) helement
    simp only [this, storage_renaming e hget, trailer_rename, Layout.rename, List.map_append]
    rfl

theorem passedAs_renaming (i : c.Index) : passedAs h' (e.index i) = (passedAs h i).rename σ := by
  unfold passedAs
  rw [dataType_renaming e hget, e.record_eq, TypeRecord.isValueType_map]
  split <;> rfl

theorem returnPart_renaming (i : c.Index) :
    returnPart h' (e.index i) =
      ((returnPart h i).1.rename σ, (returnPart h i).2.map (Parameter.rename σ)) := by
  have hslot : returnsThroughSlot c' (e.index i) = returnsThroughSlot c i := by
    unfold returnsThroughSlot
    rw [e.record_eq]
    rfl
  unfold returnPart
  rw [hslot, dataType_renaming e hget, passedAs_renaming e hget]
  split <;> rfl

theorem thisPart_renaming (owner : c.Index) (m : MethodRecord c.Index) :
    thisPart h' (e.index owner) (m.map e.index) =
      (thisPart h owner m).map (Parameter.rename σ) := by
  have hstatic : (m.map e.index).isStatic = m.isStatic := rfl
  unfold thisPart
  rw [dataType_renaming e hget, hstatic]
  split <;> rfl

theorem declaredParameter_renaming (x : ParamRecord c.Index) :
    declaredParameter h' (x.map e.index) = (declaredParameter h x).rename σ := by
  have hbyRef : (x.map e.index).isByRef = x.isByRef := rfl
  unfold declaredParameter
  rw [show (x.map e.index).type = e.index x.type from rfl, passedAs_renaming e hget, hbyRef]
  split <;> rfl

theorem signatureOf_renaming (owner : c.Index) (m : MethodRecord c.Index) :
    signatureOf h' (e.index owner) (m.map e.index) = (signatureOf h owner m).rename σ := by
  have hdeclared : (m.map e.index).params.map (declaredParameter h') =
      (m.params.map (declaredParameter h)).map (Parameter.rename σ) := by
    show (m.params.map (ParamRecord.map e.index)).map (declaredParameter h') = _
    rw [List.map_map, List.map_map]
    exact List.map_congr_left fun x _ => declaredParameter_renaming e hget x
  unfold signatureOf
  rw [show (m.map e.index).result = e.index m.result from rfl, returnPart_renaming e hget,
    thisPart_renaming e hget, hdeclared]
  simp only [Signature.rename, List.map_append, List.map_cons]
  rfl

end

end TypeRecovery
