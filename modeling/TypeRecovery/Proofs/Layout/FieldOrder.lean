import Mathlib.Data.List.Nodup
import Mathlib.Data.List.Perm.Basic
import TypeRecovery.Proofs.Layout.Embedding
import TypeRecovery.Proofs.Layout.Revision

/-!
# The order of fields

Where a record lists its fields makes no difference to layouts, as long as no two fields that take
bytes are declared at one offset. Sorting then has only one outcome, and a field that takes no bytes
leaves no trace.
-/

namespace TypeRecovery

/-! ## One order only -/

/-- Candidates that take no bytes might as well not be there. -/
theorem place_filter (typeName : String) (cursor : Nat) (cs : List Candidate) :
    place typeName cursor (cs.filter Candidate.takesBytes) = place typeName cursor cs := by
  fun_induction place typeName cursor cs with
  | case1 cursor => rfl
  | case2 cursor x rest h ih =>
    rw [Candidate.filter_takesBytes_cons_of_eq_zero h, ih]
  | case3 cursor x rest h hx p ih =>
    rw [Candidate.filter_takesBytes_cons_of_ne_zero h, place, if_neg h, if_pos hx, ih]
  | case4 cursor x rest h hx start p ih =>
    rw [Candidate.filter_takesBytes_cons_of_ne_zero h, place, if_neg h, if_neg hx]
    simp only
    rw [ih]

theorem StablySorted.eq_of_perm {cs cs' order order' : List Candidate} (h : StablySorted cs order)
    (h' : StablySorted cs' order') (hperm : cs'.Perm cs)
    (hdistinct : (cs.map Candidate.offset).Nodup) : order' = order := by
  have hanti : ∀ a b : Candidate, a ∈ order' → b ∈ order → a.offset ≤ b.offset →
      b.offset ≤ a.offset → a = b := by
    intro a b ha hb hab hba
    have ha' : a ∈ cs := hperm.mem_iff.1 (h'.perm.mem_iff.1 ha)
    have hb' : b ∈ cs := h.perm.mem_iff.1 hb
    exact List.inj_on_of_nodup_map hdistinct ha' hb' (by omega)
  exact List.Perm.eq_of_pairwise hanti h'.ascending h.ascending
    (h'.perm.trans (hperm.trans h.perm.symm))

theorem place_sortCandidates_of_perm {cs cs' : List Candidate}
    (hperm : (cs'.filter Candidate.takesBytes).Perm (cs.filter Candidate.takesBytes))
    (hdistinct : ((cs.filter Candidate.takesBytes).map Candidate.offset).Nodup)
    (typeName : String) (cursor : Nat) :
    place typeName cursor (sortCandidates cs') = place typeName cursor (sortCandidates cs) := by
  have hsorted := (sortCandidates_stable cs).filter Candidate.takesBytes
  have hsorted' := (sortCandidates_stable cs').filter Candidate.takesBytes
  rw [← place_filter, hsorted.eq_of_perm hsorted' hperm hdistinct, place_filter]

/-! ## Offsets of candidates -/

variable {c : Catalog}

/-- A slot lies in front of every field, so that only fields can be at one offset. -/
theorem sizedCandidates_offsets_nodup {h : Handles c} {i : c.Index}
    (hdistinct : ((storedFields h i).map FieldRecord.offset).Nodup) :
    ((sizedCandidates h i).map Candidate.offset).Nodup := by
  rw [sizedCandidates_eq, List.map_append, List.nodup_append]
  refine ⟨?_, ?_, ?_⟩
  · unfold headerSlots
    split <;> simp
  · have hinjective : Function.Injective fun o : UInt32 =>
        (o.toNat : Int) + (c.record i).headerLength := by
      intro a b hab
      simp only at hab
      exact UInt32.toNat_inj.1 (by omega)
    have hfields := hdistinct.map hinjective
    rw [List.map_map] at hfields ⊢
    exact hfields
  · intro a ha b hb heq
    obtain ⟨x, hx, rfl⟩ := List.mem_map.1 ha
    obtain ⟨y, hy, rfl⟩ := List.mem_map.1 hb
    obtain ⟨f, -, rfl⟩ := List.mem_map.1 hy
    have := mem_headerSlots hx
    simp only [fieldCandidate] at heq
    omega

/-! ## Listed in another order -/

namespace Catalog

/-- The catalog in which records list the given fields. -/
@[reducible] def withFields (c : Catalog) (fields : c.Index → List (FieldRecord c.Index)) :
    Catalog :=
  c.revise fields fun i => (c.record i).element

end Catalog

/-- The handles of the types, whatever their fields. -/
def Handles.withFields (h : Handles c) (fields : c.Index → List (FieldRecord c.Index)) :
    Handles (c.withFields fields) :=
  h.revise fields fun i => (c.record i).element

theorem body_withFields {fields : c.Index → List (FieldRecord c.Index)}
    (hperm : ∀ i, (fields i).Perm (c.record i).fields) {h : Handles c} {i : c.Index}
    (hdistinct : ((storedFields h i).map FieldRecord.offset).Nodup) :
    body (h.withFields fields) i = body h i := by
  have hlisted : ((c.baseChain i).flatMap fields).Perm (inheritedFields c i) :=
    List.Perm.flatMap_left _ fun j _ => hperm j
  have hcandidates := (hlisted.map (fieldCandidate h (c.record i).headerLength)).append_left
    (headerSlots (c.record i).headerLength)
  have hoffsets := sizedCandidates_offsets_nodup hdistinct
  rw [← filter_candidates] at hoffsets
  unfold Handles.withFields
  rw [body_revise, place_sortCandidates_of_perm (hcandidates.filter _) hoffsets]
  rfl

/-- Records may list their fields in any order. Types are registered as before, and the layout of a
type is the same if no two fields of the type and its bases that take bytes are declared at one
offset. -/
theorem layout_any_field_order (fields : c.Index → List (FieldRecord c.Index))
    (hperm : ∀ i, (fields i).Perm (c.record i).fields) :
    (∀ category ws, register (c.withFields fields) category ws =
      ((register c category ws).1.map fun h => h.withFields fields,
        (register c category ws).2)) ∧
    ∀ (h : Handles c) (sampleLength : UInt32) (i : c.Index),
      ((storedFields h i).map FieldRecord.offset).Nodup →
        layout (h.withFields fields) sampleLength i = layout h sampleLength i := by
  refine ⟨fun category ws => register_revise _ _ category ws, fun h sampleLength i hdistinct => ?_⟩
  have hbody := body_withFields hperm hdistinct
  unfold Handles.withFields at hbody ⊢
  rw [layout_revise, layout_eq, hbody]

/-- A type with two fields, one of which takes no bytes, and a type derived from it with a field that
reaches into the inherited one. -/
def crossedCatalog : Catalog where
  size := 4
  records :=
    #v[⟨0, "Number", 0, true, 4, 4, 18, false, false, none, none, [], []⟩,
      ⟨1, "Nothing", 0, true, 0, 0, 31, false, false, none, none, [], []⟩,
      ⟨2, "Base", 0, false, 24, 8, 28, false, false, none, none,
        [⟨"mark", 1, 4⟩, ⟨"id", 0, 4⟩], []⟩,
      ⟨3, "Derived", 0, false, 32, 16, 28, false, false, some 2, none,
        [⟨"speed", 0, 8⟩, ⟨"next", 3, 0⟩], []⟩]
  placed := by decide
  grounded := by decide

def crossedHandles : Handles crossedCatalog :=
  ⟨#v[.scalar .i32, .scalar .void, .struct ⟨0⟩, .struct ⟨1⟩]⟩

def crossedDerived : crossedCatalog.Index := ⟨3, by decide⟩

def crossedFields (i : crossedCatalog.Index) : List (FieldRecord crossedCatalog.Index) :=
  (crossedCatalog.record i).fields.reverse

theorem crossed_any_field_order :
    ((∀ i, (crossedFields i).Perm (crossedCatalog.record i).fields) ∧
      ((storedFields crossedHandles crossedDerived).map FieldRecord.offset).Nodup) ∧
    crossedFields crossedDerived ≠ (crossedCatalog.record crossedDerived).fields ∧
    layout (crossedHandles.withFields crossedFields) 42 crossedDerived =
      layout crossedHandles 42 crossedDerived := by
  have hperm : ∀ i, (crossedFields i).Perm (crossedCatalog.record i).fields :=
    fun i => List.reverse_perm _
  have hdistinct : ((storedFields crossedHandles crossedDerived).map FieldRecord.offset).Nodup := by
    decide
  exact ⟨⟨hperm, hdistinct⟩, by decide, (layout_any_field_order _ hperm).2 _ _ _ hdistinct⟩

end TypeRecovery
