import TypeRecovery.Layout.Basic
import TypeRecovery.Proofs.Registration

/-!
# Revised catalogs

The types of a catalog may be given other fields and other elements. Places and bases stay, so that
this is a catalog again. Its types are registered and stored as before, and a layout changes with the
fields of the type and its bases alone.
-/

namespace TypeRecovery

/-! ## Revision -/

namespace Catalog

variable (c : Catalog) (fields : c.Index → List (FieldRecord c.Index))
  (elements : c.Index → Option c.Index)

def revisedRecord (i : c.Index) : c.Record :=
  { c.record i with fields := fields i, element := elements i }

/-- The catalog with the given fields and elements. It is reducible so that an index of the one is seen
to be an index of the other. -/
@[reducible] def revise : Catalog where
  size := c.size
  records := .ofFn (c.revisedRecord fields elements)
  placed i := by
    rw [Fin.getElem_fin, Vector.getElem_ofFn]
    exact c.placed i
  grounded i := by
    simp only [Fin.getElem_fin, Vector.getElem_ofFn]
    exact c.grounded i

theorem record_revise (i : c.Index) :
    (c.revise fields elements).record i = c.revisedRecord fields elements i := by
  unfold record
  rw [Fin.getElem_fin, Vector.getElem_ofFn]

theorem baseChain_revise (i : c.Index) :
    (c.revise fields elements).baseChain i = c.baseChain i := by
  have hbase : (c.revise fields elements).base? = c.base? := by
    funext j
    unfold base?
    rw [record_revise]
    rfl
  unfold baseChain
  rw [hbase]

theorem toList_revise_request :
    (c.revise fields elements).toList.map TypeRecord.request =
      c.toList.map TypeRecord.request := by
  apply List.ext_getElem
  · simp [toList]
  · intro i hi hi'
    simp [toList, revisedRecord, record, TypeRecord.request]

end Catalog

variable {c : Catalog}

def Handles.revise (h : Handles c) (fields : c.Index → List (FieldRecord c.Index))
    (elements : c.Index → Option c.Index) : Handles (c.revise fields elements) :=
  ⟨h.representations⟩

section

variable (h : Handles c) (fields : c.Index → List (FieldRecord c.Index))
  (elements : c.Index → Option c.Index)

theorem register_revise (category : String) (ws : Workspace) :
    register (c.revise fields elements) category ws =
      ((register c category ws).1.map fun h => h.revise fields elements,
        (register c category ws).2) := by
  unfold register
  obtain ⟨e, ws', hrevised, hplain⟩ | ⟨xs, _, _, ws', hrevised, hplain⟩ :=
    representAll_congr (c.toList_revise_request fields elements) category ws
  · rw [hrevised, hplain]
    rfl
  · rw [hrevised, hplain]
    rfl

theorem storage_revise (i : c.Index) : (h.revise fields elements).storage i = h.storage i := by
  unfold Handles.storage
  rw [c.record_revise]
  rfl

theorem inheritedFields_revise (i : c.Index) :
    inheritedFields (c.revise fields elements) i = (c.baseChain i).flatMap fields := by
  unfold inheritedFields
  simp only [c.record_revise, c.baseChain_revise]
  rfl

theorem body_revise (i : c.Index) :
    body (h.revise fields elements) i =
      pad (c.record i).fullName (c.record i).size
        (place (c.record i).fullName 0
          (sortCandidates
            (headerSlots (c.record i).headerLength ++
              ((c.baseChain i).flatMap fields).map
                (fieldCandidate h (c.record i).headerLength)))) := by
  unfold body candidates fieldCandidate
  simp only [inheritedFields_revise, c.record_revise, storage_revise]
  rfl

end

/-! ## Trailers -/

/-- The layout with a body in front, and with a trailer if there are elements. -/
def Placement.layout (p : Placement) (element : Option Storage) (sampleLength : UInt32) : Layout :=
  ⟨p.members ++ element.elim [] fun s => trailer p.stop s sampleLength.toNat, p.stop, p.warnings⟩

theorem layout_eq (h : Handles c) (sampleLength : UInt32) (i : c.Index) :
    layout h sampleLength i =
      (body h i).layout ((c.record i).element.map h.storage) sampleLength := by
  unfold layout Placement.layout
  cases (c.record i).element <;> rfl

theorem layout_revise (h : Handles c) (fields : c.Index → List (FieldRecord c.Index))
    (elements : c.Index → Option c.Index) (sampleLength : UInt32) (i : c.Index) :
    layout (h.revise fields elements) sampleLength i =
      (body (h.revise fields elements) i).layout ((elements i).map h.storage) sampleLength := by
  have hstorage : (h.revise fields elements).storage = h.storage :=
    funext (storage_revise h fields elements)
  rw [layout_eq, c.record_revise, hstorage]
  rfl

end TypeRecovery
