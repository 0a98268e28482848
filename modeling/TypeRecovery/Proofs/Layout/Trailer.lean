import TypeRecovery.Proofs.Dump.Split
import TypeRecovery.Proofs.Layout.Revision
import TypeRecovery.Proofs.Layout.Ruling

/-!
# Array trailers

The elements of an array container only show in the trailer. The members in front of it, what they
occupy and what is warned of are those of the type without elements, and of the sample length the
trailer alone takes notice.
-/

namespace TypeRecovery

/-! ## Other elements -/

namespace Catalog

variable (c : Catalog)

/-- The catalog in which types have the given elements. -/
@[reducible] def withElements (elements : c.Index → Option c.Index) : Catalog :=
  c.revise (fun i => (c.record i).fields) elements

/-- The elements of the types without those of one. -/
def elementsBut (i j : c.Index) : Option c.Index := if j = i then none else (c.record j).element

end Catalog

variable {c : Catalog}

/-- The handles of the types, whatever their elements. -/
def Handles.withElements (h : Handles c) (elements : c.Index → Option c.Index) :
    Handles (c.withElements elements) :=
  h.revise (fun i => (c.record i).fields) elements

theorem body_withElements (h : Handles c) (elements : c.Index → Option c.Index) (i : c.Index) :
    body (h.withElements elements) i = body h i := by
  unfold Handles.withElements
  rw [body_revise]
  rfl

theorem layout_withElements (h : Handles c) (elements : c.Index → Option c.Index)
    (sampleLength : UInt32) (i : c.Index) :
    layout (h.withElements elements) sampleLength i =
      (body h i).layout ((elements i).map h.storage) sampleLength := by
  rw [← body_withElements h elements]
  exact layout_revise h _ elements sampleLength i

/-! ## Trailers spelled out -/

/-- The layout with four counts behind what is occupied, and some elements behind those. -/
def Layout.withTrailer (l : Layout) (element : Storage) (sampleLength : UInt32) : Layout :=
  { l with
    members := l.members ++
      [ .field l.occupied "$x" (.scalar .i32) 4,
        .field (l.occupied + 4) "$y" (.scalar .i32) 4,
        .field (l.occupied + 8) "$rank" (.scalar .i32) 4,
        .field (l.occupied + 12) "$count" (.scalar .i32) 4,
        .field (l.occupied + 16) "$data"
          (.array element.type sampleLength.toNat element.length)
          (sampleLength.toNat * element.length) ] }

theorem Placement.layout_some (p : Placement) (element : Storage) (sampleLength : UInt32) :
    p.layout (some element) sampleLength =
      (p.layout none sampleLength).withTrailer element sampleLength := by
  simp [Placement.layout, Layout.withTrailer, trailer, trailerNames, countField, dataName]

/-! ## The trailer and the rest -/

/-- A type with elements is laid out as if it had none, with a trailer behind that for any number of
samples. A type without elements has no trailer: its members end with what it occupies, whatever the
number of samples and whether or not other types have elements, its bases among them. -/
theorem layout_trailer (h : Handles c) (i : c.Index) :
    (∀ elements category ws, register (c.withElements elements) category ws =
      ((register c category ws).1.map fun h => h.withElements elements,
        (register c category ws).2)) ∧
    (∀ e, (c.record i).element = some e →
      ∃ plain : Layout, ∀ sampleLength : UInt32,
        layout (h.withElements (c.elementsBut i)) sampleLength i = plain ∧
        layout h sampleLength i = plain.withTrailer (h.storage e) sampleLength) ∧
    ((c.record i).element = none →
      ∃ plain : Layout, Tiles 0 plain.members plain.occupied ∧ ∀ sampleLength : UInt32,
        layout (h.withElements fun _ => none) sampleLength i = plain ∧
        layout h sampleLength i = plain) := by
  refine ⟨fun elements category ws => register_revise _ _ category ws, fun e he => ?_,
    fun hnone => ?_⟩
  · have hbut : c.elementsBut i i = none := if_pos rfl
    refine ⟨(body h i).layout none 0, fun sampleLength => ⟨?_, ?_⟩⟩
    · rw [layout_withElements, hbut]
      rfl
    · rw [layout_eq, he]
      exact Placement.layout_some _ _ _
  · refine ⟨(body h i).layout none 0, ?_, fun sampleLength => ⟨?_, ?_⟩⟩
    · exact (body_tiles h i).append rfl
    · rw [layout_withElements]
      rfl
    · rw [layout_eq, hnone]
      rfl

/-- A container of itself, with one field too many for its size and one that overlaps, and a type
derived from it. -/
def nestTypes : List TypeDescriptor :=
  [ { fullName := "app.Nest", objectKind := 1, length := 4, runtimeLength := 20, systemType := 28
      element := some 0, fields := [⟨"first", 2, 0, 0⟩, ⟨"middle", 2, 2, 0⟩, ⟨"last", 2, 4, 0⟩] },
    { fullName := "app.Heir", objectKind := 1, length := 8, runtimeLength := 24, systemType := 28
      base := some 0 },
    { fullName := "System.Int32", objectKind := 5, length := 4, runtimeLength := 20
      systemType := 18 } ]

def nestCatalog : Catalog where
  size := 3
  records := Catalog.resolveAll (recordsInRow nestTypes)
  placed := by decide +kernel
  grounded := by decide +kernel

def nestHandles : Handles nestCatalog := ⟨#v[.struct ⟨0⟩, .struct ⟨1⟩, .scalar .i32]⟩

def nest : nestCatalog.Index := ⟨0, by decide⟩

def nestHeir : nestCatalog.Index := ⟨1, by decide⟩

theorem body_nest :
    body nestHandles nest =
      ⟨[.field 0 vtableName .voidPointer 8, .field 8 lockName .voidPointer 8,
        .field 16 "first" (.scalar .i32) 4, .field 20 "last" (.scalar .i32) 4],
        [.overlap "app.Nest" "middle" 18 20, .overflow "app.Nest" 24 20], 24⟩ := by
  rw [body_of_ascending (by decide +kernel)]
  decide +kernel

theorem nest_trailer :
    ((nestCatalog.record nest).element = some nest ∧
      (nestCatalog.record nestHeir).element = none) ∧
    nestCatalog.base? nestHeir = some nest ∧
    (∃ plain : Layout, plain.occupied = 24 ∧
      plain.warnings = [.overlap "app.Nest" "middle" 18 20, .overflow "app.Nest" 24 20] ∧
      ∀ sampleLength : UInt32,
        layout (nestHandles.withElements (nestCatalog.elementsBut nest)) sampleLength nest = plain ∧
        layout nestHandles sampleLength nest =
          plain.withTrailer ⟨.pointer (.struct ⟨0⟩), 8⟩ sampleLength) ∧
    ∃ plain : Layout, Tiles 0 plain.members plain.occupied ∧ ∀ sampleLength : UInt32,
      layout (nestHandles.withElements fun _ => none) sampleLength nestHeir = plain ∧
      layout nestHandles sampleLength nestHeir = plain := by
  have helement : (nestCatalog.record nest).element = some nest := by decide +kernel
  have hnone : (nestCatalog.record nestHeir).element = none := by decide +kernel
  obtain ⟨plain, hplain⟩ := (layout_trailer nestHandles nest).2.1 nest helement
  have hfirst : (body nestHandles nest).layout none 0 = plain := by
    rw [← (hplain 0).1, layout_withElements]
    rfl
  refine ⟨⟨helement, hnone⟩, by decide +kernel, ⟨plain, ?_, ?_, hplain⟩,
    (layout_trailer nestHandles nestHeir).2.2 hnone⟩
  all_goals
    rw [← hfirst, body_nest]
    rfl

end TypeRecovery
