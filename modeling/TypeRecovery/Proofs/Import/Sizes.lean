import TypeRecovery.Proofs.Host.Warnings
import TypeRecovery.Proofs.Import.Fresh

/-!
# Sizes

A member takes as many bytes as its type declares, and its data type has a size of its own. Where
there are no warnings the two agree, but for the values of a type whose declared size is not that of
the scalar or the structure that represents it.
-/

namespace TypeRecovery

/-! ## Sizes of data types -/

/-- The bytes that a data type takes where it is spelled out. A structure takes those of its
members. -/
def Program.bytesOf (p : Program) : DataType → Nat
  | .undefined => 1
  | .scalar kind => kind.size
  | .struct k => ((p.struct? k).elim [] Struct.members |>.map Member.length).sum
  | .pointer _ => pointerSize
  | .array element count _ => count * p.bytesOf element

/-- How many values a member of a data type holds. -/
def DataType.count : DataType → Nat
  | .array _ count _ => count
  | _ => 1

variable {c : Catalog} {h : Handles c}

/-- The bytes of the scalar or the structure that represents a type. A structure has the size of the
last type that was laid out under its name, with an array trailer behind it. -/
def representedBytes (h : Handles c) (sampleLength : UInt32) (i : c.Index) : Nat :=
  match h.get i with
  | .scalar kind => kind.size
  | .struct _ =>
    match lastLaidOut h (c.record i).fullName with
    | some j => (c.record j).size.toNat + trailerBytes h sampleLength j
    | none => 0

/-! ## Layouts without warnings -/

theorem body_stop_of_warnings {i : c.Index} (hclean : (body h i).warnings = []) :
    (body h i).stop = (c.record i).size.toNat := by
  rw [body_warnings, List.append_eq_nil_iff] at hclean
  rw [body_stop]
  have hfits : ¬(c.record i).size.toNat < (placedFields h i).stop := by
    intro hlt
    simp [hlt] at hclean
  omega

theorem sum_layout_of_warnings {sampleLength : UInt32} {i : c.Index}
    (hclean : (layout h sampleLength i).warnings = []) :
    ((layout h sampleLength i).members.map Member.length).sum =
      (c.record i).size.toNat + trailerBytes h sampleLength i := by
  have hsum := (layout_tiles_trailer h sampleLength i).sum_length
  rw [body_stop_of_warnings hclean] at hsum
  omega

theorem layoutWarnings_eq_nil_iff {sampleLength : UInt32} :
    layoutWarnings h sampleLength (List.finRange c.size) = [] ↔
      ∀ i, needsLayout h i = true → (layout h sampleLength i).warnings = [] := by
  unfold layoutWarnings
  simp [List.flatMap_eq_nil_iff]

theorem importDump_warnings {config : ImportConfig} {source : ChunkSource} {ws : Workspace}
    {s : ImportSession} (hok : (importDump config source ws).result = .ok s) :
    s.report.warnings =
      layoutWarnings s.handles config.sampleLength (List.finRange s.catalog.size) := by
  have htarget := targetHost_importDump config source ws
  rw [hok, inWords_ok] at htarget
  obtain ⟨lines, -, hreport, -⟩ := targetHost.importDump_ok config htarget
  rw [hreport]
  rfl

/-! ## Members -/

section

variable {p : Program} {sampleLength : UInt32} {i : c.Index} {m : Member} {target : Option c.Index}

theorem storage_of_value {j : c.Index} (hj : (c.record j).isValueType = true) :
    h.storage j = ⟨h.dataType j, (c.record j).size.toNat⟩ := by
  unfold Handles.storage
  rw [if_pos hj]

theorem storage_of_reference {j : c.Index} (hj : (c.record j).isValueType = false) :
    h.storage j = ⟨.pointer (h.dataType j), pointerSize⟩ := by
  unfold Handles.storage
  rw [if_neg (by simp [hj])]

theorem count_dataType (h : Handles c) (j : c.Index) : (h.dataType j).count = 1 := by
  unfold Handles.dataType
  cases h.get j <;> rfl

theorem StandsFor.length_of_value {j : c.Index} (hm : StandsFor h sampleLength i m (some j))
    (hj : (c.record j).isValueType = true) :
    m.length = m.type.count * (c.record j).size.toNat ∧
      p.bytesOf m.type = m.type.count * p.bytesOf (h.dataType j) := by
  cases hm with
  | field hf =>
    simp only [Candidate.member, Member.field, fieldCandidate, storage_of_value hj, count_dataType,
      Nat.one_mul, and_self]
  | elements he offset =>
    simp only [Member.field, storage_of_value hj, DataType.count, Program.bytesOf, and_self]

theorem StandsFor.length_of_reference (hm : StandsFor h sampleLength i m target)
    (hno : ∀ j ∈ target, (c.record j).isValueType = false) : m.length = p.bytesOf m.type := by
  cases hm with
  | filler start length => exact (Nat.mul_one length).symm
  | slot hx =>
    unfold headerSlots at hx
    split at hx
    · rcases List.mem_pair.1 hx with rfl | rfl <;> rfl
    · simp at hx
  | field hf =>
    simp only [Candidate.member, Member.field, fieldCandidate, storage_of_reference (hno _ rfl),
      Program.bytesOf]
  | count offset name => rfl
  | elements he offset =>
    simp only [Member.field, storage_of_reference (hno _ rfl), Program.bytesOf]

theorem StandsFor.length_eq_iff (hm : StandsFor h sampleLength i m target) :
    m.length = p.bytesOf m.type ↔
      ∀ j ∈ target, (c.record j).isValueType = true → m.type.count = 0 ∨
        (c.record j).size.toNat = p.bytesOf (h.dataType j) := by
  constructor
  · rintro heq j rfl hj
    obtain ⟨hlength, hbytes⟩ := hm.length_of_value (p := p) hj
    rw [hlength, hbytes] at heq
    rcases Nat.eq_zero_or_pos m.type.count with hzero | hpos
    · exact .inl hzero
    · exact .inr (Nat.eq_of_mul_eq_mul_left hpos heq)
  · intro hvalues
    by_cases hvalue : ∃ j ∈ target, (c.record j).isValueType = true
    · obtain ⟨j, rfl, hj⟩ := hvalue
      obtain ⟨hlength, hbytes⟩ := hm.length_of_value (p := p) hj
      rw [hlength, hbytes]
      rcases hvalues j rfl hj with hzero | heq
      · rw [hzero, Nat.zero_mul, Nat.zero_mul]
      · rw [heq]
    · refine hm.length_of_reference fun j hj => ?_
      rw [← Bool.not_eq_true]
      exact fun hv => hvalue ⟨j, hj, hv⟩

end

/-! ## Imports -/

section

variable {config : ImportConfig} {s : ImportSession} {t labelled registered laidOut t' : Target}

namespace ImportSession.Stages

variable (hs : s.Stages config t labelled registered laidOut t')

include hs

theorem bytesOf_dataType
    (hclean : ∀ i, needsLayout s.handles i = true →
      (layout s.handles config.sampleLength i).warnings = []) (j : s.catalog.Index) :
    t'.program.bytesOf (s.handles.dataType j) =
      representedBytes s.handles config.sampleLength j := by
  unfold Handles.dataType representedBytes
  cases hj : s.handles.get j with
  | scalar kind => rfl
  | struct k =>
    obtain ⟨r, -, hx⟩ := hs.struct? hj
    simp only [Representation.dataType, Program.bytesOf, hx, Option.elim_some]
    cases hlast : lastLaidOut s.handles (s.catalog.record j).fullName with
    | none => rfl
    | some i =>
      have hneeds := (last?_eq_some_iff.1 hlast).1
      simp only [Bool.and_eq_true] at hneeds
      exact sum_layout_of_warnings (hclean i hneeds.1)

end ImportSession.Stages

end

/-- Which members of a program take the bytes of their data types. -/
structure ImportSession.SizesAgree (s : ImportSession) (config : ImportConfig) (p : Program) :
    Prop where
  /-- What a data type takes that represents a type follows from the catalog. -/
  represented : ∀ j, p.bytesOf (s.handles.dataType j) =
    representedBytes s.handles config.sampleLength j
  /-- A member and its data type disagree only over the values of a type that is not represented in
  its declared size. -/
  members : ∀ k x m, p.struct? k = some x → m ∈ x.members →
    ∃ i target, s.handles.get i = .struct k ∧ x.name = (s.catalog.record i).fullName ∧
      StandsFor s.handles config.sampleLength i m target ∧
      (∀ j ∈ target, (s.catalog.record j).isValueType = true →
        m.length = m.type.count * (s.catalog.record j).size.toNat) ∧
      (m.length = p.bytesOf m.type ↔
        ∀ j ∈ target, (s.catalog.record j).isValueType = true → m.type.count = 0 ∨
          (s.catalog.record j).size.toNat =
            representedBytes s.handles config.sampleLength j)

/-- In an import without warnings members take the bytes of their data types, but for the values of
types that are represented in another size than they declare. -/
theorem importInto_empty_sizesAgree {config : ImportConfig} {source : ChunkSource}
    {s : ImportSession} (hok : (importInto config source .empty).result = .ok s)
    (hwarnings : s.report.warnings = []) :
    s.SizesAgree config (importInto config source .empty).workspace.program := by
  obtain ⟨_, _, _, hs⟩ := importInto_empty_stages hok
  rw [importDump_warnings hok, layoutWarnings_eq_nil_iff] at hwarnings
  have hrepresented := hs.bytesOf_dataType hwarnings
  refine ⟨hrepresented, fun k x m hx hm => ?_⟩
  obtain ⟨i, hi, hname, -, hmembers⟩ := hs.exists_layout rfl hx hm
  rw [hmembers] at hm
  obtain ⟨target, htarget⟩ := layout_standsFor hm
  refine ⟨i, target, hi, hname, htarget, ?_, ?_⟩
  · rintro j rfl hj
    exact (htarget.length_of_value (p := .empty) hj).1
  · simp only [← hrepresented]
    exact htarget.length_eq_iff

/-! ## A number of eight bytes -/

/-- A cell holds a number that declares eight bytes and is represented by four. -/
def cellTypes : List TypeDescriptor :=
  [ { fullName := "app.Cell", objectKind := 1, length := 8, runtimeLength := 24, systemType := 28
      fields := [⟨"value", 1, 0, 0⟩] },
    { fullName := "System.Int32", objectKind := 5, length := 8, runtimeLength := 24
      systemType := 18 } ]

def cellCatalog : Catalog where
  size := 2
  records := Catalog.resolveAll (recordsInRow cellTypes)
  placed := by decide +kernel
  grounded := by decide +kernel

def cell : cellCatalog.Index := ⟨0, by decide⟩

theorem body_cell :
    body cellCatalog.freshHandles cell =
      ⟨[.field 0 vtableName .voidPointer 8, .field 8 lockName .voidPointer 8,
        .field 16 "value" (.scalar .i32) 8], [], 24⟩ := by
  rw [body_of_ascending (by decide +kernel)]
  decide +kernel

theorem exists_importInto_cellTypes :
    ∃ s, (importInto {} (dumpOf cellTypes) .empty).result = .ok s ∧
      (∃ report, s = ⟨cellCatalog, cellCatalog.freshHandles, report⟩) ∧ s.report.warnings = [] := by
  obtain ⟨⟨c, h, report⟩, hok, rfl⟩ : ∃ s, (importInto {} (dumpOf cellTypes) .empty).result =
      .ok s ∧ s.catalog = cellCatalog :=
    importInto_dumpOf (Catalog.ofRecords_eq_ok_iff.2 ⟨rfl, by decide +kernel, rfl, rfl⟩) (by decide)
  obtain ⟨_, _, _, hs⟩ := importInto_empty_stages hok
  obtain rfl : h = cellCatalog.freshHandles := hs.handles_eq rfl
  refine ⟨_, hok, ⟨report, rfl⟩, ?_⟩
  have honly : (List.finRange cellCatalog.size).filter (needsLayout cellCatalog.freshHandles) =
      [cell] := by decide +kernel
  rw [importDump_warnings hok]
  unfold layoutWarnings
  rw [honly, List.flatMap_singleton]
  exact congrArg Placement.warnings body_cell

theorem cell_sizesAgree :
    ∃ s, (importInto {} (dumpOf cellTypes) .empty).result = .ok s ∧ s.report.warnings = [] ∧
      s.SizesAgree {} (importInto {} (dumpOf cellTypes) .empty).workspace.program := by
  obtain ⟨s, hok, -, hwarnings⟩ := exists_importInto_cellTypes
  exact ⟨s, hok, hwarnings, importInto_empty_sizesAgree hok hwarnings⟩

/-- The number takes eight bytes of the cell, and there is no warning. -/
theorem cell_value_overlong :
    ∃ s, (importInto {} (dumpOf cellTypes) .empty).result = .ok s ∧ s.report.warnings = [] ∧
      ∃ k x m, (importInto {} (dumpOf cellTypes) .empty).workspace.program.struct? k = some x ∧
        m ∈ x.members ∧ m.length = 8 ∧
        (importInto {} (dumpOf cellTypes) .empty).workspace.program.bytesOf m.type = 4 := by
  obtain ⟨_, hok, ⟨report, rfl⟩, hwarnings⟩ := exists_importInto_cellTypes
  obtain ⟨_, _, _, hs⟩ := importInto_empty_stages hok
  have hget : cellCatalog.freshHandles.get cell = .struct ⟨0⟩ := by decide +kernel
  have hlast : lastLaidOut cellCatalog.freshHandles (cellCatalog.record cell).fullName =
      some cell := by decide +kernel
  have hvalue : Member.field 16 "value" (.scalar .i32) 8 ∈
      (layout cellCatalog.freshHandles 42 cell).members := by
    refine List.mem_append_left _ ?_
    simp [body_cell]
  obtain ⟨r, -, hx⟩ := hs.struct? hget
  rw [hlast] at hx
  exact ⟨_, hok, hwarnings, _, _, _, hx, hvalue, rfl, rfl⟩

end TypeRecovery
