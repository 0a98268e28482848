import TypeRecovery.Proofs.Import.Fresh

/-!
# The order of a header

A header declares all structures before it defines the first of them. The definitions follow each
other in the order of the handles, and this is the order in which the names come first in the
catalog. So a structure that another one holds by value is defined in time exactly if its name comes
before that of the other.
-/

namespace TypeRecovery

/-! ## Values in values -/

/-- The structure of which a data type holds a value, or an array of values. -/
def DataType.embedded? : DataType → Option StructHandle
  | .struct k => some k
  | .array (.struct k) _ _ => some k
  | _ => none

theorem cType_eq_struct_iff {p : Program} {t : DataType} {tag : String} :
    cType p t = .struct tag ↔
      ∃ k x, t = .struct k ∧ p.struct? k = some x ∧ sanitize x.name = tag := by
  cases t with
  | struct k =>
    rw [cType]
    cases hx : p.struct? k <;> simp [hx]
  | _ => simp [cType]

theorem declare_eq_struct_iff {p : Program} {name tag : String} {t : DataType} :
    (declare p name t).type = .struct tag ↔
      ∃ k x, t.embedded? = some k ∧ p.struct? k = some x ∧ sanitize x.name = tag := by
  cases t with
  | struct k => simp [declare, cType_eq_struct_iff, DataType.embedded?]
  | array element count length =>
    show cType p element = .struct tag ↔ _
    rw [cType_eq_struct_iff]
    cases element <;> simp [DataType.embedded?]
  | _ => simp [declare, cType, DataType.embedded?]

variable {c : Catalog} {h : Handles c}

theorem embedded?_storage {i : c.Index} {k : StructHandle} :
    (h.storage i).type.embedded? = some k ↔
      (c.record i).isValueType = true ∧ h.get i = .struct k := by
  unfold Handles.storage Handles.dataType
  split
  · cases hi : h.get i <;> simp_all [Representation.dataType, DataType.embedded?]
  · simp_all [DataType.embedded?]

theorem embedded?_array {element : DataType} {count length : Nat} {k : StructHandle}
    (hk : (DataType.array element count length).embedded? = some k) :
    element.embedded? = some k := by
  cases element <;> simp_all [DataType.embedded?]

theorem StandsFor.of_embedded {sampleLength : UInt32} {i : c.Index} {m : Member}
    {target : Option c.Index} (hm : StandsFor h sampleLength i m target) {k : StructHandle}
    (hk : m.type.embedded? = some k) :
    ∃ j, target = some j ∧ (c.record j).isValueType = true ∧ h.get j = .struct k := by
  cases hm with
  | filler start length => cases hk
  | slot hx =>
    unfold headerSlots at hx
    split at hx
    · rcases List.mem_pair.1 hx with rfl | rfl <;> cases hk
    · simp at hx
  | field hf => exact ⟨_, rfl, embedded?_storage.1 hk⟩
  | count offset name => cases hk
  | elements he offset => exact ⟨_, rfl, embedded?_storage.1 (embedded?_array hk)⟩

/-! ## Places in a header -/

/-- `part` stands in `text` from the character `start` up to the character `stop`. -/
def Spans (text part : String) (start stop : Nat) : Prop :=
  ∃ before after, text = before ++ part ++ after ∧ before.length = start ∧
    start + part.length = stop

theorem Spans.of_eq {text before part after : String} (h : text = before ++ (part ++ after)) :
    Spans text part before.length (before.length + part.length) :=
  ⟨before, after, by rw [h, String.append_assoc], rfl, rfl⟩

def declareTag (tag : String) : String := "struct " ++ tag ++ ";\n"

namespace CHeader

variable (H : CHeader)

/-- What stands in front of the first definition. -/
def opening : String := headerStart ++ String.join (H.structs.map fun s => declareTag s.tag) ++ "\n"

/-- Where a definition starts, and where the one before it stops. -/
def definitionStart (n : Nat) : Nat :=
  H.opening.length + (String.join ((H.structs.take n).map CStruct.text)).length

theorem text_eq :
    H.text = H.opening ++ (String.join (H.structs.map CStruct.text) ++
      String.join (H.prototypes.map CPrototype.text)) := by
  simp only [text, opening, declareTag, String.append_assoc]

variable {H}

theorem definitionStart_succ {n : Nat} {s : CStruct} (hn : H.structs[n]? = some s) :
    H.definitionStart (n + 1) = H.definitionStart n + s.text.length := by
  unfold definitionStart
  rw [List.take_add_one, hn, Option.toList_some, List.map_append, String.join_append,
    String.length_append, List.map_singleton, String.join_cons, String.join_nil,
    String.append_empty]
  omega

theorem definitionStart_mono {n n' : Nat} (hle : n ≤ n') :
    H.definitionStart n ≤ H.definitionStart n' := by
  obtain ⟨d, rfl⟩ := Nat.exists_eq_add_of_le hle
  unfold definitionStart
  rw [List.take_add, List.map_append, String.join_append, String.length_append]
  omega

theorem text_definition {n : Nat} {s : CStruct} (hn : H.structs[n]? = some s) :
    Spans H.text s.text (H.definitionStart n) (H.definitionStart (n + 1)) := by
  have hsplit : H.structs = H.structs.take n ++ s :: H.structs.drop (n + 1) := by
    obtain ⟨hlt, rfl⟩ := List.getElem?_eq_some_iff.1 hn
    rw [List.getElem_cons_drop, List.take_append_drop]
  have htext : H.text = H.opening ++ String.join ((H.structs.take n).map CStruct.text) ++
      (s.text ++ (String.join ((H.structs.drop (n + 1)).map CStruct.text) ++
        String.join (H.prototypes.map CPrototype.text))) := by
    rw [text_eq]
    conv_lhs => rw [hsplit]
    simp only [List.map_append, List.map_cons, String.join_append, String.join_cons,
      String.append_assoc]
  have hspans := Spans.of_eq htext
  rw [String.length_append] at hspans
  rw [definitionStart_succ hn]
  exact hspans

theorem text_declaration {s : CStruct} (hs : s ∈ H.structs) :
    ∃ start stop, Spans H.text (declareTag s.tag) start stop ∧ stop ≤ H.definitionStart 0 := by
  obtain ⟨before, after, hsplit⟩ := List.append_of_mem hs
  have hopening : H.opening = headerStart ++ String.join (before.map fun s => declareTag s.tag) ++
      (declareTag s.tag ++ (String.join (after.map fun s => declareTag s.tag) ++ "\n")) := by
    unfold opening
    rw [hsplit]
    simp only [List.map_append, List.map_cons, String.join_append, String.join_cons,
      String.append_assoc]
  have htext : H.text = headerStart ++ String.join (before.map fun s => declareTag s.tag) ++
      (declareTag s.tag ++ (String.join (after.map fun s => declareTag s.tag) ++ "\n" ++
        (String.join (H.structs.map CStruct.text) ++
          String.join (H.prototypes.map CPrototype.text)))) := by
    rw [text_eq, hopening]
    simp only [String.append_assoc]
  refine ⟨_, _, .of_eq htext, ?_⟩
  unfold definitionStart
  rw [hopening]
  simp only [String.length_append]
  omega

theorem definitionStart_le_iff {n n' : Nat} {s : CStruct} (hn : H.structs[n]? = some s) :
    H.definitionStart (n + 1) ≤ H.definitionStart n' ↔ n < n' := by
  constructor
  · intro hle
    by_contra hge
    have hmono := definitionStart_mono (H := H) (Nat.not_lt.1 hge)
    have hpos : 0 < s.text.length := by
      unfold CStruct.text
      simp only [String.length_append]
      have : "/* ".length = 3 := rfl
      omega
    rw [definitionStart_succ hn] at hle
    omega
  · exact fun hlt => definitionStart_mono hlt

end CHeader

/-! ## The header of a program -/

namespace Program

variable {p : Program} {k : StructHandle} {x : Struct}

def definitionStart (p : Program) (k : StructHandle) : Nat :=
  (CHeader.ofProgram p).definitionStart k.index

def definitionStop (p : Program) (k : StructHandle) : Nat :=
  (CHeader.ofProgram p).definitionStart (k.index + 1)

theorem struct?_ofProgram (hx : p.struct? k = some x) :
    (CHeader.ofProgram p).structs[k.index]? = some (defineStruct p x) := by
  unfold CHeader.ofProgram
  rw [List.getElem?_map, Array.getElem?_toList]
  exact congrArg (Option.map (defineStruct p)) hx

/-- All structures of a program are declared before the definitions, and these have the order of the
handles. -/
structure RendersInOrder (p : Program) : Prop where
  declares : ∀ k x, p.struct? k = some x →
    ∃ start stop, Spans (renderHeader p) (declareTag (sanitize x.name)) start stop ∧
      ∀ k', stop ≤ p.definitionStart k'
  defines : ∀ k x, p.struct? k = some x →
    Spans (renderHeader p) (defineStruct p x).text (p.definitionStart k) (p.definitionStop k)
  order : ∀ k k' x, p.struct? k = some x →
    (p.definitionStop k ≤ p.definitionStart k' ↔ k.index < k'.index)
  /-- Anything but a value, or an array of values, is declared without the structure. -/
  byValue : ∀ type name tag, (declare p name type).type = .struct tag ↔
    ∃ k x, type.embedded? = some k ∧ p.struct? k = some x ∧ sanitize x.name = tag

theorem rendersInOrder (p : Program) : p.RendersInOrder where
  declares k x hx := by
    obtain ⟨start, stop, hspans, hstop⟩ :=
      CHeader.text_declaration (List.mem_of_getElem? (struct?_ofProgram hx))
    exact ⟨start, stop, hspans,
      fun k' => hstop.trans (CHeader.definitionStart_mono (Nat.zero_le _))⟩
  defines k x hx := CHeader.text_definition (struct?_ofProgram hx)
  order k k' x hx := CHeader.definitionStart_le_iff (struct?_ofProgram hx)
  byValue _ _ _ := declare_eq_struct_iff

end Program

/-! ## Imports -/

/-- Structure `k` of a program holds a value of structure `k'`: a type `i` that was laid out there
has a member that stands for the value type `j` over there. -/
structure ImportSession.Holds (s : ImportSession) (config : ImportConfig) (p : Program)
    (k : StructHandle) (x : Struct) (k' : StructHandle) (m : Member) (i j : s.catalog.Index) :
    Prop where
  laidOut : s.LaidOut config k x i
  held : s.handles.get j = .struct k'
  isValueType : (s.catalog.record j).isValueType = true
  standsFor : StandsFor s.handles config.sampleLength i m (some j)
  name : ∃ x', p.struct? k' = some x' ∧ x'.name = (s.catalog.record j).fullName

section

variable {config : ImportConfig} {source : ChunkSource} {s : ImportSession}
  {t labelled registered laidOut t' : Target} {k k' : StructHandle} {x x' : Struct}

namespace ImportSession.Stages

variable (hs : s.Stages config t labelled registered laidOut t')
  (hempty : t.program.structs = #[])

include hs hempty

theorem holds {m : Member} (hx : t'.program.struct? k = some x) (hm : m ∈ x.members)
    (hk' : m.type.embedded? = some k') : ∃ i j, s.Holds config t'.program k x k' m i j := by
  obtain ⟨i, hi⟩ := hs.exists_layout hempty hx hm
  rw [hi.members] at hm
  obtain ⟨target, htarget⟩ := layout_standsFor hm
  obtain ⟨j, rfl, hvalue, hj⟩ := htarget.of_embedded hk'
  obtain ⟨x', hx', -, hname⟩ := Program.struct_of_handleOf? (hs.namedIn.handleOf? hj)
  exact ⟨i, j, hi, hj, hvalue, htarget, x', hx', hname⟩

theorem definitionStop_le_iff (hx : t'.program.struct? k = some x)
    (hx' : t'.program.struct? k' = some x') :
    t'.program.definitionStop k ≤ t'.program.definitionStart k' ↔
      s.catalog.structNames.idxOf x.name < s.catalog.structNames.idxOf x'.name := by
  have htype : ∀ {k x}, t'.program.struct? k = some x →
      ∃ i, s.handles.get i = .struct k ∧ x.name = (s.catalog.record i).fullName := by
    intro k x hx
    obtain ⟨i, hi⟩ := hs.exists_type hempty hx
    obtain ⟨y, hy, -, hname⟩ := Program.struct_of_handleOf? (hs.namedIn.handleOf? hi)
    cases hx.symm.trans hy
    exact ⟨i, hi, hname⟩
  obtain ⟨i, hi, hname⟩ := htype hx
  obtain ⟨i', hi', hname'⟩ := htype hx'
  rw [t'.program.rendersInOrder.order k k' x hx, hs.index_lt_iff hempty hi hi', hname, hname']

end ImportSession.Stages

/-- A header whose definitions come in the order in which the names of types come first. A structure
that is held by value is complete in time exactly if its name comes before that of its owner. -/
structure ImportSession.DefinesByName (s : ImportSession) (config : ImportConfig) (p : Program) :
    Prop where
  inOrder : p.RendersInOrder
  titles : p.titles.toList = s.catalog.structNames.eraseDups.map (Prod.mk config.category)
  byName : ∀ k k' x x', p.struct? k = some x → p.struct? k' = some x' →
    (p.definitionStop k ≤ p.definitionStart k' ↔
      s.catalog.structNames.idxOf x.name < s.catalog.structNames.idxOf x'.name)
  held : ∀ k x m k', p.struct? k = some x → m ∈ x.members → m.type.embedded? = some k' →
    ∃ i j, s.Holds config p k x k' m i j ∧
      (p.definitionStop k' ≤ p.definitionStart k ↔
        s.catalog.structNames.idxOf (s.catalog.record j).fullName <
          s.catalog.structNames.idxOf (s.catalog.record i).fullName)

theorem importInto_empty_definesByName (hok : (importInto config source .empty).result = .ok s) :
    s.DefinesByName config (importInto config source .empty).workspace.program := by
  obtain ⟨_, _, _, hs⟩ := importInto_empty_stages hok
  refine ⟨Program.rendersInOrder _, hs.titles_eq rfl,
    fun _ _ _ _ hx hx' => hs.definitionStop_le_iff rfl hx hx', fun k x m k' hx hm hk' => ?_⟩
  obtain ⟨i, j, hholds⟩ := hs.holds rfl hx hm hk'
  obtain ⟨x', hx', hname'⟩ := hholds.name
  have hiff := hs.definitionStop_le_iff rfl hx' hx
  rw [hname', hholds.laidOut.name] at hiff
  exact ⟨i, j, hholds, hiff⟩

end

/-! ## A box in front of what is in it -/

/-- A box holds a pair, which comes behind it. -/
def boxTypes : List TypeDescriptor :=
  [ { fullName := "app.Box", objectKind := 1, length := 8, runtimeLength := 24, systemType := 28
      fields := [⟨"pair", 1, 0, 0⟩] },
    { fullName := "app.Pair", objectKind := 5, length := 8, runtimeLength := 24, systemType := 28
      fields := [⟨"left", 2, 0, 0⟩, ⟨"right", 2, 4, 0⟩] },
    { fullName := "System.Int32", objectKind := 5, length := 4, runtimeLength := 20
      systemType := 18 } ]

def boxCatalog : Catalog where
  size := 3
  records := Catalog.resolveAll (recordsInRow boxTypes)
  placed := by decide +kernel
  grounded := by decide +kernel

def box : boxCatalog.Index := ⟨0, by decide⟩

theorem exists_importInto_boxTypes :
    ∃ s, (importInto {} (dumpOf boxTypes) .empty).result = .ok s ∧ s.catalog = boxCatalog :=
  importInto_dumpOf (Catalog.ofRecords_eq_ok_iff.2 ⟨rfl, by decide +kernel, rfl, rfl⟩) (by decide)

theorem box_definesByName :
    ∃ s, (importInto {} (dumpOf boxTypes) .empty).result = .ok s ∧
      s.DefinesByName {} (importInto {} (dumpOf boxTypes) .empty).workspace.program := by
  obtain ⟨s, hok, -⟩ := exists_importInto_boxTypes
  exact ⟨s, hok, importInto_empty_definesByName hok⟩

/-- The box is complete before the pair in it is begun. -/
theorem box_defined_before_pair :
    ∃ s, (importInto {} (dumpOf boxTypes) .empty).result = .ok s ∧
      (importInto {} (dumpOf boxTypes) .empty).workspace.program.RendersInOrder ∧
      ∃ k x m k', (importInto {} (dumpOf boxTypes) .empty).workspace.program.struct? k = some x ∧
        m ∈ x.members ∧ m.type.embedded? = some k' ∧
        (importInto {} (dumpOf boxTypes) .empty).workspace.program.definitionStop k ≤
          (importInto {} (dumpOf boxTypes) .empty).workspace.program.definitionStart k' := by
  obtain ⟨⟨c, h, report⟩, hok, rfl⟩ := exists_importInto_boxTypes
  obtain ⟨_, _, _, hs⟩ := importInto_empty_stages hok
  obtain rfl : h = boxCatalog.freshHandles := hs.handles_eq rfl
  have hbox : boxCatalog.freshHandles.get box = .struct ⟨0⟩ := by decide +kernel
  have hlast : lastLaidOut boxCatalog.freshHandles (boxCatalog.record box).fullName = some box := by
    decide +kernel
  have hpair : Member.field 16 "pair" (.struct ⟨1⟩) 8 ∈
      (layout boxCatalog.freshHandles 42 box).members := by
    refine List.mem_append_left _ ?_
    rw [body_of_ascending (by decide +kernel)]
    decide +kernel
  obtain ⟨r, -, hx⟩ := hs.struct? hbox
  rw [hlast] at hx
  exact ⟨_, hok, Program.rendersInOrder _, _, _, _, ⟨1⟩, hx, hpair, rfl,
    ((Program.rendersInOrder _).order _ _ _ hx).2 (by decide)⟩

end TypeRecovery
