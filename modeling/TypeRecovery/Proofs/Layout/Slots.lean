import Mathlib.Data.List.Perm.Basic
import TypeRecovery.Proofs.Dump.Split
import TypeRecovery.Proofs.Layout.Embedding

/-!
# Slots come first

A type with a header of sixteen bytes or more starts with its two slots, whatever fields it has and in
whatever order, and all of its fields lie behind the header. The value types of a dump have no header,
so that their fields lie where they are declared.
-/

namespace TypeRecovery

/-! ## Candidates in front -/

theorem sortCandidates_cons {x : Candidate} {cs : List Candidate}
    (hx : ∀ y ∈ cs, x.offset ≤ y.offset) : sortCandidates (x :: cs) = x :: sortCandidates cs := by
  obtain ⟨front, back, hcons, hrest, hfront⟩ :=
    List.mergeSort_cons Candidate.offset_le_trans Candidate.offset_le_total x cs
  have hnil : front = [] := by
    refine List.eq_nil_iff_forall_not_mem.2 fun y hy => ?_
    have hy' : y ∈ cs := by
      rw [← (sortCandidates_perm cs).mem_iff, sortCandidates, hrest]
      exact List.mem_append_left _ hy
    have := hx y hy'
    have := hfront y hy
    simp only [Bool.not_eq_true', decide_eq_false_iff_not] at this
    omega
  unfold sortCandidates
  rw [hcons, hrest, hnil]
  rfl

theorem sortCandidates_headerSlots {header : Int} {cs : List Candidate}
    (hcs : ∀ y ∈ cs, header ≤ y.offset) :
    sortCandidates (headerSlots header ++ cs) = headerSlots header ++ sortCandidates cs := by
  unfold headerSlots
  split
  · rename_i hheader
    have h16 : 16 ≤ header := hheader
    have hlock : ∀ y ∈ cs, (8 : Int) ≤ y.offset := fun y hy => by
      have := hcs y hy
      omega
    simp only [List.cons_append, List.nil_append]
    rw [sortCandidates_cons, sortCandidates_cons hlock]
    rw [List.forall_mem_cons]
    refine ⟨by decide, fun y hy => ?_⟩
    have := hlock y hy
    simp only
    omega
  · rfl

/-! ## Fields behind a header -/

theorem exists_split_of_candidates {α : Type} {g : α → Candidate} (typeName : String)
    {rs : List Ruling} {xs : List α} (hrs : rs.map Ruling.candidate = xs.map g) :
    ∃ (placed : List α) (skipped : List (α × Nat)),
      (placed ++ skipped.map Prod.fst).Perm xs ∧ placedOf rs = placed.map g ∧
      reportsOf typeName rs =
        skipped.map fun x => .overlap typeName (g x.1).name (g x.1).offset x.2 := by
  induction rs generalizing xs with
  | nil =>
    obtain rfl := List.map_eq_nil_iff.1 hrs.symm
    exact ⟨[], [], .refl _, rfl, rfl⟩
  | cons r rs ih =>
    obtain ⟨x, xs, rfl, hx, hrest⟩ := List.map_eq_cons_iff.1 hrs.symm
    obtain ⟨placed, skipped, hperm, hplaced, hskipped⟩ := ih hrest.symm
    obtain ⟨_, verdict⟩ := r
    obtain rfl : g x = _ := hx
    cases verdict with
    | placed => exact ⟨x :: placed, skipped, hperm.cons x, congrArg _ hplaced, hskipped⟩
    | overlapping cursor =>
      refine ⟨placed, (x, cursor) :: skipped, ?_, hplaced, congrArg _ hskipped⟩
      exact List.perm_middle.trans (hperm.cons x)

variable {c : Catalog}

theorem place_fields (h : Handles c) (header : Int) (typeName : String) (cursor : Nat)
    (fs : List (FieldRecord c.Index)) :
    ∃ (placed : List (FieldRecord c.Index)) (skipped : List (FieldRecord c.Index × Nat)),
      (placed ++ skipped.map Prod.fst).Perm
        (fs.filter fun f => (h.storage f.type).length ≠ 0) ∧
      namedMembers
          (place typeName cursor (sortCandidates (fs.map (fieldCandidate h header)))).members =
        placed.map (fun f => (fieldCandidate h header f).member) ∧
      (place typeName cursor (sortCandidates (fs.map (fieldCandidate h header)))).warnings =
        skipped.map fun x => .overlap typeName x.1.name (x.1.offset.toNat + header) x.2 := by
  have hperm : ((judge cursor (sortCandidates (fs.map (fieldCandidate h header)))).map
      Ruling.candidate).Perm
      ((fs.filter fun f => (h.storage f.type).length ≠ 0).map (fieldCandidate h header)) := by
    have hsorted := (sortCandidates_stable (fs.map (fieldCandidate h header))).perm.filter
      Candidate.takesBytes
    rw [List.filter_map] at hsorted
    rw [judge_candidates]
    exact hsorted
  obtain ⟨gs, hgs, hperm⟩ :=
    (congrFun₂ (List.eq_map_comp_perm (fieldCandidate h header)) _ _).mpr hperm
  obtain ⟨placed, skipped, hsplit, hplaced, hskipped⟩ := exists_split_of_candidates typeName hgs
  refine ⟨placed, skipped, hsplit.trans hperm, ?_, ?_⟩
  · rw [place_named, hplaced, List.map_map]
    rfl
  · rw [place_reports, hskipped]
    rfl

/-- What the fields of a type and its bases ask for. -/
def fieldCandidates (h : Handles c) (i : c.Index) : List Candidate :=
  (inheritedFields c i).map (fieldCandidate h (c.record i).headerLength)

theorem placedFields_eq (h : Handles c) (i : c.Index) :
    placedFields h i = place (c.record i).fullName 0
      (headerSlots (c.record i).headerLength ++ sortCandidates (fieldCandidates h i)) := by
  unfold placedFields
  rw [show candidates h i = headerSlots (c.record i).headerLength ++ fieldCandidates h i from rfl,
    sortCandidates_headerSlots]
  intro y hy
  obtain ⟨f, -, rfl⟩ := List.mem_map.1 hy
  simp only [fieldCandidate]
  omega

/-- The slots of a header, eight bytes each. -/
def slotMembers : List Member :=
  [.field 0 "$vtable" (.pointer (.scalar .void)) 8, .field 8 "$lock" (.pointer (.scalar .void)) 8]

/-- A placement with some members in front of it. -/
def Placement.behind (front : List Member) (p : Placement) : Placement :=
  { p with members := front ++ p.members }

theorem placedFields_of_slots {h : Handles c} {i : c.Index}
    (hheader : 16 ≤ (c.record i).headerLength) :
    placedFields h i =
      (place (c.record i).fullName 16 (sortCandidates (fieldCandidates h i))).behind
        slotMembers := by
  rw [placedFields_eq, headerSlots, if_pos (show headerThreshold ≤ _ from hheader)]
  rfl

theorem placedFields_of_no_slots {h : Handles c} {i : c.Index}
    (hheader : (c.record i).headerLength < 16) :
    placedFields h i =
      (place (c.record i).fullName 0 (sortCandidates (fieldCandidates h i))).behind [] := by
  rw [placedFields_eq, headerSlots, if_neg (by simp only [headerThreshold]; omega)]
  rfl

/-- The named members of a body are some slots and fields behind a header. Of the fields of the type
and its bases that take bytes, each is placed there or reported, and nothing else is reported. -/
def Layout.PlacesFields (l : Layout) (h : Handles c) (i : c.Index) (slots : List Member)
    (header : Nat) : Prop :=
  ∃ (placed : List (FieldRecord c.Index)) (skipped : List (FieldRecord c.Index × Nat)),
    (placed ++ skipped.map Prod.fst).Perm (storedFields h i) ∧
    namedMembers (l.body (c.record i)) = slots ++ placed.map (fun f =>
      .field (header + f.offset.toNat) f.name (h.storage f.type).type (h.storage f.type).length) ∧
    l.overlaps = skipped.map fun (f, cursor) =>
      .overlap (c.record i).fullName f.name ((header + f.offset.toNat : Nat) : Int) cursor

theorem layout_placesFields {h : Handles c} {i : c.Index} {header cursor : Nat}
    {slots : List Member} (sampleLength : UInt32)
    (hheader : (c.record i).headerLength = header) (hslots : namedMembers slots = slots)
    (hplaced : placedFields h i =
      (place (c.record i).fullName cursor (sortCandidates (fieldCandidates h i))).behind slots) :
    (layout h sampleLength i).PlacesFields h i slots header := by
  obtain ⟨placed, skipped, hsplit, hnamed, hwarnings⟩ :=
    place_fields h header (c.record i).fullName cursor (inheritedFields c i)
  rw [← hheader] at hnamed hwarnings
  refine ⟨placed, skipped, hsplit, ?_, ?_⟩
  · rw [layout_body, namedMembers_body, hplaced, Placement.behind, namedMembers_append, hslots]
    refine congrArg (slots ++ ·) (hnamed.trans (List.map_congr_left fun f _ => ?_))
    simp only [Candidate.member, fieldCandidate, hheader]
    congr 1
    omega
  · rw [layout_overlaps, hplaced]
    refine hwarnings.trans (List.map_congr_left fun x _ => ?_)
    rw [hheader]
    congr 1
    omega

/-! ## Headers of value types -/

theorem headerLength_of_load {source : ChunkSource} {chunkSize : UInt32}
    (hload : (load source chunkSize).result = .ok c) {i : c.Index}
    (hvalue : (c.record i).isValueType = true) : (c.record i).headerLength = 0 := by
  obtain ⟨chunks, -, -, -, hc⟩ := exists_gapFree_of_load hload
  obtain ⟨d, -, hrecord⟩ := (record_of_load hc).2 i
  have hkind : isValueKind d.objectKind = true := by
    have := congrArg TypeRecord.isValueType hrecord
    exact this.symm.trans hvalue
  rw [← TypeRecord.headerLength_map Fin.val, hrecord]
  simp only [TypeRecord.headerLength, TypeRecord.ofDescriptor, hkind, if_true, Int.sub_self]

/-! ## Slots and fields -/

/-- A layout starts with the slots of a header. They lie within the declared size and none of them is
reported, as every report is of a field behind the header. -/
structure Layout.StartsWithSlots (l : Layout) (h : Handles c) (i : c.Index) : Prop where
  first : l.members.take 2 = slotMembers
  fits : ∀ m ∈ slotMembers, m.offset + m.length ≤ (c.record i).size.toNat
  fields : ∃ header : Nat, (c.record i).headerLength = header ∧
    l.PlacesFields h i slotMembers header
  placed_behind : ∀ m ∈ (namedMembers (l.body (c.record i))).drop 2,
    (c.record i).headerLength ≤ m.offset
  reported_behind : ∀ name field offset cursor,
    .overlap name field offset cursor ∈ l.warnings → (c.record i).headerLength ≤ offset

theorem Layout.PlacesFields.placed_behind {l : Layout} {h : Handles c} {i : c.Index}
    {slots : List Member} {header : Nat} (hl : l.PlacesFields h i slots header) :
    ∀ m ∈ (namedMembers (l.body (c.record i))).drop slots.length, header ≤ m.offset := by
  obtain ⟨placed, skipped, -, hnamed, -⟩ := hl
  rw [hnamed, List.drop_left]
  intro m hm
  obtain ⟨f, -, rfl⟩ := List.mem_map.1 hm
  exact Nat.le_add_right _ _

theorem Layout.PlacesFields.reported_behind {l : Layout} {h : Handles c} {i : c.Index}
    {slots : List Member} {header : Nat} (hl : l.PlacesFields h i slots header)
    {name field : String} {offset : Int} {cursor : Nat}
    (hw : .overlap name field offset cursor ∈ l.warnings) : header ≤ offset := by
  obtain ⟨placed, skipped, -, -, hreported⟩ := hl
  have hmem : .overlap name field offset cursor ∈ l.overlaps := List.mem_filter.2 ⟨hw, rfl⟩
  rw [hreported] at hmem
  obtain ⟨⟨f, cursor⟩, -, heq⟩ := List.mem_map.1 hmem
  cases heq
  omega

/-- A header of sixteen bytes or more starts with both slots, whatever the fields are, and the fields
lie behind it. The value types of a dump have no slots and their fields lie where they are declared,
those of their bases as well. -/
theorem layout_slots_first (h : Handles c) (sampleLength : UInt32) (i : c.Index) :
    (16 ≤ (c.record i).headerLength → (layout h sampleLength i).StartsWithSlots h i) ∧
    (∀ source chunkSize, (load source chunkSize).result = .ok c →
      (c.record i).isValueType = true → (layout h sampleLength i).PlacesFields h i [] 0) := by
  constructor
  · intro h16
    have hheader : (c.record i).headerLength = ((c.record i).headerLength.toNat : Int) := by omega
    have hplaced := placedFields_of_slots (h := h) h16
    have hfields := layout_placesFields sampleLength hheader rfl hplaced
    have hsize : 16 ≤ (c.record i).size.toNat := by
      unfold TypeRecord.headerLength at h16
      omega
    refine ⟨?_, ?_, ⟨_, hheader, hfields⟩, ?_, ?_⟩
    · have hfirst : slotMembers <+: (layout h sampleLength i).members := by
        have hbody : slotMembers <+: (body h i).members := by
          rw [body_members, hplaced, Placement.behind, List.append_assoc]
          exact List.prefix_append _ _
        exact hbody.trans (List.prefix_append _ _)
      exact (List.prefix_iff_eq_take.1 hfirst).symm
    · intro m hm
      rcases List.mem_pair.1 hm with rfl | rfl <;>
      · simp only [Member.field]
        omega
    · rw [hheader]
      intro m hm
      exact_mod_cast hfields.placed_behind m hm
    · intro name field offset cursor hw
      rw [hheader]
      exact hfields.reported_behind hw
  · intro source chunkSize hload hvalue
    have hzero := headerLength_of_load hload hvalue
    exact layout_placesFields sampleLength hzero rfl (placedFields_of_no_slots (by omega))

/-- A unit with its fields in reverse order, and a pair that is derived from the unit and shares its
first four bytes with a field of it. -/
def slottedTypes : List TypeDescriptor :=
  [ { fullName := "app.Unit", objectKind := 1, length := 8, runtimeLength := 24, systemType := 28
      fields := [⟨"hp", 1, 4, 0⟩, ⟨"id", 1, 0, 0⟩] },
    { fullName := "System.Int32", objectKind := 5, length := 4, runtimeLength := 20
      systemType := 18 },
    { fullName := "app.Pair", objectKind := 5, length := 8, runtimeLength := 24, systemType := 28
      base := some 0, fields := [⟨"first", 1, 0, 0⟩] } ]

def slottedCatalog : Catalog where
  size := 3
  records := Catalog.resolveAll (recordsInRow slottedTypes)
  placed := by decide +kernel
  grounded := by decide +kernel

def slottedHandles : Handles slottedCatalog := ⟨#v[.struct ⟨0⟩, .scalar .i32, .struct ⟨1⟩]⟩

def slottedUnit : slottedCatalog.Index := ⟨0, by decide⟩

def slottedPair : slottedCatalog.Index := ⟨2, by decide⟩

theorem unit_slots_first :
    (16 ≤ (slottedCatalog.record slottedUnit).headerLength ∧
      (load (dumpOf slottedTypes) defaultChunkSize).result = .ok slottedCatalog ∧
      (slottedCatalog.record slottedPair).isValueType = true) ∧
    (layout slottedHandles 42 slottedUnit).StartsWithSlots slottedHandles slottedUnit ∧
    (layout slottedHandles 42 slottedPair).PlacesFields slottedHandles slottedPair [] 0 := by
  have hheader : 16 ≤ (slottedCatalog.record slottedUnit).headerLength := by decide +kernel
  have hvalue : (slottedCatalog.record slottedPair).isValueType = true := by decide +kernel
  have hload : (load (dumpOf slottedTypes) defaultChunkSize).result = .ok slottedCatalog :=
    load_dumpOf (Catalog.ofRecords_eq_ok_iff.2 ⟨rfl, by decide +kernel, rfl, rfl⟩) (by decide)
  exact ⟨⟨hheader, hload, hvalue⟩, (layout_slots_first _ _ _).1 hheader,
    (layout_slots_first _ _ _).2 _ _ hload hvalue⟩

end TypeRecovery
