import TypeRecovery.Proofs.Catalog.BaseChain
import TypeRecovery.Proofs.Layout.Ruling

/-!
# Bases embed into derived types

A layout is free of overlap warnings exactly if no two of its candidates share a byte and none starts
in front of the type. That carries over from a derived type to its bases, which then lay out the same
fields, only behind their own headers.
-/

namespace TypeRecovery

/-! ## Layouts without overlaps -/

/-- No byte belongs to both candidates. -/
def Candidate.Clear (a b : Candidate) : Prop := a.stop ≤ b.offset ∨ b.stop ≤ a.offset

instance (a b : Candidate) : Decidable (a.Clear b) := inferInstanceAs (Decidable (_ ∨ _))

theorem Candidate.Clear.symm {a b : Candidate} (h : a.Clear b) : b.Clear a := Or.symm h

theorem Candidate.takesBytes_iff (x : Candidate) : x.takesBytes ↔ x.offset < x.stop := by
  simp only [takesBytes, stop, decide_eq_true_eq]
  omega

theorem place_warnings_eq_nil_iff (typeName : String) (cursor : Nat) (cs : List Candidate) :
    (place typeName cursor cs).warnings = [] ↔
      (∀ x ∈ cs.filter (·.takesBytes), cursor ≤ x.offset) ∧
      (cs.filter (·.takesBytes)).Pairwise fun a b => a.stop ≤ b.offset := by
  fun_induction place typeName cursor cs with
  | case1 cursor => simp
  | case2 cursor x rest h ih =>
    rw [ih, Candidate.filter_takesBytes_cons_of_eq_zero h]
  | case3 cursor x rest h hx p ih =>
    rw [Candidate.filter_takesBytes_cons_of_ne_zero h]
    simp only [reduceCtorEq, List.forall_mem_cons, false_iff, not_and]
    intro hcursor
    omega
  | case4 cursor x rest h hx start p ih =>
    have hstop : ((start + x.storage.length : Nat) : Int) = x.stop := by
      simp only [start, Candidate.stop]
      omega
    rw [Candidate.filter_takesBytes_cons_of_ne_zero h, List.forall_mem_cons,
      List.pairwise_cons, ih, hstop]
    constructor
    · rintro ⟨hrest, hpair⟩
      refine ⟨⟨by omega, fun y hy => ?_⟩, hrest, hpair⟩
      have := hrest y hy
      omega
    · rintro ⟨-, hrest, hpair⟩
      exact ⟨hrest, hpair⟩

theorem StablySorted.pairwise_clear_iff {cs order : List Candidate} (h : StablySorted cs order)
    (hcs : ∀ x ∈ cs, x.takesBytes) :
    (order.Pairwise fun a b => a.stop ≤ b.offset) ↔ cs.Pairwise Candidate.Clear := by
  rw [← h.perm.pairwise_iff fun hab => Candidate.Clear.symm hab]
  constructor
  · exact List.Pairwise.imp Or.inl
  · intro hclear
    refine (h.ascending.and hclear).imp_of_mem fun {a b} ha hb hab => ?_
    -- The later one takes bytes, so that it cannot end where the earlier one starts.
    have := (Candidate.takesBytes_iff b).1 (hcs b (h.perm.mem_iff.1 hb))
    rcases hab with ⟨hle, hab | hba⟩
    · exact hab
    · omega

variable {c : Catalog}

theorem takesBytes_of_mem {h : Handles c} {i : c.Index} :
    ∀ x ∈ sizedCandidates h i, x.takesBytes := by
  intro x hx
  exact (List.mem_filter.1 hx).2

theorem overlaps_eq_nil_iff (h : Handles c) (sampleLength : UInt32) (i : c.Index) :
    (layout h sampleLength i).overlaps = [] ↔
      (∀ x ∈ sizedCandidates h i, 0 ≤ x.offset) ∧
      (sizedCandidates h i).Pairwise Candidate.Clear := by
  have hsorted := (sortCandidates_stable (candidates h i)).filter Candidate.takesBytes
  rw [filter_candidates] at hsorted
  rw [layout_overlaps, placedFields, place_warnings_eq_nil_iff,
    hsorted.pairwise_clear_iff takesBytes_of_mem]
  exact and_congr_left' (forall_congr' fun x => by rw [hsorted.perm.mem_iff]; rfl)

theorem placedOf_eq_of_reportsOf_eq_nil {typeName : String} {rs : List Ruling}
    (h : reportsOf typeName rs = []) : placedOf rs = rs.map Ruling.candidate := by
  induction rs with
  | nil => rfl
  | cons r rs ih =>
    obtain ⟨x, v⟩ := r
    cases v with
    | placed => exact congrArg (x :: ·) (ih h)
    | overlapping cursor => simp [reportsOf] at h

theorem mem_named_iff {h : Handles c} {sampleLength : UInt32} {i : c.Index}
    (hclean : (layout h sampleLength i).overlaps = []) (m : Member) :
    m ∈ namedMembers ((layout h sampleLength i).body (c.record i)) ↔
      ∃ x ∈ sizedCandidates h i, x.member = m := by
  rw [layout_reports] at hclean
  rw [layout_named, placedOf_eq_of_reportsOf_eq_nil hclean, List.mem_map]
  exact exists_congr fun x => and_congr_left' (rulings_sorted h i).perm.mem_iff

/-! ## Slots and fields -/

theorem inheritedFields_suffix {derived base : c.Index} (hb : base ∈ c.baseChain derived) :
    inheritedFields c base <:+ inheritedFields c derived := by
  obtain ⟨own, hown⟩ := baseChain_suffix hb
  unfold inheritedFields
  rw [← hown, List.flatMap_append]
  exact List.suffix_append _ _

/-- The fields of a type and its bases that take bytes. -/
def storedFields (h : Handles c) (i : c.Index) : List (FieldRecord c.Index) :=
  (inheritedFields c i).filter fun f => (h.storage f.type).length ≠ 0

theorem sizedCandidates_eq (h : Handles c) (i : c.Index) :
    sizedCandidates h i =
      headerSlots (c.record i).headerLength ++
        (storedFields h i).map (fieldCandidate h (c.record i).headerLength) := by
  have hslots : ∀ x ∈ headerSlots (c.record i).headerLength, x.takesBytes := by
    unfold headerSlots
    split <;> simp [Candidate.takesBytes, slotStorage, pointerSize]
  rw [← filter_candidates, candidates, List.filter_append, List.filter_eq_self.2 hslots,
    List.filter_map]
  rfl

theorem storedFields_suffix (h : Handles c) {derived base : c.Index}
    (hb : base ∈ c.baseChain derived) : storedFields h base <:+ storedFields h derived :=
  (inheritedFields_suffix hb).filter _

theorem clear_fieldCandidate_iff (h : Handles c) (header header' : Int)
    (f g : FieldRecord c.Index) :
    (fieldCandidate h header f).Clear (fieldCandidate h header g) ↔
      (fieldCandidate h header' f).Clear (fieldCandidate h header' g) := by
  simp only [Candidate.Clear, Candidate.stop, fieldCandidate]
  omega

theorem mem_headerSlots {header : Int} {x : Candidate} (hx : x ∈ headerSlots header) :
    0 ≤ x.offset ∧ x.stop = x.offset + 8 ∧ x.stop ≤ header := by
  unfold headerSlots at hx
  split at hx
  · rename_i hheader
    have h16 : 16 ≤ header := hheader
    rcases List.mem_pair.1 hx with rfl | rfl <;>
    · simp only [Candidate.stop, slotStorage, pointerSize]
      omega
  · simp at hx

theorem headerSlots_clear (header : Int) : (headerSlots header).Pairwise Candidate.Clear := by
  unfold headerSlots
  split <;> simp [Candidate.Clear, Candidate.stop, slotStorage, pointerSize]

theorem fields_clear_of_overlaps_eq_nil {h : Handles c} {sampleLength : UInt32} {i : c.Index}
    (hclean : (layout h sampleLength i).overlaps = []) :
    (storedFields h i).Pairwise fun f g =>
      (fieldCandidate h (c.record i).headerLength f).Clear
        (fieldCandidate h (c.record i).headerLength g) := by
  obtain ⟨-, hclear⟩ := (overlaps_eq_nil_iff h sampleLength i).1 hclean
  rw [sizedCandidates_eq, List.pairwise_append] at hclear
  exact List.pairwise_map.1 hclear.2.1

/-- Behind a header that is not negative, fields that share no byte are all placed. -/
theorem overlaps_eq_nil_of_fields_clear {h : Handles c} {i : c.Index} (sampleLength : UInt32)
    (hheader : 0 ≤ (c.record i).headerLength)
    (hclear : (storedFields h i).Pairwise fun f g =>
      (fieldCandidate h (c.record i).headerLength f).Clear
        (fieldCandidate h (c.record i).headerLength g)) :
    (layout h sampleLength i).overlaps = [] := by
  rw [overlaps_eq_nil_iff, sizedCandidates_eq]
  constructor
  · intro x hx
    rcases List.mem_append.1 hx with hx | hx
    · exact (mem_headerSlots hx).1
    · obtain ⟨f, -, rfl⟩ := List.mem_map.1 hx
      simp only [fieldCandidate]
      omega
  · refine List.pairwise_append.2 ⟨headerSlots_clear _, List.pairwise_map.2 hclear, ?_⟩
    intro x hx y hy
    obtain ⟨f, -, rfl⟩ := List.mem_map.1 hy
    have := (mem_headerSlots hx).2.2
    left
    simp only [fieldCandidate]
    omega

/-! ## Members of declared fields -/

/-- The named members of a body without the slots in front. -/
def Layout.fieldMembers {ρ : Type} (r : TypeRecord ρ) (l : Layout) : List Member :=
  (namedMembers (l.body r)).filter fun m =>
    m ∉ (headerSlots r.headerLength).map Candidate.member

theorem mem_fieldMembers_iff {h : Handles c} {sampleLength : UInt32} {i : c.Index}
    (hclean : (layout h sampleLength i).overlaps = []) (m : Member) :
    m ∈ (layout h sampleLength i).fieldMembers (c.record i) ↔
      ∃ f ∈ storedFields h i, (fieldCandidate h (c.record i).headerLength f).member = m := by
  rw [Layout.fieldMembers, List.mem_filter, mem_named_iff hclean, sizedCandidates_eq]
  simp only [decide_eq_true_eq]
  constructor
  · rintro ⟨⟨x, hx, rfl⟩, hslot⟩
    rcases List.mem_append.1 hx with hx | hx
    · exact absurd (List.mem_map_of_mem hx) hslot
    · obtain ⟨f, hf, rfl⟩ := List.mem_map.1 hx
      exact ⟨f, hf, rfl⟩
  · rintro ⟨f, hf, rfl⟩
    refine ⟨⟨_, List.mem_append_right _ (List.mem_map_of_mem hf), rfl⟩, fun hslot => ?_⟩
    -- A field starts behind the header, where no slot starts.
    obtain ⟨x, hx, heq⟩ := List.mem_map.1 hslot
    have hoffset : x.offset.toNat = (fieldCandidate h (c.record i).headerLength f).offset.toNat :=
      congrArg Member.offset heq
    have := mem_headerSlots hx
    simp only [fieldCandidate] at hoffset
    omega

/-! ## Embedding -/

/-- If a derived type is laid out without overlaps, so is each of its bases with a header that is not
negative, and every field of the base lies in the derived type as well, moved by as much as the
headers differ. -/
theorem base_layout_embeds (h : Handles c) (sampleLength : UInt32) {derived base : c.Index}
    (hbase : base ∈ c.baseChain derived) (hheader : 0 ≤ (c.record base).headerLength)
    (hclean : (layout h sampleLength derived).overlaps = []) :
    (layout h sampleLength base).overlaps = [] ∧
    (∀ m ∈ (layout h sampleLength base).fieldMembers (c.record base),
      ∃ m' ∈ (layout h sampleLength derived).fieldMembers (c.record derived),
        m'.name = m.name ∧ m'.type = m.type ∧ m'.length = m.length ∧
        (m'.offset : Int) =
          m.offset + (c.record derived).headerLength - (c.record base).headerLength) ∧
    ((c.record derived).headerLength = (c.record base).headerLength →
      ∀ m ∈ (layout h sampleLength base).fieldMembers (c.record base),
        m ∈ (layout h sampleLength derived).fieldMembers (c.record derived)) := by
  have hsuffix := storedFields_suffix h hbase
  have hbaseClean : (layout h sampleLength base).overlaps = [] := by
    apply overlaps_eq_nil_of_fields_clear sampleLength hheader
    have := (fields_clear_of_overlaps_eq_nil hclean).sublist hsuffix.sublist
    exact this.imp fun hfg => (clear_fieldCandidate_iff h _ _ _ _).1 hfg
  refine ⟨hbaseClean, fun m hm => ?_, fun heq m hm => ?_⟩
  · obtain ⟨f, hf, rfl⟩ := (mem_fieldMembers_iff hbaseClean m).1 hm
    refine ⟨_, (mem_fieldMembers_iff hclean _).2 ⟨f, hsuffix.mem hf, rfl⟩, rfl, rfl, rfl, ?_⟩
    have hderived : 0 ≤ (fieldCandidate h (c.record derived).headerLength f).offset := by
      apply ((overlaps_eq_nil_iff h sampleLength derived).1 hclean).1
      rw [sizedCandidates_eq]
      exact List.mem_append_right _ (List.mem_map_of_mem (hsuffix.mem hf))
    simp only [fieldCandidate, Candidate.member, Member.field] at hderived ⊢
    omega
  · obtain ⟨f, hf, rfl⟩ := (mem_fieldMembers_iff hbaseClean m).1 hm
    rw [← heq]
    exact (mem_fieldMembers_iff hclean _).2 ⟨f, hsuffix.mem hf, rfl⟩

/-- A number, a type with a header of 16 bytes that holds one, and a type derived from that with a
header of 24 bytes and a field on each side of the inherited one. -/
def shiftedCatalog : Catalog where
  size := 3
  records :=
    #v[⟨0, "Number", 0, true, 4, 4, 18, false, false, none, none, [], []⟩,
      ⟨1, "Base", 0, false, 24, 8, 28, false, false, none, none, [⟨"id", 0, 4⟩], []⟩,
      ⟨2, "Derived", 0, false, 40, 16, 28, false, false, some 1, none,
        [⟨"next", 2, 8⟩, ⟨"speed", 0, 0⟩], []⟩]
  placed := by decide
  grounded := by decide

def shiftedHandles : Handles shiftedCatalog := ⟨#v[.scalar .i32, .struct ⟨0⟩, .struct ⟨1⟩]⟩

def shiftedBase : shiftedCatalog.Index := ⟨1, by decide⟩

def shiftedDerived : shiftedCatalog.Index := ⟨2, by decide⟩

/-- The field at 20 behind the smaller header is found at 28 behind the larger one. -/
theorem shifted_base_embeds :
    (shiftedBase ∈ shiftedCatalog.baseChain shiftedDerived ∧
      0 ≤ (shiftedCatalog.record shiftedBase).headerLength ∧
      (layout shiftedHandles 42 shiftedDerived).overlaps = []) ∧
    (layout shiftedHandles 42 shiftedBase).overlaps = [] ∧
    ∃ m' ∈ (layout shiftedHandles 42 shiftedDerived).fieldMembers
        (shiftedCatalog.record shiftedDerived),
      m'.name = some "id" ∧ m'.type = .scalar .i32 ∧ m'.length = 4 ∧ (m'.offset : Int) = 28 := by
  have hbase : shiftedBase ∈ shiftedCatalog.baseChain shiftedDerived := by decide
  have hheader : 0 ≤ (shiftedCatalog.record shiftedBase).headerLength := by decide
  have hclean : (layout shiftedHandles 42 shiftedDerived).overlaps = [] :=
    (overlaps_eq_nil_iff _ _ _).2 (by decide)
  obtain ⟨hbaseClean, hmoved, -⟩ := base_layout_embeds shiftedHandles 42 hbase hheader hclean
  have hid : Member.field 20 "id" (.scalar .i32) 4 ∈
      (layout shiftedHandles 42 shiftedBase).fieldMembers (shiftedCatalog.record shiftedBase) :=
    (mem_fieldMembers_iff hbaseClean _).2 ⟨⟨"id", ⟨0, by decide⟩, 4⟩, by decide, by decide⟩
  exact ⟨⟨hbase, hheader, hclean⟩, hbaseClean, hmoved _ hid⟩

end TypeRecovery
