import Mathlib.Algebra.Ring.Nat
import Mathlib.Data.List.Chain
import TypeRecovery.Layout.Basic

/-!
# Layouts cover their types

The members of a layout lie one behind the other. In front of an array trailer they cover the
declared size, or the fields where those reach further, and then there is a warning.
-/

namespace TypeRecovery

/-! ## Parts of a layout -/

/-- The members in front of an array trailer. -/
def Layout.body {ρ : Type} (r : TypeRecord ρ) (l : Layout) : List Member :=
  match r.element with
  | some _ => l.members.take (l.members.length - 5)
  | none => l.members

/-- The members that are no filler. -/
def namedMembers (ms : List Member) : List Member := ms.filter fun m => !m.isFiller

/-- The end of the last named member, or zero if there is none. -/
def namedStop (ms : List Member) : Nat :=
  ((namedMembers ms).getLast?.map fun m => m.offset + m.length).getD 0

def LayoutWarning.isOverlap : LayoutWarning → Bool
  | .overlap .. => true
  | .overflow .. => false

theorem length_trailer (offset : Nat) (element : Storage) (count : Nat) :
    (trailer offset element count).length = 5 := by
  simp [trailer, trailerNames]

variable {c : Catalog}

theorem layout_body (h : Handles c) (sampleLength : UInt32) (i : c.Index) :
    (layout h sampleLength i).body (c.record i) = (body h i).members := by
  unfold Layout.body layout
  cases (c.record i).element with
  | none => simp
  | some e => simp [length_trailer]

theorem length_layout_members (h : Handles c) (sampleLength : UInt32) (i : c.Index)
    (he : (c.record i).element.isSome) :
    (layout h sampleLength i).members.length = (body h i).members.length + 5 := by
  obtain ⟨e, he⟩ := Option.isSome_iff_exists.1 he
  simp [layout, he, length_trailer]

/-! ## Tilings -/

/-- Members one behind the other, from `start` up to `stop`. -/
def Tiles : Nat → List Member → Nat → Prop
  | start, [], stop => start = stop
  | start, m :: ms, stop => m.offset = start ∧ Tiles (m.offset + m.length) ms stop

theorem Tiles.append {start mid stop : Nat} {ms ns : List Member} (hms : Tiles start ms mid)
    (hns : Tiles mid ns stop) : Tiles start (ms ++ ns) stop := by
  induction ms generalizing start with
  | nil => cases hms; exact hns
  | cons m ms ih => exact ⟨hms.1, ih hms.2⟩

theorem Tiles.sum_length {start stop : Nat} {ms : List Member} (hms : Tiles start ms stop) :
    start + (ms.map Member.length).sum = stop := by
  induction ms generalizing start with
  | nil => exact hms
  | cons m ms ih =>
    obtain ⟨rfl, hrest⟩ := hms
    rw [List.map_cons, List.sum_cons, ← Nat.add_assoc]
    exact ih hrest

@[simp] theorem fillGap_of_le {start stop : Nat} (h : stop ≤ start) : fillGap start stop = [] :=
  if_neg (Nat.not_lt.2 h)

theorem fillGap_tiles (start stop : Nat) : Tiles start (fillGap start stop) (max stop start) := by
  unfold fillGap
  split
  · refine ⟨rfl, ?_⟩
    simp only [Member.filler, Tiles]
    omega
  · simp only [Tiles]
    omega

theorem place_tiles (typeName : String) (cursor : Nat) (cs : List Candidate) :
    Tiles cursor (place typeName cursor cs).members (place typeName cursor cs).stop := by
  fun_induction place typeName cursor cs with
  | case1 cursor => rfl
  | case2 cursor x rest h ih => exact ih
  | case3 cursor x rest h hx p ih => exact ih
  | case4 cursor x rest h hx start p ih =>
    have hgap := fillGap_tiles cursor start
    rw [Nat.max_eq_left (by omega)] at hgap
    exact hgap.append ⟨rfl, ih⟩

theorem trailer_tiles (offset : Nat) (element : Storage) (count : Nat) :
    Tiles offset (trailer offset element count) (offset + 16 + count * element.length) := by
  simp [trailer, trailerNames, countField, Member.field, Tiles]

/-! ## The kinds of members -/

/-- The member takes bytes, and if it has no name it is that many bytes of unknown meaning. -/
def Member.Plain (m : Member) : Prop :=
  0 < m.length ∧ (m.isFiller → m.type = .array .undefined m.length 1)

/-- Two neighbours with a name between them. -/
def Member.Apart (a b : Member) : Prop := ¬(a.isFiller ∧ b.isFiller)

theorem mem_fillGap {start stop : Nat} {m : Member} (hm : m ∈ fillGap start stop) :
    m = .filler start (stop - start) ∧ start < stop := by
  unfold fillGap at hm
  split at hm
  · exact ⟨by simpa using hm, by assumption⟩
  · simp at hm

theorem fillGap_plain {start stop : Nat} : ∀ m ∈ fillGap start stop, m.Plain := by
  intro m hm
  obtain ⟨rfl, h⟩ := mem_fillGap hm
  exact ⟨by simp only [Member.filler]; omega, fun _ => rfl⟩

theorem fillGap_chain (start stop : Nat) : (fillGap start stop).IsChain Member.Apart := by
  unfold fillGap
  split <;> simp

theorem place_plain (typeName : String) (cursor : Nat) (cs : List Candidate) :
    ∀ m ∈ (place typeName cursor cs).members, m.Plain := by
  fun_induction place typeName cursor cs with
  | case1 cursor => simp
  | case2 cursor x rest h ih => exact ih
  | case3 cursor x rest h hx p ih => exact ih
  | case4 cursor x rest h hx start p ih =>
    intro m hm
    rw [List.mem_append, List.mem_cons] at hm
    rcases hm with hm | rfl | hm
    · exact fillGap_plain m hm
    · exact ⟨by simp only [Member.field]; omega, by simp⟩
    · exact ih m hm

theorem place_last (typeName : String) (cursor : Nat) (cs : List Candidate) :
    ∀ m ∈ (place typeName cursor cs).members.getLast?, m.isFiller = false := by
  fun_induction place typeName cursor cs with
  | case1 cursor => simp
  | case2 cursor x rest h ih => exact ih
  | case3 cursor x rest h hx p ih => exact ih
  | case4 cursor x rest h hx start p ih =>
    intro m hm
    simp only [List.getLast?_append, List.getLast?_cons, Option.mem_def, Option.some_or,
      Option.some.injEq] at hm
    cases hp : p.members.getLast? with
    | none => rw [hp] at hm; rw [← hm]; rfl
    | some y => rw [hp] at hm; exact ih m (by rw [← hm]; exact hp)

theorem place_chain (typeName : String) (cursor : Nat) (cs : List Candidate) :
    (place typeName cursor cs).members.IsChain Member.Apart := by
  fun_induction place typeName cursor cs with
  | case1 cursor => simp
  | case2 cursor x rest h ih => exact ih
  | case3 cursor x rest h hx p ih => exact ih
  | case4 cursor x rest h hx start p ih =>
    refine List.isChain_append.2 ⟨fillGap_chain _ _, List.isChain_cons.2 ⟨?_, ih⟩, ?_⟩
    · simp [Member.Apart]
    · simp [Member.Apart]

/-! ## The end of the fields -/

@[simp] theorem namedMembers_append (ms ns : List Member) :
    namedMembers (ms ++ ns) = namedMembers ms ++ namedMembers ns := List.filter_append ..

@[simp] theorem namedMembers_fillGap (start stop : Nat) :
    namedMembers (fillGap start stop) = [] := by
  unfold fillGap
  split <;> simp [namedMembers]

@[simp] theorem namedMembers_field (offset : Nat) (name : String) (type : DataType) (length : Nat)
    (ms : List Member) :
    namedMembers (.field offset name type length :: ms) =
      .field offset name type length :: namedMembers ms := by
  simp [namedMembers]

theorem place_stop (typeName : String) (cursor : Nat) (cs : List Candidate) :
    (place typeName cursor cs).stop =
      ((namedMembers (place typeName cursor cs).members).getLast?.map
        fun m => m.offset + m.length).getD cursor := by
  fun_induction place typeName cursor cs with
  | case1 cursor => simp [namedMembers]
  | case2 cursor x rest h ih => exact ih
  | case3 cursor x rest h hx p ih => exact ih
  | case4 cursor x rest h hx start p ih =>
    simp only [namedMembers_append, namedMembers_fillGap, namedMembers_field, List.nil_append,
      List.getLast?_cons, Option.map_some, Option.getD_some]
    rw [ih]
    cases (namedMembers p.members).getLast? <;> rfl

theorem place_isOverlap (typeName : String) (cursor : Nat) (cs : List Candidate) :
    ∀ w ∈ (place typeName cursor cs).warnings, w.isOverlap := by
  fun_induction place typeName cursor cs with
  | case1 cursor => simp
  | case2 cursor x rest h ih => exact ih
  | case3 cursor x rest h hx p ih =>
    intro w hw
    rcases List.mem_cons.1 hw with rfl | hw
    · rfl
    · exact ih w hw
  | case4 cursor x rest h hx start p ih => exact ih

/-! ## Padding -/

/-- The fields of a type in their places, before padding. -/
def placedFields (h : Handles c) (i : c.Index) : Placement :=
  place (c.record i).fullName 0 (sortCandidates (candidates h i))

theorem body_members (h : Handles c) (i : c.Index) :
    (body h i).members = (placedFields h i).members ++
      fillGap (placedFields h i).stop (c.record i).size.toNat := by
  show (pad _ _ (placedFields h i)).members = _
  unfold pad
  split
  · rw [fillGap_of_le (by omega), List.append_nil]
  · rfl

theorem body_stop (h : Handles c) (i : c.Index) :
    (body h i).stop = max (c.record i).size.toNat (placedFields h i).stop := by
  show (pad _ _ (placedFields h i)).stop = _
  unfold pad
  split
  all_goals
    simp only
    omega

theorem body_warnings (h : Handles c) (i : c.Index) :
    (body h i).warnings = (placedFields h i).warnings ++
      if (c.record i).size.toNat < (placedFields h i).stop then
        [.overflow (c.record i).fullName (placedFields h i).stop (c.record i).size]
      else [] := by
  show (pad _ _ (placedFields h i)).warnings = _
  unfold pad
  split
  · rfl
  · exact (List.append_nil _).symm

theorem namedMembers_body (h : Handles c) (i : c.Index) :
    namedMembers (body h i).members = namedMembers (placedFields h i).members := by
  rw [body_members, namedMembers_append, namedMembers_fillGap, List.append_nil]

theorem namedStop_body (h : Handles c) (i : c.Index) :
    namedStop (body h i).members = (placedFields h i).stop := by
  unfold namedStop
  rw [namedMembers_body, placedFields, place_stop]

theorem body_tiles (h : Handles c) (i : c.Index) :
    Tiles 0 (body h i).members (body h i).stop := by
  rw [body_members, body_stop]
  exact (place_tiles _ _ _).append (fillGap_tiles _ _)

/-- The bytes of an array trailer. -/
def trailerBytes (h : Handles c) (sampleLength : UInt32) (i : c.Index) : Nat :=
  match (c.record i).element with
  | some e => 16 + sampleLength.toNat * (h.storage e).length
  | none => 0

theorem layout_tiles_trailer (h : Handles c) (sampleLength : UInt32) (i : c.Index) :
    Tiles 0 (layout h sampleLength i).members
      ((body h i).stop + trailerBytes h sampleLength i) := by
  unfold layout trailerBytes
  cases (c.record i).element with
  | none => exact (body_tiles h i).append rfl
  | some e =>
    have htrailer := trailer_tiles (body h i).stop (h.storage e) sampleLength.toNat
    rw [Nat.add_assoc] at htrailer
    exact (body_tiles h i).append htrailer

theorem layout_tiles (h : Handles c) (sampleLength : UInt32) (i : c.Index) :
    ∃ stop, Tiles 0 (layout h sampleLength i).members stop :=
  ⟨_, layout_tiles_trailer h sampleLength i⟩

theorem body_plain (h : Handles c) (i : c.Index) : ∀ m ∈ (body h i).members, m.Plain := by
  rw [body_members]
  intro m hm
  rcases List.mem_append.1 hm with hm | hm
  · exact place_plain _ _ _ m hm
  · exact fillGap_plain m hm

theorem body_chain (h : Handles c) (i : c.Index) :
    (body h i).members.IsChain Member.Apart := by
  rw [body_members]
  refine List.isChain_append.2 ⟨place_chain _ _ _, fillGap_chain _ _, ?_⟩
  intro m hm n _
  have : m.isFiller = false := place_last _ _ _ m hm
  simp [Member.Apart, this]

theorem body_overflow {h : Handles c} {i : c.Index}
    (hlt : (c.record i).size.toNat < namedStop (body h i).members) :
    ∃ ws, (∀ w ∈ ws, w.isOverlap) ∧
      (body h i).warnings =
        ws ++ [.overflow (c.record i).fullName (namedStop (body h i).members) (c.record i).size] := by
  rw [namedStop_body] at hlt ⊢
  refine ⟨(placedFields h i).warnings, place_isOverlap _ _ _, ?_⟩
  rw [body_warnings, if_pos hlt]

theorem body_last {h : Handles c} {i : c.Index}
    (hlt : (c.record i).size.toNat < namedStop (body h i).members) :
    ∀ m ∈ (body h i).members.getLast?, m.isFiller = false := by
  rw [namedStop_body] at hlt
  rw [body_members, fillGap_of_le (by omega), List.append_nil]
  exact place_last _ _ _

theorem body_overflow_iff (h : Handles c) (i : c.Index) :
    (∃ name stop size, .overflow name stop size ∈ (body h i).warnings) ↔
      (c.record i).size.toNat < namedStop (body h i).members := by
  constructor
  · rintro ⟨name, stop, size, hw⟩
    rw [body_warnings, List.mem_append] at hw
    rw [namedStop_body]
    rcases hw with hw | hw
    · have := place_isOverlap _ _ _ _ hw
      simp [LayoutWarning.isOverlap] at this
    · split at hw
      · assumption
      · simp at hw
  · intro hlt
    obtain ⟨ws, -, hws⟩ := body_overflow hlt
    rw [hws]
    exact ⟨_, _, _, List.mem_append_right _ (List.mem_singleton_self _)⟩

/-! ## Coverage -/

/-- The members of a layout tile memory, and in front of an array trailer they tile what the type
occupies: its declared size, or its fields with a warning where they end behind that. -/
structure Layout.Covers {ρ : Type} (r : TypeRecord ρ) (l : Layout) : Prop where
  /-- An array trailer continues the tiling. -/
  tiles : ∃ stop, Tiles 0 l.members stop
  trailer : r.element.isSome → 5 ≤ l.members.length
  body_tiles : Tiles 0 (l.body r) l.occupied
  body_plain : ∀ m ∈ l.body r, m.Plain
  /-- No filler lies next to another. -/
  body_apart : (l.body r).IsChain Member.Apart
  occupied_eq : l.occupied = max r.size.toNat (namedStop (l.body r))
  overflow_iff : (∃ name stop size, .overflow name stop size ∈ l.warnings) ↔
    r.size.toNat < namedStop (l.body r)
  /-- A warning of the fields' end is the only one, comes last, and means that nothing is padded. -/
  overflow_last : r.size.toNat < namedStop (l.body r) →
    (∃ ws, (∀ w ∈ ws, w.isOverlap) ∧
      l.warnings = ws ++ [.overflow r.fullName (namedStop (l.body r)) r.size]) ∧
    ∀ m ∈ (l.body r).getLast?, m.isFiller = false

/-- Every layout covers its type, whatever the catalog, the handles and the sample length. -/
theorem layout_covers (h : Handles c) (sampleLength : UInt32) (i : c.Index) :
    (layout h sampleLength i).Covers (c.record i) where
  tiles := layout_tiles h sampleLength i
  trailer he := by
    rw [length_layout_members h sampleLength i he]
    omega
  body_tiles := by
    rw [layout_body]
    exact body_tiles h i
  body_plain := by
    rw [layout_body]
    exact body_plain h i
  body_apart := by
    rw [layout_body]
    exact body_chain h i
  occupied_eq := by
    rw [layout_body, namedStop_body]
    exact body_stop h i
  overflow_iff := by
    rw [layout_body]
    exact body_overflow_iff h i
  overflow_last hlt := by
    rw [layout_body] at hlt ⊢
    exact ⟨body_overflow hlt, body_last hlt⟩

end TypeRecovery
