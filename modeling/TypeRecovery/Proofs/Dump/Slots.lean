import TypeRecovery.Proofs.Dump.Cover
import TypeRecovery.Proofs.Results

/-!
# Filling the slots of a dump

The slots are filled exactly if each of them belongs to one chunk. Then they hold the types of the
chunks, and without gaps between these they hold them in one row.
-/

namespace TypeRecovery

/-! ## Types by position -/

/-- The type at a position, where types stand in a row from `start` on. -/
def typeFrom? (start : Nat) (ds : List TypeDescriptor) (position : Nat) : Option TypeDescriptor :=
  if position < start then none else ds[position - start]?

def Chunk.typeAt? (chunk : Chunk) : Nat → Option TypeDescriptor :=
  typeFrom? chunk.start.toNat chunk.types

/-- The type at a position, in the first chunk that has one there. -/
def typeAt? (chunks : List Chunk) (position : Nat) : Option TypeDescriptor :=
  chunks.findSome? fun chunk => chunk.typeAt? position

section

variable {start position : Nat} {d : TypeDescriptor} {ds : List TypeDescriptor} {chunk : Chunk}
  {rest chunks : List Chunk}

theorem typeFrom?_nil : typeFrom? start [] position = none := by
  simp [typeFrom?]

theorem typeFrom?_cons :
    typeFrom? start (d :: ds) position =
      if position = start then some d else typeFrom? (start + 1) ds position := by
  unfold typeFrom?
  by_cases heq : position = start
  · simp [heq]
  · by_cases hlt : position < start
    · rw [if_pos hlt, if_neg heq, if_pos (by omega)]
    · obtain ⟨n, rfl⟩ := Nat.exists_eq_add_of_lt (by omega : start < position)
      rw [if_neg hlt, if_neg heq, if_neg (by omega), show start + n + 1 - start = n + 1 by omega,
        show start + n + 1 - (start + 1) = n by omega, List.getElem?_cons_succ]

theorem Chunk.typeAt?_eq_none_iff : chunk.typeAt? position = none ↔ ¬chunk.Covers position := by
  unfold Chunk.typeAt? typeFrom? Chunk.Covers Chunk.stop
  split
  · simp only [true_iff]
    omega
  · rw [List.getElem?_eq_none_iff]
    omega

theorem Chunk.exists_typeAt?_iff :
    (∃ d, chunk.typeAt? position = some d) ↔ chunk.Covers position := by
  rw [← Option.isSome_iff_exists, ← Option.ne_none_iff_isSome, ne_eq, Chunk.typeAt?_eq_none_iff,
    Decidable.not_not]

theorem typeAt?_cons :
    typeAt? (chunk :: rest) position = (chunk.typeAt? position).or (typeAt? rest position) := by
  unfold typeAt?
  rw [List.findSome?_cons]
  cases chunk.typeAt? position <;> rfl

theorem typeAt?_eq_none_iff : typeAt? chunks position = none ↔ coverCount chunks position = 0 := by
  unfold typeAt? coverCount
  simp only [List.findSome?_eq_none_iff, Chunk.typeAt?_eq_none_iff, List.countP_eq_zero,
    decide_eq_true_eq]

theorem Contiguous.typeAt?_eq {reach count : Nat} (h : Contiguous reach chunks count) (n : Nat) :
    typeAt? chunks (reach + n) = (chunks.flatMap Chunk.types)[n]? := by
  induction chunks generalizing reach n with
  | nil => rfl
  | cons chunk rest ih =>
    obtain ⟨hstart, hrest⟩ := h
    rw [typeAt?_cons, List.flatMap_cons, List.getElem?_append]
    split
    · rename_i hlt
      have hne : chunk.types ≠ [] := List.ne_nil_of_length_pos (Nat.zero_lt_of_lt hlt)
      have hfirst : chunk.typeAt? (reach + n) = chunk.types[n]? := by
        unfold Chunk.typeAt? typeFrom?
        rw [hstart hne, if_neg (by omega), Nat.add_sub_cancel_left]
      rw [hfirst, List.getElem?_eq_getElem hlt]
      rfl
    · rename_i hge
      have hnone : chunk.typeAt? (reach + n) = none := by
        rw [Chunk.typeAt?_eq_none_iff]
        by_cases hnil : chunk.types = []
        · exact Chunk.not_covers_of_nil hnil
        · unfold Chunk.Covers Chunk.stop
          rw [hstart hnil]
          omega
      have hsplit : reach + n = reach + chunk.types.length + (n - chunk.types.length) := by omega
      rw [hnone, Option.none_or, hsplit, ih hrest]

end

/-! ## Filling -/

namespace TypeSlots

variable {slots slots' : TypeSlots} {type? other? : Nat → Option TypeDescriptor} {position : Nat}

/-- The slots with further types in them. -/
def filled (slots : TypeSlots) (type? : Nat → Option TypeDescriptor) : TypeSlots :=
  slots.mapIdx fun position slot => ((type? position).map (.ofDescriptor position)).or slot

/-- There are empty slots for the types, and indices. -/
def Free (slots : TypeSlots) (type? : Nat → Option TypeDescriptor) : Prop :=
  ∀ position d, type? position = some d → slots[position]? = some none ∧ position < startBound

theorem getElem?_filled :
    (slots.filled type?)[position]? =
      slots[position]?.map (((type? position).map (.ofDescriptor position)).or ·) := by
  unfold filled
  rw [Array.getElem?_mapIdx]

theorem filled_eq_empty_iff :
    (slots.filled type?)[position]? = some none ↔
      slots[position]? = some none ∧ type? position = none := by
  rw [getElem?_filled]
  cases slots[position]? <;> cases type? position <;> simp

theorem filled_none (h : ∀ position, type? position = none) : slots.filled type? = slots := by
  apply Array.ext_getElem?
  intro position
  rw [getElem?_filled, h position]
  cases slots[position]? <;> rfl

theorem filled_filled :
    (slots.filled type?).filled other? =
      slots.filled fun position => (other? position).or (type? position) := by
  apply Array.ext_getElem?
  intro position
  rw [getElem?_filled, getElem?_filled, getElem?_filled]
  cases slots[position]? <;> cases other? position <;> cases type? position <;> rfl

theorem set!_eq_filled {d : TypeDescriptor} (hempty : slots[position]? = some none) :
    slots.set! position (some (.ofDescriptor position d)) =
      slots.filled (typeFrom? position [d]) := by
  apply Array.ext_getElem?
  intro other
  rw [getElem?_filled, Array.set!_eq_setIfInBounds, Array.getElem?_setIfInBounds, typeFrom?_cons,
    typeFrom?_nil]
  by_cases heq : position = other
  · subst heq
    obtain ⟨hlt, -⟩ := Array.getElem?_eq_some_iff.1 hempty
    simp [hlt]
  · rw [if_neg heq, if_neg (Ne.symm heq)]
    cases slots[other]? <;> rfl

theorem free_nil : slots.Free (typeFrom? position []) := by
  intro other d h
  rw [typeFrom?_nil] at h
  cases h

theorem free_cons_iff {d : TypeDescriptor} {ds : List TypeDescriptor} :
    slots.Free (typeFrom? position (d :: ds)) ↔
      (slots[position]? = some none ∧ position < startBound) ∧
        (slots.filled (typeFrom? position [d])).Free (typeFrom? (position + 1) ds) := by
  unfold Free
  simp only [filled_eq_empty_iff, typeFrom?_cons, typeFrom?_nil]
  have hbehind : typeFrom? (position + 1) ds position = none := if_pos (Nat.lt_succ_self _)
  constructor
  · intro h
    refine ⟨h position d (if_pos rfl), fun other d' hother => ?_⟩
    have hne : other ≠ position := by
      rintro rfl
      rw [hbehind] at hother
      cases hother
    obtain ⟨hempty, hlt⟩ := h other d' ((if_neg hne).trans hother)
    exact ⟨⟨hempty, if_neg hne⟩, hlt⟩
  · rintro ⟨hfirst, hrest⟩ other d' hother
    by_cases heq : other = position
    · exact heq ▸ hfirst
    · obtain ⟨⟨hempty, -⟩, hlt⟩ := hrest other d' ((if_neg heq).symm.trans hother)
      exact ⟨hempty, hlt⟩

theorem filled_cons {d : TypeDescriptor} {ds : List TypeDescriptor} :
    (slots.filled (typeFrom? position [d])).filled (typeFrom? (position + 1) ds) =
      slots.filled (typeFrom? position (d :: ds)) := by
  rw [filled_filled]
  congr 1
  funext other
  rw [typeFrom?_cons, typeFrom?_cons, typeFrom?_nil]
  by_cases heq : other = position
  · rw [if_pos heq, if_pos heq, heq, show typeFrom? (position + 1) ds position = none from
      if_pos (Nat.lt_succ_self _)]
    rfl
  · rw [if_neg heq, if_neg heq, Option.or_none]

theorem fill_eq_ok_iff {start : Nat} {ds : List TypeDescriptor} :
    slots.fill start position ds = .ok slots' ↔
      slots.Free (typeFrom? position ds) ∧ slots' = slots.filled (typeFrom? position ds) := by
  induction ds generalizing slots position with
  | nil =>
    rw [filled_none fun _ => typeFrom?_nil, and_iff_right free_nil, fill, Except.ok.injEq, eq_comm]
  | cons d ds ih =>
    rw [fill, free_cons_iff]
    match hslot : slots[position]? with
    | none | some (some r) => simp
    | some none =>
      dsimp only
      by_cases hbound : position < startBound
      · rw [if_pos hbound, ih, set!_eq_filled hslot, filled_cons]
        simp [hbound]
      · simp [hbound]

theorem fill_error {start : Nat} {ds : List TypeDescriptor} {e : Error}
    (h : slots.fill start position ds = .error e) : ∃ cause, e = .malformed cause := by
  fun_induction fill slots start position ds with
  | case1 => cases h
  | case2 | case3 | case5 =>
    cases h
    exact ⟨_, rfl⟩
  | case4 slots position d ds hempty hbound ih => exact ih h

theorem free_typeAt?_iff {chunk : Chunk} :
    slots.Free chunk.typeAt? ↔
      ∀ position, chunk.Covers position → slots[position]? = some none ∧ position < startBound := by
  unfold Free
  simp only [← Chunk.exists_typeAt?_iff, forall_exists_index]

/-- Each slot that chunks need is free and needed once. -/
def FreeOnce (slots : TypeSlots) (chunks : List Chunk) : Prop :=
  ∀ position, 0 < coverCount chunks position →
    coverCount chunks position = 1 ∧ slots[position]? = some none ∧ position < startBound

theorem freeOnce_cons_iff {chunk : Chunk} {rest : List Chunk} :
    slots.FreeOnce (chunk :: rest) ↔
      slots.Free chunk.typeAt? ∧ (slots.filled chunk.typeAt?).FreeOnce rest := by
  rw [free_typeAt?_iff]
  unfold FreeOnce
  simp only [filled_eq_empty_iff, Chunk.typeAt?_eq_none_iff, coverCount_cons, ← forall_and]
  refine forall_congr' fun position => ?_
  by_cases hcovers : chunk.Covers position
  · simp only [hcovers, if_true, not_true_eq_false, and_false, false_and, true_implies, imp_false]
    constructor
    · intro h
      obtain ⟨hone, hfree⟩ := h (Nat.succ_pos _)
      exact ⟨hfree, by omega⟩
    · rintro ⟨hfree, hnone⟩ -
      exact ⟨by omega, hfree⟩
  · simp [hcovers]

theorem filled_typeAt?_cons {chunk : Chunk} {rest : List Chunk}
    (h : (slots.filled chunk.typeAt?).FreeOnce rest) :
    (slots.filled chunk.typeAt?).filled (typeAt? rest) =
      slots.filled (typeAt? (chunk :: rest)) := by
  rw [filled_filled]
  congr 1
  funext position
  rw [typeAt?_cons]
  by_cases hrest : coverCount rest position = 0
  · rw [typeAt?_eq_none_iff.2 hrest, Option.none_or, Option.or_none]
  · -- What the others put somewhere was not there before.
    have hempty := (h position (Nat.pos_of_ne_zero hrest)).2.1
    rw [(filled_eq_empty_iff.1 hempty).2, Option.none_or, Option.or_none]

theorem foldlM_place_eq_ok_iff {chunks : List Chunk} :
    chunks.foldlM place slots = .ok slots' ↔
      slots.FreeOnce chunks ∧ slots' = slots.filled (typeAt? chunks) := by
  induction chunks generalizing slots with
  | nil =>
    have hfree : slots.FreeOnce [] := fun _ h => absurd h (Nat.lt_irrefl 0)
    have hsame : slots.filled (typeAt? []) = slots := filled_none fun _ => rfl
    rw [hsame, and_iff_right hfree, List.foldlM_nil, eq_comm (a := slots')]
    exact iff_of_eq (Except.ok.injEq ..)
  | cons chunk rest ih =>
    have hplace : ∀ {mid}, slots.place chunk = .ok mid ↔
        slots.Free chunk.typeAt? ∧ mid = slots.filled chunk.typeAt? := fill_eq_ok_iff
    rw [List.foldlM_cons, exceptBind_eq_ok_iff, freeOnce_cons_iff]
    simp only [hplace, ih, and_assoc, exists_and_left, exists_eq_left]
    refine and_congr_right fun _ => and_congr_right fun hrest => ?_
    rw [filled_typeAt?_cons hrest]

theorem foldlM_place_error {chunks : List Chunk} {e : Error}
    (h : chunks.foldlM place slots = .error e) : ∃ cause, e = .malformed cause := by
  induction chunks generalizing slots with
  | nil => cases h
  | cons chunk rest ih =>
    rw [List.foldlM_cons] at h
    rcases exceptBind_eq_error_iff.1 h with h | ⟨mid, -, h⟩
    · exact fill_error h
    · exact ih h

/-! ## Reading the slots -/

theorem records_eq_ok_iff {rs : List (TypeRecord Nat)} :
    slots.records = .ok rs ↔ slots.toList = rs.map some := by
  unfold records
  rw [exceptMapM_eq_ok_iff]
  generalize slots.toList = slots
  generalize 0 = position
  induction slots generalizing rs position with
  | nil => cases rs <;> simp
  | cons slot slots ih =>
    cases rs with
    | nil => simp
    | cons r rs =>
      rw [List.zipIdx_cons, List.map_cons, List.map_cons, List.map_cons, List.cons.injEq,
        List.cons.injEq, ih]
      cases slot <;> simp

theorem records_error {e : Error} (h : slots.records = .error e) :
    ∃ cause, e = .malformed cause := by
  obtain ⟨⟨slot, position⟩, -, hslot⟩ := exists_of_mapM_eq_error h
  cases slot with
  | some r => cases hslot
  | none => exact ⟨_, (Except.error.inj hslot).symm⟩

end TypeSlots

/-! ## Collecting -/

/-- The records of all chunks in one row. -/
def recordsOf (chunks : List Chunk) : List (TypeRecord Nat) :=
  (chunks.flatMap Chunk.types).zipIdx.map fun (d, index) => .ofDescriptor index d

theorem freeOnce_replicate_iff {count : Nat} {chunks : List Chunk} :
    TypeSlots.FreeOnce (.replicate count none) chunks ↔ ∀ position,
      0 < coverCount chunks position →
        coverCount chunks position = 1 ∧ position < count ∧ position < startBound := by
  unfold TypeSlots.FreeOnce
  simp [Array.getElem?_replicate]

theorem toList_filled_replicate {count : Nat} {type? : Nat → Option TypeDescriptor} :
    (TypeSlots.filled (.replicate count none) type?).toList =
      (List.range count).map fun position => (type? position).map (.ofDescriptor position) := by
  apply List.ext_getElem?
  intro position
  rw [Array.getElem?_toList, TypeSlots.getElem?_filled, Array.getElem?_replicate, List.getElem?_map]
  by_cases hlt : position < count
  · rw [if_pos hlt, List.getElem?_range hlt]
    simp
  · rw [if_neg hlt, List.getElem?_eq_none (by simpa using hlt)]
    rfl

/-- Slots are filled exactly if each index that has one is covered once and no other index is. Each
then holds the type of its index. -/
theorem collect_eq_ok_iff {count : Nat} {chunks : List Chunk} {rs : List (TypeRecord Nat)} :
    collect count chunks = .ok rs ↔
      CoversOnce chunks 0 count ∧ count ≤ startBound ∧
        rs.map some = (List.range count).map fun position =>
          (typeAt? chunks position).map (.ofDescriptor position) := by
  unfold collect
  simp only [exceptBind_eq_ok_iff, TypeSlots.foldlM_place_eq_ok_iff, TypeSlots.records_eq_ok_iff,
    and_assoc, exists_eq_left, exists_and_left, toList_filled_replicate, freeOnce_replicate_iff]
  constructor
  · rintro ⟨hfree, hfull⟩
    have hcovered : ∀ position < count, 0 < coverCount chunks position := by
      intro position hlt
      refine Nat.pos_of_ne_zero fun hnone => ?_
      have hslot : (typeAt? chunks position).map (.ofDescriptor position) ∈ rs.map some :=
        hfull ▸ List.mem_map_of_mem (List.mem_range.2 hlt)
      rw [typeAt?_eq_none_iff.2 hnone] at hslot
      simp at hslot
    refine ⟨fun position => ?_, Nat.not_lt.1 fun hlt => ?_, hfull.symm⟩
    · split
      · rename_i hin
        exact (hfree position (hcovered position hin.2)).1
      · rename_i hout
        refine Nat.eq_zero_of_not_pos fun hpos => hout ?_
        exact ⟨Nat.zero_le _, (hfree position hpos).2.1⟩
    · exact Nat.lt_irrefl _ (hfree startBound (hcovered startBound hlt)).2.2
  · rintro ⟨honce, hbound, hfull⟩
    refine ⟨fun position hpos => ?_, hfull.symm⟩
    have hone := honce position
    split at hone <;> omega

theorem collect_error {count : Nat} {chunks : List Chunk} {e : Error}
    (h : collect count chunks = .error e) : ∃ cause, e = .malformed cause := by
  rcases exceptBind_eq_error_iff.1 h with h | ⟨slots, -, h⟩
  · exact TypeSlots.foldlM_place_error h
  · exact TypeSlots.records_error h

theorem collect_of_contiguous {count : Nat} {chunks : List Chunk} (hascending : StartsAscend chunks)
    (hcount : count ≤ startBound) (h : Contiguous 0 chunks count) :
    collect count chunks = .ok (recordsOf chunks) := by
  refine collect_eq_ok_iff.2
    ⟨(contiguous_iff_coversOnce hascending (Nat.zero_le _)).1 h, hcount, ?_⟩
  have hlength := h.count_eq
  rw [Nat.zero_add, typeCount] at hlength
  apply List.ext_getElem?
  intro position
  have htype := h.typeAt?_eq position
  rw [Nat.zero_add] at htype
  unfold recordsOf
  rw [List.getElem?_map, List.getElem?_map, List.getElem?_zipIdx, List.getElem?_map]
  by_cases hlt : position < count
  · rw [List.getElem?_range hlt, Option.map_some, htype, List.getElem?_eq_getElem (by omega)]
    simp
  · rw [List.getElem?_eq_none (by omega), List.getElem?_eq_none (by simpa using hlt)]
    rfl

theorem contiguous_of_collect {count : Nat} {chunks : List Chunk} {rs : List (TypeRecord Nat)}
    (hascending : StartsAscend chunks) (h : collect count chunks = .ok rs) :
    Contiguous 0 chunks count ∧ rs = recordsOf chunks := by
  obtain ⟨honce, hcount, -⟩ := collect_eq_ok_iff.1 h
  have hcontiguous := (contiguous_iff_coversOnce hascending (Nat.zero_le _)).2 honce
  rw [collect_of_contiguous hascending hcount hcontiguous] at h
  exact ⟨hcontiguous, (Except.ok.inj h).symm⟩

end TypeRecovery
