import TypeRecovery.Dump.Load

/-!
# Chunks without gaps

Chunks that come in the order of their starts hold each type index of a range once exactly if every
chunk that holds types starts where the types before it end.
-/

namespace TypeRecovery

/-! ## Counting types -/

def typeCount (chunks : List Chunk) : Nat := (chunks.flatMap Chunk.types).length

@[simp] theorem typeCount_nil : typeCount [] = 0 := rfl

@[simp] theorem typeCount_cons (chunk : Chunk) (rest : List Chunk) :
    typeCount (chunk :: rest) = chunk.types.length + typeCount rest := by
  simp [typeCount]

theorem typeCount_append (front rest : List Chunk) :
    typeCount (front ++ rest) = typeCount front + typeCount rest := by
  simp [typeCount]

theorem typeCount_take_succ {chunks : List Chunk} {k : Nat} {chunk : Chunk}
    (h : chunks[k]? = some chunk) :
    typeCount (chunks.take (k + 1)) = typeCount (chunks.take k) + chunk.types.length := by
  rw [List.take_add_one, h, typeCount_append]
  simp

/-! ## Gap-free chunks -/

/-- Each chunk that holds types starts at the end of the types before it, the first one at `reach`,
and the last types end at `count`. -/
def Contiguous : Nat → List Chunk → Nat → Prop
  | reach, [], count => reach = count
  | reach, chunk :: rest, count =>
    (chunk.types ≠ [] → chunk.start.toNat = reach) ∧
      Contiguous (reach + chunk.types.length) rest count

theorem Contiguous.count_eq {reach count : Nat} {chunks : List Chunk}
    (h : Contiguous reach chunks count) : count = reach + typeCount chunks := by
  induction chunks generalizing reach with
  | nil => exact h.symm
  | cons chunk rest ih =>
    have := ih h.2
    rw [typeCount_cons]
    omega

theorem contiguous_iff {reach count : Nat} {chunks : List Chunk} :
    Contiguous reach chunks count ↔
      (∀ k chunk, chunks[k]? = some chunk → chunk.types ≠ [] →
        chunk.start.toNat = reach + typeCount (chunks.take k)) ∧
      count = reach + typeCount chunks := by
  induction chunks generalizing reach with
  | nil => simp [Contiguous, eq_comm]
  | cons chunk rest ih =>
    rw [Contiguous, ih, typeCount_cons]
    constructor
    · rintro ⟨hfirst, hrest, hcount⟩
      refine ⟨fun k other hk hne => ?_, by omega⟩
      cases k with
      | zero =>
        obtain rfl := Option.some.inj hk
        exact hfirst hne
      | succ k =>
        rw [List.take_succ_cons, typeCount_cons, hrest k other hk hne]
        omega
    · rintro ⟨hall, hcount⟩
      refine ⟨fun hne => hall 0 chunk rfl hne, fun k other hk hne => ?_, by omega⟩
      have := hall (k + 1) other hk hne
      rw [List.take_succ_cons, typeCount_cons] at this
      omega

/-! ## Positions -/

def Chunk.Covers (chunk : Chunk) (position : Nat) : Prop :=
  chunk.start.toNat ≤ position ∧ position < chunk.stop

instance (chunk : Chunk) (position : Nat) : Decidable (chunk.Covers position) :=
  inferInstanceAs (Decidable (_ ∧ _))

/-- How many chunks hold a type at a position. -/
def coverCount (chunks : List Chunk) (position : Nat) : Nat :=
  chunks.countP fun chunk => chunk.Covers position

/-- One chunk holds each position from `reach` up to `count`, and none holds another. -/
def CoversOnce (chunks : List Chunk) (reach count : Nat) : Prop :=
  ∀ position, coverCount chunks position = if reach ≤ position ∧ position < count then 1 else 0

def StartsAscend (chunks : List Chunk) : Prop :=
  chunks.Pairwise fun chunk other => chunk.start.toNat < other.start.toNat

section

variable {chunk : Chunk} {rest chunks : List Chunk} {reach count position : Nat}

theorem Chunk.not_covers_of_nil (hnil : chunk.types = []) : ¬chunk.Covers position := by
  unfold Chunk.Covers Chunk.stop
  rw [hnil, List.length_nil]
  omega

theorem coverCount_cons :
    coverCount (chunk :: rest) position =
      coverCount rest position + if chunk.Covers position then 1 else 0 := by
  simp [coverCount, List.countP_cons]

theorem coversOnce_nil : CoversOnce [] reach count ↔ count ≤ reach := by
  constructor
  · intro h
    refine Nat.not_lt.1 fun hlt => ?_
    have := h reach
    rw [if_pos ⟨Nat.le_refl _, hlt⟩] at this
    cases this
  · intro hle position
    rw [if_neg (by omega)]
    rfl

theorem coversOnce_cons_of_nil (hnil : chunk.types = []) :
    CoversOnce (chunk :: rest) reach count ↔ CoversOnce rest reach count := by
  refine forall_congr' fun position => ?_
  rw [coverCount_cons, if_neg (Chunk.not_covers_of_nil hnil), Nat.add_zero]

theorem coversOnce_cons_of_start (hne : chunk.types ≠ []) (hstart : chunk.start.toNat = reach) :
    CoversOnce (chunk :: rest) reach count ↔
      chunk.stop ≤ count ∧ CoversOnce rest chunk.stop count := by
  have hpos := List.length_pos_iff.2 hne
  have hstop : chunk.stop = reach + chunk.types.length := by rw [Chunk.stop, hstart]
  unfold CoversOnce
  simp only [coverCount_cons, Chunk.Covers, hstart]
  constructor
  · intro h
    refine ⟨?_, fun position => ?_⟩
    · have := h (chunk.stop - 1)
      split at this <;> split at this <;> omega
    · have := h position
      split at this <;> split at this <;> split <;> omega
  · rintro ⟨hle, h⟩ position
    have := h position
    split at this <;> split <;> split <;> omega

/-- The first types stand at the start of the range, since no later chunk starts there. -/
theorem CoversOnce.start_eq (h : CoversOnce (chunk :: rest) reach count)
    (hascending : StartsAscend (chunk :: rest)) (hne : chunk.types ≠ []) :
    chunk.start.toNat = reach := by
  have hpos := List.length_pos_iff.2 hne
  have hin : reach ≤ chunk.start.toNat ∧ chunk.start.toNat < count := by
    have hfirst := h chunk.start.toNat
    rw [coverCount_cons, if_pos ⟨Nat.le_refl _, by rw [Chunk.stop]; omega⟩] at hfirst
    split at hfirst <;> omega
  refine Decidable.byContradiction fun hgap => ?_
  have hnone : coverCount (chunk :: rest) reach = 0 := by
    refine List.countP_eq_zero.2 fun other hother => ?_
    have hbehind : reach < other.start.toNat := by
      rcases List.mem_cons.1 hother with rfl | hrest
      · omega
      · have := (List.pairwise_cons.1 hascending).1 other hrest
        omega
    simpa using fun hcovers : other.Covers reach => Nat.not_le.2 hbehind hcovers.1
  rw [h reach, if_pos ⟨Nat.le_refl _, by omega⟩] at hnone
  cases hnone

theorem contiguous_iff_coversOnce (hascending : StartsAscend chunks) (hreach : reach ≤ count) :
    Contiguous reach chunks count ↔ CoversOnce chunks reach count := by
  induction chunks generalizing reach with
  | nil =>
    rw [Contiguous, coversOnce_nil]
    omega
  | cons chunk rest ih =>
    have hrest := (List.pairwise_cons.1 hascending).2
    by_cases hnil : chunk.types = []
    · rw [coversOnce_cons_of_nil hnil, ← ih hrest hreach, Contiguous, hnil]
      exact and_iff_right fun hne => absurd rfl hne
    · have hstep : chunk.start.toNat = reach →
          (Contiguous (reach + chunk.types.length) rest count ↔
            CoversOnce (chunk :: rest) reach count) := by
        intro hstart
        have hstop : chunk.stop = reach + chunk.types.length := by rw [Chunk.stop, hstart]
        rw [coversOnce_cons_of_start hnil hstart, ← hstop]
        constructor
        · intro h
          have := h.count_eq
          have hle : chunk.stop ≤ count := by omega
          exact ⟨hle, (ih hrest hle).1 h⟩
        · rintro ⟨hle, h⟩
          exact (ih hrest hle).2 h
      constructor
      · rintro ⟨hstart, h⟩
        exact (hstep (hstart hnil)).1 h
      · intro h
        have hstart := h.start_eq hascending hnil
        exact ⟨fun _ => hstart, (hstep hstart).2 h⟩

/-! ## Misplaced types -/

/-- The chunk at place `k` holds the type at a position. -/
def Holds (chunks : List Chunk) (k position : Nat) : Prop :=
  ∃ chunk, chunks[k]? = some chunk ∧ chunk.start.toNat ≤ position ∧ position < chunk.stop

theorem coverCount_pos_iff : 0 < coverCount chunks position ↔ ∃ k, Holds chunks k position := by
  unfold coverCount Holds
  simp only [List.countP_pos_iff, List.mem_iff_getElem?, decide_eq_true_eq]
  constructor
  · rintro ⟨chunk, ⟨k, hk⟩, hcovers⟩
    exact ⟨k, chunk, hk, hcovers⟩
  · rintro ⟨k, chunk, hk, hcovers⟩
    exact ⟨chunk, ⟨k, hk⟩, hcovers⟩

theorem coverCount_of_holds_twice {j k : Nat} (hjk : j < k) (hj : Holds chunks j position)
    (hk : Holds chunks k position) : 1 < coverCount chunks position := by
  induction chunks generalizing j k with
  | nil =>
    obtain ⟨chunk, hchunk, -⟩ := hj
    cases hchunk
  | cons chunk rest ih =>
    obtain ⟨k, rfl⟩ := Nat.exists_eq_add_one_of_ne_zero (Nat.ne_zero_of_lt hjk)
    have hrest : Holds rest k position := hk
    rw [coverCount_cons]
    cases j with
    | zero =>
      obtain ⟨_, ⟨⟩, hcovers⟩ := hj
      have := coverCount_pos_iff.2 ⟨k, hrest⟩
      rw [if_pos (show chunk.Covers position from hcovers)]
      omega
    | succ j =>
      have := ih (Nat.lt_of_succ_lt_succ hjk) hj hrest
      omega

/-- A position that two chunks hold, one that lies past the end of the last chunk, or one in front
of that end that no chunk holds. -/
def Misplaced (chunks : List Chunk) (last : Chunk) : Prop :=
  (∃ j k position, j ≠ k ∧ Holds chunks j position ∧ Holds chunks k position) ∨
  (∃ k position, Holds chunks k position ∧ last.stop ≤ position) ∨
  ∃ position, position < last.stop ∧ ∀ k, ¬Holds chunks k position

theorem CoversOnce.not_misplaced {last : Chunk} (h : CoversOnce chunks 0 last.stop) :
    ¬Misplaced chunks last := by
  have hone : ∀ position, coverCount chunks position ≤ 1 := by
    intro position
    rw [h position]
    split <;> decide
  rintro (⟨j, k, position, hne, hj, hk⟩ | ⟨k, position, hk, hle⟩ | ⟨position, hlt, hnone⟩)
  · rcases Nat.lt_or_gt_of_ne hne with hlt | hlt
    · exact absurd (hone position) (Nat.not_le.2 (coverCount_of_holds_twice hlt hj hk))
    · exact absurd (hone position) (Nat.not_le.2 (coverCount_of_holds_twice hlt hk hj))
  · have := coverCount_pos_iff.2 ⟨k, hk⟩
    rw [h position, if_neg (by omega)] at this
    omega
  · have := h position
    rw [if_pos (by omega)] at this
    obtain ⟨k, hk⟩ := coverCount_pos_iff.1 (by rw [this]; decide)
    exact hnone k hk

end

end TypeRecovery
