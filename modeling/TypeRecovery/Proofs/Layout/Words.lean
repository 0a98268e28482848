import Mathlib.Algebra.Ring.Int.Defs
import Mathlib.Data.Option.Basic
import TypeRecovery.Program.Basic
import TypeRecovery.Proofs.Arena.Lookup
import TypeRecovery.Proofs.Layout.Ruling

/-!
# Layouts in machine words

A layout in which every number has 64 bits, the offsets of candidates with a sign and all others
without one. It has no result as soon as a sum, a difference or a product does not fit. As sizes,
offsets and counts of a record have 32 bits, they all fit, and only the end of an array trailer may
lie beyond the last address. How much memory is set aside for the members is no number of the layout
and not computed here.
-/

namespace TypeRecovery

namespace Words

/-! ## Words -/

/-- A number without a sign, if it is one of 64 bits. -/
def unsigned? (n : Int) : Option Nat := if 0 ≤ n ∧ n < 2 ^ 64 then some n.toNat else none

/-- A number with a sign, if it is one of 64 bits. -/
def signed? (n : Int) : Option Int := if -2 ^ 63 ≤ n ∧ n < 2 ^ 63 then some n else none

theorem unsigned?_of_lt {n : Nat} (h : n < 2 ^ 64) : unsigned? n = some n := by
  unfold unsigned?
  rw [if_pos (by omega)]
  rfl

theorem unsigned?_of_neg {n : Int} (h : n < 0) : unsigned? n = none := if_neg (by omega)

theorem signed?_of_bounds {n : Int} (hlow : -2 ^ 63 ≤ n) (hhigh : n < 2 ^ 63) :
    signed? n = some n := if_pos ⟨hlow, hhigh⟩

/-! ## Candidates -/

variable {c : Catalog}

def headerLength? (r : c.Record) : Option Int :=
  signed? ((r.size.toNat : Int) - r.declaredSize.toNat)

def fieldCandidate? (h : Handles c) (header : Int) (f : FieldRecord c.Index) :
    Option Candidate := do
  let offset ← signed? (f.offset.toNat + header)
  some ⟨offset, f.name, h.storage f.type⟩

def candidates? (h : Handles c) (i : c.Index) : Option (List Candidate) := do
  let header ← headerLength? (c.record i)
  let fields ← (inheritedFields c i).mapM (fieldCandidate? h header)
  some (headerSlots header ++ fields)

/-! ## Placing -/

def fillGap? (start stop : Nat) : Option (List Member) :=
  if start < stop then do
    let length ← unsigned? ((stop : Int) - start)
    some [.filler start length]
  else some []

/-- A candidate whose offset is no number without a sign is reported like one in front of the
cursor. -/
def place? (typeName : String) : Nat → List Candidate → Option Placement
  | cursor, [] => some ⟨[], [], cursor⟩
  | cursor, x :: rest =>
    if x.storage.length = 0 then place? typeName cursor rest
    else
      match (unsigned? x.offset).filter (cursor ≤ ·) with
      | none => do
        let p ← place? typeName cursor rest
        some { p with warnings := .overlap typeName x.name x.offset cursor :: p.warnings }
      | some start => do
        let gap ← fillGap? cursor start
        let stop ← unsigned? (start + x.storage.length : Nat)
        let p ← place? typeName stop rest
        some { p with
          members := gap ++ .field start x.name x.storage.type x.storage.length :: p.members }

def pad? (typeName : String) (size : UInt32) (p : Placement) : Option Placement :=
  if size.toNat < p.stop then
    some { p with warnings := p.warnings ++ [.overflow typeName p.stop size] }
  else do
    let gap ← fillGap? p.stop size.toNat
    some { p with members := p.members ++ gap, stop := size.toNat }

def body? (h : Handles c) (i : c.Index) : Option Placement := do
  let r := c.record i
  let cs ← candidates? h i
  let p ← place? r.fullName 0 (sortCandidates cs)
  pad? r.fullName r.size p

/-! ## Array containers -/

/-- Counts one behind the other, and where they end. -/
def counts? : Nat → List String → Option (List Member × Nat)
  | cursor, [] => some ([], cursor)
  | cursor, name :: rest => do
    let stop ← unsigned? (cursor + 4 : Nat)
    let (counts, last) ← counts? stop rest
    some (countField cursor name :: counts, last)

def trailer? (offset : Nat) (element : Storage) (count : Nat) : Option (List Member) := do
  let (counts, start) ← counts? offset trailerNames
  let length ← unsigned? (count * element.length : Nat)
  some (counts ++ [.field start dataName (.array element.type count element.length) length])

def layout? (h : Handles c) (sampleLength : UInt32) (i : c.Index) : Option Layout := do
  let p ← body? h i
  match (c.record i).element with
  | none => some ⟨p.members, p.stop, p.warnings⟩
  | some e => do
    let trailer ← trailer? p.stop (h.storage e) sampleLength.toNat
    some ⟨p.members ++ trailer, p.stop, p.warnings⟩

/-! ## Candidates fit -/

/-- The largest number of 32 bits. -/
def maxSize : Nat := 2 ^ 32 - 1

theorem toNat_le_maxSize (n : UInt32) : n.toNat ≤ maxSize := Nat.le_pred_of_lt n.toNat_lt

theorem storage_length_le (h : Handles c) (j : c.Index) : (h.storage j).length ≤ maxSize := by
  unfold Handles.storage
  split
  · exact toNat_le_maxSize _
  · exact (by decide : pointerSize ≤ maxSize)

theorem headerLength_bounds (r : c.Record) :
    -(maxSize : Int) ≤ r.headerLength ∧ r.headerLength ≤ maxSize := by
  have := toNat_le_maxSize r.size
  have := toNat_le_maxSize r.declaredSize
  unfold TypeRecord.headerLength
  omega

theorem headerLength?_eq (r : c.Record) : headerLength? r = some r.headerLength := by
  obtain ⟨hlow, hhigh⟩ := headerLength_bounds r
  simp only [maxSize] at hlow hhigh
  exact signed?_of_bounds (n := r.headerLength) (by omega) (by omega)

theorem fieldCandidate?_eq (h : Handles c) (r : c.Record) (f : FieldRecord c.Index) :
    fieldCandidate? h r.headerLength f = some (fieldCandidate h r.headerLength f) := by
  obtain ⟨hlow, hhigh⟩ := headerLength_bounds r
  have := toNat_le_maxSize f.offset
  simp only [maxSize] at *
  unfold fieldCandidate?
  rw [signed?_of_bounds (by omega) (by omega)]
  rfl

theorem candidates?_eq (h : Handles c) (i : c.Index) : candidates? h i = some (candidates h i) := by
  have hfields : (inheritedFields c i).mapM (fieldCandidate? h (c.record i).headerLength) =
      some ((inheritedFields c i).map (fieldCandidate h (c.record i).headerLength)) := by
    have := Arena.mapM_map_eq_some (g := id) (l := inheritedFields c i)
      (fieldCandidate?_eq h (c.record i))
    rwa [List.map_id] at this
  unfold candidates?
  rw [headerLength?_eq]
  simp only [Option.bind_eq_bind, Option.bind_some, hfields]
  rfl

/-- A field is declared at a number of 32 bits behind a header of at most as many bytes, and takes at
most as many itself. -/
theorem stop_le_of_mem_candidates {h : Handles c} {i : c.Index} {x : Candidate}
    (hx : x ∈ candidates h i) : x.offset + x.storage.length ≤ 3 * maxSize := by
  rcases List.mem_append.1 hx with hx | hx
  · unfold headerSlots at hx
    split at hx
    · rcases List.mem_pair.1 hx with rfl | rfl <;> decide
    · simp at hx
  · obtain ⟨f, -, rfl⟩ := List.mem_map.1 hx
    have := (headerLength_bounds (c.record i)).2
    have := toNat_le_maxSize f.offset
    have := storage_length_le h f.type
    simp only [fieldCandidate]
    omega

theorem sorted_stop_le (h : Handles c) (i : c.Index) :
    ∀ x ∈ sortCandidates (candidates h i), x.offset + x.storage.length ≤ 3 * maxSize :=
  fun _ hx => stop_le_of_mem_candidates ((sortCandidates_perm _).mem_iff.1 hx)

/-! ## Placing fits -/

theorem fillGap?_eq {start stop : Nat} (h : stop < 2 ^ 64) :
    fillGap? start stop = some (fillGap start stop) := by
  unfold fillGap? fillGap
  split
  · rw [show (stop : Int) - start = ((stop - start : Nat) : Int) by omega,
      unsigned?_of_lt (by omega)]
    rfl
  · rfl

/-- Each end is bounded by the candidate alone, however many there are. -/
theorem place?_eq (typeName : String) (cursor : Nat) {cs : List Candidate}
    (hcs : ∀ x ∈ cs, x.offset + x.storage.length ≤ 3 * maxSize) :
    place? typeName cursor cs = some (place typeName cursor cs) := by
  simp only [maxSize] at hcs
  fun_induction place typeName cursor cs with
  | case1 cursor => rfl
  | case2 cursor x rest h ih =>
    rw [place?, if_pos h, ih (List.forall_mem_cons.1 hcs).2]
  | case3 cursor x rest h hx p ih =>
    obtain ⟨hstop, hrest⟩ := List.forall_mem_cons.1 hcs
    have hnone : (unsigned? x.offset).filter (cursor ≤ ·) = none := by
      by_cases h0 : x.offset < 0
      · rw [unsigned?_of_neg h0]
        rfl
      · obtain ⟨n, hn⟩ := Int.eq_ofNat_of_zero_le (Int.not_lt.1 h0)
        rw [hn, unsigned?_of_lt (by omega)]
        simp only [Option.filter_some, decide_eq_true_eq]
        rw [if_neg (by omega)]
    rw [place?, if_neg h, hnone]
    simp only [ih hrest, Option.bind_eq_bind, Option.bind_some]
    rfl
  | case4 cursor x rest h hx start p ih =>
    obtain ⟨hstop, hrest⟩ := List.forall_mem_cons.1 hcs
    have hstart : x.offset = (start : Nat) := by omega
    have hsome : (unsigned? x.offset).filter (cursor ≤ ·) = some start := by
      rw [hstart, unsigned?_of_lt (by omega)]
      simp only [Option.filter_some, decide_eq_true_eq]
      rw [if_pos (by omega)]
    rw [place?, if_neg h, hsome]
    simp only [fillGap?_eq (show start < 2 ^ 64 by omega),
      unsigned?_of_lt (show start + x.storage.length < 2 ^ 64 by omega), ih hrest,
      Option.bind_eq_bind, Option.bind_some]
    rfl

theorem place_stop_le (typeName : String) (cursor : Nat) {cs : List Candidate} {bound : Nat}
    (hcursor : cursor ≤ bound) (hcs : ∀ x ∈ cs, x.offset + x.storage.length ≤ bound) :
    (place typeName cursor cs).stop ≤ bound := by
  fun_induction place typeName cursor cs with
  | case1 cursor => exact hcursor
  | case2 cursor x rest h ih => exact ih hcursor (List.forall_mem_cons.1 hcs).2
  | case3 cursor x rest h hx p ih => exact ih hcursor (List.forall_mem_cons.1 hcs).2
  | case4 cursor x rest h hx start p ih =>
    obtain ⟨hstop, hrest⟩ := List.forall_mem_cons.1 hcs
    exact ih (by omega) hrest

theorem pad?_eq (typeName : String) (size : UInt32) (p : Placement) :
    pad? typeName size p = some (pad typeName size p) := by
  have := size.toNat_lt
  unfold pad? pad
  rw [fillGap?_eq (by omega)]
  split <;> rfl

theorem body_stop_le (h : Handles c) (i : c.Index) : (body h i).stop ≤ 3 * maxSize := by
  have hplaced : (placedFields h i).stop ≤ 3 * maxSize :=
    place_stop_le _ _ (Nat.zero_le _) (sorted_stop_le h i)
  have := toNat_le_maxSize (c.record i).size
  rw [body_stop]
  omega

theorem body?_eq (h : Handles c) (i : c.Index) : body? h i = some (body h i) := by
  have hplace := place?_eq (c.record i).fullName 0 (sorted_stop_le h i)
  unfold body?
  simp only [candidates?_eq, Option.bind_eq_bind, Option.bind_some, hplace, pad?_eq]
  rfl

/-! ## Trailers fit -/

theorem counts?_zipIdx (offset : Nat) (names : List String) (k : Nat)
    (h : offset + 4 * (k + names.length) < 2 ^ 64) :
    counts? (offset + 4 * k) names =
      some ((names.zipIdx k).map fun (name, k) => countField (offset + 4 * k) name,
        offset + 4 * (k + names.length)) := by
  induction names generalizing k with
  | nil => rfl
  | cons name rest ih =>
    rw [List.length_cons] at h ⊢
    have hrest := ih (k + 1) (by omega)
    rw [counts?, unsigned?_of_lt (by omega), show offset + 4 * k + 4 = offset + 4 * (k + 1) by omega]
    simp only [Option.bind_eq_bind, Option.bind_some, hrest, List.zipIdx_cons, List.map_cons,
      Nat.add_assoc, Nat.add_comm 1]

theorem sampleBytes_le (h : Handles c) (sampleLength : UInt32) (e : c.Index) :
    sampleLength.toNat * (h.storage e).length ≤ maxSize * maxSize :=
  Nat.mul_le_mul (toNat_le_maxSize _) (storage_length_le h e)

theorem trailer?_eq (h : Handles c) (sampleLength : UInt32) (e : c.Index) {offset : Nat}
    (hoffset : offset ≤ 3 * maxSize) :
    trailer? offset (h.storage e) sampleLength.toNat =
      some (trailer offset (h.storage e) sampleLength.toNat) := by
  have hbytes := sampleBytes_le h sampleLength e
  have hnames : trailerNames.length = 4 := rfl
  simp only [maxSize] at hoffset hbytes
  have hcounts := counts?_zipIdx offset trailerNames 0 (by omega)
  rw [Nat.mul_zero, Nat.add_zero, Nat.zero_add] at hcounts
  unfold trailer? trailer
  rw [hcounts, unsigned?_of_lt (by omega)]
  simp only [Option.bind_eq_bind, Option.bind_some]

theorem layout?_eq (h : Handles c) (sampleLength : UInt32) (i : c.Index) :
    layout? h sampleLength i = some (layout h sampleLength i) := by
  have hstop := body_stop_le h i
  unfold layout? layout
  rw [body?_eq]
  simp only [Option.bind_eq_bind, Option.bind_some]
  cases (c.record i).element with
  | none => simp only [List.append_nil]
  | some e => simp only [trailer?_eq h sampleLength e hstop, Option.bind_some]

/-- Placing a candidate whose end does not fit. -/
example : place? "Wide" 0 [⟨2 ^ 63 - 1, "field", ⟨.undefined, 2 ^ 63 + 1⟩⟩] = none := by decide

end Words

/-! ## Lengths of structures -/

theorem Tiles.foldl_stop {start stop n : Nat} {ms : List Member} (hms : Tiles start ms stop)
    (hn : min start maxAddress ≤ n) :
    ms.foldl (fun n m => max n m.stop) n = max n (min stop maxAddress) := by
  induction ms generalizing start n with
  | nil =>
    obtain rfl : start = stop := hms
    exact (Nat.max_eq_left hn).symm
  | cons m ms ih =>
    obtain ⟨rfl, hrest⟩ := hms
    have hsum := hrest.sum_length
    have hstop : m.stop = min (m.offset + m.length) maxAddress := rfl
    rw [List.foldl_cons, ih hrest (hstop ▸ Nat.le_max_right _ _), hstop]
    omega

variable {c : Catalog}

/-- No operation of a layout leaves the range of its word, and the layout is that of unbounded
numbers. What a type occupies has at most two bits more than its size. A structure that holds the
members is as long as that, or reaches up to the end of the trailer, though not beyond the last
address. -/
theorem layout_fits_words (h : Handles c) (sampleLength : UInt32) (i : c.Index) :
    Words.layout? h sampleLength i = some (layout h sampleLength i) ∧
    (layout h sampleLength i).occupied ≤ 3 * (2 ^ 32 - 1) ∧
    ∀ category name,
      Struct.length ⟨category, name, (c.record i).size, (layout h sampleLength i).members⟩ =
        match (c.record i).element with
        | none => (layout h sampleLength i).occupied
        | some e => min (2 ^ 64 - 1)
          ((layout h sampleLength i).occupied + 16 +
            sampleLength.toNat * (h.storage e).length) := by
  have hstop := Words.body_stop_le h i
  refine ⟨Words.layout?_eq h sampleLength i, hstop, fun category name => ?_⟩
  have hsize : (c.record i).size.toNat ≤ (body h i).stop := by
    rw [body_stop]
    exact Nat.le_max_left _ _
  have hoccupied : (layout h sampleLength i).occupied = (body h i).stop := rfl
  simp only [Words.maxSize] at hstop
  unfold Struct.length
  rw [(layout_tiles_trailer h sampleLength i).foldl_stop (Nat.zero_le _), hoccupied]
  unfold trailerBytes
  cases (c.record i).element with
  | none =>
    simp only [maxAddress]
    omega
  | some e =>
    simp only [maxAddress]
    omega

end TypeRecovery
