import TypeRecovery.Proofs.Layout.Coverage

/-!
# Every field is placed or reported

Taken in the order of their offsets, candidates are ruled on one after another. One that starts
behind everything placed so far becomes a member. Any other is reported with a warning.
-/

namespace TypeRecovery

/-! ## Candidates -/

namespace Candidate

def stop (x : Candidate) : Int := x.offset + x.storage.length

/-- The member of a candidate that is placed. -/
def member (x : Candidate) : Member :=
  .field x.offset.toNat x.name x.storage.type x.storage.length

def takesBytes (x : Candidate) : Bool := x.storage.length ≠ 0

end Candidate

variable {c : Catalog}

/-- What asks for bytes in a type: two slots of eight bytes each if its header has room for them, and
the fields of the type and of its bases, all of them behind the header of the type itself. -/
def sizedCandidates (h : Handles c) (i : c.Index) : List Candidate :=
  let header := (c.record i).headerLength
  let slots :=
    if 16 ≤ header then
      [⟨0, "$vtable", ⟨.voidPointer, 8⟩⟩, ⟨8, "$lock", ⟨.voidPointer, 8⟩⟩]
    else []
  let fields := (c.baseChain i).flatMap fun j =>
    (c.record j).fields.map fun f => ⟨f.offset.toNat + header, f.name, h.storage f.type⟩
  (slots ++ fields).filter Candidate.takesBytes

theorem filter_candidates (h : Handles c) (i : c.Index) :
    (candidates h i).filter Candidate.takesBytes = sizedCandidates h i := by
  unfold candidates sizedCandidates inheritedFields
  simp only [List.map_flatMap]
  rfl

namespace Candidate

variable {x : Candidate} {cs : List Candidate}

theorem filter_takesBytes_cons_of_eq_zero (h : x.storage.length = 0) :
    (x :: cs).filter takesBytes = cs.filter takesBytes :=
  List.filter_cons_of_neg (by simp [takesBytes, h])

theorem filter_takesBytes_cons_of_ne_zero (h : ¬x.storage.length = 0) :
    (x :: cs).filter takesBytes = x :: cs.filter takesBytes :=
  List.filter_cons_of_pos (by simp [takesBytes, h])

end Candidate

/-! ## Order -/

/-- The same candidates in order of their offsets. Those of one offset keep their order. -/
structure StablySorted (cs order : List Candidate) : Prop where
  perm : order.Perm cs
  ascending : order.Pairwise fun a b => a.offset ≤ b.offset
  stable : ∀ offset : Int, order.filter (·.offset = offset) = cs.filter (·.offset = offset)

theorem Candidate.offset_le_trans (a b d : Candidate) (hab : decide (a.offset ≤ b.offset))
    (hbd : decide (b.offset ≤ d.offset)) : decide (a.offset ≤ d.offset) := by
  simp only [decide_eq_true_eq] at hab hbd ⊢
  omega

theorem Candidate.offset_le_total (a b : Candidate) :
    decide (a.offset ≤ b.offset) || decide (b.offset ≤ a.offset) := by
  simp only [Bool.or_eq_true, decide_eq_true_eq]
  omega

theorem sortCandidates_perm (cs : List Candidate) : (sortCandidates cs).Perm cs :=
  List.mergeSort_perm _ _

theorem sortCandidates_stable (cs : List Candidate) : StablySorted cs (sortCandidates cs) := by
  have hsorted := List.pairwise_mergeSort Candidate.offset_le_trans Candidate.offset_le_total cs
  refine ⟨sortCandidates_perm cs, hsorted.imp (by simp), fun offset => ?_⟩
  -- Candidates of one offset are in order as they stand, and sorting keeps such a sublist.
  have hequal : (cs.filter (·.offset = offset)).Pairwise fun a b =>
      decide (a.offset ≤ b.offset) := by
    rw [List.pairwise_filter]
    exact List.pairwise_of_forall fun a b => by simp only [decide_eq_true_eq]; omega
  have hsub := List.sublist_mergeSort Candidate.offset_le_trans Candidate.offset_le_total hequal
    List.filter_sublist
  have hfilter := hsub.filter (·.offset = offset)
  rw [List.filter_filter] at hfilter
  simp only [Bool.and_self] at hfilter
  exact (hfilter.eq_of_length ((sortCandidates_perm cs).filter _).length_eq.symm).symm

theorem body_of_ascending {h : Handles c} {i : c.Index}
    (hsorted : (candidates h i).Pairwise fun a b => a.offset ≤ b.offset) :
    body h i = pad (c.record i).fullName (c.record i).size
      (place (c.record i).fullName 0 (candidates h i)) := by
  unfold body sortCandidates
  rw [List.mergeSort_of_pairwise (hsorted.imp (by simp))]

theorem StablySorted.filter {cs order : List Candidate} (h : StablySorted cs order)
    (p : Candidate → Bool) : StablySorted (cs.filter p) (order.filter p) where
  perm := h.perm.filter p
  ascending := h.ascending.filter p
  stable offset := by
    rw [List.filter_comm, h.stable, List.filter_comm]

/-! ## Rulings -/

inductive Verdict where
  | placed
  /-- What is placed reaches up to the cursor, and the candidate starts in front of that. -/
  | overlapping (cursor : Nat)

structure Ruling where
  candidate : Candidate
  verdict : Verdict

/-- The candidates that were placed. -/
def placedOf (rs : List Ruling) : List Candidate :=
  rs.filterMap fun r =>
    match r.verdict with
    | .placed => some r.candidate
    | .overlapping _ => none

/-- The warnings of the candidates that were not. -/
def reportsOf (typeName : String) (rs : List Ruling) : List LayoutWarning :=
  rs.filterMap fun r =>
    match r.verdict with
    | .placed => none
    | .overlapping cursor =>
      some (.overlap typeName r.candidate.name r.candidate.offset cursor)

/-- Where the last of the placed candidates ends, or zero. -/
def stopOf (placed : List Candidate) : Int := (placed.getLast?.map Candidate.stop).getD 0

/-- A ruling is right in view of the candidates that were placed before it. -/
structure Ruling.Fair (earlier : List Candidate) (r : Ruling) : Prop where
  placed_iff : r.verdict = .placed ↔
    0 ≤ r.candidate.offset ∧ ∀ y ∈ earlier, y.stop ≤ r.candidate.offset
  cursor_eq : ∀ cursor, r.verdict = .overlapping cursor → cursor = stopOf earlier
  /-- A candidate with an address of its own is reported only if it starts inside the last one. -/
  inside : r.verdict ≠ .placed → 0 ≤ r.candidate.offset →
    ∃ y, earlier.getLast? = some y ∧ y.offset ≤ r.candidate.offset ∧ r.candidate.offset < y.stop

/-- The rulings on candidates when everything up to the cursor is taken. -/
def judge : Nat → List Candidate → List Ruling
  | _, [] => []
  | cursor, x :: rest =>
    if x.storage.length = 0 then judge cursor rest
    else if x.offset < cursor then ⟨x, .overlapping cursor⟩ :: judge cursor rest
    else ⟨x, .placed⟩ :: judge (x.offset.toNat + x.storage.length) rest

theorem judge_candidates (cursor : Nat) (cs : List Candidate) :
    (judge cursor cs).map Ruling.candidate = cs.filter Candidate.takesBytes := by
  fun_induction judge cursor cs with
  | case1 cursor => rfl
  | case2 cursor x rest h ih => rw [ih, Candidate.filter_takesBytes_cons_of_eq_zero h]
  | case3 cursor x rest h hx ih =>
    rw [Candidate.filter_takesBytes_cons_of_ne_zero h, List.map_cons, ih]
  | case4 cursor x rest h hx ih =>
    rw [Candidate.filter_takesBytes_cons_of_ne_zero h, List.map_cons, ih]

theorem place_named (typeName : String) (cursor : Nat) (cs : List Candidate) :
    namedMembers (place typeName cursor cs).members =
      (placedOf (judge cursor cs)).map Candidate.member := by
  fun_induction place typeName cursor cs with
  | case1 cursor => rfl
  | case2 cursor x rest h ih => rw [ih, judge, if_pos h]
  | case3 cursor x rest h hx p ih =>
    rw [judge, if_neg h, if_pos hx]
    exact ih
  | case4 cursor x rest h hx start p ih =>
    rw [judge, if_neg h, if_neg hx, namedMembers_append, namedMembers_fillGap, namedMembers_field, ih]
    rfl

theorem place_reports (typeName : String) (cursor : Nat) (cs : List Candidate) :
    (place typeName cursor cs).warnings = reportsOf typeName (judge cursor cs) := by
  fun_induction place typeName cursor cs with
  | case1 cursor => rfl
  | case2 cursor x rest h ih => rw [ih, judge, if_pos h]
  | case3 cursor x rest h hx p ih =>
    rw [judge, if_neg h, if_pos hx]
    exact congrArg _ ih
  | case4 cursor x rest h hx start p ih =>
    rw [judge, if_neg h, if_neg hx]
    exact ih

/-! ## Rulings are fair -/

/-- The cursor is the end of the last placed candidate, and none of them reaches further. -/
structure Behind (earlier : List Candidate) (cursor : Nat) : Prop where
  stop_eq : (cursor : Int) = stopOf earlier
  stop_le : ∀ y ∈ earlier, y.stop ≤ cursor

theorem behind_nil : Behind [] 0 := ⟨rfl, by simp⟩

theorem Behind.place {earlier : List Candidate} {cursor : Nat} {x : Candidate}
    (hb : Behind earlier cursor) (hx : ¬x.offset < cursor) :
    Behind (earlier ++ [x]) (x.offset.toNat + x.storage.length) := by
  have hstop : ((x.offset.toNat + x.storage.length : Nat) : Int) = x.stop := by
    simp only [Candidate.stop]
    omega
  refine ⟨by simpa [stopOf] using hstop, fun y hy => ?_⟩
  rcases List.mem_append.1 hy with hy | hy
  · have := hb.stop_le y hy
    omega
  · obtain rfl := List.mem_singleton.1 hy
    omega

theorem Behind.last {earlier : List Candidate} {cursor : Nat} (hb : Behind earlier cursor)
    (hpos : 0 < cursor) : ∃ y, earlier.getLast? = some y ∧ y.stop = cursor := by
  have := hb.stop_eq
  unfold stopOf at this
  cases hy : earlier.getLast? with
  | none => simp [hy] at this; omega
  | some y => exact ⟨y, rfl, by simpa [hy] using this.symm⟩

theorem fair_placed {earlier : List Candidate} {cursor : Nat} {x : Candidate}
    (hb : Behind earlier cursor) (hx : ¬x.offset < cursor) : Ruling.Fair earlier ⟨x, .placed⟩ := by
  refine ⟨⟨fun _ => ⟨by simp only; omega, fun y hy => ?_⟩, fun _ => rfl⟩, by simp, by simp⟩
  have := hb.stop_le y hy
  simp only
  omega

theorem fair_overlapping {earlier : List Candidate} {cursor : Nat} {x : Candidate}
    (hb : Behind earlier cursor) (hx : x.offset < cursor)
    (hsorted : ∀ y ∈ earlier, y.offset ≤ x.offset) :
    Ruling.Fair earlier ⟨x, .overlapping cursor⟩ := by
  have hinside : 0 ≤ x.offset →
      ∃ y, earlier.getLast? = some y ∧ y.offset ≤ x.offset ∧ x.offset < y.stop := by
    intro h0
    obtain ⟨y, hlast, hstop⟩ := hb.last (by omega)
    exact ⟨y, hlast, hsorted y (List.mem_of_getLast? hlast), by omega⟩
  refine ⟨⟨by simp, ?_⟩, ?_, fun _ => hinside⟩
  · rintro ⟨h0, hclear⟩
    obtain ⟨y, hlast, -, hy⟩ := hinside h0
    have := hclear y (List.mem_of_getLast? hlast)
    simp only at this
    omega
  · rintro cursor' ⟨⟩
    exact hb.stop_eq

/-- Every ruling of a run is fair, whatever was placed before the run. -/
theorem judge_fair {earlier : List Candidate} {cursor : Nat} {cs : List Candidate}
    (hb : Behind earlier cursor) (hearlier : ∀ y ∈ earlier, ∀ x ∈ cs, y.offset ≤ x.offset)
    (hcs : cs.Pairwise fun a b => a.offset ≤ b.offset) {before after : List Ruling} {r : Ruling}
    (heq : judge cursor cs = before ++ r :: after) : r.Fair (earlier ++ placedOf before) := by
  -- Every candidate that is placed joins `earlier`, and `Behind` stays true.
  fun_induction judge cursor cs generalizing earlier before with
  | case1 cursor => simp at heq
  | case2 cursor x rest h ih =>
    exact ih hb (fun y hy z hz => hearlier y hy z (List.mem_cons_of_mem _ hz)) hcs.of_cons heq
  | case3 cursor x rest h hx ih =>
    cases before with
    | nil =>
      obtain ⟨rfl, -⟩ := List.cons.inj heq
      rw [placedOf, List.filterMap_nil, List.append_nil]
      exact fair_overlapping hb hx fun y hy => hearlier y hy x List.mem_cons_self
    | cons first before =>
      obtain ⟨rfl, htail⟩ := List.cons.inj heq
      have hrest : ∀ y ∈ earlier, ∀ z ∈ rest, y.offset ≤ z.offset := fun y hy z hz =>
        hearlier y hy z (List.mem_cons_of_mem _ hz)
      show r.Fair (earlier ++ placedOf before)
      exact ih hb hrest hcs.of_cons htail
  | case4 cursor x rest h hx ih =>
    cases before with
    | nil =>
      obtain ⟨rfl, -⟩ := List.cons.inj heq
      rw [placedOf, List.filterMap_nil, List.append_nil]
      exact fair_placed hb hx
    | cons first before =>
      obtain ⟨rfl, htail⟩ := List.cons.inj heq
      have hrest : ∀ y ∈ earlier ++ [x], ∀ z ∈ rest, y.offset ≤ z.offset := by
        intro y hy z hz
        rcases List.mem_append.1 hy with hy | hy
        · exact hearlier y hy z (List.mem_cons_of_mem _ hz)
        · rw [List.mem_singleton.1 hy]
          exact List.rel_of_pairwise_cons hcs hz
      have := ih (hb.place hx) hrest hcs.of_cons htail
      rwa [List.append_assoc] at this

/-! ## Layouts -/

/-- The warnings of fields that were left out. -/
def Layout.overlaps (l : Layout) : List LayoutWarning := l.warnings.filter (·.isOverlap)

theorem layout_overlaps (h : Handles c) (sampleLength : UInt32) (i : c.Index) :
    (layout h sampleLength i).overlaps = (placedFields h i).warnings := by
  have hall : (placedFields h i).warnings.filter (·.isOverlap) = (placedFields h i).warnings :=
    List.filter_eq_self.2 (place_isOverlap _ _ _)
  show (body h i).warnings.filter (·.isOverlap) = _
  rw [body_warnings, List.filter_append, hall]
  split <;> simp [LayoutWarning.isOverlap]

/-- The rulings on everything that asks for a place in a type. -/
def rulings (h : Handles c) (i : c.Index) : List Ruling :=
  judge 0 (sortCandidates (candidates h i))

theorem rulings_sorted (h : Handles c) (i : c.Index) :
    StablySorted (sizedCandidates h i) ((rulings h i).map Ruling.candidate) := by
  rw [rulings, judge_candidates, ← filter_candidates]
  exact (sortCandidates_stable _).filter _

theorem layout_named (h : Handles c) (sampleLength : UInt32) (i : c.Index) :
    namedMembers ((layout h sampleLength i).body (c.record i)) =
      (placedOf (rulings h i)).map Candidate.member := by
  rw [layout_body, namedMembers_body]
  exact place_named _ _ _

theorem layout_reports (h : Handles c) (sampleLength : UInt32) (i : c.Index) :
    (layout h sampleLength i).overlaps = reportsOf (c.record i).fullName (rulings h i) := by
  rw [layout_overlaps]
  exact place_reports _ _ _

theorem rulings_fair (h : Handles c) (i : c.Index) {before after : List Ruling} {r : Ruling}
    (heq : rulings h i = before ++ r :: after) : r.Fair (placedOf before) :=
  judge_fair behind_nil (by simp) (sortCandidates_stable _).ascending heq

/-- No field is lost and none is there twice. The candidates of a type, in the stable order of their
offsets, each have a ruling. Those that are placed are the named members of the layout and the others
its overlap warnings, and each ruling is the one that the candidates placed before it call for. -/
theorem layout_places_or_reports (h : Handles c) (sampleLength : UInt32) (i : c.Index) :
    ∃ rs : List Ruling,
      StablySorted (sizedCandidates h i) (rs.map Ruling.candidate) ∧
      namedMembers ((layout h sampleLength i).body (c.record i)) =
        (placedOf rs).map Candidate.member ∧
      (layout h sampleLength i).overlaps = reportsOf (c.record i).fullName rs ∧
      ∀ before r after, rs = before ++ r :: after → r.Fair (placedOf before) :=
  ⟨rulings h i, rulings_sorted h i, layout_named h sampleLength i, layout_reports h sampleLength i,
    fun _ _ _ => rulings_fair h i⟩

end TypeRecovery
