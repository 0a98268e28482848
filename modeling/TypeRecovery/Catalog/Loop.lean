import TypeRecovery.Catalog.Chain

/-!
# Loops

A search for a chain of links that does not end. Chains are followed one after another, and items
keep a colour from one chain to the next, so that no link is followed twice.
-/

namespace TypeRecovery

/-- What is known of the chain of an item. -/
inductive Colour where
  | unvisited
  /-- The item is on the chain that is being followed. -/
  | followed
  /-- The chain ends. -/
  | ending
  deriving DecidableEq, Repr

variable {n : Nat}

def paint (colours : Vector Colour n) (i : Fin n) (colour : Colour) : Vector Colour n :=
  colours.set i colour i.isLt

theorem get_paint (colours : Vector Colour n) (i j : Fin n) (colour : Colour) :
    (paint colours i colour).get j = if i = j then colour else colours.get j := by
  show (colours.set i.val colour i.isLt)[j.val] = _
  rw [Vector.getElem_set i.isLt j.isLt]
  simp only [Fin.ext_iff]
  rfl

theorem count_unvisited_paint_lt {colours : Vector Colour n} {i : Fin n}
    (h : colours.get i = .unvisited) :
    (paint colours i .followed).count .unvisited < colours.count .unvisited := by
  have hi : colours[i.val] = .unvisited := h
  have hpos : 0 < colours.count .unvisited := by
    rw [Vector.count_pos_iff, ← hi]
    exact Vector.getElem_mem i.isLt
  unfold paint
  rw [Vector.count_set i.isLt, if_pos (by simp [hi]), if_neg (by decide)]
  omega

/-- Follows links from an item to the end of its chain, or to an item whose chain is known to end.
The items on the way go in front of `path`. An item that is on the way already is an error. -/
def follow (next : Fin n → Option (Fin n)) (colours : Vector Colour n) (path : List (Fin n))
    (i : Fin n) : Except (Fin n) (Vector Colour n × List (Fin n)) :=
  match _h : colours.get i with
  | .ending => .ok (colours, path)
  | .followed => .error i
  | .unvisited =>
    match next i with
    | none => .ok (paint colours i .followed, i :: path)
    | some j => follow next (paint colours i .followed) (i :: path) j
termination_by colours.count .unvisited
decreasing_by exact count_unvisited_paint_lt ‹colours.get i = .unvisited›

/-- The items of a path lie on a chain that ends. -/
def markEnding (path : List (Fin n)) (colours : Vector Colour n) : Vector Colour n :=
  path.foldl (fun colours i => paint colours i .ending) colours

/-- Follows the chains of items in turn, up to the first that comes back to an item. -/
def followAll (next : Fin n → Option (Fin n)) : List (Fin n) → Vector Colour n → Option (Fin n)
  | [], _ => none
  | i :: rest, colours =>
    match follow next colours [] i with
    | .error j => some j
    | .ok (colours, path) => followAll next rest (markEnding path colours)

/-- An item that its own chain comes back to. -/
def loop? (next : Fin n → Option (Fin n)) : Option (Fin n) :=
  followAll next (List.finRange n) (Vector.replicate n .unvisited)

/-! ## Chains that were followed -/

variable {next : Fin n → Option (Fin n)}

theorem get_markEnding (path : List (Fin n)) (colours : Vector Colour n) (j : Fin n) :
    j ∈ path ∧ (markEnding path colours).get j = .ending ∨
      j ∉ path ∧ (markEnding path colours).get j = colours.get j := by
  induction path generalizing colours with
  | nil => simp [markEnding]
  | cons i path ih =>
    show j ∈ i :: path ∧ (markEnding path (paint colours i .ending)).get j = .ending ∨
      j ∉ i :: path ∧ (markEnding path (paint colours i .ending)).get j = colours.get j
    rcases ih (paint colours i .ending) with ⟨hmem, hget⟩ | ⟨hmem, hget⟩
    · exact .inl ⟨List.mem_cons_of_mem i hmem, hget⟩
    · rw [hget, get_paint]
      by_cases hi : i = j
      · simp [hi]
      · simp [hmem, hi, Ne.symm hi]

/-- A chain marked as ending does end. -/
def EndingEnds (next : Fin n → Option (Fin n)) (colours : Vector Colour n) : Prop :=
  ∀ i, colours.get i = .ending → chainEnds next n i = true

theorem chainEnds_of_next {i j : Fin n} (h : next i = some j) (hj : chainEnds next n j = true) :
    chainEnds next n i = true := by
  apply chainEnds_card (k := n + 1)
  rw [chainEnds_of_some h]
  exact hj

theorem EndingEnds.paint_followed {colours : Vector Colour n} (h : EndingEnds next colours)
    (i : Fin n) : EndingEnds next (paint colours i .followed) := by
  intro j hj
  rw [get_paint] at hj
  split at hj
  · cases hj
  · exact h j hj

/-- What is followed without an error ends, and nothing is marked as ending on the way. -/
theorem follow_ok {colours colours' : Vector Colour n} {path path' : List (Fin n)} {i : Fin n}
    (hends : EndingEnds next colours) (h : follow next colours path i = .ok (colours', path')) :
    chainEnds next n i = true ∧ EndingEnds next colours' ∧
      ∀ j ∈ path', j ∈ path ∨ chainEnds next n j = true := by
  fun_induction follow next colours path i with
  | case1 colours path i hi =>
    cases h
    exact ⟨hends i hi, hends, fun j hj => .inl hj⟩
  | case2 colours path i hi => cases h
  | case3 colours path i hi hnext =>
    have hlast : chainEnds next n i = true := chainEnds_card (chainEnds_of_none (n := 0) hnext)
    cases h
    refine ⟨hlast, hends.paint_followed i, fun j hj => ?_⟩
    rcases List.mem_cons.1 hj with rfl | hj
    · exact .inr hlast
    · exact .inl hj
  | case4 colours path i hi k hnext ih =>
    obtain ⟨hk, hends', hpath⟩ := ih (hends.paint_followed i) h
    have hi : chainEnds next n i = true := chainEnds_of_next hnext hk
    refine ⟨hi, hends', fun j hj => ?_⟩
    rcases hpath j hj with hj | hj
    · rcases List.mem_cons.1 hj with rfl | hj
      · exact .inr hi
      · exact .inl hj
    · exact .inr hj

theorem EndingEnds.markEnding {colours : Vector Colour n} {path : List (Fin n)}
    (h : EndingEnds next colours) (hpath : ∀ j ∈ path, chainEnds next n j = true) :
    EndingEnds next (markEnding path colours) := by
  intro j hj
  rcases get_markEnding path colours j with ⟨hmem, -⟩ | ⟨-, hget⟩
  · exact hpath j hmem
  · exact h j (hget.symm.trans hj)

theorem chainEnds_of_followAll {starts : List (Fin n)} {colours : Vector Colour n}
    (hends : EndingEnds next colours) (h : followAll next starts colours = none) :
    ∀ i ∈ starts, chainEnds next n i = true := by
  induction starts generalizing colours with
  | nil => simp
  | cons i rest ih =>
    rw [followAll] at h
    split at h
    · cases h
    · rename_i colours' path hfollow
      obtain ⟨hi, hends', hpath⟩ := follow_ok hends hfollow
      have hmarked := hends'.markEnding fun j hj => (hpath j hj).resolve_left (List.not_mem_nil)
      intro j hj
      rcases List.mem_cons.1 hj with rfl | hj
      · exact hi
      · exact ih hmarked h j hj

theorem get_replicate (i : Fin n) (x : Colour) : (Vector.replicate n x).get i = x :=
  Vector.getElem_replicate i.isLt

theorem chainEnds_of_loop?_eq_none (h : loop? next = none) (i : Fin n) :
    chainEnds next n i = true := by
  have hends : EndingEnds next (Vector.replicate n .unvisited) := by
    intro j hj
    rw [get_replicate] at hj
    cases hj
  exact chainEnds_of_followAll hends h i (List.mem_finRange i)

end TypeRecovery
