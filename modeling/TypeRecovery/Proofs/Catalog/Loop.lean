import TypeRecovery.Catalog.Loop
import Mathlib.Logic.Relation

/-!
# Finding loops

A search for loops finds nothing exactly if every chain ends, and an item that it finds lies on a
loop.
-/

namespace TypeRecovery

variable {n : Nat} {next : Fin n → Option (Fin n)}

/-- The link of `a` leads to `b`. -/
def Link {α : Type} (next : α → Option α) (a b : α) : Prop := next a = some b

/-! ## Loops do not end -/

theorem chainEnds_of_transGen {α : Type} {next : α → Option α} {steps : Nat} {a b : α}
    (hends : chainEnds next steps a = true) (hab : Relation.TransGen (Link next) a b) :
    ∃ m < steps, chainEnds next m b = true := by
  induction hab with
  | single hlink =>
    cases steps with
    | zero => simp [chainEnds] at hends
    | succ steps =>
      rw [chainEnds_of_some hlink] at hends
      exact ⟨steps, Nat.lt_succ_self _, hends⟩
  | tail _ hlink ih =>
    obtain ⟨m, hm, hends'⟩ := ih
    cases m with
    | zero => simp [chainEnds] at hends'
    | succ m =>
      rw [chainEnds_of_some hlink] at hends'
      exact ⟨m, by omega, hends'⟩

theorem not_chainEnds_of_loop {α : Type} {next : α → Option α} {a : α}
    (hloop : Relation.TransGen (Link next) a a) (steps : Nat) :
    ¬chainEnds next steps a = true := by
  induction steps using Nat.strongRecOn with
  | ind steps ih =>
    intro hends
    obtain ⟨m, hm, hends'⟩ := chainEnds_of_transGen hends hloop
    exact ih m hm hends'

/-! ## What is on the way leads on -/

/-- The chain that is being followed has come from the coloured items to `i`. -/
def LeadsTo (next : Fin n → Option (Fin n)) (colours : Vector Colour n) (i : Fin n) : Prop :=
  ∀ j, colours.get j = .followed → Relation.TransGen (Link next) j i

theorem LeadsTo.step {colours : Vector Colour n} {i k : Fin n} (h : LeadsTo next colours i)
    (hnext : next i = some k) : LeadsTo next (paint colours i .followed) k := by
  intro j hj
  rw [get_paint] at hj
  split at hj
  · rename_i hij
    rw [← hij]
    exact .single hnext
  · exact (h j hj).tail hnext

theorem loop_of_follow_error {colours : Vector Colour n} {path : List (Fin n)} {i j : Fin n}
    (hleads : LeadsTo next colours i) (h : follow next colours path i = .error j) :
    Relation.TransGen (Link next) j j := by
  fun_induction follow next colours path i with
  | case1 colours path i hi => cases h
  | case2 colours path i hi =>
    cases h
    exact hleads _ hi
  | case3 colours path i hi hnext => cases h
  | case4 colours path i hi k hnext ih => exact ih (hleads.step hnext) h

/-- Only items of the path have the colour of what is being followed. -/
def OnPath (colours : Vector Colour n) (path : List (Fin n)) : Prop :=
  ∀ j, colours.get j = .followed → j ∈ path

theorem OnPath.paint_followed {colours : Vector Colour n} {path : List (Fin n)}
    (h : OnPath colours path) (i : Fin n) : OnPath (paint colours i .followed) (i :: path) := by
  intro j hj
  rw [get_paint] at hj
  split at hj
  · rename_i hij
    exact List.mem_cons.2 (.inl hij.symm)
  · exact List.mem_cons_of_mem _ (h j hj)

theorem OnPath.follow {colours colours' : Vector Colour n} {path path' : List (Fin n)} {i : Fin n}
    (hpath : OnPath colours path) (h : follow next colours path i = .ok (colours', path')) :
    OnPath colours' path' := by
  fun_induction TypeRecovery.follow next colours path i with
  | case1 colours path i hi =>
    cases h
    exact hpath
  | case2 colours path i hi => cases h
  | case3 colours path i hi hnext =>
    cases h
    exact hpath.paint_followed i
  | case4 colours path i hi k hnext ih => exact ih (hpath.paint_followed i) h

/-- After a chain that ends, nothing has the colour of what is being followed. -/
theorem OnPath.markEnding {colours : Vector Colour n} {path : List (Fin n)}
    (h : OnPath colours path) : OnPath (markEnding path colours) [] := by
  intro j hj
  rcases get_markEnding path colours j with ⟨-, hget⟩ | ⟨hmem, hget⟩
  · rw [hget] at hj
    cases hj
  · exact absurd (h j (hget.symm.trans hj)) hmem

theorem loop_of_followAll {starts : List (Fin n)} {colours : Vector Colour n} {j : Fin n}
    (hpath : OnPath colours []) (h : followAll next starts colours = some j) :
    Relation.TransGen (Link next) j j := by
  induction starts generalizing colours with
  | nil => cases h
  | cons i rest ih =>
    rw [followAll] at h
    split at h
    · rename_i k hfollow
      cases h
      have hleads : LeadsTo next colours i := fun k hk => absurd (hpath k hk) List.not_mem_nil
      exact loop_of_follow_error hleads hfollow
    · rename_i colours' path hfollow
      exact ih (hpath.follow hfollow).markEnding h

/-! ## The search -/

theorem loop_of_loop?_eq_some {j : Fin n} (h : loop? next = some j) :
    Relation.TransGen (Link next) j j := by
  have hpath : OnPath (Vector.replicate n .unvisited) ([] : List (Fin n)) := by
    intro j hj
    rw [get_replicate] at hj
    cases hj
  exact loop_of_followAll hpath h

theorem loop?_eq_none_iff : loop? next = none ↔ ∀ i, chainEnds next n i = true := by
  constructor
  · exact chainEnds_of_loop?_eq_none
  · intro hends
    cases h : loop? next with
    | none => rfl
    | some j => exact absurd (hends j) (not_chainEnds_of_loop (loop_of_loop?_eq_some h) n)

end TypeRecovery
