import TypeRecovery.Proofs.Catalog.Accepted
import TypeRecovery.Proofs.Catalog.BaseChain
import TypeRecovery.Proofs.Catalog.Loop

/-!
# Which records make a catalog

Records make a catalog exactly if each sits at its own index, everything they refer to is there and
every base chain ends. Otherwise the error names the first of these that fails, at the first place
where it does.
-/

namespace TypeRecovery

namespace Catalog

/-! ## What is asked of records -/

/-- Each record carries the index at which it sits. -/
def Placed (rs : List (TypeRecord Nat)) : Prop :=
  ∀ (i : Nat) (r : TypeRecord Nat), rs[i]? = some r → r.index = i

/-- Everything that is referred to is there. -/
def Closed (rs : List (TypeRecord Nat)) : Prop := ∀ r ∈ rs, ∀ j ∈ r.references, j < rs.length

/-- The record at `i` names `j` as its base. -/
def IsBase (rs : List (TypeRecord Nat)) (i j : Nat) : Prop := ∃ r, rs[i]? = some r ∧ r.base = some j

/-- From base to base, `i` leads to a record without one. -/
def Rooted (rs : List (TypeRecord Nat)) (i : Nat) : Prop :=
  ∃ j r, Relation.ReflTransGen (IsBase rs) i j ∧ rs[j]? = some r ∧ r.base = none

variable {rs : List (TypeRecord Nat)}

/-! ## Places -/

theorem misplaced?_eq_none_iff : misplaced? rs = none ↔ Placed rs := by
  constructor
  · intro h i r hr
    obtain ⟨hi, rfl⟩ := List.getElem?_eq_some_iff.1 hr
    exact index_of_misplaced?_eq_none h ⟨i, hi⟩
  · intro h
    unfold misplaced?
    rw [List.find?_eq_none]
    rintro ⟨r, i⟩ hmem
    rw [List.mem_zipIdx_iff_getElem?] at hmem
    simpa using h i r hmem

theorem misplaced?_eq_some {r : TypeRecord Nat} {i : Nat} (h : misplaced? rs = some (r, i)) :
    rs[i]? = some r ∧ r.index ≠ i ∧ ∀ j < i, ∀ r', rs[j]? = some r' → r'.index = j := by
  unfold misplaced? at h
  rw [List.find?_eq_some_iff_getElem] at h
  obtain ⟨hne, k, hk, heq, hbefore⟩ := h
  rw [List.length_zipIdx] at hk
  simp only [List.getElem_zipIdx, Nat.zero_add, Prod.mk.injEq] at heq hbefore
  obtain ⟨rfl, rfl⟩ := heq
  refine ⟨List.getElem?_eq_getElem hk, by simpa using hne, fun j hj r' hr' => ?_⟩
  obtain ⟨-, rfl⟩ := List.getElem?_eq_some_iff.1 hr'
  simpa using hbefore j hj

theorem ofRecords_of_misplaced (h : ¬Placed rs) :
    ∃ i r, rs[i]? = some r ∧ r.index ≠ i ∧ (∀ j < i, ∀ r', rs[j]? = some r' → r'.index = j) ∧
      ofRecords rs = .error (.malformed (.misplaced r.fullName r.index i)) := by
  rw [← misplaced?_eq_none_iff, ← ne_eq, Option.ne_none_iff_exists'] at h
  obtain ⟨⟨r, i⟩, h⟩ := h
  obtain ⟨hr, hne, hbefore⟩ := misplaced?_eq_some h
  refine ⟨i, r, hr, hne, hbefore, ?_⟩
  unfold ofRecords
  split
  · rename_i heq
    rw [h] at heq
    cases heq
    rfl
  · rename_i heq
    rw [h] at heq
    cases heq

/-! ## References -/

theorem dangling?_eq_none_iff : dangling? rs = none ↔ Closed rs := by
  constructor
  · intro h r hr
    exact lt_of_dangling?_eq_none h hr
  · intro h
    unfold dangling?
    rw [List.find?_eq_none]
    intro j hj
    obtain ⟨r, hr, hj⟩ := List.mem_flatMap.1 hj
    have := h r hr j hj
    simpa using this

theorem ofRecords_of_dangling (hplaced : Placed rs) {before after : List Nat} {i : Nat}
    (hscan : rs.flatMap TypeRecord.references = before ++ i :: after)
    (hbefore : ∀ j ∈ before, j < rs.length) (hi : rs.length ≤ i) :
    ofRecords rs = .error (.invalidTypeIndex i) := by
  have hdangling : dangling? rs = some i := by
    unfold dangling?
    rw [List.find?_eq_some_iff_append]
    exact ⟨by simpa using hi, before, after, hscan, by simpa using hbefore⟩
  unfold ofRecords
  split
  · rename_i heq
    rw [misplaced?_eq_none_iff.2 hplaced] at heq
    cases heq
  · rw [hdangling]

/-! ## Bases -/

theorem base_mem_references {r : TypeRecord Nat} {b : Nat} (h : r.base = some b) :
    b ∈ r.references := by
  simp [TypeRecord.references, h]

theorem base_resolveAll (hclosed : Closed rs) (i : Fin rs.length) :
    ((resolveAll rs).get i).base.map Fin.val = (rs.get i).base := by
  have hbase := congrArg TypeRecord.base (resolveAll_map_val rs i)
  have hkept : (rs.get i).base.map (· % rs.length) = (rs.get i).base := by
    cases hb : (rs.get i).base with
    | none => rfl
    | some b =>
      have := hclosed (rs.get i) (List.get_mem rs i) b (base_mem_references hb)
      simp [Nat.mod_eq_of_lt this]
  exact hbase.trans hkept

theorem fullName_resolveAll (i : Fin rs.length) :
    ((resolveAll rs).get i).fullName = (rs.get i).fullName :=
  congrArg TypeRecord.fullName (resolveAll_map_val rs i)

/-- The base that a search for loops follows. -/
def baseOf (rs : List (TypeRecord Nat)) (i : Fin rs.length) : Option (Fin rs.length) :=
  ((resolveAll rs).get i).base

theorem link_baseOf_iff (hclosed : Closed rs) (i j : Fin rs.length) :
    Link (baseOf rs) i j ↔ IsBase rs i j := by
  have hi : rs[i.val]? = some (rs.get i) := List.getElem?_eq_getElem i.isLt
  have hbase := base_resolveAll hclosed i
  constructor
  · intro h
    refine ⟨rs.get i, hi, ?_⟩
    rw [← hbase, show ((resolveAll rs).get i).base = some j from h]
    rfl
  · rintro ⟨r, hr, hb⟩
    rw [hi] at hr
    cases hr
    rw [← hbase, Option.map_eq_some_iff] at hb
    obtain ⟨k, hk, hval⟩ := hb
    rw [← Fin.ext hval]
    exact hk

theorem baseOf_eq_none_iff (hclosed : Closed rs) (i : Fin rs.length) :
    baseOf rs i = none ↔ (rs.get i).base = none := by
  rw [← base_resolveAll hclosed i, Option.map_eq_none_iff]
  rfl

theorem rooted_of_chainEnds (hclosed : Closed rs) {steps : Nat} {i : Fin rs.length}
    (hends : chainEnds (baseOf rs) steps i = true) : Rooted rs i := by
  induction steps generalizing i with
  | zero => simp [chainEnds] at hends
  | succ steps ih =>
    cases h : baseOf rs i with
    | none =>
      exact ⟨i, rs.get i, .refl, List.getElem?_eq_getElem i.isLt, (baseOf_eq_none_iff hclosed i).1 h⟩
    | some k =>
      rw [chainEnds_of_some h] at hends
      obtain ⟨j, r, hpath, hr, hnone⟩ := ih hends
      exact ⟨j, r, .head ((link_baseOf_iff hclosed i k).1 h) hpath, hr, hnone⟩

theorem chainEnds_of_rooted (hclosed : Closed rs) {i : Nat} (hi : i < rs.length)
    (h : Rooted rs i) : chainEnds (baseOf rs) rs.length ⟨i, hi⟩ = true := by
  obtain ⟨j, r, hpath, hr, hnone⟩ := h
  -- Backwards from the root, each record ends because its base does.
  induction hpath using Relation.ReflTransGen.head_induction_on with
  | refl =>
    obtain ⟨hj, rfl⟩ := List.getElem?_eq_some_iff.1 hr
    have : baseOf rs ⟨j, hj⟩ = none := (baseOf_eq_none_iff hclosed ⟨j, hj⟩).2 hnone
    exact chainEnds_card (chainEnds_of_none (n := 0) this)
  | @head i k hstep _ ih =>
    have hk : k < rs.length := by
      obtain ⟨r', hr', hb⟩ := hstep
      exact hclosed r' (List.mem_of_getElem? hr') k (base_mem_references hb)
    exact chainEnds_of_next ((link_baseOf_iff hclosed ⟨i, hi⟩ ⟨k, hk⟩).2 hstep) (ih hk)

theorem looping?_eq_none_iff (hclosed : Closed rs) :
    looping? (resolveAll rs) = none ↔ ∀ i < rs.length, Rooted rs i := by
  show loop? (baseOf rs) = none ↔ _
  rw [loop?_eq_none_iff]
  constructor
  · intro h i hi
    exact rooted_of_chainEnds hclosed (h ⟨i, hi⟩)
  · intro h i
    exact chainEnds_of_rooted hclosed i.isLt (h i i.isLt)

theorem ofRecords_of_looping (hplaced : Placed rs) (hclosed : Closed rs)
    (h : ¬∀ i < rs.length, Rooted rs i) :
    ∃ i r, rs[i]? = some r ∧ Relation.TransGen (IsBase rs) i i ∧
      ofRecords rs = .error (.malformed (.inheritanceCycle r.fullName)) := by
  rw [← looping?_eq_none_iff hclosed, ← ne_eq, Option.ne_none_iff_exists'] at h
  obtain ⟨i, h⟩ := h
  have hloop : Relation.TransGen (Link (baseOf rs)) i i := loop_of_loop?_eq_some h
  have hlift : Relation.TransGen (IsBase rs) i.val i.val :=
    hloop.lift Fin.val fun a b hab => (link_baseOf_iff hclosed a b).1 hab
  refine ⟨i, rs.get i, List.getElem?_eq_getElem i.isLt, hlift, ?_⟩
  unfold ofRecords
  split
  · rename_i heq
    rw [misplaced?_eq_none_iff.2 hplaced] at heq
    cases heq
  · rw [dangling?_eq_none_iff.2 hclosed]
    simp only
    split
    · rename_i heq
      rw [h] at heq
      cases heq
      rw [← fullName_resolveAll i]
      rfl
    · rename_i heq
      rw [h] at heq
      cases heq

/-! ## Catalogs -/

theorem exists_ofRecords_iff :
    (∃ c, ofRecords rs = .ok c) ↔ Placed rs ∧ Closed rs ∧ ∀ i < rs.length, Rooted rs i := by
  simp only [ofRecords_eq_ok_iff]
  constructor
  · rintro ⟨c, hp, hg, hd, -⟩
    have hclosed := dangling?_eq_none_iff.1 hd
    exact ⟨misplaced?_eq_none_iff.1 hp, hclosed, (looping?_eq_none_iff hclosed).1 hg⟩
  · rintro ⟨hplaced, hclosed, hrooted⟩
    exact ⟨_, misplaced?_eq_none_iff.2 hplaced, (looping?_eq_none_iff hclosed).2 hrooted,
      dangling?_eq_none_iff.2 hclosed, rfl⟩

/-- What making a catalog of records comes to. -/
structure Validation (rs : List (TypeRecord Nat)) : Prop where
  accepts_iff : (∃ c, ofRecords rs = .ok c) ↔
    Placed rs ∧ Closed rs ∧ ∀ i < rs.length, Rooted rs i
  /-- The first record out of place is named. -/
  misplaced : ¬Placed rs → ∃ i r, rs[i]? = some r ∧ r.index ≠ i ∧
    (∀ j < i, ∀ r', rs[j]? = some r' → r'.index = j) ∧
    ofRecords rs = .error (.malformed (.misplaced r.fullName r.index i))
  /-- The first reference out of range is named. -/
  dangling : Placed rs → ∀ before i after,
    rs.flatMap TypeRecord.references = before ++ i :: after → (∀ j ∈ before, j < rs.length) →
    rs.length ≤ i → ofRecords rs = .error (.invalidTypeIndex i)
  /-- A type is named that is among its own bases. -/
  looping : Placed rs → Closed rs → (¬∀ i < rs.length, Rooted rs i) →
    ∃ i r, rs[i]? = some r ∧ Relation.TransGen (IsBase rs) i i ∧
      ofRecords rs = .error (.malformed (.inheritanceCycle r.fullName))
  baseChain : ∀ c, ofRecords rs = .ok c → ∀ i : c.Index, IsBaseChain c i (c.baseChain i)

/-- Making a catalog accepts the right records, says what is wrong with any others, and base chains
of a catalog end. -/
theorem ofRecords_validation (rs : List (TypeRecord Nat)) : Validation rs where
  accepts_iff := exists_ofRecords_iff
  misplaced := ofRecords_of_misplaced
  dangling hplaced _ _ _ := ofRecords_of_dangling hplaced
  looping := ofRecords_of_looping
  baseChain c _ := baseChain_isBaseChain c

end Catalog

end TypeRecovery
