import TypeRecovery.Catalog.Basic

/-!
# Accepted catalogs

A catalog holds the records that it was made of. Its indices are the places of the records.
-/

namespace TypeRecovery

/-! ## Renaming nothing -/

section Renaming

variable {ρ : Type} {f : ρ → ρ}

theorem FieldRecord.map_eq_self {r : FieldRecord ρ} (h : f r.type = r.type) : r.map f = r := by
  rw [FieldRecord.map, h]

theorem ParamRecord.map_eq_self {r : ParamRecord ρ} (h : f r.type = r.type) : r.map f = r := by
  rw [ParamRecord.map, h]

theorem map_eq_self_of_forall {α : Type} {g : α → α} {l : List α} (h : ∀ a ∈ l, g a = a) :
    l.map g = l := by
  rw [List.map_congr_left h, List.map_id']

theorem MethodRecord.map_eq_self {m : MethodRecord ρ} (h : ∀ j ∈ m.references, f j = j) :
    m.map f = m := by
  have hresult : f m.result = m.result := h _ List.mem_cons_self
  have hparams : m.params.map (ParamRecord.map f) = m.params :=
    map_eq_self_of_forall fun p hp =>
      ParamRecord.map_eq_self (h _ (List.mem_cons_of_mem _ (List.mem_map_of_mem hp)))
  rw [MethodRecord.map, hresult, hparams]

theorem TypeRecord.map_eq_self {r : TypeRecord ρ} (hindex : f r.index = r.index)
    (h : ∀ j ∈ r.references, f j = j) : r.map f = r := by
  simp only [TypeRecord.references, List.mem_append] at h
  have hbase : r.base.map f = r.base := by
    cases hb : r.base with
    | none => rfl
    | some b => exact congrArg some (h b (by simp [hb]))
  have helement : r.element.map f = r.element := by
    cases he : r.element with
    | none => rfl
    | some e => exact congrArg some (h e (by simp [he]))
  have hfields : r.fields.map (FieldRecord.map f) = r.fields :=
    map_eq_self_of_forall fun x hx =>
      FieldRecord.map_eq_self (h _ (.inl (.inr (List.mem_map_of_mem hx))))
  have hmethods : r.methods.map (MethodRecord.map f) = r.methods :=
    map_eq_self_of_forall fun m hm =>
      MethodRecord.map_eq_self fun j hj => h j (.inr (List.mem_flatMap.2 ⟨m, hm, hj⟩))
  rw [TypeRecord.map, hindex, hbase, helement, hfields, hmethods]

end Renaming

/-! ## Records -/

namespace Catalog

theorem lt_of_dangling?_eq_none {rs : List (TypeRecord Nat)} (h : dangling? rs = none)
    {r : TypeRecord Nat} (hr : r ∈ rs) : ∀ j ∈ r.references, j < rs.length := by
  intro j hj
  have := List.find?_eq_none.1 h j (List.mem_flatMap.2 ⟨r, hr, hj⟩)
  simpa using this

/-- What is checked of records when a catalog is made of them. -/
theorem ofRecords_eq_ok_iff {rs : List (TypeRecord Nat)} {c : Catalog} :
    ofRecords rs = .ok c ↔
      ∃ (hp : misplaced? rs = none) (hg : looping? (resolveAll rs) = none),
        dangling? rs = none ∧
        c = ⟨rs.length, resolveAll rs, placed_of_misplaced?_eq_none hp,
          grounded_of_looping?_eq_none hg⟩ := by
  unfold ofRecords
  constructor
  · intro h
    split at h
    · cases h
    · rename_i hp
      split at h
      · cases h
      · rename_i hd
        split at h
        · cases h
        · rename_i hg
          cases h
          exact ⟨hp, hg, hd, rfl⟩
  · rintro ⟨hp, hg, hd, rfl⟩
    split
    · rename_i h
      rw [hp] at h
      cases h
    · split
      · rename_i h
        rw [hd] at h
        cases h
      · split
        · rename_i h
          rw [hg] at h
          cases h
        · rfl

theorem records_of_ofRecords {rs : List (TypeRecord Nat)} {c : Catalog} (h : ofRecords rs = .ok c) :
    c.size = rs.length ∧ ∀ i : c.Index, rs[i.val]? = some ((c.record i).map Fin.val) := by
  obtain ⟨hp, -, hd, rfl⟩ := ofRecords_eq_ok_iff.1 h
  refine ⟨rfl, fun i => ?_⟩
  have hi : i.val < rs.length := i.isLt
  have hmem : rs[i.val] ∈ rs := List.getElem_mem hi
  have hkept : rs[i.val].map (· % rs.length) = rs[i.val] := by
    apply TypeRecord.map_eq_self
    · rw [show rs[i.val].index = i.val from index_of_misplaced?_eq_none hp ⟨i.val, hi⟩]
      exact Nat.mod_eq_of_lt hi
    · exact fun j hj => Nat.mod_eq_of_lt (lt_of_dangling?_eq_none hd hmem j hj)
  have := resolveAll_map_val rs ⟨i.val, hi⟩
  rw [List.getElem?_eq_getElem hi]
  exact congrArg some (hkept.symm.trans this.symm)

theorem toList_eq (c : Catalog) : c.toList = (List.finRange c.size).map c.record := by
  apply List.ext_getElem
  · simp [toList]
  · intro i hi hi'
    simp [toList, record]

@[simp] theorem length_toList (c : Catalog) : c.toList.length = c.size := by simp [toList]

theorem eq_map_of_ofRecords {rs : List (TypeRecord Nat)} {c : Catalog} (h : ofRecords rs = .ok c) :
    rs = c.toList.map (TypeRecord.map Fin.val) := by
  obtain ⟨hsize, hrecords⟩ := records_of_ofRecords h
  apply List.ext_getElem?
  intro i
  rw [toList_eq, List.map_map]
  by_cases hi : i < c.size
  · rw [hrecords ⟨i, hi⟩]
    simp [hi]
  · rw [List.getElem?_eq_none (by omega), List.getElem?_eq_none (by simpa using hi)]

end Catalog

end TypeRecovery
