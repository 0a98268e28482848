import TypeRecovery.Proofs.Catalog.Validation
import Mathlib.Data.Fintype.Card

/-!
# Renumbered catalogs

The records of a catalog may be put in any other order, if every reference is renamed along. They make
a catalog again, in which everything is as it was but for the numbers.
-/

namespace TypeRecovery

/-! ## Records under two names -/

section

variable {ρ σ τ : Type} {f : ρ → σ}

theorem MethodRecord.references_map (f : ρ → σ) (m : MethodRecord ρ) :
    (m.map f).references = m.references.map f := by
  simp [MethodRecord.references, MethodRecord.map, ParamRecord.map, Function.comp_def]

theorem TypeRecord.references_map (f : ρ → σ) (r : TypeRecord ρ) :
    (r.map f).references = r.references.map f := by
  have hmethods : ∀ ms : List (MethodRecord ρ),
      (ms.map (MethodRecord.map f)).flatMap MethodRecord.references =
        (ms.flatMap MethodRecord.references).map f := by
    intro ms
    rw [List.flatMap_map, List.map_flatMap]
    exact List.flatMap_congr fun m _ => m.references_map f
  have hoption : ∀ x : Option ρ, (x.map f).toList = x.toList.map f := by
    intro x
    cases x <;> rfl
  unfold TypeRecord.references TypeRecord.map
  simp only [hmethods, hoption, List.map_append, List.map_map]
  rfl

@[simp] theorem TypeRecord.isValueType_map (f : ρ → σ) (r : TypeRecord ρ) :
    (r.map f).isValueType = r.isValueType := rfl

theorem TypeRecord.map_map (g : σ → τ) (f : ρ → σ) (r : TypeRecord ρ) :
    (r.map f).map g = r.map (g ∘ f) := by
  simp [TypeRecord.map, FieldRecord.map, MethodRecord.map, ParamRecord.map, Function.comp_def]

theorem TypeRecord.map_injective (hf : Function.Injective f) :
    Function.Injective (TypeRecord.map f) := by
  intro r r' h
  have : Nonempty ρ := ⟨r.index⟩
  obtain ⟨g, hg⟩ := hf.hasLeftInverse
  have hback : ∀ r : TypeRecord ρ, (r.map f).map g = r := by
    intro r
    rw [TypeRecord.map_map]
    exact TypeRecord.map_eq_self (hg r.index) fun j _ => hg j
  rw [← hback r, ← hback r', h]

end

/-! ## Chains under two names -/

theorem chain_map {α β : Type} {next : α → Option α} {next' : β → Option β} {f : α → β}
    (hnext : ∀ a, next' (f a) = (next a).map f) (n : Nat) (a : α) :
    chain next' n (f a) = (chain next n a).map f := by
  induction n generalizing a with
  | zero => rfl
  | succ n ih =>
    cases h : next a with
    | none =>
      have h' : next' (f a) = none := by rw [hnext, h]; rfl
      rw [chain_of_none h, chain_of_none h', List.map_singleton]
    | some b =>
      have h' : next' (f a) = some (f b) := by rw [hnext, h]; rfl
      rw [chain_of_some h, chain_of_some h', ih, List.map_cons]

namespace Catalog

/-! ## Catalogs under two names -/

/-- The second catalog says of the types what the first one says, under other numbers. -/
structure Renaming (c c' : Catalog) where
  index : c.Index ≃ c'.Index
  record_eq : ∀ i, c'.record (index i) = (c.record i).map index

namespace Renaming

variable {c c' : Catalog} (e : c.Renaming c') (i : c.Index)

theorem base?_eq : c'.base? (e.index i) = (c.base? i).map e.index := by
  unfold Catalog.base?
  rw [e.record_eq]
  rfl

include e in
theorem size_eq : c'.size = c.size := by
  have := Fintype.card_congr e.index
  simpa using this.symm

theorem baseChain_eq : c'.baseChain (e.index i) = (c.baseChain i).map e.index := by
  unfold Catalog.baseChain
  rw [e.size_eq]
  exact chain_map e.base?_eq _ i

end Renaming

/-! ## Renumbering -/

/-- A permutation of the numbers below `n`. It keeps the others. -/
def renumbering {n : Nat} (p : Equiv.Perm (Fin n)) (i : Nat) : Nat :=
  if h : i < n then p ⟨i, h⟩ else i

@[simp] theorem renumbering_val {n : Nat} (p : Equiv.Perm (Fin n)) (i : Fin n) :
    renumbering p i.val = (p i).val := by
  unfold renumbering
  rw [dif_pos i.isLt]

/-- Puts each record where the permutation puts its index, with every reference renamed. -/
def renumber (rs : List (TypeRecord Nat)) (p : Equiv.Perm (Fin rs.length)) :
    List (TypeRecord Nat) :=
  List.ofFn fun j => (rs.get (p.symm j)).map (renumbering p)

section

variable {rs : List (TypeRecord Nat)} (p : Equiv.Perm (Fin rs.length))

@[simp] theorem length_renumber : (renumber rs p).length = rs.length := List.length_ofFn

theorem renumber_getElem? (i : Fin rs.length) :
    (renumber rs p)[(p i).val]? = some ((rs.get i).map (renumbering p)) := by
  unfold renumber
  simp

theorem renumber_getElem?_of_some {i : Nat} {r : TypeRecord Nat} (h : rs[i]? = some r) :
    (renumber rs p)[renumbering p i]? = some (r.map (renumbering p)) := by
  obtain ⟨hi, rfl⟩ := List.getElem?_eq_some_iff.1 h
  have := renumbering_val p ⟨i, hi⟩
  simp only at this
  rw [this]
  exact renumber_getElem? p ⟨i, hi⟩

theorem eq_of_renumber_getElem? {j : Nat} {r : TypeRecord Nat} (h : (renumber rs p)[j]? = some r) :
    ∃ i, (p i).val = j ∧ r = (rs.get i).map (renumbering p) := by
  have hj : j < rs.length := by
    have := (List.getElem?_eq_some_iff.1 h).1
    simpa using this
  refine ⟨p.symm ⟨j, hj⟩, by simp, ?_⟩
  have hsome := renumber_getElem? p (p.symm ⟨j, hj⟩)
  rw [Equiv.apply_symm_apply, h] at hsome
  exact Option.some.inj hsome

theorem placed_renumber (hplaced : Placed rs) : Placed (renumber rs p) := by
  intro j r hr
  obtain ⟨i, rfl, rfl⟩ := eq_of_renumber_getElem? p hr
  have hi : (rs.get i).index = i.val := hplaced i (rs.get i) (by simp)
  show renumbering p (rs.get i).index = _
  rw [hi, renumbering_val]

theorem closed_renumber (hclosed : Closed rs) : Closed (renumber rs p) := by
  intro r hr j hj
  obtain ⟨k, hk⟩ := List.mem_iff_getElem?.1 hr
  obtain ⟨i, -, rfl⟩ := eq_of_renumber_getElem? p hk
  rw [TypeRecord.references_map] at hj
  obtain ⟨j, hmem, rfl⟩ := List.mem_map.1 hj
  have hlt := hclosed (rs.get i) (List.get_mem rs i) j hmem
  rw [show j = (⟨j, hlt⟩ : Fin rs.length).val from rfl, renumbering_val, length_renumber]
  exact (p _).isLt

theorem isBase_renumber {i j : Nat} (h : IsBase rs i j) :
    IsBase (renumber rs p) (renumbering p i) (renumbering p j) := by
  obtain ⟨r, hr, hbase⟩ := h
  exact ⟨_, renumber_getElem?_of_some p hr, congrArg (Option.map (renumbering p)) hbase⟩

theorem rooted_renumber {i : Nat} (h : Rooted rs i) :
    Rooted (renumber rs p) (renumbering p i) := by
  obtain ⟨j, r, hpath, hr, hnone⟩ := h
  exact ⟨renumbering p j, _, hpath.lift (renumbering p) fun _ _ => isBase_renumber p,
    renumber_getElem?_of_some p hr, congrArg (Option.map (renumbering p)) hnone⟩

theorem exists_ofRecords_renumber (h : ∃ c, ofRecords rs = .ok c) :
    ∃ c', ofRecords (renumber rs p) = .ok c' := by
  obtain ⟨hplaced, hclosed, hrooted⟩ := exists_ofRecords_iff.1 h
  refine exists_ofRecords_iff.2 ⟨placed_renumber p hplaced, closed_renumber p hclosed, ?_⟩
  intro i hi
  rw [length_renumber] at hi
  have hroot := rooted_renumber p (hrooted (p.symm ⟨i, hi⟩) (p.symm ⟨i, hi⟩).isLt)
  rwa [renumbering_val, Equiv.apply_symm_apply] at hroot

theorem exists_renaming {c c' : Catalog} (hc : ofRecords rs = .ok c)
    (hc' : ofRecords (renumber rs p) = .ok c') :
    ∃ e : c.Renaming c', ∀ i, (e.index i).val = renumbering p i.val := by
  have hrecords := (records_of_ofRecords hc).2
  have hrecords' := (records_of_ofRecords hc').2
  have hsize := (records_of_ofRecords hc).1
  have hsize' := (records_of_ofRecords hc').1
  rw [length_renumber] at hsize'
  let index : c.Index ≃ c'.Index :=
    ((finCongr hsize).trans p).trans (finCongr hsize').symm
  have hindex : ∀ i, (index i).val = renumbering p i.val := by
    intro i
    have := renumbering_val p (finCongr hsize i)
    exact this.symm
  refine ⟨⟨index, fun i => ?_⟩, hindex⟩
  apply TypeRecord.map_injective Fin.val_injective
  have hold : rs[(finCongr hsize i).val]? = some ((c.record i).map Fin.val) := hrecords i
  have hget : rs.get (finCongr hsize i) = (c.record i).map Fin.val := by
    rw [List.getElem?_eq_getElem (finCongr hsize i).isLt] at hold
    exact Option.some.inj hold
  have hnew := (hrecords' (index i)).symm.trans (renumber_getElem? p (finCongr hsize i))
  rw [Option.some.inj hnew, hget, TypeRecord.map_map, TypeRecord.map_map]
  congr 1
  funext j
  exact (hindex j).symm

end

end Catalog

end TypeRecovery
