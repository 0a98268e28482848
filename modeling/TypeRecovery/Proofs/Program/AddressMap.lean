import TypeRecovery.AddressMap
import Mathlib.Data.List.Sort

/-!
# Equality of address maps

A map is determined by what it holds at every address, so putting back what is there changes
nothing.
-/

namespace TypeRecovery

namespace AddressMap

variable {α : Type} {m m' : AddressMap α} {address : UInt64} {x : α}

theorem lookupIn_eq_some_iff {l : List (UInt64 × α)} (h : l.Pairwise fun a b => a.1 < b.1) :
    lookupIn address l = some x ↔ (address, x) ∈ l := by
  induction l with
  | nil => simp [lookupIn]
  | cons e l ih =>
    obtain ⟨a, y⟩ := e
    obtain ⟨hbelow, hl⟩ := List.pairwise_cons.1 h
    rw [List.mem_cons, Prod.mk.injEq]
    by_cases ha : address = a
    · -- No later entry has the address of the first.
      have hnot : (address, x) ∉ l := by
        intro hmem
        have hlt := hbelow _ hmem
        rw [ha] at hlt
        exact UInt64.lt_irrefl a hlt
      simp [lookupIn, ha, ha ▸ hnot, eq_comm]
    · simp [lookupIn, ha, ih hl]

theorem mem_entries_iff : (address, x) ∈ m.entries ↔ m.find? address = some x :=
  (lookupIn_eq_some_iff m.ascending).symm

theorem ext_find? (h : ∀ address, m.find? address = m'.find? address) : m = m' := by
  have hirrefl : Std.Irrefl fun a b : UInt64 × α => a.1 < b.1 :=
    ⟨fun a => UInt64.lt_irrefl a.1⟩
  have hantisymm : Std.Antisymm fun a b : UInt64 × α => a.1 < b.1 :=
    ⟨fun a b hab hba => absurd hba (UInt64.lt_asymm hab)⟩
  have hentries : m.entries = m'.entries := by
    apply List.Pairwise.eq_of_mem_iff m.ascending m'.ascending
    rintro ⟨address, x⟩
    rw [mem_entries_iff, mem_entries_iff, h]
  cases m
  cases m'
  cases hentries
  rfl

theorem insert_eq_self (h : m.find? address = some x) : m.insert address x = m := by
  apply ext_find?
  intro b
  rw [find?_insert]
  split
  · rename_i hb
    rw [hb, h]
  · rfl

theorem insert_insert (m : AddressMap α) (address : UInt64) (x y : α) :
    (m.insert address x).insert address y = m.insert address y := by
  apply ext_find?
  intro b
  rw [find?_insert, find?_insert, find?_insert]
  split <;> rfl

end AddressMap

end TypeRecovery
