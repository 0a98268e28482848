import TypeRecovery.Catalog.Basic
import Mathlib.Data.List.Chain

/-!
# Base chains

A base chain starts at its type, goes from base to base and ends at a type without one. The chain of
a type that lies on another type's chain is the rest of it.
-/

namespace TypeRecovery

/-! ## Chains that end -/

section Chain

variable {α : Type} {next : α → Option α}

theorem eq_of_mem_head?_chain {n : Nat} {a b : α} (hb : b ∈ (chain next n a).head?) : b = a := by
  cases n with
  | zero => simp [chain] at hb
  | succ n =>
    cases h : next a with
    | none => simpa [chain_of_none h] using hb.symm
    | some d => simpa [chain_of_some h] using hb.symm

theorem chain_head? {n : Nat} {a : α} (hends : chainEnds next n a = true) :
    (chain next n a).head? = some a := by
  cases n with
  | zero => simp [chainEnds] at hends
  | succ n =>
    cases h : next a with
    | none => rw [chain_of_none h]; rfl
    | some b => rw [chain_of_some h]; rfl

theorem chain_links (next : α → Option α) (n : Nat) (a : α) :
    (chain next n a).IsChain fun a b => next a = some b := by
  induction n generalizing a with
  | zero => exact .nil
  | succ n ih =>
    cases h : next a with
    | none =>
      rw [chain_of_none h]
      exact .singleton a
    | some b =>
      rw [chain_of_some h, List.isChain_cons]
      refine ⟨fun d hd => ?_, ih b⟩
      rw [eq_of_mem_head?_chain hd]
      exact h

theorem chain_getLast? {n : Nat} {a : α} (hends : chainEnds next n a = true) :
    ∃ last, (chain next n a).getLast? = some last ∧ next last = none := by
  induction n generalizing a with
  | zero => simp [chainEnds] at hends
  | succ n ih =>
    cases h : next a with
    | none =>
      rw [chain_of_none h]
      exact ⟨a, rfl, h⟩
    | some b =>
      rw [chainEnds_of_some h] at hends
      obtain ⟨last, hlast, hnone⟩ := ih hends
      rw [chain_of_some h, List.getLast?_cons, hlast]
      exact ⟨last, rfl, hnone⟩

end Chain

/-! ## Catalogs -/

variable {c : Catalog}

/-- A list of types that starts at one of them and goes from base to base up to one without. No type
is there twice. -/
structure IsBaseChain (c : Catalog) (i : c.Index) (l : List c.Index) : Prop where
  head : l.head? = some i
  links : l.IsChain fun a b => (c.record a).base = some b
  nodup : l.Nodup
  length_le : l.length ≤ c.size
  last : ∃ root, l.getLast? = some root ∧ (c.record root).base = none

theorem baseChain_isBaseChain (c : Catalog) (i : c.Index) : IsBaseChain c i (c.baseChain i) where
  head := chain_head? (c.grounded i)
  links := chain_links c.base? c.size i
  nodup := chain_nodup (c.grounded i)
  length_le := by
    have hle := (chain_nodup (c.grounded i)).length_le_of_subset fun j _ => List.mem_finRange j
    rwa [List.length_finRange] at hle
  last := chain_getLast? (c.grounded i)

theorem baseChain_suffix {derived base : c.Index} (hb : base ∈ c.baseChain derived) :
    c.baseChain base <:+ c.baseChain derived :=
  chain_suffix (c.grounded derived) hb

end TypeRecovery
