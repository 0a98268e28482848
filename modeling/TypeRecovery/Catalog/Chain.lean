/-!
# Chains

Following a link that every item may or may not have. Each function takes the number of steps that
it may make. Among `n` items a chain that ends does so within `n` steps.
-/

namespace TypeRecovery

variable {α : Type}

/-- An item and what its links lead to. -/
def chain (next : α → Option α) : Nat → α → List α
  | 0, _ => []
  | steps + 1, a =>
    match next a with
    | none => [a]
    | some b => a :: chain next steps b

/-- The links come to an end. -/
def chainEnds (next : α → Option α) : Nat → α → Bool
  | 0, _ => false
  | steps + 1, a =>
    match next a with
    | none => true
    | some b => chainEnds next steps b

variable {next : α → Option α}

theorem chain_of_none {n : Nat} {a : α} (h : next a = none) : chain next (n + 1) a = [a] := by
  rw [chain, h]

theorem chain_of_some {n : Nat} {a b : α} (h : next a = some b) :
    chain next (n + 1) a = a :: chain next n b := by
  rw [chain, h]

theorem chainEnds_of_none {n : Nat} {a : α} (h : next a = none) :
    chainEnds next (n + 1) a = true := by
  rw [chainEnds, h]

theorem chainEnds_of_some {n : Nat} {a b : α} (h : next a = some b) :
    chainEnds next (n + 1) a = chainEnds next n b := by
  rw [chainEnds, h]

/-! ## Chains that end -/

theorem chainEnds_mono {m n : Nat} {a : α} (hends : chainEnds next m a = true) (hle : m ≤ n) :
    chainEnds next n a = true := by
  induction m generalizing n a with
  | zero => simp [chainEnds] at hends
  | succ m ih =>
    obtain ⟨n, rfl⟩ := Nat.exists_eq_succ_of_ne_zero (by omega : n ≠ 0)
    cases h : next a with
    | none => exact chainEnds_of_none h
    | some b =>
      rw [chainEnds_of_some h] at hends ⊢
      exact ih hends (by omega)

/-- More steps than a chain takes make no difference. -/
theorem chain_eq_of_le {m n : Nat} {a : α} (hends : chainEnds next m a = true) (hle : m ≤ n) :
    chain next n a = chain next m a := by
  induction m generalizing n a with
  | zero => simp [chainEnds] at hends
  | succ m ih =>
    obtain ⟨n, rfl⟩ := Nat.exists_eq_succ_of_ne_zero (by omega : n ≠ 0)
    cases h : next a with
    | none => rw [chain_of_none h, chain_of_none h]
    | some b =>
      rw [chainEnds_of_some h] at hends
      rw [chain_of_some h, chain_of_some h, ih hends (by omega)]

theorem chainEnds_of_mem {n : Nat} {a b : α} (hends : chainEnds next n a = true)
    (hb : b ∈ chain next n a) : chainEnds next n b = true := by
  induction n generalizing a with
  | zero => simp [chainEnds] at hends
  | succ n ih =>
    cases h : next a with
    | none =>
      rw [chain_of_none h, List.mem_singleton] at hb
      rw [hb]
      exact hends
    | some d =>
      rw [chain_of_some h, List.mem_cons] at hb
      rcases hb with rfl | hb
      · exact hends
      · rw [chainEnds_of_some h] at hends
        exact chainEnds_mono (ih hends hb) (by omega)

theorem chain_suffix {n : Nat} {a b : α} (hends : chainEnds next n a = true)
    (hb : b ∈ chain next n a) : chain next n b <:+ chain next n a := by
  induction n generalizing a with
  | zero => simp [chainEnds] at hends
  | succ n ih =>
    cases h : next a with
    | none =>
      rw [chain_of_none h, List.mem_singleton] at hb
      exact hb ▸ List.suffix_rfl
    | some d =>
      rw [chain_of_some h, List.mem_cons] at hb
      rcases hb with rfl | hb
      · exact List.suffix_rfl
      · rw [chainEnds_of_some h] at hends
        -- From `b` the chain ends early enough for one step less.
        rw [chain_of_some h, chain_eq_of_le (chainEnds_of_mem hends hb) (by omega)]
        exact (ih hends hb).trans (List.suffix_cons _ _)

theorem chain_nodup {n : Nat} {a : α} (hends : chainEnds next n a = true) :
    (chain next n a).Nodup := by
  induction n generalizing a with
  | zero => simp [chainEnds] at hends
  | succ n ih =>
    cases h : next a with
    | none => simp [chain_of_none h]
    | some b =>
      have hrest : chainEnds next n b = true := by rwa [chainEnds_of_some h] at hends
      rw [chain_of_some h, List.nodup_cons]
      refine ⟨fun ha => ?_, ih hrest⟩
      -- Otherwise the chain of `a` is part of what comes behind `a`.
      have hle := (chain_suffix hrest ha).length_le
      rw [← chain_eq_of_le (chainEnds_of_mem hrest ha) (Nat.le_succ n), chain_of_some h,
        List.length_cons] at hle
      omega

theorem chainEnds_length {n : Nat} {a : α} (hends : chainEnds next n a = true) :
    chainEnds next (chain next n a).length a = true := by
  induction n generalizing a with
  | zero => simp [chainEnds] at hends
  | succ n ih =>
    cases h : next a with
    | none =>
      rw [chain_of_none h]
      exact chainEnds_of_none h
    | some b =>
      rw [chainEnds_of_some h] at hends
      rw [chain_of_some h, List.length_cons, chainEnds_of_some h]
      exact ih hends

/-- A chain among `n` items that ends takes at most `n` steps. -/
theorem chainEnds_card {n k : Nat} {next : Fin n → Option (Fin n)} {i : Fin n}
    (hends : chainEnds next k i = true) : chainEnds next n i = true := by
  have hle := (chain_nodup hends).length_le_of_subset fun j _ => List.mem_finRange j
  rw [List.length_finRange] at hle
  exact chainEnds_mono (chainEnds_length hends) hle

end TypeRecovery
