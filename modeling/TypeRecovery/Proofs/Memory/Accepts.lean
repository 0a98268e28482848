import Mathlib.Data.List.Induction
import TypeRecovery.Proofs.Memory.Dump
import TypeRecovery.Proofs.Program.AddressSpace

/-!
# Accepted regions

Regions that are asked for in turn are accepted where those that are there have left room. Which of
them are accepted is determined by the order.
-/

namespace TypeRecovery

variable {wanted accepted : List Region} {r : Region}

/-- The region holds bytes, ends within the address space and shares no address with others. -/
def Region.FitsBeside (r : Region) (others : Array Region) : Prop :=
  r.Bounded ∧ ∀ q ∈ others, ¬q.Meets r.base r.length

/-- Regions are accepted in turn where they fit beside the old ones and those accepted before. -/
structure Accepts (old : Array Region) (wanted accepted : List Region) : Prop where
  sublist : accepted.Sublist wanted
  mem_iff : ∀ before r after, wanted = before ++ r :: after →
    (r ∈ accepted ↔
      r.Bounded ∧ ∀ q, q ∈ old ∨ q ∈ before ∧ q ∈ accepted → ¬q.Meets r.base r.length)

namespace Accepts

variable {old : Array Region}

theorem nil : Accepts old [] [] := by
  refine ⟨List.Sublist.slnil, ?_⟩
  intro before r after h
  simp at h

theorem cons_of_fits (hr : r.FitsBeside old) (hnew : r ∉ wanted)
    (h : Accepts (old.push r) wanted accepted) : Accepts old (r :: wanted) (r :: accepted) := by
  refine ⟨h.sublist.cons_cons r, ?_⟩
  intro before q after heq
  rcases List.cons_eq_append_iff.1 heq with ⟨rfl, hcons⟩ | ⟨before, rfl, rfl⟩
  · cases hcons
    refine iff_of_true List.mem_cons_self ⟨hr.1, ?_⟩
    rintro q (hq | ⟨hq, -⟩)
    · exact hr.2 q hq
    · cases hq
  · have hne : q ≠ r := by
      rintro rfl
      exact hnew (List.mem_append_right _ List.mem_cons_self)
    rw [List.mem_cons, or_iff_right hne, h.mem_iff before q after rfl]
    -- The first region counts among those that were there.
    simp only [Array.mem_push, List.mem_cons]
    have hsame : ∀ p, ((p ∈ old ∨ p = r) ∨ p ∈ before ∧ p ∈ accepted) ↔
        p ∈ old ∨ (p = r ∨ p ∈ before) ∧ (p = r ∨ p ∈ accepted) := by
      intro p
      rw [← or_and_left, or_assoc]
    simp only [hsame]

theorem cons_of_not_fits (hr : ¬r.FitsBeside old) (hnew : r ∉ wanted)
    (h : Accepts old wanted accepted) : Accepts old (r :: wanted) accepted := by
  have hrefused : r ∉ accepted := fun hmem => hnew (h.sublist.subset hmem)
  refine ⟨h.sublist.cons r, ?_⟩
  intro before q after heq
  rcases List.cons_eq_append_iff.1 heq with ⟨rfl, hcons⟩ | ⟨before, rfl, rfl⟩
  · cases hcons
    refine iff_of_false hrefused fun hfits => hr ⟨hfits.1, fun q hq => hfits.2 q (.inl hq)⟩
  · rw [h.mem_iff before q after rfl]
    have hsame : ∀ p, (p ∈ old ∨ p ∈ before ∧ p ∈ accepted) ↔
        p ∈ old ∨ p ∈ r :: before ∧ p ∈ accepted := by
      intro p
      refine or_congr_right (and_congr_left fun hp => ?_)
      rw [List.mem_cons, or_iff_right]
      rintro rfl
      exact hrefused hp
    simp only [hsame]

theorem mem_iff_mem_of_append {accepted' : List Region} (h : Accepts old wanted accepted)
    (h' : Accepts old wanted accepted') {before rest : List Region}
    (heq : wanted = before ++ rest) : ∀ r ∈ before, (r ∈ accepted' ↔ r ∈ accepted) := by
  induction before using List.reverseRecOn generalizing rest with
  | nil =>
    intro r hr
    cases hr
  | append_singleton before r ih =>
    intro q hq
    rw [List.append_assoc] at heq
    have hbefore := ih heq
    rcases List.mem_append.1 hq with hq | hq
    · exact hbefore q hq
    · rw [List.mem_singleton.1 hq, h.mem_iff before r rest heq, h'.mem_iff before r rest heq]
      simp only [and_congr_right (hbefore _)]

theorem unique (hasc : Ascending wanted) {accepted' : List Region}
    (h : Accepts old wanted accepted) (h' : Accepts old wanted accepted') :
    accepted' = accepted := by
  have hmem : ∀ r, r ∈ accepted' ↔ r ∈ accepted := by
    intro r
    by_cases hr : r ∈ wanted
    · exact h.mem_iff_mem_of_append h' (List.append_nil wanted).symm r hr
    · exact iff_of_false (fun hacc => hr (h'.sublist.subset hacc))
        fun hacc => hr (h.sublist.subset hacc)
  have hasc' : Ascending accepted' := hasc.sublist h'.sublist
  have hasc : Ascending accepted := hasc.sublist h.sublist
  exact hasc'.eq_of_perm hasc ((List.perm_ext_iff_of_nodup hasc'.nodup hasc.nodup).2 hmem)

theorem bounded (h : Accepts old wanted accepted) (hr : r ∈ accepted) : r.Bounded := by
  obtain ⟨before, after, rfl⟩ := List.append_of_mem (h.sublist.subset hr)
  exact ((h.mem_iff before r after rfl).1 hr).1

theorem pairwise_stop_le (hasc : Ascending wanted) (h : Accepts old wanted accepted) :
    accepted.Pairwise fun r r' => r.base.toNat + r.length ≤ r'.base.toNat := by
  refine List.pairwise_iff_forall_sublist.2 fun {r r'} hsub => ?_
  have hr : r ∈ accepted := hsub.subset List.mem_cons_self
  have hr' : r' ∈ accepted := hsub.subset (List.mem_cons_of_mem r List.mem_cons_self)
  have hlt : r.base < r'.base := List.pairwise_iff_forall_sublist.1 hasc (hsub.trans h.sublist)
  obtain ⟨first, rest, rfl, hfirst, hrest⟩ := List.cons_sublist_iff.1 (hsub.trans h.sublist)
  obtain ⟨middle, last, rfl⟩ := List.append_of_mem (List.singleton_sublist.1 hrest)
  obtain ⟨hbounded, hfree⟩ :=
    (h.mem_iff (first ++ middle) r' last (List.append_assoc ..).symm).1 hr'
  -- Otherwise the second region would start inside the first.
  by_contra hstop
  refine hfree r (.inr ⟨List.mem_append_left _ hfirst, hr⟩) ⟨r'.base, ?_, Nat.le_refl _, ?_⟩
  · exact Region.contains_iff.2 ⟨UInt64.le_iff_toNat_le.1 (UInt64.le_of_lt hlt), by omega⟩
  · have := hbounded.nonempty
    omega

end Accepts

theorem sum_length_lt {regions : List Region} {low : Nat} (hlow : low < UInt64.size)
    (hbounded : ∀ r ∈ regions, r.Bounded) (hfrom : ∀ r ∈ regions, low ≤ r.base.toNat)
    (hbehind : regions.Pairwise fun r r' => r.base.toNat + r.length ≤ r'.base.toNat) :
    low + (regions.map Region.length).sum < UInt64.size := by
  induction regions generalizing low with
  | nil => exact hlow
  | cons r regions ih =>
    obtain ⟨hnext, hbehind⟩ := List.pairwise_cons.1 hbehind
    have hstop := (hbounded r List.mem_cons_self).stop_lt
    have hrest := ih hstop (fun q hq => hbounded q (List.mem_cons_of_mem r hq)) hnext hbehind
    have hbase := hfrom r List.mem_cons_self
    rw [List.map_cons, List.sum_cons]
    omega

end TypeRecovery
