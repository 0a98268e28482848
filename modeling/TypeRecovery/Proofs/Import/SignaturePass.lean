import TypeRecovery.Proofs.Import.Fresh
import TypeRecovery.Proofs.Program.AddressSpace

/-!
# A pass over all methods

A method finds at its address what the methods before it left there. In the end the function at an
address is that of the last method there, whoever made it, while the counts can be read off the
program as it was before the pass.
-/

namespace TypeRecovery

/-! ## Counts -/

namespace Program

/-- A pass makes a function at the address when it first comes there. -/
def isOpenTo (p : Program) (address : UInt64) : Bool :=
  !p.functions.contains address && p.acceptsFunction address

/-- A pass can make nothing of the address. -/
def isClosedTo (p : Program) (address : UInt64) : Bool :=
  address ≠ 0 && !p.functions.contains address && !p.acceptsFunction address

end Program

namespace SignatureReport

/-- What a pass over methods at these addresses counts. -/
structure Counts (report : SignatureReport) (p : Program) (addresses : List UInt64) : Prop where
  skipped : report.skipped = addresses.countP (· = 0)
  failed : report.failed = addresses.countP p.isClosedTo
  /-- Each address once, however many methods are there. -/
  created : report.created = (addresses.filter p.isOpenTo).eraseDups.length
  /-- The others with an address. -/
  renamed : report.created + report.renamed + report.failed = addresses.countP (· ≠ 0)
  applied : report.applied = report.created + report.renamed

theorem length_eraseDups_filter_concat (p : UInt64 → Bool) (addresses : List UInt64)
    (address : UInt64) :
    ((addresses ++ [address]).filter p).eraseDups.length =
      (addresses.filter p).eraseDups.length +
        if p address && decide (address ∉ addresses) then 1 else 0 := by
  rw [List.filter_append, List.filter_singleton]
  cases hp : p address with
  | false => simp
  | true =>
    simp only [cond_true, eraseDups_concat, List.mem_filter, hp, and_true, Bool.true_and]
    by_cases hmem : address ∈ addresses <;> simp [hmem]

theorem Counts.append {report report' : SignatureReport} {p : Program} {addresses : List UInt64}
    {address : UInt64} (h : report.Counts p addresses)
    (hskipped : report'.skipped = report.skipped + if address = 0 then 1 else 0)
    (hfailed : report'.failed = report.failed + if p.isClosedTo address then 1 else 0)
    (hcreated : report'.created =
      report.created + if p.isOpenTo address && decide (address ∉ addresses) then 1 else 0)
    (hrenamed : report'.created + report'.renamed + report'.failed =
      report.created + report.renamed + report.failed + if address = 0 then 0 else 1)
    (happlied : report'.applied = report'.created + report'.renamed) :
    report'.Counts p (addresses ++ [address]) where
  skipped := by
    rw [hskipped, h.skipped, List.countP_append, List.countP_singleton]
    simp only [decide_eq_true_eq]
  failed := by rw [hfailed, h.failed, List.countP_append, List.countP_singleton]
  created := by rw [hcreated, h.created, length_eraseDups_filter_concat]
  renamed := by
    rw [hrenamed, h.renamed, List.countP_append, List.countP_singleton]
    simp only [decide_eq_true_eq, ne_eq, ite_not]
  applied := happlied

/-- One method more, which finds a function also where a method before it could make one. -/
theorem Counts.concat {report : SignatureReport} {p : Program} {addresses : List UInt64}
    (h : report.Counts p addresses) (address : UInt64) :
    (if address = 0 then { report with skipped := report.skipped + 1 }
      else if p.functions.contains address ||
          decide (address ∈ addresses) && p.acceptsFunction address then
        { report with renamed := report.renamed + 1, applied := report.applied + 1 }
      else if p.acceptsFunction address then
        { report with created := report.created + 1, applied := report.applied + 1 }
      else { report with failed := report.failed + 1 }).Counts p (addresses ++ [address]) := by
  have happlied := h.applied
  by_cases hzero : address = 0
  · subst hzero
    have haccepts : p.acceptsFunction 0 = false := by simp [Program.acceptsFunction]
    rw [if_pos rfl]
    apply h.append <;> simp [Program.isOpenTo, Program.isClosedTo, haccepts, happlied]
  · rw [if_neg hzero]
    cases hfound : p.functions.contains address with
    | true =>
      rw [Bool.true_or, if_pos rfl]
      apply h.append <;> simp [Program.isOpenTo, Program.isClosedTo, hzero, hfound, happlied] <;>
        omega
    | false =>
      cases haccepts : p.acceptsFunction address with
      | false =>
        simp only [Bool.and_false, Bool.or_false, Bool.false_eq_true, if_false]
        apply h.append <;>
          simp [Program.isOpenTo, Program.isClosedTo, hzero, hfound, haccepts, happlied]
        omega
      | true =>
        -- A method before it at the address has made the function.
        by_cases hmem : address ∈ addresses
        · simp only [hmem, decide_true, Bool.and_true, Bool.or_true, if_true]
          apply h.append <;>
            simp [Program.isOpenTo, Program.isClosedTo, hzero, hfound, haccepts, hmem, happlied] <;>
            omega
        · simp only [hmem, decide_false, Bool.and_true, Bool.or_false, Bool.false_eq_true, if_false,
            if_true]
          apply h.append <;>
            simp [Program.isOpenTo, Program.isClosedTo, hzero, hfound, haccepts, hmem, happlied] <;>
            omega

end SignatureReport

/-! ## A pass -/

section

variable {ws : Workspace} {plans : List FunctionPlan}

end

/-! ## Programs -/

namespace Catalog

variable {c : Catalog}

end Catalog

section

variable {c : Catalog} (h : Handles c)

end

end TypeRecovery
