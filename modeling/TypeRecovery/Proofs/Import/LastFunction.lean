import TypeRecovery.Proofs.Import.Functions
import TypeRecovery.Proofs.Import.Slots
import TypeRecovery.Proofs.Program.Parts

/-!
# What is left of a function

The last plan for an address decides on the name and the signature of the function there.
-/

namespace TypeRecovery

namespace FunctionPlan

/-- The plan is for a function at an address. -/
def isAt (plan : FunctionPlan) (address : UInt64) : Bool :=
  plan.address ≠ 0 && plan.address = address

/-- What a plan makes of a function, or of none where a new one may be. -/
def onto (plan : FunctionPlan) (accepts : Bool) : Option Function → Option Function
  | some f => some { f with name := plan.name, signature := some plan.signature }
  | none => if accepts then some ⟨plan.address, plan.name, some plan.signature⟩ else none

theorem onto_onto {plan other : FunctionPlan} (h : other.address = plan.address) (accepts : Bool)
    (old : Option Function) :
    plan.onto accepts (other.onto accepts old) = plan.onto accepts old := by
  cases old with
  | some f => rfl
  | none => cases accepts <;> simp [onto, h]

theorem isSome_onto (plan : FunctionPlan) (accepts : Bool) (old : Option Function) :
    (plan.onto accepts old).isSome = (old.isSome || accepts) := by
  cases old with
  | some f => rfl
  | none => cases accepts <;> rfl

theorem perform_naming (plan : FunctionPlan) (p : Program) :
    p.perform (plan.naming p) =
      match p.function? plan.address with
      | some f =>
        .ok { p with functions := p.functions.insert plan.address { f with name := plan.name } }
      | none =>
        if p.acceptsFunction plan.address then
          .ok { p with
            functions := p.functions.insert plan.address ⟨plan.address, plan.name, none⟩ }
        else .error (.invalidAddress plan.address) := by
  unfold naming AddressMap.contains
  cases hfind : p.functions.find? plan.address with
  | some f =>
    simp only [Option.isSome_some, if_true, Program.perform, Program.renameFunction,
      Program.function?, hfind]
  | none =>
    simp only [Option.isSome_none, Bool.false_eq_true, if_false, Program.perform,
      Program.createFunction, Program.function?, hfind]

theorem operations_part {plan : FunctionPlan} {t : Target} {op : Operation}
    (h : op ∈ plan.operations t) : op.part = .functions := by
  rcases (mem_operations h).2 with rfl | rfl
  · unfold naming
    split <;> rfl
  · rfl

variable {t : Target}

theorem run_operations_of_ok (ht : t.IsOpen) {plan : FunctionPlan} {p : Program}
    (h : t.program.perform (plan.naming t.program) = .ok p) (hne : plan.address ≠ 0) :
    (t.run (plan.operations t)).program =
      (p.perform plan.signing).toOption.getD p := by
  have hresult : (t.attempt (plan.naming t.program)).1 = .ok () := by
    rw [ht.attempt_fst, h]
    rfl
  have hprogram : (t.attempt (plan.naming t.program)).2.program = p := by
    rw [ht.attempt_program, h]
    rfl
  unfold operations
  rw [if_neg hne, hresult, Target.run_cons, Target.run_cons, Target.run_nil,
    (ht.attempt _).attempt_program, hprogram]

theorem run_operations_of_error (ht : t.IsOpen) {plan : FunctionPlan} {e : Error}
    (h : t.program.perform (plan.naming t.program) = .error e) :
    (t.run (plan.operations t)).program = t.program := by
  have hresult : (t.attempt (plan.naming t.program)).1 = .error e := by
    rw [ht.attempt_fst, h]
    rfl
  unfold operations
  split
  · rfl
  · rw [hresult, Target.run_cons, Target.run_nil, ht.attempt_program, h]
    rfl

theorem run_operations_function? (ht : t.IsOpen) (plan : FunctionPlan) (address : UInt64) :
    (t.run (plan.operations t)).program.function? address =
      if plan.isAt address then
        plan.onto (t.program.acceptsFunction address) (t.program.function? address)
      else t.program.function? address := by
  by_cases hzero : plan.address = 0
  · simp [operations, isAt, hzero]
  have hat : plan.isAt address = decide (address = plan.address) := by
    unfold isAt
    simp [hzero, eq_comm]
  have hnaming := plan.perform_naming t.program
  rw [hat]
  cases hfind : t.program.function? plan.address with
  | some f =>
    rw [hfind] at hnaming
    rw [run_operations_of_ok ht hnaming hzero]
    unfold Program.function? at hfind ⊢
    simp only [signing, Program.perform, Program.applySignature, Program.function?,
      AddressMap.find?_insert, if_true, Except.toOption, Option.getD_some]
    by_cases haddress : address = plan.address
    · simp [haddress, hfind, onto]
    · simp [haddress]
  | none =>
    rw [hfind] at hnaming
    cases haccepts : t.program.acceptsFunction plan.address with
    | true =>
      rw [haccepts] at hnaming
      rw [run_operations_of_ok ht hnaming hzero]
      unfold Program.function? at hfind ⊢
      simp only [signing, Program.perform, Program.applySignature, Program.function?,
        AddressMap.find?_insert, if_true, Except.toOption, Option.getD_some]
      by_cases haddress : address = plan.address
      · simp [haddress, hfind, onto, haccepts]
      · simp [haddress]
    | false =>
      rw [haccepts] at hnaming
      rw [run_operations_of_error ht hnaming]
      by_cases haddress : address = plan.address
      · simp [haddress, hfind, onto, haccepts]
      · simp [haddress]

end FunctionPlan

theorem functionOperations_part {plans : List FunctionPlan} {t : Target} {op : Operation}
    (h : op ∈ functionOperations plans t) : op.part = .functions := by
  obtain ⟨plan, _, -, hop⟩ := mem_functionOperations h
  exact FunctionPlan.operations_part hop

theorem Program.acceptsFunction_congr {p p' : Program} (h : p'.regions = p.regions)
    (address : UInt64) : p'.acceptsFunction address = p.acceptsFunction address := by
  unfold acceptsFunction
  rw [h]

theorem run_operations_regions (plan : FunctionPlan) (t : Target) :
    (t.run (plan.operations t)).program.regions = t.program.regions :=
  (Target.run_agreeOutside (fun _ => FunctionPlan.operations_part) t).regions (by simp)

theorem run_functionOperations_function? {t : Target} (ht : t.IsOpen) (plans : List FunctionPlan)
    (address : UInt64) :
    (t.run (functionOperations plans t)).program.function? address =
      match last? (fun plan => plan.isAt address) plans with
      | some plan =>
        plan.onto (t.program.acceptsFunction address) (t.program.function? address)
      | none => t.program.function? address := by
  induction plans generalizing t with
  | nil => rfl
  | cons plan plans ih =>
    rw [functionOperations, Target.run_append, ih (ht.run _), last?_cons,
      Program.acceptsFunction_congr (run_operations_regions plan t),
      FunctionPlan.run_operations_function? ht]
    cases hlast : last? (fun plan => plan.isAt address) plans with
    | none => cases plan.isAt address <;> rfl
    | some last =>
      simp only [Option.some_or]
      split
      · rename_i hat
        have hsame : plan.address = last.address := by
          have hlastAt := (last?_eq_some_iff.1 hlast).1
          simp only [FunctionPlan.isAt, Bool.and_eq_true, decide_eq_true_eq] at hat hlastAt
          rw [hat.2, hlastAt.2]
        exact FunctionPlan.onto_onto hsame _ _
      · rfl

theorem run_functionOperations_agreeOutside (plans : List FunctionPlan) (t : Target) :
    t.program.AgreeOutside .functions (t.run (functionOperations plans t)).program :=
  Target.run_agreeOutside (fun _ => functionOperations_part) t

theorem run_functionOperations_again {plans : List FunctionPlan} {t t' : Target} (ht : t.IsOpen)
    (ht' : t'.IsOpen) (hprogram : t'.program = (t.run (functionOperations plans t)).program) :
    (t'.run (functionOperations plans t')).program = t'.program := by
  apply (run_functionOperations_agreeOutside plans t').eq_of_functions
  intro address
  have hfirst := run_functionOperations_function? ht plans address
  have hsecond := run_functionOperations_function? ht' plans address
  have haccepts : t'.program.acceptsFunction address = t.program.acceptsFunction address := by
    apply Program.acceptsFunction_congr
    rw [hprogram]
    exact (run_functionOperations_agreeOutside plans t).regions (by simp)
  rw [← hprogram] at hfirst
  rw [hsecond, haccepts]
  cases hlast : last? (fun plan => plan.isAt address) plans with
  | none => rfl
  | some plan =>
    rw [hlast] at hfirst
    simp only at hfirst ⊢
    rw [hfirst, FunctionPlan.onto_onto rfl]

/-! ## Methods -/

/-- The methods of all types, in the order of the catalog. -/
def Catalog.methods (c : Catalog) : List (c.Index × MethodRecord c.Index) :=
  (List.finRange c.size).flatMap fun i => (c.record i).methods.map (Prod.mk i)

/-- The last method at an address, with its type. At zero there is none. -/
def Catalog.lastMethod? (c : Catalog) (address : UInt64) :
    Option (c.Index × MethodRecord c.Index) :=
  last? (fun x => x.2.address ≠ 0 && x.2.address = address) c.methods

theorem functionPlans_eq_map {c : Catalog} (h : Handles c) :
    functionPlans h = c.methods.map fun x => planOf h x.1 x.2 := by
  unfold functionPlans Catalog.methods
  simp [List.map_flatMap, Function.comp_def]

theorem last?_functionPlans {c : Catalog} (h : Handles c) (address : UInt64) :
    last? (fun plan => plan.isAt address) (functionPlans h) =
      (c.lastMethod? address).map fun x => planOf h x.1 x.2 := by
  rw [functionPlans_eq_map, last?_map]
  rfl

theorem Catalog.address_of_lastMethod? {c : Catalog} {address : UInt64} {i : c.Index}
    {m : MethodRecord c.Index} (h : c.lastMethod? address = some (i, m)) : m.address = address := by
  obtain ⟨hat, -⟩ := last?_eq_some_iff.1 h
  simp only [Bool.and_eq_true, decide_eq_true_eq] at hat
  exact hat.2

end TypeRecovery
