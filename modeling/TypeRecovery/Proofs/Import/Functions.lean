import TypeRecovery.Proofs.Import.Stages

/-!
# What functions ask for

A method with an address asks for a function and then, if there is one of its name now, for its
signature. None of this is fatal.
-/

namespace TypeRecovery

namespace FunctionPlan

def naming (plan : FunctionPlan) (p : Program) : Operation :=
  if p.functions.contains plan.address then .renameFunction plan.address plan.name
  else .createFunction plan.address plan.name

def signing (plan : FunctionPlan) : Operation := .applySignature plan.address plan.signature

/-- A function without an address is left out, and one that did not get its name is not signed. -/
def operations (plan : FunctionPlan) (t : Target) : List Operation :=
  if plan.address = 0 then []
  else
    match (t.attempt (plan.naming t.program)).1 with
    | .ok _ => [plan.naming t.program, plan.signing]
    | .error _ => [plan.naming t.program]

theorem mem_operations {plan : FunctionPlan} {t : Target} {op : Operation}
    (h : op ∈ plan.operations t) :
    plan.address ≠ 0 ∧ (op = plan.naming t.program ∨ op = plan.signing) := by
  unfold operations at h
  split at h
  · simp at h
  · rename_i hne
    refine ⟨hne, ?_⟩
    split at h
    · simpa using h
    · exact .inl (by simpa using h)

theorem fatal?_eq_none_of_mem {plan : FunctionPlan} {t : Target} {op : Operation}
    (h : op ∈ plan.operations t) (t' : Target) : t'.fatal? op = none := by
  rcases (mem_operations h).2 with rfl | rfl
  · unfold naming
    split <;> rfl
  · rfl

end FunctionPlan

/-- What the function stage asks for. Each plan sees what is left of the target by those before. -/
def functionOperations : List FunctionPlan → Target → List Operation
  | [], _ => []
  | plan :: plans, t =>
    plan.operations t ++ functionOperations plans (t.run (plan.operations t))

theorem mem_functionOperations {plans : List FunctionPlan} {t : Target} {op : Operation}
    (h : op ∈ functionOperations plans t) : ∃ plan t', plan ∈ plans ∧ op ∈ plan.operations t' := by
  induction plans generalizing t with
  | nil => simp [functionOperations] at h
  | cons plan plans ih =>
    rcases List.mem_append.1 h with h | h
    · exact ⟨plan, t, List.mem_cons_self, h⟩
    · obtain ⟨other, t', hother, hop⟩ := ih h
      exact ⟨other, t', List.mem_cons_of_mem _ hother, hop⟩

theorem mem_functionPlans {c : Catalog} {h : Handles c} {plan : FunctionPlan} :
    plan ∈ functionPlans h ↔ ∃ i, ∃ m ∈ (c.record i).methods, planOf h i m = plan := by
  unfold functionPlans
  simp only [List.mem_flatMap, List.mem_finRange, true_and, List.mem_map]

theorem nameFunction_spec (plan : FunctionPlan) (report : SignatureReport) (ws : Workspace) :
    (nameFunction plan report ws).1 =
        (failure? (ws.target.attempt (plan.naming ws.program)).1).isNone ∧
      (nameFunction plan report ws).2.1 =
        (if (failure? (ws.target.attempt (plan.naming ws.program)).1).isNone then
          if ws.program.functions.contains plan.address then
            { report with renamed := report.renamed + 1 }
          else { report with created := report.created + 1 }
        else { report with failed := report.failed + 1 }) ∧
      (nameFunction plan report ws).2.2.target =
        (ws.target.attempt (plan.naming ws.program)).2 := by
  unfold nameFunction FunctionPlan.naming
  cases ws.program.functions.contains plan.address with
  | true =>
    simp only [if_true, Workspace.attempt_eq]
    cases (ws.target.attempt (.renameFunction plan.address plan.name)).1 <;> exact ⟨rfl, rfl, rfl⟩
  | false =>
    simp only [Bool.false_eq_true, if_false, Workspace.attempt_eq]
    cases (ws.target.attempt (.createFunction plan.address plan.name)).1 <;> exact ⟨rfl, rfl, rfl⟩

theorem signFunction_target (plan : FunctionPlan) (report : SignatureReport) (ws : Workspace) :
    (signFunction plan report ws).2.target = (ws.target.attempt plan.signing).2 := by
  unfold signFunction FunctionPlan.signing
  rw [Workspace.attempt_eq]
  cases (ws.target.attempt (.applySignature plan.address plan.signature)).1 <;> rfl

theorem applyPlan_target (plan : FunctionPlan) (report : SignatureReport) (ws : Workspace) :
    (applyPlan plan report ws).2.target = ws.target.run (plan.operations ws.target) := by
  unfold applyPlan FunctionPlan.operations
  split
  · rfl
  · obtain ⟨hnamed, -, htarget⟩ := nameFunction_spec plan report ws
    rcases hname : nameFunction plan report ws with ⟨named, report', ws'⟩
    rw [hname] at hnamed htarget
    simp only [Workspace.program] at hnamed htarget
    subst hnamed
    cases (ws.target.attempt (plan.naming ws.target.program)).1 with
    | ok u =>
      show (signFunction plan report' ws').2.target = _
      rw [signFunction_target, htarget]
      rfl
    | error e => exact htarget

theorem foldl_applyPlan_target (plans : List FunctionPlan) (state : SignatureReport × Workspace) :
    (plans.foldl (fun (report, ws) plan => applyPlan plan report ws) state).2.target =
      state.2.target.run (functionOperations plans state.2.target) := by
  induction plans generalizing state with
  | nil => rfl
  | cons plan plans ih =>
    rw [List.foldl_cons, ih, functionOperations, Target.run_append, applyPlan_target]

def signatureOperations {c : Catalog} (config : ImportConfig) (h : Handles c) (t : Target) :
    List Operation :=
  if config.applySignatures then functionOperations (functionPlans h) t else []

theorem mem_signatureOperations {c : Catalog} {config : ImportConfig} {h : Handles c} {t : Target}
    {op : Operation} (hop : op ∈ signatureOperations config h t) :
    ∃ i, ∃ m ∈ (c.record i).methods, ∃ t', op ∈ (planOf h i m).operations t' := by
  unfold signatureOperations at hop
  split at hop
  · obtain ⟨plan, t', hplan, hop⟩ := mem_functionOperations hop
    obtain ⟨i, m, hm, rfl⟩ := mem_functionPlans.1 hplan
    exact ⟨i, m, hm, t', hop⟩
  · simp at hop

theorem signatureStage_target {c : Catalog} (config : ImportConfig) (h : Handles c)
    (ws : Workspace) :
    (signatureStage config h ws).2.target =
      ws.target.run (signatureOperations config h ws.target) := by
  unfold signatureStage signatureOperations
  split
  · exact foldl_applyPlan_target _ _
  · rfl

theorem functionOperations_pass (plans : List FunctionPlan) (t t' : Target) :
    t'.Passes (functionOperations plans t) := by
  apply Target.passes_of_forall
  intro op hop t'' _
  obtain ⟨plan, _, -, hop⟩ := mem_functionOperations hop
  exact FunctionPlan.fatal?_eq_none_of_mem hop t''

theorem signatureOperations_pass {c : Catalog} (config : ImportConfig) (h : Handles c)
    (t t' : Target) : t'.Passes (signatureOperations config h t) := by
  unfold signatureOperations
  split
  · exact functionOperations_pass _ _ _
  · exact Target.passes_nil _

end TypeRecovery
