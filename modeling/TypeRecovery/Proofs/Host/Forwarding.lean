import TypeRecovery.Proofs.Host.Basic
import TypeRecovery.Proofs.Program.Run

/-!
# Targets as hosts

A target answers as a host does. An import into a workspace is the import with its target as the
host, stage by stage.
-/

namespace TypeRecovery

/-- What became of an attempt, in words. -/
def Target.answer (t : Target) (op : Operation) : Except String Unit × Target :=
  ((t.attempt op).1.mapError Error.message, (t.attempt op).2)

/-- Every question is an operation on a target. A function goes by its address. -/
def targetHost : Host Target where
  label address name t := t.answer (.label address name)
  define category name size policy t :=
    (t.handle? category name size policy, (t.attempt (.define category name size policy)).2)
  rebuild handle members t := t.answer (.rebuild handle members)
  functionAt address t :=
    (if t.program.functions.contains address then some address else none, t)
  createFunction address name t :=
    let (result, t) := t.answer (.createFunction address name)
    (result.map fun _ => address, t)
  renameFunction address name t := t.answer (.renameFunction address name)
  applySignature address signature t := t.answer (.applySignature address signature)

def Workspace.site (ws : Workspace) : Site Target := ⟨ws.target, ws.log⟩

/-- A result with its error in words, and where it was reached. -/
def inWords {α : Type} : Except Error α × Workspace → Except String α × Site Target :=
  Prod.map (Except.mapError Error.message) Workspace.site

@[simp] theorem inWords_ok {α : Type} (a : α) (ws : Workspace) :
    inWords (.ok a, ws) = (.ok a, ws.site) := rfl

@[simp] theorem inWords_error {α : Type} (e : Error) (ws : Workspace) :
    inWords ((.error e, ws) : Except Error α × Workspace) = (.error e.message, ws.site) := rfl

open Host (say sayAll progressLines warningLines run_bind run_ask run_run_ask run_run_sayAll
  run_run_lift run_run_bind)

variable {ρ α β : Type}

theorem run_say_site (message : String) (ws : Workspace) :
    (say .info message : StateM (Site Target) Unit).run ws.site =
      ((), (ws.info message).site) := rfl

theorem run_run_say_site (message : String) (ws : Workspace) :
    (say .info message : ExceptT String (StateM (Site Target)) Unit).run.run ws.site =
      (.ok (), (ws.info message).site) := rfl

/-! ## Labels -/

theorem targetHost_labelType (start : String) (report : LabelReport) (r : TypeRecord ρ)
    (ws : Workspace) :
    (targetHost.labelType start report r).run ws.site =
      Prod.map id Workspace.site (labelType start report r ws) := by
  unfold Host.labelType labelType
  rw [Workspace.attempt_eq, run_bind, run_ask]
  simp only [targetHost, Target.answer, Workspace.site, StateT.run]
  cases (ws.target.attempt (.label r.definitionAddress (start ++ r.fullName))).1 with
  | ok u => rfl
  | error e => rfl

theorem run_foldlM_site {f : β → α → StateM (Site Target) β} {g : β × Workspace → α → β × Workspace}
    (hstep : ∀ state a, (f state.1 a).run state.2.site = Prod.map id Workspace.site (g state a))
    (as : List α) (state : β × Workspace) :
    (as.foldlM f state.1).run state.2.site = Prod.map id Workspace.site (as.foldl g state) := by
  induction as generalizing state with
  | nil => rfl
  | cons a as ih =>
    rw [List.foldlM_cons, run_bind, hstep, List.foldl_cons]
    exact ih (g state a)

theorem targetHost_labelTypes (c : Catalog) (start : String) (ws : Workspace) :
    (targetHost.labelTypes c start).run ws.site =
      Prod.map id Workspace.site (labelTypes c start ws) :=
  run_foldlM_site (fun state r => targetHost_labelType start state.1 r state.2) c.toList ({}, ws)

theorem targetHost_labelStage (config : ImportConfig) (c : Catalog) (ws : Workspace) :
    (targetHost.labelStage config c).run ws.site =
      Prod.map id Workspace.site (labelStage config c ws) := by
  unfold Host.labelStage labelStage
  split
  · have hpass := targetHost_labelTypes c config.labelStart
      (ws.info "First scan, add type def label")
    rw [run_bind, run_say_site, run_bind, hpass]
    rfl
  · rfl

/-! ## Registration -/

theorem targetHost_represent (category : String) (r : TypeRecord ρ) (ws : Workspace) :
    (targetHost.represent category r).run.run ws.site =
      inWords (represent category r ws) := by
  unfold Host.represent represent
  cases scalarOfSystemType? r.systemType with
  | some kind => rfl
  | none =>
    rw [Workspace.define_eq, run_run_bind, run_run_ask]
    simp only [targetHost, Workspace.site, StateT.run]
    cases ws.target.handle? category r.fullName r.size .replace with
    | some handle => rfl
    | none => rfl

theorem targetHost_representAll (category : String) (rs : List (TypeRecord ρ)) (ws : Workspace) :
    (targetHost.representAll category rs).run.run ws.site =
      inWords (representAll category rs ws) := by
  induction rs generalizing ws with
  | nil => rfl
  | cons r rs ih =>
    rw [Host.representAll, representAll, run_run_bind, targetHost_represent]
    obtain ⟨result, ws₁⟩ := represent category r ws
    cases result with
    | error e => rfl
    | ok x =>
      simp only [inWords_ok]
      rw [run_run_bind, ih]
      obtain ⟨result, ws₂⟩ := representAll category rs ws₁
      cases result <;> rfl

theorem targetHost_register (c : Catalog) (category : String) (ws : Workspace) :
    (targetHost.register c category).run.run ws.site =
      inWords (register c category ws) := by
  unfold Host.register register
  rw [run_run_bind, targetHost_representAll]
  obtain ⟨result, ws₁⟩ := representAll category c.toList ws
  cases result <;> rfl

/-! ## Layouts -/

variable {c : Catalog}

theorem logProgress_eq (interval : UInt64) (i : Nat) (ws : Workspace) :
    logProgress interval i ws = ws.append (progressLines interval i) := by
  unfold logProgress progressLines
  split
  · rfl
  · simp [Workspace.append]

theorem logWarnings_eq (warnings : List LayoutWarning) (ws : Workspace) :
    logWarnings warnings ws = ws.append (warningLines warnings) := by
  unfold logWarnings warningLines
  induction warnings generalizing ws with
  | nil => simp [Workspace.append]
  | cons w warnings ih =>
    rw [List.foldl_cons, ih]
    simp [Workspace.append, Workspace.warn, Workspace.logLine]

theorem targetHost_foldlM_resolveType (h : Handles c) (sampleLength : UInt32) (interval : UInt64)
    (is : List c.Index) (report : ResolveReport) (ws : Workspace) :
    (is.foldlM (targetHost.resolveType h sampleLength interval) report).run.run ws.site =
      inWords (resolveFrom h sampleLength interval is report ws) := by
  induction is generalizing report ws with
  | nil => rfl
  | cons i is ih =>
    rw [List.foldlM_cons, resolveFrom, logProgress_eq, run_run_bind, Host.resolveType, run_run_bind,
      run_run_sayAll]
    cases layoutHandle? h i with
    | none => exact ih _ (ws.append (progressLines interval i))
    | some handle =>
      simp only [logWarnings_eq]
      rw [Workspace.attempt_eq, run_run_bind, run_run_sayAll]
      simp only
      rw [run_run_bind, run_run_ask]
      simp only [targetHost, Target.answer, Workspace.append, Workspace.site, StateT.run]
      cases (ws.target.attempt (.rebuild handle (layout h sampleLength i).members)).1 with
      | error e => rfl
      | ok u => exact ih _ ⟨_, _⟩

theorem targetHost_resolve (h : Handles c) (sampleLength : UInt32) (interval : UInt64)
    (ws : Workspace) :
    (targetHost.resolve h sampleLength interval).run.run ws.site =
      inWords (resolve h sampleLength interval ws) := by
  unfold Host.resolve resolve
  rw [run_run_bind, targetHost_foldlM_resolveType]
  obtain ⟨result, ws₁⟩ := resolveFrom h sampleLength interval (List.finRange c.size) {} ws
  cases result <;> rfl

/-! ## Functions -/

/-- What a naming comes to for a host that goes by addresses. -/
def namedAt (address : UInt64) :
    Bool × SignatureReport × Workspace → (Option UInt64 × SignatureReport) × Site Target
  | (named, report, ws) => ((if named then some address else none, report), ws.site)

theorem targetHost_nameFunction (plan : FunctionPlan) (report : SignatureReport) (ws : Workspace) :
    (targetHost.nameFunction plan report).run ws.site =
      namedAt plan.address (nameFunction plan report ws) := by
  have hfunctionAt : (targetHost.functionAt plan.address).run ws.site.host =
      (if ws.target.program.functions.contains plan.address then some plan.address else none,
        ws.target) := rfl
  unfold Host.nameFunction nameFunction
  rw [run_bind, run_ask, hfunctionAt]
  by_cases hfound : ws.program.functions.contains plan.address = true
  · have hcontains : ws.target.program.functions.contains plan.address = true := hfound
    simp only [if_pos hfound, if_pos hcontains]
    rw [run_bind, run_ask, Workspace.attempt_eq]
    simp only [targetHost, Target.answer, Workspace.site, StateT.run]
    cases (ws.target.attempt (.renameFunction plan.address plan.name)).1 <;> rfl
  · have hcontains : ¬ws.target.program.functions.contains plan.address = true := hfound
    simp only [if_neg hfound, if_neg hcontains]
    rw [run_bind, run_ask, Workspace.attempt_eq]
    simp only [targetHost, Target.answer, Workspace.site, StateT.run]
    cases (ws.target.attempt (.createFunction plan.address plan.name)).1 <;> rfl

theorem targetHost_signFunction (plan : FunctionPlan) (report : SignatureReport) (ws : Workspace) :
    (targetHost.signFunction plan plan.address report).run ws.site =
      Prod.map id Workspace.site (signFunction plan report ws) := by
  unfold Host.signFunction signFunction
  rw [run_bind, run_ask, Workspace.attempt_eq]
  simp only [targetHost, Target.answer, Workspace.site, StateT.run]
  cases (ws.target.attempt (.applySignature plan.address plan.signature)).1 <;> rfl

theorem targetHost_applyPlan (plan : FunctionPlan) (report : SignatureReport) (ws : Workspace) :
    (targetHost.applyPlan report plan).run ws.site =
      Prod.map id Workspace.site (applyPlan plan report ws) := by
  unfold Host.applyPlan applyPlan
  split
  · rfl
  · rw [run_bind, targetHost_nameFunction]
    obtain ⟨named, report', ws'⟩ := nameFunction plan report ws
    cases named with
    | true => exact targetHost_signFunction plan report' ws'
    | false => rfl

theorem targetHost_applySignatures (h : Handles c) (ws : Workspace) :
    (targetHost.applySignatures h).run ws.site =
      Prod.map id Workspace.site (applySignatures h ws) := by
  unfold Host.applySignatures applySignatures
  have hpass := run_foldlM_site
    (fun state plan => targetHost_applyPlan plan state.1 state.2) (functionPlans h) ({}, ws)
  rw [run_bind, hpass]
  rfl

theorem targetHost_signatureStage (config : ImportConfig) (h : Handles c) (ws : Workspace) :
    (targetHost.signatureStage config h).run ws.site =
      Prod.map id Workspace.site (signatureStage config h ws) := by
  unfold Host.signatureStage signatureStage
  split
  · have hpass := targetHost_applySignatures h (ws.info "Add all methods...")
    rw [run_bind, run_say_site, run_bind, hpass]
    rfl
  · rfl

/-! ## Imports -/

theorem targetHost_importCatalog (config : ImportConfig) (c : Catalog) (ws : Workspace) :
    (targetHost.importCatalog config c).run.run ws.site =
      inWords (importCatalog config c ws) := by
  unfold Host.importCatalog importCatalog structureStages
  rw [run_run_bind, run_run_lift, targetHost_labelStage]
  obtain ⟨labels, ws₁⟩ := labelStage config c ws
  simp only [Prod.map, id]
  rw [run_run_bind, run_run_say_site]
  simp only
  rw [run_run_bind, targetHost_register]
  obtain ⟨result, ws₂⟩ := register c config.category (ws₁.info "Register types...")
  cases result with
  | error e => rfl
  | ok handles =>
    simp only [inWords_ok]
    rw [run_run_bind, run_run_say_site]
    simp only
    rw [run_run_bind, targetHost_resolve]
    obtain ⟨result, ws₃⟩ := resolve handles config.sampleLength
      config.progressInterval (ws₂.info "Add all fields...")
    cases result with
    | error e => rfl
    | ok resolved =>
      simp only [inWords_ok]
      rw [run_run_bind, run_run_lift, targetHost_signatureStage]
      rfl

theorem targetHost_importDump (config : ImportConfig) (source : ChunkSource) (ws : Workspace) :
    (targetHost.importDump config source).run.run ws.site =
      inWords ((importDump config source ws).result,
        (importDump config source ws).workspace) := by
  unfold Host.importDump importDump
  simp only
  rw [run_run_bind, run_run_sayAll]
  cases (load source config.chunkSize).result with
  | error e => rfl
  | ok c => exact targetHost_importCatalog config c (ws.append (load source config.chunkSize).log)

end TypeRecovery
