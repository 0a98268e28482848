import TypeRecovery.Import.Basic
import TypeRecovery.Proofs.Catalog.Accepted

/-!
# Hosts

An import asks for labels, structures and functions, and takes every answer as it comes. A host is
anything that answers. It may refuse what it granted before, and it need not keep what it is told.
-/

namespace TypeRecovery

/-- What an import may ask. Any answer may depend on all that was asked before it. A refusal is a
text, and functions go by numbers that the host gives out. -/
structure Host (σ : Type) where
  label (address : UInt64) (name : String) : StateM σ (Except String Unit)
  define (category name : String) (size : UInt32) (policy : ConflictPolicy) :
    StateM σ (Option StructHandle)
  rebuild (handle : StructHandle) (members : List Member) : StateM σ (Except String Unit)
  functionAt (address : UInt64) : StateM σ (Option UInt64)
  createFunction (address : UInt64) (name : String) : StateM σ (Except String UInt64)
  renameFunction (function : UInt64) (name : String) : StateM σ (Except String Unit)
  applySignature (function : UInt64) (signature : Signature) : StateM σ (Except String Unit)

/-- A host at some point of an import, and the lines that were logged by then. -/
structure Site (σ : Type) where
  host : σ
  log : Array LogLine

namespace Host

variable {σ : Type}

/-! ## Asking and logging -/

section

variable {m : Type → Type} {α : Type} [MonadState (Site σ) m]

def ask (question : StateM σ α) : m α :=
  modifyGet fun site => ((question site.host).1, { site with host := (question site.host).2 })

def sayAll (lines : List LogLine) : m Unit :=
  modify fun site => { site with log := site.log ++ lines.toArray }

def say (level : LogLevel) (message : String) : m Unit := sayAll [⟨level, message⟩]

end

section

variable {α β : Type} {site : Site σ}

theorem run_bind {τ : Type} (x : StateM τ α) (f : α → StateM τ β) (s : τ) :
    (x >>= f).run s = (f (x.run s).1).run (x.run s).2 := rfl

theorem run_ask (question : StateM σ α) :
    (ask question : StateM (Site σ) α).run site =
      ((question.run site.host).1, { site with host := (question.run site.host).2 }) := rfl

theorem run_run_ask (question : StateM σ α) :
    (ask question : ExceptT String (StateM (Site σ)) α).run.run site =
      (.ok (question.run site.host).1, { site with host := (question.run site.host).2 }) := rfl

theorem run_run_sayAll (lines : List LogLine) :
    (sayAll lines : ExceptT String (StateM (Site σ)) Unit).run.run site =
      (.ok (), { site with log := site.log ++ lines.toArray }) := rfl

theorem run_run_lift (x : StateM (Site σ) α) :
    (x : ExceptT String (StateM (Site σ)) α).run.run site = (.ok (x.run site).1, (x.run site).2) :=
  rfl

theorem run_run_bind (x : ExceptT String (StateM (Site σ)) α)
    (f : α → ExceptT String (StateM (Site σ)) β) :
    (x >>= f).run.run site =
      match x.run.run site with
      | (.ok a, site) => (f a).run.run site
      | (.error text, site) => (.error text, site) := by
  show (ExceptT.bindCont f (x.run.run site).1).run (x.run.run site).2 = _
  obtain ⟨result, site'⟩ := x.run.run site
  cases result <;> rfl

end

variable {ρ : Type} (H : Host σ)

/-! ## Labels -/

def labelType (start : String) (report : LabelReport) (r : TypeRecord ρ) :
    StateM (Site σ) LabelReport := do
  match ← ask (H.label r.definitionAddress (start ++ r.fullName)) with
  | .ok _ => return { report with created := report.created + 1 }
  | .error text =>
    say .warn (s!"Couldn't create type def label for type {r.fullName}: " ++ text)
    return { report with failed := report.failed + 1 }

def labelTypes (c : Catalog) (start : String) : StateM (Site σ) LabelReport :=
  c.toList.foldlM (H.labelType start) {}

/-! ## Registration -/

def represent (category : String) (r : TypeRecord ρ) :
    ExceptT String (StateM (Site σ)) Representation := do
  match scalarOfSystemType? r.systemType with
  | some kind => return .scalar kind
  | none =>
    match ← ask (H.define category r.fullName r.size .replace) with
    | some handle =>
      say .debug s!"Created structure {r.fullName} ({r.size.toNat} bytes)"
      return .struct handle
    | none => throw (Error.typeCreationFailed r.fullName).message

-- Lists of representations carry their length, so that handles can be made of them.

theorem length_nil_eq :
    ([] : List Representation).length = ([] : List (TypeRecord ρ)).length := rfl

theorem length_cons_eq {xs : List Representation} {rs : List (TypeRecord ρ)} (x : Representation)
    (r : TypeRecord ρ) (h : xs.length = rs.length) : (x :: xs).length = (r :: rs).length :=
  congrArg Nat.succ h

theorem size_toArray_eq {c : Catalog} {xs : List Representation}
    (h : xs.length = c.toList.length) : xs.toArray.size = c.size :=
  h.trans c.length_toList

def representAll (category : String) : (rs : List (TypeRecord ρ)) →
    ExceptT String (StateM (Site σ)) { l : List Representation // l.length = rs.length }
  | [] => return ⟨[], length_nil_eq⟩
  | r :: rs => do
    let x ← H.represent category r
    let ⟨xs, h⟩ ← representAll category rs
    return ⟨x :: xs, length_cons_eq x r h⟩

def register (c : Catalog) (category : String) :
    ExceptT String (StateM (Site σ)) (Handles c) := do
  let ⟨xs, h⟩ ← H.representAll category c.toList
  let handles : Handles c := ⟨⟨xs.toArray, size_toArray_eq h⟩⟩
  say .info s!"Registered {c.size} types, {handles.scalarCount} primitive"
  return handles

/-! ## Layouts -/

variable {c : Catalog}

def progressLines (interval : UInt64) (i : Nat) : List LogLine :=
  if interval ≠ 0 ∧ i % interval.toNat = 0 then [⟨.info, s!"    {i}"⟩] else []

def warningLines (warnings : List LayoutWarning) : List LogLine :=
  warnings.map fun w => ⟨.warn, w.message⟩

def resolveType (h : Handles c) (sampleLength : UInt32) (interval : UInt64)
    (report : ResolveReport) (i : c.Index) :
    ExceptT String (StateM (Site σ)) ResolveReport := do
  sayAll (progressLines interval i)
  match layoutHandle? h i with
  | none => return { report with skipped := report.skipped + 1 }
  | some handle =>
    let result := layout h sampleLength i
    sayAll (warningLines result.warnings)
    match ← ask (H.rebuild handle result.members) with
    | .error text => throw text
    | .ok _ =>
      return { report with
        resolved := report.resolved + 1
        warnings := report.warnings ++ result.warnings }

def resolve (h : Handles c) (sampleLength : UInt32) (interval : UInt64) :
    ExceptT String (StateM (Site σ)) ResolveReport := do
  let report ← (List.finRange c.size).foldlM (H.resolveType h sampleLength interval) {}
  say .info (s!"Resolved {report.resolved} layouts, skipped {report.skipped}, "
    ++ s!"{report.warnings.length} warnings")
  return report

/-! ## Functions -/

/-- Renames or creates a function. The answer is its number, if it has its name now. -/
def nameFunction (plan : FunctionPlan) (report : SignatureReport) :
    StateM (Site σ) (Option UInt64 × SignatureReport) := do
  let address := hex plan.address.toNat
  match ← ask (H.functionAt plan.address) with
  | some function =>
    match ← ask (H.renameFunction function plan.name) with
    | .ok _ => return (some function, { report with renamed := report.renamed + 1 })
    | .error text =>
      say .warn (s!"could not rename function {plan.name} at 0x{address}: " ++ text)
      return (none, { report with failed := report.failed + 1 })
  | none =>
    match ← ask (H.createFunction plan.address plan.name) with
    | .ok function => return (some function, { report with created := report.created + 1 })
    | .error text =>
      say .warn (s!"could not create function {plan.name} at 0x{address}: " ++ text)
      return (none, { report with failed := report.failed + 1 })

def signFunction (plan : FunctionPlan) (function : UInt64) (report : SignatureReport) :
    StateM (Site σ) SignatureReport := do
  match ← ask (H.applySignature function plan.signature) with
  | .ok _ =>
    say .debug s!"Applied signature to {plan.name}"
    return { report with applied := report.applied + 1 }
  | .error text =>
    say .warn (s!"could not apply signature to {plan.name}: " ++ text)
    return { report with failed := report.failed + 1 }

def applyPlan (report : SignatureReport) (plan : FunctionPlan) :
    StateM (Site σ) SignatureReport := do
  if plan.address = 0 then
    return { report with skipped := report.skipped + 1 }
  match ← H.nameFunction plan report with
  | (some function, report) => H.signFunction plan function report
  | (none, report) => return report

def applySignatures (h : Handles c) : StateM (Site σ) SignatureReport := do
  let report ← (functionPlans h).foldlM H.applyPlan {}
  say .info (s!"Functions: {report.created} created, {report.renamed} renamed, "
    ++ s!"{report.failed} failed, {report.skipped} without address")
  return report

/-! ## Imports -/

def labelStage (config : ImportConfig) (c : Catalog) : StateM (Site σ) (Option LabelReport) := do
  if config.labelTypes then
    say .info "First scan, add type def label"
    return some (← H.labelTypes c config.labelStart)
  else return none

def signatureStage (config : ImportConfig) (h : Handles c) :
    StateM (Site σ) (Option SignatureReport) := do
  if config.applySignatures then
    say .info "Add all methods..."
    return some (← H.applySignatures h)
  else return none

def importCatalog (config : ImportConfig) (c : Catalog) :
    ExceptT String (StateM (Site σ)) ImportSession := do
  let labels ← H.labelStage config c
  say .info "Register types..."
  let handles ← H.register c config.category
  say .info "Add all fields..."
  let resolved ← H.resolve handles config.sampleLength config.progressInterval
  let functions ← H.signatureStage config handles
  say .info s!"Import of {c.size} types done"
  return {
    catalog := c
    handles := handles
    report := {
      typeCount := c.size
      scalarCount := handles.scalarCount
      labels := labels
      layouts := resolved.resolved
      layoutsSkipped := resolved.skipped
      warnings := resolved.warnings
      functions := functions } }

def importDump (config : ImportConfig) (source : ChunkSource) :
    ExceptT String (StateM (Site σ)) ImportSession := do
  let loading := load source config.chunkSize
  sayAll loading.log
  match loading.result with
  | .error e => throw e.message
  | .ok catalog => H.importCatalog config catalog

end Host

end TypeRecovery
