import TypeRecovery.Signature.Basic
import TypeRecovery.Workspace

/-!
# Applying signatures

Every method with an address gets a function there, under the method's name and with its signature.
A function that exists is renamed. What the target refuses is logged and counted, and the pass goes
on.
-/

namespace TypeRecovery

structure SignatureReport where
  created : Nat := 0
  renamed : Nat := 0
  /-- Methods without an address. -/
  skipped : Nat := 0
  failed : Nat := 0
  applied : Nat := 0
  deriving DecidableEq, Repr

def SignatureReport.toJson (r : SignatureReport) : Json.Value :=
  .object
    [ ("created", .nat r.created),
      ("renamed", .nat r.renamed),
      ("skipped", .nat r.skipped),
      ("failed", .nat r.failed),
      ("applied", .nat r.applied) ]

/-- A function for a method, with what is to be written into it. -/
structure FunctionPlan where
  address : UInt64
  name : String
  signature : Signature
  deriving DecidableEq, Repr

variable {c : Catalog}

def planOf (h : Handles c) (owner : c.Index) (m : MethodRecord c.Index) : FunctionPlan :=
  ⟨m.address, functionName (c.record owner) m, signatureOf h owner m⟩

/-- Renames the function at an address, or creates one. The answer says whether there is now a
function of that name. -/
def nameFunction (plan : FunctionPlan) (report : SignatureReport) (ws : Workspace) :
    Bool × SignatureReport × Workspace :=
  let address := hex plan.address.toNat
  if ws.program.functions.contains plan.address then
    match ws.attempt (.renameFunction plan.address plan.name) with
    | (.ok _, ws) => (true, { report with renamed := report.renamed + 1 }, ws)
    | (.error e, ws) =>
      (false, { report with failed := report.failed + 1 },
        ws.warn (s!"could not rename function {plan.name} at 0x{address}: " ++ e.message))
  else
    match ws.attempt (.createFunction plan.address plan.name) with
    | (.ok _, ws) => (true, { report with created := report.created + 1 }, ws)
    | (.error e, ws) =>
      (false, { report with failed := report.failed + 1 },
        ws.warn (s!"could not create function {plan.name} at 0x{address}: " ++ e.message))

/-- Writes the signature of a function that has its name. -/
def signFunction (plan : FunctionPlan) (report : SignatureReport) (ws : Workspace) :
    SignatureReport × Workspace :=
  match ws.attempt (.applySignature plan.address plan.signature) with
  | (.ok _, ws) =>
    ({ report with applied := report.applied + 1 }, ws.debug s!"Applied signature to {plan.name}")
  | (.error e, ws) =>
    ({ report with failed := report.failed + 1 },
      ws.warn (s!"could not apply signature to {plan.name}: " ++ e.message))

/-- Names and signs one function. An address of zero means that there is none. -/
def applyPlan (plan : FunctionPlan) (report : SignatureReport) (ws : Workspace) :
    SignatureReport × Workspace :=
  if plan.address = 0 then ({ report with skipped := report.skipped + 1 }, ws)
  else
    match nameFunction plan report ws with
    | (true, report, ws) => signFunction plan report ws
    | (false, report, ws) => (report, ws)

def functionPlans (h : Handles c) : List FunctionPlan :=
  (List.finRange c.size).flatMap fun i => (c.record i).methods.map (planOf h i)

def applySignatures (h : Handles c) (ws : Workspace) : SignatureReport × Workspace :=
  let (report, ws) :=
    (functionPlans h).foldl (fun (report, ws) plan => applyPlan plan report ws) ({}, ws)
  (report,
    ws.info (s!"Functions: {report.created} created, {report.renamed} renamed, "
      ++ s!"{report.failed} failed, {report.skipped} without address"))

end TypeRecovery
