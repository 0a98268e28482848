import TypeRecovery.Import.Config
import TypeRecovery.Labels
import TypeRecovery.Layout.Resolve
import TypeRecovery.Registration
import TypeRecovery.Signature.Apply

/-!
# Imports

An import loads a dump and then runs its stages one after another, each for the whole catalog:
labels, registration, layouts, signatures. What fails for one item is logged and counted. What fails
for good ends the import, and the target keeps what was done.
-/

namespace TypeRecovery

/-! ## Reports -/

structure ImportReport where
  typeCount : Nat
  scalarCount : Nat
  /-- The label pass, if it ran. -/
  labels : Option LabelReport
  layouts : Nat
  layoutsSkipped : Nat
  warnings : List LayoutWarning
  /-- The signature pass, if it ran. -/
  functions : Option SignatureReport
  deriving DecidableEq, Repr

def ImportReport.toJson (r : ImportReport) : Json.Value :=
  .object
    [ ("type_count", .nat r.typeCount),
      ("primitive_count", .nat r.scalarCount),
      ("labels", .ofOption LabelReport.toJson r.labels),
      ("layouts", .nat r.layouts),
      ("layouts_skipped", .nat r.layoutsSkipped),
      ("warnings", .ofList LayoutWarning.toJson r.warnings),
      ("functions", .ofOption SignatureReport.toJson r.functions) ]

/-- Everything that an import made. -/
structure ImportSession where
  catalog : Catalog
  handles : Handles catalog
  report : ImportReport

/-! ## Stages -/

def labelStage (config : ImportConfig) (c : Catalog) (ws : Workspace) :
    Option LabelReport × Workspace :=
  if config.labelTypes then
    let (report, ws) := labelTypes c config.labelStart (ws.info "First scan, add type def label")
    (some report, ws)
  else (none, ws)

def signatureStage {c : Catalog} (config : ImportConfig) (h : Handles c) (ws : Workspace) :
    Option SignatureReport × Workspace :=
  if config.applySignatures then
    let (report, ws) := applySignatures h (ws.info "Add all methods...")
    (some report, ws)
  else (none, ws)

def structureStages (config : ImportConfig) (c : Catalog) (ws : Workspace) :
    Except Error (Handles c × ResolveReport) × Workspace :=
  match register c config.category (ws.info "Register types...") with
  | (.error e, ws) => (.error e, ws)
  | (.ok handles, ws) =>
    match
      resolve handles config.sampleLength config.progressInterval (ws.info "Add all fields...")
    with
    | (.error e, ws) => (.error e, ws)
    | (.ok report, ws) => (.ok (handles, report), ws)

def importCatalog (config : ImportConfig) (c : Catalog) (ws : Workspace) :
    Except Error ImportSession × Workspace :=
  let (labels, ws) := labelStage config c ws
  match structureStages config c ws with
  | (.error e, ws) => (.error e, ws)
  | (.ok (handles, resolved), ws) =>
    let (functions, ws) := signatureStage config handles ws
    (.ok
      { catalog := c
        handles := handles
        report :=
          { typeCount := c.size
            scalarCount := handles.scalarCount
            labels := labels
            layouts := resolved.resolved
            layoutsSkipped := resolved.skipped
            warnings := resolved.warnings
            functions := functions } },
      ws.info s!"Import of {c.size} types done")

/-! ## Imports -/

/-- What an import asked the source for, its result and the workspace it leaves. -/
structure Import where
  probed : List Nat
  result : Except Error ImportSession
  workspace : Workspace

def importDump (config : ImportConfig) (source : ChunkSource) (ws : Workspace) : Import :=
  let loading := load source config.chunkSize
  let ws := ws.append loading.log
  match loading.result with
  | .error e => ⟨loading.probed, .error e, ws⟩
  | .ok catalog =>
    let (result, ws) := importCatalog config catalog ws
    ⟨loading.probed, result, ws⟩

end TypeRecovery
