import TypeRecovery.Layout.Basic
import TypeRecovery.Workspace

/-!
# Laying out a catalog

Every type that gets a layout has its structure rebuilt. Warnings are logged and reported, and only
a target that refuses to rebuild stops the pass.
-/

namespace TypeRecovery

structure ResolveReport where
  resolved : Nat := 0
  /-- Scalars, placeholders and generic definitions. -/
  skipped : Nat := 0
  warnings : List LayoutWarning := []
  deriving DecidableEq, Repr

def ResolveReport.toJson (r : ResolveReport) : Json.Value :=
  .object
    [ ("resolved", .nat r.resolved),
      ("skipped", .nat r.skipped),
      ("warnings", .ofList LayoutWarning.toJson r.warnings) ]

variable {c : Catalog}

/-- A line for every `interval` types. There is none if the interval is zero. -/
def logProgress (interval : UInt64) (i : Nat) (ws : Workspace) : Workspace :=
  if interval ≠ 0 ∧ i % interval.toNat = 0 then ws.info s!"    {i}" else ws

def logWarnings (warnings : List LayoutWarning) (ws : Workspace) : Workspace :=
  warnings.foldl (fun ws w => ws.warn w.message) ws

def resolveFrom (h : Handles c) (sampleLength : UInt32) (interval : UInt64) :
    List c.Index → ResolveReport → Workspace → Except Error ResolveReport × Workspace
  | [], report, ws => (.ok report, ws)
  | i :: rest, report, ws =>
    let ws := logProgress interval i ws
    match layoutHandle? h i with
    | none =>
      resolveFrom h sampleLength interval rest { report with skipped := report.skipped + 1 } ws
    | some handle =>
      let result := layout h sampleLength i
      let ws := logWarnings result.warnings ws
      match ws.attempt (.rebuild handle result.members) with
      | (.error e, ws) => (.error e, ws)
      | (.ok _, ws) =>
        resolveFrom h sampleLength interval rest
          { report with
            resolved := report.resolved + 1
            warnings := report.warnings ++ result.warnings }
          ws

def resolve (h : Handles c) (sampleLength : UInt32) (interval : UInt64) (ws : Workspace) :
    Except Error ResolveReport × Workspace :=
  match resolveFrom h sampleLength interval (List.finRange c.size) {} ws with
  | (.error e, ws) => (.error e, ws)
  | (.ok report, ws) =>
    (.ok report,
      ws.info (s!"Resolved {report.resolved} layouts, skipped {report.skipped}, "
        ++ s!"{report.warnings.length} warnings"))

end TypeRecovery
