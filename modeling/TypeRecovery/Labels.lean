import TypeRecovery.Catalog.Basic
import TypeRecovery.Workspace

/-!
# Type definition labels

Every type gets a label at the address of its definition. A label that the target refuses is logged
and counted.
-/

namespace TypeRecovery

structure LabelReport where
  created : Nat := 0
  failed : Nat := 0
  deriving DecidableEq, Repr

def LabelReport.toJson (r : LabelReport) : Json.Value :=
  .object [("created", .nat r.created), ("failed", .nat r.failed)]

variable {ρ : Type}

/-- Labels the definition of one type. -/
def labelType (start : String) (report : LabelReport) (r : TypeRecord ρ) (ws : Workspace) :
    LabelReport × Workspace :=
  match ws.attempt (.label r.definitionAddress (start ++ r.fullName)) with
  | (.ok _, ws) => ({ report with created := report.created + 1 }, ws)
  | (.error e, ws) =>
    ({ report with failed := report.failed + 1 },
      ws.warn (s!"Couldn't create type def label for type {r.fullName}: " ++ e.message))

/-- Labels every type of a catalog. Each label starts with `start`. -/
def labelTypes (c : Catalog) (start : String) (ws : Workspace) : LabelReport × Workspace :=
  c.toList.foldl (fun (report, ws) r => labelType start report r ws) ({}, ws)

end TypeRecovery
