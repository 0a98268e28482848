import TypeRecovery.Representation
import TypeRecovery.Workspace

/-!
# Registration

Gives every type of a catalog its representation. A type that is no scalar gets an empty structure
under its full name, so that layouts can refer to types in any order.
-/

namespace TypeRecovery

variable {ρ : Type}

/-- The representation of one record. Fails if the target returns no handle. -/
def represent (category : String) (r : TypeRecord ρ) (ws : Workspace) :
    Except Error Representation × Workspace :=
  match scalarOfSystemType? r.systemType with
  | some kind => (.ok (.scalar kind), ws)
  | none =>
    match ws.define category r.fullName r.size .replace with
    | (some handle, ws) =>
      (.ok (.struct handle), ws.debug s!"Created structure {r.fullName} ({r.size.toNat} bytes)")
    | (none, ws) => (.error (.typeCreationFailed r.fullName), ws)

/-- The representations of a list of records. Stops at the first that fails and undoes nothing. -/
def representAll (category : String) :
    (rs : List (TypeRecord ρ)) → Workspace →
      Except Error { l : List Representation // l.length = rs.length } × Workspace
  | [], ws => (.ok ⟨[], rfl⟩, ws)
  | r :: rs, ws =>
    match represent category r ws with
    | (.error e, ws) => (.error e, ws)
    | (.ok x, ws) =>
      match representAll category rs ws with
      | (.error e, ws) => (.error e, ws)
      | (.ok ⟨xs, h⟩, ws) => (.ok ⟨x :: xs, by simp [h]⟩, ws)

def register (c : Catalog) (category : String) (ws : Workspace) :
    Except Error (Handles c) × Workspace :=
  match representAll category c.toList ws with
  | (.error e, ws) => (.error e, ws)
  | (.ok ⟨xs, h⟩, ws) =>
    let handles : Handles c := ⟨⟨xs.toArray, by simpa [Catalog.toList] using h⟩⟩
    (.ok handles, ws.info s!"Registered {c.size} types, {handles.scalarCount} primitive")

end TypeRecovery
