import TypeRecovery.Registration

/-!
# Registration of alike records

The representation of a record depends on its system type, its name and its size alone.
-/

namespace TypeRecovery

variable {ρ σ : Type}

/-- What a type is registered by. -/
def TypeRecord.request (r : TypeRecord ρ) : UInt32 × String × UInt32 :=
  (r.systemType, r.fullName, r.size)

theorem represent_congr {r : TypeRecord ρ} {r' : TypeRecord σ} (h : r'.request = r.request)
    (category : String) (ws : Workspace) : represent category r' ws = represent category r ws := by
  obtain ⟨hsystem, hrest⟩ := Prod.mk.inj h
  obtain ⟨hname, hsize⟩ := Prod.mk.inj hrest
  unfold represent
  rw [hsystem, hname, hsize]

theorem representAll_congr {rs : List (TypeRecord ρ)} {rs' : List (TypeRecord σ)}
    (h : rs'.map TypeRecord.request = rs.map TypeRecord.request) (category : String)
    (ws : Workspace) :
    (∃ e ws', representAll category rs' ws = (.error e, ws') ∧
      representAll category rs ws = (.error e, ws')) ∨
    ∃ xs hxs' hxs ws', representAll category rs' ws = (.ok ⟨xs, hxs'⟩, ws') ∧
      representAll category rs ws = (.ok ⟨xs, hxs⟩, ws') := by
  induction rs generalizing rs' ws with
  | nil =>
    obtain rfl := List.map_eq_nil_iff.1 h
    exact .inr ⟨[], rfl, rfl, ws, rfl, rfl⟩
  | cons r rs ih =>
    obtain ⟨r', rest, rfl, hr, hrest⟩ := List.map_eq_cons_iff.1 h
    simp only [representAll, represent_congr hr]
    rcases represent category r ws with ⟨result, ws₁⟩
    cases result with
    | error e => exact .inl ⟨e, ws₁, rfl, rfl⟩
    | ok x =>
      obtain ⟨e, ws₂, hleft, hright⟩ | ⟨xs, hxs', hxs, ws₂, hleft, hright⟩ := ih hrest ws₁
      · simp only [hleft, hright]
        exact .inl ⟨e, ws₂, rfl, rfl⟩
      · simp only [hleft, hright]
        exact .inr ⟨x :: xs, congrArg Nat.succ hxs', congrArg Nat.succ hxs, ws₂, rfl, rfl⟩

end TypeRecovery
