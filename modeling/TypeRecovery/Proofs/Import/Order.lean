import TypeRecovery.Proofs.Import.Functions

/-!
# Stage order

An import asks for labels, structures, layouts and functions, each for the whole catalog. It stops
right behind the first operation that is fatal, and nothing that was done is undone.
-/

namespace TypeRecovery

/-! ## What an import asks for -/

def registrationOperations (config : ImportConfig) (c : Catalog) : List Operation :=
  labelOperations config c ++ defineOperations config.category c.toList

/-- The structures by name, once all of them were asked for. -/
def registeredHandles (config : ImportConfig) (c : Catalog) (t : Target) : Handles c :=
  handlesIn c config.category (t.run (registrationOperations config c)).program

def structureOperations (config : ImportConfig) (c : Catalog) (t : Target) : List Operation :=
  registrationOperations config c ++
    rebuildOperations (registeredHandles config c t) config.sampleLength (List.finRange c.size)

/-- Everything an import of a catalog asks a target for, if nothing on the way is fatal. -/
def importOperations (config : ImportConfig) (c : Catalog) (t : Target) : List Operation :=
  structureOperations config c t ++
    signatureOperations config (registeredHandles config c t)
      (t.run (structureOperations config c t))

/-! ## Structures -/

theorem Handles.NamedIn.lt_of_layoutHandle? {c : Catalog} {h : Handles c} {category : String}
    {p : Program} (hnamed : h.NamedIn category p) (i : c.Index) (handle : StructHandle)
    (hi : layoutHandle? h i = some handle) : handle.index < p.structs.size :=
  Program.lt_of_handleOf? (hnamed.handleOf? (get_of_layoutHandle? hi))

theorem register_eq_ok {c : Catalog} {category : String} {ws ws' : Workspace} {h : Handles c}
    (hreg : register c category ws = (.ok h, ws')) :
    ws.target.Passes (defineOperations category c.toList) ∧
      ws'.target = ws.target.run (defineOperations category c.toList) ∧
      h.NamedIn category ws'.program := by
  have hplay := register_play c category ws
  rw [hreg] at hplay
  obtain ⟨hpasses, htarget⟩ := Target.passes_of_play_eq_none hplay
  exact ⟨hpasses, htarget, register_namedIn hreg⟩

theorem register_of_passes {c : Catalog} {category : String} {ws : Workspace}
    (hpasses : ws.target.Passes (defineOperations category c.toList)) :
    ∃ h ws', register c category ws = (.ok h, ws') := by
  have hplay := register_play c category ws
  rw [Target.play_of_passes hpasses] at hplay
  rcases hreg : register c category ws with ⟨result, ws'⟩
  rw [hreg] at hplay
  cases result with
  | error e => simp at hplay
  | ok h => exact ⟨h, ws', rfl⟩

section

variable {c : Catalog} {h : Handles c} {sampleLength : UInt32} {ws ws' : Workspace}

theorem resolve_eq_ok {interval : UInt64} {report : ResolveReport}
    (hres : resolve h sampleLength interval ws = (.ok report, ws'))
    (hlt : ∀ i k, layoutHandle? h i = some k → k.index < ws.program.structs.size) :
    ws.target.Passes (rebuildOperations h sampleLength (List.finRange c.size)) ∧
      ws'.target = ws.target.run (rebuildOperations h sampleLength (List.finRange c.size)) := by
  have hplay := resolve_play h sampleLength interval ws hlt
  rw [hres] at hplay
  exact Target.passes_of_play_eq_none hplay

theorem resolve_of_passes (interval : UInt64)
    (hlt : ∀ i k, layoutHandle? h i = some k → k.index < ws.program.structs.size)
    (hpasses : ws.target.Passes (rebuildOperations h sampleLength (List.finRange c.size))) :
    ∃ report ws', resolve h sampleLength interval ws = (.ok report, ws') := by
  have hplay := resolve_play h sampleLength interval ws hlt
  rw [Target.play_of_passes hpasses] at hplay
  rcases hres : resolve h sampleLength interval ws with ⟨result, ws'⟩
  rw [hres] at hplay
  cases result with
  | error e => simp at hplay
  | ok report => exact ⟨report, ws', rfl⟩

end

theorem structureStages_play (config : ImportConfig) (c : Catalog) (t : Target) (ws : Workspace)
    (hws : ws.target = t.run (labelOperations config c)) :
    t.play (structureOperations config c t) =
        (failure? (structureStages config c ws).1, (structureStages config c ws).2.target) ∧
      ∀ result, (structureStages config c ws).1 = .ok result →
        result.1 = registeredHandles config c t := by
  unfold structureOperations registrationOperations
  rw [List.append_assoc, Target.play_append,
    Target.play_of_passes (labelOperations_pass config c t), ← hws]
  simp only
  have hregister := register_play c config.category (ws.info "Register types...")
  rw [Workspace.info_target] at hregister
  rw [Target.play_append, hregister]
  unfold structureStages
  rcases hreg : register c config.category (ws.info "Register types...") with ⟨result, ws₁⟩
  cases result with
  | error e =>
    refine ⟨rfl, ?_⟩
    intro result h
    cases h
  | ok h =>
    obtain ⟨-, htarget, hnamed⟩ := register_eq_ok hreg
    have hhandles : h = registeredHandles config c t := by
      rw [hnamed.eq_handlesIn]
      unfold registeredHandles registrationOperations Workspace.program
      rw [htarget, Workspace.info_target, hws, Target.run_append]
    have hresolve := resolve_play h config.sampleLength config.progressInterval
      (ws₁.info "Add all fields...") hnamed.lt_of_layoutHandle?
    rw [Workspace.info_target] at hresolve
    rw [← hhandles]
    simp only [failure?_ok]
    rw [hresolve]
    rcases resolve h config.sampleLength config.progressInterval (ws₁.info "Add all fields...")
      with ⟨result, ws₂⟩
    cases result with
    | error e =>
      refine ⟨rfl, ?_⟩
      intro result hresult
      cases hresult
    | ok report =>
      refine ⟨rfl, ?_⟩
      intro result hresult
      cases hresult
      rfl

section

variable {config : ImportConfig} {c : Catalog} {ws ws₁ : Workspace}

theorem structureStages_eq_ok {h : Handles c} {report : ResolveReport}
    (hstages : structureStages config c ws = (.ok (h, report), ws₁)) :
    ∃ ws₂, register c config.category (ws.info "Register types...") = (.ok h, ws₂) ∧
      resolve h config.sampleLength config.progressInterval (ws₂.info "Add all fields...") =
        (.ok report, ws₁) := by
  unfold structureStages at hstages
  split at hstages
  · cases hstages
  · rename_i h' ws₂ hreg
    split at hstages
    · cases hstages
    · rename_i report' ws₃ hres
      cases hstages
      exact ⟨ws₂, hreg, hres⟩

theorem structureStages_target {h : Handles c} {report : ResolveReport}
    (hstages : structureStages config c ws = (.ok (h, report), ws₁)) :
    ws₁.target = ws.target.run (defineOperations config.category c.toList ++
      rebuildOperations h config.sampleLength (List.finRange c.size)) := by
  obtain ⟨ws₂, hreg, hres⟩ := structureStages_eq_ok hstages
  obtain ⟨-, htarget₂, hnamed⟩ := register_eq_ok hreg
  obtain ⟨-, htarget₁⟩ := resolve_eq_ok hres hnamed.lt_of_layoutHandle?
  rw [htarget₁, Workspace.info_target, htarget₂, Workspace.info_target, Target.run_append]

theorem importCatalog_of_error {e : Error}
    (hstages : structureStages config c (labelStage config c ws).2 = (.error e, ws₁)) :
    importCatalog config c ws = (.error e, ws₁) := by
  unfold importCatalog
  simp only [hstages]

theorem importCatalog_of_ok {h : Handles c} {resolved : ResolveReport}
    (hstages : structureStages config c (labelStage config c ws).2 = (.ok (h, resolved), ws₁)) :
    (importCatalog config c ws).1 =
        .ok ⟨c, h, c.size, h.scalarCount, (labelStage config c ws).1, resolved.resolved,
          resolved.skipped, resolved.warnings, (signatureStage config h ws₁).1⟩ ∧
      (importCatalog config c ws).2.target = (signatureStage config h ws₁).2.target := by
  unfold importCatalog
  simp only [hstages]
  exact ⟨trivial, rfl⟩

end

theorem importCatalog_play (config : ImportConfig) (c : Catalog) (ws : Workspace) :
    ws.target.play (importOperations config c ws.target) =
        (failure? (importCatalog config c ws).1, (importCatalog config c ws).2.target) ∧
      ∀ session, (importCatalog config c ws).1 = .ok session →
        ∃ report, session = ⟨c, registeredHandles config c ws.target, report⟩ := by
  unfold importOperations
  obtain ⟨hplay, hhandles⟩ := structureStages_play config c ws.target (labelStage config c ws).2
    (labelStage_target config c ws)
  rw [Target.play_append, hplay]
  rcases hstages : structureStages config c (labelStage config c ws).2 with ⟨result, ws₁⟩
  rw [hstages] at hplay hhandles
  cases result with
  | error e =>
    rw [importCatalog_of_error hstages]
    refine ⟨rfl, ?_⟩
    intro session h
    cases h
  | ok result =>
    obtain ⟨h, resolved⟩ := result
    obtain ⟨hresult, htarget⟩ := importCatalog_of_ok hstages
    have hh : h = registeredHandles config c ws.target := hhandles _ rfl
    obtain ⟨-, hstructures⟩ := Target.passes_of_play_eq_none hplay
    simp only [failure?_ok]
    rw [Target.play_of_passes (signatureOperations_pass _ _ _ _), ← hh, ← hstructures, hresult,
      htarget, signatureStage_target]
    refine ⟨rfl, ?_⟩
    intro session hsession
    cases hsession
    exact ⟨_, rfl⟩

/-! ## Imports -/

theorem importDump_of_error {config : ImportConfig} {source : ChunkSource} {e : Error}
    (h : (load source config.chunkSize).result = .error e) (ws : Workspace) :
    (importDump config source ws).result = .error e ∧
      (importDump config source ws).workspace.target = ws.target := by
  simp only [importDump, h]
  exact ⟨trivial, rfl⟩

theorem importDump_of_ok {config : ImportConfig} {source : ChunkSource} {c : Catalog}
    (h : (load source config.chunkSize).result = .ok c) (ws : Workspace) :
    importDump config source ws =
      ⟨(load source config.chunkSize).probed,
        (importCatalog config c (ws.append (load source config.chunkSize).log)).1,
        (importCatalog config c (ws.append (load source config.chunkSize).log)).2⟩ := by
  simp only [importDump, h]

theorem importDump_play {config : ImportConfig} {source : ChunkSource} {c : Catalog}
    (h : (load source config.chunkSize).result = .ok c) (ws : Workspace) :
    ws.target.play (importOperations config c ws.target) =
        (failure? (importDump config source ws).result,
          (importDump config source ws).workspace.target) ∧
      ∀ session, (importDump config source ws).result = .ok session →
        ∃ report, session = ⟨c, registeredHandles config c ws.target, report⟩ := by
  rw [importDump_of_ok h]
  exact importCatalog_play config c (ws.append (load source config.chunkSize).log)

namespace Target

/-- There is no handle for the structure that is asked for, or the target refuses to rebuild one. -/
def IsFatal (t : Target) (op : Operation) : Prop :=
  (∃ category name size policy, op = .define category name size policy ∧
      t.handle? category name size policy = none) ∨
    ∃ handle members, op = .rebuild handle members ∧ t.refuses op = true

theorem isFatal_iff {t : Target} {op : Operation} :
    t.IsFatal op ↔ ∃ e, t.fatal? op = some e := by
  unfold IsFatal fatal?
  cases op with
  | define category name size policy =>
    cases t.handle? category name size policy <;> simp
  | rebuild handle members =>
    cases hrefused : t.refuses (.rebuild handle members) <;> simp [hrefused]
  | _ => simp

end Target

/-- How much of the operations `ops` an import on a target asked for. -/
structure Import.Asks (i : Import) (t : Target) (ops asked : List Operation) : Prop where
  target_eq : i.workspace.target = t.run asked
  attempts_eq : i.workspace.target.attempts = t.attempts ++ asked.toArray
  error_iff : (∃ e, i.result = .error e) ↔
    ∃ before op after, asked = before ++ op :: after ∧ (t.run before).IsFatal op
  ok : (∃ session, i.result = .ok session) → asked = ops
  error : ∀ e, i.result = .error e →
    ∃ before op after, ops = before ++ op :: after ∧ asked = before ++ [op] ∧ t.Passes before ∧
      (t.run before).fatal? op = some e

theorem Import.asks_of_play {i : Import} {t : Target} {ops : List Operation}
    (h : t.play ops = (failure? i.result, i.workspace.target)) : ∃ asked, i.Asks t ops asked := by
  cases hresult : i.result with
  | ok session =>
    rw [hresult] at h
    obtain ⟨hpasses, htarget⟩ := Target.passes_of_play_eq_none h
    refine ⟨ops, htarget, by rw [htarget, Target.run_attempts], ?_, fun _ => rfl, ?_⟩
    · constructor
      · rintro ⟨e, he⟩
        rw [hresult] at he
        cases he
      · rintro ⟨before, op, after, rfl, hfatal⟩
        obtain ⟨e, he⟩ := Target.isFatal_iff.1 hfatal
        rw [hpasses before op after rfl] at he
        cases he
    · intro e he
      rw [hresult] at he
      cases he
  | error e =>
    rw [hresult] at h
    obtain ⟨before, op, after, hops, hpasses, hfatal, htarget⟩ := Target.play_eq_some_iff.1 h
    refine ⟨before ++ [op], htarget, by rw [htarget, Target.run_attempts], ?_, ?_, ?_⟩
    · exact ⟨fun _ => ⟨before, op, [], rfl, Target.isFatal_iff.2 ⟨e, hfatal⟩⟩,
        fun _ => ⟨e, hresult⟩⟩
    · rintro ⟨session, hsession⟩
      rw [hresult] at hsession
      cases hsession
    · intro e' he'
      rw [hresult] at he'
      cases he'
      exact ⟨before, op, after, hops, rfl, hpasses, hfatal⟩

/-- A dump that cannot be loaded leaves the target alone. The import of any other asks for its
operations in order, up to the first that is fatal. -/
theorem importDump_asks_in_order (config : ImportConfig) (source : ChunkSource) (ws : Workspace) :
    match (load source config.chunkSize).result with
    | .error e =>
      (importDump config source ws).result = .error e ∧
        (importDump config source ws).workspace.target = ws.target
    | .ok c =>
      (∃ asked, (importDump config source ws).Asks ws.target
        (importOperations config c ws.target) asked) ∧
      ∀ session, (importDump config source ws).result = .ok session →
        ∃ report, session = ⟨c, registeredHandles config c ws.target, report⟩ := by
  cases hload : (load source config.chunkSize).result with
  | error e => exact importDump_of_error hload ws
  | ok c =>
    obtain ⟨hplay, hsession⟩ := importDump_play hload ws
    exact ⟨Import.asks_of_play hplay, hsession⟩

end TypeRecovery
