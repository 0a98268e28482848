import TypeRecovery.Import.Basic
import TypeRecovery.Proofs.Arena.Lookup
import TypeRecovery.Proofs.Dump.Load
import TypeRecovery.Proofs.Registration

/-!
# Imports over arenas

An import in which every type is looked up by its number, with no result as soon as a look-up misses.
On records that make a catalog it misses nothing, and it does what the import of the catalog does.
-/

namespace TypeRecovery

namespace Arena

/-! ## Stages -/

section

variable (a : Arena)

/-- This look-up may miss: a type without a representation gets no layout. -/
def layoutHandle? (r : TypeRecord Nat) : Option StructHandle :=
  match a.representation? r.index with
  | some (.struct handle) => if r.isPlaceholder || r.isTemplate then none else some handle
  | _ => none

def resolveFrom? (sampleLength : UInt32) (interval : UInt64) :
    List (TypeRecord Nat) → ResolveReport → Workspace →
      Option (Except Error ResolveReport × Workspace)
  | [], report, ws => some (.ok report, ws)
  | r :: rest, report, ws =>
    let ws := logProgress interval r.index ws
    match a.layoutHandle? r with
    | none =>
      resolveFrom? sampleLength interval rest { report with skipped := report.skipped + 1 } ws
    | some handle => do
      let result ← a.layout? sampleLength r.index
      match (logWarnings result.warnings ws).attempt (.rebuild handle result.members) with
      | (.error e, ws) => some (.error e, ws)
      | (.ok _, ws) =>
        resolveFrom? sampleLength interval rest
          { report with
            resolved := report.resolved + 1
            warnings := report.warnings ++ result.warnings }
          ws

def resolve? (sampleLength : UInt32) (interval : UInt64) (ws : Workspace) :
    Option (Except Error ResolveReport × Workspace) := do
  match ← a.resolveFrom? sampleLength interval a.records {} ws with
  | (.error e, ws) => some (.error e, ws)
  | (.ok report, ws) =>
    some (.ok report,
      ws.info (s!"Resolved {report.resolved} layouts, skipped {report.skipped}, "
        ++ s!"{report.warnings.length} warnings"))

def planOf? (owner : TypeRecord Nat) (m : MethodRecord Nat) : Option FunctionPlan := do
  let signature ← a.signature? owner m
  some ⟨m.address, functionName owner m, signature⟩

def applyMethod? (state : SignatureReport × Workspace) (method : TypeRecord Nat × MethodRecord Nat) :
    Option (SignatureReport × Workspace) := do
  let plan ← a.planOf? method.1 method.2
  some (applyPlan plan state.1 state.2)

/-- All methods, each with the type that declares it. -/
def methods : List (TypeRecord Nat × MethodRecord Nat) :=
  a.records.flatMap fun owner => owner.methods.map fun m => (owner, m)

def signatureStage? (config : ImportConfig) (ws : Workspace) :
    Option (Option SignatureReport × Workspace) :=
  if config.applySignatures then do
    let (report, ws) ← a.methods.foldlM a.applyMethod? ({}, ws.info "Add all methods...")
    some (some report,
      ws.info (s!"Functions: {report.created} created, {report.renamed} renamed, "
        ++ s!"{report.failed} failed, {report.skipped} without address"))
  else some (none, ws)

end

def registerRecords (category : String) (rs : List (TypeRecord Nat)) (ws : Workspace) :
    Except Error Arena × Workspace :=
  match representAll category rs ws with
  | (.error e, ws) => (.error e, ws)
  | (.ok ⟨xs, _⟩, ws) =>
    (.ok ⟨rs, xs⟩,
      ws.info s!"Registered {rs.length} types, {xs.countP Representation.isScalar} primitive")

def labelRecords (config : ImportConfig) (rs : List (TypeRecord Nat)) (ws : Workspace) :
    Option LabelReport × Workspace :=
  if config.labelTypes then
    let (report, ws) := rs.foldl (fun (report, ws) r => labelType config.labelStart report r ws)
      ({}, ws.info "First scan, add type def label")
    (some report, ws)
  else (none, ws)

/-- The import of records that were accepted, with no result if a look-up misses. -/
def importRecords? (config : ImportConfig) (rs : List (TypeRecord Nat)) (ws : Workspace) :
    Option (Except Error ImportReport × Workspace) :=
  let (labels, ws) := labelRecords config rs ws
  match registerRecords config.category rs (ws.info "Register types...") with
  | (.error e, ws) => some (.error e, ws)
  | (.ok a, ws) => do
    match ←
      a.resolve? config.sampleLength config.progressInterval (ws.info "Add all fields...")
    with
    | (.error e, ws) => some (.error e, ws)
    | (.ok resolved, ws) => do
      let (functions, ws) ← a.signatureStage? config ws
      some
        (.ok
          { typeCount := rs.length
            scalarCount := a.representations.countP Representation.isScalar
            labels := labels
            layouts := resolved.resolved
            layoutsSkipped := resolved.skipped
            warnings := resolved.warnings
            functions := functions },
        ws.info s!"Import of {rs.length} types done")

/-! ## Nothing is missed -/

section

variable {c : Catalog} {a : Arena} {h : Handles c}

theorem Holds.layoutHandle? (ha : a.Holds h) (i : c.Index) :
    a.layoutHandle? ((c.record i).map Fin.val) = TypeRecovery.layoutHandle? h i := by
  unfold Arena.layoutHandle? TypeRecovery.layoutHandle?
  rw [index_map_val, ha.representation?]
  cases h.get i <;> rfl

theorem Holds.resolveFrom? (ha : a.Holds h) (sampleLength : UInt32) (interval : UInt64)
    (is : List c.Index) (report : ResolveReport) (ws : Workspace) :
    a.resolveFrom? sampleLength interval ((is.map c.record).map (TypeRecord.map Fin.val)) report
        ws =
      some (resolveFrom h sampleLength interval is report ws) := by
  induction is generalizing report ws with
  | nil => rfl
  | cons i is ih =>
    rw [List.map_cons, List.map_cons, Arena.resolveFrom?, resolveFrom, ha.layoutHandle?,
      index_map_val]
    cases hi : TypeRecovery.layoutHandle? h i with
    | none => exact ih _ _
    | some handle =>
      simp only [ha.layout?, Option.bind_eq_bind, Option.bind_some]
      rcases (logWarnings (layout h sampleLength i).warnings (logProgress interval i ws)).attempt
        (.rebuild handle (layout h sampleLength i).members) with ⟨result, ws'⟩
      cases result with
      | error e => rfl
      | ok u => exact ih _ _

theorem Holds.resolve? (ha : a.Holds h) (sampleLength : UInt32) (interval : UInt64)
    (ws : Workspace) :
    a.resolve? sampleLength interval ws = some (resolve h sampleLength interval ws) := by
  unfold Arena.resolve? resolve
  rw [ha.records, Catalog.toList_eq, ha.resolveFrom?]
  simp only [Option.bind_eq_bind, Option.bind_some]
  rcases resolveFrom h sampleLength interval (List.finRange c.size) {} ws with ⟨result, ws'⟩
  cases result <;> rfl

theorem foldlM_map_eq_some {α β γ σ : Type} {f : σ → β → Option σ} {g : α → β} {k : α → γ}
    {u : σ → γ → σ} {l : List α} (hf : ∀ s x, f s (g x) = some (u s (k x))) (s : σ) :
    (l.map g).foldlM f s = some ((l.map k).foldl u s) := by
  induction l generalizing s with
  | nil => rfl
  | cons x l ih => simp [hf, ih]

theorem Holds.planOf? (ha : a.Holds h) (i : c.Index) (m : MethodRecord c.Index) :
    a.planOf? ((c.record i).map Fin.val) (m.map Fin.val) = some (planOf h i m) := by
  rw [Arena.planOf?, ha.signature?]
  rfl

/-- The methods of a catalog, each with the type that declares it. -/
def methodsOf (c : Catalog) : List (c.Index × MethodRecord c.Index) :=
  (List.finRange c.size).flatMap fun i => (c.record i).methods.map fun m => (i, m)

theorem functionPlans_eq (h : Handles c) :
    functionPlans h = (methodsOf c).map fun x => planOf h x.1 x.2 := by
  unfold functionPlans methodsOf
  rw [List.map_flatMap]
  simp only [List.map_map]
  rfl

theorem Holds.methods (ha : a.Holds h) :
    a.methods = (methodsOf c).map fun x => ((c.record x.1).map Fin.val, x.2.map Fin.val) := by
  unfold Arena.methods methodsOf
  rw [ha.records, Catalog.toList_eq, List.flatMap_map, List.flatMap_map, List.map_flatMap]
  simp only [TypeRecord.map, List.map_map]
  rfl

theorem Holds.signatureStage? (ha : a.Holds h) (config : ImportConfig) (ws : Workspace) :
    a.signatureStage? config ws = some (signatureStage config h ws) := by
  have hstep : ∀ (state : SignatureReport × Workspace) (x : c.Index × MethodRecord c.Index),
      a.applyMethod? state ((c.record x.1).map Fin.val, x.2.map Fin.val) =
        some (applyPlan (planOf h x.1 x.2) state.1 state.2) := by
    intro state x
    rw [Arena.applyMethod?, ha.planOf?]
    rfl
  unfold Arena.signatureStage? signatureStage applySignatures
  split
  · rw [ha.methods, functionPlans_eq,
      foldlM_map_eq_some (u := fun state plan => applyPlan plan state.1 state.2) hstep]
    rfl
  · rfl

/-! ## Records -/

section

variable {rs : List (TypeRecord Nat)} (hc : Catalog.ofRecords rs = .ok c)

include hc

theorem registerRecords_eq (category : String) (ws : Workspace) :
    registerRecords category rs ws =
      ((register c category ws).1.map fun h => ⟨rs, h.representations.toList⟩,
        (register c category ws).2) := by
  have hrequests : rs.map TypeRecord.request = c.toList.map TypeRecord.request := by
    rw [Catalog.eq_map_of_ofRecords hc, List.map_map]
    rfl
  unfold registerRecords register
  obtain ⟨e, ws', hraw, hchecked⟩ | ⟨xs, _, _, ws', hraw, hchecked⟩ :=
    representAll_congr hrequests category ws
  · rw [hraw, hchecked]
    rfl
  · rw [hraw, hchecked]
    simp only [Handles.scalarCount, (Catalog.records_of_ofRecords hc).1]
    rfl

theorem labelRecords_eq (config : ImportConfig) (ws : Workspace) :
    labelRecords config rs ws = labelStage config c ws := by
  unfold labelRecords labelStage labelTypes
  rw [Catalog.eq_map_of_ofRecords hc, List.foldl_map]
  rfl

theorem importRecords?_eq (config : ImportConfig) (ws : Workspace) :
    importRecords? config rs ws =
      some ((importCatalog config c ws).1.map ImportSession.report,
        (importCatalog config c ws).2) := by
  unfold importRecords? importCatalog structureStages
  rw [labelRecords_eq hc]
  rcases labelStage config c ws with ⟨labels, ws₁⟩
  simp only [registerRecords_eq hc]
  rcases register c config.category (ws₁.info "Register types...") with ⟨result, ws₂⟩
  cases result with
  | error e => rfl
  | ok h =>
    have ha : Holds ⟨rs, h.representations.toList⟩ h := ⟨Catalog.eq_map_of_ofRecords hc, rfl⟩
    simp only [Except.map, ha.resolve?, Option.bind_eq_bind, Option.bind_some]
    rcases resolve h config.sampleLength config.progressInterval (ws₂.info "Add all fields...")
      with ⟨result, ws₃⟩
    cases result with
    | error e => rfl
    | ok resolved =>
      simp only [ha.signatureStage?, Option.bind_some, (Catalog.records_of_ofRecords hc).1]
      rfl

end

end

end Arena

/-! ## Dumps -/

/-- Whatever the chunks of a dump say, an import looks up no type that is not there. A dump that
cannot be loaded is not looked into. Otherwise the records of its chunks, taken as they are, can be
imported with every look-up open to fail, and that leads to the same result and workspace. -/
theorem importDump_misses_nothing (config : ImportConfig) (source : ChunkSource) (ws : Workspace) :
    match (load source config.chunkSize).result with
    | .error e =>
      (importDump config source ws).result = .error e ∧
        (importDump config source ws).workspace = ws.append (load source config.chunkSize).log
    | .ok c =>
      ∃ chunks, ProbedFrom source config.chunkSize.toNat 0 chunks ∧
        Catalog.ofRecords (recordsOf chunks) = .ok c ∧
        Arena.importRecords? config (recordsOf chunks)
            (ws.append (load source config.chunkSize).log) =
          some ((importDump config source ws).result.map ImportSession.report,
            (importDump config source ws).workspace) := by
  cases hload : (load source config.chunkSize).result with
  | error e =>
    simp only [importDump, hload]
    exact ⟨trivial, trivial⟩
  | ok c =>
    obtain ⟨chunks, hprobed, -, -, hc⟩ := exists_gapFree_of_load hload
    refine ⟨chunks, hprobed, hc, ?_⟩
    rw [Arena.importRecords?_eq hc]
    simp only [importDump, hload]

end TypeRecovery
