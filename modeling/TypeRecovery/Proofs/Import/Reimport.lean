import TypeRecovery.Header.Basic
import TypeRecovery.Proofs.Import.Redefinition
import TypeRecovery.Proofs.Import.Reports

/-!
# Importing again

A second import of a dump finds what the first one left. Every stage makes of it what is there
already, and an import that ended early ends in the same place.
-/

namespace TypeRecovery

variable {c : Catalog}

/-! ## Structures -/

theorem attempt_of_fatal {ρ : Type} {t : Target} {category : String} {r : TypeRecord ρ} {e : Error}
    (ht : t.IsOpen) (hfatal : t.fatal? (defineOperation category r) = some e) :
    (t.attempt (defineOperation category r)).2.program = t.program := by
  rw [ht.attempt_program]
  show t.program.define category r.fullName r.size .replace = t.program
  have hnone : (t.program.define category r.fullName r.size .replace).handleOf? category
      r.fullName = none := by
    rw [fatal?_defineOperation, ht.handle?_eq] at hfatal
    split at hfatal
    · cases hfatal
    · assumption
  have hnew : t.program.handleOf? category r.fullName = none := by
    cases hold : t.program.handleOf? category r.fullName with
    | none => rfl
    | some k =>
      have := (Program.define_extends t.program category r.fullName r.size .replace).handleOf? hold
      rw [hnone] at this
      cases this
  rw [Program.define_of_none hnew] at hnone ⊢
  split
  · -- With room left there would be a handle.
    rename_i hroom
    rw [if_pos hroom, Program.handleOf?_push hnew] at hnone
    cases hnone
  · rfl

theorem fatal?_defineOperation_congr {ρ : Type} {t t' : Target} (ht : t.IsOpen) (ht' : t'.IsOpen)
    (hprogram : t'.program = t.program) (category : String) (r : TypeRecord ρ) :
    t'.fatal? (defineOperation category r) = t.fatal? (defineOperation category r) := by
  rw [fatal?_defineOperation, fatal?_defineOperation, ht.handle?_eq, ht'.handle?_eq, hprogram]

theorem play_defineOperations_again {ρ : Type} {category : String} {rs : List (TypeRecord ρ)}
    {t t₁ t' : Target} {e : Error} (ht : t.IsOpen) (ht' : t'.IsOpen)
    (hplay : t.play (defineOperations category rs) = (some e, t₁))
    (hprogram : t'.program = t₁.program) :
    ∃ t₁', t'.play (defineOperations category rs) = (some e, t₁') ∧ t₁'.program = t'.program := by
  obtain ⟨before, op, after, hops, hpasses, hfatal, rfl⟩ := Target.play_eq_some_iff.1 hplay
  obtain ⟨rs₁, rest, hrs, rfl, hrest⟩ := List.map_eq_append_iff.1 hops
  obtain ⟨r, rs₂, rfl, rfl, rfl⟩ := List.map_eq_cons_iff.1 hrest
  -- What was registered before the failure is a registration of its own.
  have hbefore : rs₁.map (defineOperation category) = defineOperations category rs₁ := by
    unfold defineOperations
    rw [List.filter_eq_self.2]
    intro r hr
    have hmem : r ∈ rs.filter TypeRecord.isStructured := by
      rw [hrs]
      exact List.mem_append_left _ hr
    exact (List.mem_filter.1 hmem).2
  rw [hbefore] at hops hpasses hfatal hprogram
  rw [Target.run_append, Target.run_cons, Target.run_nil, attempt_of_fatal (ht.run _) hfatal]
    at hprogram
  obtain ⟨hpasses', hsame⟩ := run_defineOperations_again hpasses ht' hprogram
  have hfatal' : (t'.run (defineOperations category rs₁)).fatal? (defineOperation category r) =
      some e := by
    rw [fatal?_defineOperation_congr (ht.run _) (ht'.run _) (hsame.trans hprogram), hfatal]
  refine ⟨_, Target.play_eq_some_iff.2 ⟨_, _, _, hops, hpasses', hfatal', rfl⟩, ?_⟩
  rw [Target.run_append, Target.run_cons, Target.run_nil, attempt_of_fatal (ht'.run _) hfatal',
    hsame]

section

variable {config : ImportConfig} {ws ws' ws₁ : Workspace}

theorem structureStages_ok_again {h : Handles c} {report : ResolveReport}
    (hopen' : ws'.target.IsOpen)
    (hstages : structureStages config c ws = (.ok (h, report), ws₁))
    (hstructs : ws'.program.structs = ws₁.program.structs) :
    ∃ ws₁', structureStages config c ws' = (.ok (h, report), ws₁') ∧ ws₁'.target.IsOpen ∧
      ws₁'.program = ws'.program := by
  obtain ⟨ws₂, hreg, hres⟩ := structureStages_eq_ok hstages
  obtain ⟨hdefines, htarget₂, hnamed⟩ := register_eq_ok hreg
  obtain ⟨hrebuilds, -⟩ := resolve_eq_ok hres hnamed.lt_of_layoutHandle?
  rw [Workspace.info_target] at hdefines htarget₂ hrebuilds
  rw [htarget₂] at hrebuilds
  unfold Workspace.program at hnamed hstructs
  rw [htarget₂] at hnamed
  rw [structureStages_target hstages] at hstructs
  obtain ⟨hdefines', hnamed', hprogram'⟩ :=
    run_structures_again hdefines hnamed hrebuilds hopen' hstructs
  obtain ⟨h', ws₂', hreg'⟩ : ∃ h' ws₂', register c config.category
      (ws'.info "Register types...") = (.ok h', ws₂') := register_of_passes hdefines'
  obtain ⟨-, htarget₂', hnamed₂'⟩ := register_eq_ok hreg'
  rw [Workspace.info_target] at htarget₂'
  have hopen₂' : ws₂'.target.IsOpen := by
    rw [htarget₂']
    exact hopen'.run _
  obtain rfl : h' = h := by
    rw [hnamed₂'.eq_handlesIn, hnamed'.eq_handlesIn, ← htarget₂']
    rfl
  obtain ⟨report', ws₁', hres'⟩ : ∃ report' ws₁', resolve h' config.sampleLength
      config.progressInterval (ws₂'.info "Add all fields...") = (.ok report', ws₁') :=
    resolve_of_passes _ hnamed₂'.lt_of_layoutHandle? (rebuildOperations_pass hopen₂' _ _ _)
  obtain ⟨-, htarget₁'⟩ := resolve_eq_ok hres' hnamed₂'.lt_of_layoutHandle?
  rw [Workspace.info_target, htarget₂', ← Target.run_append] at htarget₁'
  obtain rfl := resolve_report hres hres'
  refine ⟨ws₁', ?_, ?_, ?_⟩
  · unfold structureStages
    rw [hreg']
    simp only [hres']
  · rw [htarget₁']
    exact hopen'.run _
  · unfold Workspace.program
    rw [htarget₁']
    exact hprogram'

theorem structureStages_eq_error {e : Error} (hopen : ws.target.IsOpen)
    (hstages : structureStages config c ws = (.error e, ws₁)) :
    ws.target.play (defineOperations config.category c.toList) = (some e, ws₁.target) := by
  have hplay := register_play c config.category (ws.info "Register types...")
  unfold structureStages at hstages
  split at hstages
  · rename_i e' ws₂ hreg
    cases hstages
    rw [hreg] at hplay
    exact hplay
  · rename_i h ws₂ hreg
    obtain ⟨-, htarget, hnamed⟩ := register_eq_ok hreg
    have hopen₂ : ws₂.target.IsOpen := by
      rw [htarget]
      exact hopen.run _
    obtain ⟨report, ws₃, hres⟩ : ∃ report ws₃, resolve h config.sampleLength
        config.progressInterval (ws₂.info "Add all fields...") = (.ok report, ws₃) :=
      resolve_of_passes _ hnamed.lt_of_layoutHandle? (rebuildOperations_pass hopen₂ _ _ _)
    rw [hres] at hstages
    cases hstages

theorem structureStages_error_again {e : Error} (hopen : ws.target.IsOpen)
    (hopen' : ws'.target.IsOpen) (hstages : structureStages config c ws = (.error e, ws₁))
    (hprogram : ws'.program = ws₁.program) :
    ∃ ws₁', structureStages config c ws' = (.error e, ws₁') ∧ ws₁'.program = ws'.program := by
  obtain ⟨t₁', hplay', hsame⟩ :=
    play_defineOperations_again hopen hopen' (structureStages_eq_error hopen hstages) hprogram
  have hregister := register_play c config.category (ws'.info "Register types...")
  rw [Workspace.info_target, hplay'] at hregister
  unfold structureStages
  rcases hreg : register c config.category (ws'.info "Register types...") with ⟨result, ws₁'⟩
  rw [hreg] at hregister
  cases result with
  | ok h => simp at hregister
  | error e' =>
    simp only [failure?_error, Prod.mk.injEq, Option.some.injEq] at hregister
    obtain ⟨rfl, rfl⟩ := hregister
    exact ⟨ws₁', rfl, hsame⟩

theorem structureStages_agreeOutside (hopen : ws.target.IsOpen) :
    ws.program.AgreeOutside .structs (structureStages config c ws).2.program := by
  rcases hstages : structureStages config c ws with ⟨result, ws₁⟩
  cases result with
  | error e =>
    obtain ⟨before, op, after, hops, -, -, htarget⟩ :=
      Target.play_eq_some_iff.1 (structureStages_eq_error hopen hstages)
    unfold Workspace.program
    rw [htarget]
    apply Target.run_agreeOutside
    intro other hother
    have hmem : other ∈ defineOperations config.category c.toList := by
      rw [hops]
      rcases List.mem_append.1 hother with hother | hother
      · exact List.mem_append_left _ hother
      · exact List.mem_append_right _ (List.mem_singleton.1 hother ▸ List.mem_cons_self)
    exact defineOperations_part hmem
  | ok result =>
    unfold Workspace.program
    rw [structureStages_target hstages, Target.run_append]
    exact (Target.run_agreeOutside (fun _ => defineOperations_part) _).trans
      (Target.run_agreeOutside (fun _ => rebuildOperations_part) _)

/-! ## Labels and functions -/

theorem labelStage_isOpen (config : ImportConfig) (c : Catalog) (hopen : ws.target.IsOpen) :
    (labelStage config c ws).2.target.IsOpen := by
  rw [labelStage_target]
  exact hopen.run _

theorem labelStage_agreeOutside (config : ImportConfig) (c : Catalog) (ws : Workspace) :
    ws.program.AgreeOutside .labels (labelStage config c ws).2.program := by
  unfold Workspace.program
  rw [labelStage_target]
  exact Target.run_agreeOutside (fun _ => labelOperations_part) _

theorem labelStage_again (hopen : ws.target.IsOpen)
    (hlabels : ws'.program.labels = (labelStage config c ws).2.program.labels)
    (hregions : ws'.program.regions = (labelStage config c ws).2.program.regions) :
    (labelStage config c ws').2.program = ws'.program := by
  unfold Workspace.program at hlabels hregions ⊢
  rw [labelStage_target] at hlabels hregions ⊢
  apply Target.run_of_labelled
  intro op hop
  obtain ⟨address, name, rfl⟩ := Operation.eq_label_of_part (labelOperations_part hop)
  have hlabelled := hopen.labelled_run (fun _ => labelOperations_part) hop
  exact ⟨address, name, rfl, hlabelled.congr hlabels hregions⟩

theorem signatureStage_agreeOutside (config : ImportConfig) (h : Handles c) (ws : Workspace) :
    ws.program.AgreeOutside .functions (signatureStage config h ws).2.program := by
  unfold Workspace.program
  rw [signatureStage_target]
  unfold signatureOperations
  split
  · exact run_functionOperations_agreeOutside _ _
  · exact .refl _ _

theorem signatureStage_again {h : Handles c} (hopen : ws.target.IsOpen)
    (hopen' : ws'.target.IsOpen)
    (hprogram : ws'.program = (signatureStage config h ws).2.program) :
    (signatureStage config h ws').2.program = ws'.program ∧
      (signatureStage config h ws').1 =
        (signatureStage config h ws).1.map SignatureReport.again := by
  have hfirst := signatureStage_target config h ws
  have hsecond := signatureStage_target config h ws'
  have hregions : ws'.program.regions = ws.program.regions := by
    rw [hprogram]
    exact (signatureStage_agreeOutside config h ws).regions (by simp)
  unfold Workspace.program at hprogram hregions ⊢
  rw [hfirst] at hprogram
  rw [hsecond]
  unfold signatureOperations at hprogram ⊢
  unfold signatureStage applySignatures
  split
  · rename_i happlies
    rw [if_pos happlies] at hprogram
    refine ⟨run_functionOperations_again hopen hopen' hprogram, ?_⟩
    refine congrArg some (FunctionsAlike.report
      (List.foldl_rel (r := FunctionsAlike (functionPlans h)) ?_ ?_))
    · refine ⟨rfl, hopen, hopen', hregions, ?_⟩
      intro plan hplan hne
      have hasked : (functionPlans h).any (fun other => other.isAt plan.address) = true :=
        List.any_eq_true.2 ⟨plan, hplan, by simp [FunctionPlan.isAt, hne]⟩
      show ws'.target.program.functions.contains plan.address = _
      rw [hprogram, contains_run_functionOperations hopen, hasked, Bool.true_and]
      rfl
    · intro plan hplan s s' halike
      exact halike.applyPlan hplan
  · exact ⟨rfl, rfl⟩

end

/-! ## Imports -/

/-- What a second import reports. -/
def ImportReport.again (r : ImportReport) : ImportReport :=
  { r with functions := r.functions.map SignatureReport.again }

def ImportSession.again (s : ImportSession) : ImportSession := { s with report := s.report.again }

theorem importCatalog_again (c : Catalog) (config : ImportConfig) {ws ws' : Workspace}
    (hopen : ws.target.IsOpen) (hopen' : ws'.target.IsOpen)
    (hprogram : ws'.program = (importCatalog config c ws).2.program) :
    (importCatalog config c ws').2.program = ws'.program ∧
      (importCatalog config c ws').1 = (importCatalog config c ws).1.map ImportSession.again := by
  have hopenL := labelStage_isOpen config c hopen
  have hopenL' := labelStage_isOpen config c hopen'
  have hagreeL := labelStage_agreeOutside config c ws
  have hagreeS : (labelStage config c ws).2.program.AgreeOutside .structs
      (structureStages config c (labelStage config c ws).2).2.program :=
    structureStages_agreeOutside hopenL
  rcases hstages : structureStages config c (labelStage config c ws).2 with ⟨result, ws₁⟩
  rw [hstages] at hagreeS
  cases result with
  | error e =>
    rw [importCatalog_of_error hstages] at hprogram ⊢
    have hlabelled : (labelStage config c ws').2.program = ws'.program := by
      apply labelStage_again hopen
      · rw [hprogram]
        exact hagreeS.labels (by simp)
      · rw [hprogram]
        exact hagreeS.regions (by simp)
    obtain ⟨ws₁', hstages', hsame⟩ :=
      structureStages_error_again hopenL hopenL' hstages (hlabelled.trans hprogram)
    rw [importCatalog_of_error hstages']
    exact ⟨hsame.trans hlabelled, rfl⟩
  | ok result =>
    obtain ⟨h, resolved⟩ := result
    obtain ⟨hresult, htarget⟩ := importCatalog_of_ok hstages
    have hws : (importCatalog config c ws).2.program = (signatureStage config h ws₁).2.program :=
      congrArg Target.program htarget
    have hagreeF := signatureStage_agreeOutside config h ws₁
    rw [← hws, ← hprogram] at hagreeF
    have hlabelled : (labelStage config c ws').2.program = ws'.program :=
      labelStage_again hopen
        ((hagreeF.labels (by simp)).trans (hagreeS.labels (by simp)))
        ((hagreeF.regions (by simp)).trans (hagreeS.regions (by simp)))
    have hstructs : (labelStage config c ws').2.program.structs = ws₁.program.structs := by
      rw [hlabelled]
      exact hagreeF.structs (by simp)
    obtain ⟨ws₁', hstages', hopen₁', hsame⟩ := structureStages_ok_again hopenL' hstages hstructs
    have hopen₁ : ws₁.target.IsOpen := by
      rw [structureStages_target hstages]
      exact hopenL.run _
    obtain ⟨hfunctions, hreport⟩ : (signatureStage config h ws₁').2.program = ws₁'.program ∧
        (signatureStage config h ws₁').1 =
          (signatureStage config h ws₁).1.map SignatureReport.again := by
      apply signatureStage_again hopen₁ hopen₁'
      rw [hsame, hlabelled, hprogram, hws]
    have hregions : ws'.program.regions = ws.program.regions :=
      ((hagreeF.regions (by simp)).trans (hagreeS.regions (by simp))).trans
        (hagreeL.regions (by simp))
    obtain ⟨hresult', htarget'⟩ := importCatalog_of_ok hstages'
    have hws' : (importCatalog config c ws').2.program =
        (signatureStage config h ws₁').2.program := congrArg Target.program htarget'
    refine ⟨?_, ?_⟩
    · rw [hws', hfunctions, hsame, hlabelled]
    · rw [hresult', hresult, hreport, labelStage_report config c hopen hopen' hregions]
      rfl

def importInto (config : ImportConfig) (source : ChunkSource) (p : Program) : Import :=
  importDump config source (.ofTarget (.ofProgram p))

/-- A second import changes nothing and ends as the first did. It reports the same, except that it
renames the functions that the first created. -/
theorem importInto_again (config : ImportConfig) (source : ChunkSource) (p : Program) :
    (importInto config source (importInto config source p).workspace.program).workspace.program =
        (importInto config source p).workspace.program ∧
      renderHeader (importInto config source
          (importInto config source p).workspace.program).workspace.program =
        renderHeader (importInto config source p).workspace.program ∧
      (importInto config source (importInto config source p).workspace.program).result =
        (importInto config source p).result.map ImportSession.again := by
  unfold importInto
  cases hload : (load source config.chunkSize).result with
  | error e =>
    obtain ⟨hresult, htarget⟩ := importDump_of_error hload (.ofTarget (.ofProgram p))
    have hprogram : (importDump config source (.ofTarget (.ofProgram p))).workspace.program = p :=
      congrArg Target.program htarget
    rw [hprogram, hprogram, hresult]
    exact ⟨rfl, rfl, rfl⟩
  | ok c =>
    rw [importDump_of_ok hload, importDump_of_ok hload]
    have hopen : ∀ p, ((Workspace.ofTarget (.ofProgram p)).append
        (load source config.chunkSize).log).target.IsOpen := Target.isOpen_ofProgram
    obtain ⟨hprogram, hresult⟩ := importCatalog_again c config (hopen p) (hopen _) rfl
    exact ⟨hprogram, congrArg renderHeader hprogram, hresult⟩

end TypeRecovery
