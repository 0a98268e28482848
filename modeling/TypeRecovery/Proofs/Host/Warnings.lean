import TypeRecovery.Proofs.Host.Totals

/-!
# Warnings

An import warns of what its report counts. The warnings of one that succeeds are those of the labels
that were refused, those of the layouts, and those of the functions with something refused.
-/

namespace TypeRecovery

/-! ## Failures -/

theorem length_flatMap_zip {α β ε : Type} {texts : α → ε → List String} {count : β → ε → β}
    {failures : β → Nat}
    (hstep : ∀ report a answer,
      failures (count report answer) = failures report + (texts a answer).length)
    {as : List α} {answers : List ε} (hlength : answers.length = as.length) (report : β) :
    failures (answers.foldl count report) =
      failures report +
        ((as.zip answers).flatMap fun (a, answer) => texts a answer).length := by
  induction as generalizing answers report with
  | nil =>
    rw [List.length_eq_zero_iff.1 hlength]
    rfl
  | cons a as ih =>
    obtain ⟨answer, answers, rfl⟩ := List.exists_cons_of_length_eq_add_one hlength
    rw [List.foldl_cons, ih (Nat.succ.inj hlength), hstep _ a, List.zip_cons_cons,
      List.flatMap_cons, List.length_append, Nat.add_assoc]

theorem LabelReport.failed_count {ρ : Type} (report : LabelReport) (r : TypeRecord ρ)
    (answer : Except String Unit) :
    (report.count answer).failed = report.failed + (labelTexts r answer).length := by
  cases answer <;> rfl

theorem SignatureReport.failed_count (report : SignatureReport) (plan : FunctionPlan)
    (outcome : Outcome) :
    (report.count outcome).failed = report.failed + (outcomeTexts plan outcome).length := by
  cases outcome with
  | skipped => rfl
  | unnamed naming text => cases naming <;> rfl
  | unsigned naming text => cases naming <;> rfl
  | signed naming => cases naming <;> rfl

section

variable {σ : Type} (H : Host σ) (config : ImportConfig) {c : Catalog} (h : Handles c) (s : σ)

theorem Host.length_labelTexts :
    (((H.answers config h).run s).1.labelTexts c).length =
      ((((H.answers config h).run s).1.report config h).labels.map LabelReport.failed).getD 0 := by
  unfold Answers.labelTexts Answers.report
  cases hlabels : config.labelTypes with
  | true =>
    have hlength := H.length_labels config h s hlabels
    rw [← Catalog.length_toList c] at hlength
    have hfailed := length_flatMap_zip LabelReport.failed_count hlength {}
    exact (hfailed.trans (Nat.zero_add _)).symm
  | false =>
    have hnone : ((H.answers config h).run s).1.labels = [] := by
      show ((H.labelAnswers config c).run s).1 = []
      unfold labelAnswers
      rw [hlabels]
      rfl
    rw [hnone, List.zip_nil_right]
    rfl

theorem Host.length_outcomeTexts :
    (((H.answers config h).run s).1.outcomeTexts h).length =
      ((((H.answers config h).run s).1.report config h).functions.map
        SignatureReport.failed).getD 0 := by
  unfold Answers.outcomeTexts Answers.report
  cases hsign : config.applySignatures with
  | true =>
    have hlength := H.length_outcomes config h s hsign
    rw [← length_functionPlans h] at hlength
    have hfailed := length_flatMap_zip SignatureReport.failed_count hlength {}
    exact (hfailed.trans (Nat.zero_add _)).symm
  | false =>
    obtain ⟨s', houtcomes⟩ := H.exists_outcomes config h s
    have hnone : ((H.answers config h).run s).1.outcomes = [] := by
      rw [houtcomes]
      unfold outcomes
      rw [hsign]
      rfl
    rw [hnone, List.zip_nil_right]
    rfl

end

/-! ## Imports -/

/-- Between two logs stand the warnings that the report of a session counts: of labels, of layouts
and of functions, in this order. -/
structure ImportSession.Warns (session : ImportSession) (answers : Answers)
    (before after : Array LogLine) : Prop where
  texts : warnTexts after.toList = warnTexts before.toList ++
    (answers.labelTexts session.catalog ++ session.report.warnings.map LayoutWarning.message ++
      answers.outcomeTexts session.handles)
  labels : (answers.labelTexts session.catalog).length =
    (session.report.labels.map LabelReport.failed).getD 0
  functions : (answers.outcomeTexts session.handles).length =
    (session.report.functions.map SignatureReport.failed).getD 0

theorem Host.importDump_session_warns {σ : Type} (H : Host σ) {config : ImportConfig}
    {source : ChunkSource} {session : ImportSession} {site site' : Site σ}
    (hok : (H.importDump config source).run.run site = (.ok session, site')) :
    session.Warns ((H.answers config session.handles).run site.host).1 site.log site'.log := by
  obtain ⟨lines, rfl, hreport, hlines⟩ := H.importDump_ok config hok
  constructor
  case texts =>
    rw [Site.moveTo, Array.toList_append, warnTexts_append, hlines]
  case labels =>
    rw [hreport]
    exact H.length_labelTexts config session.handles site.host
  case functions =>
    rw [hreport]
    exact H.length_outcomeTexts config session.handles site.host

/-- An import that succeeds warns of every label that is refused, of whatever its report warns of,
and of every function with something refused, in this order and of nothing else. -/
theorem importDump_warns {config : ImportConfig} {source : ChunkSource} {ws : Workspace}
    {session : ImportSession} (hok : (importDump config source ws).result = .ok session) :
    ∃ answers : Answers,
      (targetHost.answers config session.handles).run ws.target =
          (answers, (importDump config source ws).workspace.target) ∧
        session.Warns answers ws.log (importDump config source ws).workspace.log := by
  have htarget := targetHost_importDump config source ws
  rw [hok, inWords_ok] at htarget
  obtain ⟨lines, hsite, -⟩ := targetHost.importDump_ok config htarget
  have hhost := congrArg Site.host hsite
  exact ⟨_, Prod.ext rfl hhost.symm, targetHost.importDump_session_warns htarget⟩

theorem node_warns :
    ∃ session, (importDump {} nodeSource blankWorkspace).result = .ok session ∧
      ∃ answers : Answers,
        (targetHost.answers {} session.handles).run blankWorkspace.target =
            (answers, (importDump {} nodeSource blankWorkspace).workspace.target) ∧
          session.Warns answers blankWorkspace.log
            (importDump {} nodeSource blankWorkspace).workspace.log := by
  obtain ⟨c, hload, hsize⟩ := exists_load_nodeSource
  have hroom : blankWorkspace.program.structs.size + c.size ≤ Program.structBound := by
    rw [hsize]
    decide
  obtain ⟨session, hok⟩ : ∃ session,
      (importDump {} nodeSource blankWorkspace).result = .ok session :=
    importDump_of_room hload (Target.isOpen_ofProgram _) hroom
  exact ⟨session, hok, importDump_warns hok⟩

end TypeRecovery
