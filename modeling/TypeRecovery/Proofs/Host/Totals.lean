import TypeRecovery.Proofs.Host.Forwarding
import TypeRecovery.Proofs.Host.Yielding
import TypeRecovery.Proofs.Import.References

/-!
# Totals

Whatever a host answers, the report of an import that succeeds accounts for every type and every
method.
-/

namespace TypeRecovery

/-! ## Labels -/

theorem LabelReport.foldl_count (answers : List (Except String Unit)) (report : LabelReport) :
    (answers.foldl count report).created + (answers.foldl count report).failed =
      report.created + report.failed + answers.length := by
  induction answers generalizing report with
  | nil => rfl
  | cons answer answers ih =>
    rw [List.foldl_cons, ih, List.length_cons]
    cases answer with
    | ok u => simp only [count]; omega
    | error text => simp only [count]; omega

/-! ## Methods -/

/-- The method has its name but not its signature. -/
def Outcome.isUnsigned : Outcome → Bool
  | .unsigned _ _ => true
  | _ => false

/-- A report accounts for methods that ended so. -/
structure SignatureReport.Accounts (report : SignatureReport) (outcomes : List Outcome) : Prop where
  total : report.skipped + report.applied + report.failed = outcomes.length
  named : report.created + report.renamed = report.applied + outcomes.countP Outcome.isUnsigned
  refused : outcomes.countP Outcome.isUnsigned ≤ report.failed

theorem SignatureReport.Accounts.count {report : SignatureReport} {outcomes : List Outcome}
    (h : report.Accounts outcomes) (outcome : Outcome) :
    (report.count outcome).Accounts (outcomes ++ [outcome]) := by
  obtain ⟨htotal, hnamed, hrefused⟩ := h
  have hlength : (outcomes ++ [outcome]).length = outcomes.length + 1 := List.length_append
  have hcount : (outcomes ++ [outcome]).countP Outcome.isUnsigned =
      outcomes.countP Outcome.isUnsigned + if outcome.isUnsigned then 1 else 0 := by
    rw [List.countP_append, List.countP_singleton]
  cases outcome with
  | skipped | unnamed naming text =>
    simp only [Outcome.isUnsigned, Bool.false_eq_true, if_false] at hcount
    constructor <;> simp only [SignatureReport.count] <;> omega
  | unsigned naming text =>
    simp only [Outcome.isUnsigned, if_true] at hcount
    cases naming <;> constructor <;> simp only [SignatureReport.count, countNaming] <;> omega
  | signed naming =>
    simp only [Outcome.isUnsigned, Bool.false_eq_true, if_false] at hcount
    cases naming <;> constructor <;> simp only [SignatureReport.count, countNaming] <;> omega

theorem SignatureReport.Accounts.foldl {report : SignatureReport} {outcomes : List Outcome}
    (h : report.Accounts outcomes) (more : List Outcome) :
    (more.foldl SignatureReport.count report).Accounts (outcomes ++ more) := by
  induction more generalizing report outcomes with
  | nil =>
    rw [List.append_nil]
    exact h
  | cons outcome more ih =>
    rw [List.foldl_cons, List.append_cons]
    exact ih (h.count outcome)

theorem length_run_mapM {σ α ε : Type} (settle : α → StateM σ ε) (as : List α) (s : σ) :
    ((as.mapM settle).run s).1.length = as.length := by
  induction as generalizing s with
  | nil => rfl
  | cons a as ih =>
    rw [Host.run_mapM_cons, List.length_cons, ih]
    rfl

theorem length_functionPlans {c : Catalog} (h : Handles c) :
    (functionPlans h).length = (c.toList.flatMap TypeRecord.methods).length := by
  unfold functionPlans
  rw [Catalog.toList_eq, List.flatMap_map, List.length_flatMap, List.length_flatMap]
  simp

/-! ## Types -/

theorem Handles.scalarCount_eq {c : Catalog} (h : Handles c) :
    h.scalarCount = (List.finRange c.size).countP fun i => (h.get i).isScalar := by
  have hall : h.representations.toList = (List.finRange c.size).map h.get := by
    apply List.ext_getElem
    · simp
    · intro i hi hi'
      simp [Handles.get, Vector.get]
  unfold scalarCount
  rw [hall, List.countP_map]
  rfl

/-- A scalar gets no layout. -/
theorem Handles.scalarCount_le {c : Catalog} (h : Handles c) :
    h.scalarCount ≤ (List.finRange c.size).countP fun i => !needsLayout h i := by
  rw [h.scalarCount_eq]
  apply List.countP_mono_left
  intro i _ hi
  cases hget : h.get i with
  | scalar kind => simp [needsLayout, layoutHandle?, hget]
  | struct handle =>
    rw [hget] at hi
    cases hi

theorem countP_needsLayout {c : Catalog} (h : Handles c) :
    (List.finRange c.size).countP (needsLayout h) +
      (List.finRange c.size).countP (fun i => !needsLayout h i) = c.size := by
  have hall : (List.finRange c.size).length = _ :=
    List.length_eq_countP_add_countP (needsLayout h)
  rw [List.length_finRange] at hall
  simpa using hall.symm

/-! ## Reports -/

/-- A report accounts for every type and every method of a catalog. -/
structure ImportReport.Accounts (report : ImportReport) (config : ImportConfig) {c : Catalog}
    (h : Handles c) (answers : Answers) : Prop where
  types : report.typeCount = c.size
  laid_out : report.layouts = ((List.finRange c.size).filter (needsLayout h)).length
  layouts : report.layouts + report.layoutsSkipped = report.typeCount
  scalars : report.scalarCount ≤ report.layoutsSkipped
  labels : report.labels.isSome = config.labelTypes
  labelled : ∀ labels, report.labels = some labels →
    labels.created + labels.failed = report.typeCount
  warnings : report.warnings = ((List.finRange c.size).filter (needsLayout h)).flatMap fun i =>
    (layout h config.sampleLength i).warnings
  functions : report.functions.isSome = config.applySignatures
  methods : ∀ functions, report.functions = some functions →
    functions.skipped + functions.applied + functions.failed =
      (c.toList.flatMap TypeRecord.methods).length
  applied : ∀ functions, report.functions = some functions →
    functions.applied ≤ functions.created + functions.renamed
  unsigned : ∀ functions, report.functions = some functions →
    functions.created + functions.renamed - functions.applied =
        answers.outcomes.countP Outcome.isUnsigned ∧
      functions.created + functions.renamed - functions.applied ≤ functions.failed

section

variable {σ : Type} (H : Host σ) (config : ImportConfig) {c : Catalog} (h : Handles c) (s : σ)

theorem Host.length_labels (hlabels : config.labelTypes = true) :
    ((H.answers config h).run s).1.labels.length = c.size := by
  show ((H.labelAnswers config c).run s).1.length = c.size
  unfold labelAnswers
  rw [if_pos hlabels, length_run_mapM, Catalog.length_toList]

theorem Host.exists_outcomes :
    ∃ s', ((H.answers config h).run s).1.outcomes = ((H.outcomes config h).run s').1 := ⟨_, rfl⟩

theorem Host.length_outcomes (hsign : config.applySignatures = true) :
    ((H.answers config h).run s).1.outcomes.length =
      (c.toList.flatMap TypeRecord.methods).length := by
  obtain ⟨s', houtcomes⟩ := H.exists_outcomes config h s
  rw [houtcomes]
  unfold outcomes
  rw [if_pos hsign, length_run_mapM, length_functionPlans]

theorem Host.answers_report_accounts :
    (((H.answers config h).run s).1.report config h).Accounts config h
      ((H.answers config h).run s).1 := by
  have hmethods : ∀ functions,
      (((H.answers config h).run s).1.report config h).functions = some functions →
      config.applySignatures = true ∧
        functions.Accounts ((H.answers config h).run s).1.outcomes := by
    intro functions hfunctions
    obtain ⟨hsign, hreport⟩ := Option.ite_none_right_eq_some.1 hfunctions
    have hstart : SignatureReport.Accounts {} [] := ⟨rfl, rfl, Nat.le_refl 0⟩
    refine ⟨hsign, ?_⟩
    rw [← Option.some.inj hreport]
    exact hstart.foldl _
  constructor
  case types => rfl
  case laid_out => exact List.countP_eq_length_filter
  case layouts => exact countP_needsLayout h
  case scalars => exact h.scalarCount_le
  case warnings => rfl
  case labels =>
    unfold Answers.report
    cases config.labelTypes <;> rfl
  case functions =>
    unfold Answers.report
    cases config.applySignatures <;> rfl
  case labelled =>
    intro labels hlabels
    obtain ⟨hran, hreport⟩ := Option.ite_none_right_eq_some.1 hlabels
    rw [← Option.some.inj hreport, LabelReport.foldl_count, H.length_labels config h s hran]
    exact Nat.zero_add _
  case methods =>
    intro functions hfunctions
    obtain ⟨hsign, haccounts⟩ := hmethods functions hfunctions
    rw [haccounts.total, H.length_outcomes config h s hsign]
  case applied =>
    intro functions hfunctions
    have := (hmethods functions hfunctions).2.named
    omega
  case unsigned =>
    intro functions hfunctions
    have hnamed := (hmethods functions hfunctions).2.named
    have hrefused := (hmethods functions hfunctions).2.refused
    omega

end

/-! ## Imports -/

/-- Whatever a host answers, the report of an import that succeeds accounts for every type and every
method. Imports into workspaces are such imports, with the target as the host. -/
theorem importDump_accounts {σ : Type} (H : Host σ) {config : ImportConfig} {source : ChunkSource}
    {session : ImportSession} {site site' : Site σ}
    (hok : (H.importDump config source).run.run site = (.ok session, site')) :
    session.report.Accounts config session.handles
        ((H.answers config session.handles).run site.host).1 ∧
      site'.host = ((H.answers config session.handles).run site.host).2 ∧
      ∀ ws : Workspace,
        (targetHost.importDump config source).run.run ws.site =
          inWords ((importDump config source ws).result,
            (importDump config source ws).workspace) := by
  obtain ⟨lines, rfl, hreport, -⟩ := H.importDump_ok config hok
  refine ⟨?_, rfl, targetHost_importDump config source⟩
  rw [hreport]
  exact H.answers_report_accounts config session.handles site.host

/-- Counts what it is asked and refuses every other request, but yields structures. -/
def moodyHost : Host Nat where
  label _ _ n := (if n % 2 = 0 then .ok () else .error "not now", n + 1)
  define _ _ _ _ n := (some ⟨n⟩, n + 1)
  rebuild _ _ n := (.ok (), n + 1)
  functionAt address n := (if n % 2 = 0 then none else some address, n + 1)
  createFunction address _ n := (if n % 2 = 0 then .ok address else .error "not now", n + 1)
  renameFunction _ _ n := (if n % 2 = 0 then .ok () else .error "not now", n + 1)
  applySignature _ _ n := (if n % 2 = 0 then .ok () else .error "not now", n + 1)

theorem moodyHost_yields : moodyHost.Yields := ⟨fun _ _ _ _ _ => rfl, fun _ _ _ => rfl⟩

theorem exists_load_nodeSource :
    ∃ c, (load nodeSource defaultChunkSize).result = .ok c ∧ c.size = 2 := by
  obtain ⟨c, hc⟩ : ∃ c, Catalog.ofRecords (recordsInRow nodeTypes) = .ok c :=
    ⟨_, Catalog.ofRecords_eq_ok_iff.2 ⟨rfl, by decide +kernel, rfl, rfl⟩⟩
  exact ⟨c, (load_split (by decide) (by decide)).trans hc, (Catalog.records_of_ofRecords hc).1⟩

theorem moodyHost_accounts :
    ∃ session site', (moodyHost.importDump {} nodeSource).run.run ⟨0, #[]⟩ = (.ok session, site') ∧
      session.report.Accounts {} session.handles
        ((moodyHost.answers {} session.handles).run 0).1 ∧
      site'.host = ((moodyHost.answers {} session.handles).run 0).2 ∧
      ∀ ws : Workspace,
        (targetHost.importDump {} nodeSource).run.run ws.site =
          inWords ((importDump {} nodeSource ws).result,
            (importDump {} nodeSource ws).workspace) := by
  obtain ⟨c, hload, -⟩ := exists_load_nodeSource
  obtain ⟨session, site', hok⟩ := moodyHost_yields.importDump {} hload ⟨0, #[]⟩
  exact ⟨session, site', hok, importDump_accounts moodyHost hok⟩

end TypeRecovery
