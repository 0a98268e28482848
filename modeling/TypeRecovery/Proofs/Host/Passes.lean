import TypeRecovery.Proofs.Host.Answers

/-!
# Imports by their answers

An import counts and logs as it goes. Neither is read again on the way, so one that succeeds asks
what it would ask without them, and its report and its warnings follow from the answers.
-/

namespace TypeRecovery

/-! ## Steps -/

/-- The host has come to another state, and lines were logged on the way. -/
def Site.moveTo {σ : Type} (site : Site σ) (s : σ) (lines : List LogLine) : Site σ :=
  ⟨s, site.log ++ lines.toArray⟩

@[simp] theorem Site.moveTo_nil {σ : Type} (site : Site σ) (s : σ) :
    site.moveTo s [] = ⟨s, site.log⟩ := by
  simp [moveTo]

@[simp] theorem Site.moveTo_moveTo {σ : Type} (site : Site σ) (s s' : σ)
    (lines more : List LogLine) :
    (site.moveTo s lines).moveTo s' more = site.moveTo s' (lines ++ more) := by
  simp [moveTo]

namespace Host

variable {σ α β ε : Type}

theorem run_say {level : LogLevel} {message : String} {site : Site σ} :
    (say level message : StateM (Site σ) Unit).run site =
      ((), site.moveTo site.host [⟨level, message⟩]) := rfl

theorem run_run_say {level : LogLevel} {message : String} {site : Site σ} :
    (say level message : ExceptT String (StateM (Site σ)) Unit).run.run site =
      (.ok (), site.moveTo site.host [⟨level, message⟩]) := rfl

theorem run_run_bind_eq_ok {x : ExceptT String (StateM (Site σ)) α}
    {f : α → ExceptT String (StateM (Site σ)) β} {site site' : Site σ} {b : β}
    (h : (x >>= f).run.run site = (.ok b, site')) :
    ∃ a site₁, x.run.run site = (.ok a, site₁) ∧ (f a).run.run site₁ = (.ok b, site') := by
  rw [run_run_bind] at h
  rcases hx : x.run.run site with ⟨result, site₁⟩
  rw [hx] at h
  cases result with
  | ok a => exact ⟨a, site₁, rfl, h⟩
  | error text => cases h

theorem run_discard (x : StateM σ α) (s : σ) : (discard x).run s = ((), (x.run s).2) := rfl

theorem run_forM_cons (settle : α → StateM σ Unit) (a : α) (as : List α) (s : σ) :
    ((a :: as).forM settle).run s = (as.forM settle).run ((settle a).run s).2 := rfl

theorem run_mapM_cons (settle : α → StateM σ ε) (a : α) (as : List α) (s : σ) :
    ((a :: as).mapM settle).run s =
      (((settle a).run s).1 :: ((as.mapM settle).run ((settle a).run s).2).1,
        ((as.mapM settle).run ((settle a).run s).2).2) := by
  rw [List.mapM_cons]
  rfl

/-! ## Passes -/

/-- A step of a pass asks what `settle` asks, counts the answer and warns of it. -/
def Tallies (step : β → α → StateM (Site σ) β) (settle : α → StateM σ ε)
    (count : β → ε → β) (texts : α → ε → List String) : Prop :=
  ∀ report a site, ∃ lines,
    (step report a).run site =
        (count report ((settle a).run site.host).1,
          site.moveTo ((settle a).run site.host).2 lines) ∧
      warnTexts lines = texts a ((settle a).run site.host).1

/-- Such a pass counts and warns as if it had asked everything first. -/
theorem Tallies.foldlM {step : β → α → StateM (Site σ) β} {settle : α → StateM σ ε}
    {count : β → ε → β} {texts : α → ε → List String} (h : Tallies step settle count texts)
    (as : List α) (report : β) (site : Site σ) :
    ∃ lines,
      (as.foldlM step report).run site =
          (((as.mapM settle).run site.host).1.foldl count report,
            site.moveTo ((as.mapM settle).run site.host).2 lines) ∧
        warnTexts lines =
          (as.zip ((as.mapM settle).run site.host).1).flatMap
            fun (a, answer) => texts a answer := by
  induction as generalizing report site with
  | nil => exact ⟨[], Prod.ext rfl (site.moveTo_nil _).symm, rfl⟩
  | cons a as ih =>
    obtain ⟨lines, hrun, hwarns⟩ := h report a site
    obtain ⟨more, hrest, hmore⟩ := ih (count report ((settle a).run site.host).1)
      (site.moveTo ((settle a).run site.host).2 lines)
    refine ⟨lines ++ more, ?_, ?_⟩
    · rw [List.foldlM_cons, run_bind, hrun, hrest, run_mapM_cons, List.foldl_cons,
        Site.moveTo_moveTo]
      rfl
    · rw [warnTexts_append, hwarns, hmore, run_mapM_cons, List.zip_cons_cons, List.flatMap_cons]
      rfl

/-! ## Labels -/

variable {ρ : Type} {c : Catalog} (H : Host σ) (config : ImportConfig)

theorem labelType_tallies (start : String) :
    Tallies (H.labelType start : LabelReport → TypeRecord ρ → _) (H.labelAnswer start)
      LabelReport.count labelTexts := by
  intro report r site
  unfold labelType labelAnswer
  rw [run_bind, run_ask]
  rcases (H.label r.definitionAddress (start ++ r.fullName)).run site.host with ⟨answer, s⟩
  cases answer with
  | ok u => exact ⟨[], Prod.ext rfl (site.moveTo_nil _).symm, rfl⟩
  | error text => exact ⟨[⟨.warn, _⟩], rfl, rfl⟩

theorem labelStage_run (site : Site σ) :
    ∃ lines,
      (H.labelStage config c).run site =
          (if config.labelTypes then
            some (((H.labelAnswers config c).run site.host).1.foldl LabelReport.count {})
          else none,
            site.moveTo ((H.labelAnswers config c).run site.host).2 lines) ∧
        warnTexts lines =
          (c.toList.zip ((H.labelAnswers config c).run site.host).1).flatMap fun (r, answer) =>
            labelTexts r answer := by
  unfold labelStage labelAnswers
  split
  · obtain ⟨lines, hrun, hwarns⟩ := (H.labelType_tallies config.labelStart).foldlM c.toList {}
      (site.moveTo site.host [⟨.info, "First scan, add type def label"⟩])
    refine ⟨⟨.info, "First scan, add type def label"⟩ :: lines, ?_, hwarns⟩
    unfold labelTypes
    rw [run_bind, run_say, run_bind, hrun, Site.moveTo_moveTo]
    rfl
  · refine ⟨[], Prod.ext rfl (site.moveTo_nil _).symm, ?_⟩
    show [] = (c.toList.zip []).flatMap _
    rw [List.zip_nil_right]
    rfl

/-! ## Functions -/

/-- The number of a function that has its name, and the count of that. -/
def countNamed (report : SignatureReport) :
    Naming × Except String UInt64 → Option UInt64 × SignatureReport
  | (naming, .ok function) => (some function, report.countNaming naming)
  | (_, .error _) => (none, { report with failed := report.failed + 1 })

def namingTexts (plan : FunctionPlan) : Naming × Except String UInt64 → List String
  | (_, .ok _) => []
  | (naming, .error text) => outcomeTexts plan (.unnamed naming text)

theorem nameFunction_run (plan : FunctionPlan) (report : SignatureReport) (site : Site σ) :
    ∃ lines,
      (H.nameFunction plan report).run site =
          (countNamed report ((H.naming plan).run site.host).1,
            site.moveTo ((H.naming plan).run site.host).2 lines) ∧
        warnTexts lines = namingTexts plan ((H.naming plan).run site.host).1 := by
  unfold nameFunction naming
  rw [run_bind, run_ask, run_bind]
  rcases (H.functionAt plan.address).run site.host with ⟨found, s⟩
  cases found with
  | some function =>
    simp only
    rw [run_bind, run_ask, run_bind]
    rcases (H.renameFunction function plan.name).run s with ⟨answer, s'⟩
    cases answer with
    | ok u => exact ⟨[], Prod.ext rfl (site.moveTo_nil _).symm, rfl⟩
    | error text => exact ⟨[⟨.warn, _⟩], rfl, rfl⟩
  | none =>
    simp only
    rw [run_bind, run_ask, run_bind]
    rcases (H.createFunction plan.address plan.name).run s with ⟨answer, s'⟩
    cases answer with
    | ok function => exact ⟨[], Prod.ext rfl (site.moveTo_nil _).symm, rfl⟩
    | error text => exact ⟨[⟨.warn, _⟩], rfl, rfl⟩

theorem signFunction_run (plan : FunctionPlan) (function : UInt64) (naming : Naming)
    (report : SignatureReport) (site : Site σ) :
    ∃ lines,
      (H.signFunction plan function (report.countNaming naming)).run site =
          (report.count ((H.signing plan function naming).run site.host).1,
            site.moveTo ((H.signing plan function naming).run site.host).2 lines) ∧
        warnTexts lines = outcomeTexts plan ((H.signing plan function naming).run site.host).1 := by
  unfold signFunction signing
  rw [run_bind, run_ask, run_bind]
  rcases (H.applySignature function plan.signature).run site.host with ⟨answer, s⟩
  cases answer with
  | ok u => exact ⟨[⟨.debug, _⟩], rfl, rfl⟩
  | error text => exact ⟨[⟨.warn, _⟩], rfl, rfl⟩

theorem applyPlan_tallies :
    Tallies H.applyPlan H.outcome SignatureReport.count outcomeTexts := by
  intro report plan site
  unfold applyPlan outcome
  split
  · exact ⟨[], Prod.ext rfl (site.moveTo_nil _).symm, rfl⟩
  · obtain ⟨lines, hrun, hwarns⟩ := H.nameFunction_run plan report site
    rw [run_bind, hrun, run_bind]
    rcases hnaming : (H.naming plan).run site.host with ⟨⟨naming, answer⟩, s⟩
    rw [hnaming] at hwarns
    cases answer with
    | error text => exact ⟨lines, rfl, hwarns⟩
    | ok function =>
      obtain ⟨more, hrest, hmore⟩ := H.signFunction_run plan function naming report
        (site.moveTo s lines)
      rw [Site.moveTo_moveTo] at hrest
      refine ⟨lines ++ more, hrest, ?_⟩
      rw [warnTexts_append, hwarns]
      exact hmore

theorem signatureStage_run (h : Handles c) (site : Site σ) :
    ∃ lines,
      (H.signatureStage config h).run site =
          (if config.applySignatures then
            some (((H.outcomes config h).run site.host).1.foldl SignatureReport.count {})
          else none,
            site.moveTo ((H.outcomes config h).run site.host).2 lines) ∧
        warnTexts lines =
          ((functionPlans h).zip ((H.outcomes config h).run site.host).1).flatMap
            fun (plan, outcome) => outcomeTexts plan outcome := by
  unfold signatureStage outcomes
  split
  · obtain ⟨lines, hrun, hwarns⟩ := H.applyPlan_tallies.foldlM (functionPlans h) {}
      (site.moveTo site.host [⟨.info, "Add all methods..."⟩])
    unfold applySignatures
    rw [run_bind, run_say, run_bind, run_bind, hrun, Site.moveTo_moveTo, run_bind, run_say,
      Site.moveTo_moveTo]
    refine ⟨_, rfl, ?_⟩
    rw [warnTexts_append, warnTexts_append]
    exact (List.append_nil _).trans hwarns
  · refine ⟨[], Prod.ext rfl (site.moveTo_nil _).symm, ?_⟩
    show [] = ((functionPlans h).zip []).flatMap _
    rw [List.zip_nil_right]
    rfl

/-! ## Structures -/

-- These stages may fail, so only what follows from their success is said of them.

theorem represent_ok {category : String} {r : TypeRecord ρ} {site site' : Site σ}
    {x : Representation} (h : (H.represent category r).run.run site = (.ok x, site')) :
    ∃ lines, site' = site.moveTo ((H.askStruct category r).run site.host).2 lines ∧
      warnTexts lines = [] := by
  unfold represent at h
  unfold askStruct
  cases hr : scalarOfSystemType? r.systemType with
  | some kind =>
    rw [hr] at h
    cases h
    exact ⟨[], (site.moveTo_nil _).symm, rfl⟩
  | none =>
    rw [hr] at h
    simp only at h ⊢
    rw [run_run_bind, run_run_ask] at h
    rw [run_discard]
    rcases hanswer : (H.define category r.fullName r.size .replace).run site.host with ⟨answer, s⟩
    rw [hanswer] at h
    cases answer with
    | some handle =>
      cases h
      exact ⟨[⟨.debug, _⟩], rfl, rfl⟩
    | none => cases h

theorem representAll_ok {category : String} {rs : List (TypeRecord ρ)} {site site' : Site σ}
    {xs : { l : List Representation // l.length = rs.length }}
    (h : (H.representAll category rs).run.run site = (.ok xs, site')) :
    ∃ lines, site' = site.moveTo ((rs.forM (H.askStruct category)).run site.host).2 lines ∧
      warnTexts lines = [] := by
  induction rs generalizing site with
  | nil =>
    cases h
    exact ⟨[], (Site.moveTo_nil ..).symm, rfl⟩
  | cons r rs ih =>
    rw [representAll] at h
    obtain ⟨x, site₁, hx, h⟩ := run_run_bind_eq_ok h
    obtain ⟨⟨xs', hxs'⟩, site₂, hrest, h⟩ := run_run_bind_eq_ok h
    cases h
    obtain ⟨lines, rfl, hlines⟩ := H.represent_ok hx
    obtain ⟨more, rfl, hmore⟩ := ih hrest
    refine ⟨lines ++ more, ?_, ?_⟩
    · rw [Site.moveTo_moveTo, run_forM_cons]
      rfl
    · rw [warnTexts_append, hlines, hmore]
      rfl

theorem register_ok {category : String} {h : Handles c} {site site' : Site σ}
    (hok : (H.register c category).run.run site = (.ok h, site')) :
    ∃ lines, site' = site.moveTo ((c.toList.forM (H.askStruct category)).run site.host).2 lines ∧
      warnTexts lines = [] := by
  unfold register at hok
  obtain ⟨⟨xs, hxs⟩, site₁, hall, hok⟩ := run_run_bind_eq_ok hok
  obtain ⟨lines, rfl, hlines⟩ := H.representAll_ok hall
  cases hok
  refine ⟨_, Site.moveTo_moveTo .., ?_⟩
  rw [warnTexts_append, hlines]
  rfl

/-! ## Layouts -/

theorem warnTexts_progressLines (interval : UInt64) (i : Nat) :
    warnTexts (progressLines interval i) = [] := by
  unfold progressLines
  split <;> rfl

theorem warnTexts_warningLines (warnings : List LayoutWarning) :
    warnTexts (warningLines warnings) = warnings.map LayoutWarning.message := by
  unfold warnTexts warningLines
  induction warnings with
  | nil => rfl
  | cons w warnings ih => exact congrArg (w.message :: ·) ih

theorem resolveType_ok {h : Handles c} {sampleLength : UInt32} {interval : UInt64}
    {report report' : ResolveReport} {i : c.Index} {site site' : Site σ}
    (hok : (H.resolveType h sampleLength interval report i).run.run site = (.ok report', site')) :
    report' = report.count h sampleLength i ∧
      ∃ lines, site' = site.moveTo ((H.askLayout h sampleLength i).run site.host).2 lines ∧
        warnTexts lines = (layoutWarnings h sampleLength [i]).map LayoutWarning.message := by
  unfold resolveType at hok
  rw [run_run_bind, run_run_sayAll] at hok
  unfold askLayout ResolveReport.count layoutWarnings needsLayout
  cases hi : layoutHandle? h i with
  | none =>
    rw [hi] at hok
    cases hok
    refine ⟨rfl, progressLines interval i, rfl, ?_⟩
    simp [warnTexts_progressLines, hi]
  | some handle =>
    rw [hi] at hok
    simp only at hok ⊢
    rw [run_run_bind, run_run_sayAll] at hok
    simp only at hok
    rw [run_run_bind, run_run_ask] at hok
    rw [run_discard]
    rcases hanswer : (H.rebuild handle (layout h sampleLength i).members).run site.host with
      ⟨answer, s⟩
    simp only [hanswer] at hok
    cases answer with
    | error text => cases hok
    | ok u =>
      cases hok
      refine ⟨rfl, _, Site.moveTo_moveTo site site.host s _ _, ?_⟩
      simp [warnTexts_progressLines, warnTexts_warningLines, hi]

theorem layoutWarnings_cons (h : Handles c) (sampleLength : UInt32) (i : c.Index)
    (is : List c.Index) :
    layoutWarnings h sampleLength (i :: is) =
      layoutWarnings h sampleLength [i] ++ layoutWarnings h sampleLength is := by
  unfold layoutWarnings
  rw [← List.flatMap_append, ← List.filter_append]
  rfl

theorem foldlM_resolveType_ok {h : Handles c} {sampleLength : UInt32} {interval : UInt64}
    {is : List c.Index} {report report' : ResolveReport} {site site' : Site σ}
    (hok : (is.foldlM (H.resolveType h sampleLength interval) report).run.run site =
      (.ok report', site')) :
    report' = is.foldl (·.count h sampleLength) report ∧
      ∃ lines, site' = site.moveTo ((is.forM (H.askLayout h sampleLength)).run site.host).2 lines ∧
        warnTexts lines = (layoutWarnings h sampleLength is).map LayoutWarning.message := by
  induction is generalizing report site with
  | nil =>
    cases hok
    exact ⟨rfl, [], (Site.moveTo_nil ..).symm, rfl⟩
  | cons i is ih =>
    rw [List.foldlM_cons] at hok
    obtain ⟨report₁, site₁, hi, hok⟩ := run_run_bind_eq_ok hok
    obtain ⟨rfl, lines, rfl, hlines⟩ := H.resolveType_ok hi
    obtain ⟨rfl, more, rfl, hmore⟩ := ih hok
    refine ⟨rfl, lines ++ more, Site.moveTo_moveTo .., ?_⟩
    rw [warnTexts_append, hlines, hmore, layoutWarnings_cons h sampleLength i is, List.map_append]

theorem foldl_count (h : Handles c) (sampleLength : UInt32) (is : List c.Index)
    (report : ResolveReport) :
    is.foldl (·.count h sampleLength) report =
      { resolved := report.resolved + is.countP (needsLayout h)
        skipped := report.skipped + is.countP fun i => !needsLayout h i
        warnings := report.warnings ++ layoutWarnings h sampleLength is } := by
  induction is generalizing report with
  | nil => simp [layoutWarnings]
  | cons i is ih =>
    rw [List.foldl_cons, ih, layoutWarnings_cons h sampleLength i is]
    unfold ResolveReport.count
    cases hi : needsLayout h i with
    | true =>
      simp [layoutWarnings, hi]
      omega
    | false =>
      simp [layoutWarnings, hi]
      omega

theorem resolve_ok {h : Handles c} {sampleLength : UInt32} {interval : UInt64}
    {report : ResolveReport} {site site' : Site σ}
    (hok : (H.resolve h sampleLength interval).run.run site = (.ok report, site')) :
    report =
        { resolved := (List.finRange c.size).countP (needsLayout h)
          skipped := (List.finRange c.size).countP fun i => !needsLayout h i
          warnings := layoutWarnings h sampleLength (List.finRange c.size) } ∧
      ∃ lines,
        site' = site.moveTo
            (((List.finRange c.size).forM (H.askLayout h sampleLength)).run site.host).2 lines ∧
          warnTexts lines =
            (layoutWarnings h sampleLength (List.finRange c.size)).map LayoutWarning.message := by
  unfold resolve at hok
  obtain ⟨report', site₁, hall, hok⟩ := run_run_bind_eq_ok hok
  obtain ⟨hreport, lines, rfl, hlines⟩ := H.foldlM_resolveType_ok hall
  rw [foldl_count] at hreport
  cases hok
  refine ⟨?_, _, Site.moveTo_moveTo .., ?_⟩
  · simpa using hreport
  · rw [warnTexts_append, hlines]
    exact List.append_nil _

/-! ## Imports -/

theorem importCatalog_ok {session : ImportSession} {site site' : Site σ}
    (hok : (H.importCatalog config c).run.run site = (.ok session, site')) :
    ∃ (h : Handles c) (lines : List LogLine),
      session = ⟨c, h, ((H.answers config h).run site.host).1.report config h⟩ ∧
      site' = site.moveTo ((H.answers config h).run site.host).2 lines ∧
      warnTexts lines =
        ((H.answers config h).run site.host).1.labelTexts c ++
          (layoutWarnings h config.sampleLength (List.finRange c.size)).map LayoutWarning.message ++
          ((H.answers config h).run site.host).1.outcomeTexts h := by
  unfold importCatalog at hok
  obtain ⟨labels, site₁, hlabels, hok⟩ := run_run_bind_eq_ok hok
  obtain ⟨u, site₂, hsay, hok⟩ := run_run_bind_eq_ok hok
  obtain ⟨h, site₃, hregister, hok⟩ := run_run_bind_eq_ok hok
  obtain ⟨u, site₄, hsay', hok⟩ := run_run_bind_eq_ok hok
  obtain ⟨resolved, site₅, hresolve, hok⟩ := run_run_bind_eq_ok hok
  obtain ⟨functions, site₆, hfunctions, hok⟩ := run_run_bind_eq_ok hok
  -- Each stage starts where the one before it left the host, and adds its lines behind the others.
  obtain ⟨first, hrun, hfirst⟩ := H.labelStage_run config site
  rw [run_run_lift, hrun] at hlabels
  cases hlabels
  rw [run_run_say, Site.moveTo_moveTo] at hsay
  cases hsay
  obtain ⟨second, rfl, hsecond⟩ := H.register_ok hregister
  rw [run_run_say] at hsay'
  cases hsay'
  obtain ⟨rfl, third, rfl, hthird⟩ := H.resolve_ok hresolve
  simp only [Site.moveTo_moveTo] at hfunctions
  obtain ⟨fourth, hrun', hfourth⟩ := H.signatureStage_run config h (site.moveTo _ _)
  rw [run_run_lift, hrun', Site.moveTo_moveTo] at hfunctions
  cases hfunctions
  rw [run_run_bind, run_run_say, Site.moveTo_moveTo] at hok
  cases hok
  refine ⟨h, _, rfl, rfl, ?_⟩
  simp only [warnTexts_append, hfirst, hsecond, hthird, hfourth, warnTexts_info, List.append_nil]
  rfl

-- A load announces what it finds and warns of nothing.

theorem warnTexts_probe (source : ChunkSource) (stride : Nat) (positive : 0 < stride)
    (start : Nat) : warnTexts (probe source stride positive start).log = [] := by
  fun_induction probe source stride positive start with
  | case1 => rfl
  | case2 => rfl
  | case3 => rfl
  | case4 start chunk _ _ _ ih =>
    unfold Probing.behind
    rw [warnTexts_append, ih]
    rfl
  | case5 => rfl

theorem warnTexts_load (source : ChunkSource) (chunkSize : UInt32) :
    warnTexts (load source chunkSize).log = [] := by
  unfold load
  split
  · simp only
    split
    · exact warnTexts_probe ..
    · split
      · exact warnTexts_probe ..
      · rw [warnTexts_append, warnTexts_probe]
        rfl
  · rfl

theorem importDump_ok {source : ChunkSource} {session : ImportSession} {site site' : Site σ}
    (hok : (H.importDump config source).run.run site = (.ok session, site')) :
    ∃ lines,
      site' = site.moveTo ((H.answers config session.handles).run site.host).2 lines ∧
      session.report =
        ((H.answers config session.handles).run site.host).1.report config session.handles ∧
      warnTexts lines =
        ((H.answers config session.handles).run site.host).1.labelTexts session.catalog ++
          session.report.warnings.map LayoutWarning.message ++
          ((H.answers config session.handles).run site.host).1.outcomeTexts session.handles := by
  unfold importDump at hok
  simp only at hok
  rw [run_run_bind, run_run_sayAll] at hok
  cases hload : (load source config.chunkSize).result with
  | error e =>
    rw [hload] at hok
    cases hok
  | ok c =>
    rw [hload] at hok
    obtain ⟨h, lines, rfl, rfl, hlines⟩ := H.importCatalog_ok config hok
    refine ⟨_, Site.moveTo_moveTo site site.host _ _ _, rfl, ?_⟩
    rw [warnTexts_append, warnTexts_load, hlines]
    rfl

end Host

end TypeRecovery
