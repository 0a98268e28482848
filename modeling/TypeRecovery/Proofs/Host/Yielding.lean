import TypeRecovery.Proofs.Host.Passes

/-!
# Hosts that yield

An import counts and logs what a host refuses, unless that is a structure. A host that refuses none
is imported into.
-/

namespace TypeRecovery

namespace Host

variable {σ ρ : Type} {c : Catalog} (config : ImportConfig)

/-- The host has a structure for every name and lets every structure be rebuilt. -/
structure Yields (H : Host σ) : Prop where
  define : ∀ category name size policy s,
    ((H.define category name size policy).run s).1.isSome = true
  rebuild : ∀ handle members s, ((H.rebuild handle members).run s).1 = .ok ()

variable {H : Host σ} (hH : H.Yields)

include hH

theorem Yields.represent (category : String) (r : TypeRecord ρ) (site : Site σ) :
    ∃ x site', (H.represent category r).run.run site = (.ok x, site') := by
  unfold Host.represent
  cases scalarOfSystemType? r.systemType with
  | some kind => exact ⟨_, _, rfl⟩
  | none =>
    obtain ⟨handle, hhandle⟩ := Option.isSome_iff_exists.1
      (hH.define category r.fullName r.size .replace site.host)
    simp only
    rw [run_run_bind, run_run_ask, hhandle]
    exact ⟨_, _, rfl⟩

theorem Yields.representAll (category : String) (rs : List (TypeRecord ρ)) (site : Site σ) :
    ∃ xs site', (H.representAll category rs).run.run site = (.ok xs, site') := by
  induction rs generalizing site with
  | nil => exact ⟨_, _, rfl⟩
  | cons r rs ih =>
    obtain ⟨x, site₁, hx⟩ := hH.represent category r site
    obtain ⟨⟨xs, hlength⟩, site₂, hxs⟩ := ih site₁
    rw [Host.representAll, run_run_bind, hx]
    simp only
    rw [run_run_bind, hxs]
    exact ⟨_, _, rfl⟩

theorem Yields.resolveType (h : Handles c) (sampleLength : UInt32) (interval : UInt64)
    (report : ResolveReport) (i : c.Index) (site : Site σ) :
    ∃ report' site',
      (H.resolveType h sampleLength interval report i).run.run site = (.ok report', site') := by
  unfold Host.resolveType
  rw [run_run_bind, run_run_sayAll]
  cases layoutHandle? h i with
  | none => exact ⟨_, _, rfl⟩
  | some handle =>
    simp only
    rw [run_run_bind, run_run_sayAll]
    simp only
    rw [run_run_bind, run_run_ask, hH.rebuild]
    exact ⟨_, _, rfl⟩

theorem Yields.foldlM_resolveType (h : Handles c) (sampleLength : UInt32) (interval : UInt64)
    (is : List c.Index) (report : ResolveReport) (site : Site σ) :
    ∃ report' site',
      (is.foldlM (H.resolveType h sampleLength interval) report).run.run site =
        (.ok report', site') := by
  induction is generalizing report site with
  | nil => exact ⟨_, _, rfl⟩
  | cons i is ih =>
    obtain ⟨report₁, site₁, hi⟩ := hH.resolveType h sampleLength interval report i site
    rw [List.foldlM_cons, run_run_bind, hi]
    exact ih report₁ site₁

theorem Yields.register (category : String) (site : Site σ) :
    ∃ h site', (H.register c category).run.run site = (.ok h, site') := by
  obtain ⟨⟨xs, hlength⟩, site₁, hall⟩ := hH.representAll category c.toList site
  unfold Host.register
  rw [run_run_bind, hall]
  exact ⟨_, _, rfl⟩

theorem Yields.resolve (h : Handles c) (sampleLength : UInt32) (interval : UInt64)
    (site : Site σ) :
    ∃ report site', (H.resolve h sampleLength interval).run.run site = (.ok report, site') := by
  obtain ⟨report, site₁, hall⟩ :=
    hH.foldlM_resolveType h sampleLength interval (List.finRange c.size) {} site
  unfold Host.resolve
  rw [run_run_bind, hall]
  exact ⟨_, _, rfl⟩

theorem Yields.importCatalog (site : Site σ) :
    ∃ session site', (H.importCatalog config c).run.run site = (.ok session, site') := by
  obtain ⟨h, site₁, hregister⟩ := hH.register config.category
    (((H.labelStage config c).run site).2.moveTo _ [⟨.info, "Register types..."⟩])
  obtain ⟨report, site₂, hresolve⟩ := hH.resolve h config.sampleLength config.progressInterval
    (site₁.moveTo _ [⟨.info, "Add all fields..."⟩])
  unfold Host.importCatalog
  rw [run_run_bind, run_run_lift]
  simp only
  rw [run_run_bind, run_run_say]
  simp only
  rw [run_run_bind, hregister]
  simp only
  rw [run_run_bind, run_run_say]
  simp only
  rw [run_run_bind, hresolve]
  simp only
  rw [run_run_bind, run_run_lift]
  exact ⟨_, _, rfl⟩

theorem Yields.importDump {source : ChunkSource}
    (hload : (load source config.chunkSize).result = .ok c) (site : Site σ) :
    ∃ session site', (H.importDump config source).run.run site = (.ok session, site') := by
  unfold Host.importDump
  simp only
  rw [run_run_bind, run_run_sayAll, hload]
  exact hH.importCatalog config _

end Host

end TypeRecovery
