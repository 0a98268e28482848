import TypeRecovery.Proofs.Import.Namesakes
import TypeRecovery.Proofs.Program.Parts

/-!
# What an import leaves alone

A catalog names structures, the addresses of its labels and those of its functions. An import of the
catalog, wherever it ends, changes nothing else, and it takes nothing away.
-/

namespace TypeRecovery

/-! ## What a catalog names -/

namespace Catalog

variable (c : Catalog)

/-- A type that has a structure is called so. -/
def NamesStruct (name : String) : Prop :=
  ∃ i, (c.record i).isStructured = true ∧ (c.record i).fullName = name

def NamesLabel (address : UInt64) : Prop := ∃ i, (c.record i).definitionAddress = address

def NamesFunction (address : UInt64) : Prop := ∃ i, ∃ m ∈ (c.record i).methods, m.address = address

end Catalog

namespace Program

/-! ## What is kept -/

/-- Every structure is there at its handle and under its name. Only one that the catalog names in the
category may have another size and other members. -/
structure StructsKept (c : Catalog) (category : String) (p p' : Program) : Prop where
  handles : ∀ category' name k, p.handleOf? category' name = some k →
    p'.handleOf? category' name = some k
  structs : ∀ k s, p.struct? k = some s → ∃ s', p'.struct? k = some s' ∧
    s'.category = s.category ∧ s'.name = s.name ∧
    (¬(s.category = category ∧ c.NamesStruct s.name) → s' = s)

/-- Labels are only added, and only at addresses that the catalog names. -/
structure LabelsKept (c : Catalog) (p p' : Program) : Prop where
  before : ∀ address, p.labelsAt address <+: p'.labelsAt address
  same : ∀ address, ¬c.NamesLabel address → p'.labelsAt address = p.labelsAt address

/-- No function is taken away, and only one that the catalog names is changed. -/
structure FunctionsKept (c : Catalog) (p p' : Program) : Prop where
  stays : ∀ address, (p.function? address).isSome → (p'.function? address).isSome
  same : ∀ address, ¬c.NamesFunction address → p'.function? address = p.function? address

/-- `p'` holds everything that `p` holds, changed at most where the catalog names it. -/
structure KeptBut (c : Catalog) (category : String) (p p' : Program) : Prop where
  regions : p'.regions = p.regions
  structs : StructsKept c category p p'
  labels : LabelsKept c p p'
  functions : FunctionsKept c p p'

section

variable {c : Catalog} {category : String} {p p' p'' : Program}

theorem StructsKept.of_eq (h : p'.structs = p.structs) : StructsKept c category p p' := by
  constructor
  · intro category' name k hk
    unfold handleOf? at hk ⊢
    rw [h]
    exact hk
  · intro k s hs
    unfold struct? at hs ⊢
    rw [h]
    exact ⟨s, hs, rfl, rfl, fun _ => rfl⟩

theorem StructsKept.trans (h : StructsKept c category p p') (h' : StructsKept c category p' p'') :
    StructsKept c category p p'' := by
  constructor
  · intro category' name k hk
    exact h'.handles category' name k (h.handles category' name k hk)
  · intro k s hs
    obtain ⟨s', hs', hcategory, hname, hsame⟩ := h.structs k s hs
    obtain ⟨s'', hs'', hcategory', hname', hsame'⟩ := h'.structs k s' hs'
    refine ⟨s'', hs'', hcategory'.trans hcategory, hname'.trans hname, fun hnot => ?_⟩
    obtain rfl := hsame hnot
    exact hsame' hnot

theorem LabelsKept.of_eq (h : p'.labels = p.labels) : LabelsKept c p p' := by
  have hat : ∀ address, p'.labelsAt address = p.labelsAt address := by
    intro address
    unfold labelsAt
    rw [h]
  exact ⟨fun address => hat address ▸ List.prefix_rfl, fun address _ => hat address⟩

theorem LabelsKept.trans (h : LabelsKept c p p') (h' : LabelsKept c p' p'') :
    LabelsKept c p p'' where
  before address := (h.before address).trans (h'.before address)
  same address hnot := (h'.same address hnot).trans (h.same address hnot)

theorem FunctionsKept.of_eq (h : p'.functions = p.functions) : FunctionsKept c p p' := by
  have hat : ∀ address, p'.function? address = p.function? address := by
    intro address
    unfold function?
    rw [h]
  exact ⟨fun address hsome => by rwa [hat], fun address _ => hat address⟩

theorem FunctionsKept.trans (h : FunctionsKept c p p') (h' : FunctionsKept c p' p'') :
    FunctionsKept c p p'' where
  stays address hsome := h'.stays address (h.stays address hsome)
  same address hnot := (h'.same address hnot).trans (h.same address hnot)

theorem KeptBut.refl (c : Catalog) (category : String) (p : Program) : p.KeptBut c category p :=
  ⟨rfl, .of_eq rfl, .of_eq rfl, .of_eq rfl⟩

theorem KeptBut.trans (h : p.KeptBut c category p') (h' : p'.KeptBut c category p'') :
    p.KeptBut c category p'' where
  regions := h'.regions.trans h.regions
  structs := h.structs.trans h'.structs
  labels := h.labels.trans h'.labels
  functions := h.functions.trans h'.functions

/-! ## One operation -/

variable {name : String} {size : UInt32} {policy : ConflictPolicy} {k : StructHandle}
  {address : UInt64}

theorem StructsKept.modify {f : Struct → Struct} (hk : p.handleOf? category name = some k)
    (hname : c.NamesStruct name) (hf : ∀ s, title (f s) = title s) :
    StructsKept c category p { p with structs := p.structs.modify k.index f } := by
  constructor
  · intro category' name' k' hk'
    refine Extends.handleOf? (extends_of_titles_eq ?_) hk'
    exact map_title_modify k.index hf
  · intro k' s hs
    unfold struct? at hs ⊢
    rw [Array.getElem?_modify, hs]
    by_cases hat : k.index = k'.index
    · obtain ⟨s', hs', hcategory', hname'⟩ := struct_of_handleOf? hk
      rw [hat, hs] at hs'
      cases hs'
      have htitle := Prod.mk.inj (hf s)
      rw [if_pos hat]
      refine ⟨f s, rfl, htitle.1, htitle.2, fun hnot => ?_⟩
      rw [hcategory', hname'] at hnot
      exact absurd ⟨rfl, hname⟩ hnot
    · rw [if_neg hat]
      exact ⟨s, rfl, rfl, rfl, fun _ => rfl⟩

theorem StructsKept.define (hname : c.NamesStruct name) :
    StructsKept c category p (p.define category name size policy) := by
  cases hk : p.handleOf? category name with
  | some k =>
    unfold Program.define
    rw [hk]
    cases policy with
    | replace =>
      exact .modify (f := fun s => { s with size := size, members := [] }) hk hname fun _ => rfl
    | keep => exact .of_eq rfl
  | none =>
    refine ⟨fun _ _ _ => (define_extends ..).handleOf?, fun k s hs => ?_⟩
    rw [define_of_none hk]
    split
    · -- A new structure takes no handle away.
      unfold struct? at hs ⊢
      have hlt := (Array.getElem?_eq_some_iff.1 hs).1
      rw [Array.getElem?_push, if_neg (Nat.ne_of_lt hlt)]
      exact ⟨s, hs, rfl, rfl, fun _ => rfl⟩
    · exact ⟨s, hs, rfl, rfl, fun _ => rfl⟩

theorem LabelsKept.label (haddress : c.NamesLabel address) (h : p.label address name = .ok p') :
    LabelsKept c p p' := by
  obtain ⟨-, rfl⟩ := label_eq_ok_iff.1 h
  constructor
  · intro other
    unfold labelsAt
    rw [AddressMap.find?_insert]
    split
    · rename_i hother
      rw [hother, Option.getD_some]
      split
      · exact List.prefix_rfl
      · exact List.prefix_append _ _
    · exact List.prefix_rfl
  · intro other hnot
    unfold labelsAt
    rw [AddressMap.find?_insert, if_neg]
    rintro rfl
    exact hnot haddress

theorem FunctionsKept.insert (haddress : c.NamesFunction address) (f : Function) :
    FunctionsKept c p { p with functions := p.functions.insert address f } := by
  constructor
  · intro other hsome
    unfold function? at hsome ⊢
    rw [AddressMap.find?_insert]
    split
    · rfl
    · exact hsome
  · intro other hnot
    unfold function?
    rw [AddressMap.find?_insert, if_neg]
    rintro rfl
    exact hnot haddress

end

end Program

/-- Whatever the operation changes, the catalog names it. -/
def Operation.About (c : Catalog) (category : String) (p : Program) : Operation → Prop
  | .label address _ => c.NamesLabel address
  | .define category' name _ _ => category' = category ∧ c.NamesStruct name
  | .rebuild k _ => ∃ name, c.NamesStruct name ∧ p.handleOf? category name = some k
  | .createFunction address _ => c.NamesFunction address
  | .renameFunction address _ => c.NamesFunction address
  | .applySignature address _ => c.NamesFunction address
  | .mapRegion .. => False

namespace Program

variable {c : Catalog} {category : String} {p p' : Program}

theorem perform_keptBut {op : Operation} (hop : op.About c category p)
    (h : p.perform op = .ok p') : p.KeptBut c category p' := by
  have hagree := perform_agreeOutside h
  cases op with
  | label address name =>
    exact ⟨hagree.regions nofun, .of_eq (hagree.structs nofun), .label hop h,
      .of_eq (hagree.functions nofun)⟩
  | define category' name size policy =>
    obtain ⟨rfl, hname⟩ := hop
    cases h
    exact ⟨hagree.regions nofun, .define hname, .of_eq (hagree.labels nofun),
      .of_eq (hagree.functions nofun)⟩
  | rebuild k members =>
    obtain ⟨name, hname, hk⟩ := hop
    obtain ⟨-, rfl⟩ := rebuild_eq_ok_iff.1 h
    exact ⟨rfl, .modify (f := fun s => { s with members }) hk hname fun _ => rfl, .of_eq rfl,
      .of_eq rfl⟩
  | createFunction address name =>
    obtain ⟨-, rfl⟩ := createFunction_eq_ok_iff.1 h
    exact ⟨rfl, .of_eq rfl, .of_eq rfl, .insert hop _⟩
  | renameFunction address name =>
    obtain ⟨f, -, rfl⟩ := renameFunction_eq_ok_iff.1 h
    exact ⟨rfl, .of_eq rfl, .of_eq rfl, .insert hop _⟩
  | applySignature address signature =>
    obtain ⟨f, -, rfl⟩ := applySignature_eq_ok_iff.1 h
    exact ⟨rfl, .of_eq rfl, .of_eq rfl, .insert hop _⟩
  | mapRegion name base data permissions => exact hop.elim

end Program

/-! ## Stages -/

section

variable {c : Catalog} {category : String}

theorem play_keptBut {t : Target} {ops : List Operation}
    (hops : ∀ op ∈ ops, ∀ p, t.program.Extends p → op.About c category p) :
    t.program.KeptBut c category (t.play ops).2.program := by
  have hstep : t.program.KeptBut c category (t.play ops).2.program ∧
      t.program.Extends (t.play ops).2.program := by
    refine Target.play_keeps
      (P := fun p => t.program.KeptBut c category p ∧ t.program.Extends p) ?_ ?_
    · rintro op hop p p' ⟨hkept, hext⟩ h
      exact ⟨hkept.trans (Program.perform_keptBut (hops op hop p hext) h),
        hext.trans (Program.perform_extends h)⟩
    · exact ⟨.refl c category _, .refl _⟩
  exact hstep.1

theorem labelOperation_about {config : ImportConfig} {op : Operation}
    (hop : op ∈ labelOperations config c) (p : Program) : op.About c category p := by
  unfold labelOperations at hop
  split at hop
  · obtain ⟨r, hr, rfl⟩ := List.mem_map.1 hop
    obtain ⟨i, rfl⟩ := mem_toList.1 hr
    exact ⟨i, rfl⟩
  · simp at hop

theorem defineOperation_about {op : Operation} (hop : op ∈ defineOperations category c.toList)
    (p : Program) : op.About c category p := by
  obtain ⟨r, hr, rfl⟩ := List.mem_map.1 hop
  obtain ⟨hmem, hstructured⟩ := List.mem_filter.1 hr
  obtain ⟨i, rfl⟩ := mem_toList.1 hmem
  exact ⟨rfl, i, hstructured, rfl⟩

theorem rebuildOperation_about {h : Handles c} {sampleLength : UInt32} {is : List c.Index}
    {op : Operation} (hop : op ∈ rebuildOperations h sampleLength is) {p : Program}
    (hnamed : h.NamedIn category p) : op.About c category p := by
  obtain ⟨i, -, hi⟩ := List.mem_filterMap.1 hop
  unfold rebuildOperation? at hi
  obtain ⟨k, hk, rfl⟩ := Option.map_eq_some_iff.1 hi
  have hget := get_of_layoutHandle? hk
  exact ⟨_, ⟨i, hnamed.isStructured hget, rfl⟩, hnamed.handleOf? hget⟩

theorem signatureOperation_about {config : ImportConfig} {h : Handles c} {t : Target}
    {op : Operation} (hop : op ∈ signatureOperations config h t) (p : Program) :
    op.About c category p := by
  obtain ⟨i, m, hm, t', hop⟩ := mem_signatureOperations hop
  have haddress : c.NamesFunction m.address := ⟨i, m, hm, rfl⟩
  rcases (FunctionPlan.mem_operations hop).2 with rfl | rfl
  · unfold FunctionPlan.naming
    split <;> exact haddress
  · exact haddress

variable {config : ImportConfig} (ws : Workspace)

theorem labelStage_keptBut :
    ws.program.KeptBut c category (labelStage config c ws).2.program := by
  have hplay : ws.program.KeptBut c category
      (ws.target.play (labelOperations config c)).2.program :=
    play_keptBut fun op hop p _ => labelOperation_about hop p
  rw [Target.play_of_passes (labelOperations_pass config c _), ← labelStage_target] at hplay
  exact hplay

theorem structureStages_keptBut :
    ws.program.KeptBut c config.category (structureStages config c ws).2.program := by
  have hregister := register_play c config.category (ws.info "Register types...")
  have hdefined : ws.program.KeptBut c config.category
      (ws.target.play (defineOperations config.category c.toList)).2.program :=
    play_keptBut fun op hop p _ => defineOperation_about hop p
  rw [Workspace.info_target] at hregister
  rw [hregister] at hdefined
  unfold structureStages
  rcases hreg : register c config.category (ws.info "Register types...") with ⟨result, ws₁⟩
  rw [hreg] at hdefined
  cases result with
  | error e => exact hdefined
  | ok h =>
    obtain ⟨-, -, hnamed⟩ := register_eq_ok hreg
    have hresolve := resolve_play h config.sampleLength config.progressInterval
      (ws₁.info "Add all fields...") hnamed.lt_of_layoutHandle?
    -- Registered structures keep their handles while others are rebuilt.
    have hrebuilt : ws₁.program.KeptBut c config.category (ws₁.target.play
        (rebuildOperations h config.sampleLength (List.finRange c.size))).2.program :=
      play_keptBut fun op hop p hext => rebuildOperation_about hop (hnamed.mono hext)
    rw [Workspace.info_target] at hresolve
    rw [hresolve] at hrebuilt
    rcases hres : resolve h config.sampleLength config.progressInterval
      (ws₁.info "Add all fields...") with ⟨result, ws₂⟩
    rw [hres] at hrebuilt
    simp only [hres]
    cases result with
    | error e => exact hdefined.trans hrebuilt
    | ok report => exact hdefined.trans hrebuilt

theorem signatureStage_keptBut (h : Handles c) :
    ws.program.KeptBut c category (signatureStage config h ws).2.program := by
  have hplay : ws.program.KeptBut c category
      (ws.target.play (signatureOperations config h ws.target)).2.program :=
    play_keptBut fun op hop p _ => signatureOperation_about hop p
  rw [Target.play_of_passes (signatureOperations_pass config h _ _), ← signatureStage_target] at hplay
  exact hplay

theorem importCatalog_keptBut :
    ws.program.KeptBut c config.category (importCatalog config c ws).2.program := by
  have hlabelled : ws.program.KeptBut c config.category (labelStage config c ws).2.program :=
    labelStage_keptBut ws
  have hstructures : (labelStage config c ws).2.program.KeptBut c config.category
      (structureStages config c (labelStage config c ws).2).2.program :=
    structureStages_keptBut (labelStage config c ws).2
  rcases hstages : structureStages config c (labelStage config c ws).2 with ⟨result, ws₁⟩
  rw [hstages] at hstructures
  cases result with
  | error e =>
    rw [importCatalog_of_error hstages]
    exact hlabelled.trans hstructures
  | ok result =>
    obtain ⟨h, resolved⟩ := result
    obtain ⟨-, htarget⟩ := importCatalog_of_ok hstages
    have hsigned : ws₁.program.KeptBut c config.category (signatureStage config h ws₁).2.program :=
      signatureStage_keptBut ws₁ h
    unfold Workspace.program at hsigned ⊢
    rw [htarget]
    exact (hlabelled.trans hstructures).trans hsigned

end

/-! ## Imports -/

/-- An import, whether it ends well or not, keeps everything that its catalog does not name. A dump
that cannot be loaded names nothing. -/
theorem importDump_keeps_unnamed (config : ImportConfig) (source : ChunkSource) (ws : Workspace) :
    match (load source config.chunkSize).result with
    | .error _ => (importDump config source ws).workspace.program = ws.program
    | .ok c => ws.program.KeptBut c config.category (importDump config source ws).workspace.program := by
  cases hload : (load source config.chunkSize).result with
  | error e => exact congrArg Target.program (importDump_of_error hload ws).2
  | ok c =>
    rw [importDump_of_ok hload]
    exact importCatalog_keptBut (ws.append (load source config.chunkSize).log)

end TypeRecovery
