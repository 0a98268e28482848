import TypeRecovery.Import.Basic
import TypeRecovery.Proofs.Program.Structs
import Mathlib.Data.List.Forall2

/-!
# What labels and structures ask for

Each stage asks the target for a list of operations. Labels are asked for to the end, structures and
layouts up to the first operation that is fatal.
-/

namespace TypeRecovery

variable {ρ : Type}

/-! ## Labels -/

def labelOperation (start : String) (r : TypeRecord ρ) : Operation :=
  .label r.definitionAddress (start ++ r.fullName)

def labelOperations (config : ImportConfig) (c : Catalog) : List Operation :=
  if config.labelTypes then c.toList.map (labelOperation config.labelStart) else []

theorem labelType_target (start : String) (report : LabelReport) (r : TypeRecord ρ)
    (ws : Workspace) :
    (labelType start report r ws).2.target = (ws.target.attempt (labelOperation start r)).2 := by
  unfold labelType labelOperation
  rw [Workspace.attempt_eq]
  cases (ws.target.attempt (.label r.definitionAddress (start ++ r.fullName))).1 <;> rfl

theorem foldl_labelType_target (start : String) (rs : List (TypeRecord ρ))
    (state : LabelReport × Workspace) :
    (rs.foldl (fun (report, ws) r => labelType start report r ws) state).2.target =
      state.2.target.run (rs.map (labelOperation start)) := by
  induction rs generalizing state with
  | nil => rfl
  | cons r rs ih =>
    rw [List.foldl_cons, ih, labelType_target]
    rfl

theorem labelStage_target (config : ImportConfig) (c : Catalog) (ws : Workspace) :
    (labelStage config c ws).2.target = ws.target.run (labelOperations config c) := by
  unfold labelStage labelOperations
  split
  · exact foldl_labelType_target _ _ _
  · rfl

theorem labelOperations_pass (config : ImportConfig) (c : Catalog) (t : Target) :
    t.Passes (labelOperations config c) := by
  apply Target.passes_of_forall
  intro op hop t' _
  unfold labelOperations at hop
  split at hop
  · obtain ⟨r, -, rfl⟩ := List.mem_map.1 hop
    rfl
  · simp at hop

/-! ## Registration -/

/-- The type has no scalar representation. -/
def TypeRecord.isStructured (r : TypeRecord ρ) : Bool := (scalarOfSystemType? r.systemType).isNone

def defineOperation (category : String) (r : TypeRecord ρ) : Operation :=
  .define category r.fullName r.size .replace

def defineOperations (category : String) (rs : List (TypeRecord ρ)) : List Operation :=
  (rs.filter TypeRecord.isStructured).map (defineOperation category)

theorem defineOperations_cons_of_scalar {category : String} {r : TypeRecord ρ} {kind : ScalarKind}
    (h : scalarOfSystemType? r.systemType = some kind) (rs : List (TypeRecord ρ)) :
    defineOperations category (r :: rs) = defineOperations category rs := by
  unfold defineOperations
  rw [List.filter_cons_of_neg (by simp [TypeRecord.isStructured, h])]

theorem defineOperations_cons_of_none {category : String} {r : TypeRecord ρ}
    (h : scalarOfSystemType? r.systemType = none) (rs : List (TypeRecord ρ)) :
    defineOperations category (r :: rs) =
      defineOperation category r :: defineOperations category rs := by
  unfold defineOperations
  rw [List.filter_cons_of_pos (by simp [TypeRecord.isStructured, h]), List.map_cons]

theorem represent_of_scalar {category : String} {r : TypeRecord ρ} {kind : ScalarKind}
    (h : scalarOfSystemType? r.systemType = some kind) (ws : Workspace) :
    represent category r ws = (.ok (.scalar kind), ws) := by
  unfold represent
  rw [h]

theorem represent_of_none (category : String) {r : TypeRecord ρ}
    (h : scalarOfSystemType? r.systemType = none) (ws : Workspace) :
    (represent category r ws).1 =
        (match ws.target.handle? category r.fullName r.size .replace with
        | some handle => .ok (.struct handle)
        | none => .error (.typeCreationFailed r.fullName)) ∧
      (represent category r ws).2.target = (ws.target.attempt (defineOperation category r)).2 := by
  unfold represent defineOperation
  rw [h, Workspace.define_eq]
  cases ws.target.handle? category r.fullName r.size .replace <;> exact ⟨rfl, rfl⟩

theorem fatal?_defineOperation (t : Target) (category : String) (r : TypeRecord ρ) :
    t.fatal? (defineOperation category r) =
      match t.handle? category r.fullName r.size .replace with
      | some _ => none
      | none => some (.typeCreationFailed r.fullName) := by
  unfold defineOperation
  rw [Target.fatal?_define]
  cases t.handle? category r.fullName r.size .replace <;> rfl

theorem representAll_cons_of_error {category : String} {r : TypeRecord ρ} {ws ws' : Workspace}
    {e : Error} (h : represent category r ws = (.error e, ws')) (rs : List (TypeRecord ρ)) :
    representAll category (r :: rs) ws = (.error e, ws') := by
  rw [representAll, h]

theorem representAll_cons_of_ok {category : String} {r : TypeRecord ρ} {ws ws' : Workspace}
    {x : Representation} (h : represent category r ws = (.ok x, ws')) (rs : List (TypeRecord ρ)) :
    failure? (representAll category (r :: rs) ws).1 = failure? (representAll category rs ws').1 ∧
      (representAll category (r :: rs) ws).2 = (representAll category rs ws').2 := by
  rw [representAll, h]
  simp only
  cases hrest : representAll category rs ws' with
  | mk result ws'' => cases result <;> exact ⟨rfl, rfl⟩

theorem representAll_play (category : String) (rs : List (TypeRecord ρ)) (ws : Workspace) :
    ws.target.play (defineOperations category rs) =
      (failure? (representAll category rs ws).1, (representAll category rs ws).2.target) := by
  induction rs generalizing ws with
  | nil => rfl
  | cons r rs ih =>
    cases hr : scalarOfSystemType? r.systemType with
    | some kind =>
      obtain ⟨hfailure, hws⟩ := representAll_cons_of_ok (represent_of_scalar hr ws) rs
      rw [defineOperations_cons_of_scalar hr, ih, hfailure, hws]
    | none =>
      obtain ⟨hresult, htarget⟩ := represent_of_none category hr ws
      rw [defineOperations_cons_of_none hr, Target.play, fatal?_defineOperation]
      cases hhandle : ws.target.handle? category r.fullName r.size .replace with
      | none =>
        rw [hhandle] at hresult
        rw [representAll_cons_of_error (Prod.ext hresult rfl), htarget]
        rfl
      | some handle =>
        rw [hhandle] at hresult
        obtain ⟨hfailure, hws⟩ := representAll_cons_of_ok (Prod.ext hresult rfl) rs
        rw [hfailure, hws, ← ih, htarget]

/-- A representation is right for a record: its scalar, or the structure of its name. -/
def Represents (category : String) (p : Program) (r : TypeRecord ρ) (x : Representation) : Prop :=
  match scalarOfSystemType? r.systemType with
  | some kind => x = .scalar kind
  | none => ∃ handle, x = .struct handle ∧ p.handleOf? category r.fullName = some handle

theorem Represents.mono {category : String} {p p' : Program} {r : TypeRecord ρ}
    {x : Representation} (h : Represents category p r x) (hp : p.Extends p') :
    Represents category p' r x := by
  unfold Represents at h ⊢
  split
  · rename_i kind hkind
    rwa [hkind] at h
  · rename_i hnone
    rw [hnone] at h
    obtain ⟨handle, rfl, hhandle⟩ := h
    exact ⟨handle, rfl, hp.handleOf? hhandle⟩

theorem handle?_eq_some {t : Target} {category name : String} {size : UInt32}
    {policy : ConflictPolicy} {k : StructHandle}
    (h : t.handle? category name size policy = some k) :
    t.refuses (.define category name size policy) = false ∧
      (t.attempt (.define category name size policy)).2.program =
        t.program.define category name size policy ∧
      (t.program.define category name size policy).handleOf? category name = some k := by
  unfold Target.handle? at h
  unfold Target.attempt at h ⊢
  cases hrefused : t.refuses (.define category name size policy) with
  | true => simp [hrefused] at h
  | false =>
    simp only [hrefused, Bool.false_eq_true, if_false, Program.perform] at h ⊢
    exact ⟨trivial, trivial, h⟩

theorem representAll_represents {category : String} {rs : List (TypeRecord ρ)}
    {ws ws' : Workspace} {xs : { l : List Representation // l.length = rs.length }}
    (h : representAll category rs ws = (.ok xs, ws')) :
    List.Forall₂ (Represents category ws'.program) rs xs.val := by
  induction rs generalizing ws with
  | nil =>
    cases h
    exact .nil
  | cons r rs ih =>
    rw [representAll] at h
    split at h
    · cases h
    · rename_i x ws₁ hx
      split at h
      · cases h
      · rename_i xs' hxs' ws₂ hrest
        cases h
        refine .cons ?_ (ih hrest)
        -- The rest of the registration keeps the handle of this record.
        have hext : ws₁.program.Extends ws'.program := by
          have hplay := representAll_play category rs ws₁
          rw [hrest] at hplay
          obtain ⟨-, htarget⟩ := Target.passes_of_play_eq_none hplay
          show ws₁.target.program.Extends ws'.target.program
          rw [htarget]
          exact Target.run_extends _ _
        refine Represents.mono ?_ hext
        unfold Represents
        cases hr : scalarOfSystemType? r.systemType with
        | some kind =>
          rw [represent_of_scalar hr] at hx
          cases hx
          rfl
        | none =>
          obtain ⟨hresult, htarget⟩ := represent_of_none category hr ws
          rw [hx] at hresult htarget
          cases hhandle : ws.target.handle? category r.fullName r.size .replace with
          | none =>
            rw [hhandle] at hresult
            cases hresult
          | some k =>
            rw [hhandle] at hresult
            cases hresult
            obtain ⟨-, hprogram, hk⟩ := handle?_eq_some hhandle
            refine ⟨k, rfl, ?_⟩
            show ws₁.target.program.handleOf? category r.fullName = some k
            rw [show ws₁.target = _ from htarget, defineOperation, hprogram]
            exact hk

/-- Every type of the catalog has the representation that is right for it. -/
def Handles.NamedIn {c : Catalog} (h : Handles c) (category : String) (p : Program) : Prop :=
  ∀ i, Represents category p (c.record i) (h.get i)

theorem register_play (c : Catalog) (category : String) (ws : Workspace) :
    ws.target.play (defineOperations category c.toList) =
      (failure? (register c category ws).1, (register c category ws).2.target) := by
  rw [representAll_play]
  unfold register
  obtain ⟨result, ws'⟩ := representAll category c.toList ws
  cases result <;> rfl

theorem register_namedIn {c : Catalog} {category : String} {ws ws' : Workspace} {h : Handles c}
    (hreg : register c category ws = (.ok h, ws')) : h.NamedIn category ws'.program := by
  unfold register at hreg
  split at hreg
  · cases hreg
  · rename_i xs hxs ws₁ hall
    cases hreg
    intro i
    have hrep := representAll_represents hall
    have hi : i.val < c.toList.length := by simp [Catalog.toList]
    have := hrep.get hi (by rw [hxs]; exact hi)
    show Represents category ws₁.program (c.record i) _
    simpa [Catalog.toList, Catalog.record, Handles.get, Vector.get] using this

/-- The scalar of a record, or the structure of its name. A name without a structure gets the first
handle, but an import ends before it asks for anything with that. -/
def representationIn (category : String) (p : Program) (r : TypeRecord ρ) : Representation :=
  match scalarOfSystemType? r.systemType with
  | some kind => .scalar kind
  | none => .struct ((p.handleOf? category r.fullName).getD ⟨0⟩)

def handlesIn (c : Catalog) (category : String) (p : Program) : Handles c :=
  ⟨c.records.map (representationIn category p)⟩

theorem Represents.eq_representationIn {category : String} {p : Program} {r : TypeRecord ρ}
    {x : Representation} (h : Represents category p r x) : x = representationIn category p r := by
  unfold Represents at h
  unfold representationIn
  cases hr : scalarOfSystemType? r.systemType with
  | some kind =>
    rw [hr] at h
    exact h
  | none =>
    rw [hr] at h
    obtain ⟨handle, rfl, hhandle⟩ := h
    rw [hhandle]
    rfl

theorem Handles.NamedIn.eq_handlesIn {c : Catalog} {h : Handles c} {category : String} {p : Program}
    (hnamed : h.NamedIn category p) : h = handlesIn c category p := by
  obtain ⟨xs⟩ := h
  unfold handlesIn
  congr 1
  apply Vector.ext
  intro i hi
  rw [Vector.getElem_map]
  exact (hnamed ⟨i, hi⟩).eq_representationIn

theorem Handles.NamedIn.mono {c : Catalog} {h : Handles c} {category : String} {p p' : Program}
    (hnamed : h.NamedIn category p) (hp : p.Extends p') : h.NamedIn category p' :=
  fun i => (hnamed i).mono hp

theorem Handles.NamedIn.handleOf? {c : Catalog} {h : Handles c} {category : String} {p : Program}
    (hnamed : h.NamedIn category p) {i : c.Index} {handle : StructHandle}
    (hi : h.get i = .struct handle) :
    p.handleOf? category (c.record i).fullName = some handle := by
  have hrep := hnamed i
  unfold Represents at hrep
  split at hrep
  · rw [hi] at hrep
    cases hrep
  · obtain ⟨k, hk, hhandle⟩ := hrep
    rw [hi] at hk
    cases hk
    exact hhandle

/-! ## Layouts -/

section

variable {c : Catalog}

theorem get_of_layoutHandle? {h : Handles c} {i : c.Index} {handle : StructHandle}
    (hi : layoutHandle? h i = some handle) : h.get i = .struct handle := by
  unfold layoutHandle? at hi
  split at hi
  · rename_i k hk
    split at hi
    · cases hi
    · cases hi
      exact hk
  · cases hi

def rebuildOperation? (h : Handles c) (sampleLength : UInt32) (i : c.Index) : Option Operation :=
  (layoutHandle? h i).map fun handle => .rebuild handle (layout h sampleLength i).members

def rebuildOperations (h : Handles c) (sampleLength : UInt32) (is : List c.Index) :
    List Operation :=
  is.filterMap (rebuildOperation? h sampleLength)

@[simp] theorem logProgress_target (interval : UInt64) (i : Nat) (ws : Workspace) :
    (logProgress interval i ws).target = ws.target := by
  unfold logProgress
  split <;> rfl

@[simp] theorem logWarnings_target (warnings : List LayoutWarning) (ws : Workspace) :
    (logWarnings warnings ws).target = ws.target := by
  unfold logWarnings
  induction warnings generalizing ws with
  | nil => rfl
  | cons w warnings ih =>
    rw [List.foldl_cons, ih]
    rfl

theorem rebuildOperations_pass {t : Target} (ht : ∀ op, t.refuses op = false) (h : Handles c)
    (sampleLength : UInt32) (is : List c.Index) :
    t.Passes (rebuildOperations h sampleLength is) := by
  apply Target.passes_of_forall
  intro op hop t' ht'
  obtain ⟨i, -, hi⟩ := List.mem_filterMap.1 hop
  unfold rebuildOperation? at hi
  obtain ⟨k, -, rfl⟩ := Option.map_eq_some_iff.1 hi
  rw [Target.fatal?_rebuild, ht', ht]
  rfl

theorem attempt_rebuild {t : Target} {handle : StructHandle} (members : List Member)
    (hlt : handle.index < t.program.structs.size) :
    failure? (t.attempt (.rebuild handle members)).1 = t.fatal? (.rebuild handle members) := by
  rw [Target.fatal?_rebuild]
  unfold Target.attempt
  cases t.refuses (.rebuild handle members) with
  | true => rfl
  | false => simp [Program.perform, Program.rebuild, hlt, failure?]

theorem resolveFrom_play (h : Handles c) (sampleLength : UInt32) (interval : UInt64)
    (is : List c.Index) (report : ResolveReport) (ws : Workspace)
    (hlt : ∀ i handle, layoutHandle? h i = some handle →
      handle.index < ws.program.structs.size) :
    ws.target.play (rebuildOperations h sampleLength is) =
      (failure? (resolveFrom h sampleLength interval is report ws).1,
        (resolveFrom h sampleLength interval is report ws).2.target) := by
  induction is generalizing report ws with
  | nil => rfl
  | cons i is ih =>
    unfold rebuildOperations at ih ⊢
    rw [resolveFrom]
    cases hi : layoutHandle? h i with
    | none =>
      rw [List.filterMap_cons_none (by simp [rebuildOperation?, hi])]
      have := ih { report with skipped := report.skipped + 1 } (logProgress interval i ws)
        (by simpa [Workspace.program] using hlt)
      simpa using this
    | some handle =>
      rw [List.filterMap_cons_some (by rw [rebuildOperation?, hi]; rfl), Target.play,
        ← attempt_rebuild _ (hlt i handle hi)]
      simp only [Workspace.attempt_eq, logWarnings_target, logProgress_target]
      cases hresult : (ws.target.attempt (.rebuild handle (layout h sampleLength i).members)).1 with
      | error e => rfl
      | ok u =>
        simp only [failure?_ok]
        refine ih _ ⟨_, _⟩ ?_
        intro j k hk
        refine Nat.lt_of_lt_of_le (hlt j k hk) ?_
        exact (Target.run_extends ws.target
          [.rebuild handle (layout h sampleLength i).members]).size_le

theorem resolve_play (h : Handles c) (sampleLength : UInt32) (interval : UInt64) (ws : Workspace)
    (hlt : ∀ i handle, layoutHandle? h i = some handle →
      handle.index < ws.program.structs.size) :
    ws.target.play (rebuildOperations h sampleLength (List.finRange c.size)) =
      (failure? (resolve h sampleLength interval ws).1,
        (resolve h sampleLength interval ws).2.target) := by
  rw [resolveFrom_play h sampleLength interval _ {} ws hlt]
  unfold resolve
  obtain ⟨result, ws'⟩ := resolveFrom h sampleLength interval (List.finRange c.size) {} ws
  cases result <;> rfl

end

end TypeRecovery
