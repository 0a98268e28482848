import TypeRecovery.Proofs.Catalog.Accepted
import TypeRecovery.Proofs.Import.Slots

/-!
# Namesakes

A type has the structure of its name, and its namesakes have the same one. What the structure holds
is what the last of them put there.
-/

namespace TypeRecovery

variable {c : Catalog}

/-- The last type of a name that has a structure. -/
def lastStructured (c : Catalog) (name : String) : Option c.Record :=
  last? (fun r => r.isStructured && r.fullName = name) c.toList

/-- The last type of a name that gets a layout. -/
def lastLaidOut (h : Handles c) (name : String) : Option c.Index :=
  last? (fun i => needsLayout h i && (c.record i).fullName = name) (List.finRange c.size)

theorem mem_toList {r : c.Record} : r ∈ c.toList ↔ ∃ i, c.record i = r := by
  unfold Catalog.toList Catalog.record
  rw [Vector.mem_toList_iff, Vector.mem_iff_getElem]
  constructor
  · rintro ⟨i, hi, rfl⟩
    exact ⟨⟨i, hi⟩, rfl⟩
  · rintro ⟨i, rfl⟩
    exact ⟨i, i.isLt, rfl⟩

/-! ## Handles by name -/

section

variable {h : Handles c} {category : String} {p : Program} {i j : c.Index} {k : StructHandle}

theorem Handles.NamedIn.exists_handle (hnamed : h.NamedIn category p)
    (hi : (c.record i).isStructured = true) : ∃ k, h.get i = .struct k := by
  have hrep := hnamed i
  unfold Represents at hrep
  unfold TypeRecord.isStructured at hi
  rw [Option.isNone_iff_eq_none] at hi
  rw [hi] at hrep
  obtain ⟨k, hk, -⟩ := hrep
  exact ⟨k, hk⟩

theorem Handles.NamedIn.isStructured (hnamed : h.NamedIn category p) (hi : h.get i = .struct k) :
    (c.record i).isStructured = true := by
  have hrep := hnamed i
  unfold Represents at hrep
  unfold TypeRecord.isStructured
  split at hrep
  · rw [hi] at hrep
    cases hrep
  · rename_i hnone
    rw [hnone]
    rfl

theorem isStructured_of_needsLayout (hnamed : h.NamedIn category p) (hi : needsLayout h i = true) :
    (c.record i).isStructured = true := by
  obtain ⟨k, hk⟩ := Option.isSome_iff_exists.1 hi
  exact hnamed.isStructured (get_of_layoutHandle? hk)

theorem Program.name_eq_of_handleOf? {name name' : String} (hk : p.handleOf? category name = some k)
    (hk' : p.handleOf? category name' = some k) : name = name' := by
  obtain ⟨s, hs, -, rfl⟩ := struct_of_handleOf? hk
  obtain ⟨s', hs', -, rfl⟩ := struct_of_handleOf? hk'
  rw [hs] at hs'
  cases hs'
  rfl

theorem Handles.NamedIn.get_eq_iff (hnamed : h.NamedIn category p)
    (hi : (c.record i).isStructured = true) (hj : (c.record j).isStructured = true) :
    h.get i = h.get j ↔ (c.record i).fullName = (c.record j).fullName := by
  obtain ⟨k, hk⟩ := hnamed.exists_handle hi
  obtain ⟨k', hk'⟩ := hnamed.exists_handle hj
  have hname := hnamed.handleOf? hk
  have hname' := hnamed.handleOf? hk'
  constructor
  · intro heq
    rw [hk, hk'] at heq
    cases heq
    exact Program.name_eq_of_handleOf? hname hname'
  · intro heq
    rw [heq, hname'] at hname
    cases hname
    rw [hk, hk']

theorem definedAt_eq (hnamed : h.NamedIn category p) (hi : h.get i = .struct k) (r : c.Record) :
    definedAt category p k.index r = (r.isStructured && r.fullName = (c.record i).fullName) := by
  unfold definedAt
  congr 1
  have hname := hnamed.handleOf? hi
  rw [decide_eq_decide]
  constructor
  · intro hr
    exact Program.name_eq_of_handleOf? hr hname
  · intro hr
    rw [hr]
    exact hname

theorem laidOutAt_eq (hnamed : h.NamedIn category p) (hi : h.get i = .struct k) (j : c.Index) :
    laidOutAt h k.index j =
      (needsLayout h j && (c.record j).fullName = (c.record i).fullName) := by
  unfold laidOutAt needsLayout
  have hname := hnamed.handleOf? hi
  cases hj : layoutHandle? h j with
  | none => rfl
  | some k' =>
    have hname' := hnamed.handleOf? (get_of_layoutHandle? hj)
    rw [Option.isSome_some, Bool.true_and, decide_eq_decide]
    constructor
    · intro heq
      cases heq
      exact Program.name_eq_of_handleOf? hname' hname
    · intro heq
      rw [heq, hname] at hname'
      exact hname'.symm

end

/-! ## What a structure holds -/

/-- The structures of a catalog's types are told apart by name alone. -/
structure HoldsByName (h : Handles c) (category : String) (sampleLength : UInt32) (p : Program) :
    Prop where
  holds : ∀ i, (c.record i).isStructured = true →
    ∃ k s r, h.get i = .struct k ∧ p.struct? k = some s ∧
      s.category = category ∧ s.name = (c.record i).fullName ∧
      lastStructured c (c.record i).fullName = some r ∧ s.size = r.size ∧
      s.members =
        match lastLaidOut h (c.record i).fullName with
        | some j => (layout h sampleLength j).members
        | none => []
  shared_iff : ∀ i j, (c.record i).isStructured = true → (c.record j).isStructured = true →
    (h.get i = h.get j ↔ (c.record i).fullName = (c.record j).fullName)
  /-- A type without a namesake has its structure to itself. -/
  alone : ∀ i, (c.record i).isStructured = true →
    (∀ j, (c.record j).isStructured = true →
      (c.record j).fullName = (c.record i).fullName → j = i) →
    ∃ k s, h.get i = .struct k ∧ p.struct? k = some s ∧
      s.size = (c.record i).size ∧
      s.members = if needsLayout h i then (layout h sampleLength i).members else []

section

variable {category : String} {sampleLength : UInt32} {interval : UInt64} {h : Handles c}
  {ws ws₁ ws₂ : Workspace} {report : ResolveReport}

theorem struct?_of_run {t : Target}
    (hpasses₁ : t.Passes (defineOperations category c.toList))
    (hnamed : h.NamedIn category (t.run (defineOperations category c.toList)).program)
    (hpasses₂ : (t.run (defineOperations category c.toList)).Passes
      (rebuildOperations h sampleLength (List.finRange c.size)))
    {i : c.Index} {k : StructHandle} (hi : h.get i = .struct k) :
    ∃ r, lastStructured c (c.record i).fullName = some r ∧
      ((t.run (defineOperations category c.toList)).run
        (rebuildOperations h sampleLength (List.finRange c.size))).program.struct? k =
          some ((blankStruct category r).filledBy h sampleLength
            (lastLaidOut h (c.record i).fullName)) := by
  have hdefined := run_defineOperations_structs hpasses₁ (.refl _) k.index
  have hfilled := run_rebuildOperations_structs hpasses₂ hnamed.lt_of_layoutHandle? k.index
  obtain ⟨r, hr⟩ : ∃ r, lastStructured c (c.record i).fullName = some r := by
    cases hlast : lastStructured c (c.record i).fullName with
    | some r => exact ⟨r, rfl⟩
    | none =>
      have := last?_eq_none_iff.1 hlast (c.record i) (mem_toList.2 ⟨i, rfl⟩)
      rw [hnamed.isStructured hi] at this
      simp at this
  refine ⟨r, hr, ?_⟩
  have hlaid : last? (laidOutAt h k.index) (List.finRange c.size) =
      lastLaidOut h (c.record i).fullName := last?_congr fun j _ => laidOutAt_eq hnamed hi j
  have hlast : last? (definedAt category (t.run (defineOperations category c.toList)).program
      k.index) c.toList = some r := by
    rw [← hr]
    exact last?_congr fun r _ => definedAt_eq hnamed hi r
  rw [hlast] at hdefined
  unfold Program.struct?
  rw [hfilled, hlaid, hdefined]
  rfl

theorem struct?_of_registered (hreg : register c category ws = (.ok h, ws₁))
    (hres : resolve h sampleLength interval ws₁ = (.ok report, ws₂)) {i : c.Index}
    {k : StructHandle} (hi : h.get i = .struct k) :
    ∃ r, lastStructured c (c.record i).fullName = some r ∧
      ws₂.program.struct? k = some ((blankStruct category r).filledBy h sampleLength
        (lastLaidOut h (c.record i).fullName)) := by
  obtain ⟨hpasses₁, htarget₁, hnamed⟩ := register_eq_ok hreg
  obtain ⟨hpasses₂, htarget₂⟩ := resolve_eq_ok hres hnamed.lt_of_layoutHandle?
  unfold Workspace.program at hnamed ⊢
  rw [htarget₁] at hnamed hpasses₂ htarget₂
  rw [htarget₂]
  exact struct?_of_run hpasses₁ hnamed hpasses₂ hi

/-- After a catalog was registered and laid out, its structures hold what their names say. -/
theorem register_resolve_holdsByName (hreg : register c category ws = (.ok h, ws₁))
    (hres : resolve h sampleLength interval ws₁ = (.ok report, ws₂)) :
    HoldsByName h category sampleLength ws₂.program := by
  obtain ⟨-, -, hnamed⟩ := register_eq_ok hreg
  refine ⟨?_, ?_, ?_⟩
  · intro i hi
    obtain ⟨k, hk⟩ := hnamed.exists_handle hi
    obtain ⟨r, hr, hs⟩ := struct?_of_registered hreg hres hk
    have hname : r.fullName = (c.record i).fullName := by
      have := (last?_eq_some_iff.1 hr).1
      simp only [Bool.and_eq_true, decide_eq_true_eq] at this
      exact this.2
    refine ⟨k, _, r, hk, hs, Struct.filledBy_category .., ?_, hr, Struct.filledBy_size .., ?_⟩
    · rw [Struct.filledBy_name]
      exact hname
    · cases lastLaidOut h (c.record i).fullName <;> rfl
  · intro i j hi hj
    exact hnamed.get_eq_iff hi hj
  · intro i hi halone
    obtain ⟨k, hk⟩ := hnamed.exists_handle hi
    obtain ⟨r, hr, hs⟩ := struct?_of_registered hreg hres hk
    have hri : r = c.record i := by
      obtain ⟨hfits, before, after, hlist, -⟩ := last?_eq_some_iff.1 hr
      simp only [Bool.and_eq_true, decide_eq_true_eq] at hfits
      obtain ⟨j, rfl⟩ := mem_toList.1 (show r ∈ c.toList by rw [hlist]; simp)
      rw [halone j hfits.1 hfits.2]
    subst hri
    refine ⟨k, _, hk, hs, Struct.filledBy_size .., ?_⟩
    · cases hlast : lastLaidOut h (c.record i).fullName with
      | some j =>
        have hfits := (last?_eq_some_iff.1 hlast).1
        simp only [Bool.and_eq_true, decide_eq_true_eq] at hfits
        obtain rfl := halone j (isStructured_of_needsLayout hnamed hfits.1) hfits.2
        rw [if_pos hfits.1]
        rfl
      | none =>
        have hfits := last?_eq_none_iff.1 hlast i (List.mem_finRange i)
        simp only [decide_true, Bool.and_true] at hfits
        rw [hfits]
        rfl

end

/-! ## Two types of one name -/

def twin {ρ : Type} (index : ρ) (size : UInt32) : TypeRecord ρ where
  index := index
  fullName := "app.Twin"
  definitionAddress := 0
  isValueType := false
  size := size
  declaredSize := 0
  systemType := 28
  isPlaceholder := false
  isTemplate := false
  base := none
  element := none
  fields := []
  methods := []

def twins : Catalog where
  size := 2
  records := #v[twin 0 16, twin 1 24]
  placed := by decide
  grounded := by decide

theorem ofRecords_twins : Catalog.ofRecords [twin 0 16, twin 1 24] = .ok twins :=
  Catalog.ofRecords_eq_ok_iff.2 ⟨rfl, by decide +kernel, rfl, rfl⟩

def blankWorkspace : Workspace := .ofTarget (.ofProgram .empty)

theorem twins_imported :
    ∃ h report ws₁ ws₂, register twins "/TDB" blankWorkspace = (.ok h, ws₁) ∧
      resolve h 42 0 ws₁ = (.ok report, ws₂) := by
  have hpasses : blankWorkspace.target.Passes (defineOperations "/TDB" twins.toList) := by
    have hplay :
        (blankWorkspace.target.play (defineOperations "/TDB" twins.toList)).1.isNone = true := by
      decide +kernel
    exact (Target.passes_of_play_eq_none (Prod.ext (Option.isNone_iff_eq_none.1 hplay) rfl)).1
  obtain ⟨h, ws₁, hreg⟩ := register_of_passes hpasses
  obtain ⟨-, htarget, hnamed⟩ := register_eq_ok hreg
  have hrefuses : ∀ op, ws₁.target.refuses op = false := by
    intro op
    rw [htarget, Target.run_refuses]
    rfl
  obtain ⟨report, ws₂, hres⟩ := resolve_of_passes 0 hnamed.lt_of_layoutHandle?
    (rebuildOperations_pass hrefuses h 42 _)
  exact ⟨h, report, ws₁, ws₂, hreg, hres⟩

theorem twins_hold_by_name :
    ∃ h report ws₁ ws₂, register twins "/TDB" blankWorkspace = (.ok h, ws₁) ∧
      resolve h 42 0 ws₁ = (.ok report, ws₂) ∧ HoldsByName h "/TDB" 42 ws₂.program := by
  obtain ⟨h, report, ws₁, ws₂, hreg, hres⟩ := twins_imported
  exact ⟨h, report, ws₁, ws₂, hreg, hres, register_resolve_holdsByName hreg hres⟩

/-- The first of two types has the structure of the second, whose size it now has. -/
theorem twins_share_structure :
    ∃ c h report ws₁ ws₂, Catalog.ofRecords [twin 0 16, twin 1 24] = .ok c ∧
      register c "/TDB" blankWorkspace = (.ok h, ws₁) ∧
      resolve h 42 0 ws₁ = (.ok report, ws₂) ∧
      ∃ i j k s, i ≠ j ∧ (c.record i).isStructured = true ∧ (c.record j).isStructured = true ∧
        h.get i = .struct k ∧ h.get j = .struct k ∧ ws₂.program.struct? k = some s ∧
        s.size ≠ (c.record i).size := by
  obtain ⟨h, report, ws₁, ws₂, hreg, hres⟩ := twins_imported
  refine ⟨twins, h, report, ws₁, ws₂, ofRecords_twins, hreg, hres, ?_⟩
  obtain ⟨-, -, hnamed⟩ := register_eq_ok hreg
  have hfirst : (twins.record (0 : Fin 2)).isStructured = true := by decide
  have hsecond : (twins.record (1 : Fin 2)).isStructured = true := by decide
  obtain ⟨k, hk⟩ := hnamed.exists_handle hfirst
  have hsame : h.get (0 : Fin 2) = h.get (1 : Fin 2) := (hnamed.get_eq_iff hfirst hsecond).2 rfl
  obtain ⟨r, hr, hs⟩ := struct?_of_registered hreg hres hk
  have hlast : lastStructured twins (twins.record (0 : Fin 2)).fullName =
      some (twins.record (1 : Fin 2)) := by decide
  rw [hlast] at hr
  cases hr
  have hne : (0 : Fin 2) ≠ 1 := by decide
  refine ⟨(0 : Fin 2), (1 : Fin 2), k, _, hne, hfirst, hsecond, hk, hsame ▸ hk, hs, ?_⟩
  rw [Struct.filledBy_size]
  decide

end TypeRecovery
