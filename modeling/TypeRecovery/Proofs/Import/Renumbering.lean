import TypeRecovery.Proofs.Import.Namesakes
import TypeRecovery.Proofs.Import.Room
import TypeRecovery.Proofs.Layout.Renaming
import Mathlib.Data.Set.Function

/-!
# The order of a catalog

Types are registered in the order of a catalog, and their structures get handles in that order. In
another order the same names get other handles, and layouts and signatures differ in those alone.
-/

namespace TypeRecovery

namespace Program

def handles (p : Program) : Set StructHandle := {k | ∃ s, p.struct? k = some s}

/-- From the structures of a program to those of the same names in another one. -/
def byName (p p' : Program) (category : String) (k : StructHandle) : StructHandle :=
  match p.struct? k with
  | some s => (p'.handleOf? category s.name).getD k
  | none => k

theorem byName_eq {p p' : Program} {category name : String} {k k' : StructHandle}
    (hk : p.handleOf? category name = some k) (hk' : p'.handleOf? category name = some k') :
    p.byName p' category k = k' := by
  obtain ⟨s, hs, -, rfl⟩ := struct_of_handleOf? hk
  unfold byName struct?
  rw [hs]
  simp only [hk', Option.getD_some]

end Program

variable {c c' : Catalog} {category : String}

theorem exists_get_of_registered {h : Handles c} {ws ws' : Workspace}
    (hreg : register c category ws = (.ok h, ws')) (hempty : ws.program.structs = #[])
    {k : StructHandle} (hk : k ∈ ws'.program.handles) : ∃ i, h.get i = .struct k := by
  obtain ⟨hpasses, htarget, hnamed⟩ := register_eq_ok hreg
  have hprogram : ws'.program = (ws.target.run (defineOperations category c.toList)).program :=
    congrArg Target.program htarget
  have hdefined := run_defineOperations_structs hpasses (p := ws'.program)
    (by rw [hprogram]; exact .refl _) k.index
  obtain ⟨s, hs⟩ := hk
  unfold Program.struct? at hs
  have hbefore : ws.target.program.structs[k.index]? = none := by
    rw [show ws.target.program.structs = #[] from hempty]
    rfl
  rw [← hprogram, hs, hbefore, Option.or_none] at hdefined
  obtain ⟨r, hlast, -⟩ := Option.map_eq_some_iff.1 hdefined.symm
  obtain ⟨hat, before, after, hlist, -⟩ := last?_eq_some_iff.1 hlast
  unfold definedAt at hat
  simp only [Bool.and_eq_true, decide_eq_true_eq] at hat
  obtain ⟨i, rfl⟩ := mem_toList.1 (show r ∈ c.toList by rw [hlist]; simp)
  obtain ⟨k', hk'⟩ := hnamed.exists_handle hat.1
  have hname := hnamed.handleOf? hk'
  rw [hat.2] at hname
  cases hname
  exact ⟨i, hk'⟩

theorem mem_handles_of_get {h : Handles c} {p : Program} (hnamed : h.NamedIn category p)
    {i : c.Index} {k : StructHandle} (hi : h.get i = .struct k) : k ∈ p.handles := by
  obtain ⟨s, hs, -⟩ := Program.struct_of_handleOf? (hnamed.handleOf? hi)
  exact ⟨s, hs⟩

/-! ## Structures of the same names -/

section

variable (e : c.Renaming c')

theorem isStructured_renaming (i : c.Index) :
    (c'.record (e.index i)).isStructured = (c.record i).isStructured := by
  rw [e.record_eq]
  rfl

variable {h : Handles c} {h' : Handles c'} {p p' : Program} (hnamed : h.NamedIn category p)
  (hnamed' : h'.NamedIn category p')

include e hnamed hnamed'

theorem get_renaming (i : c.Index) :
    h'.get (e.index i) = (h.get i).rename (p.byName p' category) := by
  have hrep := hnamed i
  have hrep' := hnamed' (e.index i)
  unfold Represents at hrep hrep'
  rw [e.record_eq] at hrep'
  simp only [TypeRecord.map] at hrep'
  cases hs : scalarOfSystemType? (c.record i).systemType with
  | some kind =>
    rw [hs] at hrep hrep'
    rw [hrep, hrep']
    rfl
  | none =>
    rw [hs] at hrep hrep'
    obtain ⟨k, hk, hname⟩ := hrep
    obtain ⟨k', hk', hname'⟩ := hrep'
    rw [hk, hk']
    exact congrArg Representation.struct (Program.byName_eq hname hname').symm

theorem byName_bijOn (hall : ∀ k ∈ p.handles, ∃ i, h.get i = .struct k)
    (hall' : ∀ k ∈ p'.handles, ∃ i, h'.get i = .struct k) :
    Set.BijOn (p.byName p' category) p.handles p'.handles := by
  have hget := get_renaming e hnamed hnamed'
  refine ⟨?_, ?_, ?_⟩
  · intro k hk
    obtain ⟨i, hi⟩ := hall k hk
    have hi' := hget i
    rw [hi] at hi'
    exact mem_handles_of_get hnamed' hi'
  · intro k hk l hl heq
    obtain ⟨i, hi⟩ := hall k hk
    obtain ⟨j, hj⟩ := hall l hl
    have hstructured := hnamed.isStructured hi
    have hstructured' := hnamed.isStructured hj
    -- Equal handles in the second program are equal names, and those are equal handles in the first.
    have hsame : h'.get (e.index i) = h'.get (e.index j) := by
      rw [hget, hget, hi, hj]
      exact congrArg Representation.struct heq
    rw [hnamed'.get_eq_iff ((isStructured_renaming e i).trans hstructured)
      ((isStructured_renaming e j).trans hstructured'), e.record_eq,
      e.record_eq] at hsame
    have := (hnamed.get_eq_iff hstructured hstructured').2 hsame
    rw [hi, hj] at this
    exact Representation.struct.inj this
  · intro k' hk'
    obtain ⟨j, hj⟩ := hall' k' hk'
    obtain ⟨i, rfl⟩ := e.index.surjective j
    have hstructured := hnamed'.isStructured hj
    rw [isStructured_renaming] at hstructured
    obtain ⟨k, hk⟩ := hnamed.exists_handle hstructured
    rw [hget, hk] at hj
    exact ⟨k, mem_handles_of_get hnamed hk, Representation.struct.inj hj⟩

end

/-! ## Any order -/

/-- With the handles of the second program in place of those of the first, what is made of a type
under one number is made of it under the other. -/
structure Alike (h : Handles c) (h' : Handles c') (σ : StructHandle → StructHandle) (i : c.Index)
    (j : c'.Index) : Prop where
  layout : ∀ sampleLength, layout h' sampleLength j = (layout h sampleLength i).rename σ
  signatures : (c'.record j).methods.map (signatureOf h' j) =
    ((c.record i).methods.map (signatureOf h i)).map (Signature.rename σ)

theorem alike_renaming (e : c.Renaming c') {h : Handles c} {h' : Handles c'}
    {σ : StructHandle → StructHandle} (hget : ∀ i, h'.get (e.index i) = (h.get i).rename σ)
    (i : c.Index) : Alike h h' σ i (e.index i) := by
  refine ⟨fun sampleLength => layout_renaming e hget sampleLength i, ?_⟩
  have hmethods : (c'.record (e.index i)).methods =
      (c.record i).methods.map (MethodRecord.map e.index) := by
    rw [e.record_eq]
    rfl
  rw [hmethods, List.map_map, List.map_map]
  exact List.map_congr_left fun m _ => signatureOf_renaming e hget i m

/-- Registered into empty programs, two catalogs lead to the same structures and to the same layouts
and signatures, where types have other numbers by `f` and structures other handles. -/
structure Catalog.Reordered (c c' : Catalog) (f : Nat → Nat) (category : String) : Prop where
  /-- Types that 32 bits can number have room for their structures. -/
  registers : c.size ≤ Program.structBound →
    (∃ h ws, register c category blankWorkspace = (.ok h, ws)) ∧
      ∃ h' ws', register c' category blankWorkspace = (.ok h', ws')
  alike : ∀ h ws h' ws', register c category blankWorkspace = (.ok h, ws) →
    register c' category blankWorkspace = (.ok h', ws') →
    ∃ σ, Set.BijOn σ ws.program.handles ws'.program.handles ∧
      ∀ i : c.Index, ∃ j : c'.Index, j.val = f i.val ∧ Alike h h' σ i j

theorem blankWorkspace_room (hroom : c.size ≤ Program.structBound) :
    ∃ h ws, register c category blankWorkspace = (.ok h, ws) := by
  apply register_of_room (Target.isOpen_ofProgram _)
  show 0 + c.size ≤ _
  omega

/-- Records of a catalog may be put in any order. They make a catalog again, and no layout and no
signature depends on the order. -/
theorem renumber_reordered {rs : List (TypeRecord Nat)} {c : Catalog}
    (hc : Catalog.ofRecords rs = .ok c) (p : Equiv.Perm (Fin rs.length)) (category : String) :
    ∃ c', Catalog.ofRecords (Catalog.renumber rs p) = .ok c' ∧
      c.Reordered c' (Catalog.renumbering p) category := by
  obtain ⟨c', hc'⟩ := Catalog.exists_ofRecords_renumber p ⟨c, hc⟩
  obtain ⟨e, hindex⟩ := Catalog.exists_renaming p hc hc'
  refine ⟨c', hc', ?_, ?_⟩
  · intro hroom
    have hroom' : c'.size ≤ Program.structBound := by rwa [e.size_eq]
    exact ⟨blankWorkspace_room hroom, blankWorkspace_room hroom'⟩
  · intro h ws h' ws' hreg hreg'
    obtain ⟨-, -, hnamed⟩ := register_eq_ok hreg
    obtain ⟨-, -, hnamed'⟩ := register_eq_ok hreg'
    have hall : ∀ k ∈ ws.program.handles, ∃ i, h.get i = .struct k := fun k hk =>
      exists_get_of_registered hreg rfl hk
    have hall' : ∀ k ∈ ws'.program.handles, ∃ i, h'.get i = .struct k := fun k hk =>
      exists_get_of_registered hreg' rfl hk
    refine ⟨ws.program.byName ws'.program category, byName_bijOn e hnamed hnamed' hall hall', ?_⟩
    intro i
    exact ⟨e.index i, hindex i, alike_renaming e (get_renaming e hnamed hnamed') i⟩

/-- Two types that refer to each other. -/
def leftAndRight : List (TypeRecord Nat) :=
  [ { twin 0 24 with
      fullName := "app.Left"
      fields := [⟨"right", 1, 0⟩]
      methods := [⟨"turn", 0x1000, 1, 0, [⟨"by", 0, 1⟩]⟩] },
    { twin 1 32 with
      fullName := "app.Right"
      base := some 0
      element := some 0 } ]

def sidesSwapped : Equiv.Perm (Fin leftAndRight.length) :=
  .swap ⟨0, by decide⟩ ⟨1, by decide⟩

theorem rightAndLeft_reordered :
    ∃ c c', Catalog.ofRecords leftAndRight = .ok c ∧
      Catalog.ofRecords (Catalog.renumber leftAndRight sidesSwapped) = .ok c' ∧
      c.Reordered c' (Catalog.renumbering sidesSwapped) "/TDB" := by
  obtain ⟨c, hc⟩ : ∃ c, Catalog.ofRecords leftAndRight = .ok c :=
    ⟨_, Catalog.ofRecords_eq_ok_iff.2 ⟨rfl, by decide +kernel, rfl, rfl⟩⟩
  obtain ⟨c', hc', hreordered⟩ := renumber_reordered hc sidesSwapped "/TDB"
  exact ⟨c, c', hc, hc', hreordered⟩

end TypeRecovery
