import TypeRecovery.Proofs.Program.Operation
import TypeRecovery.Proofs.Program.Run

/-!
# Structures of a program

Categories and names are only ever added, so that a structure found by name is found at the same
handle from then on. Defining a structure anew and rebuilding it change that structure alone.
-/

namespace TypeRecovery

namespace Program

variable {p p' : Program} {category name : String} {size : UInt32} {k : StructHandle}

/-! ## Titles -/

def title (s : Struct) : String × String := (s.category, s.name)

/-- Category and name of every structure, in order of creation. -/
def titles (p : Program) : Array (String × String) := p.structs.map title

theorem size_titles (p : Program) : p.titles.size = p.structs.size := Array.size_map

theorem handleOf?_eq_titles (p : Program) (category name : String) :
    p.handleOf? category name =
      (p.titles.findIdx? fun t => t.2 = name && t.1 = category).map StructHandle.mk := by
  unfold handleOf? titles
  rw [Array.findIdx?_map]
  rfl

/-- Every structure of `p` is in `p'` at the same handle and with the same title. -/
def Extends (p p' : Program) : Prop := ∃ more, p'.titles = p.titles ++ more

theorem Extends.refl (p : Program) : p.Extends p := ⟨#[], by simp⟩

theorem Extends.trans {p'' : Program} (h : p.Extends p') (h' : p'.Extends p'') :
    p.Extends p'' := by
  obtain ⟨more, h⟩ := h
  obtain ⟨more', h'⟩ := h'
  exact ⟨more ++ more', by rw [h', h, Array.append_assoc]⟩

theorem extends_of_titles_eq (h : p'.titles = p.titles) : p.Extends p' := ⟨#[], by simp [h]⟩

theorem Extends.size_le (h : p.Extends p') : p.structs.size ≤ p'.structs.size := by
  obtain ⟨more, h⟩ := h
  rw [← size_titles, ← size_titles, h, Array.size_append]
  omega

theorem Extends.handleOf? (h : p.Extends p') (hk : p.handleOf? category name = some k) :
    p'.handleOf? category name = some k := by
  obtain ⟨more, h⟩ := h
  rw [handleOf?_eq_titles] at hk ⊢
  obtain ⟨i, hi, rfl⟩ := Option.map_eq_some_iff.1 hk
  rw [h, Array.findIdx?_append, hi]
  rfl

theorem struct_of_handleOf? (hk : p.handleOf? category name = some k) :
    ∃ s, p.structs[k.index]? = some s ∧ s.category = category ∧ s.name = name := by
  obtain ⟨i, hi, rfl⟩ := Option.map_eq_some_iff.1 hk
  obtain ⟨hlt, hfound, -⟩ := Array.findIdx?_eq_some_iff_getElem.1 hi
  simp only [Bool.and_eq_true, decide_eq_true_eq] at hfound
  exact ⟨p.structs[i], Array.getElem?_eq_getElem hlt, hfound.2, hfound.1⟩

theorem lt_of_handleOf? (hk : p.handleOf? category name = some k) :
    k.index < p.structs.size := by
  obtain ⟨s, hs, -⟩ := struct_of_handleOf? hk
  exact (Array.getElem?_eq_some_iff.1 hs).1

theorem map_title_modify {structs : Array Struct} {f : Struct → Struct} (i : Nat)
    (hf : ∀ s, title (f s) = title s) : (structs.modify i f).map title = structs.map title := by
  apply Array.ext_getElem?
  intro j
  rw [Array.getElem?_map, Array.getElem?_map, Array.getElem?_modify]
  split
  · cases structs[j]? <;> simp [hf]
  · rfl

/-! ## Defining -/

theorem define_of_some (hk : p.handleOf? category name = some k) :
    p.define category name size .replace =
      { p with
        structs := p.structs.modify k.index fun s => { s with size := size, members := [] } } := by
  unfold define
  rw [hk]

theorem define_of_none {policy : ConflictPolicy} (hk : p.handleOf? category name = none) :
    p.define category name size policy =
      if p.structs.size < structBound then
        { p with structs := p.structs.push ⟨category, name, size, []⟩ }
      else p := by
  unfold define
  rw [hk]

theorem define_extends (p : Program) (category name : String) (size : UInt32)
    (policy : ConflictPolicy) : p.Extends (p.define category name size policy) := by
  unfold define
  split
  · split
    · exact extends_of_titles_eq
        (map_title_modify _ (f := fun s => { s with size := size, members := [] }) fun _ => rfl)
    · exact .refl p
  · split
    · exact ⟨#[(category, name)], Array.map_push⟩
    · exact .refl p

theorem handleOf?_push (hk : p.handleOf? category name = none) :
    ({ p with structs := p.structs.push ⟨category, name, size, []⟩ } : Program).handleOf?
      category name = some ⟨p.structs.size⟩ := by
  unfold handleOf? at hk ⊢
  rw [Option.map_eq_none_iff] at hk
  rw [Array.findIdx?_push, hk]
  simp

theorem define_structs
    (hk : (p.define category name size .replace).handleOf? category name = some k) (j : Nat) :
    (p.define category name size .replace).structs[j]? =
      if j = k.index then some ⟨category, name, size, []⟩ else p.structs[j]? := by
  cases hold : p.handleOf? category name with
  | some k' =>
    have heq := (define_extends p category name size .replace).handleOf? hold
    rw [heq] at hk
    cases hk
    obtain ⟨s, hs, rfl, rfl⟩ := struct_of_handleOf? hold
    rw [define_of_some hold, Array.getElem?_modify]
    by_cases hj : k.index = j
    · subst hj
      simp [hs]
    · simp [hj, Ne.symm hj]
  | none =>
    rw [define_of_none hold] at hk ⊢
    by_cases hroom : p.structs.size < structBound
    · rw [if_pos hroom, handleOf?_push hold] at hk
      cases hk
      rw [if_pos hroom, Array.getElem?_push]
    · rw [if_neg hroom, hold] at hk
      cases hk

/-! ## Every operation -/

theorem perform_extends {op : Operation} (h : p.perform op = .ok p') : p.Extends p' := by
  cases op with
  | label address name =>
    obtain ⟨-, rfl⟩ := label_eq_ok_iff.1 h
    exact .refl p
  | define category name size policy =>
    cases h
    exact define_extends p category name size policy
  | rebuild k members =>
    obtain ⟨-, rfl⟩ := rebuild_eq_ok_iff.1 h
    exact extends_of_titles_eq
      (map_title_modify k.index (f := fun s => { s with members }) fun _ => rfl)
  | createFunction address name =>
    obtain ⟨-, rfl⟩ := createFunction_eq_ok_iff.1 h
    exact .refl p
  | renameFunction address name =>
    obtain ⟨f, -, rfl⟩ := renameFunction_eq_ok_iff.1 h
    exact .refl p
  | applySignature address signature =>
    obtain ⟨f, -, rfl⟩ := applySignature_eq_ok_iff.1 h
    exact .refl p
  | mapRegion name base data permissions =>
    obtain ⟨-, -, -, rfl⟩ := mapRegion_eq_ok_iff.1 h
    exact .refl p

end Program

theorem Target.run_extends (t : Target) (ops : List Operation) :
    t.program.Extends (t.run ops).program :=
  run_keeps (P := t.program.Extends) (fun _ _ _ _ h hp => h.trans (Program.perform_extends hp))
    (.refl _)

end TypeRecovery
