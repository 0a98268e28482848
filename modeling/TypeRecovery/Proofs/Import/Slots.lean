import TypeRecovery.Proofs.Import.Order

/-!
# What is left of a structure

Types of one name share a structure. The last one to be registered decides on its size, and the last
one to be laid out on its members.
-/

namespace TypeRecovery

/-! ## The last of a list -/

section

variable {α : Type} {p q : α → Bool} {l : List α} {a : α}

def last? (p : α → Bool) (l : List α) : Option α := l.reverse.find? p

@[simp] theorem last?_nil (p : α → Bool) : last? p [] = none := rfl

theorem last?_cons (p : α → Bool) (a : α) (l : List α) :
    last? p (a :: l) = (last? p l).or (if p a then some a else none) := by
  unfold last?
  rw [List.reverse_cons, List.find?_append]
  congr 1
  cases hp : p a <;> simp [hp]

theorem last?_eq_none_iff : last? p l = none ↔ ∀ a ∈ l, p a = false := by
  unfold last?
  simp

theorem last?_eq_some_iff :
    last? p l = some a ↔
      p a = true ∧ ∃ before after, l = before ++ a :: after ∧ ∀ b ∈ after, p b = false := by
  unfold last?
  rw [List.find?_eq_some_iff_append]
  constructor
  · rintro ⟨hp, after, before, hl, hafter⟩
    refine ⟨hp, before.reverse, after.reverse, ?_, ?_⟩
    · rw [← List.reverse_reverse l, hl]
      simp
    · intro b hb
      simpa using hafter b (List.mem_reverse.1 hb)
  · rintro ⟨hp, before, after, rfl, hafter⟩
    refine ⟨hp, after.reverse, before.reverse, by simp, ?_⟩
    intro b hb
    simp [hafter b (List.mem_reverse.1 hb)]

theorem last?_congr (h : ∀ a ∈ l, p a = q a) : last? p l = last? q l := by
  induction l with
  | nil => rfl
  | cons a l ih =>
    rw [last?_cons, last?_cons, ih fun b hb => h b (List.mem_cons_of_mem a hb),
      h a List.mem_cons_self]

theorem last?_map {β : Type} (f : α → β) (p : β → Bool) (l : List α) :
    last? p (l.map f) = (last? (fun a => p (f a)) l).map f := by
  induction l with
  | nil => rfl
  | cons a l ih =>
    rw [List.map_cons, last?_cons, last?_cons, ih]
    cases last? (fun a => p (f a)) l with
    | some b => rfl
    | none => by_cases ha : p (f a) = true <;> simp [ha]

end

/-! ## Registration -/

variable {ρ : Type}

/-- The type is registered as the structure at a place of the program. -/
def definedAt (category : String) (p : Program) (j : Nat) (r : TypeRecord ρ) : Bool :=
  r.isStructured && p.handleOf? category r.fullName = some ⟨j⟩

def blankStruct (category : String) (r : TypeRecord ρ) : Struct :=
  ⟨category, r.fullName, r.size, []⟩

theorem attempt_defineOperation {t : Target} {category : String} {r : TypeRecord ρ}
    (hop : t.fatal? (defineOperation category r) = none) :
    ∃ k, (t.attempt (defineOperation category r)).2.program =
        t.program.define category r.fullName r.size .replace ∧
      (t.program.define category r.fullName r.size .replace).handleOf? category r.fullName =
        some k := by
  rw [fatal?_defineOperation] at hop
  cases hk : t.handle? category r.fullName r.size .replace with
  | some k =>
    obtain ⟨-, hprogram, hhandle⟩ := handle?_eq_some hk
    exact ⟨k, hprogram, hhandle⟩
  | none =>
    rw [hk] at hop
    cases hop

/-- Names are looked up in the program that the registration led to. -/
theorem run_defineOperations_structs {t : Target} {category : String} {rs : List (TypeRecord ρ)}
    (hpasses : t.Passes (defineOperations category rs)) {p : Program}
    (hp : (t.run (defineOperations category rs)).program.Extends p) (j : Nat) :
    (t.run (defineOperations category rs)).program.structs[j]? =
      ((last? (definedAt category p j) rs).map (blankStruct category)).or
        t.program.structs[j]? := by
  induction rs generalizing t with
  | nil => simp [defineOperations]
  | cons r rs ih =>
    rw [last?_cons]
    cases hr : scalarOfSystemType? r.systemType with
    | some kind =>
      rw [defineOperations_cons_of_scalar hr] at hpasses hp ⊢
      have hnot : definedAt category p j r = false := by
        simp [definedAt, TypeRecord.isStructured, hr]
      rw [ih hpasses hp, hnot]
      simp
    | none =>
      rw [defineOperations_cons_of_none hr] at hpasses hp ⊢
      obtain ⟨hop, hrest⟩ := Target.passes_cons_iff.1 hpasses
      obtain ⟨k, hprogram, hhandle⟩ := attempt_defineOperation hop
      -- The handle that came back is still the one of that name.
      have hlater : p.handleOf? category r.fullName = some k := by
        refine Program.Extends.handleOf? hp (Program.Extends.handleOf? ?_ hhandle)
        rw [← hprogram]
        exact Target.run_extends _ _
      have hat : definedAt category p j r = decide (j = k.index) := by
        unfold definedAt TypeRecord.isStructured
        rw [hr, hlater]
        cases k
        simp [eq_comm]
      rw [Target.run_cons, ih hrest hp, hprogram, Program.define_structs hhandle, hat]
      cases last? (definedAt category p j) rs with
      | some r' => rfl
      | none => by_cases hj : j = k.index <;> simp [hj, blankStruct]

/-! ## Layouts -/

section

variable {c : Catalog}

/-- The type is laid out in the structure at a place of the program. -/
def laidOutAt (h : Handles c) (j : Nat) (i : c.Index) : Bool :=
  layoutHandle? h i = some ⟨j⟩

/-- A structure with the members of a type, if there is one. -/
def Struct.filledBy (h : Handles c) (sampleLength : UInt32) (s : Struct) :
    Option c.Index → Struct
  | none => s
  | some i => { s with members := (layout h sampleLength i).members }

section

variable (h : Handles c) (sampleLength : UInt32) (s : Struct) (x : Option c.Index)

@[simp] theorem Struct.filledBy_category :
    (s.filledBy h sampleLength x).category = s.category := by cases x <;> rfl

@[simp] theorem Struct.filledBy_name : (s.filledBy h sampleLength x).name = s.name := by
  cases x <;> rfl

@[simp] theorem Struct.filledBy_size : (s.filledBy h sampleLength x).size = s.size := by
  cases x <;> rfl

end

theorem Program.rebuild_structs {p p' : Program} {k : StructHandle} {members : List Member}
    (h : p.rebuild k members = .ok p') (j : Nat) :
    p'.structs[j]? =
      if j = k.index then p.structs[j]?.map fun s => { s with members } else p.structs[j]? := by
  obtain ⟨-, rfl⟩ := rebuild_eq_ok_iff.1 h
  rw [Array.getElem?_modify]
  by_cases hj : j = k.index
  · rw [if_pos hj.symm, if_pos hj]
  · rw [if_neg (Ne.symm hj), if_neg hj]

theorem rebuild_of_not_fatal {t : Target} {k : StructHandle} {members : List Member}
    (hlt : k.index < t.program.structs.size) (hop : t.fatal? (.rebuild k members) = none) :
    t.program.rebuild k members = .ok (t.attempt (.rebuild k members)).2.program := by
  have hrefuses : t.refuses (.rebuild k members) = false := by
    rw [Target.fatal?_rebuild] at hop
    cases hrefused : t.refuses (.rebuild k members) with
    | true => simp [hrefused] at hop
    | false => rfl
  rw [Target.attempt_program, hrefuses]
  simp [Program.perform, Program.rebuild, hlt, Except.toOption]

theorem run_rebuildOperations_structs {t : Target} {h : Handles c} {sampleLength : UInt32}
    {is : List c.Index} (hpasses : t.Passes (rebuildOperations h sampleLength is))
    (hlt : ∀ i k, layoutHandle? h i = some k → k.index < t.program.structs.size) (j : Nat) :
    (t.run (rebuildOperations h sampleLength is)).program.structs[j]? =
      t.program.structs[j]?.map fun s =>
        s.filledBy h sampleLength (last? (laidOutAt h j) is) := by
  induction is generalizing t with
  | nil => simp [rebuildOperations, Struct.filledBy]
  | cons i is ih =>
    unfold rebuildOperations at hpasses ih ⊢
    rw [last?_cons]
    cases hi : layoutHandle? h i with
    | none =>
      rw [List.filterMap_cons_none (by simp [rebuildOperation?, hi])] at hpasses ⊢
      have hnot : laidOutAt h j i = false := by simp [laidOutAt, hi]
      rw [ih hpasses hlt, hnot]
      simp
    | some k =>
      rw [List.filterMap_cons_some (by rw [rebuildOperation?, hi]; rfl)] at hpasses ⊢
      obtain ⟨hop, hrest⟩ := Target.passes_cons_iff.1 hpasses
      have hrebuild := rebuild_of_not_fatal (hlt i k hi) hop
      have hsize :=
        (Target.run_extends t [.rebuild k (layout h sampleLength i).members]).size_le
      have hat : laidOutAt h j i = decide (j = k.index) := by
        unfold laidOutAt
        rw [hi]
        cases k
        simp [eq_comm]
      rw [Target.run_cons, ih hrest fun i' k' hk' => Nat.lt_of_lt_of_le (hlt i' k' hk') hsize,
        Program.rebuild_structs hrebuild, hat]
      by_cases hj : j = k.index
      · rw [if_pos hj, Option.map_map]
        congr 1
        funext s
        cases last? (laidOutAt h j) is <;> simp [hj, Struct.filledBy]
      · simp [hj]

end

end TypeRecovery
