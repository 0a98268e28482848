import TypeRecovery.Proofs.Program.AddressMap
import TypeRecovery.Proofs.Program.Operation
import TypeRecovery.Proofs.Program.Run

/-!
# Parts of a program

An operation changes one part of a program and leaves the others alone. A target that refuses
nothing does to its program what the operations say.
-/

namespace TypeRecovery

inductive Part where
  | structs
  | labels
  | functions
  | regions

def Operation.part : Operation → Part
  | .label .. => .labels
  | .define .. | .rebuild .. => .structs
  | .createFunction .. | .renameFunction .. | .applySignature .. => .functions
  | .mapRegion .. => .regions

theorem Operation.eq_label_of_part {op : Operation} (h : op.part = .labels) :
    ∃ address name, op = .label address name := by
  cases op with
  | label address name => exact ⟨address, name, rfl⟩
  | _ => cases h

namespace Program

/-- The programs differ in one part at most. -/
structure AgreeOutside (part : Part) (p p' : Program) : Prop where
  structs : part ≠ .structs → p'.structs = p.structs
  labels : part ≠ .labels → p'.labels = p.labels
  functions : part ≠ .functions → p'.functions = p.functions
  regions : part ≠ .regions → p'.regions = p.regions

variable {part : Part} {p p' p'' : Program}

theorem AgreeOutside.refl (part : Part) (p : Program) : AgreeOutside part p p :=
  ⟨fun _ => rfl, fun _ => rfl, fun _ => rfl, fun _ => rfl⟩

theorem AgreeOutside.trans (h : AgreeOutside part p p') (h' : AgreeOutside part p' p'') :
    AgreeOutside part p p'' where
  structs hne := (h'.structs hne).trans (h.structs hne)
  labels hne := (h'.labels hne).trans (h.labels hne)
  functions hne := (h'.functions hne).trans (h.functions hne)
  regions hne := (h'.regions hne).trans (h.regions hne)

theorem AgreeOutside.eq_of_structs (h : AgreeOutside .structs p p')
    (hstructs : ∀ j : Nat, p'.structs[j]? = p.structs[j]?) : p' = p := by
  have hlabels := h.labels (by simp)
  have hfunctions := h.functions (by simp)
  have hregions := h.regions (by simp)
  have hstructs := Array.ext_getElem? hstructs
  cases p
  cases p'
  cases hstructs
  cases hlabels
  cases hfunctions
  cases hregions
  rfl

theorem AgreeOutside.eq_of_functions (h : AgreeOutside .functions p p')
    (hfunctions : ∀ address, p'.function? address = p.function? address) : p' = p := by
  have hstructs := h.structs (by simp)
  have hlabels := h.labels (by simp)
  have hregions := h.regions (by simp)
  have hfunctions := AddressMap.ext_find? hfunctions
  cases p
  cases p'
  cases hstructs
  cases hlabels
  cases hfunctions
  cases hregions
  rfl

theorem define_agreeOutside (p : Program) (category name : String) (size : UInt32)
    (policy : ConflictPolicy) : AgreeOutside .structs p (p.define category name size policy) := by
  have h : ∀ structs, AgreeOutside .structs p { p with structs } := fun structs =>
    ⟨fun hne => absurd rfl hne, fun _ => rfl, fun _ => rfl, fun _ => rfl⟩
  unfold define
  split
  · split
    · exact h _
    · exact .refl _ p
  · split
    · exact h _
    · exact .refl _ p

theorem perform_agreeOutside {op : Operation} (h : p.perform op = .ok p') :
    AgreeOutside op.part p p' := by
  cases op with
  | label address name =>
    obtain ⟨-, rfl⟩ := label_eq_ok_iff.1 h
    exact ⟨fun _ => rfl, fun hne => absurd rfl hne, fun _ => rfl, fun _ => rfl⟩
  | define category name size policy =>
    cases h
    exact define_agreeOutside p category name size policy
  | rebuild k members =>
    obtain ⟨-, rfl⟩ := rebuild_eq_ok_iff.1 h
    exact ⟨fun hne => absurd rfl hne, fun _ => rfl, fun _ => rfl, fun _ => rfl⟩
  | createFunction address name =>
    obtain ⟨-, rfl⟩ := createFunction_eq_ok_iff.1 h
    exact ⟨fun _ => rfl, fun _ => rfl, fun hne => absurd rfl hne, fun _ => rfl⟩
  | renameFunction address name =>
    obtain ⟨f, -, rfl⟩ := renameFunction_eq_ok_iff.1 h
    exact ⟨fun _ => rfl, fun _ => rfl, fun hne => absurd rfl hne, fun _ => rfl⟩
  | applySignature address signature =>
    obtain ⟨f, -, rfl⟩ := applySignature_eq_ok_iff.1 h
    exact ⟨fun _ => rfl, fun _ => rfl, fun hne => absurd rfl hne, fun _ => rfl⟩
  | mapRegion name base data permissions =>
    obtain ⟨-, -, -, rfl⟩ := mapRegion_eq_ok_iff.1 h
    exact ⟨fun _ => rfl, fun _ => rfl, fun _ => rfl, fun hne => absurd rfl hne⟩

end Program

theorem Target.run_agreeOutside {part : Part} {ops : List Operation}
    (hops : ∀ op ∈ ops, op.part = part) (t : Target) :
    t.program.AgreeOutside part (t.run ops).program := by
  refine run_keeps (P := t.program.AgreeOutside part) ?_ (.refl part t.program)
  intro op hop p p' hp hperform
  rw [← hops op hop] at hp ⊢
  exact hp.trans (Program.perform_agreeOutside hperform)

/-! ## Targets that refuse nothing -/

namespace Target

def IsOpen (t : Target) : Prop := ∀ op, t.refuses op = false

variable {t : Target}

theorem isOpen_ofProgram (p : Program) : (ofProgram p).IsOpen := fun _ => rfl

theorem IsOpen.run (ht : t.IsOpen) (ops : List Operation) : (t.run ops).IsOpen := by
  intro op
  rw [run_refuses]
  exact ht op

theorem IsOpen.attempt (ht : t.IsOpen) (op : Operation) : (t.attempt op).2.IsOpen := ht.run [op]

theorem IsOpen.attempt_program (ht : t.IsOpen) (op : Operation) :
    (t.attempt op).2.program = (t.program.perform op).toOption.getD t.program := by
  rw [Target.attempt_program, ht op]
  rfl

theorem IsOpen.attempt_fst (ht : t.IsOpen) (op : Operation) :
    (t.attempt op).1 = (t.program.perform op).map fun _ => () := by
  unfold Target.attempt
  rw [ht op]
  cases t.program.perform op <;> rfl

theorem IsOpen.handle?_eq (ht : t.IsOpen) (category name : String) (size : UInt32)
    (policy : ConflictPolicy) :
    t.handle? category name size policy =
      (t.program.define category name size policy).handleOf? category name := by
  unfold handle? Target.attempt
  rw [ht]
  rfl

end Target

/-! ## Programs that operations lead to -/

/-- The program after operations were asked for one after another. -/
def Program.after (p : Program) (ops : List Operation) : Program :=
  ((Target.ofProgram p).run ops).program

/-- Of an open target the program alone decides on what operations make of it. -/
theorem Target.IsOpen.run_program {t : Target} (ht : t.IsOpen) (ops : List Operation) :
    (t.run ops).program = t.program.after ops := by
  induction ops generalizing t with
  | nil => rfl
  | cons op ops ih =>
    have hopen := Target.isOpen_ofProgram t.program
    unfold Program.after
    rw [Target.run_cons, Target.run_cons, ih (ht.attempt op), ih (hopen.attempt op),
      ht.attempt_program, hopen.attempt_program]
    rfl

namespace Program

theorem after_singleton (p : Program) (op : Operation) :
    p.after [op] = (p.perform op).toOption.getD p :=
  (Target.isOpen_ofProgram p).attempt_program op

theorem after_of_ok {p p' : Program} {op : Operation} (h : p.perform op = .ok p') :
    p.after [op] = p' := by
  rw [after_singleton, h]
  rfl

theorem after_of_error {p : Program} {op : Operation} {e : Error} (h : p.perform op = .error e) :
    p.after [op] = p := by
  rw [after_singleton, h]
  rfl

theorem after_append (p : Program) (ops ops' : List Operation) :
    p.after (ops ++ ops') = (p.after ops).after ops' := by
  have hopen : ((Target.ofProgram p).run ops).IsOpen := (Target.isOpen_ofProgram p).run ops
  show ((Target.ofProgram p).run (ops ++ ops')).program = _
  rw [Target.run_append, hopen.run_program]
  rfl

theorem after_keeps {P : Program → Prop}
    (hstep : ∀ op p p', P p → p.perform op = .ok p' → P p') {p : Program} (hp : P p)
    (ops : List Operation) : P (p.after ops) :=
  Target.run_keeps (fun op _ => hstep op) hp

end Program

/-! ## Labels -/

namespace Program

variable {p p' : Program} {address : UInt64} {name : String}

/-- A label is at an address, if one may be there. -/
def Labelled (p : Program) (address : UInt64) (name : String) : Prop :=
  p.acceptsLabel address = true → name ∈ p.labelsAt address

theorem acceptsLabel_congr (h : p'.regions = p.regions) (address : UInt64) :
    p'.acceptsLabel address = p.acceptsLabel address := by
  unfold acceptsLabel
  rw [h]

theorem Labelled.congr (h : p.Labelled address name) (hlabels : p'.labels = p.labels)
    (hregions : p'.regions = p.regions) : p'.Labelled address name := by
  unfold Labelled labelsAt at h ⊢
  rw [acceptsLabel_congr hregions, hlabels]
  exact h

theorem mem_labelsAt_label {other : UInt64} {name' : String} (h : p.label address name = .ok p')
    (hmem : name' ∈ p.labelsAt other ∨ other = address ∧ name' = name) :
    name' ∈ p'.labelsAt other := by
  obtain ⟨-, rfl⟩ := label_eq_ok_iff.1 h
  unfold labelsAt at hmem ⊢
  rw [AddressMap.find?_insert]
  by_cases ho : other = address
  · rw [if_pos ho]
    rw [ho] at hmem
    by_cases hold : name ∈ (p.labels.find? address).getD []
    · rw [if_pos hold]
      rcases hmem with hmem | ⟨-, rfl⟩
      · exact hmem
      · exact hold
    · rw [if_neg hold]
      rcases hmem with hmem | ⟨-, rfl⟩
      · exact List.mem_append_left _ hmem
      · exact List.mem_append_right _ List.mem_cons_self
  · rw [if_neg ho]
    rcases hmem with hmem | ⟨heq, -⟩
    · exact hmem
    · exact absurd heq ho

theorem Labelled.label {other : UInt64} {name' : String} (h : p.Labelled other name')
    (hlabel : p.label address name = .ok p') : p'.Labelled other name' := by
  intro haccepts
  have hregions : p'.regions = p.regions := by
    obtain ⟨-, rfl⟩ := label_eq_ok_iff.1 hlabel
    rfl
  rw [acceptsLabel_congr hregions] at haccepts
  exact mem_labelsAt_label hlabel (.inl (h haccepts))

theorem Labelled.label_eq (h : p.Labelled address name) (hlabel : p.label address name = .ok p') :
    p' = p := by
  obtain ⟨haccepts, rfl⟩ := label_eq_ok_iff.1 hlabel
  have hmem := h haccepts
  rw [if_pos hmem]
  unfold labelsAt at hmem ⊢
  cases hfind : p.labels.find? address with
  | none =>
    rw [hfind] at hmem
    simp at hmem
  | some names =>
    rw [Option.getD_some, AddressMap.insert_eq_self hfind]

end Program

namespace Target

variable {t : Target}

theorem IsOpen.labelled_run (ht : t.IsOpen) {ops : List Operation}
    (hops : ∀ op ∈ ops, op.part = .labels) {address : UInt64} {name : String}
    (hmem : .label address name ∈ ops) : (t.run ops).program.Labelled address name := by
  induction ops generalizing t with
  | nil => simp at hmem
  | cons op ops ih =>
    have hrest : ∀ op ∈ ops, op.part = .labels := fun op hop => hops op (List.mem_cons_of_mem _ hop)
    rcases List.mem_cons.1 hmem with rfl | hmem
    · show ((t.attempt (.label address name)).2.run ops).program.Labelled address name
      refine run_keeps (P := fun p => p.Labelled address name) ?_ ?_
      · intro op hop p p' hp hperform
        obtain ⟨other, name', rfl⟩ := Operation.eq_label_of_part (hrest op hop)
        exact hp.label hperform
      · intro haccepts
        rw [ht.attempt_program] at haccepts ⊢
        cases hlabel : t.program.label address name with
        | ok p =>
          simp only [Program.perform, hlabel]
          exact Program.mem_labelsAt_label hlabel (.inr ⟨rfl, rfl⟩)
        | error e =>
          -- An address that takes labels takes this one.
          simp only [Program.perform, hlabel] at haccepts
          have htakes : t.program.acceptsLabel address = true := haccepts
          unfold Program.label at hlabel
          rw [if_pos htakes] at hlabel
          cases hlabel
    · exact ih (ht.attempt op) hrest hmem

theorem run_of_labelled {ops : List Operation}
    (hops : ∀ op ∈ ops, ∃ address name, op = .label address name ∧
      t.program.Labelled address name) : (t.run ops).program = t.program := by
  refine run_keeps (P := fun p => p = t.program) ?_ rfl
  rintro op hop p p' rfl hperform
  obtain ⟨address, name, rfl, hlabelled⟩ := hops op hop
  exact hlabelled.label_eq hperform

end Target

end TypeRecovery
