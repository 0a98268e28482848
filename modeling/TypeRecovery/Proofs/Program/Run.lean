import TypeRecovery.Workspace

/-!
# Runs of operations

What is left of a target after a list of operations, in two ways: all of them asked for, or only
those up to the first that ends an import.
-/

namespace TypeRecovery

def failure? {α : Type} : Except Error α → Option Error
  | .ok _ => none
  | .error e => some e

@[simp] theorem failure?_ok {α : Type} (a : α) : failure? (.ok a) = none := rfl

@[simp] theorem failure?_error {α : Type} (e : Error) :
    failure? (.error e : Except Error α) = some e := rfl

namespace Target

/-! ## Everything asked for -/

/-- The target after operations were asked for one after another. -/
def run (t : Target) (ops : List Operation) : Target :=
  ops.foldl (fun t op => (t.attempt op).2) t

@[simp] theorem run_nil (t : Target) : t.run [] = t := rfl

@[simp] theorem run_cons (t : Target) (op : Operation) (ops : List Operation) :
    t.run (op :: ops) = (t.attempt op).2.run ops := rfl

@[simp] theorem run_append (t : Target) (ops ops' : List Operation) :
    t.run (ops ++ ops') = (t.run ops).run ops' := List.foldl_append

@[simp] theorem attempt_refuses (t : Target) (op : Operation) :
    (t.attempt op).2.refuses = t.refuses := by
  unfold attempt
  split
  · rfl
  · split <;> rfl

@[simp] theorem attempt_attempts (t : Target) (op : Operation) :
    (t.attempt op).2.attempts = t.attempts.push op := by
  unfold attempt
  split
  · rfl
  · split <;> rfl

@[simp] theorem run_refuses (t : Target) (ops : List Operation) :
    (t.run ops).refuses = t.refuses := by
  induction ops generalizing t with
  | nil => rfl
  | cons op ops ih => rw [run_cons, ih, attempt_refuses]

theorem run_attempts (t : Target) (ops : List Operation) :
    (t.run ops).attempts = t.attempts ++ ops.toArray := by
  induction ops generalizing t with
  | nil => simp
  | cons op ops ih => simp [ih]

theorem attempt_program (t : Target) (op : Operation) :
    (t.attempt op).2.program =
      if t.refuses op then t.program else (t.program.perform op).toOption.getD t.program := by
  unfold attempt
  split
  · rfl
  · cases t.program.perform op <;> rfl

theorem run_keeps {P : Program → Prop} {ops : List Operation}
    (hstep : ∀ op ∈ ops, ∀ p p', P p → p.perform op = .ok p' → P p') {t : Target}
    (ht : P t.program) : P (t.run ops).program := by
  induction ops generalizing t with
  | nil => exact ht
  | cons op ops ih =>
    refine ih (fun op hop => hstep op (List.mem_cons_of_mem _ hop)) ?_
    rw [attempt_program]
    split
    · exact ht
    · cases hp : t.program.perform op with
      | ok p => exact hstep op List.mem_cons_self _ _ ht hp
      | error e => exact ht

/-! ## Up to what is fatal -/

/-- The handle that comes back when a structure is asked for. -/
def handle? (t : Target) (category name : String) (size : UInt32) (policy : ConflictPolicy) :
    Option StructHandle :=
  match t.attempt (.define category name size policy) with
  | (.ok _, t) => t.program.handleOf? category name
  | (.error _, _) => none

/-- Why an import ends at an operation: there is no handle for a structure, or the target refuses to
rebuild one. -/
def fatal? (t : Target) : Operation → Option Error
  | .define category name size policy =>
    if (t.handle? category name size policy).isSome then none else some (.typeCreationFailed name)
  | .rebuild handle members =>
    if t.refuses (.rebuild handle members) then some (.refused "rebuild") else none
  | _ => none

theorem fatal?_define (t : Target) (category name : String) (size : UInt32)
    (policy : ConflictPolicy) :
    t.fatal? (.define category name size policy) =
      if (t.handle? category name size policy).isSome then none
      else some (.typeCreationFailed name) := rfl

theorem fatal?_rebuild (t : Target) (handle : StructHandle) (members : List Member) :
    t.fatal? (.rebuild handle members) =
      if t.refuses (.rebuild handle members) then some (.refused "rebuild") else none := rfl

/-- Asks for operations up to the first that is fatal. -/
def play (t : Target) : List Operation → Option Error × Target
  | [] => (none, t)
  | op :: ops =>
    match t.fatal? op with
    | some e => (some e, (t.attempt op).2)
    | none => (t.attempt op).2.play ops

/-- None of the operations is fatal when they are asked for in turn. -/
def Passes (t : Target) (ops : List Operation) : Prop :=
  ∀ before op after, ops = before ++ op :: after → (t.run before).fatal? op = none

theorem passes_nil (t : Target) : t.Passes [] := by
  intro before op after h
  simp at h

theorem passes_cons_iff {t : Target} {op : Operation} {ops : List Operation} :
    t.Passes (op :: ops) ↔ t.fatal? op = none ∧ (t.attempt op).2.Passes ops := by
  constructor
  · intro h
    refine ⟨h [] op ops rfl, fun before op' after heq => ?_⟩
    exact h (op :: before) op' after (by rw [heq]; rfl)
  · rintro ⟨hop, hops⟩ before op' after heq
    cases before with
    | nil =>
      obtain ⟨rfl, rfl⟩ := List.cons.inj heq
      exact hop
    | cons first before =>
      obtain ⟨rfl, htail⟩ := List.cons.inj heq
      exact hops before op' after htail

theorem passes_of_forall {t : Target} {ops : List Operation}
    (h : ∀ op ∈ ops, ∀ t' : Target, t'.refuses = t.refuses → t'.fatal? op = none) :
    t.Passes ops := by
  rintro before op after rfl
  exact h op (by simp) _ (run_refuses t before)

theorem play_of_passes {t : Target} {ops : List Operation} (h : t.Passes ops) :
    t.play ops = (none, t.run ops) := by
  induction ops generalizing t with
  | nil => rfl
  | cons op ops ih =>
    obtain ⟨hop, hops⟩ := passes_cons_iff.1 h
    rw [play, hop]
    exact ih hops

theorem play_append (t : Target) (ops ops' : List Operation) :
    t.play (ops ++ ops') =
      match t.play ops with
      | (some e, t) => (some e, t)
      | (none, t) => t.play ops' := by
  induction ops generalizing t with
  | nil => rfl
  | cons op ops ih =>
    rw [List.cons_append, play, play]
    cases t.fatal? op with
    | some e => rfl
    | none => exact ih _

theorem passes_append_iff {t : Target} {ops ops' : List Operation} :
    t.Passes (ops ++ ops') ↔ t.Passes ops ∧ (t.run ops).Passes ops' := by
  induction ops generalizing t with
  | nil => simp [passes_nil]
  | cons op ops ih => rw [List.cons_append, passes_cons_iff, passes_cons_iff, ih, run_cons, and_assoc]

theorem passes_of_play_eq_none {t t' : Target} {ops : List Operation}
    (h : t.play ops = (none, t')) : t.Passes ops ∧ t' = t.run ops := by
  induction ops generalizing t with
  | nil =>
    cases h
    exact ⟨passes_nil _, rfl⟩
  | cons op ops ih =>
    rw [play] at h
    split at h
    · cases h
    · obtain ⟨hops, rfl⟩ := ih h
      exact ⟨passes_cons_iff.2 ⟨‹_›, hops⟩, rfl⟩

/-- A play that ends early ends at the first operation that is fatal. -/
theorem play_eq_some_iff {t t' : Target} {ops : List Operation} {e : Error} :
    t.play ops = (some e, t') ↔
      ∃ before op after, ops = before ++ op :: after ∧ t.Passes before ∧
        (t.run before).fatal? op = some e ∧ t' = t.run (before ++ [op]) := by
  constructor
  · intro h
    induction ops generalizing t with
    | nil => cases h
    | cons op ops ih =>
      rw [play] at h
      split at h
      · rename_i hop
        cases h
        exact ⟨[], op, ops, rfl, passes_nil _, hop, rfl⟩
      · rename_i hop
        obtain ⟨before, op', after, rfl, hbefore, hfatal, rfl⟩ := ih h
        exact ⟨op :: before, op', after, rfl, passes_cons_iff.2 ⟨hop, hbefore⟩, hfatal, rfl⟩
  · rintro ⟨before, op, after, rfl, hbefore, hfatal, rfl⟩
    rw [play_append, play_of_passes hbefore]
    simp only [play, hfatal, run_append, run_cons, run_nil]

theorem play_asks (t : Target) (ops : List Operation) :
    ∃ asked, asked <+: ops ∧ (t.play ops).2 = t.run asked := by
  rcases hplay : t.play ops with ⟨result, t'⟩
  cases result with
  | none =>
    obtain ⟨-, rfl⟩ := passes_of_play_eq_none hplay
    exact ⟨ops, List.prefix_rfl, rfl⟩
  | some e =>
    obtain ⟨before, op, after, rfl, -, -, rfl⟩ := play_eq_some_iff.1 hplay
    exact ⟨before ++ [op], by simp, rfl⟩

theorem play_keeps {P : Program → Prop} {ops : List Operation}
    (hstep : ∀ op ∈ ops, ∀ p p', P p → p.perform op = .ok p' → P p') {t : Target}
    (ht : P t.program) : P (t.play ops).2.program := by
  obtain ⟨asked, hasked, htarget⟩ := play_asks t ops
  rw [htarget]
  exact run_keeps (fun op hop => hstep op (hasked.subset hop)) ht

end Target

/-! ## Workspaces -/

namespace Workspace

@[simp] theorem info_target (ws : Workspace) (message : String) :
    (ws.info message).target = ws.target := rfl

theorem attempt_eq (ws : Workspace) (op : Operation) :
    ws.attempt op =
      ((ws.target.attempt op).1, { ws with target := (ws.target.attempt op).2 }) := rfl

theorem define_eq (ws : Workspace) (category name : String) (size : UInt32)
    (policy : ConflictPolicy) :
    ws.define category name size policy =
      (ws.target.handle? category name size policy,
        { ws with target := (ws.target.attempt (.define category name size policy)).2 }) := by
  unfold define Target.handle?
  rw [attempt_eq]
  obtain ⟨result, t⟩ := ws.target.attempt (.define category name size policy)
  cases result <;> rfl

end Workspace

end TypeRecovery
