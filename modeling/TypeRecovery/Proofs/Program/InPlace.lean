import TypeRecovery.Proofs.Program.Parts

/-!
# Operations in place

An operation may be carried out step by step on a program that keeps what was written when a later
step fails. It makes no difference: every operation that fails does so before it writes.
-/

namespace TypeRecovery

/-- Steps on a program. What was written before one of them failed stays. -/
abbrev Steps := ExceptT Error (StateM Program)

namespace Steps

variable {α : Type}

/-- How steps end on a program, and the program by then. -/
def on (steps : Steps α) (p : Program) : Except Error α × Program := steps.run.run p

section

variable {p : Program}

@[simp] theorem on_pure (a : α) : (pure a : Steps α).on p = (.ok a, p) := rfl

@[simp] theorem on_throw (e : Error) : (throw e : Steps α).on p = (.error e, p) := rfl

@[simp] theorem on_modify (f : Program → Program) : (modify f : Steps PUnit).on p = (.ok (), f p) :=
  rfl

@[simp] theorem on_get_bind (next : Program → Steps α) : (get >>= next).on p = (next p).on p := rfl

@[simp] theorem on_modify_bind (f : Program → Program) (next : PUnit → Steps α) :
    (modify f >>= next).on p = (next ()).on (f p) := rfl

end

/-- An address without labels gets an empty list before its first one. -/
def label (address : UInt64) (name : String) : Steps Unit := do
  if (← get).acceptsLabel address then
    modify fun p => { p with labels := p.labels.insert address (p.labelsAt address) }
    if name ∉ (← get).labelsAt address then
      modify fun p =>
        { p with labels := p.labels.insert address (p.labelsAt address ++ [name]) }
  else throw (.invalidAddress address)

/-- Changes a structure that is there. -/
def update (k : StructHandle) (f : Struct → Struct) : Steps Unit :=
  modify fun p => { p with structs := p.structs.modify k.index f }

def define (category name : String) (size : UInt32) (policy : ConflictPolicy) : Steps Unit := do
  match (← get).handleOf? category name with
  | some k =>
    if policy = .replace then
      update k fun s => { s with size := size }
      update k fun s => { s with members := [] }
  | none =>
    if (← get).structs.size < Program.structBound then
      modify fun p => { p with structs := p.structs.push ⟨category, name, size, []⟩ }

def rebuild (k : StructHandle) (members : List Member) : Steps Unit := do
  if k.index < (← get).structs.size then update k fun s => { s with members := members }
  else throw (.unknownHandle k.index)

def putFunction (f : Function) (address : UInt64) : Steps Unit :=
  modify fun p => { p with functions := p.functions.insert address f }

def createFunction (address : UInt64) (name : String) : Steps Unit := do
  if (← get).acceptsFunction address then putFunction ⟨address, name, none⟩ address
  else throw (.invalidAddress address)

/-- Changes the function at an address, if there is one. -/
def updateFunction (address : UInt64) (f : Function → Function) : Steps Unit := do
  match (← get).function? address with
  | some old => putFunction (f old) address
  | none => throw (.invalidAddress address)

def mapRegion (name : String) (base : UInt64) (data : ByteArray) (permissions : Permissions) :
    Steps Unit := do
  if data.size = 0 then throw (.emptyRegion name)
  if maxAddress < base.toNat + data.size then throw (.invalidAddress base)
  if (← get).regions.any (·.intersects base data.size) then
    throw (.regionOverlap base data.size)
  modify fun p => { p with regions := p.regions.push ⟨name, base, data, permissions⟩ }

end Steps

namespace Operation

def steps : Operation → Steps Unit
  | .label address name => Steps.label address name
  | .define category name size policy => Steps.define category name size policy
  | .rebuild k members => Steps.rebuild k members
  | .createFunction address name => Steps.createFunction address name
  | .renameFunction address name => Steps.updateFunction address fun f => { f with name := name }
  | .applySignature address signature =>
    Steps.updateFunction address fun f => { f with signature := some signature }
  | .mapRegion name base data permissions => Steps.mapRegion name base data permissions

end Operation

/-! ## Outcomes -/

/-- The outcome of what is done at once or not at all. -/
def Program.settle (p : Program) : Except Error Program → Except Error Unit × Program
  | .ok p' => (.ok (), p')
  | .error e => (.error e, p)

theorem Program.settle_eq (p : Program) (op : Operation) :
    p.settle (p.perform op) = ((p.perform op).map fun _ => (), p.after [op]) := by
  rw [after_singleton]
  cases p.perform op <;> rfl

namespace Steps

variable {p : Program}

theorem modify_modify {α : Type} (xs : Array α) (n : Nat) (f g : α → α) :
    (xs.modify n f).modify n g = xs.modify n (g ∘ f) := by
  apply Array.ext_getElem?
  intro j
  rw [Array.getElem?_modify, Array.getElem?_modify, Array.getElem?_modify]
  split
  · rw [Option.map_map]
  · rfl

theorem label_on (address : UInt64) (name : String) :
    (label address name).on p = p.settle (p.label address name) := by
  unfold label Program.label
  by_cases haccepts : p.acceptsLabel address = true
  · have hlabels : ({ p with labels := p.labels.insert address (p.labelsAt address) } :
        Program).labelsAt address = p.labelsAt address := by
      unfold Program.labelsAt
      rw [AddressMap.find?_insert, if_pos rfl]
      rfl
    by_cases hmem : name ∈ p.labelsAt address
    · simp [haccepts, hmem, hlabels, Program.settle]
    · simp [haccepts, hmem, hlabels, AddressMap.insert_insert, Program.settle]
  · simp [haccepts, Program.settle]

theorem define_on (category name : String) (size : UInt32) (policy : ConflictPolicy) :
    (define category name size policy).on p = (.ok (), p.define category name size policy) := by
  unfold define Program.define
  rw [on_get_bind]
  cases p.handleOf? category name with
  | some k =>
    cases policy with
    | replace =>
      simp only [if_true, update, on_modify_bind, on_modify, modify_modify]
      rfl
    | keep => simp
  | none => by_cases hroom : p.structs.size < Program.structBound <;> simp [hroom]

theorem rebuild_on (k : StructHandle) (members : List Member) :
    (rebuild k members).on p = p.settle (p.rebuild k members) := by
  unfold rebuild Program.rebuild
  by_cases hlt : k.index < p.structs.size <;> simp [hlt, update, Program.settle]

theorem createFunction_on (address : UInt64) (name : String) :
    (createFunction address name).on p = p.settle (p.createFunction address name) := by
  unfold createFunction Program.createFunction
  by_cases haccepts : p.acceptsFunction address = true <;>
    simp [haccepts, putFunction, Program.settle]

theorem updateFunction_on (address : UInt64) (f : Function → Function) :
    (updateFunction address f).on p =
      p.settle (match p.function? address with
        | some old => .ok { p with functions := p.functions.insert address (f old) }
        | none => .error (.invalidAddress address)) := by
  unfold updateFunction
  rw [on_get_bind]
  cases p.function? address <;> rfl

theorem mapRegion_on (name : String) (base : UInt64) (data : ByteArray)
    (permissions : Permissions) :
    (mapRegion name base data permissions).on p =
      p.settle (p.mapRegion name base data permissions) := by
  unfold mapRegion Program.mapRegion
  by_cases hempty : data.size = 0
  · simp [hempty, Program.settle]
  · by_cases hwraps : maxAddress < base.toNat + data.size
    · simp [hempty, hwraps, Program.settle]
    · by_cases hmeets : p.regions.any (·.intersects base data.size) = true
      · rw [if_neg hempty, if_neg hwraps, if_pos hmeets, if_neg hempty, if_neg hwraps, on_get_bind,
          if_pos hmeets]
        rfl
      · rw [if_neg hempty, if_neg hwraps, if_neg hmeets, if_neg hempty, if_neg hwraps, on_get_bind,
          if_neg hmeets]
        rfl

end Steps

namespace Operation

variable {p : Program}

/-- What an operation checks it checks before it writes. -/
theorem steps_on (op : Operation) : op.steps.on p = p.settle (p.perform op) := by
  cases op with
  | label address name => exact Steps.label_on address name
  | define category name size policy => exact Steps.define_on category name size policy
  | rebuild k members => exact Steps.rebuild_on k members
  | createFunction address name => exact Steps.createFunction_on address name
  | renameFunction address name => exact Steps.updateFunction_on address _
  | applySignature address signature => exact Steps.updateFunction_on address _
  | mapRegion name base data permissions => exact Steps.mapRegion_on name base data permissions

theorem steps_on_of_error {op : Operation} {e : Error} (h : (op.steps.on p).1 = .error e) :
    (op.steps.on p).2 = p := by
  rw [steps_on] at h ⊢
  cases hperform : p.perform op with
  | ok p' =>
    rw [hperform] at h
    cases h
  | error e => rfl

end Operation

/-- The program after operations were carried out in place. -/
def Program.afterSteps (p : Program) (ops : List Operation) : Program :=
  ops.foldl (fun p op => (op.steps.on p).2) p

theorem Program.afterSteps_eq (p : Program) (ops : List Operation) :
    p.afterSteps ops = p.after ops := by
  induction ops generalizing p with
  | nil => rfl
  | cons op ops ih =>
    calc p.afterSteps (op :: ops) = (op.steps.on p).2.after ops := ih _
      _ = (p.after [op]).after ops := by rw [Operation.steps_on, settle_eq]
      _ = p.after (op :: ops) := (after_append p [op] ops).symm

end TypeRecovery
