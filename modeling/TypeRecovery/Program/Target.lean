import TypeRecovery.Program.Basic

/-!
# Targets

Every change of a program is an operation. A target hands operations on to its program, but may
refuse any of them, and remembers what was attempted.
-/

namespace TypeRecovery

inductive Operation where
  | label (address : UInt64) (name : String)
  | define (category name : String) (size : UInt32) (policy : ConflictPolicy)
  | rebuild (handle : StructHandle) (members : List Member)
  | createFunction (address : UInt64) (name : String)
  | renameFunction (address : UInt64) (name : String)
  | applySignature (address : UInt64) (signature : Signature)
  | mapRegion (name : String) (base : UInt64) (data : ByteArray) (permissions : Permissions)

namespace Operation

def kind : Operation → String
  | .label .. => "label"
  | .define .. => "define"
  | .rebuild .. => "rebuild"
  | .createFunction .. => "create_function"
  | .renameFunction .. => "rename_function"
  | .applySignature .. => "apply_signature"
  | .mapRegion .. => "region"

/-- What tells an operation from others of its kind. -/
def key : Operation → String
  | .label _ name => name
  | .define _ name _ _ => name
  | .rebuild handle _ => toString handle.index
  | .createFunction _ name => name
  | .renameFunction _ name => name
  | .applySignature address _ => toString address.toNat
  | .mapRegion name _ _ _ => name

/-- The pattern is the kind of the operation, or its kind and key with a colon between. -/
def fits (op : Operation) (pattern : String) : Bool :=
  pattern = op.kind || pattern = op.kind ++ ":" ++ op.key

end Operation

def Program.perform (p : Program) : Operation → Except Error Program
  | .label address name => p.label address name
  | .define category name size policy => .ok (p.define category name size policy)
  | .rebuild handle members => p.rebuild handle members
  | .createFunction address name => p.createFunction address name
  | .renameFunction address name => p.renameFunction address name
  | .applySignature address signature => p.applySignature address signature
  | .mapRegion name base data permissions => p.mapRegion name base data permissions

structure Target where
  program : Program
  refuses : Operation → Bool
  /-- Every operation that was asked for, in order. -/
  attempts : Array Operation

namespace Target

/-- A target that refuses nothing. -/
def ofProgram (p : Program) : Target := ⟨p, fun _ => false, #[]⟩

instance : Inhabited Target := ⟨ofProgram .empty⟩

/-- Refuses the operations that fit one of the patterns. -/
def refusing (patterns : List String) (op : Operation) : Bool := patterns.any op.fits

def attempt (t : Target) (op : Operation) : Except Error Unit × Target :=
  let asked := t.attempts.push op
  if t.refuses op then (.error (.refused op.kind), { t with attempts := asked })
  else
    match t.program.perform op with
    | .ok p => (.ok (), { t with program := p, attempts := asked })
    | .error e => (.error e, { t with attempts := asked })

end Target

end TypeRecovery
