import TypeRecovery.AddressMap
import TypeRecovery.Error
import TypeRecovery.Program.Region

/-!
# Programs

A disassembler database: structures, labels, functions and memory. Structures are only ever added,
so a handle keeps its meaning. Address zero never carries a label or a function. As soon as there is
memory, a label has to lie in it and a function in an executable part of it.
-/

namespace TypeRecovery

/-! ## What a program holds -/

structure Struct where
  category : String
  name : String
  /-- The size it was created with. -/
  size : UInt32
  members : List Member
  deriving DecidableEq, Repr

/-- The declared size, or the end of the last member if that lies beyond. -/
def Struct.length (s : Struct) : Nat := s.members.foldl (fun n m => max n m.stop) s.size.toNat

def Struct.member? (s : Struct) (name : String) : Option Member :=
  s.members.find? fun m => m.name = some name

structure Function where
  address : UInt64
  name : String
  signature : Option Signature
  deriving DecidableEq, Repr

structure Program where
  structs : Array Struct
  labels : AddressMap (List String)
  functions : AddressMap Function
  regions : Array Region

/-- What to do with a structure whose name is taken. -/
inductive ConflictPolicy where
  /-- Set its size anew and drop its members. -/
  | replace
  | keep
  deriving DecidableEq, Repr

namespace Program

def empty : Program := ⟨#[], .empty, .empty, #[]⟩

instance : Inhabited Program := ⟨empty⟩

/-! ## Looking up -/

def struct? (p : Program) (h : StructHandle) : Option Struct := p.structs[h.index]?

def handleOf? (p : Program) (category name : String) : Option StructHandle :=
  (p.structs.findIdx? fun s => s.name = name && s.category = category).map StructHandle.mk

def structOf? (p : Program) (category name : String) : Option Struct :=
  (p.handleOf? category name).bind p.struct?

def labelsAt (p : Program) (address : UInt64) : List String := (p.labels.find? address).getD []

def function? (p : Program) (address : UInt64) : Option Function := p.functions.find? address

def typeName (p : Program) : DataType → String
  | .undefined => "undefined"
  | .scalar kind => kind.cName
  | .struct h =>
    match p.struct? h with
    | some s => s.name
    | none => s!"<struct #{h.index}>"
  | .pointer target => p.typeName target ++ " *"
  | .array element count _ => p.typeName element ++ s!"[{count}]"

/-! ## Address rules -/

def acceptsLabel (p : Program) (address : UInt64) : Bool :=
  address ≠ 0 && (p.regions.isEmpty || p.regions.any (·.contains address))

def acceptsFunction (p : Program) (address : UInt64) : Bool :=
  address ≠ 0 && (p.regions.isEmpty
    || p.regions.any fun r => r.permissions.allows Permissions.execute && r.contains address)

/-! ## Changing -/

/-- A label at an address. One that is there already is not repeated. -/
def label (p : Program) (address : UInt64) (name : String) : Except Error Program :=
  if p.acceptsLabel address then
    let old := p.labelsAt address
    .ok { p with labels := p.labels.insert address (if name ∈ old then old else old ++ [name]) }
  else .error (.invalidAddress address)

/-- Handles have 32 bits, so that a program holds no more structures than that. -/
def structBound : Nat := UInt32.size

/-- An empty structure of a name, which may exist already. A program that is full stays as it is. -/
def define (p : Program) (category name : String) (size : UInt32) (policy : ConflictPolicy) :
    Program :=
  match p.handleOf? category name with
  | some h =>
    match policy with
    | .replace =>
      { p with structs := p.structs.modify h.index fun s => { s with size := size, members := [] } }
    | .keep => p
  | none =>
    if p.structs.size < structBound then
      { p with structs := p.structs.push ⟨category, name, size, []⟩ }
    else p

/-- New members for a structure. -/
def rebuild (p : Program) (h : StructHandle) (members : List Member) : Except Error Program :=
  if h.index < p.structs.size then
    .ok { p with structs := p.structs.modify h.index fun s => { s with members := members } }
  else .error (.unknownHandle h.index)

/-- A function without a signature. One that is there already gives way. -/
def createFunction (p : Program) (address : UInt64) (name : String) : Except Error Program :=
  if p.acceptsFunction address then
    .ok { p with functions := p.functions.insert address ⟨address, name, none⟩ }
  else .error (.invalidAddress address)

def renameFunction (p : Program) (address : UInt64) (name : String) : Except Error Program :=
  match p.function? address with
  | some f => .ok { p with functions := p.functions.insert address { f with name := name } }
  | none => .error (.invalidAddress address)

def applySignature (p : Program) (address : UInt64) (signature : Signature) :
    Except Error Program :=
  match p.function? address with
  | some f =>
    .ok { p with functions := p.functions.insert address { f with signature := some signature } }
  | none => .error (.invalidAddress address)

/-- A new region, which must hold bytes, stay within the address space and share no address with
another. -/
def mapRegion (p : Program) (name : String) (base : UInt64) (data : ByteArray)
    (permissions : Permissions) : Except Error Program :=
  if data.size = 0 then .error (.emptyRegion name)
  else if maxAddress < base.toNat + data.size then .error (.invalidAddress base)
  else if p.regions.any (·.intersects base data.size) then .error (.regionOverlap base data.size)
  else .ok { p with regions := p.regions.push ⟨name, base, data, permissions⟩ }

end Program

end TypeRecovery
