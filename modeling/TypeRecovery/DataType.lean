/-!
# Data types

What a structure member, a parameter or a return value can be, and the members themselves. Sizes
and offsets are natural numbers, and only the end of a member is kept within 64 bits.
-/

namespace TypeRecovery

/-- Bytes of a pointer. -/
def pointerSize : Nat := 8

/-- The end of the address space. -/
def maxAddress : Nat := 0xFFFFFFFFFFFFFFFF

/-! ## Scalars -/

inductive ScalarKind where
  | u8 | i8 | u16 | i16 | i32 | u32 | i64 | u64 | f32 | f64 | bool | void
  deriving DecidableEq, Repr

namespace ScalarKind

def all : List ScalarKind :=
  [.u8, .i8, .u16, .i16, .i32, .u32, .i64, .u64, .f32, .f64, .bool, .void]

def size : ScalarKind → Nat
  | .void => 0
  | .u8 | .i8 | .bool => 1
  | .u16 | .i16 => 2
  | .i32 | .u32 | .f32 => 4
  | .i64 | .u64 | .f64 => 8

def text : ScalarKind → String
  | .u8 => "u8"
  | .i8 => "i8"
  | .u16 => "u16"
  | .i16 => "i16"
  | .i32 => "i32"
  | .u32 => "u32"
  | .i64 => "i64"
  | .u64 => "u64"
  | .f32 => "f32"
  | .f64 => "f64"
  | .bool => "bool"
  | .void => "void"

def cName : ScalarKind → String
  | .u8 => "uint8_t"
  | .i8 => "int8_t"
  | .u16 => "uint16_t"
  | .i16 => "int16_t"
  | .i32 => "int32_t"
  | .u32 => "uint32_t"
  | .i64 => "int64_t"
  | .u64 => "uint64_t"
  | .f32 => "float"
  | .f64 => "double"
  | .bool => "bool"
  | .void => "void"

end ScalarKind

/-! ## Composed types -/

/-- Names a structure of a program by its place in the order of creation. -/
structure StructHandle where
  index : Nat
  deriving DecidableEq, Repr

inductive DataType where
  /-- One byte of unknown meaning. -/
  | undefined
  | scalar (kind : ScalarKind)
  | struct (handle : StructHandle)
  | pointer (target : DataType)
  | array (element : DataType) (count elementLength : Nat)
  deriving DecidableEq, Repr

namespace DataType

def voidPointer : DataType := .pointer (.scalar .void)

/-- Bytes of unknown meaning, `length` of them. -/
def filler (length : Nat) : DataType := .array .undefined length 1

def isVoid (t : DataType) : Bool := t = .scalar .void

end DataType

/-! ## Members -/

structure Member where
  offset : Nat
  name : Option String
  type : DataType
  length : Nat
  deriving DecidableEq, Repr

namespace Member

def field (offset : Nat) (name : String) (type : DataType) (length : Nat) : Member :=
  ⟨offset, some name, type, length⟩

def filler (offset length : Nat) : Member := ⟨offset, none, .filler length, length⟩

def isFiller (m : Member) : Bool := m.name.isNone

/-- The first byte after the member, or the last address if that lies beyond it. -/
def stop (m : Member) : Nat := min (m.offset + m.length) maxAddress

@[simp] theorem isFiller_field (offset : Nat) (name : String) (type : DataType) (length : Nat) :
    (field offset name type length).isFiller = false := rfl

@[simp] theorem isFiller_filler (offset length : Nat) :
    (filler offset length).isFiller = true := rfl

end Member

/-! ## Signatures -/

structure Parameter where
  name : String
  type : DataType
  deriving DecidableEq, Repr

/-- A return type and the parameters in order, implicit ones first. -/
structure Signature where
  result : DataType
  parameters : List Parameter
  deriving DecidableEq, Repr

end TypeRecovery
