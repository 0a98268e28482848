import TypeRecovery.Catalog.Basic
import TypeRecovery.DataType

/-!
# Representations

Every type of a catalog is either a scalar or has a structure of its own in the program. A value
type is stored inline, any other type as a pointer.
-/

namespace TypeRecovery

inductive Representation where
  | scalar (kind : ScalarKind)
  | struct (handle : StructHandle)
  deriving DecidableEq, Repr

namespace Representation

def dataType : Representation → DataType
  | .scalar kind => .scalar kind
  | .struct handle => .struct handle

def isScalar : Representation → Bool
  | .scalar _ => true
  | .struct _ => false

end Representation

/-! ## System types -/

/-- The runtime's tags with a scalar representation. Tags 17, 24 and 25 repeat 15, 20 and 21. -/
def systemTypes : List (Nat × ScalarKind) :=
  [(13, .u8), (14, .i8), (15, .u16), (16, .i16), (17, .u16), (18, .i32), (19, .u32), (20, .i64),
    (21, .u64), (22, .f32), (23, .f64), (24, .i64), (25, .u64), (26, .bool), (31, .void)]

def scalarOfSystemType? (tag : UInt32) : Option ScalarKind := systemTypes.lookup tag.toNat

/-! ## Handles -/

structure Handles (c : Catalog) where
  representations : Vector Representation c.size

/-- How one value of a type is stored. -/
structure Storage where
  type : DataType
  length : Nat
  deriving DecidableEq, Repr

namespace Handles

variable {c : Catalog}

def get (h : Handles c) (i : c.Index) : Representation := h.representations.get i

def dataType (h : Handles c) (i : c.Index) : DataType := (h.get i).dataType

def storage (h : Handles c) (i : c.Index) : Storage :=
  if (c.record i).isValueType then ⟨h.dataType i, (c.record i).size.toNat⟩
  else ⟨.pointer (h.dataType i), pointerSize⟩

def scalarCount (h : Handles c) : Nat := h.representations.toList.countP Representation.isScalar

end Handles

end TypeRecovery
