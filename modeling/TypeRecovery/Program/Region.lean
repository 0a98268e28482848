import TypeRecovery.DataType

/-!
# Memory regions

A region maps bytes at an address. It covers the half-open range from its base to its base plus its
length.
-/

namespace TypeRecovery

/-! ## Permissions -/

structure Permissions where
  bits : UInt8
  deriving DecidableEq, Repr

namespace Permissions

def read : UInt8 := 1
def write : UInt8 := 2
def execute : UInt8 := 4

def all : Permissions := ⟨read ||| write ||| execute⟩

def allows (p : Permissions) (bit : UInt8) : Bool := p.bits &&& bit == bit

/-- One letter for each permission, or a dash. -/
def text (p : Permissions) : String :=
  String.ofList
    [ if p.allows read then 'r' else '-',
      if p.allows write then 'w' else '-',
      if p.allows execute then 'x' else '-' ]

end Permissions

/-! ## Regions -/

structure Region where
  name : String
  base : UInt64
  data : ByteArray
  permissions : Permissions

namespace Region

def length (r : Region) : Nat := r.data.size

/-- The first address behind the region, or the last address if that lies beyond it. -/
def stop (r : Region) : Nat := min (r.base.toNat + r.length) maxAddress

def contains (r : Region) (address : UInt64) : Bool :=
  r.base.toNat ≤ address.toNat && address.toNat < r.base.toNat + r.length

/-- The region shares an address with `length` bytes at `base`. -/
def intersects (r : Region) (base : UInt64) (length : Nat) : Bool :=
  base.toNat < r.stop && r.base.toNat < base.toNat + length

end Region

end TypeRecovery
