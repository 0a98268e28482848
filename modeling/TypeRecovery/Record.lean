import TypeRecovery.Descriptor.Basic
import TypeRecovery.Flags

/-!
# Type records

A descriptor with its words given their meaning. `ρ` is how a record refers to types: by any index
before the catalog is checked, by an index below the catalog's size after that.
-/

namespace TypeRecovery

/-- The mark that a dump puts into the name of an incomplete generic instance. -/
def placeholderMark : Char := '!'

structure FieldRecord (ρ : Type) where
  name : String
  type : ρ
  /-- Offset behind the runtime header. -/
  offset : UInt32
  deriving DecidableEq, Repr

structure ParamRecord (ρ : Type) where
  name : String
  type : ρ
  modifiers : UInt32
  deriving DecidableEq, Repr

structure MethodRecord (ρ : Type) where
  name : String
  /-- Where the compiled code starts, or zero. -/
  address : UInt64
  result : ρ
  flags : UInt32
  params : List (ParamRecord ρ)
  deriving DecidableEq, Repr

structure TypeRecord (ρ : Type) where
  index : ρ
  fullName : String
  definitionAddress : UInt64
  isValueType : Bool
  /-- Inline size of a value type, allocated size of any other. -/
  size : UInt32
  /-- Size of the declared fields alone. -/
  declaredSize : UInt32
  systemType : UInt32
  isPlaceholder : Bool
  isTemplate : Bool
  base : Option ρ
  element : Option ρ
  /-- Instance fields that the type declares itself. -/
  fields : List (FieldRecord ρ)
  methods : List (MethodRecord ρ)
  deriving DecidableEq, Repr

variable {ρ σ : Type}

/-! ## From descriptors -/

def FieldRecord.ofDescriptor (d : FieldDescriptor) : FieldRecord Nat :=
  ⟨d.name, d.type.toNat, d.position⟩

def ParamRecord.ofDescriptor (d : ParamDescriptor) : ParamRecord Nat :=
  ⟨d.name, d.type.toNat, d.modifiers⟩

def MethodRecord.ofDescriptor (d : MethodDescriptor) : MethodRecord Nat :=
  ⟨d.name, d.address, d.result.type.toNat, d.flags, d.params.map .ofDescriptor⟩

/-- The record of a descriptor at an index. Static fields have no storage and are left out. -/
def TypeRecord.ofDescriptor (index : Nat) (d : TypeDescriptor) : TypeRecord Nat where
  index := index
  fullName := d.fullName
  definitionAddress := d.definitionAddress
  isValueType := isValueKind d.objectKind
  size := if isValueKind d.objectKind then d.length else d.runtimeLength
  declaredSize := d.length
  systemType := d.systemType
  isPlaceholder := d.fullName.toList.contains placeholderMark
  isTemplate := d.isTemplate
  base := d.base.map UInt32.toNat
  element := d.element.map UInt32.toNat
  fields := (d.fields.filter fun f => !isExcludedField f.flags).map .ofDescriptor
  methods := d.methods.map .ofDescriptor

/-! ## Questions -/

/-- Bytes in front of the declared fields. Negative if the dump contradicts itself. -/
def TypeRecord.headerLength (r : TypeRecord ρ) : Int := (r.size.toNat : Int) - r.declaredSize.toNat

def MethodRecord.isStatic (m : MethodRecord ρ) : Bool := isStaticMethod m.flags

/-- There is code that can be annotated. -/
def MethodRecord.hasAddress (m : MethodRecord ρ) : Bool := m.address ≠ 0

def ParamRecord.isByRef (p : ParamRecord ρ) : Bool := isByRefParam p.modifiers

/-! ## References -/

def MethodRecord.references (m : MethodRecord ρ) : List ρ :=
  m.result :: m.params.map ParamRecord.type

/-- The types that a record refers to, in the order in which they are checked. -/
def TypeRecord.references (r : TypeRecord ρ) : List ρ :=
  r.base.toList ++ r.element.toList ++ r.fields.map FieldRecord.type
    ++ r.methods.flatMap MethodRecord.references

def FieldRecord.map (f : ρ → σ) (r : FieldRecord ρ) : FieldRecord σ := ⟨r.name, f r.type, r.offset⟩

def ParamRecord.map (f : ρ → σ) (r : ParamRecord ρ) : ParamRecord σ :=
  ⟨r.name, f r.type, r.modifiers⟩

def MethodRecord.map (f : ρ → σ) (m : MethodRecord ρ) : MethodRecord σ :=
  ⟨m.name, m.address, f m.result, m.flags, m.params.map (ParamRecord.map f)⟩

/-- The record with every type index renamed, its own included. -/
def TypeRecord.map (f : ρ → σ) (r : TypeRecord ρ) : TypeRecord σ where
  index := f r.index
  fullName := r.fullName
  definitionAddress := r.definitionAddress
  isValueType := r.isValueType
  size := r.size
  declaredSize := r.declaredSize
  systemType := r.systemType
  isPlaceholder := r.isPlaceholder
  isTemplate := r.isTemplate
  base := r.base.map f
  element := r.element.map f
  fields := r.fields.map (FieldRecord.map f)
  methods := r.methods.map (MethodRecord.map f)

@[simp] theorem TypeRecord.headerLength_map (f : ρ → σ) (r : TypeRecord ρ) :
    (r.map f).headerLength = r.headerLength := rfl

end TypeRecovery
