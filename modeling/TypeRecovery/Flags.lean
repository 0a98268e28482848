/-!
# Flag words

The runtime's attribute words. Every bit of a word is kept, also the ones that have no name, and
only three bits have a meaning here: a static field has no storage in an instance, a static method
gets no instance, and a parameter may be passed by reference.
-/

namespace TypeRecovery

structure Flag where
  name : String
  mask : UInt32
  deriving DecidableEq, Repr

/-- Every bit of the flag is set in the word. -/
def Flag.isIn (flag : Flag) (word : UInt32) : Bool := word &&& flag.mask == flag.mask

def flagNames (table : List Flag) (word : UInt32) : List String :=
  (table.filter (·.isIn word)).map Flag.name

/-- The bits of a word that some flag of the table covers. -/
def knownBits (table : List Flag) (word : UInt32) : UInt32 :=
  word &&& table.foldl (fun bits flag => bits ||| flag.mask) 0

def staticFlag : Flag := ⟨"STATIC", 0x10⟩

/-! ## Fields -/

def fieldFlags : List Flag :=
  [⟨"PRIVATE", 0x1⟩, ⟨"PUBLIC", 0x6⟩, staticFlag, ⟨"READONLY", 0x20⟩, ⟨"LITERAL", 0x40⟩,
    ⟨"NO_SERIALIZE", 0x80⟩, ⟨"HAS_RVA", 0x100⟩, ⟨"SPECIAL", 0x200⟩, ⟨"RT_SPECIAL", 0x400⟩]

/-- A field that takes no part in the layout of an instance. -/
def isExcludedField (word : UInt32) : Bool := staticFlag.isIn word

/-! ## Methods -/

def methodFlags : List Flag :=
  [⟨"PRIVATE", 0x1⟩, ⟨"PUBLIC", 0x6⟩, ⟨"UNMANAGED_EXPORT", 0x8⟩, staticFlag, ⟨"FINAL", 0x20⟩,
    ⟨"VIRTUAL", 0x40⟩, ⟨"HIDE_BY_SIG", 0x80⟩, ⟨"NEW_SLOT", 0x100⟩, ⟨"ABSTRACT", 0x400⟩,
    ⟨"SPECIAL_NAME", 0x800⟩, ⟨"RT_SPECIAL_NAME", 0x1000⟩]

/-- A method without an instance parameter. -/
def isStaticMethod (word : UInt32) : Bool := staticFlag.isIn word

/-! ## Parameters -/

def byRefFlag : Flag := ⟨"BY_REF", 0x1⟩

/-- A parameter with one more level of pointer. -/
def isByRefParam (word : UInt32) : Bool := byRefFlag.isIn word

/-! ## Kinds of object -/

inductive ObjectKind where
  | null
  | object
  | array
  | string
  | delegate
  | value
  deriving DecidableEq, Repr

/-- The kind of a number, if it has one. -/
def ObjectKind.ofWord? (word : UInt32) : Option ObjectKind :=
  match word.toNat with
  | 0 => some .null
  | 1 => some .object
  | 2 => some .array
  | 3 => some .string
  | 4 => some .delegate
  | 5 => some .value
  | _ => none

def ObjectKind.name : ObjectKind → String
  | .null => "Null"
  | .object => "Object"
  | .array => "Array"
  | .string => "String"
  | .delegate => "Delegate"
  | .value => "ValType"

/-- Only a value type is stored inline. Anything else lives behind a pointer. -/
def isValueKind (word : UInt32) : Bool := ObjectKind.ofWord? word = some .value

end TypeRecovery
