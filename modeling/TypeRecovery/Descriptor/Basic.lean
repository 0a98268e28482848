import TypeRecovery.Json.Value

/-!
# Descriptors

What a dump says about a type, word for word. A dump is cut into chunks, each a run of descriptors
that starts at a given type index. What the words mean is the business of `Record`.
-/

namespace TypeRecovery

structure FieldDescriptor where
  name : String := ""
  type : UInt32 := 0
  position : UInt32 := 0
  flags : UInt32 := 0
  deriving Inhabited, Repr

structure ParamDescriptor where
  name : String := ""
  type : UInt32 := 0
  modifiers : UInt32 := 0
  deriving Inhabited, Repr

structure ReturnDescriptor where
  type : UInt32 := 0
  deriving Inhabited, Repr

/-- A method as dumped. An address of zero means that none is known. -/
structure MethodDescriptor where
  name : String := ""
  address : UInt64 := 0
  result : ReturnDescriptor := {}
  flags : UInt32 := 0
  params : List ParamDescriptor := []
  deriving Inhabited, Repr

structure TypeDescriptor where
  definitionAddress : UInt64 := 0
  fullName : String := ""
  objectKind : UInt32 := 0
  /-- Size of the declared fields. -/
  length : UInt32 := 0
  /-- Size of an instance with the runtime header. -/
  runtimeLength : UInt32 := 0
  systemType : UInt32 := 0
  generics : Option Json.Value := none
  base : Option UInt32 := none
  element : Option UInt32 := none
  fields : List FieldDescriptor := []
  methods : List MethodDescriptor := []
  deriving Inhabited, Repr

/-- A run of types, the first of which has index `start`. -/
structure Chunk where
  start : UInt32 := 0
  types : List TypeDescriptor := []
  deriving Inhabited, Repr

/-- A generic definition that stands for no type of its own. -/
def TypeDescriptor.isTemplate (t : TypeDescriptor) : Bool :=
  match t.generics with
  | some value => value.hasField "Template"
  | none => false

end TypeRecovery
