import TypeRecovery.Representation

/-!
# Method signatures

A method gets a slot for a large returned value, a context, its instance unless it is static, and
then its declared parameters.
-/

namespace TypeRecovery

def returnSlotName : String := "$ret"

def contextName : String := "$ctx"

def thisName : String := "$this"

/-- A larger value type is returned through a slot. -/
def maxDirectReturn : Nat := 8

variable {c : Catalog}

/-- A value is passed as it is, anything else as a pointer. -/
def passedAs (h : Handles c) (i : c.Index) : DataType :=
  if (c.record i).isValueType then h.dataType i else .pointer (h.dataType i)

/-- The returned value goes through a slot. -/
def returnsThroughSlot (c : Catalog) (i : c.Index) : Bool :=
  (c.record i).isValueType && maxDirectReturn < (c.record i).size.toNat

def returnPart (h : Handles c) (i : c.Index) : DataType × List Parameter :=
  if returnsThroughSlot c i then (.scalar .void, [⟨returnSlotName, .pointer (h.dataType i)⟩])
  else (passedAs h i, [])

def thisPart (h : Handles c) (owner : c.Index) (m : MethodRecord c.Index) : List Parameter :=
  if m.isStatic then [] else [⟨thisName, .pointer (h.dataType owner)⟩]

def declaredParameter (h : Handles c) (p : ParamRecord c.Index) : Parameter :=
  ⟨p.name, if p.isByRef then .pointer (passedAs h p.type) else passedAs h p.type⟩

def signatureOf (h : Handles c) (owner : c.Index) (m : MethodRecord c.Index) : Signature :=
  let (result, slot) := returnPart h m.result
  ⟨result, slot ++ ⟨contextName, .voidPointer⟩ :: (thisPart h owner m
    ++ m.params.map (declaredParameter h))⟩

def functionName {ρ : Type} (owner : TypeRecord ρ) (m : MethodRecord ρ) : String :=
  owner.fullName ++ "." ++ m.name

end TypeRecovery
