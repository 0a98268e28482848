import TypeRecovery.Layout.Warning
import TypeRecovery.Representation

/-!
# Layouts

The members of a type's structure. Fields of the type and of its bases are candidates, each at its
declared offset behind the header of the type that is laid out. They are placed in order of their
offsets. Gaps become filler, and a candidate that starts before the end of what is placed is left
out with a warning. The result is padded to the declared size, and an array container gets its
bookkeeping fields and a sample of its elements behind that.
-/

namespace TypeRecovery

/-! ## Fixed names and sizes -/

/-- From this header length on, a type starts with a vtable slot and a lock slot. -/
def headerThreshold : Int := 16

def vtableName : String := "$vtable"

def lockName : String := "$lock"

/-- The bookkeeping fields in front of the elements of an array container. -/
def trailerNames : List String := ["$x", "$y", "$rank", "$count"]

def dataName : String := "$data"

/-- How many elements an array container shows unless told otherwise. The real number is in the
`$count` field. -/
def defaultSampleLength : UInt32 := 42

/-! ## Candidates -/

/-- A field that asks for a place. -/
structure Candidate where
  offset : Int
  name : String
  storage : Storage
  deriving DecidableEq, Repr

def slotStorage : Storage := ⟨.voidPointer, pointerSize⟩

def headerSlots (header : Int) : List Candidate :=
  if headerThreshold ≤ header then
    [⟨0, vtableName, slotStorage⟩, ⟨8, lockName, slotStorage⟩]
  else []

variable {c : Catalog}

def fieldCandidate (h : Handles c) (header : Int) (f : FieldRecord c.Index) : Candidate :=
  ⟨f.offset.toNat + header, f.name, h.storage f.type⟩

/-- The declared fields of a type and its bases, the type itself first. -/
def inheritedFields (c : Catalog) (i : c.Index) : List (FieldRecord c.Index) :=
  (c.baseChain i).flatMap fun j => (c.record j).fields

/-- Everything that asks for a place in a type. -/
def candidates (h : Handles c) (i : c.Index) : List Candidate :=
  let header := (c.record i).headerLength
  headerSlots header ++ (inheritedFields c i).map (fieldCandidate h header)

/-- Candidates in order of their offsets. Those of one offset keep their order. -/
def sortCandidates (cs : List Candidate) : List Candidate :=
  cs.mergeSort fun a b => a.offset ≤ b.offset

/-! ## Placing -/

def fillGap (start stop : Nat) : List Member :=
  if start < stop then [.filler start (stop - start)] else []

/-- Members in order, warnings in order, and the end of what is placed. -/
structure Placement where
  members : List Member
  warnings : List LayoutWarning
  stop : Nat
  deriving DecidableEq, Repr

/-- Places candidates from `cursor` on. One that takes no bytes is dropped. -/
def place (typeName : String) : Nat → List Candidate → Placement
  | cursor, [] => ⟨[], [], cursor⟩
  | cursor, x :: rest =>
    if x.storage.length = 0 then place typeName cursor rest
    else if x.offset < cursor then
      let p := place typeName cursor rest
      { p with warnings := .overlap typeName x.name x.offset cursor :: p.warnings }
    else
      let start := x.offset.toNat
      let p := place typeName (start + x.storage.length) rest
      { p with
        members := fillGap cursor start
          ++ .field start x.name x.storage.type x.storage.length :: p.members }

/-- Pads a placement up to a size, or warns that it is larger. -/
def pad (typeName : String) (size : UInt32) (p : Placement) : Placement :=
  if size.toNat < p.stop then
    { p with warnings := p.warnings ++ [.overflow typeName p.stop size] }
  else
    { p with members := p.members ++ fillGap p.stop size.toNat, stop := size.toNat }

/-- The members of a type before any array trailer. -/
def body (h : Handles c) (i : c.Index) : Placement :=
  let r := c.record i
  pad r.fullName r.size (place r.fullName 0 (sortCandidates (candidates h i)))

/-! ## Array containers -/

/-- A four-byte count in the trailer. -/
def countField (offset : Nat) (name : String) : Member := .field offset name (.scalar .i32) 4

/-- The bookkeeping fields at an offset, and a sample of `count` elements behind them. -/
def trailer (offset : Nat) (element : Storage) (count : Nat) : List Member :=
  (trailerNames.zipIdx.map fun (name, k) => countField (offset + 4 * k) name)
    ++ [ .field (offset + 4 * trailerNames.length) dataName
          (.array element.type count element.length) (count * element.length) ]

/-! ## Layouts -/

structure Layout where
  members : List Member
  /-- The end of the fields and padding, before any array trailer. -/
  occupied : Nat
  warnings : List LayoutWarning
  deriving DecidableEq, Repr

/-- Lays out a type. An array container shows `sampleLength` elements. -/
def layout (h : Handles c) (sampleLength : UInt32) (i : c.Index) : Layout :=
  let p := body h i
  let rest :=
    match (c.record i).element with
    | some e => trailer p.stop (h.storage e) sampleLength.toNat
    | none => []
  ⟨p.members ++ rest, p.stop, p.warnings⟩

/-- The structure of a type that gets a layout. A scalar has none, and placeholders and generic
definitions keep their structures empty. -/
def layoutHandle? (h : Handles c) (i : c.Index) : Option StructHandle :=
  match h.get i with
  | .struct handle =>
    if (c.record i).isPlaceholder || (c.record i).isTemplate then none else some handle
  | .scalar _ => none

def needsLayout (h : Handles c) (i : c.Index) : Bool := (layoutHandle? h i).isSome

end TypeRecovery
