import TypeRecovery.Json.Node

/-!
# Decoding

A decoder takes a tree apart and reports the first problem in the order of the text. Records are
read from an object, by key, or from an array, by position. A key that the record does not know is
passed over. No more than 127 arrays and objects may be open at once where a value is read.
-/

namespace TypeRecovery.Json

inductive Problem where
  /-- The text is not JSON, or holds what no value can be made of. -/
  | malformed
  | truncated
  /-- A value of the wrong type or out of range, or an array with too few items. -/
  | mistyped
  /-- An array with more items than the record has fields. -/
  | surplus
  | missing (key : String)
  | duplicate (key : String)
  /-- The bytes of the file cannot be read. -/
  | unreadable
  deriving DecidableEq, Repr

def Problem.message : Problem → String
  | .malformed => "malformed JSON"
  | .truncated => "unexpected end of JSON"
  | .mistyped => "value of the wrong type or out of range"
  | .surplus => "too many items for a record"
  | .missing key => "missing field " ++ key
  | .duplicate key => "duplicate field " ++ key
  | .unreadable => "cannot be read"

def Problem.ofFault : Fault → Problem
  | .malformed => .malformed
  | .truncated => .truncated

/-- How deep arrays and objects may nest. -/
def maxDepth : Nat := 127

/-- The problem with a node of the wrong type. A scalar is read to its end first. -/
def Node.mismatch : Node → Problem
  | .broken stop => .ofFault stop.read
  | .string none => .malformed
  | .number n => if n.overflows then .malformed else .mistyped
  | _ => .mistyped

/-- Passes over a node: only a break inside it is a problem. -/
def Node.skip (node : Node) : Except Problem Unit :=
  match node.stop? with
  | some stop => .error (.ofFault stop.skipped)
  | none => .ok ()

/-- The end of an array or object. -/
def checkEnd : Option Break → Except Problem Unit
  | some stop => .error (.ofFault stop.read)
  | none => .ok ()

/-- A decoder. The number says how many arrays and objects may still be opened. -/
abbrev Decoder (α : Type) := Nat → Node → Except Problem α

/-! ## Scalars -/

/-- A whole number below `bound`. -/
def decodeBelow (bound : Nat) : Node → Except Problem Nat
  | .number n =>
    match n.natural? with
    | some k => if k < bound then .ok k else .error (Node.number n).mismatch
    | none => .error (Node.number n).mismatch
  | node => .error node.mismatch

def decodeUInt32 : Decoder UInt32 := fun _ node => (decodeBelow UInt32.size node).map UInt32.ofNat

def decodeUInt64 : Decoder UInt64 := fun _ node => (decodeBelow UInt64.size node).map UInt64.ofNat

def decodeString : Decoder String
  | _, .string (some s) => .ok s
  | _, node => .error node.mismatch

def decodeBool : Decoder Bool
  | _, .bool b => .ok b
  | _, node => .error node.mismatch

def decodeNullable {α : Type} (decode : Decoder α) : Decoder (Option α)
  | _, .null => .ok none
  | depth, node => (decode depth node).map some

/-! ## Lists -/

def decodeItems {α : Type} (decode : Node → Except Problem α) : List Node → Except Problem (List α)
  | [] => .ok []
  | node :: rest => do
    let a ← decode node
    let as ← decodeItems decode rest
    return a :: as

def decodeList {α : Type} (decode : Decoder α) : Decoder (List α)
  | 0, .array _ _ => .error .malformed
  | depth + 1, .array items stop => do
    let as ← decodeItems (decode depth) items
    checkEnd stop
    return as
  | _, node => .error node.mismatch

/-! ## Records -/

/-- A field of a record: its key, whether it has to be there, and how its value is put in. -/
structure Field (α : Type) where
  key : String
  required : Bool
  put : Nat → Node → α → Except Problem α

/-- A field that holds what `decode` reads. -/
def Field.of {α β : Type} (key : String) (required : Bool) (decode : Decoder β) (set : β → α → α) :
    Field α :=
  ⟨key, required, fun depth node a => (decode depth node).map (set · a)⟩

/-- Reads the members of an object into a record. `seen` holds the keys that came already. -/
def decodeMembers {α : Type} (fields : List (Field α)) (depth : Nat) (seen : List String) (a : α) :
    List (Option String × Node) → Except Problem (List String × α)
  | [] => .ok (seen, a)
  | (none, _) :: _ => .error .malformed
  | (some key, node) :: rest =>
    match fields.find? (·.key = key) with
    | none => do
      node.skip
      decodeMembers fields depth seen a rest
    | some field =>
      if key ∈ seen then .error (.duplicate key)
      else do
        let a ← field.put depth node a
        decodeMembers fields depth (key :: seen) a rest

def checkMissing {α : Type} (fields : List (Field α)) (seen : List String) : Except Problem Unit :=
  match fields.find? fun field => field.required && !seen.contains field.key with
  | some field => .error (.missing field.key)
  | none => .ok ()

/-- Reads the items of an array into a record, one for each field. `stop` is the array's end. -/
def decodePositions {α : Type} (depth : Nat) (stop : Option Break) (a : α) :
    List (Field α) → List Node → Except Problem α
  | [], [] => do
    checkEnd stop
    return a
  | [], _ :: _ => .error .surplus
  | field :: fields, [] => do
    checkEnd stop
    if field.required then .error .mistyped else decodePositions depth stop a fields []
  | field :: fields, node :: rest => do
    let a ← field.put depth node a
    decodePositions depth stop a fields rest

def decodeRecord {α : Type} (fields : List (Field α)) (blank : α) : Decoder α
  | 0, .object _ _ => .error .malformed
  | 0, .array _ _ => .error .malformed
  | depth + 1, .object members stop => do
    let (seen, a) ← decodeMembers fields depth [] blank members
    checkEnd stop
    checkMissing fields seen
    return a
  | depth + 1, .array items stop => decodePositions depth stop blank fields items
  | _, node => .error node.mismatch

/-! ## Any value -/

mutual

def Node.toValue (depth : Nat) : Node → Except Problem Value
  | .null => .ok .null
  | .bool b => .ok (.bool b)
  | .number n => if n.overflows then .error .malformed else .ok (.number n)
  | .string (some s) => .ok (.string s)
  | .string none => .error .malformed
  | .array items stop =>
    if depth = 0 then .error .malformed
    else do
      let vs ← Node.itemsToValues (depth - 1) items
      checkEnd stop
      return .array vs
  | .object members stop =>
    if depth = 0 then .error .malformed
    else do
      let ms ← Node.membersToValues (depth - 1) [] members
      checkEnd stop
      return .object ms
  | .broken stop => .error (.ofFault stop.read)

def Node.itemsToValues (depth : Nat) : List Node → Except Problem (List Value)
  | [] => .ok []
  | node :: rest => do
    let v ← node.toValue depth
    let vs ← Node.itemsToValues depth rest
    return v :: vs

def Node.membersToValues (depth : Nat) (done : List (String × Value)) :
    List (Option String × Node) → Except Problem (List (String × Value))
  | [] => .ok done
  | (none, _) :: _ => .error .malformed
  | (some key, node) :: rest => do
    let v ← node.toValue depth
    Node.membersToValues depth (insertMember key v done) rest

end

def decodeValue : Decoder Value := fun depth node => node.toValue depth

/-! ## Documents -/

/-- Decodes a text that holds one value and nothing behind it. -/
def decodeInput {α : Type} (decode : Decoder α) (input : Input) : Except Problem α := do
  let document := Document.ofInput input
  let a ← decode maxDepth document.root
  if document.trailing then .error .malformed else return a

def decodeText {α : Type} (decode : Decoder α) (text : String) : Except Problem α :=
  decodeInput decode (.ofString text)

/-- Decodes a value that has been read already. There an array with too many items is only a value
of the wrong type. -/
def decodeOfValue {α : Type} (decode : Decoder α) (value : Value) : Except Problem α :=
  match decode maxDepth (Node.ofValue value) with
  | .error .surplus => .error .mistyped
  | result => result

end TypeRecovery.Json
