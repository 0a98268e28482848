import TypeRecovery.Json.Token

/-!
# Values

A JSON value that has been read. An object keeps its members in order of their keys, each key once;
`insertMember` is the way in. A value is written without blanks, or over many lines for a reader.
-/

namespace TypeRecovery.Json

inductive Value where
  | null
  | bool (value : Bool)
  | number (value : Number)
  | string (value : String)
  | array (items : List Value)
  | object (members : List (String × Value))
  deriving Inhabited, Repr

/-- Puts a member in its place. An equal key gives way to the new value. -/
def insertMember (key : String) (value : Value) : List (String × Value) → List (String × Value)
  | [] => [(key, value)]
  | (k, v) :: rest =>
    if key = k then (key, value) :: rest
    else if key < k then (key, value) :: (k, v) :: rest
    else (k, v) :: insertMember key value rest

namespace Value

/-! ## Building and taking apart -/

def nat (n : Nat) : Value := .number (.ofNat n)

def int (i : Int) : Value := .number (.ofInt i)

def ofOption {α : Type} (f : α → Value) : Option α → Value
  | none => .null
  | some a => f a

def ofList {α : Type} (f : α → Value) (xs : List α) : Value := .array (xs.map f)

def field? (v : Value) (key : String) : Option Value :=
  match v with
  | .object members => members.lookup key
  | _ => none

def hasField (v : Value) (key : String) : Bool := (v.field? key).isSome

def text? : Value → Option String
  | .string s => some s
  | _ => none

def nat? : Value → Option Nat
  | .number n => n.natural?
  | _ => none

def bool? : Value → Option Bool
  | .bool b => some b
  | _ => none

def items? : Value → Option (List Value)
  | .array items => some items
  | _ => none

/-! ## Writing -/

mutual

/-- The tokens of a value in front of `rest`. -/
def tokens (rest : List Token) : Value → List Token
  | .null => .null :: rest
  | .bool b => .bool b :: rest
  | .number n => .number n :: rest
  | .string s => .string (some s) :: rest
  | .array items => .openArray :: itemTokens (.closeArray :: rest) items
  | .object members => .openObject :: memberTokens (.closeObject :: rest) members

def itemTokens (rest : List Token) : List Value → List Token
  | [] => rest
  | [v] => tokens rest v
  | v :: w :: more => tokens (.comma :: itemTokens rest (w :: more)) v

def memberTokens (rest : List Token) : List (String × Value) → List Token
  | [] => rest
  | [(k, v)] => .string (some k) :: .colon :: tokens rest v
  | (k, v) :: m :: more =>
    .string (some k) :: .colon :: tokens (.comma :: memberTokens rest (m :: more)) v

end

/-- A value on one line without blanks. -/
def compact (v : Value) : String := String.ofList ((v.tokens []).flatMap Token.text)

def indent (depth : Nat) : List Char := '\n' :: List.replicate (2 * depth) ' '

mutual

/-- A value over many lines, two blanks to a level, in front of `rest`. -/
def spread (depth : Nat) (rest : List Char) : Value → List Char
  | .null => Token.null.text ++ rest
  | .bool b => (Token.bool b).text ++ rest
  | .number n => n.text ++ rest
  | .string s => quoted s ++ rest
  | .array [] => '[' :: ']' :: rest
  | .array (v :: more) =>
    '[' :: (indent (depth + 1) ++ spreadItems (depth + 1) (indent depth ++ ']' :: rest) (v :: more))
  | .object [] => '{' :: '}' :: rest
  | .object (m :: more) =>
    '{' :: (indent (depth + 1)
      ++ spreadMembers (depth + 1) (indent depth ++ '}' :: rest) (m :: more))

def spreadItems (depth : Nat) (rest : List Char) : List Value → List Char
  | [] => rest
  | [v] => spread depth rest v
  | v :: w :: more => spread depth (',' :: (indent depth ++ spreadItems depth rest (w :: more))) v

def spreadMembers (depth : Nat) (rest : List Char) : List (String × Value) → List Char
  | [] => rest
  | [(k, v)] => quoted k ++ (':' :: ' ' :: spread depth rest v)
  | (k, v) :: m :: more =>
    quoted k ++ (':' :: ' ' ::
      spread depth (',' :: (indent depth ++ spreadMembers depth rest (m :: more))) v)

end

def pretty (v : Value) : String := String.ofList (spread 0 [] v)

end Value

end TypeRecovery.Json
