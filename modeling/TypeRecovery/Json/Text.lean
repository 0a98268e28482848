import TypeRecovery.Json.Input

/-!
# Strings

A string is first cut into pieces, which only the grammar decides. The pieces then have a text or
not: the two halves of a surrogate pair make one character, a half on its own makes none, and
neither does a stray byte.
-/

namespace TypeRecovery.Json

/-- A piece of a string between its quotes. -/
inductive Piece where
  | char (c : Char)
  /-- A byte that belongs to no character. -/
  | stray
  /-- An escape with four hex digits. -/
  | unit (value : Nat)
  deriving DecidableEq, Repr

/-! ## Escapes -/

def hexValue (c : Char) : Option Nat :=
  if c.isDigit then some (c.toNat - '0'.toNat)
  else if 'a' ≤ c ∧ c ≤ 'f' then some (c.toNat - 'a'.toNat + 10)
  else if 'A' ≤ c ∧ c ≤ 'F' then some (c.toNat - 'A'.toNat + 10)
  else none

def hexUnit (a b c d : Option Char) : Option Nat := do
  let a ← hexValue (← a)
  let b ← hexValue (← b)
  let c ← hexValue (← c)
  let d ← hexValue (← d)
  return ((a * 16 + b) * 16 + c) * 16 + d

/-- The character that a backslash and a letter stand for. -/
def shortEscape : Char → Option Char
  | '"' => some '"'
  | '\\' => some '\\'
  | '/' => some '/'
  | 'b' => some '\x08'
  | 'f' => some '\x0c'
  | 'n' => some '\n'
  | 'r' => some '\r'
  | 't' => some '\t'
  | _ => none

/-! ## Pieces -/

/-- Cuts a string up to its closing quote. The pieces come out in reverse, with the rest of the text
or the fault that stopped the reading. -/
def readPieces (done : List Piece) : Input → List Piece × Except Fault Input
  | [] => (done, .error .truncated)
  | some '"' :: rest => (done, .ok rest)
  | some '\\' :: some 'u' :: a :: b :: c :: d :: rest =>
    match hexUnit a b c d with
    | some value => readPieces (.unit value :: done) rest
    | none => (done, .error .malformed)
  | some '\\' :: some 'u' :: rest =>
    (done, .error (if Input.byteLength rest < 4 then .truncated else .malformed))
  | some '\\' :: some e :: rest =>
    match shortEscape e with
    | some c => readPieces (.char c :: done) rest
    | none => (done, .error .malformed)
  | [some '\\'] => (done, .error .truncated)
  | some '\\' :: none :: _ => (done, .error .malformed)
  | some c :: rest =>
    if c < ' ' then (done, .error .malformed) else readPieces (.char c :: done) rest
  | none :: rest => readPieces (.stray :: done) rest

theorem readPieces_length {done : List Piece} {input rest : Input}
    (h : (readPieces done input).2 = .ok rest) : rest.length < input.length := by
  fun_induction readPieces done input with
  | case2 => cases h; simp
  | case3 | case6 | case11 | case12 =>
    rename_i ih
    have := ih h
    simp only [List.length_cons]
    omega
  | _ => simp at h

/-! ## Surrogates -/

def isHighSurrogate (u : Nat) : Bool := 0xD800 ≤ u && u ≤ 0xDBFF

def isLowSurrogate (u : Nat) : Bool := 0xDC00 ≤ u && u ≤ 0xDFFF

/-- The character of a surrogate pair. -/
def pairChar (high low : Nat) : Char :=
  Char.ofNat (0x10000 + (high - 0xD800) * 0x400 + (low - 0xDC00))

/-- The text of the pieces, if they have one. -/
def textOfPieces (done : List Char) : List Piece → Option String
  | [] => some (String.ofList done.reverse)
  | .char c :: rest => textOfPieces (c :: done) rest
  | .stray :: _ => none
  | .unit u :: rest =>
    if isHighSurrogate u then
      match rest with
      | .unit v :: rest =>
        if isLowSurrogate v then textOfPieces (pairChar u v :: done) rest else none
      | _ => none
    else if isLowSurrogate u then none
    else textOfPieces (Char.ofNat u :: done) rest

/-- The pieces hold half a pair that no later text can complete. -/
def hasLoneSurrogate : List Piece → Bool
  | [] => false
  | .unit u :: rest =>
    if isHighSurrogate u then
      match rest with
      | [] => false
      | .unit v :: rest => if isLowSurrogate v then hasLoneSurrogate rest else true
      | _ => true
    else isLowSurrogate u || hasLoneSurrogate rest
  | _ :: rest => hasLoneSurrogate rest

/-- A string after its opening quote: its text, if it has one, and the rest. A string that never
closes is malformed when it is read and half a surrogate pair came first. -/
def readString (input : Input) : Except Break (Option String × Input) :=
  match readPieces [] input with
  | (pieces, .ok rest) => .ok (textOfPieces [] pieces.reverse, rest)
  | (pieces, .error fault) =>
    .error ⟨if hasLoneSurrogate pieces.reverse then .malformed else fault, fault⟩

theorem readString_length {input rest : Input} {text : Option String}
    (h : readString input = .ok (text, rest)) : rest.length < input.length := by
  unfold readString at h
  split at h
  · rename_i pieces rest' eq
    cases h
    exact readPieces_length (by rw [eq])
  · cases h

/-! ## Writing -/

def hexDigit (n : Nat) : Char := Nat.digitChar n

/-- A character inside a written string. -/
def escapeChar (c : Char) : List Char :=
  if c = '"' then ['\\', '"']
  else if c = '\\' then ['\\', '\\']
  else if c = '\n' then ['\\', 'n']
  else if c = '\r' then ['\\', 'r']
  else if c = '\t' then ['\\', 't']
  else if c = '\x08' then ['\\', 'b']
  else if c = '\x0c' then ['\\', 'f']
  else if c < ' ' then ['\\', 'u', '0', '0', hexDigit (c.toNat / 16), hexDigit (c.toNat % 16)]
  else [c]

/-- A string between its quotes. -/
def quoted (s : String) : List Char := '"' :: (s.toList.flatMap escapeChar ++ ['"'])

end TypeRecovery.Json
