import TypeRecovery.Json.Number
import TypeRecovery.Json.Text

/-!
# Tokens

A text is scanned once, from left to right, without regard to nesting. Scanning stops at the first
unit that starts no token, and the last token then says so.
-/

namespace TypeRecovery.Json

inductive Token where
  | openArray
  | closeArray
  | openObject
  | closeObject
  | comma
  | colon
  | null
  | bool (value : Bool)
  | number (value : Number)
  /-- A string, with its text if it has one. -/
  | string (text : Option String)
  /-- Where scanning stopped. `quoted` tells a string that never closes from anything else. -/
  | broken (stop : Break) (quoted : Bool)
  deriving DecidableEq, Repr

/-! ## One token -/

/-- The rest of the text after `word`. -/
def readWord : List Char → Input → Except Fault Input
  | [], input => .ok input
  | _ :: _, [] => .error .truncated
  | c :: word, u :: input => if u = some c then readWord word input else .error .malformed

def Token.ofWord (token : Token) (word : List Char) (input : Input) : Token × Input :=
  match readWord word input with
  | .ok rest => (token, rest)
  | .error fault => (.broken (.both fault) false, [])

def Token.ofNumber (negative : Bool) (input : Input) : Token × Input :=
  match Number.readUnsigned negative input with
  | .ok (n, rest) => (.number n, rest)
  | .error stop => (.broken stop false, [])

def Token.ofString (input : Input) : Token × Input :=
  match readString input with
  | .ok (text, rest) => (.string text, rest)
  | .error stop => (.broken stop true, [])

/-- The token that starts with a unit, and what follows it. -/
def Token.read (unit : Option Char) (rest : Input) : Token × Input :=
  match unit with
  | some '[' => (.openArray, rest)
  | some ']' => (.closeArray, rest)
  | some '{' => (.openObject, rest)
  | some '}' => (.closeObject, rest)
  | some ',' => (.comma, rest)
  | some ':' => (.colon, rest)
  | some '"' => Token.ofString rest
  | some '-' => Token.ofNumber true rest
  | some 'n' => Token.ofWord .null ['u', 'l', 'l'] rest
  | some 't' => Token.ofWord (.bool true) ['r', 'u', 'e'] rest
  | some 'f' => Token.ofWord (.bool false) ['a', 'l', 's', 'e'] rest
  | some c =>
    if c.isDigit then Token.ofNumber false (some c :: rest)
    else (.broken (.both .malformed) false, [])
  | none => (.broken (.both .malformed) false, [])

/-! ## Every token is longer than nothing -/

theorem readWord_length {word : List Char} {input rest : Input}
    (h : readWord word input = .ok rest) : rest.length ≤ input.length := by
  fun_induction readWord word input with
  | case1 => cases h; simp
  | case3 _ _ _ ih => exact Nat.le_trans (ih h) (by simp)
  | _ => simp at h

theorem ofWord_length (token : Token) (word : List Char) (input : Input) :
    (Token.ofWord token word input).2.length ≤ input.length := by
  unfold Token.ofWord
  split
  · exact readWord_length ‹_›
  · simp

theorem ofString_length (input : Input) : (Token.ofString input).2.length ≤ input.length := by
  unfold Token.ofString
  split
  · exact Nat.le_of_lt (readString_length ‹_›)
  · simp

theorem ofNumber_length (negative : Bool) (input : Input) (h : 0 < input.length) :
    (Token.ofNumber negative input).2.length < input.length := by
  unfold Token.ofNumber
  split
  · exact Number.readUnsigned_length ‹_›
  · simpa using h

theorem Token.read_length (unit : Option Char) (rest : Input) :
    (Token.read unit rest).2.length ≤ rest.length := by
  unfold Token.read
  split
  case h_7 => exact ofString_length rest
  case h_8 =>
    cases rest with
    | nil => simp [Token.ofNumber, Number.readUnsigned, Number.readWhole, bind, Except.bind]
    | cons u rest => exact Nat.le_of_lt (ofNumber_length true _ (by simp))
  case h_9 | h_10 | h_11 => exact ofWord_length _ _ _
  case h_12 =>
    split
    · exact Nat.le_of_lt_succ (ofNumber_length false _ (by simp))
    · simp
  all_goals simp

/-! ## All tokens -/

def isBlank (unit : Option Char) : Bool :=
  unit = some ' ' || unit = some '\n' || unit = some '\t' || unit = some '\r'

theorem skipBlank_length (input : Input) : (input.dropWhile isBlank).length ≤ input.length :=
  (List.dropWhile_suffix _).length_le

/-- The tokens of a text behind those already found, which are in reverse. -/
def scanFrom (done : List Token) (input : Input) : List Token :=
  match _h : input.dropWhile isBlank with
  | [] => done.reverse
  | unit :: rest => scanFrom ((Token.read unit rest).1 :: done) (Token.read unit rest).2
termination_by input.length
decreasing_by
  have := skipBlank_length input
  have := Token.read_length unit rest
  simp only [_h, List.length_cons] at *
  omega

def scan (input : Input) : List Token := scanFrom [] input

/-! ## Writing -/

/-- The text of a token that a writer uses. -/
def Token.text : Token → List Char
  | .openArray => ['[']
  | .closeArray => [']']
  | .openObject => ['{']
  | .closeObject => ['}']
  | .comma => [',']
  | .colon => [':']
  | .null => ['n', 'u', 'l', 'l']
  | .bool true => ['t', 'r', 'u', 'e']
  | .bool false => ['f', 'a', 'l', 's', 'e']
  | .number n => n.text
  | .string text => quoted (text.getD "")
  | .broken _ _ => []

end TypeRecovery.Json
