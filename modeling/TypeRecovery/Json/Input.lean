/-!
# Text as a reader sees it

A JSON text is a list of units: a character, or nothing for a byte that belongs to no character.
Only files can hold such bytes. A reader that stops says why, and the answer may depend on whether
the value was read or only skipped.
-/

namespace TypeRecovery.Json

/-- The units of a text. `none` is a byte that belongs to no character. -/
abbrev Input := List (Option Char)

def Input.ofString (s : String) : Input := s.toList.map some

/-! ## Bytes -/

/-- The six bits that a continuation byte carries. -/
def tailBits (b : UInt8) : Option Nat :=
  if b.toNat / 64 = 2 then some (b.toNat % 64) else none

/-- The character with `bits` and then the bits of the tail bytes, if it is at least `least`.
A longer form of a smaller character is no character. -/
def wideChar (least bits : Nat) : List UInt8 → Option Char
  | [] => if h : least ≤ bits ∧ bits.isValidChar then some (Char.ofNatAux bits h.2) else none
  | b :: rest =>
    match tailBits b with
    | some t => wideChar least (bits * 64 + t) rest
    | none => none

/-- How many tail bytes follow a first byte, the least character of that form, and the bits that
the first byte carries. -/
def leadByte (b : UInt8) : Option (Nat × Nat × Nat) :=
  let n := b.toNat
  if n / 32 = 6 then some (1, 0x80, n % 32)
  else if n / 16 = 14 then some (2, 0x800, n % 16)
  else if n / 8 = 30 then some (3, 0x10000, n % 8)
  else none

/-- The character at the front of the bytes and the number of its tail bytes, or nothing for a
stray byte. -/
def firstChar (b : UInt8) (rest : List UInt8) : Option (Char × Nat) :=
  if b.toNat < 128 then some (Char.ofNat b.toNat, 0)
  else
    match leadByte b with
    | none => none
    | some (count, least, bits) =>
      if (rest.take count).length = count then
        (wideChar least bits (rest.take count)).map (·, count)
      else none

/-- Reads bytes as UTF-8. `skip` counts the tail bytes of the last character that are still to be
passed over. -/
def unitsOfBytes (done : List (Option Char)) (skip : Nat) : List UInt8 → Input
  | [] => done.reverse
  | b :: rest =>
    match skip with
    | k + 1 => unitsOfBytes done k rest
    | 0 =>
      match firstChar b rest with
      | some (c, count) => unitsOfBytes (some c :: done) count rest
      | none => unitsOfBytes (none :: done) 0 rest

def Input.ofBytes (bytes : List UInt8) : Input := unitsOfBytes [] 0 bytes

/-- The text of the units, if no byte is stray. -/
def Input.toString? (input : Input) : Option String :=
  if input.all Option.isSome then some (String.ofList (input.filterMap id)) else none

/-- Bytes that the units take in a file. -/
def Input.byteLength (input : Input) : Nat :=
  input.foldl (fun n unit => n + match unit with | some c => c.utf8Size | none => 1) 0

/-! ## Where reading stops -/

inductive Fault where
  /-- The next unit cannot stand here. -/
  | malformed
  | truncated
  deriving DecidableEq, Repr

/-- The place where a text stops being JSON. A number that the end of the text cuts off counts as
cut off when it is read, and as wrong when it is skipped. -/
structure Break where
  read : Fault
  skipped : Fault
  deriving DecidableEq, Repr

/-- A fault that reading and skipping name alike. -/
def Break.both (fault : Fault) : Break := ⟨fault, fault⟩

/-- A text that ends inside a number. -/
def Break.insideNumber : Break := ⟨.truncated, .malformed⟩

end TypeRecovery.Json
