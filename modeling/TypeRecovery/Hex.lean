/-!
# Hexadecimal text

Addresses and offsets are written with lowercase digits, either without leading zeros or padded to
the sixteen digits of a 64-bit address.
-/

namespace TypeRecovery

/-- The hex digits of a number, without leading zeros. -/
def hexDigits (n : Nat) : List Char := Nat.toDigits 16 n

def hex (n : Nat) : String := String.ofList (hexDigits n)

/-- The low `width` hex digits of a number, most significant first. -/
def fixedHex : Nat → Nat → List Char
  | 0, _ => []
  | width + 1, n => fixedHex width (n / 16) ++ [Nat.digitChar (n % 16)]

@[simp] theorem length_fixedHex (width n : Nat) : (fixedHex width n).length = width := by
  induction width generalizing n with
  | zero => rfl
  | succ width ih => simp [fixedHex, ih]

def addressHex (address : UInt64) : String := String.ofList (fixedHex 16 address.toNat)

/-- An offset as hex. A negative one is written as its 64-bit two's complement. -/
def offsetHex (offset : Int) : String := hex (offset % 0x10000000000000000).toNat

/-- The value of a lowercase hex digit. -/
def lowerHexValue (c : Char) : Option Nat :=
  if '0' ≤ c ∧ c ≤ '9' then some (c.toNat - '0'.toNat)
  else if 'a' ≤ c ∧ c ≤ 'f' then some (c.toNat - 'a'.toNat + 10)
  else none

/-- The number that lowercase hex digits write behind `n`. -/
def ofHexFrom (n : Nat) : List Char → Option Nat
  | [] => some n
  | c :: rest =>
    match lowerHexValue c with
    | some v => ofHexFrom (n * 16 + v) rest
    | none => none

end TypeRecovery
