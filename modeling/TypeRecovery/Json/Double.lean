import TypeRecovery.Json.Value

/-!
# Doubles

A literal stands for an integer of 64 bits or, where it is none, for a double. A double is written
with the fewest digits that are nearer to it than to any other double.
-/

namespace TypeRecovery.Json

/-! ## The double of a literal -/

def tenTo (n : Nat) : Float := Float.ofScientific 1 false n

/-- Divides by a power of ten, in steps by powers that are doubles. Beyond two such steps nothing of
a 64-bit significand is left. -/
def divideByTenTo (x : Float) (n : Nat) : Float :=
  if n ≤ 308 then x / tenTo n
  else if n ≤ 616 then x / tenTo 308 / tenTo (n - 308)
  else 0

/-- The size of a literal: its significand, times or divided by its power of ten. -/
def Number.magnitude (n : Number) : Float :=
  let (s, e) := n.scaled
  if s = 0 then 0
  else if 0 ≤ e then Float.ofNat s * tenTo e.toNat
  else divideByTenTo (Float.ofNat s) (-e).toNat

/-! ## Digits -/

/-- The numbers that round to a double, in units of `unit / parts`: from `low` to `high` around
`mid`, with both ends if `closed`. -/
structure Rounding where
  low : Nat
  mid : Nat
  high : Nat
  closed : Bool
  unit : Nat
  parts : Nat

namespace Rounding

/-- The significand of a double counts units of a power of two. A quarter of it is the unit here, so
that half the way to a neighbour is whole. The neighbour below a power of two is half as far. -/
def ofMagnitude (x : Float) : Rounding :=
  let bits := x.toBits.toNat
  let exponent := bits / 0x10000000000000
  let fraction := bits % 0x10000000000000
  let significand := if exponent = 0 then fraction else fraction + 0x10000000000000
  let power : Int := (max exponent 1 : Nat) - 1077
  { low := 4 * significand - (if fraction = 0 ∧ 1 < exponent then 1 else 2),
    mid := 4 * significand,
    high := 4 * significand + 2,
    closed := significand % 2 = 0,
    unit := Nat.pow 2 power.toNat,
    parts := Nat.pow 2 (-power).toNat }

/-- A number of units against a number of powers of ten, both over one denominator. -/
def scaleUnits (r : Rounding) (units : Nat) (k : Int) : Nat :=
  units * r.unit * Nat.pow 10 (-k).toNat

def scaleTens (r : Rounding) (count : Nat) (k : Int) : Nat := count * r.parts * Nat.pow 10 k.toNat

/-- The decimal `count * 10 ^ k` rounds to the double. -/
def holds (r : Rounding) (count : Nat) (k : Int) : Bool :=
  let d := r.scaleTens count k
  let low := r.scaleUnits r.low k
  let high := r.scaleUnits r.high k
  if r.closed then low ≤ d && d ≤ high else low < d && d < high

/-- The greatest decimal with this power of ten that is not above the double. -/
def below (r : Rounding) (k : Int) : Nat := r.scaleUnits r.mid k / r.scaleTens 1 k

/-- Of two neighbours the nearer one, and of two that are as near the even one. -/
def nearer (r : Rounding) (count : Nat) (k : Int) : Nat :=
  let twice := 2 * r.scaleUnits r.mid k
  let middle := r.scaleTens (2 * count + 1) k
  if twice < middle ∨ (twice = middle ∧ count % 2 = 0) then count else count + 1

/-- The first decimal that rounds to the double, from a power of ten downward. -/
def search (r : Rounding) : Nat → Int → Nat × Int
  | 0, k => (r.below k, k)
  | steps + 1, k =>
    let count := r.below k
    match r.holds count k, r.holds (count + 1) k with
    | true, true => (r.nearer count k, k)
    | true, false => (count, k)
    | false, true => (count + 1, k)
    | false, false => r.search steps (k - 1)

/-- A power of ten that the double is not above. -/
def tensAbove (r : Rounding) : Int :=
  let whole := r.mid * r.unit
  if r.parts ≤ whole then (toDigits (whole / r.parts)).length
  else 1 - ((toDigits (r.parts / whole)).length : Int)

/-- The fewest digits of a double that is not zero, and their power of ten. Seventeen are always
enough. -/
def shortest (r : Rounding) : Nat × Int := r.search 18 r.tensAbove

end Rounding

/-! ## Literals -/

/-- The literal of some digits and their power of ten. The point stands among the digits or up to
five zeros away from them, and the number then has at most sixteen digits in front of the point.
Otherwise an exponent follows. -/
def Number.ofDecimal (negative : Bool) (digits : List Char) (power : Int) : Number :=
  let place : Int := digits.length + power
  if 0 ≤ power ∧ place ≤ 16 then
    ⟨negative, digits ++ List.replicate power.toNat '0', some ['0'], none⟩
  else if 0 < place ∧ place ≤ 16 then
    ⟨negative, digits.take place.toNat, some (digits.drop place.toNat), none⟩
  else if -5 < place ∧ place ≤ 0 then
    ⟨negative, ['0'], some (List.replicate (-place).toNat '0' ++ digits), none⟩
  else
    let sign := if 0 < place then '+' else '-'
    let fraction := if digits.length ≤ 1 then none else some digits.tail
    ⟨negative, digits.take 1, fraction, some ⟨'e', some sign, toDigits (place - 1).natAbs⟩⟩

def Number.ofMagnitude (negative : Bool) (x : Float) : Number :=
  if x == 0 then ⟨negative, ['0'], some ['0'], none⟩
  else
    let (count, power) := (Rounding.ofMagnitude x).shortest
    .ofDecimal negative (toDigits count) power

/-- An integer of 64 bits, with a sign if it is negative and without one otherwise. -/
def Number.isInteger64 (n : Number) : Bool :=
  n.fraction.isNone && n.exponent.isNone
    && (let k := ofDigits n.whole
      if n.negative then 0 < k && 2 * k ≤ UInt64.size else k < UInt64.size)

/-- The literal in which a number is handed on. -/
def Number.normal (n : Number) : Number :=
  if n.isInteger64 then n else .ofMagnitude n.negative n.magnitude

namespace Value

mutual

/-- A value with every number in the literal in which it is handed on. -/
def normal : Value → Value
  | .number n => .number n.normal
  | .array items => .array (normalItems items)
  | .object members => .object (normalMembers members)
  | v => v

def normalItems : List Value → List Value
  | [] => []
  | v :: rest => v.normal :: normalItems rest

def normalMembers : List (String × Value) → List (String × Value)
  | [] => []
  | (k, v) :: rest => (k, v.normal) :: normalMembers rest

end

end Value

end TypeRecovery.Json
