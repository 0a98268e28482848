import TypeRecovery.Json.Input

/-!
# Number literals

A literal keeps its digits as they were written. Descriptors use whole numbers without a sign, and
everything else is carried along unread. A literal too large for a double is refused when it is
read.
-/

namespace TypeRecovery.Json

structure Exponent where
  mark : Char
  sign : Option Char
  digits : List Char
  deriving DecidableEq, Repr

structure Number where
  negative : Bool
  whole : List Char
  fraction : Option (List Char)
  exponent : Option Exponent
  deriving DecidableEq, Repr

def Exponent.text (e : Exponent) : List Char := e.mark :: (e.sign.toList ++ e.digits)

/-! ## Digits -/

def digitValue (c : Char) : Nat := c.toNat - '0'.toNat

/-- The number that decimal digits write. -/
def ofDigits (ds : List Char) : Nat := ds.foldl (fun n c => n * 10 + digitValue c) 0

/-- The decimal digits of a number, without leading zeros. -/
def toDigits (n : Nat) : List Char := (Nat.repr n).toList

/-- Digits at the front of the text, and what follows them. -/
def spanDigits (done : List Char) : Input → List Char × Input
  | some c :: rest =>
    if c.isDigit then spanDigits (c :: done) rest else (done.reverse, some c :: rest)
  | rest => (done.reverse, rest)

theorem spanDigits_length (done : List Char) (input : Input) :
    (spanDigits done input).2.length ≤ input.length := by
  induction input generalizing done with
  | nil => simp [spanDigits]
  | cons u rest ih =>
    match u with
    | none => simp [spanDigits]
    | some c =>
      by_cases h : c.isDigit
      · simp only [spanDigits, h, if_true]
        exact Nat.le_trans (ih _) (by simp)
      · simp [spanDigits, h]

/-! ## Whole numbers -/

namespace Number

def ofNat (n : Nat) : Number := ⟨false, toDigits n, none, none⟩

def ofInt (i : Int) : Number := ⟨i < 0, toDigits i.natAbs, none, none⟩

/-- The natural number that a literal writes with digits alone. -/
def natural? (n : Number) : Option Nat :=
  if n.negative ∨ n.fraction.isSome ∨ n.exponent.isSome then none else some (ofDigits n.whole)

/-! ## Text -/

def text (n : Number) : List Char :=
  (if n.negative then ['-'] else []) ++ n.whole
    ++ (match n.fraction with | some ds => '.' :: ds | none => [])
    ++ (match n.exponent with | some e => e.text | none => [])

/-! ## Reading -/

/-- The whole part. A zero stands alone. -/
def readWhole : Input → Except Break (List Char × Input)
  | [] => .error .insideNumber
  | some '0' :: some c :: rest =>
    if c.isDigit then .error (.both .malformed) else .ok (['0'], some c :: rest)
  | some '0' :: rest => .ok (['0'], rest)
  | some c :: rest =>
    if c.isDigit then .ok (spanDigits [c] rest) else .error (.both .malformed)
  | none :: _ => .error (.both .malformed)

def readDigits (input : Input) : Except Break (List Char × Input) :=
  match spanDigits [] input with
  | ([], []) => .error .insideNumber
  | ([], _ :: _) => .error (.both .malformed)
  | (ds, rest) => .ok (ds, rest)

/-- The fraction, if a point follows. -/
def readFraction : Input → Except Break (Option (List Char) × Input)
  | some '.' :: rest => (readDigits rest).map fun (ds, rest) => (some ds, rest)
  | input => .ok (none, input)

/-- The sign of an exponent, if there is one. -/
def readSign : Input → Option Char × Input
  | some '+' :: rest => (some '+', rest)
  | some '-' :: rest => (some '-', rest)
  | input => (none, input)

def readExponent : Input → Except Break (Option Exponent × Input)
  | some mark :: rest =>
    if mark = 'e' ∨ mark = 'E' then
      let (sign, rest) := readSign rest
      (readDigits rest).map fun (digits, rest) => (some ⟨mark, sign, digits⟩, rest)
    else .ok (none, some mark :: rest)
  | input => .ok (none, input)

/-- A literal after its sign. -/
def readUnsigned (negative : Bool) (input : Input) : Except Break (Number × Input) := do
  let (whole, input) ← readWhole input
  let (fraction, input) ← readFraction input
  let (exponent, input) ← readExponent input
  return (⟨negative, whole, fraction, exponent⟩, input)

/-! Each part leaves a rest that is no longer, and the whole part one that is shorter. -/

theorem readWhole_length {input rest : Input} {d : List Char}
    (h : readWhole input = .ok (d, rest)) : rest.length < input.length := by
  unfold readWhole at h
  split at h
  · cases h
  · split at h <;> cases h
    simp
  · cases h; simp
  · split at h
    · have := spanDigits_length [‹Char›] ‹Input›
      simp only [Except.ok.injEq] at h
      rw [h] at this
      exact Nat.lt_succ_of_le this
    · cases h
  · cases h

theorem readDigits_length {input rest : Input} {d : List Char}
    (h : readDigits input = .ok (d, rest)) : rest.length ≤ input.length := by
  have shorter := spanDigits_length [] input
  unfold readDigits at h
  split at h
  · cases h
  · cases h
  · cases h
    simp_all

theorem readFraction_length {input rest : Input} {f : Option (List Char)}
    (h : readFraction input = .ok (f, rest)) : rest.length ≤ input.length := by
  unfold readFraction at h
  split at h
  · rename_i tail
    cases eq : readDigits tail with
    | error e => simp [eq, Except.map] at h
    | ok p =>
      simp only [eq, Except.map, Except.ok.injEq, Prod.mk.injEq] at h
      obtain ⟨-, rfl⟩ := h
      exact Nat.le_succ_of_le (readDigits_length (d := p.1) eq)
  · cases h
    exact Nat.le_refl _

theorem readSign_length (input : Input) : (readSign input).2.length ≤ input.length := by
  unfold readSign
  split <;> simp

theorem readExponent_length {input rest : Input} {e : Option Exponent}
    (h : readExponent input = .ok (e, rest)) : rest.length ≤ input.length := by
  unfold readExponent at h
  split at h
  · rename_i mark tail
    split at h
    · have signed := readSign_length tail
      cases eq : readDigits (readSign tail).2 with
      | error e => simp [eq, Except.map] at h
      | ok p =>
        simp only [eq, Except.map, Except.ok.injEq, Prod.mk.injEq] at h
        obtain ⟨-, rfl⟩ := h
        have := readDigits_length (d := p.1) eq
        simp only [List.length_cons]
        omega
    · cases h
      exact Nat.le_refl _
  · cases h
    exact Nat.le_refl _

theorem readUnsigned_length {negative : Bool} {input rest : Input} {n : Number}
    (h : readUnsigned negative input = .ok (n, rest)) : rest.length < input.length := by
  unfold readUnsigned at h
  cases hw : readWhole input with
  | error e => simp [hw, bind, Except.bind] at h
  | ok w =>
    cases hf : readFraction w.2 with
    | error e => simp [hw, hf, bind, Except.bind] at h
    | ok f =>
      cases he : readExponent f.2 with
      | error e => simp [hw, hf, he, bind, Except.bind] at h
      | ok e =>
        simp only [hw, hf, he, bind, Except.bind, pure, Except.pure, Except.ok.injEq,
          Prod.mk.injEq] at h
        obtain ⟨-, rfl⟩ := h
        have := readWhole_length (d := w.1) hw
        have := readFraction_length (f := f.1) hf
        have := readExponent_length (e := e.1) he
        omega

/-! ## Size -/

/-- The number rounded to 53 significant bits, a half to the even neighbour. -/
def round53 (n : Nat) : Nat :=
  let drop := n.log2 + 1 - 53
  let unit := Nat.pow 2 drop
  let q := n / unit
  let r := n % unit
  if 2 * r > unit ∨ (2 * r = unit ∧ q % 2 = 1) then (q + 1) * unit else q * unit

/-- The least number that rounds to no double: a half step above the largest one. -/
def doubleBound : Nat := Nat.pow 2 1024 - Nat.pow 2 970

/-- Appends digits to a significand while it fits 64 bits. The count says how many were taken. -/
def takeDigits (significand : Nat) (taken : Nat) : List Char → Nat × Nat
  | [] => (significand, taken)
  | c :: rest =>
    let next := significand * 10 + digitValue c
    if next < UInt64.size then takeDigits next (taken + 1) rest else (significand, taken)

/-- The significand that fits 64 bits and the power of ten that goes with it. -/
def scaled (n : Number) : Nat × Int :=
  let (s, taken) := takeDigits 0 0 n.whole
  let left : Int := (n.whole.length - taken : Nat)
  let (s, places) := takeDigits s 0 (n.fraction.getD [])
  let shift : Int :=
    match n.exponent with
    | some e => if e.sign = some '-' then -(ofDigits e.digits : Int) else ofDigits e.digits
    | none => 0
  (s, left - places + shift)

/-- A literal whose value lies beyond the largest double. -/
def overflows (n : Number) : Bool :=
  if n.fraction.isNone ∧ n.exponent.isNone ∧ n.whole.length ≤ 300 then false
  else
    let (s, e) := n.scaled
    s ≠ 0 && (308 < e || (0 ≤ e && doubleBound ≤ round53 s * round53 (Nat.pow 10 e.toNat)))

end Number

end TypeRecovery.Json
