import TypeRecovery.Json.Number
import TypeRecovery.Proofs.Results
import Mathlib.Data.List.Basic
import Mathlib.Tactic.IntervalCases

/-!
# Number literals as text

A literal that was read is a whole number without leading zeros, with or without a fraction and an
exponent. Such a literal is read from its own text, unless what follows could go on with it.
-/

namespace TypeRecovery.Json

/-! ## Digits -/

/-- The text does not go on with a digit. -/
def Input.EndsDigits (rest : Input) : Prop :=
  ∀ c, rest.head? = some (some c) → c.isDigit = false

/-- The text does not go on with a literal. -/
def Input.EndsNumber (rest : Input) : Prop :=
  ∀ c, rest.head? = some (some c) → c.isDigit = false ∧ c ≠ '.' ∧ c ≠ 'e' ∧ c ≠ 'E'

/-- One digit or more. -/
structure IsDigits (ds : List Char) : Prop where
  nonempty : ds ≠ []
  digits : ∀ c ∈ ds, c.isDigit = true

theorem spanDigits_of_endsDigits (done : List Char) {rest : Input} (h : rest.EndsDigits) :
    spanDigits done rest = (done.reverse, rest) := by
  match rest, h with
  | [], _ => rfl
  | none :: _, _ => rfl
  | some c :: rest, h => rw [spanDigits, if_neg (by simp [h c rfl])]

theorem spanDigits_append (done : List Char) {ds : List Char} {rest : Input}
    (hds : ∀ c ∈ ds, c.isDigit = true) (hrest : rest.EndsDigits) :
    spanDigits done (ds.map some ++ rest) = (done.reverse ++ ds, rest) := by
  induction ds generalizing done with
  | nil => simpa using spanDigits_of_endsDigits done hrest
  | cons c ds ih =>
    rw [List.map_cons, List.cons_append, spanDigits, if_pos (hds c (.head ds)),
      ih _ fun d hd => hds d (.tail c hd), List.reverse_cons, List.append_assoc,
      List.singleton_append]

theorem isDigit_of_mem_spanDigits {done : List Char} {input : Input}
    (hdone : ∀ c ∈ done, c.isDigit = true) :
    ∀ c ∈ (spanDigits done input).1, c.isDigit = true := by
  fun_induction spanDigits done input with
  | case1 done c rest hc ih =>
    apply ih
    simpa [hc] using hdone
  | case2 | case3 => simpa using hdone

theorem head?_spanDigits (done : List Char) (c : Char) (input : Input) :
    (spanDigits (done ++ [c]) input).1.head? = some c := by
  induction input generalizing done with
  | nil => simp [spanDigits]
  | cons u rest ih =>
    cases u with
    | none => simp [spanDigits]
    | some d =>
      rw [spanDigits]
      split
      · exact ih (d :: done)
      · simp

/-! ## Well-formed literals -/

/-- A zero on its own, or digits that start with another one. -/
def IsWhole (ds : List Char) : Prop := ds = ['0'] ∨ IsDigits ds ∧ ds.head? ≠ some '0'

structure Exponent.WellFormed (e : Exponent) : Prop where
  mark : e.mark = 'e' ∨ e.mark = 'E'
  sign : ∀ c, e.sign = some c → c = '+' ∨ c = '-'
  digits : IsDigits e.digits

structure Number.WellFormed (n : Number) : Prop where
  whole : IsWhole n.whole
  fraction : ∀ ds, n.fraction = some ds → IsDigits ds
  exponent : ∀ e, n.exponent = some e → e.WellFormed

namespace Number

/-! ## Reading gives well-formed literals -/

theorem readWhole_isWhole {input rest : Input} {ds : List Char}
    (h : readWhole input = .ok (ds, rest)) : IsWhole ds := by
  unfold readWhole at h
  split at h
  · cases h
  · split at h <;> cases h
    exact .inl rfl
  · cases h
    exact .inl rfl
  · next c tail _ hzero =>
    split at h
    · next hc =>
      have heq := congrArg Prod.fst (Except.ok.inj h)
      have hhead := head?_spanDigits [] c tail
      have hdigits : ∀ d ∈ (spanDigits [c] tail).1, d.isDigit = true :=
        isDigit_of_mem_spanDigits (by simpa using hc)
      rw [List.nil_append, heq] at hhead
      rw [heq] at hdigits
      refine .inr ⟨⟨?_, hdigits⟩, ?_⟩
      · rintro rfl
        cases hhead
      · rw [hhead]
        rintro ⟨⟩
        exact hzero rfl
    · cases h
  · cases h

theorem readDigits_isDigits {input rest : Input} {ds : List Char}
    (h : readDigits input = .ok (ds, rest)) : IsDigits ds := by
  have hdigits : ∀ c ∈ (spanDigits [] input).1, c.isDigit = true :=
    isDigit_of_mem_spanDigits (by simp)
  unfold readDigits at h
  split at h
  · cases h
  · cases h
  · next ds' rest' hnil hcons heq =>
    cases h
    rw [heq] at hdigits
    refine ⟨?_, hdigits⟩
    rintro rfl
    cases rest with
    | nil => exact hnil rfl rfl
    | cons u rest => exact hcons u rest rfl rfl

theorem readFraction_isDigits {input rest : Input} {fraction : Option (List Char)}
    (h : readFraction input = .ok (fraction, rest)) : ∀ ds, fraction = some ds → IsDigits ds := by
  unfold readFraction at h
  split at h
  · obtain ⟨⟨ds, rest'⟩, hread, heq⟩ := exceptMap_eq_ok_iff.1 h
    cases heq
    rintro _ ⟨⟩
    exact readDigits_isDigits hread
  · cases h
    simp

theorem readSign_eq (input : Input) :
    ∀ c, (readSign input).1 = some c → c = '+' ∨ c = '-' := by
  unfold readSign
  split <;> simp

theorem readExponent_wellFormed {input rest : Input} {exponent : Option Exponent}
    (h : readExponent input = .ok (exponent, rest)) :
    ∀ e, exponent = some e → e.WellFormed := by
  unfold readExponent at h
  split at h
  · next mark tail =>
    split at h
    · next hmark =>
      obtain ⟨⟨ds, rest'⟩, hread, heq⟩ := exceptMap_eq_ok_iff.1 h
      cases heq
      rintro _ ⟨⟩
      exact ⟨hmark, readSign_eq tail, readDigits_isDigits hread⟩
    · cases h
      simp
  · cases h
    simp

theorem wellFormed_of_readUnsigned {negative : Bool} {input rest : Input} {n : Number}
    (h : readUnsigned negative input = .ok (n, rest)) : n.WellFormed := by
  obtain ⟨⟨whole, input₁⟩, hwhole, h⟩ := exists_of_bind_eq_ok h
  obtain ⟨⟨fraction, input₂⟩, hfraction, h⟩ := exists_of_bind_eq_ok h
  obtain ⟨⟨exponent, input₃⟩, hexponent, h⟩ := exists_of_bind_eq_ok h
  cases h
  exact ⟨readWhole_isWhole hwhole, readFraction_isDigits hfraction,
    readExponent_wellFormed hexponent⟩

/-! ## Well-formed literals are read from their texts -/

theorem readWhole_append {ds : List Char} {rest : Input} (hds : IsWhole ds)
    (hrest : rest.EndsDigits) : readWhole (ds.map some ++ rest) = .ok (ds, rest) := by
  rcases hds with rfl | ⟨⟨hne, hdigits⟩, hzero⟩
  · match rest, hrest with
    | [], _ => rfl
    | none :: _, _ => rfl
    | some c :: rest, hrest => simp [readWhole, hrest c rfl]
  · cases ds with
    | nil => exact absurd rfl hne
    | cons c ds =>
      have hc : c ≠ '0' := fun heq => hzero (by rw [heq, List.head?_cons])
      have hspan := spanDigits_append [c] (fun d hd => hdigits d (.tail c hd)) hrest
      rw [List.map_cons, List.cons_append, readWhole.eq_4 _ _ (fun _ _ _ => hc) hc,
        if_pos (hdigits c (.head ds)), hspan]
      rfl

theorem readDigits_append {ds : List Char} {rest : Input} (hds : IsDigits ds)
    (hrest : rest.EndsDigits) : readDigits (ds.map some ++ rest) = .ok (ds, rest) := by
  unfold readDigits
  rw [spanDigits_append [] hds.digits hrest, List.reverse_nil, List.nil_append]
  cases ds with
  | nil => exact absurd rfl hds.nonempty
  | cons c ds => rfl

def fractionText : Option (List Char) → List Char
  | some ds => '.' :: ds
  | none => []

def exponentText : Option Exponent → List Char
  | some e => e.text
  | none => []

theorem text_eq (n : Number) :
    n.text = (if n.negative then ['-'] else []) ++
      (n.whole ++ (fractionText n.fraction ++ exponentText n.exponent)) := by
  have hassoc : ∀ as bs cs ds : List Char, as ++ bs ++ cs ++ ds = as ++ (bs ++ (cs ++ ds)) := by
    intro as bs cs ds
    rw [List.append_assoc, List.append_assoc]
  exact hassoc _ _ _ _

theorem readFraction_append {fraction : Option (List Char)} {rest : Input}
    (hfraction : ∀ ds, fraction = some ds → IsDigits ds) (hrest : rest.EndsDigits)
    (hpoint : rest.head? ≠ some (some '.')) :
    readFraction ((fractionText fraction).map some ++ rest) = .ok (fraction, rest) := by
  cases fraction with
  | some ds =>
    simp only [fractionText, List.map_cons, List.cons_append, readFraction,
      readDigits_append (hfraction ds rfl) hrest]
    rfl
  | none =>
    rw [fractionText, List.map_nil, List.nil_append, readFraction.eq_2]
    rintro rest' rfl
    exact hpoint rfl

theorem readSign_append {sign : Option Char} {rest : Input}
    (hsign : ∀ c, sign = some c → c = '+' ∨ c = '-') (hplus : rest.head? ≠ some (some '+'))
    (hminus : rest.head? ≠ some (some '-')) :
    readSign (sign.toList.map some ++ rest) = (sign, rest) := by
  cases sign with
  | some c => rcases hsign c rfl with rfl | rfl <;> rfl
  | none =>
    rw [Option.toList_none, List.map_nil, List.nil_append, readSign.eq_3]
    · rintro rest' rfl
      exact hplus rfl
    · rintro rest' rfl
      exact hminus rfl

theorem readExponent_append {exponent : Option Exponent} {rest : Input}
    (hexponent : ∀ e, exponent = some e → e.WellFormed) (hrest : rest.EndsNumber) :
    readExponent ((exponentText exponent).map some ++ rest) = .ok (exponent, rest) := by
  cases exponent with
  | some e =>
    obtain ⟨mark, sign, ds⟩ := e
    obtain ⟨hmark, hsign, hdigits⟩ := hexponent _ rfl
    have hdigit : ∀ c : Char, c.isDigit = false →
        (ds.map some ++ rest).head? ≠ some (some c) := by
      intro c hc hhead
      cases ds with
      | nil => exact hdigits.nonempty rfl
      | cons d ds =>
        cases hhead
        simp [hdigits.digits c (.head ds)] at hc
    have hread := readDigits_append hdigits fun c hc => (hrest c hc).1
    simp only [exponentText, Exponent.text, List.map_cons, List.map_append, List.cons_append,
      List.append_assoc, readExponent, if_pos hmark,
      readSign_append hsign (hdigit '+' rfl) (hdigit '-' rfl), hread]
    rfl
  | none =>
    match rest, hrest with
    | [], _ => rfl
    | none :: _, _ => rfl
    | some c :: rest, hrest =>
      obtain ⟨-, -, he, hE⟩ := hrest c rfl
      simp only [exponentText, List.map_nil, List.nil_append, readExponent]
      rw [if_neg (by simp [he, hE])]

theorem head?_exponentText {exponent : Option Exponent} {rest : Input} {c : Char}
    (hexponent : ∀ e, exponent = some e → e.WellFormed)
    (h : ((exponentText exponent).map some ++ rest).head? = some (some c)) :
    c = 'e' ∨ c = 'E' ∨ rest.head? = some (some c) := by
  cases exponent with
  | some e =>
    cases h
    rcases (hexponent e rfl).mark with hmark | hmark
    · exact .inl hmark
    · exact .inr (.inl hmark)
  | none => exact .inr (.inr h)

theorem head?_fractionText {fraction : Option (List Char)} {rest : Input} {c : Char}
    (h : ((fractionText fraction).map some ++ rest).head? = some (some c)) :
    c = '.' ∨ rest.head? = some (some c) := by
  cases fraction with
  | some ds =>
    cases h
    exact .inl rfl
  | none => exact .inr h

theorem readUnsigned_append {n : Number} (hn : n.WellFormed) {rest : Input}
    (hrest : rest.EndsNumber) :
    readUnsigned n.negative
      ((n.whole ++ (fractionText n.fraction ++ exponentText n.exponent)).map some ++ rest) =
        .ok (n, rest) := by
  have hafter : ∀ c, ((exponentText n.exponent).map some ++ rest).head? = some (some c) →
      c.isDigit = false ∧ c ≠ '.' := by
    intro c hc
    rcases head?_exponentText hn.exponent hc with rfl | rfl | hc
    · decide
    · decide
    · exact ⟨(hrest c hc).1, (hrest c hc).2.1⟩
  have hends : Input.EndsDigits
      ((fractionText n.fraction).map some ++ ((exponentText n.exponent).map some ++ rest)) := by
    intro c hc
    rcases head?_fractionText hc with rfl | hc
    · rfl
    · exact (hafter c hc).1
  have hwhole := readWhole_append hn.whole hends
  have hfraction := readFraction_append hn.fraction (fun c hc => (hafter c hc).1)
    fun hc => (hafter '.' hc).2 rfl
  have hexponent := readExponent_append hn.exponent hrest
  simp only [List.map_append, List.append_assoc]
  unfold readUnsigned
  rw [hwhole]
  simp only [bind, Except.bind, hfraction, hexponent]
  rfl

end Number

/-! ## Whole numbers -/

theorem toDigits_eq (n : Nat) : toDigits n = Nat.toDigits 10 n := Nat.toList_repr

theorem ofDigits_toDigits (n : Nat) : ofDigits (toDigits n) = n := by
  have hread := Nat.ofDigitChars_ten_toDigits (n := n)
  rw [Nat.ofDigitChars_eq_foldl] at hread
  unfold ofDigits digitValue
  rw [toDigits_eq]
  simpa only [Nat.mul_comm] using hread

theorem head?_toDigits {n : Nat} (h : 0 < n) : (Nat.toDigits 10 n).head? ≠ some '0' := by
  induction n using Nat.strongRecOn with
  | ind n ih =>
    by_cases hn : n < 10
    · interval_cases n <;> decide
    · have hmod : n % 10 < 10 := Nat.mod_lt n (by decide)
      have hsplit := Nat.toDigits_append_toDigits (b := 10) (n := n / 10) (by decide) (by omega) hmod
      rw [Nat.div_add_mod] at hsplit
      rw [← hsplit, List.head?_append_of_ne_nil _ Nat.toDigits_ne_nil]
      exact ih (n / 10) (by omega) (by omega)

theorem isWhole_toDigits (n : Nat) : IsWhole (toDigits n) := by
  rw [toDigits_eq]
  by_cases hn : n = 0
  · subst hn
    exact .inl rfl
  · exact .inr ⟨⟨Nat.toDigits_ne_nil, fun c hc => Nat.isDigit_of_mem_toDigits (by decide)
      (by decide) hc⟩, head?_toDigits (Nat.pos_of_ne_zero hn)⟩

theorem Number.wellFormed_ofNat (n : Nat) : (Number.ofNat n).WellFormed :=
  ⟨isWhole_toDigits n, by simp [ofNat], by simp [ofNat]⟩

theorem Number.natural?_ofNat (n : Nat) : (Number.ofNat n).natural? = some n := by
  unfold natural? ofNat
  simp [ofDigits_toDigits]

end TypeRecovery.Json
