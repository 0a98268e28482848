import TypeRecovery.Json.Token
import TypeRecovery.Proofs.Json.Literals

/-!
# Scanning written tokens

The text of a token is read as that token, and tokens that were written one behind the other are
scanned one by one, as long as no number follows a number.
-/

namespace TypeRecovery.Json

/-! ## Strings -/

theorem hexValue_hexDigit : ∀ v < 16, hexValue (hexDigit v) = some v := by decide

theorem hexUnit_control {n : Nat} (h : n < 32) :
    hexUnit (some '0') (some '0') (some (hexDigit (n / 16))) (some (hexDigit (n % 16))) =
      some n := by
  have hzero : hexValue '0' = some 0 := by decide
  simp only [hexUnit, Option.bind_eq_bind, Option.bind_some, hzero,
    hexValue_hexDigit (n / 16) (by omega), hexValue_hexDigit (n % 16) (by omega)]
  simp only [pure]
  congr 1
  omega

theorem textOfPieces_control {n : Nat} (h : n < 32) (done : List Char) (pieces : List Piece) :
    textOfPieces done (.unit n :: pieces) = textOfPieces (Char.ofNat n :: done) pieces := by
  have hhigh : isHighSurrogate n = false := by
    simp [isHighSurrogate]
    omega
  have hlow : isLowSurrogate n = false := by
    simp [isLowSurrogate]
    omega
  rw [textOfPieces.eq_def]
  simp [hhigh, hlow]

theorem readPieces_plain {c : Char} (hquote : c ≠ '"') (hslash : c ≠ '\\') (hcontrol : ¬c < ' ')
    (done : List Piece) (rest : Input) :
    readPieces done (some c :: rest) = readPieces (.char c :: done) rest := by
  rw [readPieces]
  · rw [if_neg hcontrol]
  all_goals simp [hquote, hslash]

theorem readPieces_short {e c : Char} (he : e ≠ 'u') (hshort : shortEscape e = some c)
    (done : List Piece) (rest : Input) :
    readPieces done (some '\\' :: some e :: rest) = readPieces (.char c :: done) rest := by
  rw [readPieces]
  · rw [hshort]
  all_goals simp [he]

theorem readPieces_control {n : Nat} (h : n < 32) (done : List Piece) (rest : Input) :
    readPieces done (some '\\' :: some 'u' :: some '0' :: some '0' :: some (hexDigit (n / 16)) ::
      some (hexDigit (n % 16)) :: rest) = readPieces (.unit n :: done) rest := by
  rw [readPieces, hexUnit_control h]

theorem escapeChar_cases (c : Char) :
    (∃ e, e ≠ 'u' ∧ shortEscape e = some c ∧ escapeChar c = ['\\', e]) ∨
      (c.toNat < 32 ∧ escapeChar c =
        ['\\', 'u', '0', '0', hexDigit (c.toNat / 16), hexDigit (c.toNat % 16)]) ∨
      (c ≠ '"' ∧ c ≠ '\\' ∧ ¬c < ' ' ∧ escapeChar c = [c]) := by
  unfold escapeChar
  split_ifs with hquote hslash hn hr ht hb hf hcontrol
  · exact .inl ⟨'"', by decide, by rw [hquote]; rfl, rfl⟩
  · exact .inl ⟨'\\', by decide, by rw [hslash]; rfl, rfl⟩
  · exact .inl ⟨'n', by decide, by rw [hn]; rfl, rfl⟩
  · exact .inl ⟨'r', by decide, by rw [hr]; rfl, rfl⟩
  · exact .inl ⟨'t', by decide, by rw [ht]; rfl, rfl⟩
  · exact .inl ⟨'b', by decide, by rw [hb]; rfl, rfl⟩
  · exact .inl ⟨'f', by decide, by rw [hf]; rfl, rfl⟩
  · exact .inr (.inl ⟨Char.lt_def.1 hcontrol, rfl⟩)
  · exact .inr (.inr ⟨hquote, hslash, hcontrol, rfl⟩)

theorem readPieces_escapeChar (c : Char) :
    ∃ piece, (∀ done rest, readPieces done ((escapeChar c).map some ++ rest) =
        readPieces (piece :: done) rest) ∧
      ∀ done pieces, textOfPieces done (piece :: pieces) = textOfPieces (c :: done) pieces := by
  rcases escapeChar_cases c with ⟨e, he, hshort, heq⟩ | ⟨hcontrol, heq⟩ |
    ⟨hquote, hslash, hcontrol, heq⟩ <;> rw [heq]
  · exact ⟨.char c, readPieces_short he hshort, fun _ _ => rfl⟩
  · refine ⟨.unit c.toNat, readPieces_control hcontrol, fun done pieces => ?_⟩
    rw [textOfPieces_control hcontrol, Char.ofNat_toNat]
  · exact ⟨.char c, readPieces_plain hquote hslash hcontrol, fun _ _ => rfl⟩

theorem readPieces_quoted (cs : List Char) (done : List Piece) (rest : Input) :
    ∃ pieces, readPieces done ((cs.flatMap escapeChar ++ ['"']).map some ++ rest) =
        (pieces.reverse ++ done, .ok rest) ∧
      ∀ read, textOfPieces read pieces = some (String.ofList (read.reverse ++ cs)) := by
  induction cs generalizing done with
  | nil => exact ⟨[], by simp [readPieces], by simp [textOfPieces]⟩
  | cons c cs ih =>
    obtain ⟨piece, hread, htext⟩ := readPieces_escapeChar c
    obtain ⟨pieces, hreads, htexts⟩ := ih (piece :: done)
    refine ⟨piece :: pieces, ?_, fun read => ?_⟩
    · rw [List.flatMap_cons, List.append_assoc, List.map_append, List.append_assoc, hread, hreads,
        List.reverse_cons, List.append_assoc, List.singleton_append]
    · rw [htext, htexts, List.reverse_cons, List.append_assoc, List.singleton_append]

theorem readString_quoted (s : String) (rest : Input) :
    readString ((s.toList.flatMap escapeChar ++ ['"']).map some ++ rest) = .ok (some s, rest) := by
  obtain ⟨pieces, hread, htext⟩ := readPieces_quoted s.toList [] rest
  unfold readString
  rw [hread]
  simp only [List.append_nil, List.reverse_reverse, htext, List.reverse_nil, List.nil_append,
    String.ofList_toList]

/-! ## Tokens -/

namespace Token

/-- A token that a writer uses. -/
def Written : Token → Prop
  | .number n => n.WellFormed
  | .string text => text.isSome = true
  | .broken _ _ => False
  | _ => True

def isNumber : Token → Bool
  | .number _ => true
  | _ => false

theorem read_digit {c : Char} (hc : c.isDigit = true) (rest : Input) :
    Token.read (some c) rest = Token.ofNumber false (some c :: rest) := by
  rw [Token.read]
  · rw [if_pos hc]
  all_goals
    rintro rfl
    exact absurd hc (by decide)

theorem ofNumber_unsigned {n : Number} (hn : n.WellFormed) {rest : Input} (hrest : rest.EndsNumber) :
    Token.ofNumber n.negative ((n.whole ++ (Number.fractionText n.fraction ++
      Number.exponentText n.exponent)).map some ++ rest) = (.number n, rest) := by
  unfold Token.ofNumber
  rw [Number.readUnsigned_append hn hrest]

theorem exists_digit_cons {ds : List Char} (h : IsWhole ds) :
    ∃ c cs, ds = c :: cs ∧ c.isDigit = true := by
  rcases h with rfl | ⟨⟨hne, hdigits⟩, -⟩
  · exact ⟨'0', [], rfl, rfl⟩
  · obtain ⟨c, cs, rfl⟩ := List.exists_cons_of_ne_nil hne
    exact ⟨c, cs, rfl, hdigits c (.head cs)⟩

theorem isBlank_digit {c : Char} (hc : c.isDigit = true) : isBlank (some c) = false := by
  have hne : ∀ d : Char, d.isDigit = false → c ≠ d := by
    rintro d hd rfl
    rw [hc] at hd
    cases hd
  simp [isBlank, hne ' ' rfl, hne '\n' rfl, hne '\t' rfl, hne '\r' rfl]

theorem read_text_number {n : Number} (hn : n.WellFormed) {rest : Input} (hrest : rest.EndsNumber) :
    ∃ c cs, n.text = c :: cs ∧ isBlank (some c) = false ∧
      Token.read (some c) (cs.map some ++ rest) = (.number n, rest) := by
  have hread := ofNumber_unsigned hn hrest
  rw [n.text_eq]
  cases hsign : n.negative with
  | true =>
    rw [hsign] at hread
    exact ⟨'-', _, rfl, rfl, hread⟩
  | false =>
    rw [hsign] at hread
    obtain ⟨c, cs, hwhole, hc⟩ := exists_digit_cons hn.whole
    rw [hwhole] at hread ⊢
    exact ⟨c, _, rfl, isBlank_digit hc, (read_digit hc _).trans hread⟩

theorem read_text {t : Token} (ht : t.Written) {rest : Input}
    (hrest : t.isNumber = true → rest.EndsNumber) :
    ∃ c cs, t.text = c :: cs ∧ isBlank (some c) = false ∧
      Token.read (some c) (cs.map some ++ rest) = (t, rest) := by
  cases t with
  | number n => exact read_text_number ht (hrest rfl)
  | string text =>
    obtain ⟨s, rfl⟩ := Option.isSome_iff_exists.1 ht
    refine ⟨'"', _, rfl, rfl, ?_⟩
    simp only [Option.getD_some, Token.read, Token.ofString, readString_quoted]
  | broken stop quoted => cases ht
  | bool value => cases value <;> exact ⟨_, _, rfl, rfl, rfl⟩
  | _ => exact ⟨_, _, rfl, rfl, rfl⟩

/-- Only a number starts with a character that could go on with one. -/
theorem endsNumber_text {t : Token} (ht : t.Written) (hnumber : t.isNumber = false) (rest : Input) :
    Input.EndsNumber (t.text.map some ++ rest) := by
  intro c hc
  cases t with
  | number n => cases hnumber
  | broken stop quoted => cases ht
  | bool value => cases value <;> cases hc <;> decide
  | _ => cases hc; decide

end Token

/-! ## Scanned literals -/

namespace Token

/-- A token whose literal, if it is one, is well-formed. -/
def WellFormed (t : Token) : Prop := ∀ n, t = .number n → n.WellFormed

theorem ofNumber_wellFormed (negative : Bool) (input : Input) :
    (Token.ofNumber negative input).1.WellFormed := by
  unfold Token.ofNumber
  split
  · next n rest hread =>
    rintro _ ⟨⟩
    exact Number.wellFormed_of_readUnsigned hread
  · simp [WellFormed]

theorem ofWord_wellFormed {t : Token} (ht : t.isNumber = false) (word : List Char) (input : Input) :
    (Token.ofWord t word input).1.WellFormed := by
  unfold Token.ofWord
  split
  · rintro n rfl
    cases ht
  · simp [WellFormed]

theorem ofString_wellFormed (input : Input) : (Token.ofString input).1.WellFormed := by
  unfold Token.ofString
  split <;> simp [WellFormed]

theorem read_wellFormed (unit : Option Char) (rest : Input) :
    (Token.read unit rest).1.WellFormed := by
  unfold Token.read
  split
  case h_7 => exact ofString_wellFormed rest
  case h_8 => exact ofNumber_wellFormed true rest
  case h_9 | h_10 | h_11 => exact ofWord_wellFormed rfl _ _
  case h_12 =>
    split
    · exact ofNumber_wellFormed false _
    · simp [WellFormed]
  all_goals simp [WellFormed]

end Token

theorem scanFrom_wellFormed {done : List Token} (hdone : ∀ t ∈ done, t.WellFormed) (input : Input) :
    ∀ t ∈ scanFrom done input, t.WellFormed := by
  fun_induction scanFrom done input with
  | case1 => simpa using hdone
  | case2 done input unit rest hinput ih =>
    apply ih
    rintro t (_ | ⟨_, ht⟩)
    · exact Token.read_wellFormed unit rest
    · exact hdone t ht

theorem scan_wellFormed (input : Input) : ∀ t ∈ scan input, t.WellFormed :=
  scanFrom_wellFormed (by simp) input

/-! ## Texts -/

/-- Tokens that a writer uses, no two of them numbers in a row. -/
def Spelled : List Token → Prop
  | [] => True
  | t :: ts => t.Written ∧ (t.isNumber = true → ∀ t' ∈ ts.head?, t'.isNumber = false) ∧ Spelled ts

theorem scanFrom_nil (done : List Token) : scanFrom done [] = done.reverse := by
  rw [scanFrom]
  rfl

theorem scanFrom_cons {unit : Option Char} (h : isBlank unit = false) (done : List Token)
    (rest : Input) :
    scanFrom done (unit :: rest) =
      scanFrom ((Token.read unit rest).1 :: done) (Token.read unit rest).2 := by
  have hdrop : (unit :: rest).dropWhile isBlank = unit :: rest :=
    List.dropWhile_cons_of_neg (by simp [h])
  rw [scanFrom]
  split
  · next hnil => cases hdrop.symm.trans hnil
  · next hcons =>
    cases hdrop.symm.trans hcons
    rfl

theorem endsNumber_texts {ts : List Token} (h : Spelled ts)
    (hhead : ∀ t ∈ ts.head?, t.isNumber = false) :
    Input.EndsNumber ((ts.flatMap Token.text).map some) := by
  cases ts with
  | nil => intro c hc; cases hc
  | cons t ts =>
    rw [List.flatMap_cons, List.map_append]
    exact Token.endsNumber_text h.1 (hhead t rfl) _

theorem scanFrom_texts {ts : List Token} (h : Spelled ts) (done : List Token) :
    scanFrom done ((ts.flatMap Token.text).map some) = done.reverse ++ ts := by
  induction ts generalizing done with
  | nil => rw [List.flatMap_nil, List.map_nil, scanFrom_nil, List.append_nil]
  | cons t ts ih =>
    obtain ⟨hwritten, hapart, hspelled⟩ := h
    obtain ⟨c, cs, htext, hblank, hread⟩ :=
      Token.read_text hwritten fun hnumber => endsNumber_texts hspelled (hapart hnumber)
    rw [List.flatMap_cons, List.map_append, htext, List.map_cons, List.cons_append,
      scanFrom_cons hblank, hread, ih hspelled, List.reverse_cons, List.append_assoc,
      List.singleton_append]

theorem scan_texts {ts : List Token} (h : Spelled ts) :
    scan ((ts.flatMap Token.text).map some) = ts :=
  scanFrom_texts h []

end TypeRecovery.Json
