import TypeRecovery.Json.Input

/-!
# Bytes of a text

The bytes of a text are read back as its characters, and none of them is stray.
-/

namespace TypeRecovery.Json

/-! ## One character -/

theorem toNat_byte {n : Nat} (h : n < 256) : (UInt8.ofNat n).toNat = n :=
  UInt8.toNat_ofNat_of_lt' h

theorem tailBits_byte (n : Nat) : tailBits (UInt8.ofNat (n % 64 + 128)) = some (n % 64) := by
  unfold tailBits
  rw [toNat_byte (by omega), if_pos (by omega)]
  congr 1
  omega

theorem wideChar_cons {b : UInt8} {t : Nat} (hb : tailBits b = some t) (least bits : Nat)
    (rest : List UInt8) :
    wideChar least bits (b :: rest) = wideChar least (bits * 64 + t) rest := by
  -- One call, down to the test of its first byte.
  conv => lhs; whnf
  rw [hb]

theorem wideChar_tail (least n : Nat) (rest : List UInt8) :
    wideChar least (n / 64) (UInt8.ofNat (n % 64 + 128) :: rest) = wideChar least n rest := by
  rw [wideChar_cons (tailBits_byte n), Nat.div_add_mod']

theorem wideChar_nil {least : Nat} {c : Char} (h : least ≤ c.val.toNat) :
    wideChar least c.val.toNat [] = some c :=
  dif_pos (show least ≤ c.val.toNat ∧ c.val.toNat.isValidChar from ⟨h, c.valid⟩)

theorem leadByte_two {n : Nat} (h : n < 32) :
    leadByte (UInt8.ofNat (n % 32 + 192)) = some (1, 0x80, n) := by
  have hbits : (n % 32 + 192) % 32 = n := by omega
  simp only [leadByte, toNat_byte (show n % 32 + 192 < 256 by omega)]
  rw [if_pos (by omega), hbits]

theorem leadByte_three {n : Nat} (h : n < 16) :
    leadByte (UInt8.ofNat (n % 16 + 224)) = some (2, 0x800, n) := by
  have hbits : (n % 16 + 224) % 16 = n := by omega
  simp only [leadByte, toNat_byte (show n % 16 + 224 < 256 by omega)]
  rw [if_neg (by omega), if_pos (by omega), hbits]

theorem leadByte_four {n : Nat} (h : n < 8) :
    leadByte (UInt8.ofNat (n % 8 + 240)) = some (3, 0x10000, n) := by
  have hbits : (n % 8 + 240) % 8 = n := by omega
  simp only [leadByte, toNat_byte (show n % 8 + 240 < 256 by omega)]
  rw [if_neg (by omega), if_neg (by omega), if_pos (by omega), hbits]

theorem firstChar_of_leadByte {b : UInt8} {bits least : Nat} {tail : List UInt8} {c : Char}
    (hb : 128 ≤ b.toNat) (hlead : leadByte b = some (tail.length, least, bits))
    (hwide : wideChar least bits tail = some c) (rest : List UInt8) :
    firstChar b (tail ++ rest) = some (c, tail.length) := by
  unfold firstChar
  rw [if_neg (Nat.not_lt.2 hb), hlead]
  simp only [List.take_left, if_true, hwide, Option.map_some]

theorem firstChar_utf8EncodeChar (c : Char) (rest : List UInt8) :
    ∃ b tail, String.utf8EncodeChar c = b :: tail ∧
      firstChar b (tail ++ rest) = some (c, tail.length) := by
  have hlimit : c.val.toNat < 0x110000 := by
    rcases c.valid with h | h <;> omega
  unfold String.utf8EncodeChar
  simp only
  split
  · next hone =>
    refine ⟨_, _, rfl, ?_⟩
    unfold firstChar
    rw [toNat_byte (by omega), if_pos (by omega)]
    exact congrArg (fun c => some (c, 0)) (Char.ofNat_toNat c)
  split
  · next hone htwo =>
    refine ⟨_, _, rfl, firstChar_of_leadByte ?_ (leadByte_two (by omega)) ?_ rest⟩
    · rw [toNat_byte (by omega)]
      omega
    · rw [wideChar_tail, wideChar_nil (by omega)]
  split
  · next htwo hthree =>
    refine ⟨_, _, rfl, firstChar_of_leadByte ?_ (leadByte_three (by omega)) ?_ rest⟩
    · rw [toNat_byte (by omega)]
      omega
    · rw [← Nat.div_div_eq_div_mul _ 64 64, wideChar_tail, wideChar_tail, wideChar_nil (by omega)]
  · next hthree =>
    refine ⟨_, _, rfl, firstChar_of_leadByte ?_ (leadByte_four (by omega)) ?_ rest⟩
    · rw [toNat_byte (by omega)]
      omega
    · rw [← Nat.div_div_eq_div_mul _ 4096 64, ← Nat.div_div_eq_div_mul _ 64 64, wideChar_tail,
        wideChar_tail, wideChar_tail, wideChar_nil (by omega)]

/-! ## A text -/

theorem unitsOfBytes_skip (done : List (Option Char)) (tail rest : List UInt8) :
    unitsOfBytes done tail.length (tail ++ rest) = unitsOfBytes done 0 rest := by
  induction tail with
  | nil => rfl
  | cons b tail ih => exact ih

theorem unitsOfBytes_utf8EncodeChar (done : List (Option Char)) (c : Char) (rest : List UInt8) :
    unitsOfBytes done 0 (String.utf8EncodeChar c ++ rest) =
      unitsOfBytes (some c :: done) 0 rest := by
  obtain ⟨b, tail, hbytes, hfirst⟩ := firstChar_utf8EncodeChar c rest
  rw [hbytes, List.cons_append, unitsOfBytes]
  simp only [hfirst]
  exact unitsOfBytes_skip _ tail rest

theorem unitsOfBytes_flatMap (done : List (Option Char)) (cs : List Char) :
    unitsOfBytes done 0 (cs.flatMap String.utf8EncodeChar) = done.reverse ++ cs.map some := by
  induction cs generalizing done with
  | nil => simp [unitsOfBytes]
  | cons c cs ih => simp [unitsOfBytes_utf8EncodeChar, ih]

theorem toList_toUTF8 (s : String) :
    s.toUTF8.data.toList = s.toList.flatMap String.utf8EncodeChar := by
  rw [String.toUTF8_eq_toByteArray, ← String.utf8Encode_toList, List.utf8Encode,
    List.toList_data_toByteArray]

theorem utf8ByteSize_eq (s : String) :
    s.utf8ByteSize = (s.toList.flatMap String.utf8EncodeChar).length :=
  congrArg List.length (toList_toUTF8 s)

theorem ofBytes_toUTF8 (s : String) : Input.ofBytes s.toUTF8.data.toList = Input.ofString s := by
  rw [toList_toUTF8]
  exact unitsOfBytes_flatMap [] s.toList

end TypeRecovery.Json
