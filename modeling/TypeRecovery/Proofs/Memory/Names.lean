import Mathlib.Algebra.Ring.Nat
import TypeRecovery.Memory
import TypeRecovery.Proofs.Json.Bytes

/-!
# Names of memory files

A file name that stands for an address is the one that the address is given. So no two names stand
for the same address.
-/

namespace TypeRecovery

/-! ## Digits -/

theorem digitChar_of_lowerHexValue {c : Char} {v : Nat} (h : lowerHexValue c = some v) :
    v < 16 ∧ Nat.digitChar v = c := by
  have hdecimal : ∀ v < 10, Nat.digitChar v = Char.ofNat (48 + v) := by decide
  have hletter : ∀ v < 6, Nat.digitChar (v + 10) = Char.ofNat (97 + v) := by decide
  unfold lowerHexValue at h
  split at h
  · rename_i hrange
    have hlow : 48 ≤ c.toNat := hrange.1
    have hhigh : c.toNat ≤ 57 := hrange.2
    cases h
    have hv : c.toNat - 48 < 10 := by omega
    refine ⟨Nat.lt_trans hv (by decide), ?_⟩
    show Nat.digitChar (c.toNat - 48) = c
    rw [hdecimal _ hv, Nat.add_sub_cancel' hlow, Char.ofNat_toNat]
  · split at h
    · rename_i hrange
      have hlow : 97 ≤ c.toNat := hrange.1
      have hhigh : c.toNat ≤ 102 := hrange.2
      cases h
      have hv : c.toNat - 97 < 6 := by omega
      refine ⟨Nat.add_lt_add_right hv 10, ?_⟩
      show Nat.digitChar (c.toNat - 97 + 10) = c
      rw [hletter _ hv, Nat.add_sub_cancel' hlow, Char.ofNat_toNat]
    · cases h

theorem lowerHexValue_digitChar : ∀ v < 16, lowerHexValue (Nat.digitChar v) = some v := by
  decide

theorem fixedHex_succ (width n : Nat) :
    fixedHex (width + 1) n = Nat.digitChar (n / 16 ^ width % 16) :: fixedHex width n := by
  induction width generalizing n with
  | zero => simp [fixedHex]
  | succ width ih =>
    rw [fixedHex, ih, Nat.div_div_eq_div_mul, Nat.mul_comm, ← Nat.pow_succ]
    rfl

/-- Digits write a number behind `n` exactly when they are its low digits and `n` is what is left
of it without them. -/
theorem ofHexFrom_eq_some_iff {n m : Nat} {cs : List Char} :
    ofHexFrom n cs = some m ↔ cs = fixedHex cs.length m ∧ m / 16 ^ cs.length = n := by
  induction cs generalizing n with
  | nil =>
    rw [ofHexFrom, Option.some_inj, List.length_nil, Nat.pow_zero, Nat.div_one]
    exact ⟨fun h => ⟨rfl, h.symm⟩, fun h => h.2.symm⟩
  | cons c cs ih =>
    have hnext : m / 16 ^ (cs.length + 1) = m / 16 ^ cs.length / 16 := by
      rw [Nat.pow_succ, Nat.div_div_eq_div_mul]
    rw [List.length_cons, fixedHex_succ, hnext, List.cons_eq_cons, ofHexFrom]
    constructor
    · intro h
      split at h
      · rename_i v hv
        obtain ⟨hlt, hc⟩ := digitChar_of_lowerHexValue hv
        obtain ⟨hcs, hn⟩ := ih.1 h
        have hmod : (n * 16 + v) % 16 = v := by omega
        rw [hn, hmod]
        exact ⟨⟨hc.symm, hcs⟩, by omega⟩
      · cases h
    · rintro ⟨⟨hc, hcs⟩, hn⟩
      rw [hc, lowerHexValue_digitChar _ (Nat.mod_lt _ (by decide))]
      exact ih.2 ⟨hcs, by omega⟩

theorem ofHexFrom_fixedHex (base : UInt64) :
    ofHexFrom 0 (fixedHex 16 base.toNat) = some base.toNat := by
  rw [ofHexFrom_eq_some_iff, length_fixedHex]
  exact ⟨rfl, Nat.div_eq_of_lt base.toNat_lt⟩

/-! ## Names -/

theorem toList_memoryFileName (base : UInt64) :
    (memoryFileName base).toList = fixedHex 16 base.toNat ++ chunkExtension :=
  String.toList_ofList

theorem parseMemoryFileName_eq_ok_iff {name : String} {base : UInt64} :
    parseMemoryFileName name = .ok base ↔ name = memoryFileName base := by
  constructor
  · intro h
    unfold parseMemoryFileName at h
    simp only at h
    split at h
    · rename_i hextension
      split at h
      · rename_i n hn
        cases h
        -- Sixteen digits are there, since something is there behind them.
        have hlength : (name.toList.take 16).length = 16 := by
          have hdrop := congrArg List.length hextension
          rw [List.length_drop, show chunkExtension.length = 4 from rfl] at hdrop
          rw [List.length_take]
          omega
        rw [ofHexFrom_eq_some_iff, hlength] at hn
        obtain ⟨hdigits, hzero⟩ := hn
        have hlt : n < UInt64.size := Nat.lt_of_div_eq_zero (by decide) hzero
        rw [← String.ofList_toList (s := name), memoryFileName, UInt64.toNat_ofNat_of_lt' hlt,
          ← hdigits, ← hextension, List.take_append_drop]
      · cases h
    · cases h
  · rintro rfl
    have hlength : (fixedHex 16 base.toNat).length = 16 := length_fixedHex 16 base.toNat
    unfold parseMemoryFileName
    dsimp only
    rw [toList_memoryFileName, List.drop_left' hlength, List.take_left' hlength, if_pos rfl,
      ofHexFrom_fixedHex]
    exact congrArg Except.ok UInt64.ofNat_toNat

example : parseMemoryFileName "00007ffabc001000.bin" = .ok 0x7ffabc001000 :=
  parseMemoryFileName_eq_ok_iff.2 (by decide)

theorem not_mem_memoryFileName {c : Char} (hc : lowerHexValue c = none)
    (hextension : c ∉ chunkExtension) (base : UInt64) : c ∉ (memoryFileName base).toList := by
  have hdigit : ∀ width n, c ∉ fixedHex width n := by
    intro width n hmem
    induction width with
    | zero => cases hmem
    | succ width ih =>
      rw [fixedHex_succ, List.mem_cons] at hmem
      rcases hmem with rfl | hmem
      · rw [lowerHexValue_digitChar _ (Nat.mod_lt _ (by decide))] at hc
        cases hc
      · exact ih hmem
  rw [toList_memoryFileName, List.mem_append]
  exact not_or.2 ⟨hdigit 16 base.toNat, hextension⟩

/-! ## Exact names -/

def lowerHexDigits : List Char := "0123456789abcdef".toList

/-- Sixteen bytes of lowercase hex digits, and then the extension. -/
def IsAddressName (name : String) : Prop :=
  ∃ digits : String, name = digits ++ ".bin" ∧ digits.utf8ByteSize = 16 ∧
    ∀ c ∈ digits.toList, c ∈ lowerHexDigits

/-- A number in sixteen digits, with zeros in front. -/
def paddedHex (n : Nat) : String := String.ofList ((hexDigits n).leftpad 16 '0')

theorem fixedHex_zero (width : Nat) : fixedHex width 0 = List.replicate width '0' := by
  induction width with
  | zero => rfl
  | succ width ih =>
    rw [fixedHex, Nat.zero_div, ih, List.replicate_succ']
    rfl

theorem fixedHex_eq_leftpad {width n : Nat} (h : n < 16 ^ (width + 1)) :
    fixedHex (width + 1) n = (hexDigits n).leftpad (width + 1) '0' := by
  unfold hexDigits List.leftpad
  induction width generalizing n with
  | zero =>
    have hn : n < 16 := h
    rw [Nat.toDigits_of_lt_base hn, fixedHex, Nat.mod_eq_of_lt hn]
    rfl
  | succ width ih =>
    by_cases hn : n < 16
    · rw [Nat.toDigits_of_lt_base hn, fixedHex, Nat.div_eq_of_lt hn, Nat.mod_eq_of_lt hn,
        fixedHex_zero]
      rfl
    · have hmod : n % 16 < 16 := Nat.mod_lt n (by decide)
      have hdiv : n / 16 < 16 ^ (width + 1) := Nat.div_lt_of_lt_mul (by rwa [← Nat.pow_succ'])
      have hpos : 0 < n / 16 := by omega
      have hsplit := Nat.toDigits_append_toDigits (by decide : 1 < 16) hpos hmod
      rw [Nat.div_add_mod, Nat.toDigits_of_lt_base hmod] at hsplit
      rw [fixedHex, ih hdiv, ← hsplit, List.length_append, List.length_singleton,
        Nat.add_sub_add_right, List.append_assoc]

theorem memoryFileName_eq (base : UInt64) :
    memoryFileName base = paddedHex base.toNat ++ ".bin" := by
  apply String.toList_injective
  rw [toList_memoryFileName, fixedHex_eq_leftpad base.toNat_lt, String.toList_append, paddedHex,
    String.toList_ofList]
  rfl

theorem mem_lowerHexDigits_iff {c : Char} :
    c ∈ lowerHexDigits ↔ ∃ v, lowerHexValue c = some v := by
  have hdigits : lowerHexDigits = (List.range 16).map Nat.digitChar := by decide
  rw [hdigits, List.mem_map]
  constructor
  · rintro ⟨v, hv, rfl⟩
    exact ⟨v, lowerHexValue_digitChar v (List.mem_range.1 hv)⟩
  · rintro ⟨v, hv⟩
    obtain ⟨hlt, hc⟩ := digitChar_of_lowerHexValue hv
    exact ⟨v, List.mem_range.2 hlt, hc⟩

theorem exists_ofHexFrom_iff {n : Nat} {cs : List Char} :
    (∃ m, ofHexFrom n cs = some m) ↔ ∀ c ∈ cs, c ∈ lowerHexDigits := by
  simp only [mem_lowerHexDigits_iff]
  induction cs generalizing n with
  | nil => simp [ofHexFrom]
  | cons c cs ih =>
    rw [ofHexFrom, List.forall_mem_cons]
    cases lowerHexValue c with
    | none => simp
    | some v => simp [ih]

theorem utf8ByteSize_of_digits {s : String} (h : ∀ c ∈ s.toList, c ∈ lowerHexDigits) :
    s.utf8ByteSize = s.toList.length := by
  have hone : lowerHexDigits.all (fun c => c.utf8Size = 1) = true := by decide
  simp only [List.all_eq_true, decide_eq_true_eq] at hone
  rw [Json.utf8ByteSize_eq]
  generalize s.toList = cs at h
  induction cs with
  | nil => rfl
  | cons c cs ih =>
    obtain ⟨hc, hcs⟩ := List.forall_mem_cons.1 h
    rw [List.flatMap_cons, List.length_append, String.length_utf8EncodeChar, hone c hc, ih hcs,
      List.length_cons, Nat.add_comm]

theorem isAddressName_memoryFileName (base : UInt64) : IsAddressName (memoryFileName base) := by
  have hdigits : ∀ c ∈ (addressHex base).toList, c ∈ lowerHexDigits := by
    rw [addressHex, String.toList_ofList]
    exact exists_ofHexFrom_iff.1 ⟨_, ofHexFrom_fixedHex base⟩
  refine ⟨addressHex base, ?_, ?_, hdigits⟩
  · apply String.toList_injective
    rw [toList_memoryFileName, addressHex, String.toList_append, String.toList_ofList]
    rfl
  · rw [utf8ByteSize_of_digits hdigits, addressHex, String.toList_ofList, length_fixedHex]

theorem exists_parseMemoryFileName_iff {name : String} :
    (∃ base, parseMemoryFileName name = .ok base) ↔ IsAddressName name := by
  constructor
  · rintro ⟨base, h⟩
    rw [parseMemoryFileName_eq_ok_iff.1 h]
    exact isAddressName_memoryFileName base
  · rintro ⟨digits, rfl, hsize, hdigits⟩
    rw [utf8ByteSize_of_digits hdigits] at hsize
    obtain ⟨n, hn⟩ := (exists_ofHexFrom_iff (n := 0)).2 hdigits
    have hextension : ".bin".toList = chunkExtension := by decide
    refine ⟨UInt64.ofNat n, ?_⟩
    unfold parseMemoryFileName
    dsimp only
    rw [String.toList_append, List.drop_left' hsize, List.take_left' hsize, if_pos hextension, hn]

theorem parseMemoryFileName_error {name : String}
    (h : ¬∃ base, parseMemoryFileName name = .ok base) :
    parseMemoryFileName name = .error (.invalidChunkName name) := by
  unfold parseMemoryFileName at h ⊢
  dsimp only at h ⊢
  split
  · rename_i hextension
    rw [if_pos hextension] at h
    split
    · rename_i n hn
      rw [hn] at h
      exact absurd ⟨_, rfl⟩ h
    · rfl
  · rfl

/-- The name of an address is its sixteen padded digits and the extension. No other text is read as
the address, and what is not the name of one is refused. -/
theorem parseMemoryFileName_exact :
    (∀ name base, parseMemoryFileName name = .ok base ↔ name = paddedHex base.toNat ++ ".bin") ∧
    (∀ base : UInt64, (paddedHex base.toNat).length = 16) ∧
    (∀ name, (∃ base, parseMemoryFileName name = .ok base) ↔ IsAddressName name) ∧
    (∀ name, ¬IsAddressName name →
      parseMemoryFileName name = .error (.invalidChunkName name)) ∧
    (∀ base, parseMemoryFileName (memoryFileName base) = .ok base) ∧
    (∀ name base, parseMemoryFileName name = .ok base → memoryFileName base = name) ∧
    ∀ name name' base, parseMemoryFileName name = .ok base →
      parseMemoryFileName name' = .ok base → name = name' := by
  refine ⟨fun name base => ?_, fun base => ?_, fun _ => exists_parseMemoryFileName_iff,
    fun name h => ?_, fun base => ?_, fun name base h => ?_, fun name name' base h h' => ?_⟩
  · rw [parseMemoryFileName_eq_ok_iff, memoryFileName_eq]
  · rw [paddedHex, ← fixedHex_eq_leftpad base.toNat_lt, String.length_ofList, length_fixedHex]
  · rw [← exists_parseMemoryFileName_iff] at h
    exact parseMemoryFileName_error h
  · exact parseMemoryFileName_eq_ok_iff.2 rfl
  · exact (parseMemoryFileName_eq_ok_iff.1 h).symm
  · rw [parseMemoryFileName_eq_ok_iff.1 h, parseMemoryFileName_eq_ok_iff.1 h']

end TypeRecovery
