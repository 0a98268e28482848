import TypeRecovery.Proofs.Header.Names
import TypeRecovery.Proofs.Memory.Names

/-!
# Names of members

A member whose word is taken gets its offset behind it. Offsets tell such names apart from each
other, but nothing tells one from the word of a member before it.
-/

namespace TypeRecovery

/-! ## Offsets as text -/

theorem ofHexFrom_append {n m : Nat} {ds ds' : List Char} (h : ofHexFrom n ds = some m) :
    ofHexFrom n (ds ++ ds') = ofHexFrom m ds' := by
  induction ds generalizing n with
  | nil =>
    cases h
    rfl
  | cons c ds ih =>
    rw [ofHexFrom] at h
    split at h
    · rename_i v hv
      rw [List.cons_append, ofHexFrom, hv]
      exact ih h
    · cases h

theorem ofHexFrom_digitChar (n : Nat) {v : Nat} (hv : v < 16) :
    ofHexFrom n [Nat.digitChar v] = some (n * 16 + v) := by
  simp only [ofHexFrom, lowerHexValue_digitChar v hv]

theorem ofHexFrom_hexDigits (n : Nat) : ofHexFrom 0 (hexDigits n) = some n := by
  induction n using Nat.strongRecOn with
  | ind n ih =>
    unfold hexDigits at ih ⊢
    by_cases hn : n < 16
    · rw [Nat.toDigits_of_lt_base hn, ofHexFrom_digitChar 0 hn, Nat.zero_mul, Nat.zero_add]
    · have hmod : n % 16 < 16 := Nat.mod_lt n (by decide)
      have hsplit := Nat.toDigits_append_toDigits (b := 16) (n := n / 16) (by decide) (by omega) hmod
      rw [Nat.div_add_mod] at hsplit
      rw [← hsplit, ofHexFrom_append (ih (n / 16) (by omega)), Nat.toDigits_of_lt_base hmod,
        ofHexFrom_digitChar _ hmod, Nat.mul_comm, Nat.div_add_mod]

theorem not_mem_of_ofHexFrom {n m : Nat} {ds : List Char} {c : Char}
    (hc : lowerHexValue c = none) (h : ofHexFrom n ds = some m) : c ∉ ds := by
  induction ds generalizing n with
  | nil => simp
  | cons d ds ih =>
    rw [ofHexFrom] at h
    split at h
    · rename_i v hv
      rintro (_ | ⟨_, hmem⟩)
      · rw [hc] at hv
        cases hv
      · exact ih h hmem
    · cases h

theorem append_cons_inj {α : Type} {l l' r r' : List α} {a : α} (hr : a ∉ r) (hr' : a ∉ r')
    (h : l ++ a :: r = l' ++ a :: r') : l = l' ∧ r = r' := by
  rcases List.append_eq_append_iff.1 h with ⟨_ | ⟨b, as⟩, hl, htail⟩ | ⟨_ | ⟨b, as⟩, hl, htail⟩
  · simp at hl htail
    exact ⟨hl.symm, htail⟩
  · cases htail
    simp at hr
  · simp at hl htail
    exact ⟨hl, htail.symm⟩
  · cases htail
    simp at hr'

theorem hex_inj {a b : Nat} (h : hexDigits a = hexDigits b) : a = b := by
  have hread := ofHexFrom_hexDigits a
  rw [h, ofHexFrom_hexDigits] at hread
  exact (Option.some.inj hread).symm

/-! ## Names of one structure -/

/-- The name of a member whose word is taken. -/
def offsetWord (m : Member) : String := memberWord m ++ "_" ++ hex m.offset

theorem toList_offsetWord (m : Member) :
    (offsetWord m).toList = (memberWord m).toList ++ '_' :: hexDigits m.offset := by
  simp [offsetWord, hex]

theorem offset_eq_of_offsetWord {m m' : Member} (h : offsetWord m = offsetWord m') :
    m.offset = m'.offset := by
  have hnot : ∀ n, '_' ∉ hexDigits n := fun n =>
    not_mem_of_ofHexFrom (by decide) (ofHexFrom_hexDigits n)
  have hlist := congrArg String.toList h
  rw [toList_offsetWord, toList_offsetWord] at hlist
  exact hex_inj (append_cons_inj (hnot _) (hnot _) hlist).2

theorem memberName_congr {used used' : List String} (h : ∀ name, name ∈ used ↔ name ∈ used')
    (m : Member) : memberName used m = memberName used' m := by
  unfold memberName
  simp only [h]

theorem memberNames_concat (used : List String) (ms : List Member) (m : Member) :
    memberNames used (ms ++ [m]) =
      memberNames used ms ++ [memberName (used ++ memberNames used ms) m] := by
  induction ms generalizing used with
  | nil => simp [memberNames]
  | cons x ms ih =>
    rw [List.cons_append, memberNames, memberNames, ih, List.cons_append]
    congr 3
    apply memberName_congr
    intro name
    simp only [List.mem_cons, List.mem_append]
    tauto

/-- The names of the members of a structure. -/
def namesOf (ms : List Member) : List String := memberNames [] ms

theorem namesOf_concat (ms : List Member) (m : Member) :
    namesOf (ms ++ [m]) =
      namesOf ms ++ [if memberWord m ∈ namesOf ms then offsetWord m else memberWord m] :=
  memberNames_concat [] ms m

theorem length_memberNames (used : List String) (ms : List Member) :
    (memberNames used ms).length = ms.length := by
  induction ms generalizing used with
  | nil => rfl
  | cons m ms ih => rw [memberNames, List.length_cons, List.length_cons, ih]

theorem memberWord_mem_namesOf {ms : List Member} {m : Member} (h : m ∈ ms) :
    memberWord m ∈ namesOf ms := by
  induction ms using List.reverseRecOn with
  | nil => cases h
  | append_singleton ms last ih =>
    rw [namesOf_concat, List.mem_append, List.mem_singleton]
    rcases List.mem_append.1 h with hmem | hmem
    · exact .inl (ih hmem)
    · cases List.mem_singleton.1 hmem
      by_cases htaken : memberWord m ∈ namesOf ms
      · exact .inl htaken
      · exact .inr (if_neg htaken).symm

theorem mem_namesOf {ms : List Member} {name : String} (h : name ∈ namesOf ms) :
    (∃ m ∈ ms, memberWord m = name) ∨ ∃ m ∈ ms, offsetWord m = name := by
  induction ms using List.reverseRecOn with
  | nil => cases h
  | append_singleton ms last ih =>
    rw [namesOf_concat, List.mem_append, List.mem_singleton] at h
    simp only [List.mem_append, List.mem_singleton]
    rcases h with hmem | rfl
    · rcases ih hmem with ⟨m, hm, hname⟩ | ⟨m, hm, hname⟩
      · exact .inl ⟨m, .inl hm, hname⟩
      · exact .inr ⟨m, .inl hm, hname⟩
    · split
      · exact .inr ⟨last, .inr rfl, rfl⟩
      · exact .inl ⟨last, .inr rfl, rfl⟩

/-! ## Repeats -/

/-- No member whose word is taken gets the word of a member before it. -/
def SpareWords (ms : List Member) : Prop :=
  ∀ before m after, ms = before ++ m :: after → memberWord m ∈ namesOf before →
    ∀ m' ∈ before, memberWord m' ≠ offsetWord m

theorem spareWords_concat {ms : List Member} {m : Member} :
    SpareWords (ms ++ [m]) ↔
      SpareWords ms ∧ (memberWord m ∈ namesOf ms → ∀ m' ∈ ms, memberWord m' ≠ offsetWord m) := by
  constructor
  · intro h
    refine ⟨?_, h ms m [] rfl⟩
    rintro before x after rfl
    exact h before x (after ++ [m]) (by simp)
  · rintro ⟨h, hlast⟩ before x after heq
    rcases List.eq_nil_or_concat after with rfl | ⟨after, y, rfl⟩
    · obtain ⟨rfl, hx⟩ := List.append_inj' heq rfl
      cases hx
      exact hlast
    · rw [List.concat_eq_append, ← List.cons_append, ← List.append_assoc] at heq
      exact h before x after (List.append_inj' heq rfl).1

/-- The word of an earlier member is all that the name of a repeat can clash with. -/
theorem offsetWord_mem_namesOf_iff {ms : List Member} {m : Member}
    (hoffset : ∀ m' ∈ ms, m'.offset ≠ m.offset) :
    offsetWord m ∈ namesOf ms ↔ ∃ m' ∈ ms, memberWord m' = offsetWord m := by
  constructor
  · intro h
    refine (mem_namesOf h).resolve_right ?_
    rintro ⟨m', hm', heq⟩
    exact hoffset m' hm' (offset_eq_of_offsetWord heq)
  · rintro ⟨m', hm', heq⟩
    rw [← heq]
    exact memberWord_mem_namesOf hm'

theorem nodup_namesOf_iff {ms : List Member}
    (hoffsets : ms.Pairwise fun m m' => m.offset ≠ m'.offset) :
    (namesOf ms).Nodup ↔ SpareWords ms := by
  induction ms using List.reverseRecOn with
  | nil => simp [namesOf, memberNames, SpareWords]
  | append_singleton ms m ih =>
    obtain ⟨hms, -, hlast⟩ := List.pairwise_append.1 hoffsets
    have hclash := offsetWord_mem_namesOf_iff fun m' hm' => hlast m' hm' m (.head [])
    rw [namesOf_concat, spareWords_concat, ← ih hms, ← List.concat_eq_append, List.nodup_concat,
      and_comm]
    refine and_congr_right fun _ => ?_
    split
    · next htaken =>
      rw [hclash]
      simp [htaken]
    · next hfree => simp [hfree]

/-! ## Definitions -/

def CStruct.names (s : CStruct) : List String := s.members.map fun m => m.declaration.name

theorem name_declare (p : Program) (name : String) (type : DataType) :
    (declare p name type).name = name := by
  unfold declare
  split <;> rfl

theorem names_defineStruct (p : Program) (s : Struct) :
    (defineStruct p s).names = namesOf s.members := by
  have hsnd := List.map_snd_zip (length_memberNames [] s.members).le
  rw [List.zip, List.map_zipWith] at hsnd
  unfold CStruct.names defineStruct
  rw [List.map_zipWith]
  simp only [declareMember, name_declare]
  exact hsnd

/-- Members at different offsets have different names exactly if no repeat gets the word of an
earlier member by having its offset put behind its own. -/
theorem defineStruct_names_nodup_iff (p : Program) (s : Struct)
    (hoffsets : s.members.Pairwise fun m m' => m.offset ≠ m'.offset) :
    (defineStruct p s).names.Nodup ↔ SpareWords s.members := by
  rw [names_defineStruct]
  exact nodup_namesOf_iff hoffsets

/-- Two fields of one name. -/
def derivedStruct : Struct where
  category := "/TDB"
  name := "app.Derived"
  size := 8
  members := [.field 0 "_Id" (.scalar .i32) 4, .field 4 "_Id" (.scalar .i32) 4]

theorem derived_names_nodup_iff :
    (defineStruct .empty derivedStruct).names = ["_Id", "_Id_4"] ∧
      ((defineStruct .empty derivedStruct).names.Nodup ↔ SpareWords derivedStruct.members) :=
  ⟨by decide, defineStruct_names_nodup_iff .empty derivedStruct (by decide)⟩

/-- The second of two names is that of the first with its offset behind it. -/
def heroTypes : List TypeDescriptor :=
  [ { fullName := "app.Hero", objectKind := 1, length := 12, runtimeLength := 28, systemType := 28
      base := some 1
      fields := [⟨"hp", 2, 0, 0⟩, ⟨"hp_18", 2, 4, 0⟩] },
    { fullName := "app.Unit", objectKind := 1, length := 12, runtimeLength := 28, systemType := 28
      fields := [⟨"hp", 2, 8, 0⟩] },
    { fullName := "System.Int32", objectKind := 5, length := 4, runtimeLength := 20
      systemType := 18 } ]

def heroCatalog : Catalog where
  size := 3
  records := Catalog.resolveAll (recordsInRow heroTypes)
  placed := by decide +kernel
  grounded := by decide +kernel

def hero : heroCatalog.Index := ⟨0, by decide⟩

def heroMembers : List Member :=
  [ .field 0 vtableName .voidPointer 8, .field 8 lockName .voidPointer 8,
    .field 16 "hp" (.scalar .i32) 4, .field 20 "hp_18" (.scalar .i32) 4,
    .field 24 "hp" (.scalar .i32) 4 ]

theorem members_layout_hero :
    (layout heroCatalog.freshHandles 42 hero).members = heroMembers := by
  unfold layout
  rw [body_of_ascending (by decide +kernel)]
  decide +kernel

theorem exists_importInto_heroTypes :
    ∃ s, (importInto {} (dumpOf heroTypes) .empty).result = .ok s ∧ s.catalog = heroCatalog :=
  importInto_dumpOf (Catalog.ofRecords_eq_ok_iff.2 ⟨rfl, by decide +kernel, rfl, rfl⟩) (by decide)

/-- The name of the last member is written twice. -/
theorem hero_names_repeat :
    ∃ s, (importInto {} (dumpOf heroTypes) .empty).result = .ok s ∧
      ∃ k x, (importInto {} (dumpOf heroTypes) .empty).workspace.program.struct? k = some x ∧
        (x.members.Pairwise fun m m' => m.offset ≠ m'.offset) ∧
        (defineStruct (importInto {} (dumpOf heroTypes) .empty).workspace.program x).names =
          ["_vtable", "_lock", "hp", "hp_18", "hp_18"] ∧
        ¬(defineStruct (importInto {} (dumpOf heroTypes) .empty).workspace.program x).names.Nodup := by
  obtain ⟨⟨c, h, report⟩, hok, rfl⟩ := exists_importInto_heroTypes
  obtain ⟨_, _, _, hs⟩ := importInto_empty_stages hok
  obtain rfl : h = heroCatalog.freshHandles := hs.handles_eq rfl
  have hget : heroCatalog.freshHandles.get hero = .struct ⟨0⟩ := by decide +kernel
  have hlast : lastLaidOut heroCatalog.freshHandles (heroCatalog.record hero).fullName =
      some hero := by decide +kernel
  obtain ⟨r, -, hx⟩ := hs.struct? hget
  rw [hlast] at hx
  obtain ⟨x, hx, hmembers⟩ : ∃ x,
      (importInto {} (dumpOf heroTypes) .empty).workspace.program.struct? ⟨0⟩ = some x ∧
        x.members = heroMembers := ⟨_, hx, members_layout_hero⟩
  have hnames : (defineStruct (importInto {} (dumpOf heroTypes) .empty).workspace.program x).names =
      ["_vtable", "_lock", "hp", "hp_18", "hp_18"] := by
    rw [names_defineStruct, hmembers]
    decide
  refine ⟨_, hok, _, _, hx, ?_, hnames, ?_⟩
  · rw [hmembers]
    decide
  · rw [hnames]
    decide

end TypeRecovery
