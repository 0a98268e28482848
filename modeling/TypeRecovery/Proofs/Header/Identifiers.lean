import TypeRecovery.Proofs.Header.Members

/-!
# Identifiers in a header

Every word that a header makes of a name is an identifier, and a name that is one is kept. So names
take no part in the rest of a header: without them it is the same text, with other identifiers in
their places.
-/

namespace TypeRecovery

/-! ## Identifiers -/

def IsLetter (c : Char) : Prop := ('A' ≤ c ∧ c ≤ 'Z') ∨ ('a' ≤ c ∧ c ≤ 'z')

def IsDigit (c : Char) : Prop := '0' ≤ c ∧ c ≤ '9'

/-- Letters, digits and underscores, with no digit in front. -/
def IsIdentifier (w : String) : Prop :=
  ∃ c rest, w.toList = c :: rest ∧ (IsLetter c ∨ c = '_') ∧
    ∀ d ∈ rest, IsLetter d ∨ IsDigit d ∨ d = '_'

theorem isDigit_iff {c : Char} : c.isDigit = true ↔ IsDigit c := by
  unfold Char.isDigit IsDigit
  rw [Bool.and_eq_true, decide_eq_true_eq, decide_eq_true_eq]
  rfl

theorem isWordChar_iff {c : Char} : isWordChar c = true ↔ IsLetter c ∨ IsDigit c ∨ c = '_' := by
  have halpha : c.isAlpha = true ↔ IsLetter c := by
    unfold Char.isAlpha Char.isUpper Char.isLower IsLetter
    simp only [Bool.or_eq_true, Bool.and_eq_true, decide_eq_true_eq]
    rfl
  unfold isWordChar Char.isAlphanum
  rw [Bool.or_eq_true, Bool.or_eq_true, decide_eq_true_eq, halpha, isDigit_iff, or_assoc]

theorem not_isDigit_of_isLetter {c : Char} (h : IsLetter c ∨ c = '_') : ¬IsDigit c := by
  unfold IsDigit
  rintro ⟨hlow, hhigh⟩
  rcases h with (⟨hfrom, -⟩ | ⟨hfrom, -⟩) | rfl
  · exact absurd (Char.le_trans hfrom hhigh) (by decide)
  · exact absurd (Char.le_trans hfrom hhigh) (by decide)
  · exact absurd hhigh (by decide)

theorem isIdentifier_iff {w : String} :
    IsIdentifier w ↔ isGuarded w.toList = false ∧ ∀ c ∈ w.toList, isWordChar c = true := by
  unfold IsIdentifier
  simp only [isWordChar_iff]
  cases w.toList with
  | nil => simp [isGuarded]
  | cons c rest =>
    have hfirst : c.isDigit = false ↔ ¬IsDigit c := by rw [← isDigit_iff, Bool.not_eq_true]
    rw [isGuarded, hfirst, List.forall_mem_cons]
    constructor
    · rintro ⟨_, _, ⟨⟩, hc, hrest⟩
      exact ⟨not_isDigit_of_isLetter hc, hc.imp_right .inr, hrest⟩
    · rintro ⟨hdigit, hc, hrest⟩
      exact ⟨c, rest, rfl, hc.imp_right (·.resolve_left hdigit), hrest⟩

theorem isWordChar_wordChar (c : Char) : isWordChar (wordChar c) = true := by
  unfold wordChar
  split
  · assumption
  · decide

theorem isIdentifier_sanitize (name : String) : IsIdentifier (sanitize name) := by
  have hword : ∀ c ∈ wordChars name, isWordChar c = true := by
    intro c hc
    obtain ⟨d, -, rfl⟩ := List.mem_map.1 hc
    exact isWordChar_wordChar d
  have hlist : (sanitize name).toList =
      if isGuarded (wordChars name) then '_' :: wordChars name else wordChars name := by
    unfold sanitize
    rw [String.toList_ofList, guardWord_eq]
    rfl
  rw [isIdentifier_iff, hlist]
  split
  · exact ⟨rfl, List.forall_mem_cons.2 ⟨by decide, hword⟩⟩
  · next hguarded => exact ⟨Bool.eq_false_iff.2 hguarded, hword⟩

theorem isIdentifier_of_kept {w : String} (h : sanitize w = w) : IsIdentifier w :=
  h ▸ isIdentifier_sanitize w

theorem sanitize_of_isIdentifier {w : String} (h : IsIdentifier w) : sanitize w = w := by
  obtain ⟨hguarded, hword⟩ := isIdentifier_iff.1 h
  have hkept : w.toList.map wordChar = w.toList := by
    refine (List.map_congr_left fun c hc => ?_).trans (List.map_id _)
    exact if_pos (hword c hc)
  unfold sanitize
  rw [hkept, guardWord_eq, hguarded]
  exact String.ofList_toList

theorem IsIdentifier.append {w s : String} (hw : IsIdentifier w)
    (hs : ∀ c ∈ s.toList, isWordChar c = true) : IsIdentifier (w ++ s) := by
  obtain ⟨c, rest, hlist, hc, hrest⟩ := hw
  refine ⟨c, rest ++ s.toList, ?_, hc, fun d hd => ?_⟩
  · rw [String.toList_append, hlist, List.cons_append]
  · exact (List.mem_append.1 hd).elim (hrest d) fun h => isWordChar_iff.1 (hs d h)

theorem isWordChar_hex (n : Nat) : ∀ c ∈ (hex n).toList, isWordChar c = true := by
  have hdigits : lowerHexDigits.all isWordChar = true := by decide
  intro c hc
  rw [hex, String.toList_ofList] at hc
  exact List.all_eq_true.1 hdigits c (exists_ofHexFrom_iff.1 ⟨n, ofHexFrom_hexDigits n⟩ c hc)

/-! ## Words of a header -/

theorem isIdentifier_memberWord (m : Member) : IsIdentifier (memberWord m) := by
  unfold memberWord
  split
  · exact isIdentifier_sanitize _
  · exact (isIdentifier_of_kept (by decide)).append (isWordChar_hex m.offset)

theorem isIdentifier_memberName (used : List String) (m : Member) :
    IsIdentifier (memberName used m) := by
  unfold memberName
  split
  · rw [String.append_assoc]
    refine (isIdentifier_memberWord m).append fun c hc => ?_
    rw [String.toList_append, List.mem_append] at hc
    rcases hc with hc | hc
    · obtain rfl : c = '_' := by simpa using hc
      decide
    · exact isWordChar_hex m.offset c hc
  · exact isIdentifier_memberWord m

theorem isIdentifier_cName (kind : ScalarKind) : IsIdentifier kind.cName := by
  apply isIdentifier_of_kept
  cases kind <;> decide

/-- The word that a type consists of, pointers apart. -/
def CType.word : CType → String
  | .named name => name
  | .struct tag => tag
  | .pointer target => target.word

theorem isIdentifier_word_cType (p : Program) (t : DataType) : IsIdentifier (cType p t).word := by
  have hundefined : IsIdentifier "undefined" := isIdentifier_of_kept (by decide)
  induction t with
  | undefined => exact hundefined
  | scalar kind => exact isIdentifier_cName kind
  | struct k =>
    unfold cType
    split
    · exact isIdentifier_sanitize _
    · exact hundefined
  | pointer target ih => exact ih
  | array element count length ih => exact ih

theorem isIdentifier_word_declare (p : Program) (name : String) (t : DataType) :
    IsIdentifier (declare p name t).type.word := by
  cases t with
  | array element count length => exact isIdentifier_word_cType p element
  | _ => exact isIdentifier_word_cType p _

/-- Both words of a declaration are identifiers. -/
structure CDeclaration.HasIdentifiers (d : CDeclaration) : Prop where
  name : IsIdentifier d.name
  type : IsIdentifier d.type.word

theorem hasIdentifiers_declare (p : Program) {name : String} (hname : IsIdentifier name)
    (t : DataType) : (declare p name t).HasIdentifiers where
  name := by rwa [name_declare]
  type := isIdentifier_word_declare p name t

/-- All that is named in a header is named by an identifier. -/
structure CHeader.HasIdentifiers (H : CHeader) : Prop where
  tags : ∀ s ∈ H.structs, IsIdentifier s.tag
  members : ∀ s ∈ H.structs, ∀ m ∈ s.members, m.declaration.HasIdentifiers
  functions : ∀ f ∈ H.prototypes, IsIdentifier f.name ∧ IsIdentifier f.result.word
  parameters : ∀ f ∈ H.prototypes, ∀ d ∈ f.parameters, d.HasIdentifiers

theorem hasIdentifiers_members (p : Program) (used : List String) (ms : List Member) :
    ∀ m ∈ List.zipWith (declareMember p) ms (memberNames used ms),
      m.declaration.HasIdentifiers := by
  induction ms generalizing used with
  | nil => simp
  | cons m ms ih =>
    rw [memberNames, List.zipWith_cons_cons, List.forall_mem_cons]
    exact ⟨hasIdentifiers_declare p (isIdentifier_memberName used m) m.type, ih _⟩

theorem hasIdentifiers_ofProgram (p : Program) : (CHeader.ofProgram p).HasIdentifiers := by
  have hprototypes : ∀ f ∈ (CHeader.ofProgram p).prototypes, ∃ g, prototype? p g = some f := by
    intro f hf
    obtain ⟨g, -, hg⟩ := List.mem_filterMap.1 hf
    exact ⟨g, hg⟩
  refine ⟨fun s hs => ?_, fun s hs => ?_, fun f hf => ?_, fun f hf => ?_⟩
  · obtain ⟨x, -, rfl⟩ := List.mem_map.1 hs
    exact isIdentifier_sanitize x.name
  · obtain ⟨x, -, rfl⟩ := List.mem_map.1 hs
    exact hasIdentifiers_members p [] x.members
  · obtain ⟨g, hg⟩ := hprototypes f hf
    obtain ⟨signature, -, rfl⟩ := Option.map_eq_some_iff.1 hg
    exact ⟨isIdentifier_sanitize g.name, isIdentifier_word_cType p signature.result⟩
  · obtain ⟨g, hg⟩ := hprototypes f hf
    obtain ⟨signature, -, rfl⟩ := Option.map_eq_some_iff.1 hg
    intro d hd
    obtain ⟨x, -, rfl⟩ := List.mem_map.1 hd
    exact hasIdentifiers_declare p (isIdentifier_sanitize x.name) x.type

/-! ## Texts with other words -/

/-- The texts are the same, but for identifiers in the places of identifiers. -/
inductive DifferInWords : String → String → Prop
  | same (s : String) : DifferInWords s s
  | word {w w' : String} : IsIdentifier w → IsIdentifier w' → DifferInWords w w'
  | append {a a' b b' : String} :
    DifferInWords a a' → DifferInWords b b' → DifferInWords (a ++ b) (a' ++ b')

/-- The characters of a text that no word has: blanks, line ends, and all that parts C tokens and
comments. -/
def outsideWords (s : String) : List Char := s.toList.filter fun c => !isWordChar c

theorem outsideWords_append (a b : String) :
    outsideWords (a ++ b) = outsideWords a ++ outsideWords b := by
  unfold outsideWords
  rw [String.toList_append, List.filter_append]

theorem IsIdentifier.outsideWords_eq {w : String} (h : IsIdentifier w) : outsideWords w = [] := by
  refine List.filter_eq_nil_iff.2 fun c hc => ?_
  rw [(isIdentifier_iff.1 h).2 c hc]
  decide

namespace DifferInWords

variable {a a' b b' : String}

theorem outsideWords_eq (h : DifferInWords a a') : outsideWords a = outsideWords a' := by
  induction h with
  | same s => rfl
  | word hw hw' => rw [hw.outsideWords_eq, hw'.outsideWords_eq]
  | append _ _ iha ihb => rw [outsideWords_append, outsideWords_append, iha, ihb]

theorem before (h : DifferInWords a a') (b : String) : DifferInWords (a ++ b) (a' ++ b) :=
  h.append (.same b)

theorem behind (a : String) (h : DifferInWords b b') : DifferInWords (a ++ b) (a ++ b') :=
  (same a).append h

variable {α : Type} {f g : α → String} {l : List α}

theorem join (h : ∀ x ∈ l, DifferInWords (f x) (g x)) :
    DifferInWords (String.join (l.map f)) (String.join (l.map g)) := by
  induction l with
  | nil => exact same _
  | cons x l ih =>
    obtain ⟨hx, hl⟩ := List.forall_mem_cons.1 h
    rw [List.map_cons, List.map_cons, String.join_cons, String.join_cons]
    exact hx.append (ih hl)

theorem intercalate (s : String) (h : ∀ x ∈ l, DifferInWords (f x) (g x)) :
    DifferInWords (String.intercalate s (l.map f)) (String.intercalate s (l.map g)) := by
  induction l with
  | nil => exact same _
  | cons x l ih =>
    obtain ⟨hx, hl⟩ := List.forall_mem_cons.1 h
    cases l with
    | nil => simpa using hx
    | cons y l =>
      simp only [List.map_cons, String.intercalate_cons_cons] at ih ⊢
      exact (hx.before s).append (ih hl)

end DifferInWords

/-! ## Programs without names -/

def Member.unnamed (m : Member) : Member := { m with name := none }

def Struct.unnamed (s : Struct) : Struct :=
  { s with name := "", members := s.members.map Member.unnamed }

def Parameter.unnamed (x : Parameter) : Parameter := { x with name := "" }

def Signature.unnamed (s : Signature) : Signature :=
  { s with parameters := s.parameters.map Parameter.unnamed }

def Function.unnamed (f : Function) : Function :=
  { f with name := "", signature := f.signature.map Signature.unnamed }

def AddressMap.mapValues {α β : Type} (f : α → β) (m : AddressMap α) : AddressMap β :=
  ⟨m.entries.map fun e => (e.1, f e.2), List.pairwise_map.2 m.ascending⟩

theorem AddressMap.values_mapValues {α β : Type} (f : α → β) (m : AddressMap α) :
    (m.mapValues f).values = m.values.map f := by
  simp [mapValues, values, Function.comp_def]

/-- The program with every name taken from its structures, members, functions and parameters. -/
def Program.unnamed (p : Program) : Program :=
  { p with
    structs := p.structs.map Struct.unnamed
    functions := p.functions.mapValues Function.unnamed }

theorem Program.struct?_unnamed (p : Program) (k : StructHandle) :
    p.unnamed.struct? k = (p.struct? k).map Struct.unnamed := Array.getElem?_map

theorem Struct.length_unnamed (s : Struct) : s.unnamed.length = s.length := List.foldl_map

/-! ## Headers without names -/

variable (p : Program)

theorem cType_unnamed (t : DataType) :
    DifferInWords (cType p t).text (cType p.unnamed t).text := by
  induction t with
  | undefined => exact .same _
  | scalar kind => exact .same _
  | struct k =>
    unfold cType
    rw [p.struct?_unnamed]
    cases p.struct? k with
    | none => exact .same _
    | some s => exact .behind _ (.word (isIdentifier_sanitize _) (isIdentifier_sanitize _))
  | pointer target ih => exact ih.before "*"
  | array element count length ih => exact ih.before "*"

theorem declare_unnamed {name name' : String} (hname : IsIdentifier name)
    (hname' : IsIdentifier name') (t : DataType) :
    DifferInWords (declare p name t).text (declare p.unnamed name' t).text := by
  have hword : DifferInWords name name' := .word hname hname'
  cases t with
  | array element count length =>
    exact (((cType_unnamed p element).before " ").append hword).before _
  | _ => exact ((cType_unnamed p _).before " ").append hword

theorem members_unnamed (used used' : List String) (ms : List Member) :
    DifferInWords
      (String.join ((List.zipWith (declareMember p) ms (memberNames used ms)).map CMember.text))
      (String.join ((List.zipWith (declareMember p.unnamed) (ms.map Member.unnamed)
        (memberNames used' (ms.map Member.unnamed))).map CMember.text)) := by
  induction ms generalizing used used' with
  | nil => exact .same _
  | cons m ms ih =>
    rw [List.map_cons, memberNames, memberNames, List.zipWith_cons_cons, List.zipWith_cons_cons,
      List.map_cons, List.map_cons, String.join_cons, String.join_cons]
    refine .append ?_ (ih _ _)
    have hdeclare := declare_unnamed p (isIdentifier_memberName used m)
      (isIdentifier_memberName used' m.unnamed) m.type
    exact (((hdeclare.behind "    ").before "; /* 0x").before (hex m.offset)).before " */\n"

theorem defineStruct_unnamed (s : Struct) :
    DifferInWords (defineStruct p s).text (defineStruct p.unnamed s.unnamed).text := by
  have htag : DifferInWords (sanitize s.name) (sanitize s.unnamed.name) :=
    .word (isIdentifier_sanitize _) (isIdentifier_sanitize _)
  have hmembers := members_unnamed p [] [] s.members
  unfold CStruct.text defineStruct
  rw [s.length_unnamed]
  exact (((htag.behind _).before " \x7b\n").append hmembers).before _

theorem parameterText_unnamed {f f' : CPrototype} {xs : List Parameter}
    (hf : f.parameters = xs.map fun x => declare p (sanitize x.name) x.type)
    (hf' : f'.parameters =
      (xs.map Parameter.unnamed).map fun x => declare p.unnamed (sanitize x.name) x.type) :
    DifferInWords f.parameterText f'.parameterText := by
  have htexts := DifferInWords.intercalate (l := xs) ", " fun x _ =>
    declare_unnamed p (isIdentifier_sanitize x.name) (isIdentifier_sanitize x.unnamed.name) x.type
  unfold CPrototype.parameterText
  rw [hf, hf', List.map_map, List.map_map, List.map_map]
  cases xs with
  | nil => exact .same _
  | cons x xs => exact htexts

theorem prototype_unnamed {f : Function} {g : CPrototype} (hg : prototype? p f = some g) :
    ∃ g', prototype? p.unnamed f.unnamed = some g' ∧ DifferInWords g.text g'.text := by
  obtain ⟨signature, hsignature, rfl⟩ := Option.map_eq_some_iff.1 hg
  have hname : DifferInWords (sanitize f.name) (sanitize f.unnamed.name) :=
    .word (isIdentifier_sanitize _) (isIdentifier_sanitize _)
  have hunnamed : f.unnamed.signature = some signature.unnamed :=
    congrArg (Option.map Signature.unnamed) hsignature
  refine ⟨_, Option.map_eq_some_iff.2 ⟨_, hunnamed, rfl⟩, ?_⟩
  have hresult := (cType_unnamed p signature.result).behind
    ("/* 0x" ++ addressHex f.address ++ " */ ")
  exact ((((hresult.before " ").append hname).before "(").append
    (parameterText_unnamed p rfl rfl)).before ");\n"

theorem prototypes_unnamed (fs : List Function) :
    DifferInWords (String.join ((fs.filterMap (prototype? p)).map CPrototype.text))
      (String.join (((fs.map Function.unnamed).filterMap (prototype? p.unnamed)).map
        CPrototype.text)) := by
  induction fs with
  | nil => exact .same _
  | cons f fs ih =>
    rw [List.map_cons]
    cases hg : prototype? p f with
    | none =>
      have hsignature : f.signature = none := Option.map_eq_none_iff.1 hg
      have hg' : prototype? p.unnamed f.unnamed = none := by
        unfold prototype? Function.unnamed
        rw [hsignature]
        rfl
      rw [List.filterMap_cons_none hg, List.filterMap_cons_none hg']
      exact ih
    | some g =>
      obtain ⟨g', hg', hdiffer⟩ := prototype_unnamed p hg
      rw [List.filterMap_cons_some hg, List.filterMap_cons_some hg', List.map_cons, List.map_cons,
        String.join_cons, String.join_cons]
      exact hdiffer.append ih

/-- A header is that of the program without names, with other identifiers in their places. -/
theorem renderHeader_unnamed : DifferInWords (renderHeader p) (renderHeader p.unnamed) := by
  have hstructs : p.unnamed.structs.toList = p.structs.toList.map Struct.unnamed := by
    simp [Program.unnamed]
  have htags : ∀ s ∈ p.structs.toList,
      DifferInWords ("struct " ++ sanitize s.name ++ ";\n")
        ("struct " ++ sanitize s.unnamed.name ++ ";\n") := fun s _ =>
    ((DifferInWords.word (isIdentifier_sanitize _) (isIdentifier_sanitize _)).behind _).before _
  have hdefinitions := DifferInWords.join fun s (_ : s ∈ p.structs.toList) =>
    defineStruct_unnamed p s
  have hprototypes := prototypes_unnamed p p.functions.values
  rw [← AddressMap.values_mapValues] at hprototypes
  unfold renderHeader CHeader.text CHeader.ofProgram
  simp only [hstructs, List.map_map]
  exact ((((DifferInWords.join htags).behind headerStart).before "\n").append hdefinitions).append
    hprototypes

/-- A name that is an identifier is kept, and of any other an identifier is made. Every header names
what it names by identifiers, so that names add nothing to it: what parts its words is the same
without any name. -/
theorem renderHeader_hasIdentifiers :
    (∀ name, IsIdentifier (sanitize name)) ∧
    (∀ w, IsIdentifier w → sanitize w = w) ∧
    (∀ name, sanitize (sanitize name) = sanitize name) ∧
    ∀ p : Program, (CHeader.ofProgram p).HasIdentifiers ∧
      DifferInWords (renderHeader p) (renderHeader p.unnamed) ∧
      outsideWords (renderHeader p) = outsideWords (renderHeader p.unnamed) :=
  ⟨isIdentifier_sanitize, fun _ => sanitize_of_isIdentifier,
    fun name => sanitize_of_isIdentifier (isIdentifier_sanitize name),
    fun p => ⟨hasIdentifiers_ofProgram p, renderHeader_unnamed p,
      (renderHeader_unnamed p).outsideWords_eq⟩⟩

end TypeRecovery
