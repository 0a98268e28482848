import TypeRecovery.Proofs.Import.Fresh

/-!
# Names in a header

A header names structures after their types and functions after the last method at their address.
Names that differ in characters that no identifier has may become one word, and so may the methods
of one name that a type has at two addresses.
-/

namespace TypeRecovery

/-! ## Words -/

/-- A word that has an underscore put in front of it. -/
def isGuarded : List Char → Bool
  | [] => true
  | c :: _ => c.isDigit

def wordChars (name : String) : List Char := name.toList.map wordChar

/-- Two names of one word. They are the same up to characters that become an underscore, or one
starts with such a character and the other one with a digit or not at all. -/
def SameWord (name name' : String) : Prop :=
  wordChars name = wordChars name' ∨
    isGuarded (wordChars name) = true ∧ wordChars name' = '_' :: wordChars name ∨
    isGuarded (wordChars name') = true ∧ wordChars name = '_' :: wordChars name'

theorem guardWord_eq (w : List Char) : guardWord w = if isGuarded w then '_' :: w else w := by
  cases w <;> rfl

theorem guardWord_eq_iff {w w' : List Char} :
    guardWord w = guardWord w' ↔
      w = w' ∨ isGuarded w = true ∧ w' = '_' :: w ∨ isGuarded w' = true ∧ w = '_' :: w' := by
  -- An underscore in front is not guarded again.
  have hunderscore : ∀ w, guardWord ('_' :: w) = '_' :: w := fun w => rfl
  constructor
  · intro h
    rw [guardWord_eq, guardWord_eq] at h
    by_cases hw : isGuarded w = true <;> by_cases hw' : isGuarded w' = true
    · rw [if_pos hw, if_pos hw'] at h
      exact .inl (List.cons.inj h).2
    · rw [if_pos hw, if_neg hw'] at h
      exact .inr (.inl ⟨hw, h.symm⟩)
    · rw [if_neg hw, if_pos hw'] at h
      exact .inr (.inr ⟨hw', h⟩)
    · rw [if_neg hw, if_neg hw'] at h
      exact .inl h
  · rintro (rfl | ⟨hw, rfl⟩ | ⟨hw', rfl⟩)
    · rfl
    · rw [hunderscore, guardWord_eq, if_pos hw]
    · rw [hunderscore, guardWord_eq, if_pos hw']

theorem sanitize_eq_iff {name name' : String} :
    sanitize name = sanitize name' ↔ SameWord name name' := by
  unfold sanitize SameWord wordChars
  rw [String.ofList_inj, guardWord_eq_iff]

/-! ## Tags -/

section

variable {config : ImportConfig} {s : ImportSession} {t labelled registered laidOut t' : Target}

theorem ImportSession.Stages.tags_eq (hs : s.Stages config t labelled registered laidOut t')
    (hempty : t.program.structs = #[]) :
    (CHeader.ofProgram t'.program).structs.map CStruct.tag =
      s.catalog.structNames.eraseDups.map sanitize := by
  have htitles := congrArg (List.map Prod.snd) (hs.titles_eq hempty)
  have hnames : t'.program.structs.toList.map Struct.name = s.catalog.structNames.eraseDups := by
    simpa [Program.titles, Program.title, Function.comp_def] using htitles
  rw [← hnames]
  simp [CHeader.ofProgram, defineStruct]

end

/-! ## Prototypes -/

section

variable {p : Program}

theorem mem_prototypes {f : CPrototype} :
    f ∈ (CHeader.ofProgram p).prototypes ↔
      ∃ address g, p.function? address = some g ∧ prototype? p g = some f := by
  unfold CHeader.ofProgram AddressMap.values Program.function?
  simp only [List.mem_filterMap, List.mem_map, Prod.exists, exists_eq_right,
    AddressMap.mem_entries_iff]
  constructor
  · rintro ⟨g, ⟨address, hg⟩, hf⟩
    exact ⟨address, g, hg, hf⟩
  · rintro ⟨address, g, hg, hf⟩
    exact ⟨g, ⟨address, hg⟩, hf⟩

theorem prototypes_ascending (hat : ∀ address g, p.function? address = some g → g.address = address) :
    (CHeader.ofProgram p).prototypes.Pairwise fun f g => f.address < g.address := by
  unfold CHeader.ofProgram AddressMap.values
  simp only [List.pairwise_filterMap, List.pairwise_map]
  refine p.functions.ascending.imp_of_mem ?_
  rintro ⟨a, g⟩ ⟨b, g'⟩ hg hg' hlt f hf f' hf'
  have ha := hat a g (AddressMap.mem_entries_iff.1 hg)
  have hb := hat b g' (AddressMap.mem_entries_iff.1 hg')
  obtain ⟨_, -, rfl⟩ := Option.map_eq_some_iff.1 hf
  obtain ⟨_, -, rfl⟩ := Option.map_eq_some_iff.1 hf'
  simp only at ha hb ⊢
  rw [ha, hb]
  exact hlt

end

section

variable {config : ImportConfig} {s : ImportSession} {t labelled registered laidOut t' : Target}

namespace ImportSession.Stages

variable (hs : s.Stages config t labelled registered laidOut t') (hopen : t.IsOpen)
  (hregions : t.program.regions = #[]) (hfunctions : ∀ address, t.program.function? address = none)

include hs hopen hregions hfunctions

theorem function?_eq_some_iff {address : UInt64} {g : Function} :
    t'.program.function? address = some g ↔
      config.applySignatures = true ∧ ∃ i m, s.catalog.lastMethod? address = some (i, m) ∧
        (planOf s.handles i m).function = g := by
  rw [hs.function?_eq hopen hregions hfunctions, last?_functionPlans]
  cases config.applySignatures with
  | false => simp
  | true => simp

theorem address_of_function? {address : UInt64} {g : Function}
    (hg : t'.program.function? address = some g) : g.address = address := by
  obtain ⟨-, i, m, hlast, rfl⟩ :=
    (hs.function?_eq_some_iff hopen hregions hfunctions).1 hg
  exact Catalog.address_of_lastMethod? hlast

theorem prototype_iff (address : UInt64) (word : String) :
    (∃ f ∈ (CHeader.ofProgram t'.program).prototypes, f.address = address ∧ f.name = word) ↔
      config.applySignatures = true ∧ ∃ i m, s.catalog.lastMethod? address = some (i, m) ∧
        sanitize (functionName (s.catalog.record i) m) = word := by
  simp only [mem_prototypes, hs.function?_eq_some_iff hopen hregions hfunctions]
  constructor
  · rintro ⟨f, ⟨_, _, ⟨happlies, i, m, hlast, rfl⟩, hf⟩, rfl, rfl⟩
    cases hf
    obtain rfl := Catalog.address_of_lastMethod? hlast
    exact ⟨happlies, i, m, hlast, rfl⟩
  · rintro ⟨happlies, i, m, hlast, rfl⟩
    exact ⟨_, ⟨address, _, ⟨happlies, i, m, hlast, rfl⟩, rfl⟩,
      Catalog.address_of_lastMethod? hlast, rfl⟩

theorem pairwise_prototypes :
    (CHeader.ofProgram t'.program).prototypes.Pairwise fun f g => f.address < g.address :=
  prototypes_ascending fun _ _ => hs.address_of_function? hopen hregions hfunctions

end ImportSession.Stages

end

/-! ## Headers of imports -/

/-- How a header names the types and methods of a catalog, and when two of the names are the same. -/
structure ImportSession.NamesByWord (s : ImportSession) (config : ImportConfig) (H : CHeader) :
    Prop where
  /-- One definition for each name of a structure. -/
  tags : H.structs.map CStruct.tag = s.catalog.structNames.eraseDups.map sanitize
  /-- One prototype for each address of a method. -/
  prototypes : ∀ address word, (∃ f ∈ H.prototypes, f.address = address ∧ f.name = word) ↔
    config.applySignatures = true ∧ ∃ i m, s.catalog.lastMethod? address = some (i, m) ∧
      sanitize (functionName (s.catalog.record i) m) = word
  ascending : H.prototypes.Pairwise fun f g => f.address < g.address
  tags_nodup_iff : (H.structs.map CStruct.tag).Nodup ↔
    ∀ name ∈ s.catalog.structNames, ∀ name' ∈ s.catalog.structNames,
      SameWord name name' → name = name'
  words_nodup_iff : (H.prototypes.map CPrototype.name).Nodup ↔
    (config.applySignatures = true → ∀ address address' i i' m m',
      s.catalog.lastMethod? address = some (i, m) →
      s.catalog.lastMethod? address' = some (i', m') →
      SameWord (functionName (s.catalog.record i) m) (functionName (s.catalog.record i') m') →
      address = address')

theorem tags_nodup_iff {names : List String} :
    (names.eraseDups.map sanitize).Nodup ↔
      ∀ name ∈ names, ∀ name' ∈ names, SameWord name name' → name = name' := by
  rw [List.nodup_map_iff_inj_on (nodup_eraseDups names)]
  simp only [List.mem_eraseDups, sanitize_eq_iff]

theorem words_nodup_iff {fs : List CPrototype} (h : fs.Pairwise fun f g => f.address < g.address) :
    (fs.map CPrototype.name).Nodup ↔
      ∀ f ∈ fs, ∀ g ∈ fs, f.name = g.name → f.address = g.address := by
  have haddresses : (fs.map CPrototype.address).Nodup :=
    List.pairwise_map.2 (h.imp UInt64.ne_of_lt)
  rw [List.nodup_map_iff_inj_on haddresses.of_map]
  constructor
  · intro hinj f hf g hg hname
    rw [hinj f hf g hg hname]
  · intro haddress f hf g hg hname
    exact List.inj_on_of_nodup_map haddresses hf hg (haddress f hf g hg hname)

theorem ImportSession.Stages.namesByWord {config : ImportConfig} {s : ImportSession}
    {t labelled registered laidOut t' : Target}
    (hs : s.Stages config t labelled registered laidOut t') (hopen : t.IsOpen)
    (hempty : t.program.structs = #[]) (hregions : t.program.regions = #[])
    (hfunctions : ∀ address, t.program.function? address = none) :
    s.NamesByWord config (CHeader.ofProgram t'.program) := by
  have hprototype := hs.prototype_iff hopen hregions hfunctions
  have hascending := hs.pairwise_prototypes hopen hregions hfunctions
  refine ⟨hs.tags_eq hempty, hprototype, hascending, ?_, ?_⟩
  · rw [hs.tags_eq hempty]
    exact tags_nodup_iff
  · rw [words_nodup_iff hascending]
    constructor
    · intro hsame happlies address address' i i' m m' hm hm' hword
      obtain ⟨f, hf, rfl, hname⟩ := (hprototype _ _).2 ⟨happlies, i, m, hm, rfl⟩
      obtain ⟨g, hg, rfl, hname'⟩ := (hprototype _ _).2 ⟨happlies, i', m', hm', rfl⟩
      apply hsame f hf g hg
      rw [hname, hname', sanitize_eq_iff]
      exact hword
    · intro hsame f hf g hg hname
      obtain ⟨happlies, i, m, hm, hword⟩ := (hprototype _ _).1 ⟨f, hf, rfl, rfl⟩
      obtain ⟨-, i', m', hm', hword'⟩ := (hprototype _ _).1 ⟨g, hg, rfl, rfl⟩
      apply hsame happlies _ _ _ _ _ _ hm hm'
      rw [← sanitize_eq_iff, hword, hword', hname]

/-- Definitions and prototypes have different names exactly if the types and methods that they are
named after have no two names of one word. -/
theorem importInto_empty_namesByWord {config : ImportConfig} {source : ChunkSource}
    {s : ImportSession} (hok : (importInto config source .empty).result = .ok s) :
    s.NamesByWord config
      (CHeader.ofProgram (importInto config source .empty).workspace.program) := by
  obtain ⟨_, _, _, hs⟩ := importInto_empty_stages hok
  exact hs.namesByWord (Target.isOpen_ofProgram _) rfl rfl fun _ => rfl

/-! ## Names of one word -/

/-- A type with a method at two addresses, and one whose name has an underscore for the dot. -/
def linkTypes : List TypeDescriptor :=
  [ { fullName := "app.Node", objectKind := 1, length := 8, runtimeLength := 24, systemType := 28
      methods := [⟨"link", 0x1000, ⟨0⟩, 0, []⟩, ⟨"link", 0x2000, ⟨1⟩, 0, []⟩] },
    { fullName := "app_Node", objectKind := 1, length := 8, runtimeLength := 24
      systemType := 28 } ]

def linkCatalog : Catalog where
  size := 2
  records := Catalog.resolveAll (recordsInRow linkTypes)
  placed := by decide +kernel
  grounded := by decide +kernel

def linkNode : linkCatalog.Index := ⟨0, by decide⟩

def linkTwin : linkCatalog.Index := ⟨1, by decide⟩

theorem exists_importInto_linkTypes :
    ∃ s, (importInto {} (dumpOf linkTypes) .empty).result = .ok s ∧ s.catalog = linkCatalog :=
  importInto_dumpOf (Catalog.ofRecords_eq_ok_iff.2 ⟨rfl, by decide +kernel, rfl, rfl⟩) (by decide)

theorem link_namesByWord :
    ∃ s, (importInto {} (dumpOf linkTypes) .empty).result = .ok s ∧
      s.NamesByWord {}
        (CHeader.ofProgram (importInto {} (dumpOf linkTypes) .empty).workspace.program) := by
  obtain ⟨s, hok, -⟩ := exists_importInto_linkTypes
  exact ⟨s, hok, importInto_empty_namesByWord hok⟩

/-- Two definitions have one tag, and two prototypes have one name. -/
theorem link_names_repeat :
    ∃ s, (importInto {} (dumpOf linkTypes) .empty).result = .ok s ∧
      ¬((CHeader.ofProgram (importInto {} (dumpOf linkTypes) .empty).workspace.program).structs.map
        CStruct.tag).Nodup ∧
      ¬((CHeader.ofProgram
        (importInto {} (dumpOf linkTypes) .empty).workspace.program).prototypes.map
          CPrototype.name).Nodup := by
  obtain ⟨⟨c, h, report⟩, hok, rfl⟩ := exists_importInto_linkTypes
  obtain ⟨_, _, _, hs⟩ := importInto_empty_stages hok
  have hnames := hs.namesByWord (Target.isOpen_ofProgram _) rfl rfl fun _ => rfl
  have hdot : "app.Node" ∈ linkCatalog.structNames := by decide +kernel
  have hunderscore : "app_Node" ∈ linkCatalog.structNames := by decide +kernel
  have hfirst : linkCatalog.lastMethod? 0x1000 =
      some (linkNode, ⟨"link", 0x1000, linkNode, 0, []⟩) := by decide +kernel
  have hsecond : linkCatalog.lastMethod? 0x2000 =
      some (linkNode, ⟨"link", 0x2000, linkTwin, 0, []⟩) := by decide +kernel
  refine ⟨_, hok, fun hnodup => ?_, fun hnodup => ?_⟩
  · have heq := hnames.tags_nodup_iff.1 hnodup _ hdot _ hunderscore (.inl (by decide))
    exact absurd heq (by decide)
  · have heq := hnames.words_nodup_iff.1 hnodup rfl _ _ _ _ _ _ hfirst hsecond (.inl rfl)
    exact absurd heq (by decide)

end TypeRecovery
