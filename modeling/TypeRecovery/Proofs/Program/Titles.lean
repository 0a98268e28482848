import TypeRecovery.Proofs.Program.InPlace
import TypeRecovery.Proofs.Program.Structs

/-!
# Structures by name

Whatever operations lead to, no two structures of a program share category and name. So a handle is
found by a category and a name exactly if the structure behind it has them, and it stays good. The
same holds of an index that is written only when a structure is added.
-/

namespace TypeRecovery

theorem StructHandle.index_inj {h k : StructHandle} : h.index = k.index ↔ h = k := by
  cases h
  cases k
  simp

namespace Program

variable {p p' : Program} {category name : String} {size : UInt32} {policy : ConflictPolicy}
  {h k : StructHandle}

/-! ## Names are told apart -/

def UniqueTitles (p : Program) : Prop := p.titles.toList.Nodup

theorem uniqueTitles_empty : empty.UniqueTitles := by
  simp [UniqueTitles, titles, empty]

theorem UniqueTitles.congr (hp : p.UniqueTitles) (heq : p'.titles = p.titles) :
    p'.UniqueTitles := by
  unfold UniqueTitles
  rw [heq]
  exact hp

theorem not_mem_titles_of_handleOf? (hk : p.handleOf? category name = none) :
    (category, name) ∉ p.titles.toList := by
  rw [handleOf?_eq_titles, Option.map_eq_none_iff, Array.findIdx?_eq_none_iff] at hk
  intro hmem
  simpa using hk (category, name) (Array.mem_toList_iff.1 hmem)

theorem UniqueTitles.define (hp : p.UniqueTitles) (category name : String) (size : UInt32)
    (policy : ConflictPolicy) : (p.define category name size policy).UniqueTitles := by
  cases hk : p.handleOf? category name with
  | some k =>
    unfold Program.define
    rw [hk]
    cases policy with
    | replace =>
      exact hp.congr (map_title_modify k.index
        (f := fun s => { s with size := size, members := [] }) fun _ => rfl)
    | keep => exact hp
  | none =>
    rw [define_of_none hk]
    split
    · have htitles : ({ p with structs := p.structs.push ⟨category, name, size, []⟩ } :
          Program).titles = p.titles.push (category, name) := Array.map_push
      unfold UniqueTitles
      rw [htitles, Array.toList_push, ← List.concat_eq_append]
      exact (List.nodup_concat _ _).2 ⟨not_mem_titles_of_handleOf? hk, hp⟩
    · exact hp

theorem UniqueTitles.perform {op : Operation} (hp : p.UniqueTitles)
    (hperform : p.perform op = .ok p') : p'.UniqueTitles := by
  by_cases hpart : op.part = .structs
  · cases op with
    | define category name size policy =>
      cases hperform
      exact hp.define category name size policy
    | rebuild k members =>
      obtain ⟨-, rfl⟩ := rebuild_eq_ok_iff.1 hperform
      exact hp.congr (map_title_modify k.index (f := fun s => { s with members }) fun _ => rfl)
    | _ => cases hpart
  · refine hp.congr ?_
    unfold titles
    rw [(perform_agreeOutside hperform).structs hpart]

theorem uniqueTitles_after (ops : List Operation) : (empty.after ops).UniqueTitles :=
  after_keeps (fun _ _ _ hp hperform => hp.perform hperform) uniqueTitles_empty ops

theorem title_of_struct? {s : Struct} (hs : p.struct? h = some s) :
    p.titles.toList[h.index]? = some (s.category, s.name) := by
  unfold titles
  rw [Array.getElem?_toList, Array.getElem?_map]
  show (p.struct? h).map title = _
  rw [hs]
  rfl

theorem UniqueTitles.eq_of_struct? (hp : p.UniqueTitles) {s s' : Struct}
    (hs : p.struct? h = some s) (hs' : p.struct? k = some s') (hcategory : s.category = s'.category)
    (hname : s.name = s'.name) : h = k := by
  have htitle := title_of_struct? hs
  have htitle' := title_of_struct? hs'
  rw [hcategory, hname, ← htitle'] at htitle
  obtain ⟨hlt, -⟩ := List.getElem?_eq_some_iff.1 htitle'
  exact StructHandle.index_inj.1 ((List.getElem?_inj hlt hp).1 htitle.symm).symm

theorem UniqueTitles.handleOf?_eq_some_iff (hp : p.UniqueTitles) :
    p.handleOf? category name = some h ↔
      ∃ s, p.struct? h = some s ∧ s.category = category ∧ s.name = name := by
  refine ⟨struct_of_handleOf?, ?_⟩
  rintro ⟨s, hs, rfl, rfl⟩
  cases hk : p.handleOf? s.category s.name with
  | none =>
    exact absurd (List.mem_of_getElem? (title_of_struct? hs)) (not_mem_titles_of_handleOf? hk)
  | some k =>
    obtain ⟨s', hs', hcategory, hname⟩ := struct_of_handleOf? hk
    rw [hp.eq_of_struct? hs' hs hcategory hname]

theorem UniqueTitles.structOf?_eq_some_iff (hp : p.UniqueTitles) {s : Struct} :
    p.structOf? category name = some s ↔ s ∈ p.structs ∧ s.category = category ∧ s.name = name := by
  unfold structOf?
  rw [Option.bind_eq_some_iff]
  constructor
  · rintro ⟨k, hk, hs⟩
    obtain ⟨s', hs', htitle⟩ := hp.handleOf?_eq_some_iff.1 hk
    cases hs.symm.trans hs'
    exact ⟨Array.mem_of_getElem? hs, htitle⟩
  · rintro ⟨hmem, htitle⟩
    obtain ⟨i, hi⟩ := Array.mem_iff_getElem?.1 hmem
    exact ⟨⟨i⟩, hp.handleOf?_eq_some_iff.2 ⟨s, hi, htitle⟩, hi⟩

/-! ## What changes a structure -/

theorem Extends.struct? (hext : p.Extends p') {s : Struct} (hs : p.struct? k = some s) :
    ∃ s', p'.struct? k = some s' ∧ s'.category = s.category ∧ s'.name = s.name := by
  obtain ⟨more, hmore⟩ := hext
  have htitle : p'.titles[k.index]? = some (title s) := by
    have hlt : k.index < p.titles.size := by
      rw [size_titles]
      exact (Array.getElem?_eq_some_iff.1 hs).1
    rw [hmore, Array.getElem?_append_left hlt]
    unfold titles
    rw [Array.getElem?_map]
    exact congrArg (Option.map title) hs
  unfold titles at htitle
  rw [Array.getElem?_map] at htitle
  obtain ⟨s', hs', heq⟩ := Option.map_eq_some_iff.1 htitle
  exact ⟨s', hs', congrArg Prod.fst heq, congrArg Prod.snd heq⟩

/-- The handle that comes back when a program is asked for a structure, and the program then. -/
def request (p : Program) (category name : String) (size : UInt32) (policy : ConflictPolicy) :
    Option StructHandle × Program :=
  let (handle, ws) := (Workspace.ofTarget (.ofProgram p)).define category name size policy
  (handle, ws.program)

theorem request_eq (p : Program) (category name : String) (size : UInt32)
    (policy : ConflictPolicy) :
    p.request category name size policy =
      ((p.define category name size policy).handleOf? category name,
        p.define category name size policy) := by
  have hopen := Target.isOpen_ofProgram p
  unfold request
  rw [Workspace.define_eq]
  exact Prod.ext (hopen.handle?_eq category name size policy)
    (hopen.attempt_program (.define category name size policy))

/-- What a program does that is asked for a structure. Of a name that is taken it answers with the
handle it has, and of a new one with the next handle, as long as there is one. -/
structure Defines (p : Program) (category name : String) (size : UInt32) (policy : ConflictPolicy)
    (handle : Option StructHandle) (p' : Program) : Prop where
  issued : ∀ k, handle = some k →
    ∃ s, p'.struct? k = some s ∧ s.category = category ∧ s.name = name
  replaced : ∀ k, p.handleOf? category name = some k → policy = .replace →
    handle = some k ∧
      ∀ j, p'.struct? j = if j = k then some ⟨category, name, size, []⟩ else p.struct? j
  kept : ∀ k, p.handleOf? category name = some k → policy = .keep → handle = some k ∧ p' = p
  added : p.handleOf? category name = none → p.structs.size < structBound →
    handle = some ⟨p.structs.size⟩ ∧
      p' = { p with structs := p.structs.push ⟨category, name, size, []⟩ }
  full : p.handleOf? category name = none → structBound ≤ p.structs.size → handle = none ∧ p' = p
  elsewhere : AgreeOutside .structs p p'

theorem defines_request (p : Program) (category name : String) (size : UInt32)
    (policy : ConflictPolicy) :
    p.Defines category name size policy (p.request category name size policy).1
      (p.request category name size policy).2 := by
  rw [request_eq]
  have hext := define_extends p category name size policy
  constructor
  case issued => exact fun k hk => struct_of_handleOf? hk
  case replaced =>
    rintro k hk rfl
    refine ⟨hext.handleOf? hk, fun j => ?_⟩
    have hstructs := define_structs (hext.handleOf? hk) j.index
    simp only [StructHandle.index_inj] at hstructs
    exact hstructs
  case kept =>
    rintro k hk rfl
    refine ⟨hext.handleOf? hk, ?_⟩
    unfold define
    rw [hk]
  case added =>
    intro hk hroom
    rw [define_of_none hk, if_pos hroom]
    exact ⟨handleOf?_push hk, rfl⟩
  case full =>
    intro hk hfull
    rw [define_of_none hk, if_neg (Nat.not_lt.2 hfull)]
    exact ⟨hk, rfl⟩
  case elsewhere => exact define_agreeOutside p category name size policy

/-- What a program does that is asked to rebuild a structure. -/
structure Rebuilds (p : Program) (k : StructHandle) (members : List Member) : Prop where
  known : ∀ s, p.struct? k = some s → ∃ p', p.perform (.rebuild k members) = .ok p' ∧
    (∀ j, p'.struct? j = if j = k then some { s with members := members } else p.struct? j) ∧
    AgreeOutside .structs p p'
  unknown : p.struct? k = none →
    p.perform (.rebuild k members) = .error (.unknownHandle k.index) ∧
      p.after [.rebuild k members] = p ∧
      (Operation.rebuild k members).steps.on p = (.error (.unknownHandle k.index), p)

theorem rebuilds (p : Program) (k : StructHandle) (members : List Member) :
    p.Rebuilds k members := by
  constructor
  · intro s hs
    have hlt : k.index < p.structs.size := (Array.getElem?_eq_some_iff.1 hs).1
    have hok : p.perform (.rebuild k members) = .ok { p with
        structs := p.structs.modify k.index fun s => { s with members := members } } :=
      rebuild_eq_ok_iff.2 ⟨hlt, rfl⟩
    refine ⟨_, hok, fun j => ?_, perform_agreeOutside hok⟩
    unfold struct? at hs ⊢
    rw [Array.getElem?_modify]
    by_cases hj : j = k
    · rw [hj, if_pos rfl, if_pos rfl, hs]
      rfl
    · rw [if_neg fun heq => hj (StructHandle.index_inj.1 heq.symm), if_neg hj]
  · intro hs
    have herror : p.perform (.rebuild k members) = .error (.unknownHandle k.index) := by
      show p.rebuild k members = _
      unfold rebuild
      rw [if_neg (Nat.not_lt.2 (Array.getElem?_eq_none_iff.1 hs))]
    refine ⟨herror, after_of_error herror, ?_⟩
    rw [Operation.steps_on, herror]
    rfl

theorem handleOf?_push_eq (p : Program) (s : Struct) (category name : String) :
    ({ p with structs := p.structs.push s } : Program).handleOf? category name =
      (p.handleOf? category name).or
        (if (category, name) = title s then some ⟨p.structs.size⟩ else none) := by
  unfold handleOf?
  rw [Array.findIdx?_push]
  by_cases hs : (category, name) = title s
  · obtain ⟨rfl, rfl⟩ := Prod.mk.inj hs
    cases p.structs.findIdx? fun t => t.name = s.name && t.category = s.category <;> simp [title]
  · have hnot : (decide (s.name = name) && decide (s.category = category)) = false := by
      by_contra hboth
      simp only [Bool.not_eq_false, Bool.and_eq_true, decide_eq_true_eq] at hboth
      exact hs (by rw [title, hboth.1, hboth.2])
    rw [if_neg hs, hnot]
    cases p.structs.findIdx? fun t => t.name = name && t.category = category <;> rfl

end Program

/-! ## An index of the names -/

/-- Structures with an index of their categories and names. A handle is looked up in the index
alone, and an entry is written when a structure is added. -/
structure IndexedStructs where
  structs : Array Struct
  index : List ((String × String) × StructHandle)

namespace IndexedStructs

def empty : IndexedStructs := ⟨#[], []⟩

def handleOf? (s : IndexedStructs) (category name : String) : Option StructHandle :=
  s.index.lookup (category, name)

def modify (s : IndexedStructs) (k : StructHandle) (f : Struct → Struct) : IndexedStructs :=
  { s with structs := s.structs.modify k.index f }

/-- An entry of the index may lead nowhere, and then there is no handle. -/
def define (s : IndexedStructs) (category name : String) (size : UInt32)
    (policy : ConflictPolicy) : Option StructHandle × IndexedStructs :=
  match s.handleOf? category name with
  | some k =>
    match policy with
    | .replace =>
      if k.index < s.structs.size then
        (some k, s.modify k fun t => { t with size := size, members := [] })
      else (none, s)
    | .keep => (some k, s)
  | none =>
    if s.structs.size < Program.structBound then
      (some ⟨s.structs.size⟩,
        ⟨s.structs.push ⟨category, name, size, []⟩,
          ((category, name), ⟨s.structs.size⟩) :: s.index⟩)
    else (none, s)

def perform (s : IndexedStructs) : Operation → IndexedStructs
  | .define category name size policy => (s.define category name size policy).2
  | .rebuild k members =>
    if k.index < s.structs.size then s.modify k fun t => { t with members := members } else s
  | _ => s

def ofOperations (ops : List Operation) : IndexedStructs := ops.foldl perform empty

/-- The structures are those of a program, and the index leads where the program finds them. -/
structure Mirrors (s : IndexedStructs) (p : Program) : Prop where
  structs : s.structs = p.structs
  handleOf? : ∀ category name, s.handleOf? category name = p.handleOf? category name

variable {s : IndexedStructs} {p p' : Program}

theorem Mirrors.congr (h : s.Mirrors p) (hstructs : p'.structs = p.structs) : s.Mirrors p' := by
  refine ⟨h.structs.trans hstructs.symm, fun category name => ?_⟩
  rw [h.handleOf?]
  unfold Program.handleOf?
  rw [hstructs]

theorem Mirrors.modify (h : s.Mirrors p) (k : StructHandle) {f : Struct → Struct}
    (hf : ∀ t, Program.title (f t) = Program.title t) :
    (s.modify k f).Mirrors { p with structs := p.structs.modify k.index f } := by
  refine ⟨congrArg (Array.modify · k.index f) h.structs, fun category name => ?_⟩
  show s.handleOf? category name = _
  rw [h.handleOf?, Program.handleOf?_eq_titles, Program.handleOf?_eq_titles]
  unfold Program.titles
  rw [Program.map_title_modify k.index hf]

theorem Mirrors.define (h : s.Mirrors p) (category name : String) (size : UInt32)
    (policy : ConflictPolicy) :
    (s.define category name size policy).1 = (p.request category name size policy).1 ∧
      (s.define category name size policy).2.Mirrors (p.request category name size policy).2 := by
  rw [Program.request_eq]
  unfold IndexedStructs.define
  rw [h.handleOf?, h.structs]
  cases hk : p.handleOf? category name with
  | some k =>
    have hfound := (Program.define_extends p category name size policy).handleOf? hk
    cases policy with
    | replace =>
      simp only [if_pos (Program.lt_of_handleOf? hk)]
      refine ⟨hfound.symm, ?_⟩
      rw [Program.define_of_some hk]
      exact h.modify k fun _ => rfl
    | keep =>
      refine ⟨hfound.symm, ?_⟩
      unfold Program.define
      rw [hk]
      exact h
  | none =>
    rw [Program.define_of_none hk]
    by_cases hroom : p.structs.size < Program.structBound
    · simp only [if_pos hroom]
      refine ⟨(Program.handleOf?_push hk).symm, rfl, fun category' name' => ?_⟩
      rw [Program.handleOf?_push_eq]
      show List.lookup (category', name') (_ :: s.index) = _
      by_cases hsame : (category', name') = (category, name)
      · obtain ⟨rfl, rfl⟩ := Prod.mk.inj hsame
        simp [hk, Program.title]
      · have hother : ((category', name') == (category, name)) = false := by simpa using hsame
        rw [List.lookup_cons, hother, if_neg (by exact hsame), Option.or_none]
        exact h.handleOf? category' name'
    · simp only [if_neg hroom]
      exact ⟨hk.symm, h⟩

theorem Mirrors.perform (h : s.Mirrors p) (op : Operation) :
    (s.perform op).Mirrors (p.after [op]) := by
  by_cases hpart : op.part = .structs
  · cases op with
    | define category name size policy =>
      have hleft : p.after [.define category name size policy] =
          (p.request category name size policy).2 := by
        rw [Program.request_eq]
        exact Program.after_of_ok rfl
      rw [hleft]
      exact (h.define category name size policy).2
    | rebuild k members =>
      unfold IndexedStructs.perform
      by_cases hlt : k.index < p.structs.size
      · have hok : p.perform (.rebuild k members) = .ok { p with
            structs := p.structs.modify k.index fun t => { t with members := members } } :=
          Program.rebuild_eq_ok_iff.2 ⟨hlt, rfl⟩
        rw [Program.after_of_ok hok]
        simp only [h.structs, if_pos hlt]
        exact h.modify k fun _ => rfl
      · have hunknown := (p.rebuilds k members).unknown
          (Array.getElem?_eq_none_iff.2 (Nat.not_lt.1 hlt))
        rw [hunknown.2.1]
        simp only [h.structs, if_neg hlt]
        exact h
    | _ => cases hpart
  · have hagree : p.AgreeOutside op.part (p.after [op]) :=
      Target.run_agreeOutside (by simp) (.ofProgram p)
    have hsame : s.perform op = s := by
      cases op with
      | define | rebuild => exact absurd rfl hpart
      | _ => rfl
    rw [hsame]
    exact h.congr (hagree.structs hpart)

theorem Mirrors.foldl (h : s.Mirrors p) (ops : List Operation) :
    (ops.foldl IndexedStructs.perform s).Mirrors (p.after ops) := by
  induction ops generalizing s p with
  | nil => exact h
  | cons op ops ih =>
    rw [List.foldl_cons, ← List.singleton_append, Program.after_append]
    exact ih (h.perform op)

theorem empty_mirrors : empty.Mirrors .empty := by
  refine ⟨rfl, fun category name => ?_⟩
  simp [IndexedStructs.handleOf?, empty, Program.handleOf?, Program.empty]

theorem ofOperations_mirrors (ops : List Operation) :
    (ofOperations ops).Mirrors (Program.empty.after ops) :=
  empty_mirrors.foldl ops

end IndexedStructs

/-! ## Programs that operations lead to -/

/-- A program finds its structures by category and name, and no two have both in common. -/
structure Program.FindsByName (p : Program) : Prop where
  unique : ∀ h k s s', p.struct? h = some s → p.struct? k = some s' → s.category = s'.category →
    s.name = s'.name → h = k
  handleOf?_iff : ∀ category name h, p.handleOf? category name = some h ↔
    ∃ s, p.struct? h = some s ∧ s.category = category ∧ s.name = name
  structOf?_iff : ∀ category name s, p.structOf? category name = some s ↔
    s ∈ p.structs ∧ s.category = category ∧ s.name = name

/-- Whatever operations lead to, structures are found by category and name, handles stay good,
structures are only added, emptied or rebuilt one at a time, and an index that is written when one
is added gives the same handles. -/
theorem after_findsByName (ops : List Operation) :
    (Program.empty.after ops).FindsByName ∧
      (∀ more k s, (Program.empty.after ops).struct? k = some s →
        ∃ s', (Program.empty.after (ops ++ more)).struct? k = some s' ∧ s'.category = s.category ∧
          s'.name = s.name) ∧
      (∀ category name size policy,
        (Program.empty.after ops).Defines category name size policy
          ((Program.empty.after ops).request category name size policy).1
          ((Program.empty.after ops).request category name size policy).2) ∧
      (∀ k members, (Program.empty.after ops).Rebuilds k members) ∧
      (IndexedStructs.ofOperations ops).Mirrors (Program.empty.after ops) := by
  have hunique := Program.uniqueTitles_after ops
  refine ⟨⟨fun _ _ _ _ => hunique.eq_of_struct?, fun _ _ _ => hunique.handleOf?_eq_some_iff,
    fun _ _ _ => hunique.structOf?_eq_some_iff⟩, ?_, Program.defines_request _,
    Program.rebuilds _, IndexedStructs.ofOperations_mirrors ops⟩
  intro more k s hs
  have hext : (Program.empty.after ops).Extends (Program.empty.after (ops ++ more)) := by
    rw [Program.after_append]
    exact Target.run_extends (.ofProgram (Program.empty.after ops)) more
  exact hext.struct? hs

end TypeRecovery
