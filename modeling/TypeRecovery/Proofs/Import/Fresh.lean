import TypeRecovery.Proofs.Import.Named
import TypeRecovery.Proofs.Import.References
import TypeRecovery.Proofs.Import.Reimport
import TypeRecovery.Proofs.Program.Titles
import Mathlib.Data.List.Induction
import Mathlib.Data.List.Nodup

/-!
# Imports into an empty program

An import that ends well leaves an empty program with one structure for each name that the catalog
gives to structures, in the order in which the names come first, and with one function for each
address of a method.
-/

namespace TypeRecovery

/-! ## First occurrences -/

section

variable {α : Type} [DecidableEq α] {l : List α} {a b : α}

theorem eraseDups_concat (l : List α) (a : α) :
    (l ++ [a]).eraseDups = if a ∈ l then l.eraseDups else l.eraseDups ++ [a] := by
  rw [List.eraseDups_append]
  by_cases ha : a ∈ l
  · simp [List.removeAll, ha]
  · simp [List.removeAll, ha, List.eraseDups_cons]

theorem nodup_eraseDups (l : List α) : l.eraseDups.Nodup := by
  induction l using List.reverseRecOn with
  | nil => simp
  | append_singleton l a ih =>
    rw [eraseDups_concat]
    split
    · exact ih
    · rename_i ha
      rw [← List.concat_eq_append]
      exact ih.concat (mt List.mem_eraseDups.1 ha)

theorem idxOf_eraseDups_lt_iff (ha : a ∈ l) (hb : b ∈ l) :
    l.eraseDups.idxOf a < l.eraseDups.idxOf b ↔ l.idxOf a < l.idxOf b := by
  induction l using List.reverseRecOn with
  | nil => simp at ha
  | append_singleton l x ih =>
    rw [eraseDups_concat, List.idxOf_append, List.idxOf_append]
    have hlt : ∀ y ∈ l, l.idxOf y < l.length := fun y => List.idxOf_lt_length_of_mem
    have hlt' : ∀ y ∈ l, l.eraseDups.idxOf y < l.eraseDups.length := fun y hy =>
      List.idxOf_lt_length_of_mem (List.mem_eraseDups.2 hy)
    simp only [List.mem_append, List.mem_singleton] at ha hb
    by_cases hx : x ∈ l
    · have hal : a ∈ l := ha.elim id fun h => h ▸ hx
      have hbl : b ∈ l := hb.elim id fun h => h ▸ hx
      rw [if_pos hx, if_pos hal, if_pos hbl]
      exact ih hal hbl
    · -- The new member comes last in both lists.
      rw [if_neg hx, List.idxOf_append, List.idxOf_append]
      simp only [List.mem_eraseDups]
      by_cases hal : a ∈ l <;> by_cases hbl : b ∈ l
      · simpa only [hal, hbl, if_true] using ih hal hbl
      · have := hlt a hal
        have := hlt' a hal
        simp only [hal, hbl, if_true, if_false]
        omega
      · have := hlt b hbl
        have := hlt' b hbl
        simp only [hal, hbl, if_true, if_false]
        omega
      · obtain rfl := ha.resolve_left hal
        obtain rfl := hb.resolve_left hbl
        simp

end

/-! ## The stages of an import -/

/-- What an import that ended well did with a target `t`: it was labelled, then its structures were
registered and laid out, and the functions come last. -/
structure ImportSession.Stages (s : ImportSession) (config : ImportConfig)
    (t labelled registered laidOut t' : Target) : Prop where
  labels : labelled = t.run (labelOperations config s.catalog)
  registration : registered =
    labelled.run (defineOperations config.category s.catalog.toList)
  registers : labelled.Passes (defineOperations config.category s.catalog.toList)
  named : s.handles.NamedIn config.category registered.program
  layouts : laidOut = registered.run
    (rebuildOperations s.handles config.sampleLength (List.finRange s.catalog.size))
  rebuilds : registered.Passes
    (rebuildOperations s.handles config.sampleLength (List.finRange s.catalog.size))
  functions : t' = laidOut.run (signatureOperations config s.handles laidOut)

section

variable {config : ImportConfig} {source : ChunkSource} {ws : Workspace} {s : ImportSession}
  {t labelled registered laidOut t' : Target}

theorem importDump_stages (hok : (importDump config source ws).result = .ok s) :
    ∃ labelled registered laidOut, s.Stages config ws.target labelled registered laidOut
      (importDump config source ws).workspace.target := by
  cases hload : (load source config.chunkSize).result with
  | error e =>
    rw [(importDump_of_error hload ws).1] at hok
    cases hok
  | ok c =>
    obtain ⟨hplay, hsession⟩ := importDump_play hload ws
    obtain ⟨report, rfl⟩ := hsession s hok
    rw [hok] at hplay
    obtain ⟨hpasses, htarget⟩ := Target.passes_of_play_eq_none hplay
    unfold importOperations structureOperations registrationOperations at hpasses htarget
    rw [Target.passes_append_iff, Target.passes_append_iff, Target.passes_append_iff] at hpasses
    obtain ⟨⟨⟨-, hregisters⟩, hrebuilds⟩, -⟩ := hpasses
    rw [Target.run_append, Target.run_append, Target.run_append] at htarget
    rw [Target.run_append] at hrebuilds
    have hnamed := registeredHandles_namedIn hregisters
    unfold registrationOperations at hnamed
    rw [Target.run_append] at hnamed
    exact ⟨_, _, _, rfl, rfl, hregisters, hnamed, rfl, hrebuilds, htarget⟩

namespace ImportSession.Stages

variable (hs : s.Stages config t labelled registered laidOut t')

include hs

theorem structs_eq : t'.program.structs = laidOut.program.structs := by
  rw [hs.functions]
  have hagree : laidOut.program.AgreeOutside .functions
      (laidOut.run (signatureOperations config s.handles laidOut)).program := by
    unfold signatureOperations
    split
    · exact run_functionOperations_agreeOutside _ _
    · exact .refl _ _
  exact hagree.structs nofun

theorem labelled_structs : labelled.program.structs = t.program.structs := by
  rw [hs.labels]
  exact (Target.run_agreeOutside (fun _ => labelOperations_part) t).structs nofun

theorem registered_extends : registered.program.Extends t'.program := by
  rw [hs.functions, hs.layouts]
  exact (Target.run_extends _ _).trans (Target.run_extends _ _)

theorem namedIn : s.handles.NamedIn config.category t'.program :=
  hs.named.mono hs.registered_extends

/-- A structure is that of its last type, with the members of the last of its types that got a
layout. -/
theorem struct? {i : s.catalog.Index} {k : StructHandle} (hi : s.handles.get i = .struct k) :
    ∃ r, lastStructured s.catalog (s.catalog.record i).fullName = some r ∧
      t'.program.struct? k = some ((blankStruct config.category r).filledBy s.handles
        config.sampleLength (lastLaidOut s.handles (s.catalog.record i).fullName)) := by
  have hnamed := hs.named
  have hrebuilds := hs.rebuilds
  rw [hs.registration] at hnamed hrebuilds
  obtain ⟨r, hr, hk⟩ := struct?_of_run hs.registers hnamed hrebuilds hi
  rw [← hs.registration, ← hs.layouts] at hk
  refine ⟨r, hr, ?_⟩
  unfold Program.struct? at hk ⊢
  rw [hs.structs_eq, hk]

end ImportSession.Stages

end

/-- Type `i` was laid out in structure `x` of handle `k`. -/
structure ImportSession.LaidOut (s : ImportSession) (config : ImportConfig) (k : StructHandle)
    (x : Struct) (i : s.catalog.Index) : Prop where
  owner : s.handles.get i = .struct k
  name : x.name = (s.catalog.record i).fullName
  hasLayout : needsLayout s.handles i = true
  members : x.members = (layout s.handles config.sampleLength i).members

/-! ## Structures by first name -/

/-- The names of the types that have a structure, in the order of the catalog. -/
def Catalog.structNames (c : Catalog) : List String :=
  (c.toList.filter TypeRecord.isStructured).map TypeRecord.fullName

theorem Catalog.mem_structNames {c : Catalog} {name : String} :
    name ∈ c.structNames ↔ c.NamesStruct name := by
  unfold Catalog.structNames Catalog.NamesStruct
  simp only [List.mem_map, List.mem_filter, mem_toList]
  constructor
  · rintro ⟨r, ⟨⟨i, rfl⟩, hr⟩, rfl⟩
    exact ⟨i, hr, rfl⟩
  · rintro ⟨i, hi, rfl⟩
    exact ⟨_, ⟨⟨i, rfl⟩, hi⟩, rfl⟩

/-- The representation of a type where only the structures of its catalog are, in the order in which
their names come first. -/
def freshRepresentation (c : Catalog) (r : c.Record) : Representation :=
  match scalarOfSystemType? r.systemType with
  | some kind => .scalar kind
  | none => .struct ⟨c.structNames.eraseDups.idxOf r.fullName⟩

def Catalog.freshHandles (c : Catalog) : Handles c := ⟨c.records.map (freshRepresentation c)⟩

theorem get_freshHandles {c : Catalog} (i : c.Index) :
    c.freshHandles.get i = freshRepresentation c (c.record i) :=
  Vector.getElem_map _ i.isLt

theorem Handles.ext_get {c : Catalog} {h h' : Handles c} (heq : ∀ i, h.get i = h'.get i) :
    h = h' := by
  obtain ⟨xs⟩ := h
  obtain ⟨ys⟩ := h'
  congr 1
  apply Vector.ext
  intro n hn
  exact heq ⟨n, hn⟩

theorem Program.titles_define_of_handle {p : Program} {category name : String} {size : UInt32}
    {k : StructHandle}
    (hk : (p.define category name size .replace).handleOf? category name = some k) :
    (p.define category name size .replace).titles.toList =
      if (category, name) ∈ p.titles.toList then p.titles.toList
      else p.titles.toList ++ [(category, name)] := by
  cases hold : p.handleOf? category name with
  | some k' =>
    obtain ⟨x, hx, rfl, rfl⟩ := struct_of_handleOf? hold
    have hmem : (x.category, x.name) ∈ p.titles.toList :=
      List.mem_of_getElem? (title_of_struct? hx)
    rw [define_of_some hold, if_pos hmem]
    exact congrArg Array.toList
      (map_title_modify k'.index (f := fun s => { s with size := size, members := [] }) fun _ => rfl)
  | none =>
    rw [if_neg (not_mem_titles_of_handleOf? hold)]
    rw [define_of_none hold] at hk ⊢
    split
    · unfold titles
      rw [Array.map_push, Array.toList_push]
      rfl
    · rename_i hfull
      rw [if_neg hfull, hold] at hk
      cases hk

theorem run_defineOperations_titles {ρ : Type} {category : String} {rs : List (TypeRecord ρ)}
    {t : Target} (hempty : t.program.structs = #[])
    (hpasses : t.Passes (defineOperations category rs)) :
    (t.run (defineOperations category rs)).program.titles.toList =
      ((rs.filter TypeRecord.isStructured).map TypeRecord.fullName).eraseDups.map
        (Prod.mk category) := by
  unfold defineOperations at hpasses ⊢
  generalize rs.filter TypeRecord.isStructured = rs at hpasses ⊢
  induction rs using List.reverseRecOn with
  | nil => simp [Program.titles, hempty]
  | append_singleton rs r ih =>
    rw [List.map_append, List.map_singleton, Target.passes_append_iff,
      Target.passes_cons_iff] at hpasses
    obtain ⟨hbefore, hop, -⟩ := hpasses
    obtain ⟨k, hprogram, hk⟩ := attempt_defineOperation hop
    rw [List.map_append, List.map_append, List.map_singleton, List.map_singleton, Target.run_append,
      Target.run_cons, Target.run_nil, hprogram, Program.titles_define_of_handle hk, ih hbefore,
      eraseDups_concat]
    -- The last name is there already, or it comes behind the others.
    simp only [List.mem_map, List.mem_eraseDups, Prod.mk.injEq, true_and, exists_eq_right]
    split
    · rfl
    · rw [List.map_append, List.map_singleton]

theorem run_rebuildOperations_titles {c : Catalog} {h : Handles c} {sampleLength : UInt32}
    {is : List c.Index} {t : Target} (hpasses : t.Passes (rebuildOperations h sampleLength is))
    (hlt : ∀ i k, layoutHandle? h i = some k → k.index < t.program.structs.size) :
    (t.run (rebuildOperations h sampleLength is)).program.titles = t.program.titles := by
  apply Array.ext_getElem?
  intro j
  unfold Program.titles
  rw [Array.getElem?_map, Array.getElem?_map, run_rebuildOperations_structs hpasses hlt,
    Option.map_map]
  congr 1
  funext x
  simp [Program.title]

section

variable {config : ImportConfig} {source : ChunkSource} {s : ImportSession}
  {t labelled registered laidOut t' : Target} {i j : s.catalog.Index} {k k' : StructHandle}

namespace ImportSession.Stages

variable (hs : s.Stages config t labelled registered laidOut t')
  (hempty : t.program.structs = #[])

include hs hempty

theorem titles_eq :
    t'.program.titles.toList = s.catalog.structNames.eraseDups.map (Prod.mk config.category) := by
  have hlaidOut : t'.program.titles = registered.program.titles := by
    unfold Program.titles
    rw [hs.structs_eq, hs.layouts]
    exact run_rebuildOperations_titles hs.rebuilds hs.named.lt_of_layoutHandle?
  rw [hlaidOut, hs.registration]
  exact run_defineOperations_titles (hs.labelled_structs.trans hempty) hs.registers

theorem structNames_getElem? (hi : s.handles.get i = .struct k) :
    s.catalog.structNames.eraseDups[k.index]? = some (s.catalog.record i).fullName := by
  obtain ⟨x, hx, -, hname⟩ := Program.struct_of_handleOf? (hs.namedIn.handleOf? hi)
  have htitle := Program.title_of_struct? hx
  rw [hs.titles_eq hempty, List.getElem?_map] at htitle
  obtain ⟨name, hget, heq⟩ := Option.map_eq_some_iff.1 htitle
  rw [hget, ← hname]
  exact congrArg some (congrArg Prod.snd heq)

theorem exists_type {x : Struct} (hx : t'.program.struct? k = some x) :
    ∃ i, s.handles.get i = .struct k := by
  have htitle := Program.title_of_struct? hx
  rw [hs.titles_eq hempty, List.getElem?_map] at htitle
  obtain ⟨name, hget, -⟩ := Option.map_eq_some_iff.1 htitle
  obtain ⟨i, hi, hname⟩ :=
    Catalog.mem_structNames.1 (List.mem_eraseDups.1 (List.mem_of_getElem? hget))
  obtain ⟨k', hk'⟩ := hs.namedIn.exists_handle hi
  have hget' := hs.structNames_getElem? hempty hk'
  rw [hname] at hget'
  -- A name stands at one place only.
  have hlt := (List.getElem?_eq_some_iff.1 hget).1
  have heq := (List.getElem?_inj hlt (nodup_eraseDups _)).1 (hget.trans hget'.symm)
  obtain rfl := StructHandle.index_inj.1 heq
  exact ⟨i, hk'⟩

theorem index_eq (hi : s.handles.get i = .struct k) :
    k.index = s.catalog.structNames.eraseDups.idxOf (s.catalog.record i).fullName := by
  obtain ⟨hlt, hget⟩ := List.getElem?_eq_some_iff.1 (hs.structNames_getElem? hempty hi)
  rw [← hget, (nodup_eraseDups _).idxOf_getElem k.index hlt]

theorem index_lt_iff (hi : s.handles.get i = .struct k) (hj : s.handles.get j = .struct k') :
    k.index < k'.index ↔ s.catalog.structNames.idxOf (s.catalog.record i).fullName <
      s.catalog.structNames.idxOf (s.catalog.record j).fullName := by
  have hmem : ∀ {i : s.catalog.Index} {k : StructHandle}, s.handles.get i = .struct k →
      (s.catalog.record i).fullName ∈ s.catalog.structNames := fun {i} _ hi =>
    Catalog.mem_structNames.2 ⟨i, hs.namedIn.isStructured hi, rfl⟩
  rw [← idxOf_eraseDups_lt_iff (hmem hi) (hmem hj), hs.index_eq hempty hi, hs.index_eq hempty hj]

theorem handles_eq : s.handles = s.catalog.freshHandles := by
  apply Handles.ext_get
  intro i
  rw [get_freshHandles]
  have hname := hs.namedIn i
  unfold Represents at hname
  unfold freshRepresentation
  cases hkind : scalarOfSystemType? (s.catalog.record i).systemType with
  | some kind =>
    rw [hkind] at hname
    exact hname
  | none =>
    rw [hkind] at hname
    obtain ⟨k, hk, -⟩ := hname
    simp only
    rw [hk, ← hs.index_eq hempty hk]

theorem exists_layout {x : Struct} {m : Member} (hx : t'.program.struct? k = some x)
    (hm : m ∈ x.members) : ∃ i, s.LaidOut config k x i := by
  obtain ⟨j, hj⟩ := hs.exists_type hempty hx
  obtain ⟨r, -, hstruct⟩ := hs.struct? hj
  rw [hx] at hstruct
  cases hstruct
  cases hlast : lastLaidOut s.handles (s.catalog.record j).fullName with
  | none =>
    -- What no type was laid out in has no members.
    rw [hlast] at hm
    simp [Struct.filledBy, blankStruct] at hm
  | some i =>
    obtain ⟨hfits, -⟩ := last?_eq_some_iff.1 hlast
    simp only [Bool.and_eq_true, decide_eq_true_eq] at hfits
    obtain ⟨hneeds, hname⟩ := hfits
    have hi : s.handles.get i = s.handles.get j :=
      (hs.namedIn.get_eq_iff (isStructured_of_needsLayout hs.namedIn hneeds)
        (hs.namedIn.isStructured hj)).2 hname
    obtain ⟨x, hx', -, hxname⟩ := Program.struct_of_handleOf? (hs.namedIn.handleOf? (hi.trans hj))
    rw [hlast] at hx
    cases hx.symm.trans hx'
    exact ⟨i, hi.trans hj, hxname, hneeds, rfl⟩

end ImportSession.Stages

end

/-! ## Functions -/

/-- The function that a plan makes where there was none. -/
def FunctionPlan.function (plan : FunctionPlan) : Function :=
  ⟨plan.address, plan.name, some plan.signature⟩

section

variable {config : ImportConfig} {s : ImportSession} {t labelled registered laidOut t' : Target}

theorem ImportSession.Stages.function?_eq (hs : s.Stages config t labelled registered laidOut t')
    (hopen : t.IsOpen) (hregions : t.program.regions = #[])
    (hfunctions : ∀ address, t.program.function? address = none) (address : UInt64) :
    t'.program.function? address =
      if config.applySignatures then
        (last? (fun plan => plan.isAt address) (functionPlans s.handles)).map FunctionPlan.function
      else none := by
  have hstructures : registered.program.AgreeOutside .structs laidOut.program := by
    rw [hs.layouts]
    exact Target.run_agreeOutside (fun _ => rebuildOperations_part) _
  have hregistration : labelled.program.AgreeOutside .structs registered.program := by
    rw [hs.registration]
    exact Target.run_agreeOutside (fun _ => defineOperations_part) _
  have hlabels : t.program.AgreeOutside .labels labelled.program := by
    rw [hs.labels]
    exact Target.run_agreeOutside (fun _ => labelOperations_part) _
  have hnone : laidOut.program.function? address = none := by
    unfold Program.function? at hfunctions ⊢
    rw [hstructures.functions nofun, hregistration.functions nofun, hlabels.functions nofun,
      hfunctions]
  have hempty : laidOut.program.regions = #[] := by
    rw [hstructures.regions nofun, hregistration.regions nofun, hlabels.regions nofun, hregions]
  have hopen' : laidOut.IsOpen := by
    rw [hs.layouts, hs.registration, hs.labels]
    exact ((hopen.run _).run _).run _
  rw [hs.functions]
  unfold signatureOperations
  split
  · rw [run_functionOperations_function? hopen', hnone]
    cases hlast : last? (fun plan => plan.isAt address) (functionPlans s.handles) with
    | none => rfl
    | some plan =>
      -- Without memory a function may be anywhere but at zero.
      have hat := (last?_eq_some_iff.1 hlast).1
      simp only [FunctionPlan.isAt, Bool.and_eq_true, decide_eq_true_eq] at hat
      have haccepts : laidOut.program.acceptsFunction address = true := by
        unfold Program.acceptsFunction
        rw [hempty, ← hat.2]
        simpa using hat.1
      rw [haccepts]
      rfl
  · exact hnone

end

/-! ## Imports -/

section

variable {config : ImportConfig} {source : ChunkSource} {s : ImportSession}

theorem importInto_empty_stages (hok : (importInto config source .empty).result = .ok s) :
    ∃ labelled registered laidOut, s.Stages config (.ofProgram .empty) labelled registered laidOut
      (importInto config source .empty).workspace.target :=
  importDump_stages hok

end

theorem importInto_dumpOf {types : List TypeDescriptor} {c : Catalog}
    (hc : Catalog.ofRecords (recordsInRow types) = .ok c) (hfits : types.length ≤ startBound) :
    ∃ s, (importInto {} (dumpOf types) .empty).result = .ok s ∧ s.catalog = c := by
  have hload : (load (dumpOf types) ({} : ImportConfig).chunkSize).result = .ok c :=
    load_dumpOf hc hfits
  have hroom : Program.empty.structs.size + c.size ≤ Program.structBound := by
    rw [(Catalog.records_of_ofRecords hc).1]
    unfold recordsInRow
    rw [List.length_map, List.length_zipIdx, show Program.empty.structs.size = 0 from rfl]
    exact (Nat.zero_add _).trans_le hfits
  obtain ⟨s, hok⟩ : ∃ s, (importInto {} (dumpOf types) .empty).result = .ok s :=
    importDump_of_room hload (Target.isOpen_ofProgram _) hroom
  obtain ⟨-, hsession⟩ := importDump_play hload (.ofTarget (.ofProgram .empty))
  obtain ⟨report, rfl⟩ := hsession s hok
  exact ⟨_, hok, rfl⟩

end TypeRecovery
