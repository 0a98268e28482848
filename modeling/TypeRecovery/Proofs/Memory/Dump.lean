import Mathlib.Data.List.Nodup
import TypeRecovery.Proofs.Memory.Files

/-!
# The files of a dump

A directory asks for a region for each of its files whose name is an address. In whatever order the
files are listed, they are found by ascending address.
-/

namespace TypeRecovery

/-! ## The files of a dump -/

/-- The region that a file asks for, if its name is an address. -/
def dumpedRegion? : String × FileEntry → Option Region
  | (_, .dir _) => none
  | (name, .file bytes) =>
    match parseMemoryFileName name with
    | .ok base => some ⟨name, base, bytes, .all⟩
    | .error _ => none

/-- A directory in which names are different and the files of a dump can be read. -/
structure DumpDirectory (tree : FileTree) (dir : String) (entries : List (String × FileEntry)) :
    Prop where
  lists : tree.list dir = .ok entries
  names : (entries.map Prod.fst).Nodup
  reads : ∀ name bytes base, (name, .file bytes) ∈ entries →
    parseMemoryFileName name = .ok base → ∃ data, mapFile tree (joinPath dir name) = .ok data

/-- Each region has a higher address than those before it. -/
def Ascending (regions : List Region) : Prop := regions.Pairwise fun r r' => r.base < r'.base

/-- The regions that the files of a directory ask for, by ascending address. -/
structure DumpOrder (entries : List (String × FileEntry)) (wanted : List Region) : Prop where
  perm : wanted.Perm (entries.filterMap dumpedRegion?)
  ascending : Ascending wanted

variable {entries entries' : List (String × FileEntry)} {wanted wanted' : List Region} {r : Region}

theorem dumpedRegion?_eq_some_iff {entry : String × FileEntry} :
    dumpedRegion? entry = some r ↔
      entry = (r.name, .file r.data) ∧ r.name = memoryFileName r.base ∧ r.permissions = .all := by
  obtain ⟨name, file⟩ := entry
  cases file with
  | dir inner => simp [dumpedRegion?]
  | file bytes =>
    unfold dumpedRegion?
    dsimp only
    constructor
    · intro h
      split at h
      · rename_i base hbase
        cases h
        exact ⟨rfl, parseMemoryFileName_eq_ok_iff.1 hbase, rfl⟩
      · cases h
    · rintro ⟨hentry, hname, hpermissions⟩
      cases hentry
      rw [parseMemoryFileName_eq_ok_iff.2 hname, ← hpermissions]

theorem mem_dumpedRegions_iff :
    r ∈ entries.filterMap dumpedRegion? ↔
      (r.name, .file r.data) ∈ entries ∧ r.name = memoryFileName r.base ∧ r.permissions = .all := by
  rw [List.mem_filterMap]
  constructor
  · rintro ⟨entry, hmem, hentry⟩
    obtain ⟨rfl, hr⟩ := dumpedRegion?_eq_some_iff.1 hentry
    exact ⟨hmem, hr⟩
  · rintro ⟨hmem, hr⟩
    exact ⟨_, hmem, dumpedRegion?_eq_some_iff.2 ⟨rfl, hr⟩⟩

theorem pairwise_base_ne (hnames : (entries.map Prod.fst).Nodup) :
    (entries.filterMap dumpedRegion?).Pairwise fun r r' => r.base ≠ r'.base := by
  rw [List.Nodup, List.pairwise_map] at hnames
  rw [List.pairwise_filterMap]
  refine hnames.imp fun hne r hr r' hr' hbase => hne ?_
  obtain ⟨rfl, hname, -⟩ := dumpedRegion?_eq_some_iff.1 hr
  obtain ⟨rfl, hname', -⟩ := dumpedRegion?_eq_some_iff.1 hr'
  show r.name = r'.name
  rw [hname, hname', hbase]

namespace Ascending

variable {regions regions' : List Region}

theorem nodup (h : Ascending regions) : regions.Nodup := by
  refine h.imp fun hlt => ?_
  rintro rfl
  exact UInt64.lt_irrefl _ hlt

theorem eq_of_perm (h : Ascending regions) (h' : Ascending regions')
    (hperm : regions.Perm regions') : regions = regions' := by
  refine hperm.eq_of_pairwise ?_ h h'
  intro r r' _ _ hlt hgt
  exact absurd (UInt64.lt_trans hlt hgt) (UInt64.lt_irrefl _)

end Ascending

def sortedByBase (regions : List Region) : List Region :=
  regions.mergeSort fun r r' => r.base ≤ r'.base

theorem dumpOrder_sortedByBase (hnames : (entries.map Prod.fst).Nodup) :
    DumpOrder entries (sortedByBase (entries.filterMap dumpedRegion?)) := by
  have hperm : (sortedByBase (entries.filterMap dumpedRegion?)).Perm
      (entries.filterMap dumpedRegion?) := List.mergeSort_perm _ _
  have hle : (sortedByBase (entries.filterMap dumpedRegion?)).Pairwise
      fun r r' => decide (r.base ≤ r'.base) = true :=
    List.pairwise_mergeSort (fun _ _ _ => by simpa using UInt64.le_trans)
      (fun _ _ => by simpa using UInt64.le_total _ _) _
  have hne := (hperm.pairwise_iff Ne.symm).2 (pairwise_base_ne hnames)
  refine ⟨hperm, hle.imp₂ (fun r r' hle hne => ?_) hne⟩
  exact UInt64.lt_of_le_of_ne (of_decide_eq_true hle) hne

theorem DumpOrder.eq_of_perm (h : DumpOrder entries wanted) (h' : DumpOrder entries' wanted')
    (hperm : entries'.Perm entries) : wanted' = wanted :=
  h'.ascending.eq_of_perm h.ascending (h'.perm.trans ((hperm.filterMap _).trans h.perm.symm))

/-! ## Finding -/

/-- The file of a directory that asks for a region. -/
def fileOf (dir : String) (r : Region) : MemoryFile := ⟨joinPath dir r.name, r.name, r.base⟩

theorem sortEntries_fst (dir : String) (entries : List (String × FileEntry)) :
    (sortEntries dir entries).1 = (entries.filterMap dumpedRegion?).map (fileOf dir) := by
  induction entries with
  | nil => rfl
  | cons entry entries ih =>
    obtain ⟨name, file⟩ := entry
    cases file with
    | dir inner => exact ih
    | file bytes =>
      rw [sortEntries, List.filterMap_cons]
      cases hparse : parseMemoryFileName name with
      | error e =>
        simp only [dumpedRegion?, hparse]
        exact ih
      | ok base =>
        simp only [dumpedRegion?, hparse]
        rw [List.map_cons, ih]
        rfl

theorem findMemoryFiles_eq {tree : FileTree} {dir : String}
    (hlist : tree.list dir = .ok entries) :
    findMemoryFiles tree dir =
      .ok ((sortedByBase (entries.filterMap dumpedRegion?)).map (fileOf dir),
        (sortEntries dir entries).2) := by
  have hsorted := List.map_mergeSort (r := fun r r' : Region => decide (r.base ≤ r'.base))
    (s := fun a b : MemoryFile => decide (a.base ≤ b.base)) (f := fileOf dir)
    (l := entries.filterMap dumpedRegion?) fun _ _ _ _ => rfl
  unfold findMemoryFiles sortedByBase
  rw [hlist, hsorted, ← sortEntries_fst]

theorem DumpDirectory.mapFile_eq {tree : FileTree} {dir : String}
    (h : DumpDirectory tree dir entries) (hr : r ∈ entries.filterMap dumpedRegion?) :
    mapFile tree (joinPath dir r.name) = .ok r.data := by
  obtain ⟨hmem, hname, -⟩ := mem_dumpedRegions_iff.1 hr
  obtain ⟨data, hdata⟩ := h.reads _ _ _ hmem (parseMemoryFileName_eq_ok_iff.2 hname)
  have hentry : IsEntryName r.name := by
    rw [hname]
    exact isEntryName_memoryFileName r.base
  have hlookup := lookup_of_mapFile h.lists hentry hdata
  obtain ⟨before, after, hentries, -⟩ := List.lookup_eq_some_iff.1 hlookup
  have hfound : (r.name, .file data) ∈ entries := by
    rw [hentries]
    exact List.mem_append_right _ List.mem_cons_self
  -- The name is there only once.
  have heq := List.inj_on_of_nodup_map h.names hfound hmem rfl
  cases heq
  exact hdata

end TypeRecovery
