import TypeRecovery.Proofs.Memory.Accepts

/-!
# Memory imports

What an import maps depends on the files of a directory, and not on the order in which they are
listed. Their names are different addresses, and by ascending address each file takes what those
before it have left.
-/

namespace TypeRecovery

variable {entries : List (String × FileEntry)} {wanted accepted : List Region} {r : Region}

/-! ## Mapping -/

theorem mapRegion_of_fits {p : Program} (hp : p.AddressSpace) (hr : r.FitsBeside p.regions) :
    p.mapRegion r.name r.base r.data r.permissions =
      .ok { p with regions := p.regions.push r } := by
  have hmaps := hp.mapsRegion r.name r.base r.data r.permissions
  obtain ⟨p', hp'⟩ := hmaps.succeeds_iff.2
    ⟨hr.1.nonempty, hr.1.stop_lt, fun ⟨q, hq, hmeets⟩ => hr.2 q hq hmeets⟩
  rw [hp', hmaps.added p' hp']

theorem mapRegion_of_not_fits {p : Program} (hp : p.AddressSpace) (hr : ¬r.FitsBeside p.regions) :
    ∃ e, p.mapRegion r.name r.base r.data r.permissions = .error e := by
  have hmaps := hp.mapsRegion r.name r.base r.data r.permissions
  cases hmap : p.mapRegion r.name r.base r.data r.permissions with
  | error e => exact ⟨e, rfl⟩
  | ok p' =>
    obtain ⟨hdata, hstop, hfree⟩ := hmaps.succeeds_iff.1 ⟨p', hmap⟩
    exact absurd ⟨⟨hdata, hstop⟩, fun q hq hmeets => hfree ⟨q, hq, hmeets⟩⟩ hr

/-- The program with more regions behind its own. -/
def Program.withRegions (p : Program) (regions : List Region) : Program :=
  { p with regions := p.regions ++ regions.toArray }

theorem Program.withRegions_nil (p : Program) : p.withRegions [] = p := by
  simp [withRegions]

theorem Program.withRegions_cons (p : Program) (r : Region) (regions : List Region) :
    p.withRegions (r :: regions) =
      { p with regions := p.regions.push r }.withRegions regions := by
  simp [withRegions]

/-- What an import counts when it accepts some of the regions that are asked for. -/
def MemoryReport.add (report : MemoryReport) (wanted accepted : List Region) : MemoryReport :=
  { imported := report.imported + accepted.length
    failed := report.failed + (wanted.length - accepted.length)
    bytes := report.bytes + (accepted.map Region.length).sum }

theorem MemoryReport.add_cons_of_accepted (report : MemoryReport) (r : Region)
    (wanted accepted : List Region) :
    report.add (r :: wanted) (r :: accepted) =
      { report with
        imported := report.imported + 1
        bytes := report.bytes + r.length }.add wanted accepted := by
  simp only [add, List.length_cons, List.map_cons, List.sum_cons, Nat.add_sub_add_right]
  congr 1 <;> omega

theorem MemoryReport.add_cons_of_refused (report : MemoryReport) (r : Region)
    (hlength : accepted.length ≤ wanted.length) :
    report.add (r :: wanted) accepted =
      { report with failed := report.failed + 1 }.add wanted accepted := by
  simp only [add, List.length_cons]
  congr 1
  omega

/-- A report accounts for regions that were asked for and those that were accepted. -/
structure MemoryReport.Accounts (report : MemoryReport) (wanted accepted : List Region) : Prop where
  imported : report.imported = accepted.length
  total : report.imported + report.failed = wanted.length
  bytes : report.bytes = (accepted.map Region.length).sum
  bytes_lt : report.bytes < UInt64.size

theorem MemoryReport.accounts_add {old : Array Region} (hasc : Ascending wanted)
    (h : Accepts old wanted accepted) :
    (({} : MemoryReport).add wanted accepted).Accounts wanted accepted := by
  have hlength := h.sublist.length_le
  have hlt : 0 + (accepted.map Region.length).sum < UInt64.size :=
    sum_length_lt (by decide) (fun _ hr => h.bounded hr) (fun _ _ => Nat.zero_le _)
      (h.pairwise_stop_le hasc)
  refine ⟨Nat.zero_add _, ?_, Nat.zero_add _, hlt⟩
  simp only [add]
  omega

section Run

variable {tree : FileTree} {dir : String} {ws : Workspace}

theorem importMemoryFile_eq (report : MemoryReport) (hopen : ws.target.IsOpen)
    (hfile : mapFile tree (joinPath dir r.name) = .ok r.data) (hr : r.permissions = .all) :
    ∃ ws', importMemoryFile tree report (fileOf dir r) ws =
        (match ws.program.mapRegion r.name r.base r.data r.permissions with
          | .ok _ => { report with imported := report.imported + 1, bytes := report.bytes + r.length }
          | .error _ => { report with failed := report.failed + 1 }, ws') ∧
      ws'.target.IsOpen ∧
      ws'.program =
        (ws.program.mapRegion r.name r.base r.data r.permissions).toOption.getD ws.program := by
  have hattempt : (ws.target.attempt (.mapRegion r.name r.base r.data r.permissions)).1 =
      (ws.program.mapRegion r.name r.base r.data r.permissions).map fun _ => () :=
    hopen.attempt_fst _
  have hprogram : (ws.target.attempt (.mapRegion r.name r.base r.data r.permissions)).2.program =
      (ws.program.mapRegion r.name r.base r.data r.permissions).toOption.getD ws.program :=
    hopen.attempt_program _
  have hopen' := hopen.attempt (.mapRegion r.name r.base r.data r.permissions)
  rw [hr] at hattempt hprogram hopen' ⊢
  unfold importMemoryFile fileOf
  dsimp only
  rw [hfile]
  dsimp only
  rw [Workspace.attempt_eq, Workspace.info_target, hattempt]
  cases hmap : ws.program.mapRegion r.name r.base r.data .all with
  | ok p =>
    rw [hmap] at hprogram
    exact ⟨_, rfl, hopen', hprogram⟩
  | error e =>
    rw [hmap] at hprogram
    exact ⟨_, rfl, hopen', hprogram⟩

theorem importMemoryFile_of_fits (report : MemoryReport) (hopen : ws.target.IsOpen)
    (hspace : ws.program.AddressSpace)
    (hfile : mapFile tree (joinPath dir r.name) = .ok r.data) (hr : r.permissions = .all)
    (hfits : r.FitsBeside ws.program.regions) :
    ∃ ws', importMemoryFile tree report (fileOf dir r) ws =
        ({ report with imported := report.imported + 1, bytes := report.bytes + r.length }, ws') ∧
      ws'.target.IsOpen ∧ ws'.program.AddressSpace ∧
      ws'.program = { ws.program with regions := ws.program.regions.push r } := by
  have hmap := mapRegion_of_fits hspace hfits
  obtain ⟨ws', hstep, hopen', hprogram⟩ := importMemoryFile_eq report hopen hfile hr
  rw [hmap] at hstep hprogram
  refine ⟨ws', hstep, hopen', ?_, hprogram⟩
  rw [hprogram]
  exact hspace.mapRegion hmap

theorem importMemoryFile_of_not_fits (report : MemoryReport) (hopen : ws.target.IsOpen)
    (hspace : ws.program.AddressSpace)
    (hfile : mapFile tree (joinPath dir r.name) = .ok r.data) (hr : r.permissions = .all)
    (hfits : ¬r.FitsBeside ws.program.regions) :
    ∃ ws', importMemoryFile tree report (fileOf dir r) ws =
        ({ report with failed := report.failed + 1 }, ws') ∧
      ws'.target.IsOpen ∧ ws'.program = ws.program := by
  obtain ⟨e, hmap⟩ := mapRegion_of_not_fits hspace hfits
  obtain ⟨ws', hstep, hopen', hprogram⟩ := importMemoryFile_eq report hopen hfile hr
  rw [hmap] at hstep hprogram
  exact ⟨ws', hstep, hopen', hprogram⟩

theorem foldl_importMemoryFile (report : MemoryReport) (ws : Workspace) (hopen : ws.target.IsOpen)
    (hspace : ws.program.AddressSpace) (hnodup : wanted.Nodup)
    (hfiles : ∀ r ∈ wanted, mapFile tree (joinPath dir r.name) = .ok r.data ∧
      r.permissions = .all) :
    ∃ accepted ws', Accepts ws.program.regions wanted accepted ∧
      (wanted.map (fileOf dir)).foldl
        (fun (report, ws) file => importMemoryFile tree report file ws) (report, ws) =
          (report.add wanted accepted, ws') ∧
      ws'.program = ws.program.withRegions accepted := by
  induction wanted generalizing ws report with
  | nil => exact ⟨[], ws, .nil, rfl, (Program.withRegions_nil _).symm⟩
  | cons r wanted ih =>
    obtain ⟨hnew, hnodup⟩ := List.nodup_cons.1 hnodup
    obtain ⟨hfile, hr⟩ := hfiles r List.mem_cons_self
    have hrest := fun q hq => hfiles q (List.mem_cons_of_mem r hq)
    rw [List.map_cons, List.foldl_cons]
    dsimp only
    by_cases hfits : r.FitsBeside ws.program.regions
    · obtain ⟨ws₁, hstep, hopen₁, hspace₁, hws₁⟩ :=
        importMemoryFile_of_fits report hopen hspace hfile hr hfits
      obtain ⟨accepted, ws₂, haccepts, hrun, hws₂⟩ := ih _ _ hopen₁ hspace₁ hnodup hrest
      rw [hws₁] at haccepts hws₂
      refine ⟨r :: accepted, ws₂, haccepts.cons_of_fits hfits hnew, ?_, ?_⟩
      · rw [hstep, hrun, MemoryReport.add_cons_of_accepted]
      · rw [hws₂, Program.withRegions_cons]
    · obtain ⟨ws₁, hstep, hopen₁, hws₁⟩ :=
        importMemoryFile_of_not_fits report hopen hspace hfile hr hfits
      rw [← hws₁] at hspace
      obtain ⟨accepted, ws₂, haccepts, hrun, hws₂⟩ := ih _ _ hopen₁ hspace hnodup hrest
      rw [hws₁] at haccepts hws₂
      refine ⟨accepted, ws₂, haccepts.cons_of_not_fits hfits hnew, ?_, hws₂⟩
      rw [hstep, hrun, MemoryReport.add_cons_of_refused report r haccepts.sublist.length_le]

theorem DumpDirectory.importMemory (h : DumpDirectory tree dir entries) (ws : Workspace)
    (hopen : ws.target.IsOpen) (hspace : ws.program.AddressSpace) :
    ∃ accepted,
      Accepts ws.program.regions (sortedByBase (entries.filterMap dumpedRegion?)) accepted ∧
      (importMemory tree dir ws).1 =
        .ok (({} : MemoryReport).add (sortedByBase (entries.filterMap dumpedRegion?)) accepted) ∧
      (importMemory tree dir ws).2.program = ws.program.withRegions accepted := by
  have horder := dumpOrder_sortedByBase h.names
  have hfiles : ∀ r ∈ sortedByBase (entries.filterMap dumpedRegion?),
      mapFile tree (joinPath dir r.name) = .ok r.data ∧ r.permissions = .all := by
    intro r hr
    have hmem := horder.perm.mem_iff.1 hr
    exact ⟨h.mapFile_eq hmem, (mem_dumpedRegions_iff.1 hmem).2.2⟩
  obtain ⟨accepted, ws', haccepts, hrun, hws'⟩ :=
    foldl_importMemoryFile {} (ws.append (sortEntries dir entries).2) hopen hspace
      horder.ascending.nodup hfiles
  refine ⟨accepted, haccepts, ?_, ?_⟩
  · unfold TypeRecovery.importMemory
    rw [findMemoryFiles_eq h.lists]
    dsimp only
    rw [hrun]
  · unfold TypeRecovery.importMemory
    rw [findMemoryFiles_eq h.lists]
    dsimp only
    rw [hrun]
    exact hws'

end Run

/-- A memory import depends on the files of a directory alone. Those of a dump are taken by
ascending address, and the same of them are accepted in whatever order they are listed. -/
theorem importMemory_dumpDirectory (ops : List Operation) {tree : FileTree} {dir : String}
    {entries : List (String × FileEntry)} (h : DumpDirectory tree dir entries) :
    ∃ wanted accepted report,
      DumpOrder entries wanted ∧
      Accepts (Program.empty.after ops).regions wanted accepted ∧
      report.Accounts wanted accepted ∧
      ∀ tree' dir' entries', DumpDirectory tree' dir' entries' → entries'.Perm entries →
        (importMemory tree' dir' (.ofTarget (.ofProgram (Program.empty.after ops)))).1 =
            .ok report ∧
          (importMemory tree' dir' (.ofTarget (.ofProgram (Program.empty.after ops)))).2.program =
            (Program.empty.after ops).withRegions accepted := by
  have hspace := Program.addressSpace_after ops
  have hopen := Target.isOpen_ofProgram (Program.empty.after ops)
  have horder := dumpOrder_sortedByBase h.names
  obtain ⟨accepted, haccepts, -, -⟩ :=
    h.importMemory (.ofTarget (.ofProgram (Program.empty.after ops))) hopen hspace
  refine ⟨_, accepted, _, horder, haccepts, MemoryReport.accounts_add horder.ascending haccepts, ?_⟩
  intro tree' dir' entries' h' hperm
  obtain ⟨accepted', haccepts', hreport, hprogram⟩ :=
    h'.importMemory (.ofTarget (.ofProgram (Program.empty.after ops))) hopen hspace
  rw [horder.eq_of_perm (dumpOrder_sortedByBase h'.names) hperm] at haccepts' hreport
  rw [haccepts.unique horder.ascending haccepts'] at hreport hprogram
  exact ⟨hreport, hprogram⟩

/-! ## A dump in two orders -/

/-- Two of the files overlap, one has no bytes, one ends behind the last address, and there are a
file and a directory that are not part of the dump. -/
def mixedEntries : List (String × FileEntry) :=
  [ ("0000000140000002.bin", .file ⟨#[5, 6]⟩),
    ("notes.txt", .file ⟨#[120]⟩),
    ("ffffffffffffffff.bin", .file ⟨#[7]⟩),
    ("0000000140000000.bin", .file ⟨#[1, 2, 3, 4]⟩),
    ("0000000160000000.bin", .dir []),
    ("0000000150000000.bin", .file ⟨#[]⟩) ]

def treeOf (entries : List (String × FileEntry)) : FileTree := { root := [("dump", .dir entries)] }

theorem mem_mixedEntries {name : String} {bytes : ByteArray}
    (h : (name, .file bytes) ∈ mixedEntries) :
    name = "0000000140000002.bin" ∨ name = "notes.txt" ∨ name = "ffffffffffffffff.bin" ∨
      name = "0000000140000000.bin" ∨ name = "0000000150000000.bin" := by
  simp only [mixedEntries, List.mem_cons, Prod.mk.injEq, List.not_mem_nil, or_false,
    reduceCtorEq, and_false, false_or] at h
  rcases h with ⟨hname, -⟩ | ⟨hname, -⟩ | ⟨hname, -⟩ | ⟨hname, -⟩ | ⟨hname, -⟩ <;> simp [hname]

theorem mixed_dumpDirectory : DumpDirectory (treeOf mixedEntries) "dump/" mixedEntries := by
  refine ⟨rfl, by decide, fun name bytes base hmem _ => ?_⟩
  rcases mem_mixedEntries hmem with rfl | rfl | rfl | rfl | rfl <;> exact ⟨_, rfl⟩

theorem mixed_dumpDirectory_reverse :
    DumpDirectory (treeOf mixedEntries.reverse) "dump" mixedEntries.reverse := by
  refine ⟨rfl, by decide, fun name bytes base hmem _ => ?_⟩
  rcases mem_mixedEntries (List.mem_reverse.1 hmem) with rfl | rfl | rfl | rfl | rfl <;>
    exact ⟨_, rfl⟩

theorem mixed_importMemory :
    DumpDirectory (treeOf mixedEntries) "dump/" mixedEntries ∧
      DumpDirectory (treeOf mixedEntries.reverse) "dump" mixedEntries.reverse ∧
      ∃ report, report.imported + report.failed = 4 ∧
        (importMemory (treeOf mixedEntries) "dump/" (.ofTarget (.ofProgram .empty))).1 =
          .ok report ∧
        (importMemory (treeOf mixedEntries.reverse) "dump" (.ofTarget (.ofProgram .empty))).1 =
          .ok report := by
  obtain ⟨wanted, accepted, report, horder, -, haccounts, hresult⟩ :=
    importMemory_dumpDirectory [] mixed_dumpDirectory
  refine ⟨mixed_dumpDirectory, mixed_dumpDirectory_reverse, report, ?_, ?_, ?_⟩
  · rw [haccounts.total, horder.perm.length_eq]
    decide
  · exact (hresult _ _ _ mixed_dumpDirectory (.refl _)).1
  · exact (hresult _ _ _ mixed_dumpDirectory_reverse (List.reverse_perm _)).1

end TypeRecovery
