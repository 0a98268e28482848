import TypeRecovery.Proofs.Catalog.Accepted
import TypeRecovery.Proofs.Dump.Slots

/-!
# Loading puts chunks together

A load succeeds exactly if the chunks that it finds leave no gap and their types make a catalog,
which then holds the types of all chunks in one row. How the types were cut into chunks makes no
difference.
-/

namespace TypeRecovery

/-! ## Probed chunks -/

/-- The chunks at `start` and at every stride behind it, up to the first that is missing or the last
start that there is. -/
structure ProbedFrom (source : ChunkSource) (stride start : Nat) (chunks : List Chunk) : Prop where
  found : ∀ k chunk, chunks[k]? = some chunk →
    start + k * stride < startBound ∧ source.fetch (start + k * stride) = .ok (some chunk)
  ends : start + chunks.length * stride < startBound →
    source.fetch (start + chunks.length * stride) = .ok none

/-- Each chunk declares the start at which it is found. -/
def Declared (stride start : Nat) (chunks : List Chunk) : Prop :=
  ∀ k chunk, chunks[k]? = some chunk → chunk.start.toNat = start + k * stride

section Probing

variable {source : ChunkSource} {stride start : Nat}

theorem stride_succ (start stride k : Nat) :
    start + (k + 1) * stride = start + stride + k * stride := by
  rw [Nat.add_mul, Nat.one_mul]
  omega

theorem probedFrom_nil_iff :
    ProbedFrom source stride start [] ↔ (start < startBound → source.fetch start = .ok none) := by
  constructor
  · intro h
    simpa using h.ends
  · intro h
    exact ⟨by simp, by simpa using h⟩

theorem probedFrom_cons_iff {chunk : Chunk} {rest : List Chunk} :
    ProbedFrom source stride start (chunk :: rest) ↔
      start < startBound ∧ source.fetch start = .ok (some chunk) ∧
        ProbedFrom source stride (start + stride) rest := by
  constructor
  · intro h
    have hfirst := h.found 0 chunk rfl
    rw [Nat.zero_mul, Nat.add_zero] at hfirst
    refine ⟨hfirst.1, hfirst.2, fun k other hk => ?_, ?_⟩
    · rw [← stride_succ]
      exact h.found (k + 1) other hk
    · rw [← stride_succ]
      exact h.ends
  · rintro ⟨hstart, hfetch, hrest⟩
    refine ⟨fun k other hk => ?_, ?_⟩
    · cases k with
      | zero =>
        obtain rfl := Option.some.inj hk
        rw [Nat.zero_mul, Nat.add_zero]
        exact ⟨hstart, hfetch⟩
      | succ k =>
        rw [stride_succ]
        exact hrest.found k other hk
    · rw [List.length_cons, stride_succ]
      exact hrest.ends

theorem declared_nil : Declared stride start [] := by simp [Declared]

theorem declared_cons_iff {chunk : Chunk} {rest : List Chunk} :
    Declared stride start (chunk :: rest) ↔
      chunk.start.toNat = start ∧ Declared stride (start + stride) rest := by
  constructor
  · intro h
    refine ⟨by simpa using h 0 chunk rfl, fun k other hk => ?_⟩
    rw [← stride_succ]
    exact h (k + 1) other hk
  · rintro ⟨hfirst, hrest⟩ k other hk
    cases k with
    | zero =>
      obtain rfl := Option.some.inj hk
      simpa using hfirst
    | succ k =>
      rw [stride_succ]
      exact hrest k other hk

theorem ProbedFrom.unique {chunks others : List Chunk} (h : ProbedFrom source stride start chunks)
    (h' : ProbedFrom source stride start others) : chunks = others := by
  induction chunks generalizing start others with
  | nil =>
    cases others with
    | nil => rfl
    | cons other others =>
      obtain ⟨hstart, hfetch, -⟩ := probedFrom_cons_iff.1 h'
      rw [probedFrom_nil_iff.1 h hstart] at hfetch
      cases hfetch
  | cons chunk rest ih =>
    obtain ⟨hstart, hfetch, hrest⟩ := probedFrom_cons_iff.1 h
    cases others with
    | nil =>
      rw [probedFrom_nil_iff.1 h' hstart] at hfetch
      cases hfetch
    | cons other others =>
      obtain ⟨-, hfetch', hrest'⟩ := probedFrom_cons_iff.1 h'
      rw [hfetch] at hfetch'
      cases hfetch'
      rw [ih hrest hrest']

theorem probe_eq_ok_iff (positive : 0 < stride) (hstart : start < startBound)
    {chunks : List Chunk} :
    (probe source stride positive start).chunks = .ok chunks ↔
      ProbedFrom source stride start chunks ∧ Declared stride start chunks := by
  fun_induction probe source stride positive start generalizing chunks with
  | case1 start e hfetch =>
    constructor
    · rintro ⟨⟩
    · rintro ⟨hprobed, -⟩
      cases chunks with
      | nil => rw [probedFrom_nil_iff.1 hprobed hstart] at hfetch; cases hfetch
      | cons chunk rest => rw [(probedFrom_cons_iff.1 hprobed).2.1] at hfetch; cases hfetch
  | case2 start hfetch =>
    constructor
    · rintro ⟨⟩
      exact ⟨probedFrom_nil_iff.2 fun _ => hfetch, declared_nil⟩
    · rintro ⟨h, -⟩
      rw [h.unique (probedFrom_nil_iff.2 fun _ => hfetch)]
  | case3 start chunk hfetch hne =>
    constructor
    · rintro ⟨⟩
    · rintro ⟨hprobed, hdeclared⟩
      cases chunks with
      | nil => rw [probedFrom_nil_iff.1 hprobed hstart] at hfetch; cases hfetch
      | cons other rest =>
        rw [(probedFrom_cons_iff.1 hprobed).2.1] at hfetch
        cases hfetch
        exact absurd (declared_cons_iff.1 hdeclared).1 hne
  | case4 start chunk hfetch heq hnext ih =>
    have heq := Decidable.not_not.1 heq
    constructor
    · intro h
      obtain ⟨rest, hrest, rfl⟩ := exceptMap_eq_ok_iff.1 h
      obtain ⟨hprobed, hdeclared⟩ := (ih hnext).1 hrest
      exact ⟨probedFrom_cons_iff.2 ⟨hstart, hfetch, hprobed⟩, declared_cons_iff.2 ⟨heq, hdeclared⟩⟩
    · rintro ⟨hprobed, hdeclared⟩
      cases chunks with
      | nil => rw [probedFrom_nil_iff.1 hprobed hstart] at hfetch; cases hfetch
      | cons other rest =>
        obtain ⟨-, hother, hrest⟩ := probedFrom_cons_iff.1 hprobed
        rw [hfetch] at hother
        cases hother
        have := (ih hnext).2 ⟨hrest, (declared_cons_iff.1 hdeclared).2⟩
        exact congrArg (Except.map (chunk :: ·)) this
  | case5 start chunk hfetch heq hnext =>
    have heq := Decidable.not_not.1 heq
    have hprobed : ProbedFrom source stride start [chunk] :=
      probedFrom_cons_iff.2 ⟨hstart, hfetch, probedFrom_nil_iff.2 fun h => absurd h hnext⟩
    constructor
    · rintro ⟨⟩
      exact ⟨hprobed, declared_cons_iff.2 ⟨heq, declared_nil⟩⟩
    · rintro ⟨h, -⟩
      rw [h.unique hprobed]

/-- At the first strides there are chunks that declare their starts. -/
def Passes (source : ChunkSource) (stride start k : Nat) : Prop :=
  ∀ j < k, ∃ chunk, source.fetch (start + j * stride) = .ok (some chunk) ∧
    chunk.start.toNat = start + j * stride

theorem probe_of_passes (positive : 0 < stride) {k : Nat} (hk : start + k * stride < startBound)
    (hpass : Passes source stride start k) :
    ∃ front, (probe source stride positive start).chunks =
      (probe source stride positive (start + k * stride)).chunks.map (front ++ ·) := by
  induction k generalizing start with
  | zero =>
    refine ⟨[], ?_⟩
    rw [Nat.zero_mul, Nat.add_zero]
    cases (probe source stride positive start).chunks <;> rfl
  | succ k ih =>
    obtain ⟨chunk, hfetch, hstart⟩ := hpass 0 (by omega)
    rw [Nat.zero_mul, Nat.add_zero] at hfetch hstart
    rw [stride_succ] at hk ⊢
    obtain ⟨front, hfront⟩ := ih hk fun j hj => by
      rw [← stride_succ]
      exact hpass (j + 1) (by omega)
    have hstep : probe source stride positive start =
        (probe source stride positive (start + stride)).behind start chunk := by
      conv => lhs; unfold probe
      rw [hfetch]
      simp only
      rw [if_neg (by simpa using hstart), if_pos (by omega)]
    refine ⟨chunk :: front, ?_⟩
    rw [hstep, Probing.behind, hfront]
    cases (probe source stride positive (start + stride + k * stride)).chunks <;> rfl

theorem probe_error (positive : 0 < stride) {k : Nat} {e : Error}
    (hk : start + k * stride < startBound) (hpass : Passes source stride start k)
    (herror : (probe source stride positive (start + k * stride)).chunks = .error e) :
    (probe source stride positive start).chunks = .error e := by
  obtain ⟨front, hfront⟩ := probe_of_passes positive hk hpass
  rw [hfront, herror]
  rfl

theorem probe_of_fetch_error {positive : 0 < stride} {e : Error}
    (h : source.fetch start = .error e) :
    (probe source stride positive start).chunks = .error e := by
  unfold probe
  rw [h]

theorem probe_of_fetch_none {positive : 0 < stride} (h : source.fetch start = .ok none) :
    (probe source stride positive start).chunks = .ok [] := by
  unfold probe
  rw [h]

theorem probe_of_mismatch {positive : 0 < stride} {chunk : Chunk}
    (h : source.fetch start = .ok (some chunk)) (hne : chunk.start.toNat ≠ start) :
    (probe source stride positive start).chunks =
      .error (.malformed (.startMismatch start chunk.start.toNat)) := by
  unfold probe
  rw [h]
  simp only
  rw [if_pos hne]

end Probing

/-! ## Loading -/

/-- Each chunk declares its place, and one that holds types, or is the last, starts where the types
before it end. -/
structure GapFree (stride : Nat) (chunks : List Chunk) : Prop where
  declared : Declared stride 0 chunks
  starts : ∀ k chunk, chunks[k]? = some chunk → chunk.types ≠ [] ∨ k + 1 = chunks.length →
    k * stride = typeCount (chunks.take k)

theorem contiguous_iff_starts {stride : Nat} {chunks : List Chunk} {last : Chunk}
    (hlast : chunks.getLast? = some last) (hdeclared : Declared stride 0 chunks) :
    Contiguous 0 chunks last.stop ↔
      ∀ k chunk, chunks[k]? = some chunk → chunk.types ≠ [] ∨ k + 1 = chunks.length →
        k * stride = typeCount (chunks.take k) := by
  have hpos : 0 < chunks.length := by
    cases chunks with
    | nil => cases hlast
    | cons => simp
  rw [List.getLast?_eq_getElem?] at hlast
  have hstart := hdeclared _ _ hlast
  have hcount := typeCount_take_succ hlast
  rw [Nat.sub_add_cancel hpos, List.take_length] at hcount
  rw [contiguous_iff, Chunk.stop, hcount]
  constructor
  · rintro ⟨hall, htotal⟩ k chunk hk (hne | heq)
    · have := hall k chunk hk hne
      have := hdeclared k chunk hk
      omega
    · have : k = chunks.length - 1 := by omega
      subst this
      omega
  · intro hall
    refine ⟨fun k chunk hk hne => ?_, ?_⟩
    · have := hall k chunk hk (.inl hne)
      have := hdeclared k chunk hk
      omega
    · have := hall _ _ hlast (.inr (by omega))
      omega

theorem load_result (source : ChunkSource) {chunkSize : UInt32} (positive : 0 < chunkSize.toNat) :
    (load source chunkSize).result =
      match (probe source chunkSize.toNat positive 0).chunks with
      | .error e => .error e
      | .ok chunks =>
        match chunks.getLast? with
        | none => .error (.missingChunk (source.location 0))
        | some last => assemble last.stop chunks := by
  unfold load
  rw [dif_pos positive]
  cases hprobe : (probe source chunkSize.toNat positive 0).chunks with
  | error e => simp only [hprobe]
  | ok chunks =>
    simp only [hprobe]
    cases chunks.getLast? <;> rfl

theorem Declared.startsAscend {stride start : Nat} (positive : 0 < stride) {chunks : List Chunk}
    (h : Declared stride start chunks) : StartsAscend chunks := by
  induction chunks generalizing start with
  | nil => exact .nil
  | cons chunk rest ih =>
    obtain ⟨hfirst, hrest⟩ := declared_cons_iff.1 h
    refine List.pairwise_cons.2 ⟨fun other hother => ?_, ih hrest⟩
    obtain ⟨k, hk⟩ := List.mem_iff_getElem?.1 hother
    have := hrest k other hk
    omega

theorem assemble_of_contiguous {count : Nat} {chunks : List Chunk}
    (hascending : StartsAscend chunks) (hcount : count ≤ startBound)
    (h : Contiguous 0 chunks count) :
    assemble count chunks = Catalog.ofRecords (recordsOf chunks) := by
  rw [assemble, collect_of_contiguous hascending hcount h]
  rfl

theorem of_assemble_eq_ok {count : Nat} {chunks : List Chunk} {c : Catalog}
    (hascending : StartsAscend chunks) (h : assemble count chunks = .ok c) :
    Contiguous 0 chunks count ∧ Catalog.ofRecords (recordsOf chunks) = .ok c := by
  obtain ⟨rs, hrs, hc⟩ := exceptBind_eq_ok_iff.1 h
  obtain ⟨hcontiguous, rfl⟩ := contiguous_of_collect hascending hrs
  exact ⟨hcontiguous, hc⟩

theorem assemble_of_misplaced {chunks : List Chunk} {last : Chunk} (h : Misplaced chunks last) :
    ∃ cause, assemble last.stop chunks = .error (.malformed cause) := by
  unfold assemble
  cases hcollect : collect last.stop chunks with
  | ok rs => exact absurd h (collect_eq_ok_iff.1 hcollect).1.not_misplaced
  | error e =>
    obtain ⟨cause, rfl⟩ := collect_error hcollect
    exact ⟨cause, rfl⟩

section Loading

variable {source : ChunkSource} {chunkSize : UInt32} {chunks : List Chunk} {last : Chunk}

theorem load_of_declared (positive : 0 < chunkSize.toNat)
    (hprobed : ProbedFrom source chunkSize.toNat 0 chunks)
    (hdeclared : Declared chunkSize.toNat 0 chunks) (hlast : chunks.getLast? = some last) :
    (load source chunkSize).result = assemble last.stop chunks := by
  have hprobe := (probe_eq_ok_iff positive (by decide)).2 ⟨hprobed, hdeclared⟩
  rw [load_result source positive, hprobe]
  simp only
  rw [hlast]

theorem load_of_gapFree (positive : 0 < chunkSize.toNat)
    (hprobed : ProbedFrom source chunkSize.toNat 0 chunks) (hne : chunks ≠ [])
    (hfree : GapFree chunkSize.toNat chunks) (hfew : typeCount chunks ≤ startBound) :
    (load source chunkSize).result = Catalog.ofRecords (recordsOf chunks) := by
  have hlast := List.getLast?_eq_some_getLast hne
  have hcontiguous := (contiguous_iff_starts hlast hfree.declared).2 hfree.starts
  have hcount := hcontiguous.count_eq
  rw [load_of_declared positive hprobed hfree.declared hlast,
    assemble_of_contiguous (hfree.declared.startsAscend positive) (by omega) hcontiguous]

theorem exists_gapFree_of_load {c : Catalog} (h : (load source chunkSize).result = .ok c) :
    ∃ chunks, ProbedFrom source chunkSize.toNat 0 chunks ∧ chunks ≠ [] ∧
      GapFree chunkSize.toNat chunks ∧ Catalog.ofRecords (recordsOf chunks) = .ok c := by
  by_cases positive : 0 < chunkSize.toNat
  · rw [load_result source positive] at h
    cases hprobe : (probe source chunkSize.toNat positive 0).chunks with
    | error e => rw [hprobe] at h; cases h
    | ok chunks =>
      rw [hprobe] at h
      obtain ⟨hprobed, hdeclared⟩ := (probe_eq_ok_iff positive (by decide)).1 hprobe
      cases hlast : chunks.getLast? with
      | none => simp only [hlast] at h; cases h
      | some last =>
        simp only [hlast] at h
        obtain ⟨hcontiguous, hc⟩ := of_assemble_eq_ok (hdeclared.startsAscend positive) h
        have hstarts := (contiguous_iff_starts hlast hdeclared).1 hcontiguous
        refine ⟨chunks, hprobed, ?_, ⟨hdeclared, hstarts⟩, hc⟩
        rintro rfl
        cases hlast
  · unfold load at h
    rw [dif_neg positive] at h
    cases h

theorem load_eq_ok_iff (positive : 0 < chunkSize.toNat)
    (hfew : ∀ chunks, ProbedFrom source chunkSize.toNat 0 chunks → typeCount chunks ≤ startBound)
    (c : Catalog) :
    (load source chunkSize).result = .ok c ↔
      ∃ chunks, ProbedFrom source chunkSize.toNat 0 chunks ∧ chunks ≠ [] ∧
        GapFree chunkSize.toNat chunks ∧ Catalog.ofRecords (recordsOf chunks) = .ok c := by
  constructor
  · exact exists_gapFree_of_load
  · rintro ⟨chunks, hprobed, hne, hfree, hc⟩
    rw [load_of_gapFree positive hprobed hne hfree (hfew chunks hprobed), hc]

theorem record_of_load {c : Catalog} (h : Catalog.ofRecords (recordsOf chunks) = .ok c) :
    c.size = typeCount chunks ∧ ∀ i : c.Index, ∃ d,
      (chunks.flatMap Chunk.types)[i.val]? = some d ∧
      (c.record i).map Fin.val = TypeRecord.ofDescriptor i d := by
  obtain ⟨hsize, hrecords⟩ := Catalog.records_of_ofRecords h
  refine ⟨by rw [hsize, recordsOf, typeCount, List.length_map, List.length_zipIdx], fun i => ?_⟩
  have := hrecords i
  rw [recordsOf, List.getElem?_map, List.getElem?_zipIdx] at this
  obtain ⟨⟨d, k⟩, hd, hrecord⟩ := Option.map_eq_some_iff.1 this
  obtain ⟨d', hd', heq⟩ := Option.map_eq_some_iff.1 hd
  cases heq
  refine ⟨d, hd', ?_⟩
  rw [← hrecord, Nat.zero_add]

theorem load_of_misplaced (positive : 0 < chunkSize.toNat)
    (hprobed : ProbedFrom source chunkSize.toNat 0 chunks)
    (hdeclared : Declared chunkSize.toNat 0 chunks) (hlast : chunks.getLast? = some last)
    (hmisplaced : Misplaced chunks last) :
    ∃ cause, (load source chunkSize).result = .error (.malformed cause) := by
  rw [load_of_declared positive hprobed hdeclared hlast]
  exact assemble_of_misplaced hmisplaced

theorem load_of_probe_error (positive : 0 < chunkSize.toNat) {k : Nat} {e : Error}
    (hk : k * chunkSize.toNat < startBound) (hpass : Passes source chunkSize.toNat 0 k)
    (herror : (probe source chunkSize.toNat positive (k * chunkSize.toNat)).chunks = .error e) :
    (load source chunkSize).result = .error e := by
  rw [← Nat.zero_add (k * chunkSize.toNat)] at hk herror
  rw [load_result source positive, probe_error positive hk hpass herror]

end Loading

end TypeRecovery
