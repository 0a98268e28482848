import TypeRecovery.Proofs.Dump.Load

/-!
# Splitting into chunks

Types that are cut into chunks of one stride are found again when they are probed at that stride.
-/

namespace TypeRecovery

/-! ## Splitting -/

/-- Chunks of `stride` types each, from `start` on. The last one may be shorter. -/
def splitFrom (stride : Nat) (positive : 0 < stride) (start : Nat) (ds : List TypeDescriptor) :
    List Chunk :=
  if ds.length ≤ stride then [⟨.ofNat start, ds⟩]
  else ⟨.ofNat start, ds.take stride⟩ :: splitFrom stride positive (start + stride) (ds.drop stride)
termination_by ds.length
decreasing_by
  rw [List.length_drop]
  omega

section Split

variable {stride start : Nat} (positive : 0 < stride) {ds : List TypeDescriptor}

theorem splitFrom_types : (splitFrom stride positive start ds).flatMap Chunk.types = ds := by
  fun_induction splitFrom stride positive start ds with
  | case1 start ds h => simp
  | case2 start ds h ih => rw [List.flatMap_cons, ih, List.take_append_drop]

theorem start_ofNat {n : Nat} (h : n < startBound) : (UInt32.ofNat n).toNat = n :=
  UInt32.toNat_ofNat_of_lt' h

theorem splitFrom_declared (hstart : start < startBound) (hfits : start + ds.length ≤ startBound) :
    Declared stride start (splitFrom stride positive start ds) := by
  fun_induction splitFrom stride positive start ds with
  | case1 start ds h => exact declared_cons_iff.2 ⟨start_ofNat hstart, declared_nil⟩
  | case2 start ds h ih =>
    refine declared_cons_iff.2 ⟨start_ofNat hstart, ih (by omega) ?_⟩
    rw [List.length_drop]
    omega

theorem splitFrom_contiguous (hstart : start < startBound)
    (hfits : start + ds.length ≤ startBound) :
    Contiguous start (splitFrom stride positive start ds) (start + ds.length) := by
  fun_induction splitFrom stride positive start ds with
  | case1 start ds h => exact ⟨fun _ => start_ofNat hstart, rfl⟩
  | case2 start ds h ih =>
    refine ⟨fun _ => start_ofNat hstart, ?_⟩
    have hlength : (ds.take stride).length = stride := by
      rw [List.length_take]
      omega
    rw [List.length_drop] at ih
    rw [hlength, show start + ds.length = start + stride + (ds.length - stride) by omega]
    exact ih (by omega) (by omega)

theorem splitFrom_last (hstart : start < startBound) (hfits : start + ds.length ≤ startBound) :
    (splitFrom stride positive start ds).getLast?.map Chunk.stop = some (start + ds.length) := by
  fun_induction splitFrom stride positive start ds with
  | case1 start ds h => simp [Chunk.stop, start_ofNat hstart]
  | case2 start ds h ih =>
    rw [List.length_drop] at ih
    have hrest := ih (by omega) (by omega)
    obtain ⟨last, hlast, hstop⟩ := Option.map_eq_some_iff.1 hrest
    rw [List.getLast?_cons, hlast, Option.getD_some, Option.map_some, hstop]
    exact congrArg some (by omega)

end Split

/-! ## Chunks in memory -/

theorem lookup_eq_some_of_mem {α β : Type} [BEq α] [LawfulBEq α] {l : List (α × β)} {a : α} {b : β}
    (hmem : (a, b) ∈ l) (hunique : ∀ b', (a, b') ∈ l → b' = b) : l.lookup a = some b := by
  cases h : l.lookup a with
  | none =>
    have := List.lookup_eq_none_iff.1 h _ hmem
    simp at this
  | some b' =>
    obtain ⟨front, rest, rfl, -⟩ := List.lookup_eq_some_iff.1 h
    rw [hunique b' (by simp)]

theorem mem_ofChunks_iff {chunks : List Chunk} {start : Nat} {chunk : Chunk} :
    (start, chunk) ∈ (MemorySource.ofChunks chunks).chunks ↔
      chunk ∈ chunks ∧ chunk.start.toNat = start := by
  have hfold : ∀ (m : MemorySource), (start, chunk) ∈ (chunks.foldl MemorySource.insert m).chunks ↔
      (start, chunk) ∈ m.chunks ∨ chunk ∈ chunks ∧ chunk.start.toNat = start := by
    induction chunks with
    | nil => simp
    | cons first rest ih =>
      intro m
      rw [List.foldl_cons, ih]
      simp only [MemorySource.insert, MemorySource.insertAt, List.mem_cons, Prod.mk.injEq]
      constructor
      · rintro ((⟨rfl, rfl⟩ | h) | ⟨h, hstart⟩)
        · exact .inr ⟨.inl rfl, rfl⟩
        · exact .inl h
        · exact .inr ⟨.inr h, hstart⟩
      · rintro (h | ⟨rfl | h, hstart⟩)
        · exact .inl (.inr h)
        · exact .inl (.inl ⟨hstart.symm, rfl⟩)
        · exact .inr ⟨h, hstart⟩
  rw [MemorySource.ofChunks, hfold]
  simp [MemorySource.empty]

theorem probedFrom_ofChunks {stride : Nat} (positive : 0 < stride) {chunks : List Chunk}
    (hdeclared : Declared stride 0 chunks) :
    ProbedFrom (MemorySource.ofChunks chunks).source stride 0 chunks := by
  refine ⟨fun k chunk hk => ?_, fun _ => ?_⟩
  · have hstart := hdeclared k chunk hk
    have hmem : (0 + k * stride, chunk) ∈ (MemorySource.ofChunks chunks).chunks :=
      mem_ofChunks_iff.2 ⟨List.mem_of_getElem? hk, hstart⟩
    refine ⟨hstart ▸ chunk.start.toNat_lt, congrArg Except.ok ?_⟩
    refine lookup_eq_some_of_mem hmem fun other hother => ?_
    obtain ⟨hin, hsame⟩ := mem_ofChunks_iff.1 hother
    obtain ⟨j, hj⟩ := List.mem_iff_getElem?.1 hin
    have hjk : j * stride = k * stride := by
      have := hdeclared j other hj
      omega
    rw [Nat.eq_of_mul_eq_mul_right positive hjk, hk] at hj
    exact (Option.some.inj hj).symm
  · refine congrArg Except.ok (List.lookup_eq_none_iff.2 fun ⟨start, chunk⟩ hmem => ?_)
    obtain ⟨hin, hsame⟩ := mem_ofChunks_iff.1 hmem
    obtain ⟨j, hj⟩ := List.mem_iff_getElem?.1 hin
    have hlt : j < chunks.length := (List.getElem?_eq_some_iff.1 hj).1
    have := hdeclared j chunk hj
    have := Nat.mul_lt_mul_of_pos_right hlt positive
    simp only [bne_iff_ne, ne_eq]
    omega

/-! ## Loading -/

/-- The records of types in a row. -/
def recordsInRow (ds : List TypeDescriptor) : List (TypeRecord Nat) :=
  ds.zipIdx.map fun (d, index) => .ofDescriptor index d

theorem load_split {chunkSize : UInt32} (positive : 0 < chunkSize.toNat) {ds : List TypeDescriptor}
    (hfits : ds.length ≤ startBound) :
    (load (MemorySource.ofChunks (splitFrom chunkSize.toNat positive 0 ds)).source
      chunkSize).result = Catalog.ofRecords (recordsInRow ds) := by
  have hstart : 0 < startBound := by decide
  have hdeclared := splitFrom_declared positive hstart (by omega : 0 + ds.length ≤ _)
  obtain ⟨last, hlast, hstop⟩ := Option.map_eq_some_iff.1
    (splitFrom_last positive hstart (by omega : 0 + ds.length ≤ _))
  have hcontiguous :=
    splitFrom_contiguous positive hstart (by omega : 0 + ds.length ≤ _)
  rw [load_of_declared positive (probedFrom_ofChunks positive hdeclared) hdeclared hlast, hstop,
    assemble_of_contiguous (hdeclared.startsAscend positive) (by omega) hcontiguous, recordsOf,
    splitFrom_types]
  rfl

theorem defaultChunkSize_pos : 0 < defaultChunkSize.toNat := by decide

/-- A dump of types, in chunks of the usual size. -/
def dumpOf (types : List TypeDescriptor) : ChunkSource :=
  (MemorySource.ofChunks (splitFrom defaultChunkSize.toNat defaultChunkSize_pos 0 types)).source

theorem load_dumpOf {types : List TypeDescriptor} {c : Catalog}
    (hc : Catalog.ofRecords (recordsInRow types) = .ok c) (hfits : types.length ≤ startBound) :
    (load (dumpOf types) defaultChunkSize).result = .ok c :=
  (load_split defaultChunkSize_pos hfits).trans hc

/-- What a load of a source does when it looks for chunks at the multiples of a size. -/
structure LoadsInRow (source : ChunkSource) (chunkSize : UInt32)
    (positive : 0 < chunkSize.toNat) : Prop where
  accepts_iff : ∀ c, (load source chunkSize).result = .ok c ↔
    ∃ chunks, ProbedFrom source chunkSize.toNat 0 chunks ∧ chunks ≠ [] ∧
      GapFree chunkSize.toNat chunks ∧ Catalog.ofRecords (recordsOf chunks) = .ok c
  records : ∀ c chunks, (load source chunkSize).result = .ok c →
    ProbedFrom source chunkSize.toNat 0 chunks →
    c.size = typeCount chunks ∧ ∀ i : c.Index, ∃ d,
      (chunks.flatMap Chunk.types)[i.val]? = some d ∧
      (c.record i).map Fin.val = TypeRecord.ofDescriptor i d
  missing : source.fetch 0 = .ok none →
    (load source chunkSize).result = .error (.missingChunk (source.location 0))
  failing : ∀ k e, k * chunkSize.toNat < startBound → Passes source chunkSize.toNat 0 k →
    source.fetch (k * chunkSize.toNat) = .error e → (load source chunkSize).result = .error e
  mismatched : ∀ k chunk, k * chunkSize.toNat < startBound → Passes source chunkSize.toNat 0 k →
    source.fetch (k * chunkSize.toNat) = .ok (some chunk) →
    chunk.start.toNat ≠ k * chunkSize.toNat →
    (load source chunkSize).result =
      .error (.malformed (.startMismatch (k * chunkSize.toNat) chunk.start.toNat))
  misplaced : ∀ chunks last, ProbedFrom source chunkSize.toNat 0 chunks →
    Declared chunkSize.toNat 0 chunks → chunks.getLast? = some last → Misplaced chunks last →
    ∃ cause, (load source chunkSize).result = .error (.malformed cause)
  /-- The stride at which types are split does not show in the catalog. -/
  split : ∀ ds : List TypeDescriptor, ds.length ≤ startBound →
    (load (MemorySource.ofChunks (splitFrom chunkSize.toNat positive 0 ds)).source
      chunkSize).result = Catalog.ofRecords (recordsInRow ds)

/-- Loading accepts exactly the chunks without gaps, in so far as their types make a catalog, and
puts their types in one row. There are no more types than indices. -/
theorem load_in_row (source : ChunkSource) (chunkSize : UInt32) (positive : 0 < chunkSize.toNat)
    (hfew : ∀ chunks, ProbedFrom source chunkSize.toNat 0 chunks → typeCount chunks ≤ startBound) :
    LoadsInRow source chunkSize positive where
  accepts_iff := load_eq_ok_iff positive hfew
  records c chunks h hprobed := by
    obtain ⟨others, hothers, -, -, hc⟩ := (load_eq_ok_iff positive hfew c).1 h
    rw [hprobed.unique hothers]
    exact record_of_load hc
  missing h := by
    rw [load_result source positive, probe_of_fetch_none h]
    rfl
  failing k e hk hpass h := load_of_probe_error positive hk hpass (probe_of_fetch_error h)
  mismatched k chunk hk hpass h hne :=
    load_of_probe_error positive hk hpass (probe_of_mismatch h hne)
  misplaced chunks last hprobed hdeclared hlast h :=
    load_of_misplaced positive hprobed hdeclared hlast h
  split ds hfits := load_split positive hfits

/-- Five types at a stride of two. The first chunk reaches past the second, which is empty. -/
def unevenChunks : List Chunk := [⟨0, [{}, {}, {}, {}]⟩, ⟨2, []⟩, ⟨4, [{}]⟩]

theorem uneven_in_row :
    (0 < (2 : UInt32).toNat ∧
      ∀ chunks, ProbedFrom (MemorySource.ofChunks unevenChunks).source (2 : UInt32).toNat 0 chunks →
        typeCount chunks ≤ startBound) ∧
    ∃ c, (load (MemorySource.ofChunks unevenChunks).source 2).result = .ok c ∧ c.size = 5 := by
  have positive : 0 < (2 : UInt32).toNat := by decide
  have hdeclared : Declared (2 : UInt32).toNat 0 unevenChunks :=
    declared_cons_iff.2 ⟨rfl, declared_cons_iff.2 ⟨rfl, declared_cons_iff.2 ⟨rfl, declared_nil⟩⟩⟩
  have hprobed := probedFrom_ofChunks positive hdeclared
  have hfew : ∀ chunks,
      ProbedFrom (MemorySource.ofChunks unevenChunks).source (2 : UInt32).toNat 0 chunks →
        typeCount chunks ≤ startBound := by
    intro chunks h
    rw [h.unique hprobed]
    decide
  have hrow := load_in_row (MemorySource.ofChunks unevenChunks).source 2 positive hfew
  have hlast : unevenChunks.getLast? = some ⟨4, [{}]⟩ := rfl
  have hfree : GapFree (2 : UInt32).toNat unevenChunks :=
    ⟨hdeclared, (contiguous_iff_starts hlast hdeclared).1
      ⟨fun _ => rfl, fun h => absurd rfl h, fun _ => rfl, rfl⟩⟩
  obtain ⟨c, hc⟩ : ∃ c, Catalog.ofRecords (recordsOf unevenChunks) = .ok c :=
    ⟨_, Catalog.ofRecords_eq_ok_iff.2 ⟨rfl, by decide +kernel, rfl, rfl⟩⟩
  have hload := (hrow.accepts_iff c).2 ⟨unevenChunks, hprobed, by decide, hfree, hc⟩
  exact ⟨⟨positive, hfew⟩, c, hload, (hrow.records c _ hload hprobed).1⟩

end TypeRecovery
