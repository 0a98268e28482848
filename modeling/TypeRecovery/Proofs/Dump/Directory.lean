import TypeRecovery.Dump.Load
import TypeRecovery.Proofs.Descriptor.RoundTrip
import TypeRecovery.Proofs.Dump.Split
import TypeRecovery.Proofs.Memory.Files

/-!
# Dumps in a directory

A load asks its source for chunks and for nothing else, but for the place that it names where the
first chunk is missing. So chunks that were written to the files of a directory are loaded from
there as they are from memory.
-/

namespace TypeRecovery

open Json

/-! ## Loads from alike sources -/

/-- Two loads that ask, log and find the same. Where there is no chunk at all, each names a place of
its own. -/
structure Loading.SameBut (l l' : Loading) (place place' : String) : Prop where
  probed : l.probed = l'.probed
  log : l.log = l'.log
  result : l.result = l'.result ∨
    l.result = .error (.missingChunk place) ∧ l'.result = .error (.missingChunk place')

section

variable {source source' : ChunkSource}
  (h : ∀ start < startBound, source.fetch start = source'.fetch start)

include h

theorem probe_congr {stride : Nat} (positive : 0 < stride) {start : Nat}
    (hstart : start < startBound) :
    probe source stride positive start = probe source' stride positive start := by
  have hfetch := h start hstart
  fun_induction probe source stride positive start with
  | case1 start e heq =>
    rw [probe, ← hfetch, heq]
  | case2 start heq =>
    rw [probe, ← hfetch, heq]
  | case3 start chunk heq hne =>
    rw [probe, ← hfetch, heq]
    exact (if_pos hne).symm
  | case4 start chunk heq hne hnext ih =>
    rw [ih hnext (h _ hnext)]
    conv => rhs; rw [probe, ← hfetch, heq]
    simp only [if_neg hne, if_pos hnext]
  | case5 start chunk heq hne hnext =>
    conv => rhs; rw [probe, ← hfetch, heq]
    simp only [if_neg hne, if_neg hnext]

theorem load_congr (chunkSize : UInt32) :
    (load source chunkSize).SameBut (load source' chunkSize) (source.location 0)
      (source'.location 0) := by
  unfold load
  split
  · next positive =>
    rw [probe_congr h positive (by decide)]
    obtain ⟨probed, log, chunks⟩ := probe source' chunkSize.toNat positive 0
    dsimp only
    cases chunks with
    | error e => exact ⟨rfl, rfl, .inl rfl⟩
    | ok chunks =>
      dsimp only
      cases chunks.getLast? with
      | none => exact ⟨rfl, rfl, .inr ⟨rfl, rfl⟩⟩
      | some last => exact ⟨rfl, rfl, .inl rfl⟩
  · exact ⟨rfl, rfl, .inl rfl⟩

end

/-! ## Chunks in files -/

/-- The files of a directory hold the chunks of a source, each the one of its start. -/
def MemorySource.StoredIn (m : MemorySource) (tree : FileTree) (root : String) : Prop :=
  ∀ start < startBound, tree.find (chunkPath root start) =
    match m.chunks.lookup start with
    | some chunk => .ok (.file chunk.encode.compact.toUTF8)
    | none => .error .notFound

theorem fetch_ofDirectory {m : MemorySource} {tree : FileTree} {root : String}
    (hstored : m.StoredIn tree root) (hchunks : ∀ x ∈ m.chunks, x.2.IsReadable) :
    ∀ start < startBound, (ChunkSource.ofDirectory tree root).fetch start = m.source.fetch start := by
  intro start hstart
  unfold ChunkSource.ofDirectory MemorySource.source
  simp only [hstored start hstart]
  cases hlookup : m.chunks.lookup start with
  | none => rfl
  | some chunk =>
    obtain ⟨front, rest, hsplit, -⟩ := List.lookup_eq_some_iff.1 hlookup
    simp only [Chunk.ofBytes_encode (hchunks (start, chunk) (by simp [hsplit]))]

/-! ## A directory for every source -/

/-- The files of the chunks of a source. -/
def MemorySource.files (m : MemorySource) : List (String × FileEntry) :=
  m.chunks.map fun x => (chunkPath "" x.1, .file x.2.encode.compact.toUTF8)

theorem toList_chunkPath (start : Nat) :
    (chunkPath "" start).toList = Nat.toDigits 10 start ++ ".json".toList := by
  have hpath : chunkPath "" start = toString start ++ ".json" := rfl
  rw [hpath, String.toList_append, Nat.toString_eq_ofList_toDigits, String.toList_ofList]

theorem chunkPath_injective {start start' : Nat} (h : chunkPath "" start = chunkPath "" start') :
    start = start' := by
  have hlist := congrArg String.toList h
  rw [toList_chunkPath, toList_chunkPath, List.append_left_inj, ← toDigits_eq, ← toDigits_eq]
    at hlist
  rw [← ofDigits_toDigits start, hlist, ofDigits_toDigits]

theorem digit_of_mem {start : Nat} {c : Char} (h : c ∈ (chunkPath "" start).toList) :
    c.isDigit = true ∨ c ∈ ".json".toList := by
  rw [toList_chunkPath, List.mem_append] at h
  exact h.imp_left (Nat.isDigit_of_mem_toDigits (by decide) (by decide))

theorem isEntryName_chunkPath (start : Nat) : IsEntryName (chunkPath "" start) := by
  have hlength : 5 ≤ (chunkPath "" start).toList.length := by
    rw [toList_chunkPath, List.length_append]
    exact Nat.le_add_left 5 _
  have hne : ∀ name : String, name.toList.length < 5 → chunkPath "" start ≠ name := by
    rintro name hshort rfl
    omega
  refine ⟨hne _ (by decide), hne _ (by decide), hne _ (by decide), fun hslash => ?_⟩
  rcases digit_of_mem hslash with h | h
  · exact absurd h (by decide)
  · exact absurd h (by decide)

theorem utf8ByteSize_le (name : String) : name.utf8ByteSize ≤ 4 * name.toList.length := by
  rw [utf8ByteSize_eq]
  induction name.toList with
  | nil => simp
  | cons c cs ih =>
    have hc := c.utf8Size_le_four
    rw [List.flatMap_cons, List.length_append, String.length_utf8EncodeChar, List.length_cons]
    omega

theorem find_entry {entries : List (String × FileEntry)} {name : String} (hname : IsEntryName name)
    (hsize : name.utf8ByteSize ≤ Path.maxNameSize) (hzero : ∀ c ∈ name.toList, c.toNat ≠ 0) :
    FileTree.find { root := entries } name =
      match entries.lookup name with
      | some entry => .ok entry
      | none => .error .notFound := by
  have hne : name.toList ≠ [] := by simpa using hname.nonempty
  have hpath : Path.ofText name = ⟨false, [name], false⟩ := by
    unfold Path.ofText
    dsimp only
    rw [hname.splitSlashes_eq]
    congr 1
    · exact decide_eq_false fun h => hname.no_slash (List.mem_of_head? h)
    · simp [hname.nonempty]
    · exact decide_eq_false fun h => hname.no_slash (List.mem_of_getLast? h)
  have hcheck : (Path.ofText name).check = .ok () := by
    have hchars : (name.toList.any fun c => c.toNat = 0) = false := by simpa using hzero
    have hone : Path.size ⟨false, [name], false⟩ = name.utf8ByteSize := by
      change 0 + 1 + name.utf8ByteSize - 1 = name.utf8ByteSize
      rw [Nat.zero_add, Nat.add_sub_cancel_left]
    have hbytes : Path.size ⟨false, [name], false⟩ ≤ Path.maxSize :=
      hone ▸ Nat.le_trans hsize (by decide)
    rw [hpath, Path.check]
    simp only [List.any_cons, List.any_nil, hchars, Bool.or_false]
    simp [Nat.not_lt.2 hbytes, Path.isBlank]
  have hstep : Place.step ⟨[], [], .dir entries⟩ name =
      match entries.lookup name with
      | some entry => .ok ⟨[name], [.dir entries], entry⟩
      | none => .error .notFound := by
    have hchild : Place.child? ⟨[], [], .dir entries⟩ name = .ok (entries.lookup name) :=
      if_neg (Nat.not_lt.2 hsize)
    unfold Place.step
    rw [hchild]
    refine (if_neg hname.ne_here).trans ((if_neg hname.ne_up).trans ?_)
    cases entries.lookup name <;> rfl
  unfold FileTree.find FileTree.place
  rw [hcheck, hpath]
  simp only [bind, Except.bind, FileTree.follow, FileTree.stepsFrom, Path.walk, List.nil_append,
    List.foldlM_cons, List.foldlM_nil, Bool.false_eq_true, if_false, hstep]
  cases entries.lookup name <;> rfl

theorem lookup_map {α β γ δ : Type} [BEq α] [LawfulBEq α] [BEq γ] [LawfulBEq γ] {f : α → γ}
    (hf : ∀ a a', f a = f a' → a = a') (g : β → δ) (l : List (α × β)) (a : α) :
    (l.map fun x => (f x.1, g x.2)).lookup (f a) = (l.lookup a).map g := by
  induction l with
  | nil => rfl
  | cons x l ih =>
    obtain ⟨b, y⟩ := x
    rw [List.map_cons, List.lookup_cons, List.lookup_cons]
    have hbeq : (f a == f b) = (a == b) := by
      rw [Bool.eq_iff_iff, beq_iff_eq, beq_iff_eq]
      exact ⟨hf a b, congrArg f⟩
    rw [hbeq]
    cases a == b
    · exact ih
    · rfl

theorem lookup_files (m : MemorySource) (start : Nat) :
    m.files.lookup (chunkPath "" start) =
      (m.chunks.lookup start).map fun chunk => .file chunk.encode.compact.toUTF8 :=
  lookup_map (fun _ _ => chunkPath_injective)
    (fun chunk : Chunk => FileEntry.file chunk.encode.compact.toUTF8) m.chunks start

theorem storedIn_files (m : MemorySource) : m.StoredIn { root := m.files } "" := by
  intro start hstart
  have hlength : (chunkPath "" start).toList.length ≤ 15 := by
    have hdigits := (Nat.length_toDigits_le_iff (n := start) (k := 10) (b := 10) (by decide)
      (by decide)).2 (Nat.lt_trans hstart (by decide))
    rw [toList_chunkPath, List.length_append]
    exact Nat.add_le_add_right hdigits 5
  have hsize : (chunkPath "" start).utf8ByteSize ≤ Path.maxNameSize :=
    (utf8ByteSize_le _).trans (Nat.le_trans (Nat.mul_le_mul_left 4 hlength) (by decide))
  have hzero : ∀ c ∈ (chunkPath "" start).toList, c.toNat ≠ 0 := by
    intro c hc hzero
    have hchar : c = Char.ofNat 0 := by rw [← hzero, Char.ofNat_toNat]
    subst hchar
    rcases digit_of_mem hc with h | h
    · exact absurd h (by decide)
    · exact absurd h (by decide)
  rw [find_entry (isEntryName_chunkPath start) hsize hzero, lookup_files]
  cases m.chunks.lookup start <;> rfl

/-! ## Written chunks -/

/-- What is written of a chunk has every key and is read as the chunk, from a text as from the bytes
of a file. -/
structure Chunk.ReadsBack (c : Chunk) : Prop where
  keys : c.WritesEveryKey
  text : Chunk.ofText c.encode.compact = .ok c
  bytes : Chunk.ofBytes c.encode.compact.toUTF8.data.toList = .ok c

theorem Chunk.IsReadable.readsBack {c : Chunk} (hc : c.IsReadable) : c.ReadsBack :=
  ⟨c.writesEveryKey, Chunk.ofText_encode hc, Chunk.ofBytes_encode hc⟩

/-- Whatever text a chunk was read from, what is written of it is read as the same chunk. Chunks that
were written to the files of a directory are loaded from there as from memory. -/
theorem written_chunks_read_back :
    (∀ c : Chunk, (∃ input, decodeInput Chunk.decode input = .ok c) ↔ c.IsReadable) ∧
    (∀ input c, decodeInput Chunk.decode input = .ok c → c.ReadsBack) ∧
    ∀ (m : MemorySource) tree root chunkSize,
      (∀ x ∈ m.chunks, ∃ input, decodeInput Chunk.decode input = .ok x.2) →
      m.StoredIn tree root →
      (load (.ofDirectory tree root) chunkSize).SameBut (load m.source chunkSize)
        (chunkPath root 0) (m.source.location 0) := by
  refine ⟨fun c => Chunk.isReadable_iff.symm, ?_, ?_⟩
  · intro input c hread
    exact (Chunk.isReadable_of_decodeInput hread).readsBack
  · intro m tree root chunkSize hchunks hstored
    refine load_congr (fetch_ofDirectory hstored fun x hx => ?_) chunkSize
    exact Chunk.isReadable_iff.2 (hchunks x hx)

/-- A chunk with a generic definition. -/
def listChunk : Chunk where
  start := 0
  types :=
    [ { fullName := "app.List", objectKind := 1, length := 8, runtimeLength := 24, systemType := 28
        generics := some (.object [("Template", .number ⟨true, ['1'], some ['5'], none⟩)])
        fields := [⟨"count", 0, 0, 0⟩]
        methods := [⟨"add", 0x1000, ⟨0⟩, 0, [⟨"item", 0, 1⟩]⟩] } ]

def listSource : MemorySource := .ofChunks [listChunk]

theorem listChunk_isReadable : listChunk.IsReadable := by
  rintro d (_ | ⟨_, ⟨⟩⟩) v ⟨⟩
  refine ⟨nofun, .object (List.pairwise_singleton _ _) ?_, .object ?_⟩
  · rintro m (_ | ⟨_, ⟨⟩⟩)
    exact .number _ (by decide)
  · rintro m (_ | ⟨_, ⟨⟩⟩)
    refine .number ⟨.inr ⟨⟨List.cons_ne_nil _ _, List.forall_mem_singleton.2 rfl⟩, by decide⟩, ?_,
      nofun⟩
    rintro ds ⟨⟩
    exact ⟨List.cons_ne_nil _ _, List.forall_mem_singleton.2 rfl⟩

theorem listChunk_reads_back :
    listChunk.ReadsBack ∧ (load (.ofDirectory { root := listSource.files } "") 1).SameBut
      (load listSource.source 1) "0.json" "<memory>/0.json" := by
  obtain ⟨hreadable, hreads, hload⟩ := written_chunks_read_back
  obtain ⟨input, hinput⟩ := (hreadable listChunk).2 listChunk_isReadable
  refine ⟨hreads input listChunk hinput, hload listSource _ _ _ ?_ (storedIn_files listSource)⟩
  rintro x (_ | ⟨_, ⟨⟩⟩)
  exact ⟨input, hinput⟩

end TypeRecovery
