import TypeRecovery.Proofs.Dump.Load

/-!
# What a load asks for

A load asks for the chunk at zero and then for one at every multiple of the stride, each once. It
stops at the first that is missing, cannot be read or belongs elsewhere, or where there are no more
starts. A source may change as it is asked, but since no start is asked for twice, a load cannot
tell it from one that stays as it is.
-/

namespace TypeRecovery

/-! ## Where a search ends -/

/-- An answer behind which nothing is asked for. -/
inductive EndsSearch (start : Nat) : Except Error (Option Chunk) → Prop
  | missing : EndsSearch start (.ok none)
  | failed (e : Error) : EndsSearch start (.error e)
  | elsewhere (chunk : Chunk) : chunk.start.toNat ≠ start → EndsSearch start (.ok (some chunk))

/-- A search from `start` on ends `n` strides behind it: the first answer to end it comes there, or
no start is left. -/
structure EndsAt (source : ChunkSource) (stride start n : Nat) : Prop where
  inBounds : start + n * stride < startBound
  goesOn : ∀ k < n, ¬EndsSearch (start + k * stride) (source.fetch (start + k * stride))
  ends : EndsSearch (start + n * stride) (source.fetch (start + n * stride)) ∨
    startBound ≤ start + (n + 1) * stride

section

variable {source : ChunkSource} {stride start n : Nat}

theorem endsAt_zero (hstart : start < startBound)
    (hends : EndsSearch start (source.fetch start) ∨ startBound ≤ start + stride) :
    EndsAt source stride start 0 where
  inBounds := by simpa using hstart
  goesOn k hk := absurd hk (Nat.not_lt_zero k)
  ends := by simpa using hends

theorem endsAt_succ (hgoes : ¬EndsSearch start (source.fetch start))
    (h : EndsAt source stride (start + stride) n) : EndsAt source stride start (n + 1) where
  inBounds := by
    rw [stride_succ]
    exact h.inBounds
  goesOn k hk := by
    cases k with
    | zero => simpa using hgoes
    | succ k =>
      rw [stride_succ]
      exact h.goesOn k (Nat.lt_of_succ_lt_succ hk)
  ends := by
    rw [stride_succ, stride_succ start stride (n + 1)]
    exact h.ends

theorem not_endsSearch_of_declares {chunk : Chunk} (h : chunk.start.toNat = start) :
    ¬EndsSearch start (.ok (some chunk)) := by
  rintro (_ | _ | ⟨_, hne⟩)
  exact hne h

theorem probe_probed (positive : 0 < stride) (hstart : start < startBound) :
    ∃ n, (probe source stride positive start).probed = List.range' start (n + 1) stride ∧
      EndsAt source stride start n := by
  fun_induction probe source stride positive start with
  | case1 start e hfetch =>
    exact ⟨0, rfl, endsAt_zero hstart (.inl (hfetch ▸ .failed e))⟩
  | case2 start hfetch =>
    exact ⟨0, rfl, endsAt_zero hstart (.inl (hfetch ▸ .missing))⟩
  | case3 start chunk hfetch hne =>
    exact ⟨0, rfl, endsAt_zero hstart (.inl (hfetch ▸ .elsewhere chunk hne))⟩
  | case4 start chunk hfetch heq hnext ih =>
    obtain ⟨n, hprobed, hends⟩ := ih hnext
    have hgoes := not_endsSearch_of_declares (Decidable.not_not.1 heq)
    rw [← hfetch] at hgoes
    exact ⟨n + 1, congrArg (start :: ·) hprobed, endsAt_succ hgoes hends⟩
  | case5 start chunk hfetch heq hnext =>
    exact ⟨0, rfl, endsAt_zero hstart (.inr (by omega))⟩

theorem EndsAt.eq_of_endless (h : EndsAt source stride 0 n)
    (hendless : ∀ start < startBound, ¬EndsSearch start (source.fetch start)) :
    n = (startBound - 1) / stride := by
  have hlt := h.inBounds
  have hle := h.ends.resolve_left (hendless _ hlt)
  rw [Nat.zero_add] at hlt hle
  exact (Nat.div_eq_of_lt_le (by omega) (by omega)).symm

end

/-- The load that a search ends up as. `place` is where the chunk at zero should be. -/
def Probing.loading (found : Probing) (place : String) : Loading :=
  match found.chunks with
  | .error e => ⟨found.probed, found.log, .error e⟩
  | .ok chunks =>
    match chunks.getLast? with
    | none => ⟨found.probed, found.log, .error (.missingChunk place)⟩
    | some last =>
      ⟨found.probed, found.log ++ [⟨.info, s!"typeCount = {last.stop}"⟩], assemble last.stop chunks⟩

theorem Probing.probed_loading (found : Probing) (place : String) :
    (found.loading place).probed = found.probed := by
  unfold loading
  split
  · rfl
  · split <;> rfl

theorem load_eq_loading (source : ChunkSource) {chunkSize : UInt32}
    (positive : 0 < chunkSize.toNat) :
    load source chunkSize =
      (probe source chunkSize.toNat positive 0).loading (source.location 0) := by
  unfold load
  rw [dif_pos positive]
  rfl

theorem exists_load_probed (source : ChunkSource) {chunkSize : UInt32}
    (positive : 0 < chunkSize.toNat) :
    ∃ n, (load source chunkSize).probed = List.range' 0 (n + 1) chunkSize.toNat ∧
      EndsAt source chunkSize.toNat 0 n := by
  rw [load_eq_loading source positive, Probing.probed_loading]
  exact probe_probed positive (by decide)

/-! ## Sources that change -/

/-- A source that need not answer the same when it is asked again. -/
structure LiveSource (σ : Type) where
  fetch : Nat → σ → Except Error (Option Chunk) × σ
  location : Nat → σ → String

namespace LiveSource

variable {σ : Type} (S : LiveSource σ)

/-- Looks for chunks from `start` on. The source is asked as it was left by the start before. -/
def probe (stride : Nat) (positive : 0 < stride) (start : Nat) (s : σ) : Probing × σ :=
  match S.fetch start s with
  | (.error e, s) => (⟨[start], [], .error e⟩, s)
  | (.ok none, s) => (⟨[start], [], .ok []⟩, s)
  | (.ok (some chunk), s) =>
    if chunk.start.toNat ≠ start then
      (⟨[start], [], .error (.malformed (.startMismatch start chunk.start.toNat))⟩, s)
    else if start + stride < startBound then
      let (rest, s) := probe stride positive (start + stride) s
      (rest.behind start chunk, s)
    else (⟨[start], chunkLines start chunk, .ok [chunk]⟩, s)
termination_by startBound - start

def load (chunkSize : UInt32) (s : σ) : Loading × σ :=
  if positive : 0 < chunkSize.toNat then
    let (found, s) := S.probe chunkSize.toNat positive 0 s
    (found.loading (S.location 0 s), s)
  else (⟨[], [], .error .zeroChunkSize⟩, s)

/-- What becomes of a source that is asked for starts one after another. -/
def after (s : σ) (starts : List Nat) : σ := starts.foldl (fun s start => (S.fetch start s).2) s

/-- The source after the first multiples of the stride were asked for. -/
def afterFirst (stride : Nat) (s : σ) (count : Nat) : σ := S.after s (List.range' 0 count stride)

/-- The answers of a source that is asked for one multiple of the stride after another. -/
def replay (stride : Nat) (s : σ) : ChunkSource where
  fetch start := (S.fetch start (S.afterFirst stride s (start / stride))).1
  location start := S.location start (S.afterFirst stride s 1)

variable {S} {stride : Nat} {s : σ}

theorem fetch_in_turn (positive : 0 < stride) (k : Nat) :
    S.fetch (k * stride) (S.afterFirst stride s k) =
      ((S.replay stride s).fetch (k * stride), S.afterFirst stride s (k + 1)) := by
  have hanswer : (S.replay stride s).fetch (k * stride) =
      (S.fetch (k * stride) (S.afterFirst stride s k)).1 := by
    unfold replay
    dsimp only
    rw [Nat.mul_div_cancel k positive]
  have hstate : S.afterFirst stride s (k + 1) =
      (S.fetch (k * stride) (S.afterFirst stride s k)).2 := by
    unfold afterFirst after
    rw [List.range'_concat, List.foldl_append, Nat.zero_add, Nat.mul_comm]
    rfl
  rw [hanswer, hstate]

/-- A search cannot tell a source from its answers in turn. -/
theorem probe_eq (positive : 0 < stride) (k : Nat) :
    S.probe stride positive (k * stride) (S.afterFirst stride s k) =
      (TypeRecovery.probe (S.replay stride s) stride positive (k * stride),
        S.after (S.afterFirst stride s k)
          (TypeRecovery.probe (S.replay stride s) stride positive (k * stride)).probed) := by
  have hturn := fetch_in_turn (S := S) (s := s) positive k
  have hasked : S.after (S.afterFirst stride s k) [k * stride] = S.afterFirst stride s (k + 1) :=
    congrArg Prod.snd hturn
  generalize hstart : k * stride = start at hturn hasked ⊢
  fun_induction TypeRecovery.probe (S.replay stride s) stride positive start generalizing k with
  | case1 start e hfetch =>
    rw [probe, hturn, hfetch]
    exact congrArg _ hasked.symm
  | case2 start hfetch =>
    rw [probe, hturn, hfetch]
    exact congrArg _ hasked.symm
  | case3 start chunk hfetch hne =>
    rw [probe, hturn, hfetch]
    dsimp only
    rw [if_pos hne, hasked]
  | case4 start chunk hfetch heq hnext ih =>
    have hsucc : (k + 1) * stride = start + stride := by rw [Nat.succ_mul, hstart]
    have hturn' := fetch_in_turn (S := S) (s := s) positive (k + 1)
    rw [hsucc] at hturn'
    rw [probe, hturn, hfetch]
    dsimp only
    rw [if_neg heq, if_pos hnext, ih (k + 1) hsucc hturn' (congrArg Prod.snd hturn'), ← hasked]
    rfl
  | case5 start chunk hfetch heq hnext =>
    rw [probe, hturn, hfetch]
    dsimp only
    rw [if_neg heq, if_neg hnext, hasked]

end LiveSource

theorem probed_of_chunks_nil {source : ChunkSource} {stride start : Nat} (positive : 0 < stride)
    (h : (probe source stride positive start).chunks = .ok []) :
    (probe source stride positive start).probed = [start] := by
  fun_cases probe source stride positive start with
  | case4 chunk hfetch heq hnext =>
    rw [probe, hfetch] at h
    simp only [if_neg heq, if_pos hnext] at h
    obtain ⟨rest, -, hcons⟩ := exceptMap_eq_ok_iff.1 h
    cases hcons
  | _ => rfl

theorem Probing.loading_congr {found : Probing} {place place' : String}
    (h : found.chunks = .ok [] → place = place') : found.loading place = found.loading place' := by
  unfold loading
  cases hchunks : found.chunks with
  | error e => rfl
  | ok chunks =>
    cases chunks with
    | nil => rw [h hchunks]
    | cons chunk chunks => rfl

namespace LiveSource

variable {σ : Type} {S : LiveSource σ}

theorem load_eq (chunkSize : UInt32) (s : σ) :
    S.load chunkSize s =
      (TypeRecovery.load (S.replay chunkSize.toNat s) chunkSize,
        S.after s (TypeRecovery.load (S.replay chunkSize.toNat s) chunkSize).probed) := by
  by_cases positive : 0 < chunkSize.toNat
  · have hprobe := probe_eq (S := S) (s := s) positive 0
    rw [Nat.zero_mul] at hprobe
    have hplace :
        (TypeRecovery.probe (S.replay chunkSize.toNat s) chunkSize.toNat positive 0).chunks =
          .ok [] →
        S.location 0 (S.after s
            (TypeRecovery.probe (S.replay chunkSize.toNat s) chunkSize.toNat positive 0).probed) =
          (S.replay chunkSize.toNat s).location 0 := by
      intro hnil
      rw [probed_of_chunks_nil positive hnil]
      rfl
    rw [load, dif_pos positive, load_eq_loading _ positive, Probing.probed_loading,
      ← Probing.loading_congr hplace]
    exact congrArg (fun found => (found.1.loading (S.location 0 found.2), found.2)) hprobe
  · unfold load TypeRecovery.load
    rw [dif_neg positive, dif_neg positive]
    rfl

end LiveSource

/-! ## Sources that stay as they are -/

def ChunkSource.live (source : ChunkSource) : LiveSource Unit where
  fetch start _ := (source.fetch start, ())
  location start _ := source.location start

/-- Chunks in memory. Each request is counted. -/
def MemorySource.live : LiveSource MemorySource where
  fetch start m := (m.source.fetch start, m.note [start])
  location start m := m.source.location start

theorem MemorySource.note_note (m : MemorySource) (starts starts' : List Nat) :
    (m.note starts).note starts' = m.note (starts ++ starts') := by
  unfold note
  rw [List.append_assoc]

theorem MemorySource.after_live (m : MemorySource) (starts : List Nat) :
    MemorySource.live.after m starts = m.note starts := by
  induction starts generalizing m with
  | nil => simp [LiveSource.after, note]
  | cons start starts ih =>
    show MemorySource.live.after (m.note [start]) starts = _
    rw [ih, note_note]
    rfl

theorem MemorySource.replay_live (m : MemorySource) (stride : Nat) :
    MemorySource.live.replay stride m = m.source := by
  unfold LiveSource.replay LiveSource.afterFirst
  simp only [after_live]
  rfl

theorem MemorySource.load_live (m : MemorySource) (chunkSize : UInt32) :
    MemorySource.live.load chunkSize m =
      (load m.source chunkSize, m.note (load m.source chunkSize).probed) := by
  rw [LiveSource.load_eq, replay_live, after_live]

theorem MemorySource.probeCount_note {m : MemorySource} {starts : List Nat} (h : starts.Nodup)
    (start : Nat) :
    (m.note starts).probeCount start = m.probeCount start + if start ∈ starts then 1 else 0 := by
  unfold probeCount note
  rw [List.count_append, h.count]

theorem load_probed_ascending (source : ChunkSource) (chunkSize : UInt32) :
    (load source chunkSize).probed.Pairwise (· < ·) := by
  by_cases positive : 0 < chunkSize.toNat
  · obtain ⟨n, hprobed, -⟩ := exists_load_probed source positive
    rw [hprobed]
    exact List.pairwise_lt_range' _ positive
  · unfold load
    rw [dif_neg positive]
    exact .nil

/-! ## What is asked for -/

/-- A load asks a source for the multiples of the stride up to the one `n` strides behind the first,
where the search ends, and for nothing else. -/
structure LiveSource.AsksUpTo {σ : Type} (S : LiveSource σ) (chunkSize : UInt32) (s : σ) (n : Nat) :
    Prop where
  probed : (S.load chunkSize s).1.probed = List.range' 0 (n + 1) chunkSize.toNat
  left : (S.load chunkSize s).2 = S.afterFirst chunkSize.toNat s (n + 1)
  endsAt : EndsAt (S.replay chunkSize.toNat s) chunkSize.toNat 0 n

/-- Every load comes to an end, and it asks for each start at most once, in ascending order. What a
source does with its requests makes no difference to this. A source in memory counts them. -/
theorem load_asks_in_turn :
    (∀ (σ : Type) (S : LiveSource σ) chunkSize s, 0 < chunkSize.toNat →
      ∃ n, S.AsksUpTo chunkSize s n) ∧
    (∀ (σ : Type) (S : LiveSource σ) s, S.load 0 s = (⟨[], [], .error .zeroChunkSize⟩, s)) ∧
    (∀ source chunkSize, (source.live.load chunkSize ()).1 = load source chunkSize) ∧
    (∀ source chunkSize, (load source chunkSize).probed.Pairwise (· < ·)) ∧
    (∀ source chunkSize, 0 < chunkSize.toNat →
      (∀ start < startBound, ¬EndsSearch start (source.fetch start)) →
      (load source chunkSize).probed =
        List.range' 0 ((startBound - 1) / chunkSize.toNat + 1) chunkSize.toNat) ∧
    ∀ m chunkSize,
      (MemorySource.live.load chunkSize m).1 = load m.source chunkSize ∧
      (MemorySource.live.load chunkSize m).2 = m.note (load m.source chunkSize).probed ∧
      ∀ start, (MemorySource.live.load chunkSize m).2.probeCount start =
        m.probeCount start + if start ∈ (load m.source chunkSize).probed then 1 else 0 := by
  refine ⟨?_, fun _ _ _ => rfl, ?_, load_probed_ascending, ?_, ?_⟩
  · intro σ S chunkSize s positive
    obtain ⟨n, hprobed, hends⟩ := exists_load_probed (S.replay chunkSize.toNat s) positive
    have hload := S.load_eq chunkSize s
    rw [hprobed] at hload
    exact ⟨n, (congrArg (·.1.probed) hload).trans hprobed, congrArg Prod.snd hload, hends⟩
  · intro source chunkSize
    exact congrArg Prod.fst (LiveSource.load_eq chunkSize ())
  · intro source chunkSize positive hendless
    obtain ⟨n, hprobed, hends⟩ := exists_load_probed source positive
    rw [hprobed, hends.eq_of_endless hendless]
  · intro m chunkSize
    have hload := m.load_live chunkSize
    refine ⟨congrArg Prod.fst hload, congrArg Prod.snd hload, fun start => ?_⟩
    rw [hload]
    exact MemorySource.probeCount_note
      ((load_probed_ascending m.source chunkSize).imp Nat.ne_of_lt) start

end TypeRecovery
