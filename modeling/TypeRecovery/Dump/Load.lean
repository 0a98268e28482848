import TypeRecovery.Catalog.Basic
import TypeRecovery.Dump.Source
import TypeRecovery.Workspace

/-!
# Loading a dump

Chunks are looked for at zero and then at every multiple of the stride, until one is missing. The
last one found says how many types there are. Each type index has a slot, which has to be filled
once, and then the slots make the catalog.
-/

namespace TypeRecovery

def defaultChunkSize : UInt32 := 1000

/-- Type indices have 32 bits, those at which chunks start as well. -/
def startBound : Nat := UInt32.size

/-! ## Probing -/

/-- What a search for chunks asked for, logged and found. -/
structure Probing where
  probed : List Nat
  log : List LogLine
  chunks : Except Error (List Chunk)

def chunkLines (start : Nat) (chunk : Chunk) : List LogLine :=
  [⟨.info, s!"    {start}"⟩, ⟨.debug, s!"Chunk {start} holds {chunk.types.length} types"⟩]

/-- A chunk found at a start, in front of what else is found. -/
def Probing.behind (start : Nat) (chunk : Chunk) (rest : Probing) : Probing where
  probed := start :: rest.probed
  log := chunkLines start chunk ++ rest.log
  chunks := rest.chunks.map (chunk :: ·)

/-- Looks for chunks from `start` on. Each has to declare the start at which it was found. -/
def probe (source : ChunkSource) (stride : Nat) (positive : 0 < stride) (start : Nat) : Probing :=
  match source.fetch start with
  | .error e => ⟨[start], [], .error e⟩
  | .ok none => ⟨[start], [], .ok []⟩
  | .ok (some chunk) =>
    if chunk.start.toNat ≠ start then
      ⟨[start], [], .error (.malformed (.startMismatch start chunk.start.toNat))⟩
    else if start + stride < startBound then
      (probe source stride positive (start + stride)).behind start chunk
    else ⟨[start], chunkLines start chunk, .ok [chunk]⟩
termination_by startBound - start

/-! ## Slots -/

/-- The index behind a chunk. -/
def Chunk.stop (chunk : Chunk) : Nat := chunk.start.toNat + chunk.types.length

/-- A slot for each type index, which is empty until the type is there. -/
abbrev TypeSlots := Array (Option (TypeRecord Nat))

namespace TypeSlots

/-- Puts the types of a chunk into empty slots, one after another from `position` on. -/
def fill (slots : TypeSlots) (start position : Nat) : List TypeDescriptor → Except Error TypeSlots
  | [] => .ok slots
  | d :: ds =>
    match slots[position]? with
    | none => .error (.malformed (.pastEnd start slots.size))
    | some (some _) => .error (.malformed (.repeated position))
    | some none =>
      if position < startBound then
        fill (slots.set! position (some (.ofDescriptor position d))) start (position + 1) ds
      else .error (.malformed (.beyondIndices position))

def place (slots : TypeSlots) (chunk : Chunk) : Except Error TypeSlots :=
  slots.fill chunk.start.toNat chunk.start.toNat chunk.types

/-- What the slots hold, unless one is empty. -/
def records (slots : TypeSlots) : Except Error (List (TypeRecord Nat)) :=
  slots.toList.zipIdx.mapM fun (slot, position) =>
    match slot with
    | some r => .ok r
    | none => .error (.malformed (.uncovered position))

end TypeSlots

/-- The records of chunks that fill `count` slots. -/
def collect (count : Nat) (chunks : List Chunk) : Except Error (List (TypeRecord Nat)) := do
  let slots ← chunks.foldlM TypeSlots.place (.replicate count none)
  slots.records

/-- The catalog of chunks whose last one ends at `count`. -/
def assemble (count : Nat) (chunks : List Chunk) : Except Error Catalog := do
  Catalog.ofRecords (← collect count chunks)

/-! ## Loading -/

/-- What a load asked the source for, what it logged, and its result. -/
structure Loading where
  probed : List Nat
  log : List LogLine
  result : Except Error Catalog

def load (source : ChunkSource) (chunkSize : UInt32) : Loading :=
  if positive : 0 < chunkSize.toNat then
    let found := probe source chunkSize.toNat positive 0
    match found.chunks with
    | .error e => ⟨found.probed, found.log, .error e⟩
    | .ok chunks =>
      match chunks.getLast? with
      | none => ⟨found.probed, found.log, .error (.missingChunk (source.location 0))⟩
      | some last =>
        ⟨found.probed, found.log ++ [⟨.info, s!"typeCount = {last.stop}"⟩],
          assemble last.stop chunks⟩
  else ⟨[], [], .error .zeroChunkSize⟩

end TypeRecovery
