import TypeRecovery.Descriptor.Codec
import TypeRecovery.FileTree.Basic

/-!
# Chunk sources

A source knows chunks by their start index. It has a chunk, or none, or cannot read it.
-/

namespace TypeRecovery

structure ChunkSource where
  fetch : Nat → Except Error (Option Chunk)
  location : Nat → String

/-! ## Directories -/

/-- The file of a chunk in a directory. -/
def chunkPath (root : String) (start : Nat) : String := joinPath root s!"{start}.json"

/-- The chunks in the files of a directory. A file that is not there is no chunk. -/
def ChunkSource.ofDirectory (tree : FileTree) (root : String) : ChunkSource where
  location := chunkPath root
  fetch start :=
    match tree.find (chunkPath root start) with
    | .ok (.file bytes) =>
      match Chunk.ofBytes bytes.data.toList with
      | .ok chunk => .ok (some chunk)
      | .error problem => .error (.json problem)
    | .ok (.dir _) => .error (.json .unreadable)
    | .error .notFound => .ok none
    | .error fault => .error (.file fault)

/-! ## Memory -/

/-- Chunks held in memory, and every start that was asked for. -/
structure MemorySource where
  /-- The newest chunk of a start comes first. -/
  chunks : List (Nat × Chunk)
  probed : List Nat

namespace MemorySource

def empty : MemorySource := ⟨[], []⟩

/-- Adds a chunk under a start, whatever start it declares. -/
def insertAt (m : MemorySource) (start : Nat) (chunk : Chunk) : MemorySource :=
  { m with chunks := (start, chunk) :: m.chunks }

/-- Adds a chunk under the start that it declares. -/
def insert (m : MemorySource) (chunk : Chunk) : MemorySource := m.insertAt chunk.start.toNat chunk

def ofChunks (chunks : List Chunk) : MemorySource := chunks.foldl insert empty

def source (m : MemorySource) : ChunkSource where
  location start := s!"<memory>/{start}.json"
  fetch start := .ok (m.chunks.lookup start)

/-- Notes that starts were asked for. -/
def note (m : MemorySource) (starts : List Nat) : MemorySource :=
  { m with probed := m.probed ++ starts }

def probeCount (m : MemorySource) (start : Nat) : Nat := m.probed.count start

end MemorySource

end TypeRecovery
