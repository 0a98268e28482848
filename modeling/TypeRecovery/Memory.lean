import TypeRecovery.FileTree.Basic
import TypeRecovery.Workspace

/-!
# Memory dumps

A memory dump is a directory of files. The name of each is the address of its first byte, in sixteen
lowercase hex digits, and then `.bin`. Other files are passed over.
-/

namespace TypeRecovery

/-! ## Names -/

def chunkExtension : List Char := ['.', 'b', 'i', 'n']

/-- The file name for an address. -/
def memoryFileName (address : UInt64) : String :=
  String.ofList (fixedHex 16 address.toNat ++ chunkExtension)

/-- The address that a file name stands for. -/
def parseMemoryFileName (name : String) : Except Error UInt64 :=
  let cs := name.toList
  if cs.drop 16 = chunkExtension then
    match ofHexFrom 0 (cs.take 16) with
    | some n => .ok (UInt64.ofNat n)
    | none => .error (.invalidChunkName name)
  else .error (.invalidChunkName name)

/-! ## Finding -/

structure MemoryFile where
  path : String
  name : String
  base : UInt64
  deriving DecidableEq, Repr

/-- Sorts out the entries of a directory: the files to map, and a line for each file that is none.
Directories are passed over in silence. -/
def sortEntries (dir : String) : List (String × FileEntry) → List MemoryFile × List LogLine
  | [] => ([], [])
  | (_, .dir _) :: rest => sortEntries dir rest
  | (name, .file _) :: rest =>
    let (files, lines) := sortEntries dir rest
    match parseMemoryFileName name with
    | .ok base => (⟨joinPath dir name, name, base⟩ :: files, lines)
    | .error _ => (files, ⟨.debug, s!"Skipping {name}, not a memory chunk"⟩ :: lines)

/-- The files of a memory dump by ascending address. -/
def findMemoryFiles (tree : FileTree) (dir : String) :
    Except Error (List MemoryFile × List LogLine) :=
  match tree.list dir with
  | .error fault => .error (.file fault)
  | .ok entries =>
    let (files, lines) := sortEntries dir entries
    .ok (files.mergeSort fun a b => a.base ≤ b.base, lines)

/-- The bytes of a file, as mapped into memory. -/
def mapFile (tree : FileTree) (path : String) : Except Error ByteArray :=
  match tree.find path with
  | .ok (.file bytes) => .ok bytes
  | .ok (.dir _) => .error .unmappable
  | .error fault => .error (.file fault)

/-! ## Importing -/

structure MemoryReport where
  imported : Nat := 0
  /-- Files that could not be read or mapped. -/
  failed : Nat := 0
  bytes : Nat := 0
  deriving DecidableEq, Repr

def MemoryReport.toJson (r : MemoryReport) : Json.Value :=
  .object
    [ ("imported", .nat r.imported),
      ("failed", .nat r.failed),
      ("bytes", .nat r.bytes) ]

def importMemoryFile (tree : FileTree) (report : MemoryReport) (file : MemoryFile)
    (ws : Workspace) : MemoryReport × Workspace :=
  let ws := ws.info s!"Importing {file.name}"
  match mapFile tree file.path with
  | .error e =>
    ({ report with failed := report.failed + 1 },
      ws.warn (s!"could not read {file.path}: " ++ e.message))
  | .ok data =>
    match ws.attempt (.mapRegion file.name file.base data .all) with
    | (.ok _, ws) =>
      ({ report with imported := report.imported + 1, bytes := report.bytes + data.size }, ws)
    | (.error e, ws) =>
      ({ report with failed := report.failed + 1 },
        ws.warn (s!"could not create region {file.name} at 0x" ++ addressHex file.base ++ ": "
          ++ e.message))

def importMemory (tree : FileTree) (dir : String) (ws : Workspace) :
    Except Error MemoryReport × Workspace :=
  match findMemoryFiles tree dir with
  | .error e => (.error e, ws)
  | .ok (files, lines) =>
    let (report, ws) :=
      files.foldl (fun (report, ws) file => importMemoryFile tree report file ws)
        ({}, ws.append lines)
    (.ok report, ws.info "Done")

end TypeRecovery
