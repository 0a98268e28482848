import TypeRecovery.Error
import TypeRecovery.FileTree.Path

/-!
# File trees

The files that a command can see, as a value.
-/

namespace TypeRecovery

inductive FileEntry where
  | file (bytes : ByteArray)
  | dir (entries : List (String × FileEntry))

structure FileTree where
  /-- The entries of the root, in the order in which they were made. -/
  root : List (String × FileEntry) := []
  /-- The steps from the root to the working directory. -/
  here : List String := []

/-! ## Places -/

/-- An entry, with the names that lead to it and the directories around it, innermost first. -/
structure Place where
  trail : List String
  above : List FileEntry
  entry : FileEntry

namespace Place

def up (p : Place) : Place :=
  match p.above with
  | [] => p
  | dir :: above => ⟨p.trail.tail, above, dir⟩

/-- The entries of a place that is a directory. -/
def entries (p : Place) : Except FileFault (List (String × FileEntry)) :=
  match p.entry with
  | .file _ => .error .notADirectory
  | .dir entries => .ok entries

/-- The entry of a name, if the directory has one. -/
def child? (p : Place) (name : String) : Except FileFault (Option FileEntry) := do
  let entries ← p.entries
  if Path.maxNameSize < name.utf8ByteSize then .error .nameTooLong
  else return entries.lookup name

def step (p : Place) (name : String) : Except FileFault Place := do
  let child ← p.child? name
  if name = "." then return p
  else if name = ".." then return p.up
  else
    match child with
    | some entry => return ⟨name :: p.trail, p.entry :: p.above, entry⟩
    | none => .error .notFound

end Place

namespace FileTree

/-- The steps from the root when a path takes these. Only a rooted path starts there. -/
def stepsFrom (tree : FileTree) (rooted : Bool) (steps : List String) : List String :=
  if rooted then steps else tree.here ++ steps

def follow (tree : FileTree) (rooted : Bool) (steps : List String) : Except FileFault Place :=
  (tree.stepsFrom rooted steps).foldlM Place.step ⟨[], [], .dir tree.root⟩

def place (tree : FileTree) (path : Path) : Except FileFault Place := do
  path.check
  tree.follow path.rooted path.walk

/-! ## Reading -/

def find (tree : FileTree) (path : String) : Except FileFault FileEntry :=
  (tree.place (.ofText path)).map Place.entry

def read (tree : FileTree) (path : String) : Except FileFault ByteArray :=
  match tree.find path with
  | .ok (.file bytes) => .ok bytes
  | .ok (.dir _) => .error .isADirectory
  | .error fault => .error fault

def readText (tree : FileTree) (path : String) : Except FileFault String :=
  match tree.read path with
  | .ok bytes =>
    match (Json.Input.ofBytes bytes.data.toList).toString? with
    | some text => .ok text
    | none => .error .invalidText
  | .error fault => .error fault

def list (tree : FileTree) (path : String) : Except FileFault (List (String × FileEntry)) :=
  match tree.find path with
  | .ok (.dir entries) => .ok entries
  | .ok (.file _) => .error .notADirectory
  | .error fault => .error fault

/-! ## Writing -/

def setEntry (name : String) (entry : FileEntry) :
    List (String × FileEntry) → List (String × FileEntry)
  | [] => [(name, entry)]
  | (n, e) :: rest =>
    if n = name then (n, entry) :: rest else (n, e) :: setEntry name entry rest

/-- Sets an entry in the directory at the end of a trail. -/
def setAlong (name : String) (entry : FileEntry) :
    List String → List (String × FileEntry) → List (String × FileEntry)
  | [], entries => setEntry name entry entries
  | dir :: rest, entries =>
    match entries.lookup dir with
    | some (.dir inner) => setEntry dir (.dir (setAlong name entry rest inner)) entries
    | _ => entries

/-- Sets an entry in the directory at a place. -/
def put (tree : FileTree) (around : Place) (name : String) (entry : FileEntry) : FileTree :=
  { tree with root := setAlong name entry around.trail.reverse tree.root }

/-- Makes a directory inside one that is there. One that is there already is left alone. -/
def makeDir (tree : FileTree) (path : Path) : Except FileFault FileTree := do
  path.check
  match path.nameAtEnd? with
  | none =>
    let _ ← tree.place path
    return tree
  | some (steps, name) =>
    let around ← tree.follow path.rooted steps
    match ← around.child? name with
    | some (.dir _) => return tree
    | some (.file _) => .error .alreadyExists
    | none => return tree.put around name (.dir [])

/-- Makes the first of some directories. The others are those around it, innermost first, and are
made before it where they are missing. What was made stays, even if a later one cannot be made. -/
def makeFirst (tree : FileTree) : List Path → Except FileFault Unit × FileTree
  | [] => (.ok (), tree)
  | path :: around =>
    match tree.makeDir path with
    | .ok tree => (.ok (), tree)
    | .error .notFound =>
      match tree.makeFirst around with
      | (.ok _, tree) =>
        match tree.makeDir path with
        | .ok tree => (.ok (), tree)
        | .error fault => (.error fault, tree)
      | failed => failed
    | .error fault => (.error fault, tree)

def makeDirs (tree : FileTree) (path : String) : Except FileFault Unit × FileTree :=
  let path := Path.ofText path
  if path.isBlank then (.ok (), tree) else tree.makeFirst (path :: path.above)

/-- Writes a file into a directory that is there. A path that asks for a directory names no file. -/
def write (tree : FileTree) (path : String) (bytes : ByteArray) : Except FileFault FileTree := do
  let path := Path.ofText path
  path.check
  match path.nameAtEnd? with
  | none =>
    let _ ← tree.place path
    .error .isADirectory
  | some (steps, name) =>
    let around ← tree.follow path.rooted steps
    let _ ← around.entries
    if path.slashed then .error .isADirectory
    else
      match ← around.child? name with
      | some (.dir _) => .error .isADirectory
      | _ => return tree.put around name (.file bytes)

def writeDeep (tree : FileTree) (path : String) (bytes : ByteArray) :
    Except FileFault Unit × FileTree :=
  match tree.makeFirst (Path.ofText path).above with
  | (.ok _, tree) =>
    match tree.write path bytes with
    | .ok tree => (.ok (), tree)
    | .error fault => (.error fault, tree)
  | failed => failed

/-! ## Building -/

/-- Adds entries to those of a directory. A directory that is in both keeps what it held. -/
def addEntries (entries : List (String × FileEntry)) (more : List (String × FileEntry)) :
    List (String × FileEntry) :=
  more.foldl
    (fun done (name, entry) =>
      match done.lookup name, entry with
      | some (.dir _), .dir _ => done
      | _, _ => setEntry name entry done)
    entries

def graftAt (entry : FileEntry) :
    List String → List (String × FileEntry) → List (String × FileEntry)
  | [], entries =>
    match entry with
    | .dir more => addEntries entries more
    | .file _ => entries
  | name :: rest, entries =>
    match rest, entry, entries.lookup name with
    | [], .file bytes, _ => setEntry name (.file bytes) entries
    | _, _, some (.dir inner) => setEntry name (.dir (graftAt entry rest inner)) entries
    | _, _, _ => setEntry name (.dir (graftAt entry rest [])) entries

/-- Adds what was found at a path, and the directories on the way. -/
def graft (tree : FileTree) (path : String) (entry : FileEntry) : FileTree :=
  let path := Path.ofText path
  let steps := Path.plain (tree.stepsFrom path.rooted path.walk)
  { tree with root := graftAt entry steps tree.root }

/-- The tree that holds a working directory and nothing else. -/
def atDirectory (path : String) : FileTree :=
  let here := (Path.ofText path).walk
  { root := graftAt (.dir []) (Path.plain here) [], here := here }

end FileTree

end TypeRecovery
