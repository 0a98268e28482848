import TypeRecovery.Arguments

/-!
# The program

Reads the files that a command can see, runs the command on them and writes what it printed.
-/

namespace TypeRecovery

/-! ## Files -/

/-- The files of a directory. Directories in it are not entered. -/
def readEntries (path : String) : IO (List (String × FileEntry)) := do
  let found ← (← IO.FS.realPath path).readDir
  found.toList.mapM fun entry => do
    try return (entry.fileName, .file (← IO.FS.readBinFile entry.path))
    catch _ => return (entry.fileName, .dir [])

/-- What is at a path, if anything is. -/
def readEntry (path : String) : IO (Option FileEntry) := do
  try return some (.dir (← readEntries path))
  catch _ =>
    try return some (.file (← IO.FS.readBinFile path))
    catch _ => return none

/-- A directory without what is in it, if there is one at a path. -/
def readDirectory (path : String) : IO (Option FileEntry) := do
  try
    let _ ← (← IO.FS.realPath path).readDir
    return some (.dir [])
  catch _ => return none

def Invocation.inputs (i : Invocation) : List String :=
  i.config.toList ++
    match i.command with
    | .summary dump memory => dump :: memory.toList
    | .members dump _ | .methods dump _ | .header dump _ => [dump]

/-- Where a command writes to: the path and the directory around it. -/
def Invocation.outputs (i : Invocation) : List String :=
  match i.command with
  | .header _ (some path) =>
    let dir := (path.toList.reverse.dropWhile (· ≠ '/')).reverse
    [if dir.isEmpty then "." else String.ofList dir, path]
  | _ => []

/-- The files that a command can see. -/
def readTree (i : Invocation) : IO FileTree := do
  let mut tree := FileTree.atDirectory (← IO.currentDir).toString
  for path in i.inputs do
    if let some entry ← readEntry path then
      tree := tree.graft path entry
  for path in i.outputs do
    if let some entry ← readDirectory path then
      tree := tree.graft path entry
  return tree

/-! ## Output -/

/-- A line of the log, with levels of one width. -/
def logText (line : LogLine) : String :=
  let level := line.level.text
  "[" ++ level ++ (if level.length < 5 then " " else "") ++ "] " ++ line.message ++ "\n"

/-- The lines to show. JSON comes without any, and details have to be asked for. -/
def shownLines (i : Invocation) (verbose : Bool) (log : List LogLine) : List LogLine :=
  if i.json then [] else log.filter fun line => verbose || line.level != .debug

def failureText (message : String) (cause : Option String) : String :=
  "Error: " ++ message ++ "\n"
    ++ (match cause with
      | some text => "\nCaused by:\n    " ++ text ++ "\n"
      | none => "")

/-! ## Running -/

def writeOutput (written : Option (String × String)) : IO (Option String) := do
  match written with
  | none => return none
  | some (path, text) =>
    try
      IO.FS.writeFile path text
      return none
    catch e => return some (failureText (writeFailure path) (toString e))

def runInvocation (i : Invocation) (verbose : Bool) : IO UInt32 := do
  let result := i.run (← readTree i)
  let refused ← writeOutput result.written
  for line in shownLines i verbose result.log do
    IO.eprint (logText line)
  match result.printed, refused with
  | .ok text, none =>
    IO.print text
    return 0
  | .ok _, some failure =>
    IO.eprint failure
    return 1
  | .error failure, _ =>
    IO.eprint (failureText failure.message (failure.cause.map Error.message))
    return 1

end TypeRecovery

open TypeRecovery in
def main (words : List String) : IO UInt32 := do
  match Request.ofWords words with
  | .ok (.run i verbose) => runInvocation i verbose
  | .ok .help =>
    IO.print helpText
    return 0
  | .ok .version =>
    IO.print versionText
    return 0
  | .error fault =>
    IO.eprint ("error: " ++ fault.message ++ "\n\nFor more information, try '--help'.\n")
    return 2
