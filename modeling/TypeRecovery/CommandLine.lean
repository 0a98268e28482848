import TypeRecovery.Header.Basic
import TypeRecovery.Import.Basic
import TypeRecovery.Memory
import TypeRecovery.Text.Table

/-!
# Commands

What the command line does, as a function from the files it can see to what it prints. Each command
imports a dump into an empty program first.
-/

namespace TypeRecovery

/-! ## Invocations -/

inductive Command where
  | summary (dump : String) (memory : Option String)
  | members (dump name : String)
  | methods (dump name : String)
  | header (dump : String) (output : Option String)
  deriving DecidableEq, Repr

structure Invocation where
  command : Command
  config : Option String := none
  json : Bool := false
  deriving DecidableEq, Repr

/-- Why a command failed: what it was doing, and the error that stopped it. -/
structure Failure where
  message : String
  cause : Option Error
  deriving DecidableEq, Repr

/-- What a command prints, the file it wrote, and what it logged. -/
structure CommandResult where
  printed : Except Failure String
  written : Option (String × String)
  log : List LogLine

def CommandResult.of (printed : Except Failure String) (ws : Workspace) : CommandResult :=
  ⟨printed, none, ws.log.toList⟩

/-! ## Importing -/

def loadConfig (tree : FileTree) (path : Option String) : Except Failure ImportConfig :=
  match path with
  | none => .ok {}
  | some path =>
    match ImportConfig.ofFile tree path with
    | .ok config => .ok config
    | .error e => .error ⟨s!"failed to read config: {path}", some e⟩

def mapMemory (tree : FileTree) (dir : Option String) (ws : Workspace) :
    Except Failure (Option MemoryReport) × Workspace :=
  match dir with
  | none => (.ok none, ws)
  | some dir =>
    match importMemory tree dir ws with
    | (.ok report, ws) => (.ok (some report), ws)
    | (.error e, ws) => (.error ⟨s!"failed to import memory: {dir}", some e⟩, ws)

def importFiles (tree : FileTree) (config : ImportConfig) (dump : String) (ws : Workspace) :
    Except Failure ImportSession × Workspace :=
  let done := importDump config (.ofDirectory tree dump) ws
  match done.result with
  | .ok session => (.ok session, done.workspace)
  | .error e => (.error ⟨s!"failed to import TDB: {dump}", some e⟩, done.workspace)

def printValue (json : Bool) (value : Json.Value) (text : String) : String :=
  if json then value.pretty ++ "\n" else text

/-! ## Summaries -/

def hexText (n : Nat) : String := "0x" ++ hex n

def stageColumns : List Column := [⟨"Stage", .left⟩, ⟨"Result", .left⟩, ⟨"Problems", .right⟩]

def memoryRow (r : MemoryReport) : List String :=
  ["memory", s!"{r.imported} regions, {r.bytes} bytes", toString r.failed]

def labelRow (r : LabelReport) : List String := ["labels", toString r.created, toString r.failed]

def functionRow (r : SignatureReport) : List String :=
  [ "functions",
    s!"{r.created} created, {r.renamed} renamed, {r.applied} signatures "
      ++ s!"({r.skipped} without address)",
    toString r.failed ]

/-- A row for each stage that ran. -/
def stageRows (memory : Option MemoryReport) (r : ImportReport) : List (List String) :=
  memory.toList.map memoryRow
    ++ [["types", s!"{r.typeCount} ({r.scalarCount} primitive)", "0"]]
    ++ r.labels.toList.map labelRow
    ++ [ [ "layouts", s!"{r.layouts} ({r.layoutsSkipped} skipped)", toString r.warnings.length ] ]
    ++ r.functions.toList.map functionRow

def warningText (warnings : List LayoutWarning) : String :=
  if warnings.isEmpty then ""
  else "\n" ++ String.join (warnings.map fun w => "  " ++ w.message ++ "\n")

def summaryText (memory : Option MemoryReport) (r : ImportReport) : String :=
  (Table.mk stageColumns (stageRows memory r)).text ++ warningText r.warnings

def summaryJson (memory : Option MemoryReport) (r : ImportReport) : Json.Value :=
  .object [("memory", .ofOption MemoryReport.toJson memory), ("report", r.toJson)]

/-! ## Members -/

def memberColumns : List Column :=
  [⟨"Offset", .right⟩, ⟨"Length", .right⟩, ⟨"Type", .left⟩, ⟨"Name", .left⟩]

def memberRow (p : Program) (m : Member) : List String :=
  [hexText m.offset, hexText m.length, p.typeName m.type, m.name.getD ""]

def membersText (p : Program) (s : Struct) : String :=
  s!"{s.name} ({s.length} bytes)\n"
    ++ (Table.mk memberColumns (s.members.map (memberRow p))).text
    ++ (if s.members.isEmpty then "\nno members, the type has no layout of its own\n" else "")

def memberJson (p : Program) (m : Member) : Json.Value :=
  .object
    [ ("offset", .nat m.offset),
      ("name", .ofOption .string m.name),
      ("data_type", .string (p.typeName m.type)),
      ("length", .nat m.length) ]

def membersJson (p : Program) (s : Struct) : Json.Value :=
  .object
    [ ("name", .string s.name),
      ("size", .nat s.size.toNat),
      ("length", .nat s.length),
      ("members", .ofList (memberJson p) s.members) ]

/-- The structure of a type by its name. -/
def findStruct (p : Program) (session : ImportSession) (name : String) : Except Failure Struct :=
  match session.catalog.find? name with
  | none => .error ⟨s!"type not found: {name}", none⟩
  | some r =>
    match session.handles.get r.index with
    | .scalar kind => .error ⟨s!"{name} is the built-in scalar " ++ kind.text, none⟩
    | .struct handle =>
      match p.struct? handle with
      | some s => .ok s
      | none => .error ⟨s!"no structure for {name}", none⟩

/-! ## Methods -/

/-- A method with its prototype in words. -/
structure MethodEntry where
  address : UInt64
  name : String
  isStatic : Bool
  prototype : String
  deriving DecidableEq, Repr

def prototypeText (p : Program) (name : String) (s : Signature) : String :=
  p.typeName s.result ++ " " ++ name ++ "("
    ++ String.intercalate ", " (s.parameters.map fun x => p.typeName x.type ++ " " ++ x.name) ++ ")"

def methodEntries (p : Program) (session : ImportSession) (owner : session.catalog.Record) :
    List MethodEntry :=
  owner.methods.map fun m =>
    { address := m.address
      name := m.name
      isStatic := m.isStatic
      prototype :=
        prototypeText p (functionName owner m) (signatureOf session.handles owner.index m) }

def methodColumns : List Column := [⟨"Address", .right⟩, ⟨"Kind", .left⟩, ⟨"Signature", .left⟩]

def methodRow (m : MethodEntry) : List String :=
  [ if m.address = 0 then "-" else hexText m.address.toNat,
    if m.isStatic then "static" else "instance",
    m.prototype ]

def methodsText (owner : String) (entries : List MethodEntry) : String :=
  (Table.mk methodColumns (entries.map methodRow)).text
    ++ s!"\n{entries.length} method(s) on {owner}.\n"

def methodJson (m : MethodEntry) : Json.Value :=
  .object
    [ ("address", .nat m.address.toNat),
      ("name", .string m.name),
      ("is_static", .bool m.isStatic),
      ("prototype", .string m.prototype) ]

def methodsJson (owner : String) (entries : List MethodEntry) : Json.Value :=
  .object
    [ ("owner", .string owner),
      ("methods", .ofList methodJson entries),
      ("count", .nat entries.length) ]

/-! ## Running -/

def runSummary (tree : FileTree) (json : Bool) (config : ImportConfig) (dump : String)
    (memory : Option String) : CommandResult :=
  match mapMemory tree memory default with
  | (.error failure, ws) => .of (.error failure) ws
  | (.ok mapped, ws) =>
    match importFiles tree config dump ws with
    | (.error failure, ws) => .of (.error failure) ws
    | (.ok session, ws) =>
      .of (.ok (printValue json (summaryJson mapped session.report)
        (summaryText mapped session.report))) ws

def runMembers (json : Bool) (session : ImportSession) (name : String) (ws : Workspace) :
    CommandResult :=
  let printed := (findStruct ws.program session name).map fun s =>
    printValue json (membersJson ws.program s) (membersText ws.program s)
  .of printed ws

def runMethods (json : Bool) (session : ImportSession) (name : String) (ws : Workspace) :
    CommandResult :=
  match session.catalog.find? name with
  | none => .of (.error ⟨s!"type not found: {name}", none⟩) ws
  | some owner =>
    let entries := methodEntries ws.program session owner
    .of (.ok (printValue json (methodsJson owner.fullName entries)
      (methodsText owner.fullName entries))) ws

def writeFailure (path : String) : String := s!"failed to write header: {path}"

def runHeader (tree : FileTree) (output : Option String) (ws : Workspace) : CommandResult :=
  let text := renderHeader ws.program
  match output with
  | none => .of (.ok text) ws
  | some path =>
    match tree.write path text.toUTF8 with
    | .ok _ =>
      ⟨.ok "", some (path, text),
        (ws.info s!"Wrote {text.utf8ByteSize} bytes to {path}").log.toList⟩
    | .error fault => .of (.error ⟨writeFailure path, some (.file fault)⟩) ws

/-- Runs a command that looks at an imported dump. -/
def withImport (tree : FileTree) (config : ImportConfig) (dump : String)
    (run : ImportSession → Workspace → CommandResult) : CommandResult :=
  match importFiles tree config dump default with
  | (.error failure, ws) => .of (.error failure) ws
  | (.ok session, ws) => run session ws

def Invocation.run (i : Invocation) (tree : FileTree) : CommandResult :=
  match loadConfig tree i.config with
  | .error failure => ⟨.error failure, none, []⟩
  | .ok config =>
    match i.command with
    | .summary dump memory => runSummary tree i.json config dump memory
    | .members dump name => withImport tree config dump fun s ws => runMembers i.json s name ws
    | .methods dump name => withImport tree config dump fun s ws => runMethods i.json s name ws
    | .header dump output => withImport tree config dump fun _ ws => runHeader tree output ws

end TypeRecovery
