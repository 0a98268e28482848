import TypeRecovery.Program.Target

/-!
# Workspaces

What a stage works on: the target, and the lines that are logged on the way.
-/

namespace TypeRecovery

inductive LogLevel where
  | debug
  | info
  | warn
  deriving DecidableEq, Repr

def LogLevel.text : LogLevel → String
  | .debug => "DEBUG"
  | .info => "INFO"
  | .warn => "WARN"

structure LogLine where
  level : LogLevel
  message : String
  deriving DecidableEq, Repr

def LogLine.text (line : LogLine) : String := line.level.text ++ " " ++ line.message

structure Workspace where
  target : Target
  log : Array LogLine

namespace Workspace

def ofTarget (t : Target) : Workspace := ⟨t, #[]⟩

instance : Inhabited Workspace := ⟨ofTarget default⟩

def program (ws : Workspace) : Program := ws.target.program

def logLine (ws : Workspace) (level : LogLevel) (message : String) : Workspace :=
  { ws with log := ws.log.push ⟨level, message⟩ }

def debug (ws : Workspace) (message : String) : Workspace := ws.logLine .debug message

def info (ws : Workspace) (message : String) : Workspace := ws.logLine .info message

def warn (ws : Workspace) (message : String) : Workspace := ws.logLine .warn message

def append (ws : Workspace) (lines : List LogLine) : Workspace :=
  { ws with log := ws.log ++ lines.toArray }

def attempt (ws : Workspace) (op : Operation) : Except Error Unit × Workspace :=
  let (result, t) := ws.target.attempt op
  (result, { ws with target := t })

/-- Asks the target for a structure. There is no handle if the target refuses. -/
def define (ws : Workspace) (category name : String) (size : UInt32) (policy : ConflictPolicy) :
    Option StructHandle × Workspace :=
  match ws.attempt (.define category name size policy) with
  | (.ok _, ws) => (ws.program.handleOf? category name, ws)
  | (.error _, ws) => (none, ws)

end Workspace

end TypeRecovery
