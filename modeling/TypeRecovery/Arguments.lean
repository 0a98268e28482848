import TypeRecovery.CommandLine

/-!
# Arguments

The words of a command line. An option may stand anywhere, and its value is the next word or comes
behind an equals sign. Behind `--` no word is an option.
-/

namespace TypeRecovery

/-! ## Options -/

inductive OptionKey where
  | json
  | verbose
  | config
  | memory
  | output
  | help
  | version
  deriving DecidableEq, Repr

namespace OptionKey

def all : List OptionKey := [.json, .verbose, .config, .memory, .output, .help, .version]

def long : OptionKey → String
  | .json => "--json"
  | .verbose => "--verbose"
  | .config => "--config"
  | .memory => "--memory"
  | .output => "--output"
  | .help => "--help"
  | .version => "--version"

def short? : OptionKey → Option Char
  | .json => none
  | .verbose => some 'v'
  | .config => some 'c'
  | .memory => some 'm'
  | .output => some 'o'
  | .help => some 'h'
  | .version => some 'V'

/-- What the value of an option is called, if it has one. -/
def value? : OptionKey → Option String
  | .config | .output => some "FILE"
  | .memory => some "DIR"
  | .json | .verbose | .help | .version => none

def text (key : OptionKey) : String :=
  match key.value? with
  | some value => key.long ++ " <" ++ value ++ ">"
  | none => key.long

end OptionKey

/-! ## Faults -/

inductive ArgumentFault where
  | unexpected (word : String)
  | noValue (key : OptionKey)
  | repeated (key : OptionKey)
  | noCommand
  | unknownCommand (word : String)
  | missing (operand : String)
  deriving DecidableEq, Repr

def ArgumentFault.message : ArgumentFault → String
  | .unexpected word => "unexpected argument '" ++ word ++ "' found"
  | .noValue key => "a value is required for '" ++ key.text ++ "' but none was supplied"
  | .repeated key => "the argument '" ++ key.text ++ "' cannot be used multiple times"
  | .noCommand => "a subcommand is required"
  | .unknownCommand word => "unrecognized subcommand '" ++ word ++ "'"
  | .missing operand => "the following required arguments were not provided:\n  " ++ operand

/-! ## Reading -/

structure Arguments where
  words : List String := []
  options : List (OptionKey × String) := []
  /-- The option whose value comes next. -/
  pending : Option OptionKey := none
  /-- Options are over. -/
  literal : Bool := false

namespace Arguments

def value? (a : Arguments) (key : OptionKey) : Option String := a.options.lookup key

def set (a : Arguments) (key : OptionKey) (value : String) : Except ArgumentFault Arguments :=
  if (a.value? key).isSome then .error (.repeated key)
  else .ok { a with options := (key, value) :: a.options, pending := none }

def takeWord (a : Arguments) (word : String) : Arguments := { a with words := a.words ++ [word] }

def takeLong (a : Arguments) (word : String) : Except ArgumentFault Arguments :=
  let cs := word.toList
  let name := String.ofList (cs.takeWhile (· ≠ '='))
  match OptionKey.all.find? (·.long = name), cs.dropWhile (· ≠ '=') with
  | none, _ => .error (.unexpected name)
  | some key, [] => if key.value?.isSome then .ok { a with pending := some key } else a.set key ""
  | some key, _ :: value =>
    if key.value?.isSome then a.set key (String.ofList value) else .error (.unexpected word)

/-- Takes options of one letter. The value of one may follow at once. -/
def takeShort (a : Arguments) : List Char → Except ArgumentFault Arguments
  | [] => .ok a
  | c :: rest =>
    match OptionKey.all.find? (·.short? = some c) with
    | none => .error (.unexpected (String.ofList ['-', c]))
    | some key =>
      if key.value?.isSome then
        match rest with
        | [] => .ok { a with pending := some key }
        | '=' :: value => a.set key (String.ofList value)
        | value => a.set key (String.ofList value)
      else
        match a.set key "" with
        | .ok a => a.takeShort rest
        | .error fault => .error fault

def take (a : Arguments) (word : String) : Except ArgumentFault Arguments :=
  if a.literal then .ok (a.takeWord word)
  else
    match a.pending, word.toList with
    | some key, '-' :: _ :: _ => .error (.noValue key)
    | some key, _ => a.set key word
    | none, ['-', '-'] => .ok { a with literal := true }
    | none, '-' :: '-' :: _ => a.takeLong word
    | none, '-' :: c :: rest => a.takeShort (c :: rest)
    | none, _ => .ok (a.takeWord word)

def ofWords (words : List String) : Except ArgumentFault Arguments := do
  let a ← words.foldlM take {}
  match a.pending with
  | some key => .error (.noValue key)
  | none => return a

/-! ## Requests -/

def dumpOperand : String := "<TDB_DIR>"

def nameOperand : String := "<TYPE>"

def oneOperand (make : String → Command) : List String → Except ArgumentFault Command
  | [] => .error (.missing dumpOperand)
  | [dump] => .ok (make dump)
  | _ :: word :: _ => .error (.unexpected word)

def twoOperands (make : String → String → Command) : List String → Except ArgumentFault Command
  | [] => .error (.missing dumpOperand)
  | [_] => .error (.missing nameOperand)
  | [dump, name] => .ok (make dump name)
  | _ :: _ :: word :: _ => .error (.unexpected word)

def refuse (a : Arguments) (key : OptionKey) : Except ArgumentFault Unit :=
  if (a.value? key).isSome then .error (.unexpected key.long) else .ok ()

def command (a : Arguments) : Except ArgumentFault Command :=
  match a.words with
  | [] => .error .noCommand
  | "import" :: operands => do
    a.refuse .output
    oneOperand (fun dump => .summary dump (a.value? .memory)) operands
  | "header" :: operands => do
    a.refuse .memory
    oneOperand (fun dump => .header dump (a.value? .output)) operands
  | "layout" :: operands => do
    a.refuse .memory
    a.refuse .output
    twoOperands .members operands
  | "methods" :: operands => do
    a.refuse .memory
    a.refuse .output
    twoOperands .methods operands
  | word :: _ => .error (.unknownCommand word)

end Arguments

inductive Request where
  | run (invocation : Invocation) (verbose : Bool)
  | help
  | version
  deriving DecidableEq, Repr

def Request.ofWords (words : List String) : Except ArgumentFault Request := do
  let a ← Arguments.ofWords words
  if (a.value? .help).isSome then return .help
  if (a.value? .version).isSome then return .version
  return .run
    { command := ← a.command, config := a.value? .config, json := (a.value? .json).isSome }
    (a.value? .verbose).isSome

/-! ## Help -/

def helpText : String :=
  String.join
    [ "tdbscope - rebuild type layouts and method signatures from a runtime type database dump\n",
      "\nUsage: tdbscope [OPTIONS] <COMMAND>\n",
      "\nCommands:\n",
      "  import <TDB_DIR>          Run the full import and print a summary of every stage\n",
      "  layout <TDB_DIR> <TYPE>   Show the reconstructed member layout of a type\n",
      "  methods <TDB_DIR> <TYPE>  List the methods of a type with their addresses and signatures\n",
      "  header <TDB_DIR>          Render every structure and function as a C header\n",
      "\nOptions:\n",
      "      --json           Emit output as JSON instead of human-readable text\n",
      "  -v, --verbose        Enable verbose (debug-level) logging output\n",
      "  -c, --config <FILE>  Read the import configuration from a JSON file\n",
      "  -m, --memory <DIR>   Directory of raw memory chunks to map before importing (import)\n",
      "  -o, --output <FILE>  Write the header to a file instead of stdout (header)\n",
      "  -h, --help           Print help\n",
      "  -V, --version        Print version\n" ]

def versionText : String := "tdbscope 0.1.0\n"

end TypeRecovery
