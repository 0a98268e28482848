import TypeRecovery.Error

/-!
# Paths

A path is a list of steps with slashes between them. A slash in front makes it start at the root,
and a slash at the end asks for a directory. Steps of no characters do not count.
-/

namespace TypeRecovery

structure Path where
  /-- A slash stands in front. -/
  rooted : Bool
  steps : List String
  /-- A slash stands at the end. -/
  slashed : Bool
  deriving DecidableEq, Repr

def joinPath (dir name : String) : String :=
  if dir.isEmpty then name
  else if dir.toList.getLast? = some '/' then dir ++ name
  else dir ++ "/" ++ name

/-- Cuts at slashes. `word` is the part being read, in reverse. -/
def splitSlashes (word : List Char) : List Char → List String
  | [] => [String.ofList word.reverse]
  | c :: rest =>
    if c = '/' then String.ofList word.reverse :: splitSlashes [] rest
    else splitSlashes (c :: word) rest

namespace Path

def ofText (text : String) : Path :=
  let cs := text.toList
  { rooted := cs.head? = some '/',
    steps := (splitSlashes [] cs).filter (· ≠ ""),
    slashed := cs.getLast? = some '/' }

/-- The path of no characters leads nowhere. -/
def isBlank (p : Path) : Bool := !p.rooted && p.steps.isEmpty

/-- The bytes of the path, with one slash wherever there are some. -/
def size (p : Path) : Nat :=
  p.steps.foldl (fun n step => n + 1 + step.utf8ByteSize) (p.rooted.toNat + p.slashed.toNat) - 1

/-- The most bytes that a path can have. -/
def maxSize : Nat := 4095

def maxNameSize : Nat := 255

/-- A path that leads nowhere, whatever the files are, is refused. -/
def check (p : Path) : Except FileFault Unit :=
  if p.steps.any fun step => step.toList.any fun c => c.toNat = 0 then .error .zeroCharacter
  else if maxSize < p.size then .error .nameTooLong
  else if p.isBlank then .error .notFound
  else .ok ()

/-- The steps to take. A slash at the end is a step that stays where it is. -/
def walk (p : Path) : List String := if p.slashed then p.steps ++ ["."] else p.steps

/-- The steps to a directory, and a name in it. A path that ends in a step that stays or goes back
has no such name. -/
def nameAtEnd? (p : Path) : Option (List String × String) :=
  match p.steps.getLast? with
  | some name => if name = "." ∨ name = ".." then none else some (p.steps.dropLast, name)
  | none => none

/-- The directories that a path leads through, innermost first. Steps that stay are left out. -/
def above (p : Path) : List Path :=
  let steps := p.steps.filter (· ≠ ".")
  (List.range steps.length).tail.reverse.map fun n => ⟨p.rooted, steps.take n, false⟩

/-- Steps without those that stay or go back. -/
def plain (steps : List String) : List String :=
  steps.foldl
    (fun done step =>
      if step = "." then done else if step = ".." then done.dropLast else done ++ [step])
    []

end Path

end TypeRecovery
