import TypeRecovery.Hex
import TypeRecovery.Json.Decode

/-!
# Errors

What can go wrong, as causes. The message of each is fixed text.
-/

namespace TypeRecovery

inductive Malformation where
  | misplaced (name : String) (index position : Nat)
  | inheritanceCycle (name : String)
  | startMismatch (start declared : Nat)
  | pastEnd (start count : Nat)
  | repeated (index : Nat)
  | beyondIndices (index : Nat)
  | uncovered (index : Nat)
  deriving DecidableEq, Repr

def Malformation.message : Malformation → String
  | .misplaced name index position =>
    s!"Type '{name}' carries index {index} but sits at position {position}"
  | .inheritanceCycle name => s!"Inheritance cycle through type '{name}'"
  | .startMismatch start declared => s!"Chunk {start} declares start index {declared}"
  | .pastEnd start count => s!"Chunk {start} extends past the last type index {count}"
  | .repeated index => s!"Type index {index} appears twice"
  | .beyondIndices index => s!"Type index {index} exceeds the index range"
  | .uncovered index => s!"Type index {index} is not in any chunk"

inductive FileFault where
  | notFound
  | notADirectory
  | isADirectory
  | alreadyExists
  | nameTooLong
  /-- A character of the path is zero. -/
  | zeroCharacter
  /-- The bytes are not text. -/
  | invalidText
  deriving DecidableEq, Repr

def FileFault.message : FileFault → String
  | .notFound => "No such file or directory (os error 2)"
  | .notADirectory => "Not a directory (os error 20)"
  | .isADirectory => "Is a directory (os error 21)"
  | .alreadyExists => "File exists (os error 17)"
  | .nameTooLong => "File name too long (os error 36)"
  | .zeroCharacter => "file name contained an unexpected NUL byte"
  | .invalidText => "stream did not contain valid UTF-8"

inductive Error where
  | missingChunk (path : String)
  | typeCreationFailed (name : String)
  | invalidTypeIndex (index : Nat)
  | malformed (cause : Malformation)
  | invalidChunkName (name : String)
  | invalidAddress (address : UInt64)
  | regionOverlap (base : UInt64) (length : Nat)
  | file (fault : FileFault)
  | json (problem : Json.Problem)
  | zeroChunkSize
  | emptyRegion (name : String)
  | unknownHandle (index : Nat)
  /-- The target refused an operation of this kind. -/
  | refused (kind : String)
  | unmappable
  deriving DecidableEq, Repr

def Error.message : Error → String
  | .missingChunk path => s!"Missing TDB chunk - {path}"
  | .typeCreationFailed name => s!"Failed to create structure for type - {name}"
  | .invalidTypeIndex index => s!"Type index out of range - {index}"
  | .malformed cause => cause.message
  | .invalidChunkName name => s!"Invalid memory chunk name - {name}"
  | .invalidAddress address => "Invalid address - 0x" ++ addressHex address
  | .regionOverlap base length =>
    "Memory region 0x" ++ addressHex base ++ "+0x" ++ hex length ++ " overlaps an existing region"
  | .file fault => fault.message
  | .json problem => problem.message
  | .zeroChunkSize => "TDB chunk size must not be zero"
  | .emptyRegion name => s!"Memory region {name} is empty"
  | .unknownHandle index => s!"Unknown structure handle {index}"
  | .refused kind => s!"{kind} refused"
  | .unmappable => "No such device (os error 19)"

end TypeRecovery
