import TypeRecovery.Dump.Load
import TypeRecovery.Layout.Basic

/-!
# Import configuration

Every key may be left out of a configuration file.
-/

namespace TypeRecovery

structure ImportConfig where
  /-- Distance between the start indices of two chunks. -/
  chunkSize : UInt32 := defaultChunkSize
  /-- Where structures go. -/
  category : String := "/TDB"
  /-- What a type definition label starts with. -/
  labelStart : String := "TypeDef:"
  /-- How many elements an array container shows. -/
  sampleLength : UInt32 := defaultSampleLength
  /-- Types between two progress lines, or zero for none. -/
  progressInterval : UInt64 := 1000
  labelTypes : Bool := true
  applySignatures : Bool := true
  deriving DecidableEq, Repr

namespace ImportConfig

open Json

def keys : List (Json.Field ImportConfig) :=
  [ .of "chunk_size" false decodeUInt32 fun v c => { c with chunkSize := v },
    .of "category" false decodeString fun v c => { c with category := v },
    .of "label_prefix" false decodeString fun v c => { c with labelStart := v },
    .of "dearray_sample_len" false decodeUInt32 fun v c => { c with sampleLength := v },
    .of "progress_interval" false decodeUInt64 fun v c => { c with progressInterval := v },
    .of "label_types" false decodeBool fun v c => { c with labelTypes := v },
    .of "apply_signatures" false decodeBool fun v c => { c with applySignatures := v } ]

def decode : Decoder ImportConfig := decodeRecord keys {}

def encode (c : ImportConfig) : Value :=
  .object
    [ ("chunk_size", .nat c.chunkSize.toNat),
      ("category", .string c.category),
      ("label_prefix", .string c.labelStart),
      ("dearray_sample_len", .nat c.sampleLength.toNat),
      ("progress_interval", .nat c.progressInterval.toNat),
      ("label_types", .bool c.labelTypes),
      ("apply_signatures", .bool c.applySignatures) ]

def ofText (text : String) : Except Problem ImportConfig := decodeText decode text

/-- The configuration with one key set. A key that is not there changes nothing. -/
def set (c : ImportConfig) (key : String) (value : Value) : Except Problem ImportConfig :=
  match keys.find? (·.key = key) with
  | some field => field.put maxDepth (Node.ofValue value) c
  | none => .ok c

def ofFile (tree : FileTree) (path : String) : Except Error ImportConfig :=
  match tree.readText path with
  | .error fault => .error (.file fault)
  | .ok text =>
    match ofText text with
    | .ok config => .ok config
    | .error problem => .error (.json problem)

end ImportConfig

end TypeRecovery
