import TypeRecovery.Descriptor.Basic
import TypeRecovery.Json.Decode

/-!
# Descriptors as JSON

Each kind of descriptor has a table of its keys, in the order in which an array would hold them.
Writing uses every key, so that reading what was written needs no default.
-/

namespace TypeRecovery

open Json

/-! ## Keys -/

namespace FieldDescriptor

def keys : List (Json.Field FieldDescriptor) :=
  [ .of "name" true decodeString fun v d => { d with name := v },
    .of "ti" true decodeUInt32 fun v d => { d with type := v },
    .of "position" true decodeUInt32 fun v d => { d with position := v },
    .of "via.clr.FieldFlag" false decodeUInt32 fun v d => { d with flags := v } ]

def decode : Decoder FieldDescriptor := decodeRecord keys {}

def encode (d : FieldDescriptor) : Value :=
  .object
    [ ("name", .string d.name),
      ("ti", .nat d.type.toNat),
      ("position", .nat d.position.toNat),
      ("via.clr.FieldFlag", .nat d.flags.toNat) ]

end FieldDescriptor

namespace ParamDescriptor

def keys : List (Json.Field ParamDescriptor) :=
  [ .of "name" true decodeString fun v d => { d with name := v },
    .of "ti" true decodeUInt32 fun v d => { d with type := v },
    .of "via.clr.ParamModifier" false decodeUInt32 fun v d => { d with modifiers := v } ]

def decode : Decoder ParamDescriptor := decodeRecord keys {}

def encode (d : ParamDescriptor) : Value :=
  .object
    [ ("name", .string d.name),
      ("ti", .nat d.type.toNat),
      ("via.clr.ParamModifier", .nat d.modifiers.toNat) ]

end ParamDescriptor

namespace ReturnDescriptor

def keys : List (Json.Field ReturnDescriptor) :=
  [.of "ti" true decodeUInt32 fun v d => { d with type := v }]

def decode : Decoder ReturnDescriptor := decodeRecord keys {}

def encode (d : ReturnDescriptor) : Value := .object [("ti", .nat d.type.toNat)]

end ReturnDescriptor

namespace MethodDescriptor

def keys : List (Json.Field MethodDescriptor) :=
  [ .of "name" true decodeString fun v d => { d with name := v },
    .of "runtime_address" false decodeUInt64 fun v d => { d with address := v },
    .of "ret" true ReturnDescriptor.decode fun v d => { d with result := v },
    .of "via.clr.MethodFlag" false decodeUInt32 fun v d => { d with flags := v },
    .of "params" false (decodeList ParamDescriptor.decode) fun v d => { d with params := v } ]

def decode : Decoder MethodDescriptor := decodeRecord keys {}

def encode (d : MethodDescriptor) : Value :=
  .object
    [ ("name", .string d.name),
      ("runtime_address", .nat d.address.toNat),
      ("ret", d.result.encode),
      ("via.clr.MethodFlag", .nat d.flags.toNat),
      ("params", .ofList ParamDescriptor.encode d.params) ]

end MethodDescriptor

namespace TypeDescriptor

def keys : List (Json.Field TypeDescriptor) :=
  [ .of "type_def_address" true decodeUInt64 fun v d => { d with definitionAddress := v },
    .of "full_name" true decodeString fun v d => { d with fullName := v },
    .of "via.clr.VMObjType" true decodeUInt32 fun v d => { d with objectKind := v },
    .of "len" true decodeUInt32 fun v d => { d with length := v },
    .of "runtime_len" true decodeUInt32 fun v d => { d with runtimeLength := v },
    .of "via.clr.SystemType" true decodeUInt32 fun v d => { d with systemType := v },
    .of "generics" false (decodeNullable decodeValue) fun v d => { d with generics := v },
    .of "ti_base" false (decodeNullable decodeUInt32) fun v d => { d with base := v },
    .of "ti_dearray" false (decodeNullable decodeUInt32) fun v d => { d with element := v },
    .of "fields" false (decodeList FieldDescriptor.decode) fun v d => { d with fields := v },
    .of "methods" false (decodeList MethodDescriptor.decode) fun v d => { d with methods := v } ]

def decode : Decoder TypeDescriptor := decodeRecord keys {}

def encode (d : TypeDescriptor) : Value :=
  .object
    [ ("type_def_address", .nat d.definitionAddress.toNat),
      ("full_name", .string d.fullName),
      ("via.clr.VMObjType", .nat d.objectKind.toNat),
      ("len", .nat d.length.toNat),
      ("runtime_len", .nat d.runtimeLength.toNat),
      ("via.clr.SystemType", .nat d.systemType.toNat),
      ("generics", d.generics.getD .null),
      ("ti_base", .ofOption (fun i => .nat i.toNat) d.base),
      ("ti_dearray", .ofOption (fun i => .nat i.toNat) d.element),
      ("fields", .ofList FieldDescriptor.encode d.fields),
      ("methods", .ofList MethodDescriptor.encode d.methods) ]

end TypeDescriptor

namespace Chunk

def keys : List (Json.Field Chunk) :=
  [ .of "start_index" true decodeUInt32 fun v d => { d with start := v },
    .of "types" true (decodeList TypeDescriptor.decode) fun v d => { d with types := v } ]

def decode : Decoder Chunk := decodeRecord keys {}

def encode (c : Chunk) : Value :=
  .object [("start_index", .nat c.start.toNat), ("types", .ofList TypeDescriptor.encode c.types)]

def ofText (text : String) : Except Problem Chunk := decodeText decode text

/-- The chunk that a file's bytes hold. -/
def ofBytes (bytes : List UInt8) : Except Problem Chunk := decodeInput decode (.ofBytes bytes)

end Chunk

end TypeRecovery
