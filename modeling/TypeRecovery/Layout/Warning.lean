import TypeRecovery.Hex
import TypeRecovery.Json.Value

/-!
# Layout warnings

What is wrong with a type's fields, without stopping the import.
-/

namespace TypeRecovery

inductive LayoutWarning where
  /-- A field starts before the end of what is placed and was left out. -/
  | overlap (typeName fieldName : String) (offset : Int) (cursor : Nat)
  /-- The placed fields end behind the declared size. -/
  | overflow (typeName : String) (occupied : Nat) (size : UInt32)
  deriving DecidableEq, Repr

namespace LayoutWarning

def message : LayoutWarning → String
  | .overlap typeName fieldName offset cursor =>
    s!"skipped field {fieldName} for type {typeName} because of overlap (offset 0x"
      ++ offsetHex offset ++ ", occupied up to 0x" ++ hex cursor ++ ")"
  | .overflow typeName occupied size =>
    s!"member overflow size for type {typeName} (0x" ++ hex occupied ++ " > 0x" ++ hex size.toNat
      ++ ")"

def toJson : LayoutWarning → Json.Value
  | .overlap typeName fieldName offset cursor =>
    .object
      [ ("kind", .string "Overlap"),
        ("type_name", .string typeName),
        ("field_name", .string fieldName),
        ("offset", .int offset),
        ("cursor", .nat cursor) ]
  | .overflow typeName occupied size =>
    .object
      [ ("kind", .string "Overflow"),
        ("type_name", .string typeName),
        ("occupied", .nat occupied),
        ("size", .nat size.toNat) ]

end LayoutWarning

end TypeRecovery
