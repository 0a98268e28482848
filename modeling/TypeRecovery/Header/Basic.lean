import TypeRecovery.Header.Identifier
import TypeRecovery.Program.Basic

/-!
# C headers

A program as a C header. All structures are declared first, so that they may point at each other,
then they are defined in the order in which they were made, then come the prototypes of all
functions that have a signature. Within a structure a name that was used already gets the offset of
its member behind it.
-/

namespace TypeRecovery

/-! ## C types and declarations -/

inductive CType where
  | named (name : String)
  | struct (tag : String)
  | pointer (target : CType)
  deriving DecidableEq, Repr

def CType.text : CType → String
  | .named name => name
  | .struct tag => "struct " ++ tag
  | .pointer target => target.text ++ "*"

/-- A declared name. `count` makes it an array. -/
structure CDeclaration where
  type : CType
  name : String
  count : Option Nat
  deriving DecidableEq, Repr

def CDeclaration.text (d : CDeclaration) : String :=
  match d.count with
  | some n => d.type.text ++ " " ++ d.name ++ s!"[{n}]"
  | none => d.type.text ++ " " ++ d.name

/-- The C type of a data type. An array inside another type decays to a pointer. -/
def cType (p : Program) : DataType → CType
  | .undefined => .named "undefined"
  | .scalar kind => .named kind.cName
  | .struct h =>
    match p.struct? h with
    | some s => .struct (sanitize s.name)
    | none => .named "undefined"
  | .pointer target => .pointer (cType p target)
  | .array element _ _ => .pointer (cType p element)

def declare (p : Program) (name : String) : DataType → CDeclaration
  | .array element count _ => ⟨cType p element, name, some count⟩
  | type => ⟨cType p type, name, none⟩

/-! ## Structures -/

structure CMember where
  declaration : CDeclaration
  offset : Nat
  deriving DecidableEq, Repr

structure CStruct where
  category : String
  length : Nat
  tag : String
  members : List CMember
  deriving DecidableEq, Repr

/-- The name of a member before repeats are told apart. -/
def memberWord (m : Member) : String :=
  match m.name with
  | some name => sanitize name
  | none => "_pad_" ++ hex m.offset

/-- The name of a member where `used` are taken. -/
def memberName (used : List String) (m : Member) : String :=
  if memberWord m ∈ used then memberWord m ++ "_" ++ hex m.offset else memberWord m

def memberNames : List String → List Member → List String
  | _, [] => []
  | used, m :: rest => memberName used m :: memberNames (memberName used m :: used) rest

def declareMember (p : Program) (m : Member) (name : String) : CMember :=
  ⟨declare p name m.type, m.offset⟩

def defineStruct (p : Program) (s : Struct) : CStruct :=
  ⟨s.category, s.length, sanitize s.name,
    List.zipWith (declareMember p) s.members (memberNames [] s.members)⟩

def CMember.text (m : CMember) : String :=
  "    " ++ m.declaration.text ++ "; /* 0x" ++ hex m.offset ++ " */\n"

/-- A category with a slash behind it. -/
def categoryPath (category : String) : String :=
  if category.toList.getLast? = some '/' then category else category ++ "/"

def CStruct.text (s : CStruct) : String :=
  "/* " ++ categoryPath s.category ++ " (0x" ++ hex s.length ++ " bytes) */\n"
    ++ "struct " ++ s.tag ++ " \x7b\n"
    ++ String.join (s.members.map CMember.text)
    ++ "\x7d;\n\n"

/-! ## Functions -/

structure CPrototype where
  address : UInt64
  result : CType
  name : String
  parameters : List CDeclaration
  deriving DecidableEq, Repr

def prototype? (p : Program) (f : Function) : Option CPrototype :=
  f.signature.map fun s =>
    ⟨f.address, cType p s.result, sanitize f.name,
      s.parameters.map fun x => declare p (sanitize x.name) x.type⟩

def CPrototype.parameterText (f : CPrototype) : String :=
  if f.parameters.isEmpty then "void"
  else String.intercalate ", " (f.parameters.map CDeclaration.text)

def CPrototype.text (f : CPrototype) : String :=
  "/* 0x" ++ addressHex f.address ++ " */ " ++ f.result.text ++ " " ++ f.name
    ++ "(" ++ f.parameterText ++ ");\n"

/-! ## Headers -/

structure CHeader where
  structs : List CStruct
  prototypes : List CPrototype
  deriving DecidableEq, Repr

def CHeader.ofProgram (p : Program) : CHeader :=
  ⟨p.structs.toList.map (defineStruct p), p.functions.values.filterMap (prototype? p)⟩

def headerStart : String :=
  "/* Generated by tdbscope */\n#pragma once\n\n#include <stdbool.h>\n#include <stdint.h>\n\n"
    ++ "typedef uint8_t undefined;\n\n"

def CHeader.text (h : CHeader) : String :=
  headerStart
    ++ String.join (h.structs.map fun s => "struct " ++ s.tag ++ ";\n")
    ++ "\n"
    ++ String.join (h.structs.map CStruct.text)
    ++ String.join (h.prototypes.map CPrototype.text)

def renderHeader (p : Program) : String := (CHeader.ofProgram p).text

end TypeRecovery
