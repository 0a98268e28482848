import TypeRecovery.Header.Basic

/-!
# Structures that a data type mentions

A data type whose structures are all there is spelled by their names, without a substitute for an
unknown one.
-/

namespace TypeRecovery

/-- The structures that a data type mentions, through pointers and arrays. -/
def DataType.handles : DataType → List StructHandle
  | .undefined => []
  | .scalar _ => []
  | .struct k => [k]
  | .pointer target => target.handles
  | .array element _ _ => element.handles

namespace Program

/-! ## Spellings without substitutes -/

/-- The name of a data type. There is none if it mentions an unknown structure. -/
def typeName? (p : Program) : DataType → Option String
  | .undefined => some "undefined"
  | .scalar kind => some kind.cName
  | .struct k => (p.struct? k).map Struct.name
  | .pointer target => (p.typeName? target).map (· ++ " *")
  | .array element count _ => (p.typeName? element).map (· ++ s!"[{count}]")

/-- The C type of a data type. There is none if it mentions an unknown structure. -/
def cType? (p : Program) : DataType → Option CType
  | .undefined => some (.named "undefined")
  | .scalar kind => some (.named kind.cName)
  | .struct k => (p.struct? k).map fun s => .struct (sanitize s.name)
  | .pointer target => (p.cType? target).map .pointer
  | .array element _ _ => (p.cType? element).map .pointer

/-- Neither spelling of the data type has a substitute in it. -/
structure Spells (p : Program) (t : DataType) : Prop where
  typeName : p.typeName? t = some (p.typeName t)
  cType : p.cType? t = some (TypeRecovery.cType p t)

theorem spells_of_known {p : Program} {t : DataType}
    (h : ∀ k ∈ t.handles, ∃ s, p.struct? k = some s) : p.Spells t := by
  induction t with
  | undefined => exact ⟨rfl, rfl⟩
  | scalar kind => exact ⟨rfl, rfl⟩
  | struct k =>
    obtain ⟨s, hs⟩ := h k List.mem_cons_self
    constructor
    · rw [typeName?, Program.typeName, hs]
      rfl
    · rw [cType?, TypeRecovery.cType, hs]
      rfl
  | pointer target ih =>
    obtain ⟨hname, htype⟩ := ih h
    constructor
    · rw [typeName?, hname]
      rfl
    · rw [cType?, htype]
      rfl
  | array element count elementLength ih =>
    obtain ⟨hname, htype⟩ := ih h
    constructor
    · rw [typeName?, hname]
      rfl
    · rw [cType?, htype]
      rfl

end Program

end TypeRecovery
