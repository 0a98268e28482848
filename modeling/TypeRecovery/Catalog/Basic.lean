import TypeRecovery.Catalog.Loop
import TypeRecovery.Error
import TypeRecovery.Record

/-!
# Catalogs

All types of a dump. A catalog is checked when it is made: each record sits at its own index, every
type that a record refers to is in the catalog, and every base chain ends. Records of a catalog
refer to types by indices below its size, so that looking one up cannot fail.
-/

namespace TypeRecovery

structure Catalog where
  size : Nat
  records : Vector (TypeRecord (Fin size)) size
  placed : ∀ i : Fin size, records[i].index = i
  grounded : ∀ i : Fin size, chainEnds (fun j : Fin size => records[j].base) size i = true

namespace Catalog

abbrev Index (c : Catalog) : Type := Fin c.size

abbrev Record (c : Catalog) : Type := TypeRecord c.Index

/-! ## Looking up -/

def record (c : Catalog) (i : c.Index) : c.Record := c.records[i]

@[simp] theorem index_record (c : Catalog) (i : c.Index) : (c.record i).index = i := c.placed i

def toList (c : Catalog) : List c.Record := c.records.toList

def index? (c : Catalog) (i : Nat) : Option c.Index :=
  if h : i < c.size then some ⟨i, h⟩ else none

def find? (c : Catalog) (name : String) : Option c.Record :=
  c.toList.find? fun r => r.fullName = name

def base? (c : Catalog) (i : c.Index) : Option c.Index := (c.record i).base

/-- A type, its base, the base of that, and so on. -/
def baseChain (c : Catalog) (i : c.Index) : List c.Index := chain c.base? c.size i

/-! ## Checking -/

/-- The first record that does not sit at its own index. -/
def misplaced? (rs : List (TypeRecord Nat)) : Option (TypeRecord Nat × Nat) :=
  rs.zipIdx.find? fun (r, position) => r.index ≠ position

/-- The first reference to a type that is not there. -/
def dangling? (rs : List (TypeRecord Nat)) : Option Nat :=
  (rs.flatMap TypeRecord.references).find? fun i => rs.length ≤ i

/-- The records with references below their number. A reference out of range would be wrapped, but
`dangling?` finds those first. -/
def resolveAll : (rs : List (TypeRecord Nat)) → Vector (TypeRecord (Fin rs.length)) rs.length
  | [] => #v[]
  | r :: rest => ⟨((r :: rest).map (TypeRecord.map (Fin.ofNat (rest.length + 1)))).toArray, by simp⟩

theorem resolveAll_map_val (rs : List (TypeRecord Nat)) (i : Fin rs.length) :
    (resolveAll rs)[i].map Fin.val = rs[i].map (· % rs.length) := by
  cases rs with
  | nil => exact i.elim0
  | cons r rest =>
    simp only [resolveAll, Fin.getElem_fin, Vector.getElem_mk, List.getElem_toArray,
      List.getElem_map, List.length_cons]
    simp [TypeRecord.map, FieldRecord.map, MethodRecord.map, ParamRecord.map, Fin.ofNat,
      Function.comp_def]

/-- A type that its own base chain comes back to. -/
def looping? {n : Nat} (records : Vector (TypeRecord (Fin n)) n) : Option (Fin n) :=
  loop? fun i => records[i].base

theorem index_of_misplaced?_eq_none {rs : List (TypeRecord Nat)} (h : misplaced? rs = none)
    (i : Fin rs.length) : rs[i].index = i := by
  have := List.find?_eq_none.1 h (rs[i], i) (by
    rw [List.mem_zipIdx_iff_getElem?]
    simp)
  simpa using this

theorem placed_of_misplaced?_eq_none {rs : List (TypeRecord Nat)} (h : misplaced? rs = none)
    (i : Fin rs.length) : (resolveAll rs)[i].index = i := by
  apply Fin.ext
  have := congrArg TypeRecord.index (resolveAll_map_val rs i)
  simp only [TypeRecord.map] at this
  rw [this, index_of_misplaced?_eq_none h i, Nat.mod_eq_of_lt i.isLt]

theorem grounded_of_looping?_eq_none {n : Nat} {records : Vector (TypeRecord (Fin n)) n}
    (h : looping? records = none) (i : Fin n) :
    chainEnds (fun j : Fin n => records[j].base) n i = true :=
  chainEnds_of_loop?_eq_none h i

/-- Checks records and makes a catalog of them. Places are checked first, then references, then base
chains. -/
def ofRecords (rs : List (TypeRecord Nat)) : Except Error Catalog :=
  match hp : misplaced? rs with
  | some (r, position) => .error (.malformed (.misplaced r.fullName r.index position))
  | none =>
    match dangling? rs with
    | some i => .error (.invalidTypeIndex i)
    | none =>
      match hg : looping? (resolveAll rs) with
      | some i => .error (.malformed (.inheritanceCycle (resolveAll rs)[i].fullName))
      | none =>
        .ok
          { size := rs.length
            records := resolveAll rs
            placed := placed_of_misplaced?_eq_none hp
            grounded := grounded_of_looping?_eq_none hg }

end Catalog

end TypeRecovery
