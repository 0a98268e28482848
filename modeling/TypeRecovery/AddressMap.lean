/-!
# Maps from addresses

Entries stand in ascending order of their addresses, each address once, so a map is determined by
what it holds at every address.
-/

namespace TypeRecovery

structure AddressMap (α : Type) where
  entries : List (UInt64 × α)
  ascending : entries.Pairwise fun a b => a.1 < b.1

namespace AddressMap

variable {α : Type}

def empty : AddressMap α := ⟨[], .nil⟩

instance : Inhabited (AddressMap α) := ⟨empty⟩

def lookupIn (address : UInt64) : List (UInt64 × α) → Option α
  | [] => none
  | (a, x) :: rest => if address = a then some x else lookupIn address rest

def find? (m : AddressMap α) (address : UInt64) : Option α := lookupIn address m.entries

def contains (m : AddressMap α) (address : UInt64) : Bool := (m.find? address).isSome

def size (m : AddressMap α) : Nat := m.entries.length

/-- What is held, in order of the addresses. -/
def values (m : AddressMap α) : List α := m.entries.map Prod.snd

/-- Puts an entry in its place. An equal address gives way. -/
def insertInto (address : UInt64) (x : α) : List (UInt64 × α) → List (UInt64 × α)
  | [] => [(address, x)]
  | (a, y) :: rest =>
    if address < a then (address, x) :: (a, y) :: rest
    else if address = a then (address, x) :: rest
    else (a, y) :: insertInto address x rest

theorem mem_insertInto {address : UInt64} {x : α} {e : UInt64 × α} {l : List (UInt64 × α)}
    (h : e ∈ insertInto address x l) : e = (address, x) ∨ e ∈ l := by
  induction l with
  | nil => simpa [insertInto] using h
  | cons hd tl ih =>
    obtain ⟨a, y⟩ := hd
    simp only [insertInto] at h
    split at h
    · simpa using h
    · split at h
      · simp only [List.mem_cons] at h ⊢
        exact h.imp_right Or.inr
      · simp only [List.mem_cons] at h ⊢
        rcases h with h | h
        · exact Or.inr (Or.inl h)
        · exact (ih h).imp_right Or.inr

theorem insertInto_ascending {address : UInt64} {x : α} {l : List (UInt64 × α)}
    (h : l.Pairwise fun a b => a.1 < b.1) :
    (insertInto address x l).Pairwise fun a b => a.1 < b.1 := by
  induction l with
  | nil => simp [insertInto]
  | cons hd tl ih =>
    obtain ⟨a, y⟩ := hd
    rw [List.pairwise_cons] at h
    simp only [insertInto]
    split
    · rename_i lt
      refine List.pairwise_cons.2 ⟨fun e he => ?_, List.pairwise_cons.2 h⟩
      rcases List.mem_cons.1 he with rfl | he
      · exact lt
      · exact UInt64.lt_trans lt (h.1 e he)
    · split
      · rename_i _ eq
        exact List.pairwise_cons.2 ⟨fun e he => eq ▸ h.1 e he, h.2⟩
      · rename_i ge ne
        refine List.pairwise_cons.2 ⟨fun e he => ?_, ih h.2⟩
        rcases mem_insertInto he with rfl | he
        · exact UInt64.lt_of_le_of_ne (UInt64.not_lt.1 ge) (Ne.symm ne)
        · exact h.1 e he

def insert (m : AddressMap α) (address : UInt64) (x : α) : AddressMap α :=
  ⟨insertInto address x m.entries, insertInto_ascending m.ascending⟩

@[simp] theorem find?_empty (address : UInt64) : (empty : AddressMap α).find? address = none := rfl

theorem lookupIn_insertInto (a b : UInt64) (x : α) (l : List (UInt64 × α)) :
    lookupIn b (insertInto a x l) = if b = a then some x else lookupIn b l := by
  induction l with
  | nil => simp [insertInto, lookupIn]
  | cons hd tl ih =>
    obtain ⟨c, y⟩ := hd
    simp only [insertInto]
    split
    · simp only [lookupIn]
    · split
      · rename_i eq
        subst eq
        by_cases h : b = a <;> simp [lookupIn, h]
      · rename_i ne
        by_cases h : b = c
        · subst h
          simp [lookupIn, Ne.symm ne]
        · simp [lookupIn, h, ih]

theorem find?_insert (m : AddressMap α) (a b : UInt64) (x : α) :
    (m.insert a x).find? b = if b = a then some x else m.find? b :=
  lookupIn_insertInto a b x m.entries

end AddressMap

end TypeRecovery
