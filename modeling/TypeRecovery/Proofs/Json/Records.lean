import TypeRecovery.Proofs.Json.Values

/-!
# Reading records

A record whose keys stand in the order of its table is read field by field. However a record is
read, what every field keeps is kept.
-/

namespace TypeRecovery.Json

/-! ## Scalars and lists -/

section

variable {α : Type} {depth : Nat}

theorem decodeBelow_nat {bound n : Nat} (h : n < bound) :
    decodeBelow bound (Node.ofValue (.nat n)) = .ok n := by
  unfold Value.nat
  rw [Node.ofValue, decodeBelow, Number.natural?_ofNat]
  exact if_pos h

theorem decodeUInt32_nat (depth : Nat) (n : UInt32) :
    decodeUInt32 depth (Node.ofValue (.nat n.toNat)) = .ok n := by
  unfold decodeUInt32
  rw [decodeBelow_nat n.toNat_lt, Except.map, UInt32.ofNat_toNat]

theorem decodeUInt64_nat (depth : Nat) (n : UInt64) :
    decodeUInt64 depth (Node.ofValue (.nat n.toNat)) = .ok n := by
  unfold decodeUInt64
  rw [decodeBelow_nat n.toNat_lt, Except.map, UInt64.ofNat_toNat]

theorem decodeNullable_ofOption {decode : Decoder α} {encode : α → Value} {a? : Option α}
    (h : ∀ a, a? = some a → encode a ≠ .null ∧ decode depth (Node.ofValue (encode a)) = .ok a) :
    decodeNullable decode depth (Node.ofValue (.ofOption encode a?)) = .ok a? := by
  cases a? with
  | none => rfl
  | some a =>
    obtain ⟨hnull, hread⟩ := h a rfl
    rw [Value.ofOption, decodeNullable, hread]
    · rfl
    · intro hnode
      cases hvalue : encode a <;> rw [hvalue] at hnode hnull <;> cases hnode
      exact hnull rfl

theorem decodeItems_ofItems {decode : Node → Except Problem α} {encode : α → Value} {as : List α}
    (h : ∀ a ∈ as, decode (Node.ofValue (encode a)) = .ok a) :
    decodeItems decode (Node.ofItems (as.map encode)) = .ok as := by
  induction as with
  | nil => rfl
  | cons a as ih =>
    rw [List.map_cons, Node.ofItems, decodeItems, h a (.head as), ih fun b hb => h b (.tail a hb)]
    rfl

theorem decodeList_ofList {decode : Decoder α} {encode : α → Value} {as : List α}
    (h : ∀ a ∈ as, decode depth (Node.ofValue (encode a)) = .ok a) :
    decodeList decode (depth + 1) (Node.ofValue (.ofList encode as)) = .ok as := by
  rw [Value.ofList, Node.ofValue, decodeList, decodeItems_ofItems h]
  rfl

end

/-! ## Records in order -/

section

variable {α : Type} {fields : List (Field α)} {depth : Nat}

/-- The members of a record, in the order of its table. -/
def inOrder (fields : List (Field α)) (values : List Value) : List (String × Value) :=
  (fields.map Field.key).zip values

/-- Puts the values of fields into a record, one field after the other. -/
def putAll (depth : Nat) : List (Field α) → List Value → α → Except Problem α
  | field :: fields, v :: values, a => do
    let a ← field.put depth (Node.ofValue v) a
    putAll depth fields values a
  | _, _, a => .ok a

theorem key_not_mem {before after : List (Field α)} {field : Field α}
    (hkeys : ((before ++ field :: after).map Field.key).Nodup) :
    field.key ∉ before.map Field.key := by
  rw [List.map_append, List.map_cons, List.nodup_append] at hkeys
  exact fun h => hkeys.2.2 _ h _ (.head _) rfl

theorem find?_key {before after : List (Field α)} {field : Field α}
    (hkeys : ((before ++ field :: after).map Field.key).Nodup) :
    (before ++ field :: after).find? (fun f => f.key = field.key) = some field := by
  have hbefore : before.find? (fun f => f.key = field.key) = none := by
    rw [List.find?_eq_none]
    intro f hf heq
    exact key_not_mem hkeys (List.mem_map.2 ⟨f, hf, by simpa using heq⟩)
  rw [List.find?_append, hbefore, Option.none_or, List.find?_cons_of_pos (by simp)]

theorem decodeMembers_inOrder {before after : List (Field α)}
    (hkeys : ((before ++ after).map Field.key).Nodup) {values : List Value}
    (hlength : values.length = after.length) (a : α) :
    decodeMembers (before ++ after) depth (before.map Field.key).reverse a
        (Node.ofMembers (inOrder after values)) =
      (putAll depth after values a).map fun a => (((before ++ after).map Field.key).reverse, a) := by
  induction after generalizing before values a with
  | nil =>
    rw [List.append_nil]
    rfl
  | cons field after ih =>
    cases values with
    | nil => cases hlength
    | cons v values =>
      have hseen : field.key ∉ (before.map Field.key).reverse := fun h =>
        key_not_mem hkeys (List.mem_reverse.1 h)
      have hkeys' : ((before ++ [field] ++ after).map Field.key).Nodup := by
        rwa [← List.append_cons]
      have hrest := ih hkeys' (Nat.succ.inj hlength)
      rw [List.map_append, List.map_singleton, List.reverse_concat, ← List.append_cons] at hrest
      rw [inOrder, List.map_cons, List.zip_cons_cons, Node.ofMembers, decodeMembers, find?_key hkeys]
      simp only [if_neg hseen, putAll]
      cases field.put depth (Node.ofValue v) a with
      | error e => rfl
      | ok a => exact hrest a

theorem checkMissing_all : checkMissing fields (fields.map Field.key).reverse = .ok () := by
  have hnone : fields.find? (fun field => field.required &&
      !(fields.map Field.key).reverse.contains field.key) = none := by
    rw [List.find?_eq_none]
    intro field hfield
    have hmem : field.key ∈ (fields.map Field.key).reverse :=
      List.mem_reverse.2 (List.mem_map_of_mem hfield)
    simp [hmem]
  unfold checkMissing
  rw [hnone]

theorem decodeRecord_inOrder (hkeys : (fields.map Field.key).Nodup) {values : List Value}
    (hlength : values.length = fields.length) (blank : α) :
    decodeRecord fields blank (depth + 1) (Node.ofValue (.object (inOrder fields values))) =
      putAll depth fields values blank := by
  have hmembers := @decodeMembers_inOrder _ depth [] _ hkeys _ hlength blank
  rw [List.nil_append, List.map_nil, List.reverse_nil] at hmembers
  rw [Node.ofValue, decodeRecord, hmembers]
  cases putAll depth fields values blank with
  | error e => rfl
  | ok a =>
    simp only [Except.map, bind, Except.bind, checkEnd, checkMissing_all]
    rfl

end

/-! ## What a record keeps -/

section

variable {α : Type} {fields : List (Field α)} {P : α → Prop} {depth : Nat}

/-- A field that keeps a property of the record, whatever well-formed node it is read from. -/
def Field.Keeps (P : α → Prop) (depth : Nat) (field : Field α) : Prop :=
  ∀ node a a', node.WellFormed → P a → field.put depth node a = .ok a' → P a'

theorem Field.keeps_of {β : Type} {key : String} {required : Bool} {decode : Decoder β}
    {set : β → α → α}
    (h : ∀ node b a, node.WellFormed → P a → decode depth node = .ok b → P (set b a)) :
    (Field.of key required decode set).Keeps P depth := by
  intro node a a' hnode ha hput
  obtain ⟨b, hb, rfl⟩ := exceptMap_eq_ok_iff.1 hput
  exact h node b a hnode ha hb

theorem decodeMembers_keeps (hfields : ∀ field ∈ fields, field.Keeps P depth)
    {members : List (Option String × Node)} (hmembers : ∀ m ∈ members, m.2.WellFormed)
    {seen : List String} {a : α} (ha : P a) {result : List String × α}
    (h : decodeMembers fields depth seen a members = .ok result) : P result.2 := by
  induction members generalizing seen a with
  | nil =>
    cases h
    exact ha
  | cons m members ih =>
    obtain ⟨_ | key, node⟩ := m
    · cases h
    · have hrest : ∀ m ∈ members, m.2.WellFormed := fun m hm => hmembers m (.tail _ hm)
      rw [decodeMembers] at h
      split at h
      · obtain ⟨_, -, h⟩ := exists_of_bind_eq_ok h
        exact ih hrest ha h
      · next field hfield =>
        split at h
        · cases h
        · obtain ⟨a', hput, h⟩ := exists_of_bind_eq_ok h
          have hkeeps := hfields field (List.mem_of_find?_eq_some hfield)
          exact ih hrest (hkeeps node a a' (hmembers _ (.head members)) ha hput) h

theorem decodePositions_keeps (hfields : ∀ field ∈ fields, field.Keeps P depth)
    {items : List Node} (hitems : ∀ node ∈ items, node.WellFormed) {stop : Option Break} {a a' : α}
    (ha : P a) (h : decodePositions depth stop a fields items = .ok a') : P a' := by
  induction fields generalizing items a with
  | nil =>
    cases items with
    | nil =>
      obtain ⟨_, -, h⟩ := exists_of_bind_eq_ok h
      cases h
      exact ha
    | cons node items => cases h
  | cons field fields ih =>
    have hrest : ∀ field ∈ fields, field.Keeps P depth := fun f hf => hfields f (.tail field hf)
    cases items with
    | nil =>
      obtain ⟨_, -, h⟩ := exists_of_bind_eq_ok h
      split at h
      · cases h
      · exact ih hrest hitems ha h
    | cons node items =>
      obtain ⟨a₁, hput, h⟩ := exists_of_bind_eq_ok h
      have ha₁ := hfields field (.head fields) node a a₁ (hitems node (.head items)) ha hput
      exact ih hrest (fun x hx => hitems x (.tail node hx)) ha₁ h

theorem decodeRecord_keeps (hfields : ∀ field ∈ fields, field.Keeps P depth) {blank : α}
    (hblank : P blank) {node : Node} (hnode : node.WellFormed) {a : α}
    (h : decodeRecord fields blank (depth + 1) node = .ok a) : P a := by
  cases hnode with
  | object stop hmembers =>
    obtain ⟨⟨seen, a'⟩, hmember, h⟩ := exists_of_bind_eq_ok h
    obtain ⟨_, -, h⟩ := exists_of_bind_eq_ok h
    obtain ⟨_, -, h⟩ := exists_of_bind_eq_ok h
    cases h
    exact decodeMembers_keeps hfields hmembers hblank hmember
  | array stop hitems => exact decodePositions_keeps hfields hitems hblank h
  | _ => cases h

theorem decodeItems_forall {β : Type} {decode : Node → Except Problem β} {Q : β → Prop}
    (hdecode : ∀ node b, node.WellFormed → decode node = .ok b → Q b) {items : List Node}
    (hitems : ∀ node ∈ items, node.WellFormed) {bs : List β}
    (h : decodeItems decode items = .ok bs) : ∀ b ∈ bs, Q b := by
  induction items generalizing bs with
  | nil =>
    cases h
    simp
  | cons node items ih =>
    obtain ⟨b, hb, h⟩ := exists_of_bind_eq_ok h
    obtain ⟨rest, hrest, h⟩ := exists_of_bind_eq_ok h
    cases h
    rintro x (_ | ⟨_, hx⟩)
    · exact hdecode node b (hitems node (.head items)) hb
    · exact ih (fun x hx => hitems x (.tail node hx)) hrest x hx

theorem decodeList_forall {β : Type} {decode : Decoder β} {Q : β → Prop}
    (hdecode : ∀ node b, node.WellFormed → decode depth node = .ok b → Q b) {node : Node}
    (hnode : node.WellFormed) {bs : List β} (h : decodeList decode (depth + 1) node = .ok bs) :
    ∀ b ∈ bs, Q b := by
  cases hnode with
  | array stop hitems =>
    obtain ⟨as, has, h⟩ := exists_of_bind_eq_ok h
    obtain ⟨_, -, h⟩ := exists_of_bind_eq_ok h
    cases h
    exact decodeItems_forall hdecode hitems has
  | _ => cases h

theorem decodeNullable_eq_some {β : Type} {decode : Decoder β} {node : Node} {b : β}
    (h : decodeNullable decode depth node = .ok (some b)) :
    node ≠ .null ∧ decode depth node = .ok b := by
  unfold decodeNullable at h
  split at h
  · cases h
  · next hnull =>
    obtain ⟨a, ha, heq⟩ := exceptMap_eq_ok_iff.1 h
    cases heq
    exact ⟨fun hnode => hnull hnode, ha⟩

end

end TypeRecovery.Json
