import TypeRecovery.Proofs.Json.Tree

/-!
# Reading values

A value that was read has its members in order of their keys and nests no deeper than it may. The
tree of such a value is read as the value itself.
-/

namespace TypeRecovery.Json

/-! ## Members -/

section

variable {k : String} {v : Value} {members : List (String × Value)}

/-- The members of an object in order of their keys, each key once. -/
def Ordered (members : List (String × Value)) : Prop := members.Pairwise fun m m' => m.1 < m'.1

theorem mem_insertMember {m : String × Value} (h : m ∈ insertMember k v members) :
    m = (k, v) ∨ m ∈ members := by
  fun_induction insertMember k v members with
  | case1 => simpa using h
  | case2 v' rest =>
    rcases List.mem_cons.1 h with rfl | h
    · exact .inl rfl
    · exact .inr (.tail _ h)
  | case3 k' v' rest =>
    rcases List.mem_cons.1 h with rfl | h
    · exact .inl rfl
    · exact .inr h
  | case4 k' v' rest _ _ ih =>
    rcases List.mem_cons.1 h with rfl | h
    · exact .inr (.head rest)
    · exact (ih h).imp_right (.tail _)

theorem insertMember_ordered (h : Ordered members) : Ordered (insertMember k v members) := by
  fun_induction insertMember k v members with
  | case1 => exact List.pairwise_singleton _ _
  | case2 v' rest =>
    obtain ⟨hhead, hrest⟩ := List.pairwise_cons.1 h
    exact List.pairwise_cons.2 ⟨hhead, hrest⟩
  | case3 k' v' rest _ hlt =>
    refine List.pairwise_cons.2 ⟨?_, h⟩
    rintro m (_ | ⟨_, hm⟩)
    · exact hlt
    · exact String.lt_trans hlt ((List.pairwise_cons.1 h).1 m hm)
  | case4 k' v' rest hne hnot ih =>
    obtain ⟨hhead, hrest⟩ := List.pairwise_cons.1 h
    refine List.pairwise_cons.2 ⟨fun m hm => ?_, ih hrest⟩
    rcases mem_insertMember hm with rfl | hm
    · exact Std.lt_of_le_of_ne (String.not_lt.1 hnot) (Ne.symm hne)
    · exact hhead m hm

theorem insertMember_append (h : ∀ m ∈ members, m.1 < k) :
    insertMember k v members = members ++ [(k, v)] := by
  induction members with
  | nil => rfl
  | cons m rest ih =>
    obtain ⟨k', v'⟩ := m
    have hlt : k' < k := h (k', v') (.head rest)
    have hne : k ≠ k' := by
      rintro rfl
      exact String.lt_irrefl k hlt
    rw [insertMember, if_neg hne, if_neg (String.lt_asymm hlt), ih fun m hm => h m (.tail _ hm)]
    rfl

end

/-! ## What reading gives -/

namespace Value

/-- A value with at most `depth` arrays and objects inside each other, with its members in order
and no literal too large. -/
inductive Readable : Nat → Value → Prop
  | null (depth : Nat) : Readable depth .null
  | bool (depth : Nat) (b : Bool) : Readable depth (.bool b)
  | number (depth : Nat) {n : Number} (h : n.overflows = false) : Readable depth (.number n)
  | string (depth : Nat) (s : String) : Readable depth (.string s)
  | array {depth : Nat} {items : List Value} (h : ∀ v ∈ items, Readable depth v) :
    Readable (depth + 1) (.array items)
  | object {depth : Nat} {members : List (String × Value)} (hordered : Ordered members)
    (h : ∀ m ∈ members, Readable depth m.2) : Readable (depth + 1) (.object members)

theorem itemsToValues_ofItems {depth : Nat} {items : List Value}
    (h : ∀ v ∈ items, (Node.ofValue v).toValue depth = .ok v) :
    Node.itemsToValues depth (Node.ofItems items) = .ok items := by
  induction items with
  | nil => rfl
  | cons v items ih =>
    rw [Node.ofItems, Node.itemsToValues, h v (.head items), ih fun w hw => h w (.tail v hw)]
    rfl

theorem membersToValues_ofMembers {depth : Nat} {done members : List (String × Value)}
    (hordered : Ordered (done ++ members))
    (h : ∀ m ∈ members, (Node.ofValue m.2).toValue depth = .ok m.2) :
    Node.membersToValues depth done (Node.ofMembers members) = .ok (done ++ members) := by
  induction members generalizing done with
  | nil => rw [List.append_nil]; rfl
  | cons m members ih =>
    obtain ⟨k, v⟩ := m
    have hlast : ∀ m ∈ done, m.1 < k := fun m hm =>
      (List.pairwise_append.1 hordered).2.2 m hm (k, v) (.head members)
    rw [List.append_cons] at hordered ⊢
    rw [Node.ofMembers, Node.membersToValues, h (k, v) (.head members)]
    simp only [bind, Except.bind]
    rw [insertMember_append hlast]
    exact ih hordered fun m hm => h m (.tail _ hm)

theorem toValue_ofValue {depth : Nat} {v : Value} (h : v.Readable depth) :
    (Node.ofValue v).toValue depth = .ok v := by
  induction h with
  | null | bool | string => rfl
  | number depth h =>
    rw [Node.ofValue, Node.toValue, h]
    rfl
  | array h ih =>
    rw [Node.ofValue, Node.toValue, if_neg (Nat.succ_ne_zero _), Nat.add_sub_cancel,
      itemsToValues_ofItems ih]
    rfl
  | object hordered h ih =>
    rw [Node.ofValue, Node.toValue, if_neg (Nat.succ_ne_zero _), Nat.add_sub_cancel,
      @membersToValues_ofMembers _ [] _ hordered ih]
    rfl

end Value

/-! ## From trees -/

namespace Node

@[elab_as_elim]
theorem ind {motive : Node → Prop} (null : motive .null) (bool : ∀ b, motive (.bool b))
    (number : ∀ n, motive (.number n)) (string : ∀ text, motive (.string text))
    (array : ∀ items stop, (∀ node ∈ items, motive node) → motive (.array items stop))
    (object : ∀ members stop, (∀ m ∈ members, motive m.2) → motive (.object members stop))
    (broken : ∀ stop, motive (.broken stop)) (node : Node) : motive node := by
  refine @Node.rec motive (fun items => ∀ node ∈ items, motive node)
    (fun members => ∀ m ∈ members, motive m.2) (fun m => motive m.2)
    null bool number string array object broken ?_ ?_ ?_ ?_ ?_ node
  case refine_1 | refine_3 => simp
  case refine_2 | refine_4 =>
    intro _ _ hhead htail x hx
    rcases List.mem_cons.1 hx with rfl | hx
    · exact hhead
    · exact htail x hx
  case refine_5 => exact fun _ _ h => h

/-- What is read of a tree: a readable value, with literals as good as those of the tree. -/
def ReadsWell (node : Node) : Prop :=
  ∀ depth v, node.toValue depth = .ok v → v.Readable depth ∧ (node.WellFormed → v.WellFormed)

theorem itemsToValues_readsWell {items : List Node} (hitems : ∀ node ∈ items, node.ReadsWell)
    {depth : Nat} {vs : List Value} (h : itemsToValues depth items = .ok vs) :
    ∀ v ∈ vs, v.Readable depth ∧ ((∀ node ∈ items, node.WellFormed) → v.WellFormed) := by
  induction items generalizing vs with
  | nil =>
    cases h
    simp
  | cons node items ih =>
    obtain ⟨v, hv, h⟩ := exists_of_bind_eq_ok h
    obtain ⟨rest, hrest, h⟩ := exists_of_bind_eq_ok h
    cases h
    obtain ⟨hreadable, hwell⟩ := hitems node (.head items) depth v hv
    rintro w (_ | ⟨_, hw⟩)
    · exact ⟨hreadable, fun hall => hwell (hall node (.head items))⟩
    · obtain ⟨hreadable', hwell'⟩ := ih (fun x hx => hitems x (.tail node hx)) hrest w hw
      exact ⟨hreadable', fun hall => hwell' fun x hx => hall x (.tail node hx)⟩

theorem membersToValues_ordered {depth : Nat} {done ms : List (String × Value)}
    {members : List (Option String × Node)} (hdone : Ordered done)
    (h : membersToValues depth done members = .ok ms) : Ordered ms := by
  induction members generalizing done with
  | nil =>
    cases h
    exact hdone
  | cons m members ih =>
    obtain ⟨_ | key, node⟩ := m
    · cases h
    · obtain ⟨v, -, h⟩ := exists_of_bind_eq_ok h
      exact ih (insertMember_ordered hdone) h

theorem membersToValues_readsWell {members : List (Option String × Node)}
    (hmembers : ∀ m ∈ members, m.2.ReadsWell) {depth : Nat} {done ms : List (String × Value)}
    (h : membersToValues depth done members = .ok ms) :
    ∀ m ∈ ms, m ∈ done ∨
      m.2.Readable depth ∧ ((∀ m ∈ members, m.2.WellFormed) → m.2.WellFormed) := by
  induction members generalizing done with
  | nil =>
    cases h
    exact fun m hm => .inl hm
  | cons m members ih =>
    obtain ⟨_ | key, node⟩ := m
    · cases h
    · obtain ⟨v, hv, h⟩ := exists_of_bind_eq_ok h
      obtain ⟨hreadable, hwell⟩ := hmembers _ (.head members) depth v hv
      intro x hx
      rcases ih (fun x hx => hmembers x (.tail _ hx)) h x hx with hx | ⟨hreadable', hwell'⟩
      · rcases mem_insertMember hx with rfl | hx
        · exact .inr ⟨hreadable, fun hall => hwell (hall _ (.head members))⟩
        · exact .inl hx
      · exact .inr ⟨hreadable', fun hall => hwell' fun x hx => hall x (.tail _ hx)⟩

theorem readsWell (node : Node) : node.ReadsWell := by
  induction node using Node.ind with
  | null =>
    rintro depth _ ⟨⟩
    exact ⟨.null depth, fun _ => .null⟩
  | bool b =>
    rintro depth _ ⟨⟩
    exact ⟨.bool depth b, fun _ => .bool b⟩
  | number n =>
    intro depth v h
    rw [toValue] at h
    split at h
    · cases h
    · next hfits =>
      cases h
      refine ⟨.number depth (Bool.eq_false_iff.2 hfits), fun hwell => ?_⟩
      cases hwell with
      | number hn => exact .number hn
  | string text =>
    intro depth v h
    cases text with
    | none => cases h
    | some s =>
      cases h
      exact ⟨.string depth s, fun _ => .string s⟩
  | array items stop ih =>
    intro depth v h
    rw [toValue] at h
    split at h
    · cases h
    · next hdepth =>
      obtain ⟨depth, rfl⟩ := Nat.exists_eq_succ_of_ne_zero hdepth
      obtain ⟨vs, hvs, h⟩ := exists_of_bind_eq_ok h
      obtain ⟨_, -, h⟩ := exists_of_bind_eq_ok h
      cases h
      have hread := itemsToValues_readsWell ih hvs
      refine ⟨.array fun v hv => (hread v hv).1, fun hwell => ?_⟩
      cases hwell with
      | array _ hitems => exact .array fun v hv => (hread v hv).2 hitems
  | object members stop ih =>
    intro depth v h
    rw [toValue] at h
    split at h
    · cases h
    · next hdepth =>
      obtain ⟨depth, rfl⟩ := Nat.exists_eq_succ_of_ne_zero hdepth
      obtain ⟨ms, hms, h⟩ := exists_of_bind_eq_ok h
      obtain ⟨_, -, h⟩ := exists_of_bind_eq_ok h
      cases h
      have hread := fun m hm => (membersToValues_readsWell ih hms m hm).resolve_left (by simp)
      refine ⟨.object (membersToValues_ordered .nil hms) fun m hm => (hread m hm).1,
        fun hwell => ?_⟩
      cases hwell with
      | object _ hmembers => exact .object fun m hm => (hread m hm).2 hmembers
  | broken stop => rintro depth _ ⟨⟩

theorem eq_null_of_toValue {depth : Nat} {node : Node} (h : node.toValue depth = .ok .null) :
    node = .null := by
  cases node with
  | null => rfl
  | string text => cases text <;> cases h
  | number n =>
    rw [toValue] at h
    split at h <;> cases h
  | array items stop | object members stop =>
    rw [toValue] at h
    split at h
    · cases h
    · obtain ⟨_, -, h⟩ := exists_of_bind_eq_ok h
      obtain ⟨_, -, h⟩ := exists_of_bind_eq_ok h
      cases h
  | _ => cases h

end Node

end TypeRecovery.Json
