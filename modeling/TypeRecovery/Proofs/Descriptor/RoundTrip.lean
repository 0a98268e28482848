import TypeRecovery.Descriptor.Codec
import TypeRecovery.Proofs.Json.Bytes
import TypeRecovery.Proofs.Json.Records

/-!
# Written chunks

A chunk that can be read at all is read from its own text. Its text has every key, so that nothing is
left to a default, and a chunk that was read from a text without some of them has the same text.
-/

namespace TypeRecovery

open Json

/-! ## Keys -/

/-- An object with every key of a table, in the order of the table. -/
def HasEveryKey {α : Type} (fields : List (Json.Field α)) (v : Value) : Prop :=
  ∃ values, values.length = fields.length ∧ v = .object (inOrder fields values)

theorem FieldDescriptor.encode_eq (d : FieldDescriptor) :
    d.encode = .object (inOrder keys
      [.string d.name, .nat d.type.toNat, .nat d.position.toNat, .nat d.flags.toNat]) :=
  rfl

theorem ParamDescriptor.encode_eq (d : ParamDescriptor) :
    d.encode = .object (inOrder keys
      [.string d.name, .nat d.type.toNat, .nat d.modifiers.toNat]) :=
  rfl

theorem ReturnDescriptor.encode_eq (d : ReturnDescriptor) :
    d.encode = .object (inOrder keys [.nat d.type.toNat]) :=
  rfl

theorem MethodDescriptor.encode_eq (d : MethodDescriptor) :
    d.encode = .object (inOrder keys
      [.string d.name, .nat d.address.toNat, d.result.encode, .nat d.flags.toNat,
        .ofList ParamDescriptor.encode d.params]) :=
  rfl

theorem TypeDescriptor.encode_eq (d : TypeDescriptor) :
    d.encode = .object (inOrder keys
      [.nat d.definitionAddress.toNat, .string d.fullName, .nat d.objectKind.toNat,
        .nat d.length.toNat, .nat d.runtimeLength.toNat, .nat d.systemType.toNat,
        .ofOption id d.generics, .ofOption (fun i => .nat i.toNat) d.base,
        .ofOption (fun i => .nat i.toNat) d.element, .ofList FieldDescriptor.encode d.fields,
        .ofList MethodDescriptor.encode d.methods]) := by
  unfold encode
  cases d.generics <;> rfl

theorem Chunk.encode_eq (c : Chunk) :
    c.encode = .object (inOrder keys [.nat c.start.toNat, .ofList TypeDescriptor.encode c.types]) :=
  rfl

/-- Nothing that is written of a chunk leaves out a key. -/
structure Chunk.WritesEveryKey (c : Chunk) : Prop where
  chunk : HasEveryKey Chunk.keys c.encode
  types : ∀ d ∈ c.types, HasEveryKey TypeDescriptor.keys d.encode
  fields : ∀ d ∈ c.types, ∀ f ∈ d.fields, HasEveryKey FieldDescriptor.keys f.encode
  methods : ∀ d ∈ c.types, ∀ m ∈ d.methods, HasEveryKey MethodDescriptor.keys m.encode
  results : ∀ d ∈ c.types, ∀ m ∈ d.methods, HasEveryKey ReturnDescriptor.keys m.result.encode
  params : ∀ d ∈ c.types, ∀ m ∈ d.methods, ∀ p ∈ m.params,
    HasEveryKey ParamDescriptor.keys p.encode

theorem Chunk.writesEveryKey (c : Chunk) : c.WritesEveryKey where
  chunk := ⟨_, rfl, c.encode_eq⟩
  types d _ := ⟨_, rfl, d.encode_eq⟩
  fields _ _ f _ := ⟨_, rfl, f.encode_eq⟩
  methods _ _ m _ := ⟨_, rfl, m.encode_eq⟩
  results _ _ m _ := ⟨_, rfl, m.result.encode_eq⟩
  params _ _ _ _ p _ := ⟨_, rfl, p.encode_eq⟩

/-! ## Reading what was written -/

theorem FieldDescriptor.decode_encode (depth : Nat) (d : FieldDescriptor) :
    decode (depth + 1) (Node.ofValue d.encode) = .ok d := by
  rw [encode_eq, decode, decodeRecord_inOrder (by decide) rfl]
  simp only [keys, putAll, Field.of, decodeUInt32_nat, Except.map, bind, Except.bind]
  rfl

theorem ParamDescriptor.decode_encode (depth : Nat) (d : ParamDescriptor) :
    decode (depth + 1) (Node.ofValue d.encode) = .ok d := by
  rw [encode_eq, decode, decodeRecord_inOrder (by decide) rfl]
  simp only [keys, putAll, Field.of, decodeUInt32_nat, Except.map, bind, Except.bind]
  rfl

theorem ReturnDescriptor.decode_encode (depth : Nat) (d : ReturnDescriptor) :
    decode (depth + 1) (Node.ofValue d.encode) = .ok d := by
  rw [encode_eq, decode, decodeRecord_inOrder (by decide) rfl]
  simp only [keys, putAll, Field.of, decodeUInt32_nat, Except.map, bind, Except.bind]

theorem MethodDescriptor.decode_encode (depth : Nat) (d : MethodDescriptor) :
    decode (depth + 3) (Node.ofValue d.encode) = .ok d := by
  have hparams : decodeList ParamDescriptor.decode (depth + 2)
      (Node.ofValue (.ofList ParamDescriptor.encode d.params)) = .ok d.params :=
    decodeList_ofList fun p _ => p.decode_encode depth
  rw [encode_eq, decode, decodeRecord_inOrder (by decide) rfl]
  simp only [keys, putAll, Field.of, decodeUInt32_nat, decodeUInt64_nat,
    ReturnDescriptor.decode_encode, hparams, Except.map, bind, Except.bind]
  rfl

/-- A type whose generics, if there are any, can be read where `depth` arrays and objects may still
be opened. -/
def TypeDescriptor.Readable (depth : Nat) (d : TypeDescriptor) : Prop :=
  ∀ v, d.generics = some v → v ≠ .null ∧ v.Readable depth ∧ v.WellFormed

theorem TypeDescriptor.decode_encode {depth : Nat} {d : TypeDescriptor}
    (hd : d.Readable (depth + 4)) :
    decode (depth + 5) (Node.ofValue d.encode) = .ok d := by
  have hgenerics : decodeNullable decodeValue (depth + 4) (Node.ofValue (.ofOption id d.generics)) =
      .ok d.generics :=
    decodeNullable_ofOption fun v hv => ⟨(hd v hv).1, Value.toValue_ofValue (hd v hv).2.1⟩
  have hindex : ∀ i? : Option UInt32, decodeNullable decodeUInt32 (depth + 4)
      (Node.ofValue (.ofOption (fun i => .nat i.toNat) i?)) = .ok i? := fun i? =>
    decodeNullable_ofOption fun i _ => ⟨nofun, decodeUInt32_nat _ i⟩
  have hfields : decodeList FieldDescriptor.decode (depth + 4)
      (Node.ofValue (.ofList FieldDescriptor.encode d.fields)) = .ok d.fields :=
    decodeList_ofList fun f _ => f.decode_encode (depth + 2)
  have hmethods : decodeList MethodDescriptor.decode (depth + 4)
      (Node.ofValue (.ofList MethodDescriptor.encode d.methods)) = .ok d.methods :=
    decodeList_ofList fun m _ => m.decode_encode depth
  rw [encode_eq, decode, decodeRecord_inOrder (by decide) rfl]
  simp only [keys, putAll, Field.of, decodeUInt32_nat, decodeUInt64_nat, hgenerics, hindex, hfields,
    hmethods, Except.map, bind, Except.bind]
  rfl

/-- How many arrays and objects the generics of a type may nest. Around them are those of the chunk,
of its types and of the type. -/
def genericsDepth : Nat := maxDepth - 3

/-- A chunk that a text can hold. -/
def Chunk.IsReadable (c : Chunk) : Prop := ∀ d ∈ c.types, d.Readable genericsDepth

theorem Chunk.decode_encode {c : Chunk} (hc : c.IsReadable) :
    decode maxDepth (Node.ofValue c.encode) = .ok c := by
  have htypes : decodeList TypeDescriptor.decode (maxDepth - 1)
      (Node.ofValue (.ofList TypeDescriptor.encode c.types)) = .ok c.types :=
    decodeList_ofList fun d hd => TypeDescriptor.decode_encode (hc d hd)
  have hrecord := @decodeRecord_inOrder _ keys (maxDepth - 1) (by decide)
    [.nat c.start.toNat, .ofList TypeDescriptor.encode c.types] rfl {}
  rw [encode_eq, decode]
  refine hrecord.trans ?_
  simp only [keys, putAll, Field.of, decodeUInt32_nat, htypes, Except.map, bind, Except.bind]

/-! ## The text of a chunk -/

section

open Value

variable {α : Type}

theorem wellFormed_nat (n : Nat) : (Value.nat n).WellFormed := .number (Number.wellFormed_ofNat n)

theorem wellFormed_ofOption {encode : α → Value} {a? : Option α}
    (h : ∀ a, a? = some a → (encode a).WellFormed) : (ofOption encode a?).WellFormed := by
  cases a? with
  | none => exact .null
  | some a => exact h a rfl

theorem wellFormed_ofList {encode : α → Value} {as : List α}
    (h : ∀ a ∈ as, (encode a).WellFormed) : (ofList encode as).WellFormed := by
  refine .array fun v hv => ?_
  obtain ⟨a, ha, rfl⟩ := List.mem_map.1 hv
  exact h a ha

theorem wellFormed_inOrder {fields : List (Json.Field α)} {values : List Value}
    (h : ∀ v ∈ values, v.WellFormed) : (Value.object (inOrder fields values)).WellFormed :=
  .object fun m hm => h m.2 (List.of_mem_zip hm).2

end

theorem FieldDescriptor.encode_wellFormed (d : FieldDescriptor) : d.encode.WellFormed := by
  rw [encode_eq]
  apply wellFormed_inOrder
  simp [wellFormed_nat, Value.WellFormed.string]

theorem ParamDescriptor.encode_wellFormed (d : ParamDescriptor) : d.encode.WellFormed := by
  rw [encode_eq]
  apply wellFormed_inOrder
  simp [wellFormed_nat, Value.WellFormed.string]

theorem ReturnDescriptor.encode_wellFormed (d : ReturnDescriptor) : d.encode.WellFormed := by
  rw [encode_eq]
  apply wellFormed_inOrder
  simp [wellFormed_nat]

theorem MethodDescriptor.encode_wellFormed (d : MethodDescriptor) : d.encode.WellFormed := by
  have hparams : (Value.ofList ParamDescriptor.encode d.params).WellFormed :=
    wellFormed_ofList fun p _ => p.encode_wellFormed
  rw [encode_eq]
  apply wellFormed_inOrder
  simp [wellFormed_nat, Value.WellFormed.string, d.result.encode_wellFormed, hparams]

theorem TypeDescriptor.encode_wellFormed {depth : Nat} {d : TypeDescriptor}
    (hd : d.Readable depth) : d.encode.WellFormed := by
  have hgenerics : (Value.ofOption id d.generics).WellFormed :=
    wellFormed_ofOption fun v hv => (hd v hv).2.2
  have hindex : ∀ i? : Option UInt32,
      (Value.ofOption (fun i => .nat i.toNat) i?).WellFormed := fun _ =>
    wellFormed_ofOption fun i _ => wellFormed_nat i.toNat
  have hfields : (Value.ofList FieldDescriptor.encode d.fields).WellFormed :=
    wellFormed_ofList fun f _ => f.encode_wellFormed
  have hmethods : (Value.ofList MethodDescriptor.encode d.methods).WellFormed :=
    wellFormed_ofList fun m _ => m.encode_wellFormed
  rw [encode_eq]
  apply wellFormed_inOrder
  simp [wellFormed_nat, Value.WellFormed.string, hgenerics, hindex, hfields, hmethods]

theorem Chunk.encode_wellFormed {c : Chunk} (hc : c.IsReadable) : c.encode.WellFormed := by
  have htypes := wellFormed_ofList fun d hd => TypeDescriptor.encode_wellFormed (hc d hd)
  rw [encode_eq]
  apply wellFormed_inOrder
  simp [wellFormed_nat, htypes]

theorem Chunk.ofText_encode {c : Chunk} (hc : c.IsReadable) : ofText c.encode.compact = .ok c := by
  unfold ofText decodeText decodeInput
  rw [ofInput_compact (encode_wellFormed hc)]
  simp only [decode_encode hc]
  rfl

theorem Chunk.ofBytes_encode {c : Chunk} (hc : c.IsReadable) :
    ofBytes c.encode.compact.toUTF8.data.toList = .ok c := by
  unfold ofBytes
  rw [ofBytes_toUTF8]
  exact ofText_encode hc

/-! ## What is read -/

theorem TypeDescriptor.keeps_of_generics_eq {depth : Nat} {β : Type} {key : String} {required : Bool}
    {decode : Decoder β} {set : β → TypeDescriptor → TypeDescriptor}
    (h : ∀ b d, (set b d).generics = d.generics) :
    (Json.Field.of key required decode set).Keeps (Readable depth) depth :=
  Json.Field.keeps_of fun _ b d _ hd _ v hv => hd v ((h b d).symm.trans hv)

theorem TypeDescriptor.keeps_generics {depth : Nat} {key : String} {required : Bool} :
    (Json.Field.of key required (decodeNullable decodeValue) fun v (d : TypeDescriptor) =>
      { d with generics := v }).Keeps (Readable depth) depth := by
  refine Json.Field.keeps_of fun node b d hnode _ hread v hv => ?_
  obtain rfl : b = some v := hv
  obtain ⟨hnull, hvalue⟩ := decodeNullable_eq_some hread
  obtain ⟨hreadable, hwell⟩ := node.readsWell depth v hvalue
  refine ⟨?_, hreadable, hwell hnode⟩
  rintro rfl
  exact hnull (Node.eq_null_of_toValue hvalue)

theorem TypeDescriptor.readable_of_decode {depth : Nat} {node : Node} (hnode : node.WellFormed)
    {d : TypeDescriptor} (h : decode (depth + 1) node = .ok d) : d.Readable depth := by
  refine decodeRecord_keeps ?_ (by simp [Readable]) hnode h
  simp only [keys, List.forall_mem_cons]
  refine ⟨?_, ?_, ?_, ?_, ?_, ?_, keeps_generics, ?_, ?_, ?_, ?_, by simp⟩
  all_goals exact keeps_of_generics_eq fun _ _ => rfl

theorem Chunk.isReadable_of_decode {node : Node} (hnode : node.WellFormed) {c : Chunk}
    (h : decode maxDepth node = .ok c) : c.IsReadable := by
  have htype : ∀ node d, node.WellFormed → TypeDescriptor.decode (maxDepth - 2) node = .ok d →
      d.Readable genericsDepth := fun _ _ hnode => TypeDescriptor.readable_of_decode hnode
  have hkeys : ∀ field ∈ keys, field.Keeps IsReadable (maxDepth - 1) := by
    simp only [keys, List.forall_mem_cons]
    refine ⟨Json.Field.keeps_of fun _ _ _ _ hc _ => hc, Json.Field.keeps_of ?_, by simp⟩
    intro node types c hnode _ htypes
    exact decodeList_forall htype hnode htypes
  exact decodeRecord_keeps hkeys (by simp [IsReadable]) hnode h

theorem Chunk.isReadable_of_decodeInput {input : Input} {c : Chunk}
    (h : decodeInput decode input = .ok c) : c.IsReadable := by
  obtain ⟨c', hread, h⟩ := exists_of_bind_eq_ok h
  split at h
  · cases h
  · cases h
    exact isReadable_of_decode (ofInput_wellFormed input) hread

theorem Chunk.isReadable_iff {c : Chunk} :
    c.IsReadable ↔ ∃ input, decodeInput decode input = .ok c :=
  ⟨fun hc => ⟨_, ofText_encode hc⟩, fun ⟨_, h⟩ => isReadable_of_decodeInput h⟩

end TypeRecovery
