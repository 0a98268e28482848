import TypeRecovery.Proofs.Dump.Split
import TypeRecovery.Proofs.Import.LastFunction
import TypeRecovery.Proofs.Import.Namesakes
import TypeRecovery.Proofs.Import.Room
import TypeRecovery.Proofs.Layout.Origin
import TypeRecovery.Proofs.Program.References
import TypeRecovery.Proofs.Program.Written

/-!
# References lead to their types

A data type that an import writes mentions a structure only for a type of the catalog. The structure
is there and has the name of that type, and so the data type can be spelled.
-/

namespace TypeRecovery

variable {c : Catalog} {h : Handles c} {category : String} {p p' : Program}

/-! ## Data types -/

/-- Every structure in the data type is that of the type it stands for: it is there, in the category,
and has the type's name. A data type that stands for no type has no structure in it. -/
def Program.Mentions (p : Program) (category : String) (target : Option c.Index) (t : DataType) :
    Prop :=
  ∀ k ∈ t.handles, ∃ j ∈ target, ∃ s,
    p.struct? k = some s ∧ s.category = category ∧ s.name = (c.record j).fullName

theorem Program.Mentions.spells {target : Option c.Index} {t : DataType}
    (ht : p.Mentions category target t) : p.Spells t := by
  apply Program.spells_of_known
  intro k hk
  obtain ⟨-, -, s, hs, -⟩ := ht k hk
  exact ⟨s, hs⟩

theorem Program.mentions_of_nil {t : DataType} (ht : t.handles = []) (target : Option c.Index) :
    p.Mentions category target t := by
  intro k hk
  rw [ht] at hk
  simp at hk

theorem Handles.NamedIn.mentions (hnamed : h.NamedIn category p) (j : c.Index) :
    p.Mentions category (some j) (h.dataType j) := by
  intro k hk
  unfold Handles.dataType at hk
  cases hj : h.get j with
  | scalar kind =>
    rw [hj] at hk
    simp [Representation.dataType, DataType.handles] at hk
  | struct k' =>
    rw [hj] at hk
    obtain rfl : k = k' := by simpa [Representation.dataType, DataType.handles] using hk
    obtain ⟨s, hs, hcategory, hname⟩ := Program.struct_of_handleOf? (hnamed.handleOf? hj)
    exact ⟨j, rfl, s, hs, hcategory, hname⟩

theorem handles_storage (h : Handles c) (j : c.Index) :
    (h.storage j).type.handles = (h.dataType j).handles := by
  unfold Handles.storage
  split <;> rfl

theorem handles_passedAs (h : Handles c) (j : c.Index) :
    (passedAs h j).handles = (h.dataType j).handles := by
  unfold passedAs
  split <;> rfl

/-! ## Members -/

theorem Handles.NamedIn.mentions_member (hnamed : h.NamedIn category p) {sampleLength : UInt32}
    {i : c.Index} {m : Member} {target : Option c.Index} (hm : StandsFor h sampleLength i m target) :
    p.Mentions category target m.type := by
  cases hm with
  | filler start length => exact Program.mentions_of_nil rfl _
  | slot hx =>
    refine Program.mentions_of_nil ?_ _
    unfold headerSlots at hx
    split at hx
    · rcases List.mem_pair.1 hx with rfl | rfl <;> rfl
    · simp at hx
  | field hf =>
    intro k hk
    apply hnamed.mentions
    rw [← handles_storage]
    exact hk
  | count offset name => exact Program.mentions_of_nil rfl _
  | elements he offset =>
    intro k hk
    apply hnamed.mentions
    rw [← handles_storage]
    exact hk

/-! ## Signatures -/

/-- The types that the parameters of a method stand for: the slot for its result, the context, the
instance and what it declares. -/
def parameterTargets (c : Catalog) (owner : c.Index) (m : MethodRecord c.Index) :
    List (Option c.Index) :=
  (if returnsThroughSlot c m.result then [some m.result] else []) ++
    none :: ((if m.isStatic then [] else [some owner]) ++ m.params.map fun x => some x.type)

/-- The result and the parameters of a signature mention the types that they stand for. -/
structure Signature.Mentions (p : Program) (category : String) (owner : c.Index)
    (m : MethodRecord c.Index) (signature : Signature) : Prop where
  result : p.Mentions category (some m.result) signature.result
  parameters : List.Forall₂ (fun target x => p.Mentions category target x.type)
    (parameterTargets c owner m) signature.parameters

theorem Handles.NamedIn.mentions_passedAs (hnamed : h.NamedIn category p) (j : c.Index) :
    p.Mentions category (some j) (passedAs h j) := by
  intro k hk
  rw [handles_passedAs] at hk
  exact hnamed.mentions j k hk

theorem Handles.NamedIn.mentions_declared (hnamed : h.NamedIn category p)
    (x : ParamRecord c.Index) :
    p.Mentions category (some x.type) (declaredParameter h x).type := by
  unfold declaredParameter
  split <;> exact hnamed.mentions_passedAs x.type

theorem Handles.NamedIn.mentions_returnPart (hnamed : h.NamedIn category p) (j : c.Index) :
    p.Mentions category (some j) (returnPart h j).1 ∧
      List.Forall₂ (fun target x => p.Mentions category target x.type)
        (if returnsThroughSlot c j then [some j] else []) (returnPart h j).2 := by
  unfold returnPart
  split
  · exact ⟨Program.mentions_of_nil rfl _, .cons (hnamed.mentions j) .nil⟩
  · exact ⟨hnamed.mentions_passedAs j, .nil⟩

theorem Handles.NamedIn.mentions_signature (hnamed : h.NamedIn category p) (owner : c.Index)
    (m : MethodRecord c.Index) : (signatureOf h owner m).Mentions p category owner m := by
  obtain ⟨hresult, hslot⟩ := hnamed.mentions_returnPart m.result
  have hthis : List.Forall₂ (fun target x => p.Mentions category target x.type)
      (if m.isStatic then [] else [some owner]) (thisPart h owner m) := by
    unfold thisPart
    split
    · exact .nil
    · exact .cons (hnamed.mentions owner) .nil
  have hdeclared : List.Forall₂ (fun target x => p.Mentions category target x.type)
      (m.params.map fun x => some x.type) (m.params.map (declaredParameter h)) := by
    rw [List.forall₂_map_left_iff, List.forall₂_map_right_iff, List.forall₂_same]
    exact fun x _ => hnamed.mentions_declared x
  refine ⟨hresult, ?_⟩
  exact List.rel_append hslot (.cons (Program.mentions_of_nil rfl _)
    (List.rel_append hthis hdeclared))

theorem spells_of_forall₂ {targets : List (Option c.Index)} {xs : List Parameter}
    (hxs : List.Forall₂ (fun target x => p.Mentions category target x.type) targets xs) :
    ∀ x ∈ xs, p.Spells x.type := by
  induction hxs with
  | nil => simp
  | cons hx _ ih => exact List.forall_mem_cons.2 ⟨hx.spells, ih⟩

/-! ## Imports -/

/-- What operations write into structures and functions stands for what a catalog says there, and
mentions the right structures of `p`. -/
structure Program.RefersRightly (p : Program) (config : ImportConfig) (h : Handles c)
    (ops : List Operation) : Prop where
  members : ∀ k ms, .rebuild k ms ∈ ops → ∃ i, h.get i = .struct k ∧
    ms = (layout h config.sampleLength i).members ∧
    ∀ m ∈ ms, p.Spells m.type ∧ ∃ target,
      StandsFor h config.sampleLength i m target ∧ p.Mentions config.category target m.type
  signatures : ∀ address signature, .applySignature address signature ∈ ops →
    ∃ i, ∃ m ∈ (c.record i).methods, m.address = address ∧ signature = signatureOf h i m ∧
      signature.Mentions p config.category i m ∧ p.Spells signature.result ∧
      ∀ x ∈ signature.parameters, p.Spells x.type

section

variable {config : ImportConfig} {t : Target}

theorem mem_importOperations {op : Operation} :
    op ∈ importOperations config c t ↔
      op ∈ labelOperations config c ∨ op ∈ defineOperations config.category c.toList ∨
        op ∈ rebuildOperations (registeredHandles config c t) config.sampleLength
          (List.finRange c.size) ∨
        op ∈ signatureOperations config (registeredHandles config c t)
          (t.run (structureOperations config c t)) := by
  unfold importOperations
  rw [structureOperations, registrationOperations]
  simp only [List.mem_append, or_assoc]

theorem exists_of_rebuild_mem {k : StructHandle} {ms : List Member}
    (hop : .rebuild k ms ∈ importOperations config c t) :
    ∃ i, (registeredHandles config c t).get i = .struct k ∧
      ms = (layout (registeredHandles config c t) config.sampleLength i).members := by
  rcases mem_importOperations.1 hop with hop | hop | hop | hop
  · have hpart := labelOperations_part hop
    cases hpart
  · obtain ⟨r, -, heq⟩ := List.mem_map.1 hop
    unfold defineOperation at heq
    cases heq
  · obtain ⟨i, -, hi⟩ := List.mem_filterMap.1 hop
    unfold rebuildOperation? at hi
    obtain ⟨k', hk', heq⟩ := Option.map_eq_some_iff.1 hi
    cases heq
    exact ⟨i, get_of_layoutHandle? hk', rfl⟩
  · obtain ⟨i, m, -, t', hop⟩ := mem_signatureOperations hop
    have hpart := FunctionPlan.operations_part hop
    cases hpart

theorem exists_of_applySignature_mem {address : UInt64} {signature : Signature}
    (hop : .applySignature address signature ∈ importOperations config c t) :
    ∃ i, ∃ m ∈ (c.record i).methods, m.address = address ∧
      signature = signatureOf (registeredHandles config c t) i m := by
  rcases mem_importOperations.1 hop with hop | hop | hop | hop
  · have hpart := labelOperations_part hop
    cases hpart
  · have hpart := defineOperations_part hop
    cases hpart
  · have hpart := rebuildOperations_part hop
    cases hpart
  · obtain ⟨i, m, hm, t', hop⟩ := mem_signatureOperations hop
    rcases (FunctionPlan.mem_operations hop).2 with heq | heq
    · unfold FunctionPlan.naming at heq
      split at heq <;> cases heq
    · unfold FunctionPlan.signing at heq
      cases heq
      exact ⟨i, m, hm, rfl, rfl⟩

theorem get_handlesIn (category : String) (p : Program) (i : c.Index) :
    (handlesIn c category p).get i = representationIn category p (c.record i) :=
  Vector.getElem_map _ i.isLt

theorem registeredHandles_namedIn
    (hpasses : (t.run (labelOperations config c)).Passes
      (defineOperations config.category c.toList)) :
    (registeredHandles config c t).NamedIn config.category
      (t.run (registrationOperations config c)).program := by
  unfold registeredHandles registrationOperations
  rw [Target.run_append]
  intro i
  rw [get_handlesIn]
  unfold Represents representationIn
  cases hi : scalarOfSystemType? (c.record i).systemType with
  | some kind => rfl
  | none =>
    have hstructured : (c.record i).isStructured = true := by
      unfold TypeRecord.isStructured
      rw [hi]
      rfl
    obtain ⟨k, hk⟩ := handleOf?_of_registered hpasses (mem_toList.2 ⟨i, rfl⟩) hstructured
    rw [hk]
    exact ⟨k, rfl, rfl⟩

theorem refersRightly_of_passes (hpasses : t.Passes (importOperations config c t)) :
    (t.run (importOperations config c t)).program.RefersRightly config
      (registeredHandles config c t) (importOperations config c t) := by
  have hnamed : (registeredHandles config c t).NamedIn config.category
      (t.run (importOperations config c t)).program := by
    unfold importOperations structureOperations at hpasses ⊢
    rw [Target.passes_append_iff, Target.passes_append_iff] at hpasses
    obtain ⟨⟨hregistration, -⟩, -⟩ := hpasses
    unfold registrationOperations at hregistration
    rw [Target.passes_append_iff] at hregistration
    rw [List.append_assoc, Target.run_append]
    exact (registeredHandles_namedIn hregistration.2).mono (Target.run_extends _ _)
  constructor
  · intro k ms hop
    obtain ⟨i, hi, rfl⟩ := exists_of_rebuild_mem hop
    refine ⟨i, hi, rfl, fun m hm => ?_⟩
    obtain ⟨target, htarget⟩ := layout_standsFor hm
    have hmentions := hnamed.mentions_member htarget
    exact ⟨hmentions.spells, target, htarget, hmentions⟩
  · intro address signature hop
    obtain ⟨i, m, hm, haddress, rfl⟩ := exists_of_applySignature_mem hop
    have hmentions := hnamed.mentions_signature i m
    exact ⟨i, m, hm, haddress, rfl, hmentions, hmentions.result.spells,
      spells_of_forall₂ hmentions.parameters⟩

end

/-- After an import that ended well, every member and signature that it wrote mentions structures
only for the types that it stands for. All of them are there under the names of their types, and
whatever else a program holds was there before. -/
theorem importDump_refersRightly {config : ImportConfig} {source : ChunkSource} {ws : Workspace}
    {session : ImportSession} (h : (importDump config source ws).result = .ok session) :
    (load source config.chunkSize).result = .ok session.catalog ∧
      ∃ asked : List Operation,
        (importDump config source ws).workspace.target.attempts =
          ws.target.attempts ++ asked.toArray ∧
        ws.program.WrittenBy asked (importDump config source ws).workspace.program ∧
        (importDump config source ws).workspace.program.RefersRightly config session.handles
          asked := by
  cases hload : (load source config.chunkSize).result with
  | error e =>
    rw [(importDump_of_error hload ws).1] at h
    cases h
  | ok c =>
    obtain ⟨hplay, hsession⟩ := importDump_play hload ws
    obtain ⟨report, rfl⟩ := hsession session h
    rw [h] at hplay
    obtain ⟨hpasses, htarget⟩ := Target.passes_of_play_eq_none hplay
    refine ⟨rfl, importOperations config c ws.target, ?_, ?_, ?_⟩
    · rw [htarget, Target.run_attempts]
    · unfold Workspace.program
      rw [htarget]
      exact Target.run_writtenBy _ _
    · unfold Workspace.program
      rw [htarget]
      exact refersRightly_of_passes hpasses

/-- A type with a field and a method that refer to it, in front of a number. -/
def nodeTypes : List TypeDescriptor :=
  [ { fullName := "app.Node", objectKind := 1, length := 16, runtimeLength := 32, systemType := 28
      fields := [⟨"next", 0, 0, 0⟩, ⟨"tag", 1, 8, 0⟩]
      methods := [⟨"link", 0x1000, ⟨0⟩, 0, [⟨"other", 0, 1⟩]⟩] },
    { fullName := "System.Int32", objectKind := 5, length := 4, runtimeLength := 20
      systemType := 18 } ]

def nodeSource : ChunkSource :=
  (MemorySource.ofChunks (splitFrom defaultChunkSize.toNat (by decide) 0 nodeTypes)).source

theorem node_refersRightly :
    ∃ session, (importDump {} nodeSource blankWorkspace).result = .ok session ∧
      (load nodeSource defaultChunkSize).result = .ok session.catalog ∧
      ∃ asked : List Operation,
        (importDump {} nodeSource blankWorkspace).workspace.target.attempts =
          blankWorkspace.target.attempts ++ asked.toArray ∧
        blankWorkspace.program.WrittenBy asked
          (importDump {} nodeSource blankWorkspace).workspace.program ∧
        (importDump {} nodeSource blankWorkspace).workspace.program.RefersRightly {} session.handles
          asked := by
  obtain ⟨c, hc⟩ : ∃ c, Catalog.ofRecords (recordsInRow nodeTypes) = .ok c :=
    ⟨_, Catalog.ofRecords_eq_ok_iff.2 ⟨rfl, by decide +kernel, rfl, rfl⟩⟩
  have hload : (load nodeSource defaultChunkSize).result = .ok c :=
    (load_split (by decide) (by decide)).trans hc
  have hroom : blankWorkspace.program.structs.size + c.size ≤ Program.structBound := by
    rw [(Catalog.records_of_ofRecords hc).1]
    decide
  obtain ⟨session, hsession⟩ : ∃ session,
      (importDump {} nodeSource blankWorkspace).result = .ok session :=
    importDump_of_room hload (Target.isOpen_ofProgram _) hroom
  exact ⟨session, hsession, importDump_refersRightly hsession⟩

end TypeRecovery
