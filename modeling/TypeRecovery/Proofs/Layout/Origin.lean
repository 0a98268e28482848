import TypeRecovery.Proofs.Layout.Ruling

/-!
# What members stand for

Each member of a layout stands for a field of the type or of one of its bases, for the elements of an
array container, or for no type of the catalog.
-/

namespace TypeRecovery

variable {c : Catalog}

/-- A member of the layout of type `i` and the type that it holds, or none for filler, the slots of a
header and the counts of an array container. -/
inductive StandsFor (h : Handles c) (sampleLength : UInt32) (i : c.Index) :
    Member → Option c.Index → Prop where
  | filler (start length : Nat) : StandsFor h sampleLength i (.filler start length) none
  | slot {x : Candidate} (hx : x ∈ headerSlots (c.record i).headerLength) :
    StandsFor h sampleLength i x.member none
  | field {f : FieldRecord c.Index} (hf : f ∈ inheritedFields c i) :
    StandsFor h sampleLength i (fieldCandidate h (c.record i).headerLength f).member (some f.type)
  | count (offset : Nat) (name : String) :
    StandsFor h sampleLength i (countField offset name) none
  | elements {e : c.Index} (he : (c.record i).element = some e) (offset : Nat) :
    StandsFor h sampleLength i
      (.field offset dataName
        (.array (h.storage e).type sampleLength.toNat (h.storage e).length)
        (sampleLength.toNat * (h.storage e).length))
      (some e)

theorem mem_place {typeName : String} {cursor : Nat} {cs : List Candidate} {m : Member}
    (hm : m ∈ (place typeName cursor cs).members) :
    (∃ start length, m = .filler start length) ∨ ∃ x ∈ cs, x.member = m := by
  fun_induction place typeName cursor cs with
  | case1 cursor => simp at hm
  | case2 cursor x rest h ih =>
    exact (ih hm).imp_right (Exists.imp fun _ => And.imp_left (List.mem_cons_of_mem x))
  | case3 cursor x rest h hx p ih =>
    exact (ih hm).imp_right (Exists.imp fun _ => And.imp_left (List.mem_cons_of_mem x))
  | case4 cursor x rest h hx start p ih =>
    rcases List.mem_append.1 hm with hm | hm
    · exact .inl ⟨_, _, (mem_fillGap hm).1⟩
    rcases List.mem_cons.1 hm with rfl | hm
    · exact .inr ⟨x, List.mem_cons_self, rfl⟩
    · exact (ih hm).imp_right (Exists.imp fun _ => And.imp_left (List.mem_cons_of_mem x))

theorem mem_pad {typeName : String} {size : UInt32} {p : Placement} {m : Member}
    (hm : m ∈ (pad typeName size p).members) :
    m ∈ p.members ∨ ∃ start length, m = .filler start length := by
  unfold pad at hm
  split at hm
  · exact .inl hm
  · rcases List.mem_append.1 hm with hm | hm
    · exact .inl hm
    · exact .inr ⟨_, _, (mem_fillGap hm).1⟩

section

variable {h : Handles c} {sampleLength : UInt32} {i : c.Index} {m : Member}

theorem candidate_standsFor {x : Candidate} (hx : x ∈ candidates h i) :
    ∃ target, StandsFor h sampleLength i x.member target := by
  rcases List.mem_append.1 hx with hx | hx
  · exact ⟨none, .slot hx⟩
  · obtain ⟨f, hf, rfl⟩ := List.mem_map.1 hx
    exact ⟨some f.type, .field hf⟩

theorem body_standsFor (hm : m ∈ (body h i).members) :
    ∃ target, StandsFor h sampleLength i m target := by
  rcases mem_pad hm with hm | ⟨start, length, rfl⟩
  · rcases mem_place hm with ⟨start, length, rfl⟩ | ⟨x, hx, rfl⟩
    · exact ⟨none, .filler start length⟩
    · exact candidate_standsFor ((sortCandidates_stable _).perm.mem_iff.1 hx)
  · exact ⟨none, .filler start length⟩

theorem trailer_standsFor {e : c.Index} (he : (c.record i).element = some e) {offset : Nat}
    (hm : m ∈ trailer offset (h.storage e) sampleLength.toNat) :
    ∃ target, StandsFor h sampleLength i m target := by
  rcases List.mem_append.1 hm with hm | hm
  · obtain ⟨⟨name, k⟩, -, rfl⟩ := List.mem_map.1 hm
    exact ⟨none, .count _ name⟩
  · rw [List.mem_singleton.1 hm]
    exact ⟨some e, .elements he _⟩

theorem layout_standsFor (hm : m ∈ (layout h sampleLength i).members) :
    ∃ target, StandsFor h sampleLength i m target := by
  unfold layout at hm
  rcases List.mem_append.1 hm with hm | hm
  · exact body_standsFor hm
  · split at hm
    · rename_i e he
      exact trailer_standsFor he hm
    · simp at hm

end

end TypeRecovery
