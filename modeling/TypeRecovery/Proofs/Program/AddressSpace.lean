import TypeRecovery.Proofs.Program.InPlace

/-!
# The address space of a program

Whatever operations lead to, regions hold bytes, end within the address space and share no address.
Labels and functions stand at addresses that may carry them, and a region that was mapped before
them is still there afterwards.
-/

namespace TypeRecovery

/-! ## Regions -/

namespace Region

variable {r : Region} {address base : UInt64} {length : Nat}

/-- The region holds bytes, and the address behind it is one too. -/
structure Bounded (r : Region) : Prop where
  nonempty : r.length ≠ 0
  stop_lt : r.base.toNat + r.length < UInt64.size

/-- The region holds one of `length` addresses from `base` on. -/
def Meets (r : Region) (base : UInt64) (length : Nat) : Prop :=
  ∃ address, r.contains address = true ∧ base.toNat ≤ address.toNat ∧
    address.toNat < base.toNat + length

theorem contains_iff :
    r.contains address = true ↔
      r.base.toNat ≤ address.toNat ∧ address.toNat < r.base.toNat + r.length := by
  simp [contains]

/-- Two ranges that overlap share the larger of their bases. -/
theorem intersects_iff (hr : r.Bounded) (hlength : length ≠ 0) :
    r.intersects base length = true ↔ r.Meets base length := by
  have hsize : UInt64.size = maxAddress + 1 := rfl
  have hpos := Nat.pos_of_ne_zero hr.nonempty
  have hstop : r.stop = r.base.toNat + r.length := by
    have := hr.stop_lt
    unfold stop
    omega
  unfold intersects Meets
  rw [hstop, Bool.and_eq_true, decide_eq_true_eq, decide_eq_true_eq]
  constructor
  · rintro ⟨hbase, hrbase⟩
    rcases Nat.le_total r.base.toNat base.toNat with hle | hle
    · exact ⟨base, contains_iff.2 ⟨hle, hbase⟩, Nat.le_refl _, by omega⟩
    · exact ⟨r.base, contains_iff.2 ⟨Nat.le_refl _, by omega⟩, hle, hrbase⟩
  · rintro ⟨address, hcontains, hfrom, hto⟩
    obtain ⟨hfrom', hto'⟩ := contains_iff.1 hcontains
    omega

end Region

namespace Program

variable {p p' : Program}

/-! ## What always holds -/

structure AddressSpace (p : Program) : Prop where
  bounded : ∀ (i : Nat) (r : Region), p.regions[i]? = some r → r.Bounded
  disjoint : ∀ (i j : Nat) (r r' : Region), p.regions[i]? = some r → p.regions[j]? = some r' →
    ∀ address, r.contains address = true → r'.contains address = true → i = j
  no_label_zero : p.labels.find? 0 = none
  no_function_zero : p.functions.find? 0 = none
  labels : ∀ address names, p.labels.find? address = some names → names ≠ [] ∧ names.Nodup
  functions : ∀ address f, p.functions.find? address = some f → f.address = address

theorem addressSpace_empty : empty.AddressSpace where
  bounded i r hr := by simp [empty] at hr
  disjoint i j r r' hr := by simp [empty] at hr
  no_label_zero := rfl
  no_function_zero := rfl
  labels address names hfind := by simp [empty] at hfind
  functions address f hfind := by simp [empty] at hfind

theorem ne_zero_of_acceptsLabel {address : UInt64} (h : p.acceptsLabel address = true) :
    address ≠ 0 := by
  unfold acceptsLabel at h
  simpa using (Bool.and_eq_true_iff.1 h).1

theorem ne_zero_of_acceptsFunction {address : UInt64} (h : p.acceptsFunction address = true) :
    address ≠ 0 := by
  unfold acceptsFunction at h
  simpa using (Bool.and_eq_true_iff.1 h).1

theorem AddressSpace.label (hp : p.AddressSpace) {address : UInt64} {name : String}
    (h : p.label address name = .ok p') : p'.AddressSpace := by
  obtain ⟨haccepts, rfl⟩ := label_eq_ok_iff.1 h
  refine ⟨hp.bounded, hp.disjoint, ?_, hp.no_function_zero, ?_, hp.functions⟩
  · rw [AddressMap.find?_insert, if_neg (ne_zero_of_acceptsLabel haccepts).symm]
    exact hp.no_label_zero
  · intro other names hfind
    rw [AddressMap.find?_insert] at hfind
    split at hfind
    · -- The labels that were there are different from each other.
      have hold : (p.labelsAt address).Nodup := by
        unfold labelsAt
        cases hfound : p.labels.find? address with
        | none => exact List.nodup_nil
        | some old => exact (hp.labels address old hfound).2
      cases hfind
      split
      · rename_i hmem
        exact ⟨List.ne_nil_of_mem hmem, hold⟩
      · rename_i hnew
        refine ⟨List.concat_ne_nil _ _, ?_⟩
        rw [← List.concat_eq_append]
        exact (List.nodup_concat _ _).2 ⟨hnew, hold⟩
    · exact hp.labels other names hfind

theorem AddressSpace.insert (hp : p.AddressSpace) {f : Function} (hne : f.address ≠ 0) :
    AddressSpace { p with functions := p.functions.insert f.address f } := by
  refine ⟨hp.bounded, hp.disjoint, hp.no_label_zero, ?_, hp.labels, ?_⟩
  · rw [AddressMap.find?_insert, if_neg hne.symm]
    exact hp.no_function_zero
  · intro other g hfind
    rw [AddressMap.find?_insert] at hfind
    split at hfind
    · rename_i hother
      cases hfind
      exact hother.symm
    · exact hp.functions other g hfind

theorem AddressSpace.ne_zero_of_find? (hp : p.AddressSpace) {address : UInt64} {f : Function}
    (hf : p.functions.find? address = some f) : f.address = address ∧ address ≠ 0 := by
  refine ⟨hp.functions address f hf, ?_⟩
  rintro rfl
  rw [hp.no_function_zero] at hf
  cases hf

theorem AddressSpace.mapRegion (hp : p.AddressSpace) {name : String} {base : UInt64}
    {data : ByteArray} {permissions : Permissions}
    (h : p.mapRegion name base data permissions = .ok p') : p'.AddressSpace := by
  obtain ⟨hsize, hend, hfree, rfl⟩ := mapRegion_eq_ok_iff.1 h
  have hbound : UInt64.size = maxAddress + 1 := rfl
  -- No region that is there holds an address of the new one.
  have hapart : ∀ (i : Nat) r, p.regions[i]? = some r → ∀ address, r.contains address = true →
      ¬(Region.mk name base data permissions).contains address = true := by
    intro i r hr address hcontains hnew
    have hmem := Array.mem_of_getElem? hr
    have hmeets : r.Meets base data.size := ⟨address, hcontains, Region.contains_iff.1 hnew⟩
    refine hfree (Array.any_eq_true'.2 ⟨r, hmem, ?_⟩)
    exact (Region.intersects_iff (hp.bounded i r hr) hsize).2 hmeets
  refine ⟨?_, ?_, hp.no_label_zero, hp.no_function_zero, hp.labels, hp.functions⟩
  · intro i r hr
    rw [Array.getElem?_push] at hr
    split at hr
    · cases hr
      exact ⟨hsize, by show base.toNat + data.size < _; omega⟩
    · exact hp.bounded i r hr
  · intro i j r r' hr hr' address hcontains hcontains'
    rw [Array.getElem?_push] at hr hr'
    split at hr
    · rename_i hi
      split at hr'
      · rename_i hj
        rw [hi, hj]
      · cases hr
        exact absurd hcontains (hapart j r' hr' address hcontains')
    · split at hr'
      · cases hr'
        exact absurd hcontains' (hapart i r hr address hcontains)
      · exact hp.disjoint i j r r' hr hr' address hcontains hcontains'

theorem AddressSpace.congr (hp : p.AddressSpace) (hlabels : p'.labels = p.labels)
    (hfunctions : p'.functions = p.functions) (hregions : p'.regions = p.regions) :
    p'.AddressSpace := by
  obtain ⟨hbounded, hdisjoint, hlabel, hfunction, hnames, haddresses⟩ := hp
  rw [← hregions] at hbounded hdisjoint
  rw [← hlabels] at hlabel hnames
  rw [← hfunctions] at hfunction haddresses
  exact ⟨hbounded, hdisjoint, hlabel, hfunction, hnames, haddresses⟩

theorem AddressSpace.perform (hp : p.AddressSpace) {op : Operation}
    (h : p.perform op = .ok p') : p'.AddressSpace := by
  have hagree := perform_agreeOutside h
  cases op with
  | label address name => exact hp.label h
  | define | rebuild =>
    exact hp.congr (hagree.labels nofun) (hagree.functions nofun) (hagree.regions nofun)
  | createFunction address name =>
    obtain ⟨haccepts, rfl⟩ := createFunction_eq_ok_iff.1 h
    exact hp.insert (f := ⟨address, name, none⟩) (ne_zero_of_acceptsFunction haccepts)
  | renameFunction address name =>
    obtain ⟨f, hf, rfl⟩ := renameFunction_eq_ok_iff.1 h
    obtain ⟨rfl, hne⟩ := hp.ne_zero_of_find? hf
    exact hp.insert (f := { f with name := name }) hne
  | applySignature address signature =>
    obtain ⟨f, hf, rfl⟩ := applySignature_eq_ok_iff.1 h
    obtain ⟨rfl, hne⟩ := hp.ne_zero_of_find? hf
    exact hp.insert (f := { f with signature := some signature }) hne
  | mapRegion name base data permissions => exact hp.mapRegion h

theorem addressSpace_after (ops : List Operation) : (empty.after ops).AddressSpace :=
  after_keeps (fun _ _ _ hp h => hp.perform h) addressSpace_empty ops

/-! ## What stays -/

variable {address : UInt64} {name : String}

theorem regions_perform {op : Operation} (h : p.perform op = .ok p') :
    ∃ more, p'.regions = p.regions ++ more := by
  by_cases hpart : op.part = .regions
  · cases op with
    | mapRegion name base data permissions =>
      obtain ⟨-, -, -, rfl⟩ := mapRegion_eq_ok_iff.1 h
      exact ⟨#[⟨name, base, data, permissions⟩], Array.push_eq_append⟩
    | _ => cases hpart
  · exact ⟨#[], by rw [(perform_agreeOutside h).regions hpart, Array.append_empty]⟩

theorem mem_regions_after {r : Region} (hr : r ∈ p.regions) (ops : List Operation) :
    r ∈ (p.after ops).regions := by
  refine after_keeps (P := fun p => r ∈ p.regions) ?_ hr ops
  intro op p p' hr h
  obtain ⟨more, hmore⟩ := regions_perform h
  rw [hmore]
  exact Array.mem_append_left _ hr

theorem label_stays {op : Operation} (hname : name ∈ p.labelsAt address)
    (h : p.perform op = .ok p') : name ∈ p'.labelsAt address := by
  by_cases hpart : op.part = .labels
  · obtain ⟨other, name', rfl⟩ := Operation.eq_label_of_part hpart
    exact mem_labelsAt_label h (.inl hname)
  · unfold labelsAt at hname ⊢
    rw [(perform_agreeOutside h).labels hpart]
    exact hname

theorem isSome_find?_insert {functions : AddressMap Function}
    (hf : (functions.find? address).isSome) (other : UInt64) (f : Function) :
    ((functions.insert other f).find? address).isSome := by
  rw [AddressMap.find?_insert]
  split
  · rfl
  · exact hf

theorem function_stays {op : Operation} (hf : (p.function? address).isSome)
    (h : p.perform op = .ok p') : (p'.function? address).isSome := by
  unfold function? at hf ⊢
  by_cases hpart : op.part = .functions
  · cases op with
    | createFunction other name =>
      obtain ⟨-, rfl⟩ := createFunction_eq_ok_iff.1 h
      exact isSome_find?_insert hf _ _
    | renameFunction other name =>
      obtain ⟨f, -, rfl⟩ := renameFunction_eq_ok_iff.1 h
      exact isSome_find?_insert hf _ _
    | applySignature other signature =>
      obtain ⟨f, -, rfl⟩ := applySignature_eq_ok_iff.1 h
      exact isSome_find?_insert hf _ _
    | _ => cases hpart
  · rw [(perform_agreeOutside h).functions hpart]
    exact hf

/-- A label that is there, in one of the regions. -/
def LabelMapped (p : Program) (address : UInt64) (name : String) : Prop :=
  name ∈ p.labelsAt address ∧ ∃ r ∈ p.regions, r.contains address = true

/-- A function that is there, in a region with code. -/
def FunctionMapped (p : Program) (address : UInt64) : Prop :=
  (p.function? address).isSome ∧ ∃ r ∈ p.regions,
    r.permissions.allows Permissions.execute = true ∧ r.contains address = true

theorem LabelMapped.after (h : p.LabelMapped address name) (ops : List Operation) :
    (p.after ops).LabelMapped address name := by
  obtain ⟨hname, r, hr, hcontains⟩ := h
  exact ⟨after_keeps (fun _ _ _ => label_stays) hname ops, r, mem_regions_after hr ops, hcontains⟩

theorem FunctionMapped.after (h : p.FunctionMapped address) (ops : List Operation) :
    (p.after ops).FunctionMapped address := by
  obtain ⟨hf, r, hr, hcontains⟩ := h
  exact ⟨after_keeps (fun _ _ _ => function_stays) hf ops, r, mem_regions_after hr ops, hcontains⟩

theorem labelMapped_of_label (hmapped : p.regions ≠ #[]) (h : p.label address name = .ok p') :
    p'.LabelMapped address name := by
  obtain ⟨haccepts, hp⟩ := label_eq_ok_iff.1 h
  refine ⟨mem_labelsAt_label h (.inr ⟨rfl, rfl⟩), ?_⟩
  rw [hp]
  have hsome := (Bool.and_eq_true_iff.1 haccepts).2
  rw [Array.isEmpty_eq_false_iff.2 hmapped, Bool.false_or] at hsome
  exact Array.any_eq_true'.1 hsome

theorem functionMapped_of_createFunction (hmapped : p.regions ≠ #[])
    (h : p.createFunction address name = .ok p') : p'.FunctionMapped address := by
  obtain ⟨haccepts, rfl⟩ := createFunction_eq_ok_iff.1 h
  refine ⟨?_, ?_⟩
  · unfold function?
    rw [AddressMap.find?_insert, if_pos rfl]
    rfl
  · have hsome := (Bool.and_eq_true_iff.1 haccepts).2
    rw [Array.isEmpty_eq_false_iff.2 hmapped, Bool.false_or] at hsome
    obtain ⟨r, hr, hallows⟩ := Array.any_eq_true'.1 hsome
    exact ⟨r, hr, Bool.and_eq_true_iff.1 hallows⟩

/-! ## Mapping a region -/

/-- What becomes of a request for a region. -/
structure MapsRegion (p : Program) (name : String) (base : UInt64) (data : ByteArray)
    (permissions : Permissions) : Prop where
  succeeds_iff : (∃ p', p.mapRegion name base data permissions = .ok p') ↔
    data.size ≠ 0 ∧ base.toNat + data.size < UInt64.size ∧
      ¬∃ r ∈ p.regions, r.Meets base data.size
  added : ∀ p', p.mapRegion name base data permissions = .ok p' →
    p' = { p with regions := p.regions.push ⟨name, base, data, permissions⟩ }
  empty : data.size = 0 → p.mapRegion name base data permissions = .error (.emptyRegion name)
  wraps : data.size ≠ 0 → UInt64.size ≤ base.toNat + data.size →
    p.mapRegion name base data permissions = .error (.invalidAddress base)
  overlaps : data.size ≠ 0 → base.toNat + data.size < UInt64.size →
    (∃ r ∈ p.regions, r.Meets base data.size) →
    p.mapRegion name base data permissions = .error (.regionOverlap base data.size)

theorem AddressSpace.any_intersects_iff (hp : p.AddressSpace) (base : UInt64) {length : Nat}
    (hlength : length ≠ 0) :
    p.regions.any (·.intersects base length) = true ↔ ∃ r ∈ p.regions, r.Meets base length := by
  have hbounded : ∀ r ∈ p.regions, r.Bounded := by
    intro r hr
    obtain ⟨i, hi⟩ := Array.mem_iff_getElem?.1 hr
    exact hp.bounded i r hi
  rw [Array.any_eq_true']
  refine exists_congr fun r => and_congr_right fun hr => ?_
  exact Region.intersects_iff (hbounded r hr) hlength

theorem AddressSpace.mapsRegion (hp : p.AddressSpace) (name : String) (base : UInt64)
    (data : ByteArray) (permissions : Permissions) :
    p.MapsRegion name base data permissions := by
  have hsize : UInt64.size = maxAddress + 1 := rfl
  constructor
  · constructor
    · rintro ⟨p', h⟩
      obtain ⟨hdata, hend, hfree, -⟩ := mapRegion_eq_ok_iff.1 h
      rw [hp.any_intersects_iff base hdata] at hfree
      exact ⟨hdata, by omega, hfree⟩
    · rintro ⟨hdata, hend, hfree⟩
      rw [← hp.any_intersects_iff base hdata] at hfree
      exact ⟨_, mapRegion_eq_ok_iff.2 ⟨hdata, by omega, hfree, rfl⟩⟩
  · intro p' h
    exact (mapRegion_eq_ok_iff.1 h).2.2.2
  · intro hdata
    unfold Program.mapRegion
    rw [if_pos hdata]
  · intro hdata hwraps
    unfold Program.mapRegion
    rw [if_neg hdata, if_pos (by omega)]
  · intro hdata hend hmeets
    unfold Program.mapRegion
    rw [if_neg hdata, if_neg (by omega), if_pos ((hp.any_intersects_iff base hdata).2 hmeets)]

end Program

/-! ## Programs that operations lead to -/

theorem Target.attempt_program_of_error {t : Target} {op : Operation} {e : Error}
    (h : (t.attempt op).1 = .error e) : (t.attempt op).2.program = t.program := by
  unfold attempt at h ⊢
  split
  · rfl
  · rename_i hrefuses
    rw [if_neg hrefuses] at h
    cases hperform : t.program.perform op with
    | ok p =>
      rw [hperform] at h
      cases h
    | error e => rfl

/-- Whatever operations lead to, regions, labels and functions are where they may be. A label or a
function that was put into memory stays there, a region is mapped exactly where there is room, and
what is not accepted changes nothing, even if it is carried out in place. -/
theorem after_addressSpace (ops : List Operation) :
    (Program.empty.after ops).AddressSpace ∧
      (∀ address name p', (Program.empty.after ops).regions ≠ #[] →
        (Program.empty.after ops).label address name = .ok p' →
        ∀ more, (p'.after more).LabelMapped address name) ∧
      (∀ address name p', (Program.empty.after ops).regions ≠ #[] →
        (Program.empty.after ops).createFunction address name = .ok p' →
        ∀ more, (p'.after more).FunctionMapped address) ∧
      (∀ name base data permissions,
        (Program.empty.after ops).MapsRegion name base data permissions) ∧
      (∀ op e, ((Target.ofProgram (Program.empty.after ops)).attempt op).1 = .error e →
        (Program.empty.after (ops ++ [op])) = Program.empty.after ops) ∧
      Program.empty.afterSteps ops = Program.empty.after ops ∧
      (∀ op : Operation, (op.steps.on (Program.empty.after ops)).1 =
        ((Target.ofProgram (Program.empty.after ops)).attempt op).1) ∧
      ∀ (op : Operation) e, (op.steps.on (Program.empty.after ops)).1 = .error e →
        (op.steps.on (Program.empty.after ops)).2 = Program.empty.after ops := by
  have hspace := Program.addressSpace_after ops
  refine ⟨hspace, ?_, ?_, hspace.mapsRegion, ?_, Program.afterSteps_eq _ ops, ?_,
    fun _ _ => Operation.steps_on_of_error⟩
  · intro address name p' hmapped h more
    exact (Program.labelMapped_of_label hmapped h).after more
  · intro address name p' hmapped h more
    exact (Program.functionMapped_of_createFunction hmapped h).after more
  · intro op e h
    rw [Program.after_append]
    exact Target.attempt_program_of_error h
  · intro op
    rw [Operation.steps_on, Program.settle_eq, (Target.isOpen_ofProgram _).attempt_fst]
    rfl

end TypeRecovery
