import Mathlib.Data.List.Basic
import TypeRecovery.Proofs.Memory.Names
import TypeRecovery.Proofs.Results

/-!
# Files in a directory

The path of a file leads through the directory that lists it. So what is read there is the entry
that was listed.
-/

namespace TypeRecovery

/-! ## Paths -/

theorem splitSlashes_append (word cs ds : List Char) :
    splitSlashes word (cs ++ '/' :: ds) = splitSlashes word cs ++ splitSlashes [] ds := by
  induction cs generalizing word with
  | nil => simp [splitSlashes]
  | cons c cs ih =>
    rw [List.cons_append, splitSlashes, splitSlashes]
    split
    · rw [ih, List.cons_append]
    · exact ih (c :: word)

theorem splitSlashes_of_not_mem {cs : List Char} (hcs : '/' ∉ cs) (word : List Char) :
    splitSlashes word cs = [String.ofList (word.reverse ++ cs)] := by
  induction cs generalizing word with
  | nil => simp [splitSlashes]
  | cons c cs ih =>
    rw [List.mem_cons, not_or] at hcs
    rw [splitSlashes, if_neg (Ne.symm hcs.1), ih hcs.2, List.reverse_cons, List.append_assoc,
      List.singleton_append]

/-- A name that is one step on a path, into a directory. -/
structure IsEntryName (name : String) : Prop where
  nonempty : name ≠ ""
  ne_here : name ≠ "."
  ne_up : name ≠ ".."
  no_slash : '/' ∉ name.toList

theorem IsEntryName.splitSlashes_eq {name : String} (hname : IsEntryName name) :
    splitSlashes [] name.toList = [name] := by
  rw [splitSlashes_of_not_mem hname.no_slash, List.reverse_nil, List.nil_append,
    String.ofList_toList]

theorem isEntryName_memoryFileName (base : UInt64) : IsEntryName (memoryFileName base) := by
  have hlength : (memoryFileName base).toList.length = 20 := by
    rw [toList_memoryFileName, List.length_append, length_fixedHex]
    rfl
  have hne : ∀ name : String, name.toList.length < 20 → memoryFileName base ≠ name := by
    rintro name hshort rfl
    omega
  exact ⟨hne _ (by decide), hne _ (by decide), hne _ (by decide),
    not_mem_memoryFileName rfl (by decide) base⟩

variable {dir name : String}

theorem toList_joinPath (hdir : dir ≠ "") (name : String) :
    ∃ cs, (joinPath dir name).toList = cs ++ '/' :: name.toList ∧
      (dir.toList = cs ∨ dir.toList = cs ++ ['/']) := by
  have hempty : ¬dir.isEmpty = true := by simpa using hdir
  unfold joinPath
  rw [if_neg hempty]
  split
  · rename_i hslash
    obtain ⟨cs, hcs⟩ := List.getLast?_eq_some_iff.1 hslash
    refine ⟨cs, ?_, .inr hcs⟩
    rw [String.toList_append, hcs, List.append_assoc]
    rfl
  · refine ⟨dir.toList, ?_, .inl rfl⟩
    rw [String.toList_append, String.toList_append, List.append_assoc]
    rfl

theorem ofText_joinPath (hdir : dir ≠ "") (hname : IsEntryName name) :
    Path.ofText (joinPath dir name) =
      ⟨(Path.ofText dir).rooted, (Path.ofText dir).steps ++ [name], false⟩ := by
  obtain ⟨cs, hpath, hcs⟩ := toList_joinPath hdir name
  have hchars : name.toList ≠ [] := by simpa using hname.nonempty
  have hdirne : dir.toList ≠ [] := by simpa using hdir
  have hlast : ¬(cs ++ '/' :: name.toList).getLast? = some '/' := by
    intro hslash
    rw [List.append_cons, List.getLast?_append_of_ne_nil _ hchars] at hslash
    exact hname.no_slash (List.mem_of_getLast? hslash)
  unfold Path.ofText
  dsimp only
  rw [hpath, splitSlashes_append, hname.splitSlashes_eq, List.filter_append]
  congr 1
  · rcases hcs with hcs | hcs
    · rw [hcs] at hdirne ⊢
      rw [List.head?_append_of_ne_nil _ hdirne]
    · rw [hcs]
      cases cs <;> rfl
  · rcases hcs with hcs | hcs
    · rw [hcs]
      simp [hname.nonempty]
    · rw [hcs, splitSlashes_append]
      simp [hname.nonempty, splitSlashes]
  · exact decide_eq_false hlast

/-! ## Listing and reading -/

namespace FileTree

variable {tree : FileTree} {entries : List (String × FileEntry)} {entry : FileEntry}

theorem follow_append (tree : FileTree) (rooted : Bool) (steps more : List String) :
    tree.follow rooted (steps ++ more) =
      tree.follow rooted steps >>= fun p => more.foldlM Place.step p := by
  unfold follow stepsFrom
  split
  · rw [List.foldlM_append]
  · rw [← List.append_assoc, List.foldlM_append]

theorem eq_of_step_here {p q : Place} (h : p.step "." = .ok q) : q = p := by
  obtain ⟨child, -, h⟩ := exists_of_bind_eq_ok h
  cases h
  rfl

theorem child?_of_entries {p : Place} (hp : p.entry = .dir entries) {child : Option FileEntry}
    (h : p.child? name = .ok child) : child = entries.lookup name := by
  obtain ⟨found, hfound, h⟩ := exists_of_bind_eq_ok h
  unfold Place.entries at hfound
  rw [hp] at hfound
  cases hfound
  split at h
  · cases h
  · cases h
    rfl

theorem lookup_of_step {p q : Place} (hp : p.entry = .dir entries) (hname : IsEntryName name)
    (h : p.step name = .ok q) : entries.lookup name = some q.entry := by
  obtain ⟨child, hchild, h⟩ := exists_of_bind_eq_ok h
  rw [← child?_of_entries hp hchild]
  rw [if_neg hname.ne_here, if_neg hname.ne_up] at h
  cases child with
  | some entry =>
    cases h
    rfl
  | none => cases h

theorem exists_place_of_find {path : String} (h : tree.find path = .ok entry) :
    ∃ p, tree.place (.ofText path) = .ok p ∧ p.entry = entry := by
  unfold find at h
  cases hplace : tree.place (.ofText path) with
  | error fault =>
    rw [hplace] at h
    cases h
  | ok p =>
    rw [hplace] at h
    cases h
    exact ⟨p, rfl, rfl⟩

theorem find_of_list (h : tree.list dir = .ok entries) : tree.find dir = .ok (.dir entries) := by
  unfold list at h
  split at h
  · rename_i hfind
    cases h
    exact hfind
  · cases h
  · cases h

theorem ne_empty_of_list (h : tree.list dir = .ok entries) : dir ≠ "" := by
  rintro rfl
  cases h

theorem exists_follow_of_list (h : tree.list dir = .ok entries) :
    ∃ p, tree.follow (Path.ofText dir).rooted (Path.ofText dir).steps = .ok p ∧
      p.entry = .dir entries := by
  obtain ⟨p, hplace, hentry⟩ := exists_place_of_find (find_of_list h)
  obtain ⟨_, -, hfollow⟩ := exists_of_bind_eq_ok hplace
  refine ⟨p, ?_, hentry⟩
  unfold Path.walk at hfollow
  split at hfollow
  · rw [follow_append] at hfollow
    obtain ⟨q, hq, hwalk⟩ := exists_of_bind_eq_ok hfollow
    obtain ⟨q', hstep, hlast⟩ := exists_of_bind_eq_ok hwalk
    cases hlast
    rw [eq_of_step_here hstep]
    exact hq
  · exact hfollow

theorem lookup_of_find (hlist : tree.list dir = .ok entries) (hname : IsEntryName name)
    (hfind : tree.find (joinPath dir name) = .ok entry) : entries.lookup name = some entry := by
  obtain ⟨p, hfollow, hp⟩ := exists_follow_of_list hlist
  obtain ⟨q, hplace, rfl⟩ := exists_place_of_find hfind
  rw [ofText_joinPath (ne_empty_of_list hlist) hname] at hplace
  obtain ⟨_, -, hwalk⟩ := exists_of_bind_eq_ok hplace
  rw [Path.walk, if_neg Bool.false_ne_true, follow_append] at hwalk
  obtain ⟨p', hfollow', hwalk⟩ := exists_of_bind_eq_ok hwalk
  obtain ⟨q', hstep, hlast⟩ := exists_of_bind_eq_ok hwalk
  rw [hfollow] at hfollow'
  cases hfollow'
  cases hlast
  exact lookup_of_step hp hname hstep

end FileTree

theorem lookup_of_mapFile {tree : FileTree} {entries : List (String × FileEntry)}
    {data : ByteArray} (hlist : tree.list dir = .ok entries) (hname : IsEntryName name)
    (hmap : mapFile tree (joinPath dir name) = .ok data) :
    entries.lookup name = some (.file data) := by
  unfold mapFile at hmap
  split at hmap
  · rename_i hfind
    cases hmap
    exact FileTree.lookup_of_find hlist hname hfind
  · cases hmap
  · cases hmap

end TypeRecovery
