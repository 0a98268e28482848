import TypeRecovery.Json.Decode
import TypeRecovery.Proofs.Json.Scan

/-!
# Trees

The tokens of a value build the tree of the value. So the text of a value is a document that holds
it and nothing else. Whatever the text, every literal in its tree is well-formed.
-/

namespace TypeRecovery.Json

/-! ## Induction -/

namespace Value

@[elab_as_elim]
theorem ind {motive : Value → Prop} (null : motive .null) (bool : ∀ b, motive (.bool b))
    (number : ∀ n, motive (.number n)) (string : ∀ s, motive (.string s))
    (array : ∀ items, (∀ v ∈ items, motive v) → motive (.array items))
    (object : ∀ members, (∀ m ∈ members, motive m.2) → motive (.object members)) (v : Value) :
    motive v := by
  refine @Value.rec motive (fun items => ∀ v ∈ items, motive v)
    (fun members => ∀ m ∈ members, motive m.2) (fun m => motive m.2)
    null bool number string array object ?_ ?_ ?_ ?_ ?_ v
  case refine_1 | refine_3 => simp
  case refine_2 | refine_4 =>
    intro _ _ hhead htail x hx
    rcases List.mem_cons.1 hx with rfl | hx
    · exact hhead
    · exact htail x hx
  case refine_5 => exact fun _ _ h => h

/-- A value in which every literal is well-formed. -/
inductive WellFormed : Value → Prop
  | null : WellFormed .null
  | bool (b : Bool) : WellFormed (.bool b)
  | number {n : Number} (h : n.WellFormed) : WellFormed (.number n)
  | string (s : String) : WellFormed (.string s)
  | array {items : List Value} (h : ∀ v ∈ items, WellFormed v) : WellFormed (.array items)
  | object {members : List (String × Value)} (h : ∀ m ∈ members, WellFormed m.2) :
    WellFormed (.object members)

end Value

/-! ## Tokens of a value -/

/-- Tokens that may stand behind a number. -/
structure Follow (ts : List Token) : Prop where
  spelled : Spelled ts
  apart : ∀ t ∈ ts.head?, t.isNumber = false

theorem Spelled.cons {ts : List Token} (h : Spelled ts) (t : Token) (ht : t.Written)
    (hnumber : t.isNumber = false) : Follow (t :: ts) where
  spelled := ⟨ht, by simp [hnumber], h⟩
  apart := by simpa using hnumber

namespace Value

theorem spelled_itemTokens {items : List Value}
    (hitems : ∀ v ∈ items, ∀ rest, Follow rest → Spelled (tokens rest v)) {rest : List Token}
    (hrest : Follow rest) : Spelled (itemTokens rest items) := by
  induction items with
  | nil => exact hrest.spelled
  | cons v items ih =>
    cases items with
    | nil => exact hitems v (.head []) rest hrest
    | cons w more =>
      have hmore := ih fun u hu => hitems u (.tail v hu)
      exact hitems v (.head _) _ (hmore.cons .comma trivial rfl)

theorem spelled_memberTokens {members : List (String × Value)}
    (hmembers : ∀ m ∈ members, ∀ rest, Follow rest → Spelled (tokens rest m.2)) {rest : List Token}
    (hrest : Follow rest) : Spelled (memberTokens rest members) := by
  have hkey : ∀ k ts, Spelled ts → Spelled (.string (some k) :: .colon :: ts) := fun k ts h =>
    ((h.cons .colon trivial rfl).spelled.cons (.string (some k)) rfl rfl).spelled
  induction members with
  | nil => exact hrest.spelled
  | cons m members ih =>
    obtain ⟨k, v⟩ := m
    cases members with
    | nil => exact hkey k _ (hmembers (k, v) (.head []) rest hrest)
    | cons m' more =>
      have hmore := ih fun m hm => hmembers m (.tail _ hm)
      exact hkey k _ (hmembers (k, v) (.head _) _ (hmore.cons .comma trivial rfl))

theorem spelled_tokens {v : Value} (hv : v.WellFormed) :
    ∀ rest, Follow rest → Spelled (tokens rest v) := by
  induction hv with
  | null => exact fun rest hrest => (hrest.spelled.cons .null trivial rfl).spelled
  | bool b => exact fun rest hrest => (hrest.spelled.cons (.bool b) trivial rfl).spelled
  | number h => exact fun rest hrest => ⟨h, fun _ => hrest.apart, hrest.spelled⟩
  | string s => exact fun rest hrest => (hrest.spelled.cons (.string (some s)) rfl rfl).spelled
  | array _ ih =>
    intro rest hrest
    have hitems := spelled_itemTokens ih (hrest.spelled.cons .closeArray trivial rfl)
    exact (hitems.cons .openArray trivial rfl).spelled
  | object _ ih =>
    intro rest hrest
    have hmembers := spelled_memberTokens ih (hrest.spelled.cons .closeObject trivial rfl)
    exact (hmembers.cons .openObject trivial rfl).spelled

theorem scan_compact {v : Value} (hv : v.WellFormed) :
    scan (.ofString v.compact) = v.tokens [] := by
  unfold Input.ofString compact
  rw [String.toList_ofList]
  exact scan_texts (spelled_tokens hv [] ⟨trivial, by simp⟩)

end Value

/-! ## From the tokens to the tree -/

theorem Progress.take_item (frames : List Frame) {t : Token} (ht : t ≠ .closeArray) :
    take (.open frames .item) t = take (.open frames .value) t := by
  rw [take, take]
  rintro _ _ rfl rfl
  exact ht rfl

theorem Value.tokens_eq_cons (v : Value) (rest : List Token) :
    ∃ t ts, v.tokens rest = t :: ts ∧ t ≠ .closeArray := by
  cases v <;> exact ⟨_, _, rfl, by simp⟩

theorem foldl_tokens_item (v : Value) (frames : List Frame) (rest : List Token) :
    (v.tokens rest).foldl Progress.take (.open frames .item) =
      (v.tokens rest).foldl Progress.take (.open frames .value) := by
  obtain ⟨t, ts, htokens, ht⟩ := v.tokens_eq_cons rest
  rw [htokens, List.foldl_cons, List.foldl_cons, Progress.take_item frames ht]

/-- The tokens of a value lead to where the value is complete. -/
def Builds (v : Value) : Prop :=
  ∀ frames rest, (v.tokens rest).foldl Progress.take (.open frames .value) =
    rest.foldl Progress.take (finish (Node.ofValue v) frames)

theorem foldl_itemTokens {v : Value} {items : List Value} (hv : Builds v)
    (hitems : ∀ w ∈ items, Builds w) (done : List Node) (frames : List Frame) (rest : List Token) :
    (Value.itemTokens (.closeArray :: rest) (v :: items)).foldl Progress.take
        (.open (.items done :: frames) .value) =
      rest.foldl Progress.take
        (finish (.array (done.reverse ++ Node.ofItems (v :: items)) none) frames) := by
  induction items generalizing v done with
  | nil =>
    rw [Value.itemTokens, hv, Node.ofItems, Node.ofItems, ← List.reverse_cons]
    rfl
  | cons w more ih =>
    have hrest := ih (hitems w (.head more)) (fun u hu => hitems u (.tail w hu))
      (Node.ofValue v :: done)
    rw [List.reverse_cons, List.append_assoc] at hrest
    rw [Value.itemTokens, hv]
    exact hrest

theorem foldl_memberTokens {m : String × Value} {members : List (String × Value)}
    (hm : Builds m.2) (hmembers : ∀ m ∈ members, Builds m.2) (done : List (Option String × Node))
    (frames : List Frame) (rest : List Token) :
    (Value.memberTokens (.closeObject :: rest) (m :: members)).foldl Progress.take
        (.open (.members done none :: frames) .key) =
      rest.foldl Progress.take
        (finish (.object (done.reverse ++ Node.ofMembers (m :: members)) none) frames) := by
  induction members generalizing m done with
  | nil =>
    rw [Node.ofMembers, Node.ofMembers, ← List.reverse_cons]
    exact hm (.members done (some m.1) :: frames) (.closeObject :: rest)
  | cons m' more ih =>
    have hrest := ih (hmembers m' (.head more)) (fun x hx => hmembers x (.tail m' hx))
      ((some m.1, Node.ofValue m.2) :: done)
    rw [List.reverse_cons, List.append_assoc] at hrest
    exact (hm (.members done (some m.1) :: frames) _).trans hrest

theorem builds (v : Value) : Builds v := by
  induction v using Value.ind with
  | null => exact fun frames rest => rfl
  | bool b => exact fun frames rest => rfl
  | number n => exact fun frames rest => rfl
  | string s => exact fun frames rest => rfl
  | array items ih =>
    intro frames rest
    cases items with
    | nil => rfl
    | cons v items =>
      have hitems := foldl_itemTokens (ih v (.head items)) (fun w hw => ih w (.tail v hw)) []
        frames rest
      cases items with
      | nil => exact (foldl_tokens_item v (.items [] :: frames) _).trans hitems
      | cons w more => exact (foldl_tokens_item v (.items [] :: frames) _).trans hitems
  | object members ih =>
    intro frames rest
    cases members with
    | nil => rfl
    | cons m members =>
      have hmembers := foldl_memberTokens (ih m (.head members)) (fun x hx => ih x (.tail m hx)) []
        frames rest
      cases members with
      | nil => exact hmembers
      | cons m' more => exact hmembers

theorem ofTokens_tokens (v : Value) : Document.ofTokens (v.tokens []) = ⟨Node.ofValue v, false⟩ := by
  unfold Document.ofTokens
  rw [builds v]
  rfl

theorem ofInput_compact {v : Value} (hv : v.WellFormed) :
    Document.ofInput (.ofString v.compact) = ⟨Node.ofValue v, false⟩ := by
  unfold Document.ofInput
  rw [Value.scan_compact hv, ofTokens_tokens]

/-! ## Literals in a tree -/

/-- A node in which every literal is well-formed. -/
inductive Node.WellFormed : Node → Prop
  | null : WellFormed .null
  | bool (b : Bool) : WellFormed (.bool b)
  | number {n : Number} (h : n.WellFormed) : WellFormed (.number n)
  | string (text : Option String) : WellFormed (.string text)
  | array {items : List Node} (stop : Option Break) (h : ∀ node ∈ items, WellFormed node) :
    WellFormed (.array items stop)
  | object {members : List (Option String × Node)} (stop : Option Break)
    (h : ∀ m ∈ members, WellFormed m.2) : WellFormed (.object members stop)
  | broken (stop : Break) : WellFormed (.broken stop)

def Frame.WellFormed : Frame → Prop
  | .items done => ∀ node ∈ done, node.WellFormed
  | .members done _ => ∀ m ∈ done, m.2.WellFormed

def Progress.WellFormed : Progress → Prop
  | .open frames _ => ∀ frame ∈ frames, frame.WellFormed
  | .complete document => document.root.WellFormed
  | .stopped root => root.WellFormed

section

variable {frames : List Frame} {node : Node} {t : Token}

theorem Frame.WellFormed.push_item {done : List Node} (hdone : (Frame.items done).WellFormed)
    (hnode : node.WellFormed) : (Frame.items (node :: done)).WellFormed := by
  rintro x (_ | ⟨_, hx⟩)
  · exact hnode
  · exact hdone x hx

theorem Frame.WellFormed.push_member {done : List (Option String × Node)} {key : Option String}
    (hdone : (Frame.members done key).WellFormed) (hnode : node.WellFormed) (key' : Option String) :
    (Frame.members ((key, node) :: done) key').WellFormed := by
  rintro x (_ | ⟨_, hx⟩)
  · exact hnode
  · exact hdone x hx

theorem Frame.WellFormed.array {done : List Node} (hdone : (Frame.items done).WellFormed)
    (stop : Option Break) : (Node.array done.reverse stop).WellFormed :=
  .array stop fun x hx => hdone x (List.mem_reverse.1 hx)

theorem Frame.WellFormed.object {done : List (Option String × Node)} {key : Option String}
    (hdone : (Frame.members done key).WellFormed) (stop : Option Break) :
    (Node.object done.reverse stop).WellFormed :=
  .object stop fun x hx => hdone x (List.mem_reverse.1 hx)

theorem cutAt_wellFormed (stop : Break) (hnode : node.WellFormed)
    (hframes : ∀ frame ∈ frames, frame.WellFormed) : (cutAt stop node frames).WellFormed := by
  induction frames generalizing node with
  | nil => exact hnode
  | cons frame rest ih =>
    have hrest : ∀ frame ∈ rest, frame.WellFormed := fun x hx => hframes x (.tail frame hx)
    have hframe := hframes frame (.head rest)
    cases frame with
    | items done => exact ih ((hframe.push_item hnode).array _) hrest
    | members done key => exact ih ((hframe.push_member hnode key).object _) hrest

theorem breakAtValue_wellFormed (stop : Break) (hframes : ∀ frame ∈ frames, frame.WellFormed) :
    (breakAtValue stop frames).WellFormed :=
  cutAt_wellFormed stop (.broken stop) hframes

theorem breakBetween_wellFormed (stop : Break) (hframes : ∀ frame ∈ frames, frame.WellFormed) :
    (breakBetween stop frames).WellFormed := by
  cases frames with
  | nil => exact .broken stop
  | cons frame rest =>
    have hrest : ∀ frame ∈ rest, frame.WellFormed := fun x hx => hframes x (.tail frame hx)
    have hframe := hframes frame (.head rest)
    cases frame with
    | items done => exact cutAt_wellFormed stop (hframe.array _) hrest
    | members done key => exact cutAt_wellFormed stop (hframe.object _) hrest

theorem finish_wellFormed (hnode : node.WellFormed)
    (hframes : ∀ frame ∈ frames, frame.WellFormed) : (finish node frames).WellFormed := by
  cases frames with
  | nil => exact hnode
  | cons frame rest =>
    have hframe := hframes frame (.head rest)
    cases frame with
    | items done =>
      rintro x (_ | ⟨_, hx⟩)
      · exact hframe.push_item hnode
      · exact hframes x (.tail _ hx)
    | members done key =>
      rintro x (_ | ⟨_, hx⟩)
      · exact hframe.push_member hnode none
      · exact hframes x (.tail _ hx)

theorem startValue_wellFormed (ht : t.WellFormed) (hframes : ∀ frame ∈ frames, frame.WellFormed) :
    (startValue frames t).WellFormed := by
  cases t with
  | openArray =>
    rintro x (_ | ⟨_, hx⟩)
    · exact fun _ h => nomatch h
    · exact hframes x hx
  | openObject =>
    rintro x (_ | ⟨_, hx⟩)
    · exact fun _ h => nomatch h
    · exact hframes x hx
  | null => exact finish_wellFormed .null hframes
  | bool b => exact finish_wellFormed (.bool b) hframes
  | number n => exact finish_wellFormed (.number (ht n rfl)) hframes
  | string text => exact finish_wellFormed (.string text) hframes
  | _ => exact breakAtValue_wellFormed _ hframes

theorem startMember_wellFormed (hframes : ∀ frame ∈ frames, frame.WellFormed) (t : Token) :
    (startMember frames t).WellFormed := by
  unfold startMember
  split
  · split
    · next done key rest =>
      rintro x (_ | ⟨_, hx⟩)
      · exact hframes (.members done key) (.head rest)
      · exact hframes x (.tail _ hx)
    · exact breakBetween_wellFormed _ hframes
  · exact breakBetween_wellFormed _ hframes
  · exact breakBetween_wellFormed _ hframes

theorem afterValue_wellFormed (hframes : ∀ frame ∈ frames, frame.WellFormed) (t : Token) :
    (afterValue frames t).WellFormed := by
  unfold afterValue
  split
  · exact hframes
  · next done rest =>
    exact finish_wellFormed ((hframes _ (.head rest)).array none) fun x hx => hframes x (.tail _ hx)
  · exact hframes
  · next done key rest =>
    exact finish_wellFormed ((hframes _ (.head rest)).object none) fun x hx => hframes x (.tail _ hx)
  · exact breakBetween_wellFormed _ hframes

theorem take_wellFormed {s : Progress} (hs : s.WellFormed) (ht : t.WellFormed) :
    (s.take t).WellFormed := by
  unfold Progress.take
  split
  · exact startValue_wellFormed ht hs
  · next done rest =>
    exact finish_wellFormed ((hs _ (.head rest)).array none) fun x hx => hs x (.tail _ hx)
  · exact startValue_wellFormed ht hs
  · exact startMember_wellFormed hs t
  · next done key rest =>
    exact finish_wellFormed ((hs _ (.head rest)).object none) fun x hx => hs x (.tail _ hx)
  · exact startMember_wellFormed hs t
  · exact hs
  · exact breakAtValue_wellFormed _ hs
  · exact afterValue_wellFormed hs t
  · exact hs
  · exact hs

theorem document_wellFormed {s : Progress} (hs : s.WellFormed) : s.document.root.WellFormed := by
  unfold Progress.document
  split
  · exact hs
  · exact hs
  · exact breakAtValue_wellFormed _ hs
  · exact breakAtValue_wellFormed _ hs
  · exact breakBetween_wellFormed _ hs

theorem foldl_take_wellFormed {s : Progress} (hs : s.WellFormed) {ts : List Token}
    (hts : ∀ t ∈ ts, t.WellFormed) : (ts.foldl Progress.take s).WellFormed := by
  induction ts generalizing s with
  | nil => exact hs
  | cons t ts ih => exact ih (take_wellFormed hs (hts t (.head ts))) fun x hx => hts x (.tail t hx)

end

theorem ofInput_wellFormed (input : Input) : (Document.ofInput input).root.WellFormed :=
  document_wellFormed (foldl_take_wellFormed (s := .open [] .value) (fun _ h => nomatch h)
    (scan_wellFormed input))

end TypeRecovery.Json
