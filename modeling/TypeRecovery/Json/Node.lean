import TypeRecovery.Json.Value

/-!
# Documents

The tree of a text, as far as the text goes. Where it stops being JSON the tree has a break, and
every array or object that is still open there carries the same break. So a reader of the tree meets
the faults of a text in the order in which they stand in it, and a value that nobody reads can be
passed over at once.
-/

namespace TypeRecovery.Json

inductive Node where
  | null
  | bool (value : Bool)
  | number (value : Number)
  | string (text : Option String)
  /-- The break is there if the array does not close. -/
  | array (items : List Node) (stop : Option Break)
  /-- The break is there if the object does not close. -/
  | object (members : List (Option String × Node)) (stop : Option Break)
  | broken (stop : Break)
  deriving Repr

def Node.stop? : Node → Option Break
  | .array _ stop => stop
  | .object _ stop => stop
  | .broken stop => some stop
  | _ => none

/-- A text as a tree. `trailing` says that something follows the value. -/
structure Document where
  root : Node
  trailing : Bool

/-! ## From tokens to the tree -/

/-- An array or object that is still open, with what it holds so far in reverse. -/
inductive Frame where
  | items (done : List Node)
  /-- The key is that of the member being read. -/
  | members (done : List (Option String × Node)) (key : Option String)

/-- What may come next. -/
inductive Expect where
  | value
  /-- An item, or the end of an empty array. -/
  | item
  | key
  /-- A key, or the end of an empty object. -/
  | firstKey
  | colon
  /-- A comma, or the end of the innermost array or object. -/
  | more

/-- How far the tree is. What is open is listed innermost first. -/
inductive Progress where
  | open (frames : List Frame) (expect : Expect)
  /-- The value is complete. -/
  | complete (document : Document)
  /-- The text broke. -/
  | stopped (root : Node)

/-- The root around a node: everything that is open ends at the break. -/
def cutAt (stop : Break) (node : Node) : List Frame → Node
  | [] => node
  | .items done :: rest => cutAt stop (.array (node :: done).reverse (some stop)) rest
  | .members done key :: rest => cutAt stop (.object ((key, node) :: done).reverse (some stop)) rest

def breakAtValue (stop : Break) (frames : List Frame) : Node := cutAt stop (.broken stop) frames

/-- The text breaks between the parts of the innermost array or object. -/
def breakBetween (stop : Break) : List Frame → Node
  | [] => .broken stop
  | .items done :: rest => cutAt stop (.array done.reverse (some stop)) rest
  | .members done _ :: rest => cutAt stop (.object done.reverse (some stop)) rest

/-- A value is complete and goes into what is open around it. -/
def finish (node : Node) : List Frame → Progress
  | [] => .complete ⟨node, false⟩
  | .items done :: rest => .open (.items (node :: done) :: rest) .more
  | .members done key :: rest => .open (.members ((key, node) :: done) none :: rest) .more

/-- A token where a value should start. -/
def startValue (frames : List Frame) : Token → Progress
  | .openArray => .open (.items [] :: frames) .item
  | .openObject => .open (.members [] none :: frames) .firstKey
  | .null => finish .null frames
  | .bool b => finish (.bool b) frames
  | .number n => finish (.number n) frames
  | .string text => finish (.string text) frames
  | .broken stop _ => .stopped (breakAtValue stop frames)
  | _ => .stopped (breakAtValue (.both .malformed) frames)

/-- A token where a key should stand. -/
def startMember (frames : List Frame) : Token → Progress
  | .string text =>
    match frames with
    | .members done _ :: rest => .open (.members done text :: rest) .colon
    | frames => .stopped (breakBetween (.both .malformed) frames)
  | .broken stop true => .stopped (breakBetween stop frames)
  | _ => .stopped (breakBetween (.both .malformed) frames)

/-- A token behind a complete item or member. -/
def afterValue : List Frame → Token → Progress
  | .items done :: rest, .comma => .open (.items done :: rest) .value
  | .items done :: rest, .closeArray => finish (.array done.reverse none) rest
  | .members done key :: rest, .comma => .open (.members done key :: rest) .key
  | .members done _ :: rest, .closeObject => finish (.object done.reverse none) rest
  | frames, _ => .stopped (breakBetween (.both .malformed) frames)

def Progress.take : Progress → Token → Progress
  | .open frames .value, token => startValue frames token
  | .open (.items done :: rest) .item, .closeArray => finish (.array done.reverse none) rest
  | .open frames .item, token => startValue frames token
  | .open frames .key, token => startMember frames token
  | .open (.members done _ :: rest) .firstKey, .closeObject =>
    finish (.object done.reverse none) rest
  | .open frames .firstKey, token => startMember frames token
  | .open frames .colon, .colon => .open frames .value
  | .open frames .colon, _ => .stopped (breakAtValue (.both .malformed) frames)
  | .open frames .more, token => afterValue frames token
  | .complete document, _ => .complete ⟨document.root, true⟩
  | .stopped root, _ => .stopped root

def Progress.document : Progress → Document
  | .complete document => document
  | .stopped root => ⟨root, false⟩
  | .open frames .value => ⟨breakAtValue (.both .truncated) frames, false⟩
  | .open frames .colon => ⟨breakAtValue (.both .truncated) frames, false⟩
  | .open frames _ => ⟨breakBetween (.both .truncated) frames, false⟩

def Document.ofTokens (tokens : List Token) : Document :=
  (tokens.foldl Progress.take (.open [] .value)).document

def Document.ofInput (input : Input) : Document := .ofTokens (scan input)

/-! ## Values as trees -/

mutual

/-- The tree of a value, which has no break. -/
def Node.ofValue : Value → Node
  | .null => .null
  | .bool b => .bool b
  | .number n => .number n
  | .string s => .string (some s)
  | .array items => .array (Node.ofItems items) none
  | .object members => .object (Node.ofMembers members) none

def Node.ofItems : List Value → List Node
  | [] => []
  | v :: rest => Node.ofValue v :: Node.ofItems rest

def Node.ofMembers : List (String × Value) → List (Option String × Node)
  | [] => []
  | (k, v) :: rest => (some k, Node.ofValue v) :: Node.ofMembers rest

end

end TypeRecovery.Json
