import TypeRecovery.Proofs.Host.Basic

/-!
# What a host answers

The questions of an import without its counting and logging, and the report and the warnings that
follow from the answers alone.
-/

namespace TypeRecovery

/-! ## Answers -/

/-- How a function came to its name. -/
inductive Naming where
  | creation
  | renaming

/-- What became of a method. -/
inductive Outcome where
  /-- It has no address. -/
  | skipped
  /-- The host refused the function or its name. -/
  | unnamed (naming : Naming) (text : String)
  /-- The host refused the signature of a function that had its name. -/
  | unsigned (naming : Naming) (text : String)
  | signed (naming : Naming)

/-- What a host said of every label, and how every method ended. -/
structure Answers where
  labels : List (Except String Unit)
  outcomes : List Outcome

namespace Host

variable {σ ρ : Type} {c : Catalog} (H : Host σ)

def labelAnswer (start : String) (r : TypeRecord ρ) : StateM σ (Except String Unit) :=
  H.label r.definitionAddress (start ++ r.fullName)

def labelAnswers (config : ImportConfig) (c : Catalog) : StateM σ (List (Except String Unit)) :=
  if config.labelTypes then c.toList.mapM (H.labelAnswer config.labelStart) else return []

def askStruct (category : String) (r : TypeRecord ρ) : StateM σ Unit :=
  match scalarOfSystemType? r.systemType with
  | some _ => return ()
  | none => discard (H.define category r.fullName r.size .replace)

def askLayout (h : Handles c) (sampleLength : UInt32) (i : c.Index) : StateM σ Unit :=
  match layoutHandle? h i with
  | none => return ()
  | some handle => discard (H.rebuild handle (layout h sampleLength i).members)

def naming (plan : FunctionPlan) : StateM σ (Naming × Except String UInt64) := do
  match ← H.functionAt plan.address with
  | some function =>
    return (.renaming, (← H.renameFunction function plan.name).map fun _ => function)
  | none => return (.creation, ← H.createFunction plan.address plan.name)

def signing (plan : FunctionPlan) (function : UInt64) (naming : Naming) : StateM σ Outcome := do
  match ← H.applySignature function plan.signature with
  | .error text => return .unsigned naming text
  | .ok _ => return .signed naming

def outcome (plan : FunctionPlan) : StateM σ Outcome := do
  if plan.address = 0 then return .skipped
  else
    match ← H.naming plan with
    | (naming, .error text) => return .unnamed naming text
    | (naming, .ok function) => H.signing plan function naming

def outcomes (config : ImportConfig) (h : Handles c) : StateM σ (List Outcome) :=
  if config.applySignatures then (functionPlans h).mapM H.outcome else return []

/-- Everything that an import with these handles asks. -/
def answers (config : ImportConfig) (h : Handles c) : StateM σ Answers := do
  let labels ← H.labelAnswers config c
  c.toList.forM (H.askStruct config.category)
  (List.finRange c.size).forM (H.askLayout h config.sampleLength)
  return ⟨labels, ← H.outcomes config h⟩

end Host

/-! ## What follows from them -/

def LabelReport.count (report : LabelReport) : Except String Unit → LabelReport
  | .ok _ => { report with created := report.created + 1 }
  | .error _ => { report with failed := report.failed + 1 }

def SignatureReport.countNaming (report : SignatureReport) : Naming → SignatureReport
  | .creation => { report with created := report.created + 1 }
  | .renaming => { report with renamed := report.renamed + 1 }

def SignatureReport.count (report : SignatureReport) : Outcome → SignatureReport
  | .skipped => { report with skipped := report.skipped + 1 }
  | .unnamed _ _ => { report with failed := report.failed + 1 }
  | .unsigned naming _ =>
    let report := report.countNaming naming
    { report with failed := report.failed + 1 }
  | .signed naming =>
    let report := report.countNaming naming
    { report with applied := report.applied + 1 }

/-- The warnings of all types that are laid out. -/
def layoutWarnings {c : Catalog} (h : Handles c) (sampleLength : UInt32) (is : List c.Index) :
    List LayoutWarning :=
  (is.filter (needsLayout h)).flatMap fun i => (layout h sampleLength i).warnings

/-- Counts a type as laid out or left out. -/
def ResolveReport.count {c : Catalog} (report : ResolveReport) (h : Handles c)
    (sampleLength : UInt32) (i : c.Index) : ResolveReport :=
  if needsLayout h i then
    { report with
      resolved := report.resolved + 1
      warnings := report.warnings ++ (layout h sampleLength i).warnings }
  else { report with skipped := report.skipped + 1 }

def Answers.report {c : Catalog} (answers : Answers) (config : ImportConfig) (h : Handles c) :
    ImportReport where
  typeCount := c.size
  scalarCount := h.scalarCount
  labels := if config.labelTypes then some (answers.labels.foldl LabelReport.count {}) else none
  layouts := (List.finRange c.size).countP (needsLayout h)
  layoutsSkipped := (List.finRange c.size).countP fun i => !needsLayout h i
  warnings := layoutWarnings h config.sampleLength (List.finRange c.size)
  functions :=
    if config.applySignatures then some (answers.outcomes.foldl SignatureReport.count {}) else none

/-- What is said of a label that was refused. -/
def labelTexts {ρ : Type} (r : TypeRecord ρ) : Except String Unit → List String
  | .ok _ => []
  | .error text => [s!"Couldn't create type def label for type {r.fullName}: " ++ text]

/-- What is said of a method with something refused. -/
def outcomeTexts (plan : FunctionPlan) : Outcome → List String
  | .unnamed .creation text =>
    [s!"could not create function {plan.name} at 0x{hex plan.address.toNat}: " ++ text]
  | .unnamed .renaming text =>
    [s!"could not rename function {plan.name} at 0x{hex plan.address.toNat}: " ++ text]
  | .unsigned _ text => [s!"could not apply signature to {plan.name}: " ++ text]
  | .skipped | .signed _ => []

def Answers.labelTexts (answers : Answers) (c : Catalog) : List String :=
  (c.toList.zip answers.labels).flatMap fun (r, answer) => TypeRecovery.labelTexts r answer

def Answers.outcomeTexts {c : Catalog} (answers : Answers) (h : Handles c) : List String :=
  ((functionPlans h).zip answers.outcomes).flatMap fun (plan, outcome) =>
    TypeRecovery.outcomeTexts plan outcome

/-- The warnings among logged lines. -/
def warnTexts (lines : List LogLine) : List String :=
  (lines.filter fun line => line.level = .warn).map LogLine.message

@[simp] theorem warnTexts_append (lines more : List LogLine) :
    warnTexts (lines ++ more) = warnTexts lines ++ warnTexts more := by
  unfold warnTexts
  rw [List.filter_append, List.map_append]

@[simp] theorem warnTexts_info (message : String) : warnTexts [⟨.info, message⟩] = [] := rfl

end TypeRecovery
