import FormSchema.Policy.Check
import FormSchema.Proofs.Strict.Lookup

/-!
# FormSchema — the policy check finds what it looks up

A policy is asked for the level of a kind by the name that fields give to the kind, and for the
level of an attribute by the attribute's key; a table has the words for each kind. The names of
kinds and attributes are fixed, and none of them is missing.

* **`check`** — the check with these look-ups.
* **`get?_kindRecord`**, **`get?_descriptions`**, **`get?_optionRecord`** — every kind and every
  attribute is found.
* **`fieldIssues_eq`** — so the check of one field goes through.
* **`elementIssues_eq`**, **`issues_eq`** — and the check of elements; by induction on them.
-/

namespace FormSchema.Strict

/-! ## The check with its look-ups -/

/-- The levels of the kinds, by the name that a field gives to its kind. -/
def kindRecord (levels : KindLevels) : Entries Level :=
  [("text", levels.text), ("number", levels.number), ("boolean", levels.boolean),
    ("static_enum", levels.staticEnum), ("dynamic_enum", levels.dynamicEnum),
    ("dynamic_schema", levels.dynamicSchema), ("array", levels.array), ("object", levels.object)]

/-- The levels of the attributes, by their keys. -/
def optionRecord (levels : OptionLevels) : Entries Level :=
  [("label", levels.label), ("placeholder", levels.placeholder), ("required", levels.required),
    ("min_value", levels.minValue), ("max_value", levels.maxValue),
    ("min_items", levels.minItems), ("max_items", levels.maxItems)]

/-- How messages speak of the kinds. -/
def descriptions : Entries String :=
  [("text", "text field"), ("number", "number field"), ("boolean", "boolean field"),
    ("static_enum", "static enum field"), ("dynamic_enum", "dynamic enum field"),
    ("dynamic_schema", "dynamic schema field"), ("array", "array field"),
    ("object", "object field")]

variable (p : Policy)

/-- The issue about the kind of a field, unless its level is off. -/
def kindIssues (f : Field) (path : String) : Lookup (List Issue) := do
  let level ← attributeOf (kindRecord p.fieldTypes) f.kind.tag
  if level = .off then pure []
  else do
    let description ← rowOf descriptions f.kind.tag
    let message := s!"Field \"{f.name}\" uses {description}, which is not allowed in this project"
    pure [{ (Violation.fieldType level f.kind f.name path).issue with message }]

/-- The issue about an attribute that a field sets, unless its level is off. -/
def optionIssues (f : Field) (path : String) (option : FieldOption) : Lookup (List Issue) := do
  let level ← attributeOf (optionRecord p.fieldOptions) option.key
  pure ((unlessOff level (.fieldOption · option f.name path)).map (·.issue))

def fieldIssues (f : Field) (path : String) : Lookup (List Issue) := do
  let kind ← kindIssues p f path
  let options ← f.usedOptions.mapM (optionIssues p f path)
  pure (kind ++ options.flatten)

def nestingIssues (head : FieldHead) (path : String) (depth : Nat) : List Issue :=
  (p.nestingViolations head path depth).map (·.issue)

mutual

/-- The issues in an element below a path and a number of scopes. -/
def elementIssues (path : String) (depth : Nat) : Element → Lookup (List Issue)
  | .leaf head kind => fieldIssues p ⟨head, .leaf kind⟩ (joinPath path head.name)
  | .array head bounds items => do
    let here := joinPath path head.name
    let own ← fieldIssues p ⟨head, .array bounds items⟩ here
    let inner ← issues (itemsPath here) (depth + 1) items
    pure (own ++ nestingIssues p head here (depth + 1) ++ inner)
  | .object head properties => do
    let here := joinPath path head.name
    let own ← fieldIssues p ⟨head, .object properties⟩ here
    let inner ← issues here (depth + 1) properties
    pure (own ++ nestingIssues p head here (depth + 1) ++ inner)
  | .group label elements => do
    let here := joinPath path (groupSegment label)
    let inner ← issues here depth elements
    pure ((unlessOff p.layout.group (.group · label here)).map (·.issue) ++ inner)
  | .conditional test elements => do
    let here := joinPath path (conditionalSegment test.field)
    let inner ← issues here depth elements
    pure ((unlessOff p.layout.conditionals (.conditional · here)).map (·.issue) ++ inner)

def issues (path : String) (depth : Nat) : List Element → Lookup (List Issue)
  | [] => pure []
  | e :: es => do
    let first ← elementIssues path depth e
    let rest ← issues path depth es
    pure (first ++ rest)

end

/-- The policy check with every look-up spelled out. -/
def check (form : Form) : Lookup Report := do
  let found ← issues p "" 0 form.elements
  pure (.ofIssues found)

/-! ## Records and tables are complete -/

theorem get?_kindRecord (levels : KindLevels) (kind : FieldKind) :
    (kindRecord levels).get? kind.tag = some (levels.of kind) := by
  cases kind <;> rfl

theorem get?_optionRecord (levels : OptionLevels) (option : FieldOption) :
    (optionRecord levels).get? option.key = some (levels.of option) := by
  cases option <;> rfl

theorem get?_descriptions (kind : FieldKind) :
    descriptions.get? kind.tag = some kind.description := by
  cases kind <;> rfl

/-! ## The check finds what it looks up -/

variable {p}

theorem kindIssues_eq (f : Field) (path : String) :
    kindIssues p f path
      = .ok ((unlessOff (p.fieldTypes.of f.kind) (.fieldType · f.kind f.name path)).map
          (·.issue)) := by
  have hlevel := attributeOf_eq_ok (get?_kindRecord p.fieldTypes f.kind)
  have hdescription := rowOf_eq_ok (get?_descriptions f.kind)
  rw [kindIssues, hlevel, ok_bind, hdescription, ok_bind, unlessOff]
  by_cases hoff : p.fieldTypes.of f.kind = .off
  · rw [if_pos hoff, if_pos hoff]
    rfl
  · rw [if_neg hoff, if_neg hoff]
    rfl

theorem optionIssues_eq (f : Field) (path : String) (option : FieldOption) :
    optionIssues p f path option
      = .ok ((unlessOff (p.fieldOptions.of option) (.fieldOption · option f.name path)).map
          (·.issue)) := by
  rw [optionIssues, attributeOf_eq_ok (get?_optionRecord p.fieldOptions option), ok_bind]
  rfl

theorem fieldIssues_eq (f : Field) (path : String) :
    fieldIssues p f path = .ok ((p.fieldViolations f path).map (·.issue)) := by
  have hoptions := mapM_eq_ok fun option (_ : option ∈ f.usedOptions) =>
    optionIssues_eq (p := p) f path option
  rw [fieldIssues, kindIssues_eq, ok_bind, hoptions, ok_bind, Policy.fieldViolations,
    List.map_append, List.map_flatMap]
  rfl

mutual

theorem elementIssues_eq (path : String) (depth : Nat) :
    ∀ e : Element,
      elementIssues p path depth e = .ok ((p.elementViolations path depth e).map (·.issue))
  | .leaf head kind => fieldIssues_eq _ _
  | .array head bounds items => by
    have hinner := issues_eq (itemsPath (joinPath path head.name)) (depth + 1) items
    rw [elementIssues, fieldIssues_eq, ok_bind, hinner, ok_bind, Policy.elementViolations,
      List.map_append, List.map_append]
    rfl
  | .object head properties => by
    have hinner := issues_eq (joinPath path head.name) (depth + 1) properties
    rw [elementIssues, fieldIssues_eq, ok_bind, hinner, ok_bind, Policy.elementViolations,
      List.map_append, List.map_append]
    rfl
  | .group label elements => by
    have hinner := issues_eq (joinPath path (groupSegment label)) depth elements
    rw [elementIssues, hinner, ok_bind, Policy.elementViolations, List.map_append]
    rfl
  | .conditional test elements => by
    have hinner := issues_eq (joinPath path (conditionalSegment test.field)) depth elements
    rw [elementIssues, hinner, ok_bind, Policy.elementViolations, List.map_append]
    rfl

theorem issues_eq (path : String) (depth : Nat) :
    ∀ es : List Element,
      issues p path depth es = .ok ((p.violations path depth es).map (·.issue))
  | [] => rfl
  | e :: es => by
    rw [issues, elementIssues_eq path depth e, ok_bind, issues_eq path depth es, ok_bind,
      Policy.violations, List.map_append]
    rfl

end

/-- **The policy check finds what it looks up** in every form and every policy. -/
theorem check_eq (p : Policy) (form : Form) : check p form = .ok (p.check form) := by
  rw [check, issues_eq, ok_bind]
  rfl

end FormSchema.Strict
