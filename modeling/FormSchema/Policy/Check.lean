import FormSchema.Form.Scope
import FormSchema.Issue
import FormSchema.Policy.Basic

/-!
# FormSchema — forms under a policy

Every use of a feature that the policy does not switch off is reported, in the order in which the
form declares it. Arrays and objects count for the nesting depth, groups and conditionals do not.
-/

namespace FormSchema

/-- The attributes of fields that a policy can restrict. -/
inductive FieldOption
  | label
  | placeholder
  | required
  | minValue
  | maxValue
  | minItems
  | maxItems
  deriving DecidableEq, Repr

namespace FieldOption

/-- The name of an attribute with its words joined by underscores. -/
def key : FieldOption → String
  | .label => "label"
  | .placeholder => "placeholder"
  | .required => "required"
  | .minValue => "min_value"
  | .maxValue => "max_value"
  | .minItems => "min_items"
  | .maxItems => "max_items"

/-- The name of an attribute as policies write it. -/
def displayName : FieldOption → String
  | .label => "label"
  | .placeholder => "placeholder"
  | .required => "required"
  | .minValue => "minValue"
  | .maxValue => "maxValue"
  | .minItems => "minItems"
  | .maxItems => "maxItems"

end FieldOption

def OptionLevels.of (levels : OptionLevels) : FieldOption → Level
  | .label => levels.label
  | .placeholder => levels.placeholder
  | .required => levels.required
  | .minValue => levels.minValue
  | .maxValue => levels.maxValue
  | .minItems => levels.minItems
  | .maxItems => levels.maxItems

/-- The option, if it is in use. -/
def optionIf (used : Bool) (option : FieldOption) : List FieldOption :=
  if used then [option] else []

/-- The restrictable attributes that a field sets. -/
def Field.usedOptions (f : Field) : List FieldOption :=
  optionIf f.label.isSome .label
    ++ (match f.body with
      | .leaf (.text placeholder) => optionIf placeholder.isSome .placeholder
      | _ => [])
    ++ optionIf f.required .required
    ++ match f.body with
      | .leaf (.number min max) => optionIf min.isSome .minValue ++ optionIf max.isSome .maxValue
      | .array bounds _ =>
        optionIf bounds.min.isSome .minItems ++ optionIf bounds.max.isSome .maxItems
      | _ => []

inductive Violation
  | group (level : Level) (label path : String)
  | conditional (level : Level) (path : String)
  | fieldType (level : Level) (kind : FieldKind) (name path : String)
  | fieldOption (level : Level) (option : FieldOption) (name path : String)
  | nesting (depth limit : Nat) (name path : String)
  deriving DecidableEq, Repr

/-- The severity of an issue about a feature of a level. -/
def Level.severity : Level → Severity
  | .error => .error
  | _ => .warning

def FieldKind.description : FieldKind → String
  | .text => "text field"
  | .number => "number field"
  | .boolean => "boolean field"
  | .staticEnum => "static enum field"
  | .dynamicEnum => "dynamic enum field"
  | .dynamicSchema => "dynamic schema field"
  | .array => "array field"
  | .object => "object field"

def Violation.issue : Violation → Issue
  | .group level label path =>
    { severity := level.severity
      message := s!"Group \"{label}\" is not allowed - visual grouping is not supported in this "
        ++ "project"
      path
      code := some "DISALLOWED_GROUP"
      category := some "layout"
      fieldName := none }
  | .conditional level path =>
    { severity := level.severity
      message := "Conditional visibility (when) is not allowed in this project"
      path
      code := some "DISALLOWED_CONDITIONAL"
      category := some "layout"
      fieldName := none }
  | .fieldType level kind name path =>
    { severity := level.severity
      message := s!"Field \"{name}\" uses {kind.description}, which is not allowed in this project"
      path
      code := some "DISALLOWED_FIELD_TYPE"
      category := some "fieldTypes"
      fieldName := some name }
  | .fieldOption level option name path =>
    { severity := level.severity
      message := s!"Field \"{name}\" uses the \"{option.displayName}\" option, which is not "
        ++ "allowed in this project"
      path
      code := some "DISALLOWED_FIELD_OPTION"
      category := some "fieldOptions"
      fieldName := some name }
  | .nesting depth limit name path =>
    { severity := .error
      message := s!"Nesting depth {depth} exceeds maximum allowed depth of {limit}"
      path
      code := some "EXCEEDED_NESTING_DEPTH"
      category := some "layout"
      fieldName := some name }

/-- A violation, unless the feature's level is off. -/
def unlessOff (level : Level) (violation : Level → Violation) : List Violation :=
  if level = .off then [] else [violation level]

/-- The violations of a field itself: its kind, then its attributes. -/
def Policy.fieldViolations (p : Policy) (f : Field) (path : String) : List Violation :=
  unlessOff (p.fieldTypes.of f.kind) (.fieldType · f.kind f.name path)
    ++ f.usedOptions.flatMap fun option =>
      unlessOff (p.fieldOptions.of option) (.fieldOption · option f.name path)

/-- The violation of a field that opens the scope of a nesting depth, if it is too deep. -/
def Policy.nestingViolations (p : Policy) (head : FieldHead) (path : String) (depth : Nat) :
    List Violation :=
  match p.layout.maxNestingDepth with
  | some limit => if depth > limit then [.nesting depth limit head.name path] else []
  | none => []

mutual

/-- The violations in an element below a path and a number of scopes. -/
def Policy.elementViolations (p : Policy) (path : String) (depth : Nat) :
    Element → List Violation
  | .leaf head kind => p.fieldViolations ⟨head, .leaf kind⟩ (joinPath path head.name)
  | .array head bounds items =>
    let here := joinPath path head.name
    -- the depth is checked at each field that opens a scope, and not only at the deepest one
    p.fieldViolations ⟨head, .array bounds items⟩ here
      ++ p.nestingViolations head here (depth + 1)
      ++ p.violations (itemsPath here) (depth + 1) items
  | .object head properties =>
    let here := joinPath path head.name
    p.fieldViolations ⟨head, .object properties⟩ here
      ++ p.nestingViolations head here (depth + 1)
      ++ p.violations here (depth + 1) properties
  | .group label elements =>
    let here := joinPath path (groupSegment label)
    unlessOff p.layout.group (.group · label here) ++ p.violations here depth elements
  | .conditional test elements =>
    let here := joinPath path (conditionalSegment test.field)
    unlessOff p.layout.conditionals (.conditional · here) ++ p.violations here depth elements

/-- The violations in a list of elements below a path and a number of scopes. -/
def Policy.violations (p : Policy) (path : String) (depth : Nat) : List Element → List Violation
  | [] => []
  | e :: es => p.elementViolations path depth e ++ p.violations path depth es

end

def Policy.check (p : Policy) (form : Form) : Report :=
  .ofIssues ((p.violations "" 0 form.elements).map (·.issue))

end FormSchema
