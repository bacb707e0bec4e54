import FormSchema.Json.Display
import FormSchema.Mode

/-!
# FormSchema — the tools of the service

What the service offers to its clients: compiling a form, and checking one. Each tool states what it
does and which inputs it takes, and inputs that do not fit that statement are refused.
-/

namespace FormSchema.Service

inductive Tool
  | build
  | validate
  deriving DecidableEq, Repr

inductive InputKind
  | data
  | text
  | choice (words : List String)
  deriving DecidableEq, Repr

structure Input where
  name : String
  kind : InputKind
  description : String
  required : Bool := false

namespace Input

def form : Input :=
  { name := "formspec"
    kind := .data
    required := true
    description := "Declaration tree: \x7b\"elements\": [...]\x7d. Elements are fields "
      ++ "(\x7b\"type\": \"field\", \"kind\": \"text\", \"name\": \"email\"\x7d), groups "
      ++ "(\x7b\"type\": \"group\", \"label\": \"...\", \"elements\": [...]\x7d) or conditionals "
      ++ "(\x7b\"type\": \"conditional\", \"field\": \"status\", \"value\": \"a\", "
      ++ "\"elements\": [...]\x7d)." }

def mode : Input :=
  { name := "validation_mode"
    kind := .choice (Mode.all.map Mode.name)
    description := "How validation issues are handled (default: warn)" }

def formName : Input :=
  { name := "name", kind := .text, description := "Form name used in messages" }

def policy : Input :=
  { name := "constraints"
    kind := .data
    description := "Optional constraint config (fieldTypes, layout, fieldOptions)" }

def schema (input : Input) : Json :=
  let typed := match input.kind with
    | .data => [("type", .str "object")]
    | .text => [("type", .str "string")]
    | .choice words => [("type", .str "string"), ("enum", .ofStrings words)]
  .obj (typed ++ [("description", .str input.description)])

/-- What is wrong with a value for an input. Its type is looked at first. -/
def violation? (input : Input) (value : Json) : Option String :=
  match input.kind, value with
  | .data, .obj _ => none
  | .data, value => some s!"{value.display} is not of type 'object'"
  | .text, .str _ => none
  | .choice words, .str word =>
    if word ∈ words then none
    else some s!"{value.display} is not one of {(Json.ofStrings words).display}"
  | _, value => some s!"{value.display} is not of type 'string'"

end Input

namespace Tool

/-- All tools, in the order in which they are listed. -/
def all : List Tool := [.build, .validate]

def name : Tool → String
  | .build => "build_form_schemas"
  | .validate => "validate_formspec"

def ofName? (name : String) : Option Tool := all.find? fun tool => tool.name == name

def description : Tool → String
  | .build => "\n".intercalate [
      "Compile a FormSpec declaration tree into a JSON Schema (data validation)",
      "and a JSON Forms UI Schema (layout and conditional visibility).",
      "",
      "FIELD KINDS:",
      "text, number (min/max), boolean, static_enum (options), dynamic_enum",
      "(source, params), dynamic_schema (schemaSource), array (items, minItems,",
      "maxItems), object (properties).",
      "",
      "RETURNS:",
      "- valid: false when validation found errors",
      "- issues: duplicate names (warning), unknown conditional fields (error)",
      "- jsonSchema / uiSchema: the generated schemas"]
  | .validate => "\n".intercalate [
      "Validate a FormSpec declaration tree without compiling it. Reports",
      "duplicate field names per scope, conditionals that test undeclared",
      "fields and, when constraints are given, disallowed features."]

def inputs : Tool → List Input
  | .build => [.form, .mode, .formName, .policy]
  | .validate => [.form, .policy]

def inputSchema (tool : Tool) : Json :=
  .obj [("type", .str "object"),
    ("properties", .obj (tool.inputs.map fun input => (input.name, input.schema))),
    ("required", .ofStrings ((tool.inputs.filter (·.required)).map (·.name)))]

def toJson (tool : Tool) : Json :=
  .obj [("name", .str tool.name), ("description", .str tool.description),
    ("inputSchema", tool.inputSchema)]

/-- What is wrong with the inputs given to a tool. A missing input is named before any other
problem; of several values that do not fit, the one with the greatest name is reported. -/
def violation? (tool : Tool) (arguments : Entries Json) : Option String :=
  let missing := tool.inputs.find? fun input =>
    input.required && (arguments.get? input.name).isNone
  match missing with
  | some input => some s!"{Text.quoted input.name} is a required property"
  | none =>
    let given := (tool.inputs.mergeSort fun a b => decide (b.name ≤ a.name))
    given.findSome? fun input => (arguments.get? input.name).bind input.violation?

end Tool

end FormSchema.Service
