import FormSchema.Form.Dump

/-!
# FormSchema — schema documents

The documents that describe valid data, in the vocabulary of JSON Schema draft 07. A node holds the
keywords it is written with and no others; keywords that hold nodes are kept apart, since an array
has exactly one of them and an object a whole map.
-/

namespace FormSchema.Schema

open Number (Limit)

inductive TypeName
  | string
  | number
  | boolean
  | array
  | object
  deriving DecidableEq, Repr

def TypeName.name : TypeName → String
  | .string => "string"
  | .number => "number"
  | .boolean => "boolean"
  | .array => "array"
  | .object => "object"

/-- The keywords of a node that hold no other node; an absent one is not written. -/
structure Keywords where
  type : TypeName
  title : Option String := none
  version : Option Json := none
  minimum : Option Limit := none
  maximum : Option Limit := none
  oneOf : Option (List EnumOption) := none
  enum : Option (List String) := none
  source : Option String := none
  params : Option (List String) := none
  additionalProperties : Option Bool := none
  schemaSource : Option String := none
  minItems : Option Int := none
  maxItems : Option Int := none
  required : Option (List String) := none

inductive Node
  | leaf (keywords : Keywords)
  | array (keywords : Keywords) (items : Node)
  | object (keywords : Keywords) (properties : List (String × Node))

def Node.keywords : Node → Keywords
  | .leaf keywords => keywords
  | .array keywords _ => keywords
  | .object keywords _ => keywords

def Node.properties : Node → Entries Node
  | .object _ properties => properties
  | _ => []

def Node.items? : Node → Option Node
  | .array _ items => some items
  | _ => none

/-- A keyword, when it is present. -/
def keyword {α : Type} (name : String) (value : Option α) (write : α → Json) : Entries Json :=
  match value with
  | none => []
  | some value => [(name, write value)]

def branch (option : EnumOption) : Json :=
  .obj [("const", .str option.id), ("title", .str option.label)]

/-- The keywords in front of those that hold nodes. -/
def Keywords.front (k : Keywords) : Entries Json :=
  keyword "title" k.title .str
    ++ keyword "$schema" k.version id
    ++ [("type", .str k.type.name)]
    ++ keyword "minimum" k.minimum Limit.toJson
    ++ keyword "maximum" k.maximum Limit.toJson
    ++ keyword "oneOf" k.oneOf (fun options => .arr (options.map branch))
    ++ keyword "enum" k.enum Json.ofStrings
    ++ keyword "x-formspec-source" k.source .str
    ++ keyword "x-formspec-params" k.params Json.ofStrings
    ++ keyword "additionalProperties" k.additionalProperties .bool
    ++ keyword "x-formspec-schemaSource" k.schemaSource .str

def Keywords.back (k : Keywords) : Entries Json :=
  keyword "minItems" k.minItems .int
    ++ keyword "maxItems" k.maxItems .int
    ++ keyword "required" k.required Json.ofStrings

mutual

def Node.toJson : Node → Json
  | .leaf k => .obj (k.front ++ k.back)
  | .array k items => .obj (k.front ++ [("items", items.toJson)] ++ k.back)
  | .object k properties =>
    .obj (k.front ++ [("properties", .obj (propertiesToJson properties))] ++ k.back)

def propertiesToJson : List (String × Node) → List (String × Json)
  | [] => []
  | (name, node) :: rest => (name, node.toJson) :: propertiesToJson rest

end

end FormSchema.Schema
