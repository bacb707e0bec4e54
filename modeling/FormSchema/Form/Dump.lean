import FormSchema.Form.Options

/-!
# FormSchema — forms as data

A form is written as the data that it can be loaded from. The style decides whether attributes with
two spellings take the documented one, and whether attributes that hold null are written.
-/

namespace FormSchema

open Number

structure DumpStyle where
  documentedKeys : Bool := true
  nulls : Bool := false
  deriving DecidableEq, Repr

namespace DumpStyle

/-- An attribute; one that holds null is left out unless nulls are written. -/
def member (style : DumpStyle) (key : String) (value : Json) : Entries Json :=
  match value with
  | .null => if style.nulls then [(key, .null)] else []
  | value => [(key, value)]

def spelled (style : DumpStyle) (documented alternative : String) (value : Json) : Entries Json :=
  style.member (if style.documentedKeys then documented else alternative) value

end DumpStyle

/-- A limit, or null. -/
def limitOrNull (limit : Option Limit) : Json := (limit.map Limit.toJson).getD .null

/-- A bound, or null. -/
def boundOrNull (bound : Option Int) : Json := (bound.map Json.int).getD .null

def Choices.toJson : Choices → Json
  | .plain values => .ofStrings values
  | .labelled options => .arr (options.map EnumOption.toJson)

/-- What all fields declare, without the kind. -/
def FieldHead.dump (style : DumpStyle) (head : FieldHead) : Entries Json :=
  [("type", .str "field"), ("name", .str head.name)]
    ++ style.member "label" (.ofText? head.label)
    ++ [("required", .bool head.required)]

def LeafKind.dump (style : DumpStyle) : LeafKind → Entries Json
  | .text placeholder => style.member "placeholder" (.ofText? placeholder)
  | .number min max =>
    style.member "min" (limitOrNull min) ++ style.member "max" (limitOrNull max)
  | .boolean => []
  | .staticEnum choices => [("options", choices.toJson)]
  | .dynamicEnum source params => [("source", .str source), ("params", .ofStrings params)]
  | .dynamicSchema source => style.spelled "schemaSource" "schema_source" (.str source)

def ItemBounds.dump (style : DumpStyle) (bounds : ItemBounds) : Entries Json :=
  style.spelled "minItems" "min_items" (boundOrNull bounds.min)
    ++ style.spelled "maxItems" "max_items" (boundOrNull bounds.max)

/-- The kind of a field, which stands behind the head. -/
def FieldKind.dump (kind : FieldKind) : Entries Json := [("kind", .str kind.tag)]

mutual

def Element.dump (style : DumpStyle) : Element → Json
  | .leaf head kind => .obj (head.dump style ++ kind.kind.dump ++ kind.dump style)
  | .array head bounds items =>
    .obj (head.dump style ++ FieldKind.array.dump
      ++ [("items", .arr (dumpElements style items))] ++ bounds.dump style)
  | .object head properties =>
    .obj (head.dump style ++ FieldKind.object.dump
      ++ [("properties", .arr (dumpElements style properties))])
  | .group label elements =>
    .obj [("type", .str "group"), ("label", .str label),
      ("elements", .arr (dumpElements style elements))]
  | .conditional test elements =>
    .obj ([("type", .str "conditional"), ("field", .str test.field)]
      ++ style.member "value" test.value
      ++ [("elements", .arr (dumpElements style elements))])

def dumpElements (style : DumpStyle) : List Element → List Json
  | [] => []
  | e :: es => e.dump style :: dumpElements style es

end

def Form.dump (style : DumpStyle) (form : Form) : Json :=
  .obj [("elements", .arr (dumpElements style form.elements))]

def Predicate.dump (style : DumpStyle) (p : Predicate) : Json :=
  .obj (("field", .str p.field) :: style.member "value" p.value)

end FormSchema
