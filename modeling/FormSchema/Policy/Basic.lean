import FormSchema.Form.Dump
import FormSchema.Intake.Record
import FormSchema.Intake.Scalar

/-!
# FormSchema — project policies

A project may restrict what its forms use: kinds of fields, groups and conditionals, attributes of
fields, and how deep arrays and objects are nested. Whatever a policy does not mention is allowed.
-/

namespace FormSchema

open Intake

inductive Level
  | off
  | warn
  | error
  deriving DecidableEq, Repr

def Level.name : Level → String
  | .off => "off"
  | .warn => "warn"
  | .error => "error"

def Level.read : Json → Checked Level :=
  word [("error", .error), ("warn", .warn), ("off", .off)]

structure KindLevels where
  text : Level := .off
  number : Level := .off
  boolean : Level := .off
  staticEnum : Level := .off
  dynamicEnum : Level := .off
  dynamicSchema : Level := .off
  array : Level := .off
  object : Level := .off
  deriving DecidableEq, Repr

/-- The levels of the layout features, and the greatest nesting depth if it is limited. -/
structure LayoutLevels where
  group : Level := .off
  conditionals : Level := .off
  maxNestingDepth : Option Nat := none
  deriving DecidableEq, Repr

structure OptionLevels where
  label : Level := .off
  placeholder : Level := .off
  required : Level := .off
  minValue : Level := .off
  maxValue : Level := .off
  minItems : Level := .off
  maxItems : Level := .off
  deriving DecidableEq, Repr

structure Policy where
  fieldTypes : KindLevels := {}
  layout : LayoutLevels := {}
  fieldOptions : OptionLevels := {}
  deriving DecidableEq, Repr

def KindLevels.of (levels : KindLevels) : FieldKind → Level
  | .text => levels.text
  | .number => levels.number
  | .boolean => levels.boolean
  | .staticEnum => levels.staticEnum
  | .dynamicEnum => levels.dynamicEnum
  | .dynamicSchema => levels.dynamicSchema
  | .array => levels.array
  | .object => levels.object

/-! ## Reading

Members that a section does not know are ignored. -/

/-- A level that is off when it is not given. -/
def readLevel (key : Key) (members : Entries Json) : Checked Level :=
  optional key .off Level.read members

def KindLevels.read : Json → Checked KindLevels
  | .obj members =>
    KindLevels.mk <$> readLevel (.plain "text") members
      <*> readLevel (.plain "number") members
      <*> readLevel (.plain "boolean") members
      <*> readLevel ⟨"staticEnum", some "static_enum"⟩ members
      <*> readLevel ⟨"dynamicEnum", some "dynamic_enum"⟩ members
      <*> readLevel ⟨"dynamicSchema", some "dynamic_schema"⟩ members
      <*> readLevel (.plain "array") members
      <*> readLevel (.plain "object") members
  | _ => .fault (.notRecord "FieldTypeConstraints")

def LayoutLevels.read : Json → Checked LayoutLevels
  | .obj members =>
    LayoutLevels.mk <$> readLevel (.plain "group") members
      <*> readLevel (.plain "conditionals") members
      <*> optional ⟨"maxNestingDepth", some "max_nesting_depth"⟩ none (orNull natural) members
  | _ => .fault (.notRecord "LayoutConstraints")

def OptionLevels.read : Json → Checked OptionLevels
  | .obj members =>
    OptionLevels.mk <$> readLevel (.plain "label") members
      <*> readLevel (.plain "placeholder") members
      <*> readLevel (.plain "required") members
      <*> readLevel ⟨"minValue", some "min_value"⟩ members
      <*> readLevel ⟨"maxValue", some "max_value"⟩ members
      <*> readLevel ⟨"minItems", some "min_items"⟩ members
      <*> readLevel ⟨"maxItems", some "max_items"⟩ members
  | _ => .fault (.notRecord "FieldOptionConstraints")

def Policy.read : Json → Checked Policy
  | .obj members =>
    Policy.mk <$> optional ⟨"fieldTypes", some "field_types"⟩ {} KindLevels.read members
      <*> optional (.plain "layout") {} LayoutLevels.read members
      <*> optional ⟨"fieldOptions", some "field_options"⟩ {} OptionLevels.read members
  | _ => .fault (.notRecord "ConstraintConfig")

def Policy.readDocument : Json → Checked Policy
  | .obj members => optional (.plain "constraints") {} Policy.read members
  | _ => .fault (.notRecord "FormSpecFileConfig")

/-! ## Writing -/

def Level.toJson (level : Level) : Json := .str level.name

def KindLevels.dump (style : DumpStyle) (levels : KindLevels) : Json :=
  .obj ([("text", levels.text.toJson), ("number", levels.number.toJson),
      ("boolean", levels.boolean.toJson)]
    ++ style.spelled "staticEnum" "static_enum" levels.staticEnum.toJson
    ++ style.spelled "dynamicEnum" "dynamic_enum" levels.dynamicEnum.toJson
    ++ style.spelled "dynamicSchema" "dynamic_schema" levels.dynamicSchema.toJson
    ++ [("array", levels.array.toJson), ("object", levels.object.toJson)])

def LayoutLevels.dump (style : DumpStyle) (levels : LayoutLevels) : Json :=
  .obj ([("group", levels.group.toJson), ("conditionals", levels.conditionals.toJson)]
    ++ style.spelled "maxNestingDepth" "max_nesting_depth"
      (boundOrNull (levels.maxNestingDepth.map Int.ofNat)))

def OptionLevels.dump (style : DumpStyle) (levels : OptionLevels) : Json :=
  .obj ([("label", levels.label.toJson), ("placeholder", levels.placeholder.toJson),
      ("required", levels.required.toJson)]
    ++ style.spelled "minValue" "min_value" levels.minValue.toJson
    ++ style.spelled "maxValue" "max_value" levels.maxValue.toJson
    ++ style.spelled "minItems" "min_items" levels.minItems.toJson
    ++ style.spelled "maxItems" "max_items" levels.maxItems.toJson)

def Policy.dump (style : DumpStyle) (p : Policy) : Json :=
  .obj (style.spelled "fieldTypes" "field_types" (p.fieldTypes.dump style)
    ++ [("layout", p.layout.dump style)]
    ++ style.spelled "fieldOptions" "field_options" (p.fieldOptions.dump style))

end FormSchema
