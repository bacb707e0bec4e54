import FormSchema.Compiler
import FormSchema.Form.Draft

/-!
# FormSchema — builders

Forms are also built part by part: each builder takes the attributes of one element, of which the
elements inside are built already or given as data. A part is checked when it is built, in the same
way as it is when a whole form is read.
-/

namespace FormSchema.Builder

open Intake

def absent : Draft := .data .null

def unset : Draft := .data (.bool false)

def element (tag : Tag) (attributes : List (String × Draft)) : Except RecordError Element :=
  (readTagged tag (Draft.readMembers attributes)).toExcept tag.title

structure Head where
  name : Draft
  label : Draft := absent
  required : Draft := unset

/-- Builds a field from what every field declares and from the attributes of its kind. -/
def field (kind : FieldKind) (head : Head) (attributes : List (String × Draft)) :
    Except RecordError Element :=
  element (.field kind)
    ([("name", head.name), ("label", head.label), ("required", head.required)] ++ attributes)

def text (head : Head) (placeholder : Draft := absent) : Except RecordError Element :=
  field .text head [("placeholder", placeholder)]

def number (head : Head) (min : Draft := absent) (max : Draft := absent) :
    Except RecordError Element :=
  field .number head [("min", min), ("max", max)]

def boolean (head : Head) : Except RecordError Element := field .boolean head []

def staticEnum (head : Head) (options : Draft) : Except RecordError Element :=
  field .staticEnum head [("options", options)]

structure NotListed where
  typeWord : String
  deriving DecidableEq, Repr

def NotListed.message (e : NotListed) : String := s!"'{e.typeWord}' object is not iterable"

/-- The parameters that a draft lists: the items of a list, the keys of a record, or the characters
of a text. -/
def parameters (draft : Draft) : Except NotListed Draft :=
  match draft.toJson with
  | .arr items => .ok (.data (.arr items))
  | .obj members => .ok (.data (.ofStrings (Entries.names members)))
  | .str s => .ok (.data (.ofStrings (s.toList.map fun c => String.singleton c)))
  | value => .error ⟨value.typeWord⟩

/-- A choice among options that are looked up at run time, given the listed parameters. -/
def dynamicEnum (head : Head) (source : Draft) (params : Draft := .list []) :
    Except RecordError Element :=
  field .dynamicEnum head [("source", source), ("params", params)]

/-- A part of the form that is looked up at run time. -/
def dynamicSchema (head : Head) (source : Draft) : Except RecordError Element :=
  field .dynamicSchema head [("schema_source", source)]

/-- A list of items that all have the same elements. -/
def array (head : Head) (items : List Draft) (minItems : Draft := absent)
    (maxItems : Draft := absent) : Except RecordError Element :=
  field .array head [("items", .list items), ("min_items", minItems), ("max_items", maxItems)]

def object (head : Head) (properties : List Draft) : Except RecordError Element :=
  field .object head [("properties", .list properties)]

def group (label : Draft) (elements : List Draft) : Except RecordError Element :=
  element .group [("label", label), ("elements", .list elements)]

/-- Elements that are shown while a field has a value. -/
def conditional (field value : Draft) (elements : List Draft) : Except RecordError Element :=
  element .conditional [("field", field), ("value", value), ("elements", .list elements)]

def form (elements : List Draft) : Except RecordError Form :=
  (Form.readMembers (Draft.readMembers [("elements", .list elements)])).toExcept "FormSpec"

/-- Why a form that is checked as it is built could not be built. -/
inductive BuildError
  | record (error : RecordError)
  | validation (error : ValidationError)

def BuildError.message : BuildError → String
  | .record error => error.message
  | .validation error => error.message

/-- A form that is checked as it is built; the settings name the usual mode. -/
def checkedForm (settings : Settings) (mode : Json) (formName : Option String)
    (elements : List Draft) : Logged BuildError Form := do
  let form ← Logged.ofExcept ((form elements).mapError .record)
  let mode := match mode with
    | .null => settings.validationMode
    | mode => mode
  let _ ← (form.validate mode formName).mapError .validation
  return form

end FormSchema.Builder
