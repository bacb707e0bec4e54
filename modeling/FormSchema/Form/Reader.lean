import FormSchema.Form.Options
import FormSchema.Json.Reader

/-!
# FormSchema — reading forms

A form is read from an object with a list of `elements`, from the bare list, or from the JSON text
of either. Each element is an object whose tag tells what it is: the `kind` of a field, and the
`type` of anything else. All attributes of all elements are read side by side, so that every fault
in the whole tree is reported, each under its path.
-/

namespace FormSchema

open Intake Number

inductive Tag
  | field (kind : FieldKind)
  | group
  | conditional
  deriving DecidableEq, Repr

/-- All tags, in the order in which they are listed to a user. -/
def Tag.all : List Tag :=
  [.field .text, .field .number, .field .boolean, .field .staticEnum, .field .dynamicEnum,
    .field .dynamicSchema, .field .array, .field .object, .group, .conditional]

def Tag.name : Tag → String
  | .field kind => kind.tag
  | .group => "group"
  | .conditional => "conditional"

def Tag.ofName? (name : String) : Option Tag := Tag.all.find? fun tag => tag.name == name

theorem Tag.ofName?_name (tag : Tag) : Tag.ofName? tag.name = some tag := by
  rcases tag with kind | _ | _
  · cases kind <;> decide
  · decide
  · decide

def tagValue (value : Json) : Json :=
  match value.getD "type" with
  | .str "field" => value.getD "kind"
  | other => other

/-- A member of an object: its value, and what that is as a list of elements and as a list of
options, for the attributes that are one. -/
structure Member where
  value : Json
  elements : Checked (List Element)
  options : Option (List OptionDraft)

def reading {α : Type} (check : Json → Checked α) (m : Member) : Checked α := check m.value

def headKeys : List Key :=
  [.plain "type", .plain "name", .plain "label", .plain "required", .plain "kind"]

def readName (members : Entries Member) : Checked String :=
  required (.plain "name") (reading nonEmptyText) members

def readPlainHead (members : Entries Member) : Checked FieldHead :=
  (fun (_ : Unit) name label required => FieldHead.mk name label required)
    <$> optional (.plain "type") () (reading (exactly "field")) members
    <*> readName members
    <*> optional (.plain "label") none (reading (orNull text)) members
    <*> optional (.plain "required") false (reading flag) members

def readHead (kind : FieldKind) (members : Entries Member) : Checked FieldHead :=
  (fun head (_ : Unit) => head) <$> readPlainHead members
    <*> optional (.plain "kind") () (reading (exactly kind.tag)) members

def minItemsKey : Key := ⟨"minItems", some "min_items"⟩

def maxItemsKey : Key := ⟨"maxItems", some "max_items"⟩

def schemaSourceKey : Key := ⟨"schemaSource", some "schema_source"⟩

/-- A number's range is empty when the lower limit is greater than the upper one. -/
def rangeMisconfiguration? (name : String) : Option Limit → Option Limit → Option Misconfiguration
  | some min, some max => if min.exceeds max then some (.emptyRange name min max) else none
  | _, _ => none

/-- Array bounds are not negative, and the lower one does not exceed the upper one. -/
def boundsMisconfiguration? (name : String) (bounds : ItemBounds) : Option Misconfiguration :=
  if bounds.min.any (· < 0) ∨ bounds.max.any (· < 0) then some (.negativeBound name)
  else
    match bounds.min, bounds.max with
    | some min, some max => if min > max then some (.emptyBounds name min max) else none
    | _, _ => none

/-- What makes no sense about an element as such, if anything. -/
def Element.misconfiguration? : Element → Option Misconfiguration
  | .leaf head (.number min max) => rangeMisconfiguration? head.name min max
  | .array head bounds _ => boundsMisconfiguration? head.name bounds
  | _ => none

/-- The list of elements at a key; an empty one when the key is absent. -/
def readChildren (key : String) (members : Entries Member) : Checked (List Element) :=
  optional (.plain key) [] Member.elements members

/-- The attributes that a tag has in addition to those of every field, if it is one. -/
def Tag.keys : Tag → List Key
  | .field .text => headKeys ++ [.plain "placeholder"]
  | .field .number => headKeys ++ [.plain "min", .plain "max"]
  | .field .boolean => headKeys
  | .field .staticEnum => headKeys ++ [.plain "options"]
  | .field .dynamicEnum => headKeys ++ [.plain "source", .plain "params"]
  | .field .dynamicSchema => headKeys ++ [schemaSourceKey]
  | .field .array => headKeys ++ [.plain "items", minItemsKey, maxItemsKey]
  | .field .object => headKeys ++ [.plain "properties"]
  | .group => [.plain "type", .plain "label", .plain "elements"]
  | .conditional => [.plain "type", .plain "field", .plain "value", .plain "elements"]

/-- Reads the attributes of an element with a tag, in their order of declaration. -/
def readAttributes (tag : Tag) (members : Entries Member) : Checked Element :=
  match tag with
  | .field .text =>
    (fun head placeholder => .leaf head (.text placeholder)) <$> readHead .text members
      <*> optional (.plain "placeholder") none (reading (orNull text)) members
  | .field .number =>
    (fun head min max => .leaf head (.number min max)) <$> readHead .number members
      <*> optional (.plain "min") none (reading (orNull limit)) members
      <*> optional (.plain "max") none (reading (orNull limit)) members
  | .field .boolean => (fun head => .leaf head .boolean) <$> readHead .boolean members
  | .field .staticEnum =>
    -- messages about options name the field, or have a question mark where its name is wrong
    let name := (readName members).value?.getD "?"
    (fun head choices => .leaf head (.staticEnum choices)) <$> readHead .staticEnum members
      <*> required (.plain "options") (fun m => readChoices name m.options) members
  | .field .dynamicEnum =>
    (fun head source params => .leaf head (.dynamicEnum source params))
      <$> readHead .dynamicEnum members
      <*> required (.plain "source") (reading text) members
      <*> optional (.plain "params") [] (reading texts) members
  | .field .dynamicSchema =>
    (fun head source => .leaf head (.dynamicSchema source)) <$> readHead .dynamicSchema members
      <*> required schemaSourceKey (reading text) members
  | .field .array =>
    (fun head items min max => .array head ⟨min, max⟩ items) <$> readHead .array members
      <*> readChildren "items" members
      <*> optional minItemsKey none (reading (orNull integer)) members
      <*> optional maxItemsKey none (reading (orNull integer)) members
  | .field .object =>
    (fun head properties => .object head properties) <$> readHead .object members
      <*> readChildren "properties" members
  | .group =>
    (fun (_ : Unit) label elements => .group label elements)
      <$> optional (.plain "type") () (reading (exactly "group")) members
      <*> required (.plain "label") (reading text) members
      <*> readChildren "elements" members
  | .conditional =>
    (fun (_ : Unit) field value elements => .conditional ⟨field, value⟩ elements)
      <$> optional (.plain "type") () (reading (exactly "conditional")) members
      <*> required (.plain "field") (reading nonEmptyText) members
      <*> optional (.plain "value") .null (reading .accepted) members
      <*> readChildren "elements" members

/-- Reads an element with a tag: its attributes, then its unknown keys, and last, if nothing was
wrong so far, whether it makes sense. -/
def readTagged (tag : Tag) (members : Entries Member) : Checked Element :=
  ((readAttributes tag members).withFaults (unknownKeys tag.keys members)).verify
    Element.misconfiguration?

/-- Reads an element from its tag value and its members. -/
def readByTag (tag : Json) (members : Entries Member) : Checked Element :=
  match tag with
  | .null => .fault .untagged
  | tag =>
    -- tags are compared as texts, and shown as whatever they are
    let known := match tag with
      | .str name => Tag.ofName? name
      | _ => none
    match known with
    | some tag => (readTagged tag members).under (.key tag.name)
    | none => .fault (.unknownTag tag.plain (Tag.all.map Tag.name))

mutual

def readElement : Json → Checked Element
  | .obj members => readByTag (tagValue (.obj members)) (readMembers members)
  | _ => .fault .untagged

def readElements : Json → Checked (List Element)
  | .arr items => readItems 0 items
  | _ => .fault .notTuple

/-- Reads the elements of a list from a position on. -/
def readItems (position : Nat) : List Json → Checked (List Element)
  | [] => .accepted []
  | item :: rest =>
    Checked.map (fun p => p.1 :: p.2)
      (Checked.both ((readElement item).under (.index position)) (readItems (position + 1) rest))

/-- Reads every member's value as a list of elements and as a list of options. -/
def readMembers : List (String × Json) → List (String × Member)
  | [] => []
  | (key, value) :: rest =>
    (key, ⟨value, readElements value, OptionDraft.ofJson? value⟩) :: readMembers rest

end

def Form.readMembers (members : Entries Member) : Checked Form :=
  (Form.mk <$> readChildren "elements" members).withFaults
    (unknownKeys [.plain "elements"] members)

def Form.read : Json → Checked Form
  | .obj members => Form.readMembers (FormSchema.readMembers members)
  | _ => .fault (.notRecord "FormSpec")

def Tag.title : Tag → String
  | .field .text => "TextField"
  | .field .number => "NumberField"
  | .field .boolean => "BooleanField"
  | .field .staticEnum => "StaticEnumField"
  | .field .dynamicEnum => "DynamicEnumField"
  | .field .dynamicSchema => "DynamicSchemaField"
  | .field .array => "ArrayField"
  | .field .object => "ObjectField"
  | .group => "Group"
  | .conditional => "Conditional"

/-- Reads an object as an element whose tag is known beforehand. -/
def Element.readAs (tag : Tag) : Json → Checked Element
  | .obj members => readTagged tag (FormSchema.readMembers members)
  | _ => .fault (.notRecord tag.title)

/-- Reads what all fields declare from an object that declares nothing else. -/
def FieldHead.read : Json → Checked FieldHead
  | .obj members =>
    (readPlainHead (FormSchema.readMembers members)).withFaults
      (unknownKeys headKeys.dropLast members)
  | _ => .fault (.notRecord "BaseField")

/-- Reads a predicate; members other than its two attributes are ignored. -/
def Predicate.read : Json → Checked Predicate
  | .obj members =>
    Predicate.mk <$> required (.plain "field") text members
      <*> optional (.plain "value") .null .accepted members
  | _ => .fault (.notRecord "EqualsPredicate")

/-- Why a form could not be loaded. -/
inductive LoadError
  | text (error : Json.TextError)
  | notAForm
  | record (error : RecordError)

def LoadError.message : LoadError → String
  | .text error => error.message
  | .notAForm => "formspec must be an object with an 'elements' list"
  | .record error => error.message

/-- The object that data stands for when a form is expected: a list is the list of its elements. -/
def Form.wrap : Json → Json
  | .arr items => .obj [("elements", .arr items)]
  | value => value

/-- Loads a form from data: an object, a list of elements, or the JSON text of either. -/
def Form.load (data : Json) : Except LoadError Form := do
  let value ← match data with
    | .str source => (Json.parse source).mapError .text
    | value => pure value
  match Form.wrap value with
  | .obj members => ((Form.read (.obj members)).toExcept "FormSpec").mapError .record
  | _ => .error .notAForm

end FormSchema
