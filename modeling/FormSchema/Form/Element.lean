import FormSchema.Number.Limit

/-!
# FormSchema — forms

A form is an ordered tree of elements. Fields hold data: six kinds are leaves, an array repeats a
list of elements, and an object nests one. Groups only arrange elements visually, and conditionals
show their elements while another field has a given value.
-/

namespace FormSchema

open Number (Limit)

/-- An option of a static choice: the stored value and the text shown for it. -/
structure EnumOption where
  id : String
  label : String
  deriving DecidableEq, Repr

/-- The options of a static choice: all plain values, or all with labels. -/
inductive Choices
  | plain (values : List String)
  | labelled (options : List EnumOption)
  deriving DecidableEq

def Choices.values : Choices → List String
  | .plain values => values
  | .labelled options => options.map (·.id)

structure Predicate where
  field : String
  value : Json

inductive LeafKind
  | text (placeholder : Option String)
  | number (min max : Option Limit)
  | boolean
  | staticEnum (choices : Choices)
  | dynamicEnum (source : String) (params : List String)
  | dynamicSchema (source : String)
  deriving DecidableEq

structure ItemBounds where
  min : Option Int
  max : Option Int
  deriving DecidableEq

structure FieldHead where
  name : String
  label : Option String
  required : Bool
  deriving DecidableEq

inductive Element
  | leaf (head : FieldHead) (kind : LeafKind)
  | array (head : FieldHead) (bounds : ItemBounds) (items : List Element)
  | object (head : FieldHead) (properties : List Element)
  | group (label : String) (elements : List Element)
  | conditional (test : Predicate) (elements : List Element)

structure Form where
  elements : List Element

inductive FieldBody
  | leaf (kind : LeafKind)
  | array (bounds : ItemBounds) (items : List Element)
  | object (properties : List Element)

structure Field extends FieldHead where
  body : FieldBody

inductive FieldKind
  | text
  | number
  | boolean
  | staticEnum
  | dynamicEnum
  | dynamicSchema
  | array
  | object
  deriving DecidableEq, Repr

def LeafKind.kind : LeafKind → FieldKind
  | .text _ => .text
  | .number _ _ => .number
  | .boolean => .boolean
  | .staticEnum _ => .staticEnum
  | .dynamicEnum _ _ => .dynamicEnum
  | .dynamicSchema _ => .dynamicSchema

def Field.kind (f : Field) : FieldKind :=
  match f.body with
  | .leaf kind => kind.kind
  | .array _ _ => .array
  | .object _ => .object

def Field.toElement (f : Field) : Element :=
  match f.body with
  | .leaf kind => .leaf f.toFieldHead kind
  | .array bounds items => .array f.toFieldHead bounds items
  | .object properties => .object f.toFieldHead properties

/-- The element as a field, when it is one. -/
def Element.field? : Element → Option Field
  | .leaf head kind => some ⟨head, .leaf kind⟩
  | .array head bounds items => some ⟨head, .array bounds items⟩
  | .object head properties => some ⟨head, .object properties⟩
  | .group _ _ => none
  | .conditional _ _ => none

@[simp] theorem Field.field?_toElement (f : Field) : f.toElement.field? = some f := by
  obtain ⟨head, body⟩ := f
  cases body <;> rfl

theorem Element.toElement_of_field? {e : Element} {f : Field} (h : e.field? = some f) :
    f.toElement = e := by
  cases e <;> simp [field?] at h <;> subst h <;> rfl

def FieldKind.tag : FieldKind → String
  | .text => "text"
  | .number => "number"
  | .boolean => "boolean"
  | .staticEnum => "static_enum"
  | .dynamicEnum => "dynamic_enum"
  | .dynamicSchema => "dynamic_schema"
  | .array => "array"
  | .object => "object"

mutual

/-- Whether two elements are written alike; see `Json.same`. -/
def Element.same : Element → Element → Bool
  | .leaf h k, .leaf h' k' => h == h' && k == k'
  | .array h b es, .array h' b' es' => h == h' && b == b' && sameElements es es'
  | .object h es, .object h' es' => h == h' && sameElements es es'
  | .group l es, .group l' es' => l == l' && sameElements es es'
  | .conditional t es, .conditional t' es' =>
    t.field == t'.field && t.value.same t'.value && sameElements es es'
  | _, _ => false

def sameElements : List Element → List Element → Bool
  | [], [] => true
  | e :: es, e' :: es' => e.same e' && sameElements es es'
  | _, _ => false

end

instance : BEq Form := ⟨fun f g => sameElements f.elements g.elements⟩

end FormSchema
