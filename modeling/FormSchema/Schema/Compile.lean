import FormSchema.Form.Scope
import FormSchema.Schema.Node

/-!
# FormSchema — the schema of a form

A scope becomes an object node: a property for each field, and the names of the required ones.
Groups and conditionals leave no trace, as if their elements stood in their place. Of fields with
the same name the last one is described, in the place of the first.
-/

namespace FormSchema.Schema

/-- The version of the vocabulary that documents name unless another one is asked for. -/
def draft07 : String := "https://json-schema.org/draft-07/schema#"

/-- The properties of a scope and its required names, repeated ones included. -/
structure Members where
  properties : Entries Node
  required : List String

namespace Members

def empty : Members := ⟨[], []⟩

/-- The members of one part of a scope and then those of another. -/
def append (m n : Members) : Members :=
  ⟨m.properties.merge n.properties, m.required ++ n.required⟩

def ofField (head : FieldHead) (node : Node) : Members :=
  ⟨[(head.name, node)], if head.required then [head.name] else []⟩

end Members

def leafNode (title : Option String) : LeafKind → Node
  | .text _ => .leaf { type := .string, title }
  | .number min max => .leaf { type := .number, title, minimum := min, maximum := max }
  | .boolean => .leaf { type := .boolean, title }
  | .staticEnum (.plain values) => .leaf { type := .string, title, enum := some values }
  | .staticEnum (.labelled options) => .leaf { type := .string, title, oneOf := some options }
  | .dynamicEnum source params =>
    .leaf { type := .string, title, source := some source
            params := if params.isEmpty then none else some params }
  | .dynamicSchema source =>
    .leaf { type := .object, title, additionalProperties := some true
            schemaSource := some source }

def arrayNode (title : Option String) (bounds : ItemBounds) (items : Node) : Node :=
  .array { type := .array, title, minItems := bounds.min, maxItems := bounds.max } items

/-- The node of a scope. Required names are listed once each, and not at all when there are
none. -/
def objectNode (title : Option String) (version : Option Json) (m : Members) : Node :=
  let required := firstOccurrences m.required
  .object { type := .object, title, version
            required := if required.isEmpty then none else some required } m.properties

/-- Only the node of the root scope names a version. -/
def versionIn (scope : Scope) (version : Json) : Option Json :=
  if scope.isRoot then some version else none

mutual

/-- The members that an element at an address, below a path, adds to its scope. The scope that an
array or object opens is compiled as any other one, for the usual version. -/
def elementMembers (address : List Nat) (path : String) : Element → Members
  | .leaf head kind => .ofField head (leafNode head.label kind)
  | .array head bounds items =>
    let scope : Scope := ⟨address, itemsPath (joinPath path head.name)⟩
    .ofField head (arrayNode head.label bounds
      (objectNode none (versionIn scope (.str draft07))
        (addMembers scope.address scope.path 0 .empty items)))
  | .object head properties =>
    let scope : Scope := ⟨address, joinPath path head.name⟩
    .ofField head (objectNode head.label (versionIn scope (.str draft07))
      (addMembers scope.address scope.path 0 .empty properties))
  -- wrapped fields are collected on their own and then merged with the ones around them
  | .group label elements =>
    addMembers address (joinPath path (groupSegment label)) 0 .empty elements
  | .conditional test elements =>
    addMembers address (joinPath path (conditionalSegment test.field)) 0 .empty elements

/-- Adds the members of further siblings, counted from an index on, to those collected so far. -/
def addMembers (address : List Nat) (path : String) (index : Nat) (collected : Members) :
    List Element → Members
  | [] => collected
  | e :: es =>
    addMembers address path (index + 1)
      (collected.append (elementMembers (address ++ [index]) path e)) es

end

/-- The members of a scope with the given elements. -/
def members (elements : List Element) (scope : Scope) : Members :=
  addMembers scope.address scope.path 0 .empty elements

def compile (elements : List Element) (scope : Scope) (version : Json) : Node :=
  objectNode none (versionIn scope version) (members elements scope)

/-- The node of a field that opens the given scope; leaves open none. -/
def ofField (f : Field) (scope : Scope) : Node :=
  match f.body with
  | .leaf kind => leafNode f.label kind
  | .array bounds items => arrayNode f.label bounds (compile items scope (.str draft07))
  | .object properties =>
    objectNode f.label (versionIn scope (.str draft07)) (members properties scope)

/-- What a field adds to its scope is its node in the scope that it opens at its address. -/
theorem elementMembers_toElement (address : List Nat) (path : String) (f : Field) :
    elementMembers address path f.toElement
      = .ofField f.toFieldHead (ofField f (f.childScope (joinPath path f.name) address)) := by
  obtain ⟨head, body⟩ := f
  cases body <;> rfl

def ofForm (form : Form) (version : Json) : Node := compile form.elements .root version

end FormSchema.Schema
