import FormSchema.Form.Element

/-!
# FormSchema — scopes

The form itself and every array and object field open a scope: a space of field names of its own.
Groups and conditionals open none, so what they hold belongs to the scope around them. Resolving a
form lists its scopes, and says for every field and conditional which scope it is in, under which
predicates it is shown and by which path a message names it.
-/

namespace FormSchema

/-- A scope, told apart by its address: the positions that lead from the root to the field that
opens it. The path is for messages only. -/
structure Scope where
  address : List Nat
  path : String
  deriving DecidableEq, Repr

namespace Scope

def root : Scope := ⟨[], ""⟩

/-- Whether a scope is the form's own. -/
def isRoot (s : Scope) : Bool := s.address.isEmpty

def describe (s : Scope) : String := if s.path.isEmpty then "root scope" else s!"scope \"{s.path}\""

end Scope

def joinPath (parent segment : String) : String :=
  if parent.isEmpty then segment else s!"{parent}.{segment}"

def groupSegment (label : String) : String := s!"[{label}]"

def conditionalSegment (field : String) : String := s!"when({field})"

def itemsPath (path : String) : String := s!"{path}[]"

/-- Whether a field opens a scope. -/
def Field.opensScope (f : Field) : Bool :=
  match f.body with
  | .leaf _ => false
  | .array _ _ => true
  | .object _ => true

/-- The elements in the scope that a field opens. -/
def Field.children (f : Field) : List Element :=
  match f.body with
  | .leaf _ => []
  | .array _ items => items
  | .object properties => properties

/-- The path of the scope that a field at a path opens. -/
def Field.childPath (f : Field) (path : String) : String :=
  match f.body with
  | .array _ _ => itemsPath path
  | _ => path

/-- The scope that a field at a path and an address opens. -/
def Field.childScope (f : Field) (path : String) (address : List Nat) : Scope :=
  ⟨address, f.childPath path⟩

/-- A field in its place. The predicates are those of the conditionals around it, outermost
first. -/
structure FieldPlacement where
  field : Field
  scope : Scope
  predicates : List Predicate
  path : String

/-- A conditional in its place. The predicates are those of the conditionals around it, without its
own. -/
structure ConditionalPlacement where
  test : Predicate
  elements : List Element
  scope : Scope
  predicates : List Predicate
  path : String

/-- The places of all fields and conditionals of a form, in pre-order. -/
structure Resolution where
  scopes : List Scope
  fields : List FieldPlacement
  conditionals : List ConditionalPlacement

namespace Resolution

def empty : Resolution := ⟨[], [], []⟩

/-- The places of one part and then those of another. -/
def append (r s : Resolution) : Resolution :=
  ⟨r.scopes ++ s.scopes, r.fields ++ s.fields, r.conditionals ++ s.conditionals⟩

instance : Append Resolution := ⟨append⟩

def ofField (placement : FieldPlacement) : Resolution := ⟨[], [placement], []⟩

def ofScope (scope : Scope) : Resolution := ⟨[scope], [], []⟩

def ofConditional (placement : ConditionalPlacement) : Resolution := ⟨[], [], [placement]⟩

def fieldsIn (r : Resolution) (scope : Scope) : List FieldPlacement :=
  r.fields.filter fun placement => placement.scope = scope

/-- The names of a scope's fields, each once. -/
def namesIn (r : Resolution) (scope : Scope) : List String :=
  firstOccurrences ((r.fieldsIn scope).map (·.field.name))

def namesByScope (r : Resolution) : List (Scope × List String) :=
  r.scopes.map fun scope => (scope, r.namesIn scope)

end Resolution

/-- Where a walk through a form stands: the scope and predicates in force, the path so far and the
address. -/
structure Position where
  scope : Scope
  predicates : List Predicate
  path : String
  address : List Nat

namespace Position

def start : Position := ⟨.root, [], "", []⟩

def child (pos : Position) (index : Nat) : Position :=
  { pos with address := pos.address ++ [index] }

/-- Inside a group or conditional, one path segment further. -/
def within (pos : Position) (segment : String) : Position :=
  { pos with path := joinPath pos.path segment }

def under (pos : Position) (test : Predicate) : Position :=
  { pos.within (conditionalSegment test.field) with predicates := pos.predicates ++ [test] }

def fieldPath (pos : Position) (head : FieldHead) : String := joinPath pos.path head.name

/-- Inside a scope that the field at this address opens. -/
def inside (pos : Position) (path : String) : Position :=
  { pos with scope := ⟨pos.address, path⟩, path }

end Position

mutual

/-- The places in an element that stands at a position. -/
def placeElement (pos : Position) : Element → Resolution
  | .leaf head kind =>
    .ofField ⟨⟨head, .leaf kind⟩, pos.scope, pos.predicates, pos.fieldPath head⟩
  | .array head bounds items =>
    let inner := pos.inside (itemsPath (pos.fieldPath head))
    .ofField ⟨⟨head, .array bounds items⟩, pos.scope, pos.predicates, pos.fieldPath head⟩
      ++ .ofScope inner.scope ++ placeElements inner 0 items
  | .object head properties =>
    let inner := pos.inside (pos.fieldPath head)
    .ofField ⟨⟨head, .object properties⟩, pos.scope, pos.predicates, pos.fieldPath head⟩
      ++ .ofScope inner.scope ++ placeElements inner 0 properties
  | .group label elements => placeElements (pos.within (groupSegment label)) 0 elements
  | .conditional test elements =>
    -- the conditional stands outside its own test, but its path names it
    let inner := pos.under test
    .ofConditional ⟨test, elements, pos.scope, pos.predicates, inner.path⟩
      ++ placeElements inner 0 elements

/-- The places in a list of siblings, counted from an index on. -/
def placeElements (pos : Position) (index : Nat) : List Element → Resolution
  | [] => .empty
  | e :: es => placeElement (pos.child index) e ++ placeElements pos (index + 1) es

end

/-- The places of all fields and conditionals among the elements of a form. -/
def resolve (elements : List Element) : Resolution :=
  .ofScope .root ++ placeElements .start 0 elements

end FormSchema
