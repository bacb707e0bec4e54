import FormSchema.Proofs.Entries
import FormSchema.Proofs.Form.Contents

/-!
# FormSchema — the scopes of a tree

The scopes of a form, its conditionals and the paths that messages name them by, read off the tree
of elements alone. Nothing here walks with an address or compares scopes; which element list a field
or a conditional belongs to is settled by where it stands.

* **`bodies`** — the element lists of all scopes in pre-order, the form's own first.
* **`tests`** — the tests of all conditionals in pre-order, each with the scope it is made in.
* **`bodiesBelow_eq_flatMap`** — scopes below a scope are those that its fields open, one field
  after the other.
* **`tests_perm`** — every conditional is in exactly one scope.
-/

namespace FormSchema

/-! ## Fields with their paths -/

mutual

/-- The fields that an element below a path declares in its scope, each with its own path. -/
def Element.located (path : String) : Element → List (Field × String)
  | .leaf head kind => [(⟨head, .leaf kind⟩, joinPath path head.name)]
  | .array head bounds items => [(⟨head, .array bounds items⟩, joinPath path head.name)]
  | .object head properties => [(⟨head, .object properties⟩, joinPath path head.name)]
  | .group label elements => locatedContents (joinPath path (groupSegment label)) elements
  | .conditional test elements =>
    locatedContents (joinPath path (conditionalSegment test.field)) elements

/-- The fields that elements below a path declare in their scope, each with its own path. -/
def locatedContents (path : String) : List Element → List (Field × String)
  | [] => []
  | e :: es => e.located path ++ locatedContents path es

end

mutual

theorem Element.fst_located (path : String) : ∀ e : Element, (e.located path).map (·.1) = e.content
  | .leaf _ _ => rfl
  | .array _ _ _ => rfl
  | .object _ _ => rfl
  | .group label elements => fst_locatedContents (joinPath path (groupSegment label)) elements
  | .conditional test elements =>
    fst_locatedContents (joinPath path (conditionalSegment test.field)) elements

theorem fst_locatedContents (path : String) :
    ∀ es : List Element, (locatedContents path es).map (·.1) = contents es
  | [] => rfl
  | e :: es => by
    rw [locatedContents, List.map_append, Element.fst_located path e, fst_locatedContents path es,
      contents_cons]

end

/-! ## Scopes -/

/-- The element list of a scope, with the path that messages name the scope by. -/
structure ScopeBody where
  path : String
  elements : List Element

namespace ScopeBody

/-- The scope that a field at a path opens. -/
def openedBy (field : Field) (path : String) : ScopeBody := ⟨field.childPath path, field.children⟩

/-- The fields of the scope, each with its path. -/
def fields (b : ScopeBody) : List (Field × String) := locatedContents b.path b.elements

/-- The names of the fields, as often as they are declared. -/
def names (b : ScopeBody) : List String := (contents b.elements).map (·.name)

/-- The names that are declared more than once, in order of first occurrence. -/
def repeatedNames (b : ScopeBody) : List String :=
  (firstOccurrences b.names).filter fun name => 2 ≤ b.names.count name

/-- The paths of the fields with a name, in order. -/
def pathsOf (b : ScopeBody) (name : String) : List String :=
  Entries.valuesAt (b.fields.map fun field => (field.1.name, field.2)) name

theorem names_eq_map_fields (b : ScopeBody) :
    (b.fields.map fun field => (field.1.name, field.2)).map (·.1) = b.names := by
  rw [names, ← fst_locatedContents b.path b.elements, fields, List.map_map, List.map_map]
  rfl

/-- A name has a path for each time it is declared. -/
theorem length_pathsOf (b : ScopeBody) (name : String) :
    (b.pathsOf name).length = b.names.count name := by
  rw [pathsOf, Entries.length_valuesAt, names_eq_map_fields]

end ScopeBody

mutual

/-- The scopes that an element below a path opens, and those inside them, in pre-order. -/
def Element.bodies (path : String) : Element → List ScopeBody
  | .leaf _ _ => []
  | .array head _ items =>
    let inner := itemsPath (joinPath path head.name)
    ⟨inner, items⟩ :: bodiesBelow inner items
  | .object head properties =>
    let inner := joinPath path head.name
    ⟨inner, properties⟩ :: bodiesBelow inner properties
  | .group label elements => bodiesBelow (joinPath path (groupSegment label)) elements
  | .conditional test elements =>
    bodiesBelow (joinPath path (conditionalSegment test.field)) elements

/-- The scopes that elements below a path open, and those inside them, in pre-order. -/
def bodiesBelow (path : String) : List Element → List ScopeBody
  | [] => []
  | e :: es => e.bodies path ++ bodiesBelow path es

end

/-- All scopes of a form: its own, and then those that its fields open. -/
def bodies (es : List Element) : List ScopeBody := ⟨"", es⟩ :: bodiesBelow "" es

/-- The scope that a field at a path opens, if it does, and those inside it. -/
def Field.bodies (field : Field) (path : String) : List ScopeBody :=
  if field.opensScope then
    .openedBy field path :: bodiesBelow (field.childPath path) field.children
  else []

mutual

theorem Element.bodies_eq_flatMap (path : String) :
    ∀ e : Element, e.bodies path = (e.located path).flatMap fun field => field.1.bodies field.2
  | .leaf _ _ => rfl
  | .array _ _ _ => (List.append_nil _).symm
  | .object _ _ => (List.append_nil _).symm
  | .group label elements => bodiesBelow_eq_flatMap (joinPath path (groupSegment label)) elements
  | .conditional test elements =>
    bodiesBelow_eq_flatMap (joinPath path (conditionalSegment test.field)) elements

/-- The scopes below a scope, field by field. -/
theorem bodiesBelow_eq_flatMap (path : String) : ∀ es : List Element,
    bodiesBelow path es = (locatedContents path es).flatMap fun field => field.1.bodies field.2
  | [] => rfl
  | e :: es => by
    rw [bodiesBelow, Element.bodies_eq_flatMap path e, bodiesBelow_eq_flatMap path es,
      locatedContents, List.flatMap_append]

end

/-! ## Conditionals -/

/-- The test of a conditional at a path, with the scope in which it is made. -/
structure ScopedTest where
  test : Predicate
  path : String
  scope : ScopeBody

/-- Whether some field of the scope has the tested name, wherever in the scope it is declared. -/
def ScopedTest.declared (t : ScopedTest) : Bool := t.test.field ∈ t.scope.names

mutual

/-- The tests in an element below a path that belongs to a scope, in pre-order. Those inside a scope
that the element opens are made in that scope. -/
def Element.tests (scope : ScopeBody) (path : String) : Element → List ScopedTest
  | .leaf _ _ => []
  | .array head _ items =>
    let inner := itemsPath (joinPath path head.name)
    testsIn ⟨inner, items⟩ inner items
  | .object head properties =>
    let inner := joinPath path head.name
    testsIn ⟨inner, properties⟩ inner properties
  | .group label elements => testsIn scope (joinPath path (groupSegment label)) elements
  | .conditional test elements =>
    let inner := joinPath path (conditionalSegment test.field)
    ⟨test, inner, scope⟩ :: testsIn scope inner elements

/-- The tests in elements below a path that belong to a scope, in pre-order. -/
def testsIn (scope : ScopeBody) (path : String) : List Element → List ScopedTest
  | [] => []
  | e :: es => e.tests scope path ++ testsIn scope path es

end

/-- The tests of all conditionals of a form, each with its scope. -/
def tests (es : List Element) : List ScopedTest := testsIn ⟨"", es⟩ "" es

mutual

/-- The conditionals that an element below a path has in its scope, each with its path. -/
def Element.ownTests (path : String) : Element → List (Predicate × String)
  | .leaf _ _ => []
  | .array _ _ _ => []
  | .object _ _ => []
  | .group label elements => ownTests (joinPath path (groupSegment label)) elements
  | .conditional test elements =>
    let inner := joinPath path (conditionalSegment test.field)
    (test, inner) :: ownTests inner elements

/-- The conditionals that elements below a path have in their scope, each with its path. -/
def ownTests (path : String) : List Element → List (Predicate × String)
  | [] => []
  | e :: es => e.ownTests path ++ ownTests path es

end

namespace ScopeBody

/-- The conditionals in a scope as tests that are made in it. -/
def testsAmong (b : ScopeBody) (own : List (Predicate × String)) : List ScopedTest :=
  own.map fun test => ⟨test.1, test.2, b⟩

/-- The tests that are made in a scope. -/
def tests (b : ScopeBody) : List ScopedTest := b.testsAmong (ownTests b.path b.elements)

theorem testsAmong_append (b : ScopeBody) (xs ys : List (Predicate × String)) :
    b.testsAmong (xs ++ ys) = b.testsAmong xs ++ b.testsAmong ys := List.map_append

end ScopeBody

mutual

theorem Element.tests_perm (scope : ScopeBody) (path : String) : ∀ e : Element,
    (e.tests scope path).Perm
      (scope.testsAmong (e.ownTests path) ++ (e.bodies path).flatMap ScopeBody.tests)
  | .leaf _ _ => .refl _
  | .array head _ items => testsIn_perm ⟨_, items⟩ (itemsPath (joinPath path head.name)) items
  | .object head properties => testsIn_perm ⟨_, properties⟩ (joinPath path head.name) properties
  | .group label elements => testsIn_perm scope (joinPath path (groupSegment label)) elements
  | .conditional test elements =>
    (testsIn_perm scope (joinPath path (conditionalSegment test.field)) elements).cons _

/-- The tests of a scope and those of the scopes below it are all the tests there are. -/
theorem testsIn_perm (scope : ScopeBody) (path : String) : ∀ es : List Element,
    (testsIn scope path es).Perm
      (scope.testsAmong (ownTests path es) ++ (bodiesBelow path es).flatMap ScopeBody.tests)
  | [] => .refl _
  | e :: es => by
    -- the scopes that the first element opens stand between its own tests and those of the rest
    have hhead := Element.tests_perm scope path e
    have htail := testsIn_perm scope path es
    rw [testsIn, ownTests, bodiesBelow, ScopeBody.testsAmong_append, List.flatMap_append]
    refine (hhead.append htail).trans ?_
    rw [List.append_assoc, List.append_assoc]
    refine List.Perm.append_left _ ?_
    rw [← List.append_assoc, ← List.append_assoc]
    exact List.Perm.append_right _ List.perm_append_comm

end

/-- **Every conditional is in exactly one scope**: the tests of all scopes together are the tests of
the form. -/
theorem tests_perm (es : List Element) :
    (tests es).Perm ((bodies es).flatMap ScopeBody.tests) := testsIn_perm ⟨"", es⟩ "" es

end FormSchema
