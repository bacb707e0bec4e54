import FormSchema.Form.Scope

/-!
# FormSchema — the contents of a scope

The fields that a list of elements declares in its own scope: those reached through groups and
conditionals, and none of those inside the items of an array or the properties of an object, which
belong to scopes of their own. Statements about a whole form are stated of the contents of a scope
and carried into the scopes below it by `scope_induction`.
-/

namespace FormSchema

/-! ## Contents -/

mutual

/-- The fields that an element declares in the scope it stands in. -/
def Element.content : Element → List Field
  | .leaf head kind => [⟨head, .leaf kind⟩]
  | .array head bounds items => [⟨head, .array bounds items⟩]
  | .object head properties => [⟨head, .object properties⟩]
  | .group _ elements => contents elements
  | .conditional _ elements => contents elements

/-- The fields that a list of elements declares in its scope, in order. -/
def contents : List Element → List Field
  | [] => []
  | e :: es => e.content ++ contents es

end

@[simp] theorem contents_nil : contents [] = [] := rfl

@[simp] theorem contents_cons (e : Element) (es : List Element) :
    contents (e :: es) = e.content ++ contents es := rfl

@[simp] theorem contents_append (es more : List Element) :
    contents (es ++ more) = contents es ++ contents more := by
  induction es with
  | nil => rfl
  | cons e es ih => rw [List.cons_append, contents_cons, ih, contents_cons, List.append_assoc]

/-! ## Contents with their tests -/

mutual

/-- The fields that an element declares in its scope, each with the tests of the conditionals of
that scope around it, outermost first. -/
def Element.guarded : Element → List (Field × List Predicate)
  | .leaf head kind => [(⟨head, .leaf kind⟩, [])]
  | .array head bounds items => [(⟨head, .array bounds items⟩, [])]
  | .object head properties => [(⟨head, .object properties⟩, [])]
  | .group _ elements => guardedContents elements
  | .conditional test elements => (guardedContents elements).map fun g => (g.1, test :: g.2)

/-- The fields that a list of elements declares in its scope, each with the tests around it. -/
def guardedContents : List Element → List (Field × List Predicate)
  | [] => []
  | e :: es => e.guarded ++ guardedContents es

end

mutual

theorem Element.fst_guarded : ∀ e : Element, e.guarded.map (·.1) = e.content
  | .leaf head kind => rfl
  | .array head bounds items => rfl
  | .object head properties => rfl
  | .group _ elements => fst_guardedContents elements
  | .conditional test elements => by
    rw [Element.guarded, List.map_map, Element.content]
    exact fst_guardedContents elements

theorem fst_guardedContents : ∀ es : List Element, (guardedContents es).map (·.1) = contents es
  | [] => rfl
  | e :: es => by
    rw [guardedContents, List.map_append, Element.fst_guarded e, fst_guardedContents es,
      contents_cons]

end

/-! ## Induction over scopes -/

section ScopeInduction

variable {P : List Element → Prop}

mutual

private theorem children_of_step (step : ∀ es, (∀ f ∈ contents es, P f.children) → P es) :
    ∀ e : Element, ∀ f ∈ e.content, P f.children
  | .leaf head kind => by
    intro f hf
    rw [List.mem_singleton.mp hf]
    exact step [] (by simp)
  | .array head bounds items => by
    intro f hf
    rw [List.mem_singleton.mp hf]
    exact step items (contents_of_step step items)
  | .object head properties => by
    intro f hf
    rw [List.mem_singleton.mp hf]
    exact step properties (contents_of_step step properties)
  | .group _ elements => contents_of_step step elements
  | .conditional _ elements => contents_of_step step elements

private theorem contents_of_step (step : ∀ es, (∀ f ∈ contents es, P f.children) → P es) :
    ∀ es : List Element, ∀ f ∈ contents es, P f.children
  | [] => by simp
  | e :: es => by
    intro f hf
    rcases List.mem_append.mp hf with hhead | htail
    · exact children_of_step step e f hhead
    · exact contents_of_step step es f htail

end

/-- **Induction over scopes.** What follows for the elements of a scope from the elements of the
scopes that its fields open holds of all elements. -/
theorem scope_induction (step : ∀ es, (∀ f ∈ contents es, P f.children) → P es)
    (es : List Element) : P es :=
  step es (contents_of_step step es)

end ScopeInduction

end FormSchema
