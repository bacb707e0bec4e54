import FormSchema.Layout
import FormSchema.Proofs.Form.WellFormed
import FormSchema.Proofs.Strict.Lookup
import FormSchema.Schema.Compile

/-!
# FormSchema — the compilers find what they look up

Compiling a static choice looks at its first option to learn the kind of all of them, and then asks
each one for its id and its label. A rule with one test asks for the first of its predicates. The
option is there in forms whose elements make sense, the predicate in all forms.

* **`schema`**, **`layout`** — the compilers with these look-ups.
* **`leafNode_eq`** — a leaf that makes sense has what its node is made of.
* **`elementMembers_eq`**, **`addMembers_eq`** — so has every element; the induction is on the
  elements, as the compiler goes through them.
* **`schema_eq`**, **`layout_eq`** — the documents that come out are the same.
-/

namespace FormSchema.Strict

open Schema (Node Members arrayNode objectNode versionIn draft07)

/-! ## Schemas -/

/-- The options as they are listed. Each one is of a kind of its own. -/
def listed : Choices → List (String ⊕ EnumOption)
  | .plain values => values.map .inl
  | .labelled options => options.map .inr

/-- The option with an id and a label; a text has none of these attributes. -/
def withLabel : String ⊕ EnumOption → Lookup EnumOption
  | .inr option => .ok option
  | .inl _ => .error (.attribute "id")

/-- The option as a text; one with a label is none. -/
def asText : String ⊕ EnumOption → Lookup String
  | .inl value => .ok value
  | .inr _ => .error (.attribute "text")

/-- The node of a static choice, by the kind of its first option. -/
def choiceNode (title : Option String) (options : List (String ⊕ EnumOption)) : Lookup Node := do
  match ← itemAt options 0 with
  | .inr _ =>
    let branches ← options.mapM withLabel
    pure (.leaf { type := .string, title, oneOf := some branches })
  | .inl _ =>
    let values ← options.mapM asText
    pure (.leaf { type := .string, title, enum := some values })

def leafNode (title : Option String) : LeafKind → Lookup Node
  | .staticEnum choices => choiceNode title (listed choices)
  | kind => pure (Schema.leafNode title kind)

mutual

/-- The members that an element adds to its scope. -/
def elementMembers (address : List Nat) (path : String) : Element → Lookup Members
  | .leaf head kind => do
    let node ← leafNode head.label kind
    pure (.ofField head node)
  | .array head bounds items => do
    let scope : Scope := ⟨address, itemsPath (joinPath path head.name)⟩
    let members ← addMembers scope.address scope.path 0 .empty items
    pure (.ofField head (arrayNode head.label bounds
      (objectNode none (versionIn scope (.str draft07)) members)))
  | .object head properties => do
    let scope : Scope := ⟨address, joinPath path head.name⟩
    let members ← addMembers scope.address scope.path 0 .empty properties
    pure (.ofField head (objectNode head.label (versionIn scope (.str draft07)) members))
  | .group label elements =>
    addMembers address (joinPath path (groupSegment label)) 0 .empty elements
  | .conditional test elements =>
    addMembers address (joinPath path (conditionalSegment test.field)) 0 .empty elements

def addMembers (address : List Nat) (path : String) (index : Nat) (collected : Members) :
    List Element → Lookup Members
  | [] => pure collected
  | e :: es => do
    let members ← elementMembers (address ++ [index]) path e
    addMembers address path (index + 1) (collected.append members) es

end

/-- The schema of a form with every look-up spelled out. -/
def schema (form : Form) (version : Json) : Lookup Node := do
  let members ← addMembers [] "" 0 .empty form.elements
  pure (objectNode none (versionIn .root version) members)

theorem mapM_asText (values : List String) :
    (values.map Sum.inl).mapM asText = .ok values := by
  have hall : values.mapM (asText ∘ Sum.inl) = .ok (values.map id) := mapM_eq_ok fun _ _ => rfl
  rw [List.mapM_map, hall, List.map_id]

theorem mapM_withLabel (options : List EnumOption) :
    (options.map Sum.inr).mapM withLabel = .ok options := by
  have hall : options.mapM (withLabel ∘ Sum.inr) = .ok (options.map id) :=
    mapM_eq_ok fun _ _ => rfl
  rw [List.mapM_map, hall, List.map_id]

/-- The first option is there, and the others are of the same kind. -/
theorem leafNode_eq (title : Option String) {kind : LeafKind} (h : kind.WellFormed) :
    leafNode title kind = .ok (Schema.leafNode title kind) := by
  cases kind with
  | staticEnum choices =>
    rw [leafNode, choiceNode]
    cases choices with
    | plain values =>
      have hfirst : itemAt (listed (.plain values)) 0 = .ok (.inl (values.head h)) := by
        cases values with
        | nil => exact absurd rfl h
        | cons value values => rfl
      have hvalues : (listed (.plain values)).mapM asText = .ok values := mapM_asText values
      rw [hfirst, ok_bind, hvalues, ok_bind]
      rfl
    | labelled options =>
      have hfirst : itemAt (listed (.labelled options)) 0 = .ok (.inr (options.head h.1)) := by
        cases options with
        | nil => exact absurd rfl h.1
        | cons option options => rfl
      have hoptions : (listed (.labelled options)).mapM withLabel = .ok options :=
        mapM_withLabel options
      rw [hfirst, ok_bind, hoptions, ok_bind]
      rfl
  | _ => rfl

mutual

theorem elementMembers_eq (address : List Nat) (path : String) :
    ∀ e : Element, e.WellFormed →
      elementMembers address path e = .ok (Schema.elementMembers address path e)
  | .leaf head kind => by
    rintro (⟨_, hkind⟩ | _)
    rw [elementMembers, leafNode_eq head.label hkind, ok_bind]
    rfl
  | .array head bounds items => by
    intro h
    cases h with
    | array _ _ hinner =>
      have hmembers := addMembers_eq address (itemsPath (joinPath path head.name)) 0 .empty items
        hinner
      rw [elementMembers, hmembers, ok_bind]
      rfl
  | .object head properties => by
    intro h
    cases h with
    | object _ hinner =>
      have hmembers := addMembers_eq address (joinPath path head.name) 0 .empty properties hinner
      rw [elementMembers, hmembers, ok_bind]
      rfl
  | .group label elements => by
    intro h
    cases h with
    | group hinner =>
      exact addMembers_eq address (joinPath path (groupSegment label)) 0 .empty elements hinner
  | .conditional test elements => by
    intro h
    cases h with
    | conditional _ hinner =>
      exact addMembers_eq address (joinPath path (conditionalSegment test.field)) 0 .empty elements
        hinner

theorem addMembers_eq (address : List Nat) (path : String) (index : Nat) (collected : Members) :
    ∀ es : List Element, (∀ e ∈ es, e.WellFormed) →
      addMembers address path index collected es
        = .ok (Schema.addMembers address path index collected es)
  | [] => fun _ => rfl
  | e :: es => by
    intro h
    have hhead := elementMembers_eq (address ++ [index]) path e (h e List.mem_cons_self)
    have htail := addMembers_eq address path (index + 1)
      (collected.append (Schema.elementMembers (address ++ [index]) path e)) es
      fun e' he' => h e' (List.mem_cons_of_mem e he')
    rw [addMembers, hhead, ok_bind, htail, Schema.addMembers]

end

/-- **The schema compiler finds what it looks up** in every form that makes sense. -/
theorem schema_eq {form : Form} (h : form.WellFormed) (version : Json) :
    schema form version = .ok (Schema.ofForm form version) := by
  rw [schema, addMembers_eq [] "" 0 .empty form.elements h, ok_bind]
  rfl

/-- A static choice without options has no first one. -/
example : schema ⟨[.leaf ⟨"a", none, false⟩ (.staticEnum (.plain []))]⟩ .null = .error (.item 0) :=
  rfl

/-! ## Layouts -/

/-- The condition that all predicates hold. -/
def condition? (predicates : List Predicate) : Lookup (Option Layout.Condition) :=
  if predicates.isEmpty then pure none
  else if predicates.length = 1 then do
    let p ← itemAt predicates 0
    pure (some (.scoped (Layout.pointer p.field) p.value))
  else pure (some (.allOf predicates))

def control (predicates : List Predicate) (head : FieldHead) : Lookup Layout.Node := do
  let rule ← condition? predicates
  pure (.control (Layout.pointer head.name) head.label rule)

mutual

/-- The nodes of an element below the given predicates. -/
def elementNodes (predicates : List Predicate) : Element → Lookup (List Layout.Node)
  | .leaf head _ => do
    let node ← control predicates head
    pure [node]
  | .array head _ _ => do
    let node ← control predicates head
    pure [node]
  | .object head _ => do
    let node ← control predicates head
    pure [node]
  | .group label elements => do
    let inner ← nodes predicates elements
    pure [.group label inner]
  | .conditional test elements => nodes (predicates ++ [test]) elements

def nodes (predicates : List Predicate) : List Element → Lookup (List Layout.Node)
  | [] => pure []
  | e :: es => do
    let first ← elementNodes predicates e
    let rest ← nodes predicates es
    pure (first ++ rest)

end

/-- The layout of a form with every look-up spelled out. -/
def layout (form : Form) : Lookup Json := do
  let inner ← nodes [] form.elements
  pure (.obj [("type", .str "VerticalLayout"), ("elements", .arr (Layout.nodesToJson inner))])

theorem condition?_eq (predicates : List Predicate) :
    condition? predicates = .ok (Layout.condition? predicates) := by
  match predicates with
  | [] => rfl
  | [_] => rfl
  | _ :: _ :: _ => rfl

theorem control_eq (predicates : List Predicate) (head : FieldHead) :
    control predicates head = .ok (Layout.control predicates head) := by
  rw [control, condition?_eq, ok_bind]
  rfl

mutual

theorem elementNodes_eq (predicates : List Predicate) :
    ∀ e : Element, elementNodes predicates e = .ok (Layout.elementNodes predicates e)
  | .leaf head kind => by
    rw [elementNodes, control_eq, ok_bind]
    rfl
  | .array head bounds items => by
    rw [elementNodes, control_eq, ok_bind]
    rfl
  | .object head properties => by
    rw [elementNodes, control_eq, ok_bind]
    rfl
  | .group label elements => by
    rw [elementNodes, nodes_eq predicates elements, ok_bind]
    rfl
  | .conditional test elements => nodes_eq (predicates ++ [test]) elements

theorem nodes_eq (predicates : List Predicate) :
    ∀ es : List Element, nodes predicates es = .ok (Layout.nodes predicates es)
  | [] => rfl
  | e :: es => by
    rw [nodes, elementNodes_eq predicates e, ok_bind, nodes_eq predicates es, ok_bind]
    rfl

end

/-- **The layout compiler finds what it looks up** in every form. -/
theorem layout_eq (form : Form) : layout form = .ok (Layout.ofForm form) := by
  rw [layout, nodes_eq, ok_bind]
  rfl

end FormSchema.Strict
