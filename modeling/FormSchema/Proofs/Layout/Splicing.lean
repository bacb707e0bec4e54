import FormSchema.Proofs.Layout.Controls

/-!
# FormSchema — what wrappers do to a layout

Conditionals show in nothing but the rules of controls, and groups in nothing but the nesting of
nodes. So taking the rules out of a layout document gives the layout of the form without its
conditionals, and dissolving the groups of the document gives that of the form without its groups.

* **`splice`** — the elements of a scope without its wrappers of one kind. What is inside the items
  of an array or the properties of an object belongs to another scope and stays.
* **`withoutRules`**, **`ungrouped`** — the two operations on documents, which know nothing about
  the form.
* **`withoutRules_nodes`**, **`ungrouped_nodes`** — each commutes with compiling, below any tests.
  One case for each kind of element.
* **`layout_of_spliced`** — both squares.
-/

namespace FormSchema

/-! ## Forms without wrappers of one kind -/

inductive Wrapper
  | group
  | conditional
  deriving DecidableEq, Repr

mutual

/-- The elements that stand in place of an element once the wrappers of a kind are spliced away. -/
def Element.splice (kind : Wrapper) : Element → List Element
  | .leaf head leafKind => [.leaf head leafKind]
  | .array head bounds items => [.array head bounds items]
  | .object head properties => [.object head properties]
  | .group label elements =>
    match kind with
    | .group => splice kind elements
    | .conditional => [.group label (splice kind elements)]
  | .conditional test elements =>
    match kind with
    | .group => [.conditional test (splice kind elements)]
    | .conditional => splice kind elements

/-- `Element.splice` on siblings, each in its place. -/
def splice (kind : Wrapper) : List Element → List Element
  | [] => []
  | e :: es => e.splice kind ++ splice kind es

end

namespace Layout

/-! ## Documents without rules -/

mutual

/-- A node without the rules of the controls in it. -/
def withoutRules : Json → Json
  | .obj members => .obj (membersWithoutRules (isKind "Control" (.obj members)) members)
  | value => value

/-- The members of a node, without the rule if it is a control. -/
def membersWithoutRules (control : Bool) : List (String × Json) → List (String × Json)
  | [] => []
  | (key, value) :: rest =>
    if control && key == "rule" then membersWithoutRules control rest
    else (key, if key = "elements" then elementsWithoutRules value else value)
      :: membersWithoutRules control rest

def elementsWithoutRules : Json → Json
  | .arr items => .arr (itemsWithoutRules items)
  | value => value

/-- Nodes without the rules of the controls in them. -/
def itemsWithoutRules : List Json → List Json
  | [] => []
  | item :: items => withoutRules item :: itemsWithoutRules items

end

theorem itemsWithoutRules_append (xs ys : List Json) :
    itemsWithoutRules (xs ++ ys) = itemsWithoutRules xs ++ itemsWithoutRules ys := by
  induction xs with
  | nil => rfl
  | cons x xs ih =>
    rw [List.cons_append, itemsWithoutRules, ih, itemsWithoutRules, List.cons_append]

theorem withoutRules_control (pointer : String) (label : Option String)
    (rule : Option Condition) :
    withoutRules (Node.control pointer label rule).toJson
      = (Node.control pointer label none).toJson := by
  cases label <;> cases rule <;> rfl

theorem withoutRules_group (label : String) (elements : List Node) {others : List Node}
    (h : itemsWithoutRules (nodesToJson elements) = nodesToJson others) :
    withoutRules (Node.group label elements).toJson = (Node.group label others).toJson := by
  have hkind : isKind "Control" (Node.group label elements).toJson = false := rfl
  rw [Node.toJson] at hkind ⊢
  rw [withoutRules, hkind, Node.toJson, ← h]
  rfl

/-! ## Documents without groups -/

mutual

/-- The nodes that stand in place of a node once groups are replaced by what is in them. -/
def ungrouped : Json → List Json
  | .obj members =>
    if isKind "Group" (.obj members) then ungroupedMembers members else [.obj members]
  | value => [value]

def ungroupedMembers : List (String × Json) → List Json
  | [] => []
  | (key, value) :: rest =>
    (if key = "elements" then ungroupedElements value else []) ++ ungroupedMembers rest

def ungroupedElements : Json → List Json
  | .arr items => ungroupedItems items
  | _ => []

/-- `ungrouped` on nodes, each in its place. -/
def ungroupedItems : List Json → List Json
  | [] => []
  | item :: items => ungrouped item ++ ungroupedItems items

end

theorem ungroupedItems_append (xs ys : List Json) :
    ungroupedItems (xs ++ ys) = ungroupedItems xs ++ ungroupedItems ys := by
  induction xs with
  | nil => rfl
  | cons x xs ih =>
    rw [List.cons_append, ungroupedItems, ih, ungroupedItems, List.append_assoc]

theorem ungrouped_control (pointer : String) (label : Option String) (rule : Option Condition) :
    ungrouped (Node.control pointer label rule).toJson
      = [(Node.control pointer label rule).toJson] := by
  cases label <;> cases rule <;> rfl

theorem ungrouped_group (label : String) (elements : List Node) :
    ungrouped (Node.group label elements).toJson = ungroupedItems (nodesToJson elements) := by
  have hkind : isKind "Group" (Node.group label elements).toJson = true := rfl
  rw [Node.toJson] at hkind ⊢
  rw [ungrouped, if_pos hkind]
  simp [ungroupedMembers, ungroupedElements]

/-! ## Both operations commute with compiling -/

theorem nodes_append (predicates : List Predicate) (es more : List Element) :
    nodes predicates (es ++ more) = nodes predicates es ++ nodes predicates more := by
  induction es with
  | nil => rfl
  | cons e es ih => rw [List.cons_append, nodes, ih, nodes, List.append_assoc]

theorem nodes_singleton (predicates : List Predicate) (e : Element) :
    nodes predicates [e] = elementNodes predicates e := List.append_nil _

mutual

theorem withoutRules_elementNodes (predicates : List Predicate) : ∀ e : Element,
    itemsWithoutRules (nodesToJson (elementNodes predicates e))
      = nodesToJson (nodes [] (e.splice .conditional))
  | .leaf head kind => congrArg ([·]) (withoutRules_control _ _ _)
  | .array head bounds items => congrArg ([·]) (withoutRules_control _ _ _)
  | .object head properties => congrArg ([·]) (withoutRules_control _ _ _)
  | .group label elements => by
    -- the group carries no rule, and below it the same tests are in force
    have hinside := withoutRules_group label _ (withoutRules_nodes predicates elements)
    exact congrArg ([·]) hinside
  | .conditional test elements => withoutRules_nodes (predicates ++ [test]) elements

/-- Without rules the nodes of siblings are those of the siblings without conditionals, whatever
tests are in force. -/
theorem withoutRules_nodes (predicates : List Predicate) : ∀ es : List Element,
    itemsWithoutRules (nodesToJson (nodes predicates es))
      = nodesToJson (nodes [] (splice .conditional es))
  | [] => rfl
  | e :: es => by
    rw [nodes, nodesToJson_append, itemsWithoutRules_append, withoutRules_elementNodes predicates e,
      withoutRules_nodes predicates es, splice, nodes_append, nodesToJson_append]

end

mutual

theorem ungrouped_elementNodes (predicates : List Predicate) : ∀ e : Element,
    ungroupedItems (nodesToJson (elementNodes predicates e))
      = nodesToJson (nodes predicates (e.splice .group))
  | .leaf head kind => congrArg (· ++ []) (ungrouped_control _ _ _)
  | .array head bounds items => congrArg (· ++ []) (ungrouped_control _ _ _)
  | .object head properties => congrArg (· ++ []) (ungrouped_control _ _ _)
  | .group label elements => by
    rw [elementNodes, nodesToJson, nodesToJson, ungroupedItems, ungrouped_group, ungroupedItems,
      List.append_nil]
    exact ungrouped_nodes predicates elements
  | .conditional test elements => by
    -- the conditional stays, and its test is in force for what was in a group inside it
    have hinside := ungrouped_nodes (predicates ++ [test]) elements
    rw [Element.splice, nodes_singleton]
    exact hinside

/-- With its groups dissolved a layout is that of the siblings without groups, rules included. -/
theorem ungrouped_nodes (predicates : List Predicate) : ∀ es : List Element,
    ungroupedItems (nodesToJson (nodes predicates es))
      = nodesToJson (nodes predicates (splice .group es))
  | [] => rfl
  | e :: es => by
    rw [nodes, nodesToJson_append, ungroupedItems_append, ungrouped_elementNodes predicates e,
      ungrouped_nodes predicates es, splice, nodes_append, nodesToJson_append]

end

theorem splice_append (kind : Wrapper) (es more : List Element) :
    splice kind (es ++ more) = splice kind es ++ splice kind more := by
  induction es with
  | nil => rfl
  | cons e es ih => rw [List.cons_append, splice, ih, splice, List.append_assoc]

mutual

theorem nodes_spliced_element (predicates : List Predicate) : ∀ e : Element,
    nodes predicates (splice .group (e.splice .conditional))
      = e.content.map fun f => control predicates f.toFieldHead
  | .leaf head kind => rfl
  | .array head bounds items => rfl
  | .object head properties => rfl
  | .group label elements => by
    have hinside := nodes_spliced predicates elements
    rw [Element.splice, splice, splice, List.append_nil]
    exact hinside
  | .conditional test elements => nodes_spliced predicates elements

/-- Siblings without both kinds of wrappers have a control for each field of their contents. -/
theorem nodes_spliced (predicates : List Predicate) : ∀ es : List Element,
    nodes predicates (splice .group (splice .conditional es))
      = (contents es).map fun f => control predicates f.toFieldHead
  | [] => rfl
  | e :: es => by
    rw [splice, splice_append, nodes_append, nodes_spliced_element predicates e,
      nodes_spliced predicates es, contents_cons, List.map_append]

end

/-- **Wrappers and layouts.** For all elements and all tests in force: the layout without the rules
of its controls is the layout of the elements without conditionals below no tests, and the layout
with every group replaced by what is in it is the layout of the elements without groups below the
same tests. Without both there is a plain control for each field of the scope, in order, so neither
kind of wrapper loses a control, repeats it or moves it. -/
theorem layout_of_spliced (predicates : List Predicate) (es : List Element) :
    itemsWithoutRules (nodesToJson (nodes predicates es))
        = nodesToJson (nodes [] (splice .conditional es))
      ∧ ungroupedItems (nodesToJson (nodes predicates es))
        = nodesToJson (nodes predicates (splice .group es))
      ∧ ungroupedItems (itemsWithoutRules (nodesToJson (nodes predicates es)))
        = nodesToJson ((contents es).map fun f => control [] f.toFieldHead) := by
  refine ⟨withoutRules_nodes predicates es, ungrouped_nodes predicates es, ?_⟩
  rw [withoutRules_nodes, ungrouped_nodes, nodes_spliced]

/-- A group in a conditional in a group, with the group inside an array left alone. -/
example :
    let x : Element := .leaf ⟨"x", none, false⟩ .boolean
    let rows : Element := .array ⟨"rows", none, false⟩ ⟨none, none⟩ [.group "C" [x]]
    let es : List Element := [.group "A" [.conditional ⟨"u", .null⟩ [.group "B" [x], rows]], x]
    splice .conditional es = [.group "A" [.group "B" [x], rows], x]
      ∧ splice .group es = [.conditional ⟨"u", .null⟩ [x, rows], x] := ⟨rfl, rfl⟩

end Layout

end FormSchema
