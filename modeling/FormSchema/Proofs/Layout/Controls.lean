import FormSchema.Layout
import FormSchema.Proofs.Form.Placement
import Mathlib.Data.List.Forall2

/-!
# FormSchema — the controls of a layout are the fields of the root scope

The layout and the resolution of a form are two walks that keep predicates in two different ways:
the layout carries them into the rules of controls, the resolution records them with every field
and goes on into arrays and objects. Both agree on the root scope.

* **`layoutNodes`** — all nodes of a layout document in pre-order, read off the document itself;
  `controls` and `groups` are those of either kind.
* **`ControlFor`** — what the control of a placed field is written as, with **`RuleFor`** for the
  rule that predicates ask for.
* **`controls_elementNodes`** — the simulation: below one position both walks give the same
  controls. The predicates in force are those of the position.
* **`controls_match_placements`** — the statement about whole forms.
-/

namespace FormSchema.Layout

/-! ## Reading a layout document -/

mutual

/-- A node of a layout document and all nodes below it, in pre-order. -/
def layoutNodes : Json → List Json
  | .obj members => .obj members :: nodesInMembers members
  | _ => []

def nodesInMembers : List (String × Json) → List Json
  | [] => []
  | (key, value) :: rest =>
    -- only the elements of a node are nodes; rules and labels are data about it
    (if key = "elements" then nodesInElements value else []) ++ nodesInMembers rest

def nodesInElements : Json → List Json
  | .arr items => nodesInItems items
  | _ => []

def nodesInItems : List Json → List Json
  | [] => []
  | item :: items => layoutNodes item ++ nodesInItems items

end

def isKind (kind : String) (node : Json) : Bool :=
  match node.get? "type" with
  | some (.str name) => name == kind
  | _ => false

/-- The controls of a document, depth first through its groups. -/
def controls (document : Json) : List Json := (layoutNodes document).filter (isKind "Control")

def groups (document : Json) : List Json := (layoutNodes document).filter (isKind "Group")

/-! ## What is written for a field -/

/-- `RuleFor predicates rule`: the rule that shows a control while all predicates hold, as it stands
in the document. Without predicates there is none; one predicate is tested under a pointer; several
give one conjunct each, in their order, and no pointer. -/
inductive RuleFor : List Predicate → Option Json → Prop where
  | none : RuleFor [] none
  | single (p : Predicate) : RuleFor [p] (some (.obj
      [("effect", .str "SHOW"),
        ("condition", .obj
          [("scope", .str ("#/properties/" ++ p.field)),
            ("schema", .obj [("const", p.value)])])]))
  | several (predicates : List Predicate) (h : 1 < predicates.length) :
      RuleFor predicates (some (.obj
        [("effect", .str "SHOW"),
          ("condition", .obj
            [("schema", .obj
              [("allOf", .arr (predicates.map fun p =>
                .obj [("properties", .obj [(p.field, .obj [("const", p.value)])])]))])])]))

/-- `ControlFor control placement`: the control is written for the placed field. -/
structure ControlFor (control : Json) (placement : FieldPlacement) : Prop where
  scope : control.get? "scope" = some (.str ("#/properties/" ++ placement.field.name))
  label : control.get? "label" = placement.field.label.map .str
  rule : control.get? "rule" = (condition? placement.predicates).map Condition.rule
  ruleFor : RuleFor placement.predicates (control.get? "rule")

def placedControl (p : FieldPlacement) : Json := (control p.predicates p.field.toFieldHead).toJson

theorem ruleFor_condition? (predicates : List Predicate) :
    RuleFor predicates ((condition? predicates).map Condition.rule) := by
  match predicates with
  | [] => exact .none
  | [p] => exact .single p
  | p :: q :: rest => exact .several (p :: q :: rest) (by simp)

theorem get?_toJson_control (pointer : String) (label : Option String) (rule : Option Condition) :
    (Node.control pointer label rule).toJson.get? "scope" = some (.str pointer)
      ∧ (Node.control pointer label rule).toJson.get? "label" = label.map .str
      ∧ (Node.control pointer label rule).toJson.get? "rule" = rule.map Condition.rule := by
  cases label <;> cases rule <;> exact ⟨rfl, rfl, rfl⟩

theorem controlFor_placedControl (p : FieldPlacement) : ControlFor (placedControl p) p := by
  obtain ⟨hscope, hlabel, hrule⟩ :=
    get?_toJson_control (pointer p.field.name) p.field.label (condition? p.predicates)
  exact ⟨hscope, hlabel, hrule, hrule ▸ ruleFor_condition? p.predicates⟩

/-! ## The nodes of written nodes -/

@[simp] theorem nodesToJson_append (ns ms : List Node) :
    nodesToJson (ns ++ ms) = nodesToJson ns ++ nodesToJson ms := by
  induction ns with
  | nil => rfl
  | cons n ns ih => rw [List.cons_append, nodesToJson, ih, nodesToJson, List.cons_append]

@[simp] theorem nodesInItems_append (xs ys : List Json) :
    nodesInItems (xs ++ ys) = nodesInItems xs ++ nodesInItems ys := by
  induction xs with
  | nil => rfl
  | cons x xs ih =>
    rw [List.cons_append, nodesInItems, ih, nodesInItems, List.append_assoc]

theorem layoutNodes_control (pointer : String) (label : Option String) (rule : Option Condition) :
    layoutNodes (Node.control pointer label rule).toJson
      = [(Node.control pointer label rule).toJson] := by
  cases label <;> cases rule <;> rfl

theorem layoutNodes_group (label : String) (elements : List Node) :
    layoutNodes (Node.group label elements).toJson
      = (Node.group label elements).toJson :: nodesInItems (nodesToJson elements) := by
  simp [Node.toJson, layoutNodes, nodesInMembers, nodesInElements]

def controlsAmong (ns : List Node) : List Json :=
  (nodesInItems (nodesToJson ns)).filter (isKind "Control")

@[simp] theorem controlsAmong_append (ns ms : List Node) :
    controlsAmong (ns ++ ms) = controlsAmong ns ++ controlsAmong ms := by
  simp [controlsAmong]

theorem controlsAmong_control (pointer : String) (label : Option String)
    (rule : Option Condition) :
    controlsAmong [.control pointer label rule] = [(Node.control pointer label rule).toJson] := by
  have hkind : isKind "Control" (Node.control pointer label rule).toJson = true := rfl
  simp [controlsAmong, nodesToJson, nodesInItems, layoutNodes_control, hkind]

theorem controlsAmong_group (label : String) (elements : List Node) :
    controlsAmong [.group label elements] = controlsAmong elements := by
  have hkind : isKind "Control" (Node.group label elements).toJson = false := rfl
  simp [controlsAmong, nodesToJson, nodesInItems, layoutNodes_group, hkind]

theorem layoutNodes_ofForm (form : Form) :
    layoutNodes (ofForm form)
      = ofForm form :: nodesInItems (nodesToJson (nodes [] form.elements)) := by
  simp [ofForm, layoutNodes, nodesInMembers, nodesInElements]

theorem controls_ofForm (form : Form) :
    controls (ofForm form) = controlsAmong (nodes [] form.elements) := by
  have hkind : isKind "Control" (ofForm form) = false := rfl
  rw [controls, layoutNodes_ofForm, List.filter_cons, hkind]
  rfl

/-! ## Groups carry no rules -/

mutual

theorem get?_rule_group (n : Node) :
    ∀ g ∈ layoutNodes n.toJson, isKind "Group" g = true → g.get? "rule" = none := by
  intro g hg hkind
  match n with
  | .control pointer label rule =>
    rw [layoutNodes_control, List.mem_singleton] at hg
    subst hg
    exact absurd hkind (by simp [isKind, Node.toJson, Json.get?, Entries.get?])
  | .group label elements =>
    rw [layoutNodes_group, List.mem_cons] at hg
    rcases hg with rfl | hg
    · rfl
    · exact get?_rule_groups elements g hg hkind

theorem get?_rule_groups (ns : List Node) :
    ∀ g ∈ nodesInItems (nodesToJson ns), isKind "Group" g = true → g.get? "rule" = none := by
  intro g hg hkind
  match ns with
  | [] => simp [nodesToJson, nodesInItems] at hg
  | n :: ns =>
    rw [nodesToJson, nodesInItems, List.mem_append] at hg
    rcases hg with hg | hg
    · exact get?_rule_group n g hg hkind
    · exact get?_rule_groups ns g hg hkind

end

theorem get?_rule_of_mem_groups (form : Form) :
    ∀ g ∈ groups (ofForm form), g.get? "rule" = none := by
  intro g hg
  obtain ⟨hmem, hkind⟩ := List.mem_filter.mp hg
  rw [layoutNodes_ofForm, List.mem_cons] at hmem
  rcases hmem with rfl | hmem
  · rfl
  · exact get?_rule_groups _ g hmem hkind

/-! ## Both walks give the same controls -/

theorem controlsAmong_opening {pos : Position}
    (hpos : pos.scope.address.length < pos.address.length) (field : Field) :
    controlsAmong [control pos.predicates field.toFieldHead]
      = ((placeOpening pos field).fieldsIn pos.scope).map placedControl := by
  rw [fieldsIn_placeOpening hpos, control, controlsAmong_control]
  rfl

mutual

theorem controls_elementNodes (pos : Position)
    (hpos : pos.scope.address.length < pos.address.length) :
    ∀ e : Element, controlsAmong (elementNodes pos.predicates e)
      = ((placeElement pos e).fieldsIn pos.scope).map placedControl
  | .leaf head kind => by
    rw [placeElement, Resolution.fieldsIn_ofField_self, elementNodes, control,
      controlsAmong_control]
    rfl
  | .array head bounds items => by
    rw [placeElement_array, elementNodes]
    exact controlsAmong_opening hpos ⟨head, .array bounds items⟩
  | .object head properties => by
    rw [placeElement_object, elementNodes]
    exact controlsAmong_opening hpos ⟨head, .object properties⟩
  | .group label elements => by
    -- the group is a node of its own, but not one of the controls
    rw [elementNodes, controlsAmong_group]
    exact controls_nodes (pos.within (groupSegment label)) (Nat.le_of_lt hpos) 0 elements
  | .conditional test elements => by
    -- the layout and the resolution extend the predicates in force in the same way
    rw [elementNodes]
    exact controls_nodes (pos.under test) (Nat.le_of_lt hpos) 0 elements

/-- The controls of siblings are those of the fields placed among them in their scope. -/
theorem controls_nodes (pos : Position)
    (hpos : pos.scope.address.length ≤ pos.address.length) (index : Nat) :
    ∀ es : List Element, controlsAmong (nodes pos.predicates es)
      = ((placeElements pos index es).fieldsIn pos.scope).map placedControl
  | [] => rfl
  | e :: es => by
    have hchild : pos.scope.address.length < (pos.child index).address.length := by
      simp only [Position.child, List.length_append, List.length_singleton]
      omega
    -- the walk of the resolution moves on to the next address, that of the layout has none
    have hhead := controls_elementNodes (pos.child index) hchild e
    have htail := controls_nodes pos hpos (index + 1) es
    rw [nodes, controlsAmong_append, placeElements, Resolution.fieldsIn_append, List.map_append,
      htail]
    exact congrArg (· ++ _) hhead

end

theorem controls_eq_map_placedControl (form : Form) :
    controls (ofForm form) = ((resolve form.elements).fieldsIn .root).map placedControl := by
  rw [controls_ofForm, fieldsIn_resolve_root]
  exact controls_nodes .start (Nat.le_refl 0) 0 form.elements

/-- **Layout and resolution agree.** Read depth first, the controls of a form's layout are those of
the fields that the resolution places in the root scope, one for each and in order, with the rule
that the recorded predicates ask for. These fields are the contents of the form, so nothing inside
an array or an object has a control, and the predicates are the tests of the conditionals around
each, outermost first. No group carries a rule. -/
theorem controls_match_placements (form : Form) :
    List.Forall₂ ControlFor (controls (ofForm form)) ((resolve form.elements).fieldsIn .root)
      ∧ ((resolve form.elements).fieldsIn .root).map (fun p => (p.field, p.predicates))
        = guardedContents form.elements
      ∧ ∀ g ∈ groups (ofForm form), g.get? "rule" = none := by
  refine ⟨?_, guardedIn_root form.elements, get?_rule_of_mem_groups form⟩
  rw [controls_eq_map_placedControl, List.forall₂_map_left_iff, List.forall₂_same]
  intro p _
  exact controlFor_placedControl p

/-- An array with a field of its own, below two conditionals and in a group. -/
theorem controls_match_placements_nested :
    let rows : Element :=
      .array ⟨"rows", none, false⟩ ⟨none, none⟩ [.leaf ⟨"a", none, false⟩ .boolean]
    let shown : Element := .conditional ⟨"a", .int 1⟩ [.conditional ⟨"a", .null⟩ [rows]]
    let form : Form := ⟨[.leaf ⟨"a", some "A", true⟩ (.text none), .group "More" [shown]]⟩
    let more : Json := (Node.group "More" (elementNodes [] shown)).toJson
    List.Forall₂ ControlFor (controls (ofForm form)) ((resolve form.elements).fieldsIn .root)
      ∧ more ∈ groups (ofForm form) ∧ more.get? "rule" = none := by
  intro rows shown form more
  have hgroups : groups (ofForm form) = [more] := rfl
  have hmem : more ∈ groups (ofForm form) := by
    rw [hgroups]
    exact List.mem_singleton_self more
  exact ⟨(controls_match_placements form).1, hmem, (controls_match_placements form).2.2 more hmem⟩

end FormSchema.Layout
