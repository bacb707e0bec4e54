import FormSchema.Form.Scope

/-!
# FormSchema — the layout of a form

What a renderer shows, in the vocabulary of JSON Forms: a control for each field of the root scope,
and a group node for each group. Conditionals leave no node; each control below one carries a rule
that shows it only while all the predicates around it hold.
-/

namespace FormSchema.Layout

def pointer (name : String) : String := "#/properties/" ++ name

/-- When a rule applies. A single predicate is tested on the value that a pointer refers to, several
are tested on the whole data. -/
inductive Condition
  | scoped (pointer : String) (const : Json)
  | allOf (predicates : List Predicate)

/-- The condition that all predicates hold; there is none for no predicates. -/
def condition? : List Predicate → Option Condition
  | [] => none
  | [p] => some (.scoped (pointer p.field) p.value)
  | predicates => some (.allOf predicates)

inductive Node
  | control (pointer : String) (label : Option String) (rule : Option Condition)
  | group (label : String) (elements : List Node)

/-- The control of a field below the given predicates. -/
def control (predicates : List Predicate) (head : FieldHead) : Node :=
  .control (pointer head.name) head.label (condition? predicates)

mutual

/-- The nodes of an element below the given predicates. -/
def elementNodes (predicates : List Predicate) : Element → List Node
  | .leaf head _ => [control predicates head]
  | .array head _ _ => [control predicates head]
  | .object head _ => [control predicates head]
  | .group label elements => [.group label (nodes predicates elements)]
  | .conditional test elements => nodes (predicates ++ [test]) elements

/-- The nodes of elements below the given predicates. -/
def nodes (predicates : List Predicate) : List Element → List Node
  | [] => []
  | e :: es => elementNodes predicates e ++ nodes predicates es

end

def constSchema (value : Json) : Json := .obj [("const", value)]

/-- The conjunct of a predicate on the whole data. -/
def conjunct (p : Predicate) : Json :=
  .obj [("properties", .obj [(p.field, constSchema p.value)])]

def Condition.toJson : Condition → Json
  | .scoped pointer value => .obj [("scope", .str pointer), ("schema", constSchema value)]
  | .allOf predicates => .obj [("schema", .obj [("allOf", .arr (predicates.map conjunct))])]

/-- The rule that shows a control while a condition holds. -/
def Condition.rule (c : Condition) : Json :=
  .obj [("effect", .str "SHOW"), ("condition", c.toJson)]

def member? (key : String) : Option Json → Entries Json
  | none => []
  | some value => [(key, value)]

mutual

def Node.toJson : Node → Json
  | .control pointer label rule =>
    .obj ([("type", .str "Control"), ("scope", .str pointer)]
      ++ member? "label" (label.map .str) ++ member? "rule" (rule.map Condition.rule))
  | .group label elements =>
    .obj [("type", .str "Group"), ("label", .str label),
      ("elements", .arr (nodesToJson elements))]

def nodesToJson : List Node → List Json
  | [] => []
  | n :: ns => n.toJson :: nodesToJson ns

end

/-- The layout of a whole form as data: its nodes one below the other. -/
def ofForm (form : Form) : Json :=
  .obj [("type", .str "VerticalLayout"),
    ("elements", .arr (nodesToJson (nodes [] form.elements)))]

end FormSchema.Layout
