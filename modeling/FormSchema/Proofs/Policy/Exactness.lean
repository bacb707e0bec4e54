import FormSchema.Policy.Check
import FormSchema.Proofs.Form.Places

/-!
# FormSchema — the policy check is exact

The check has a walk of its own, with a path and a depth that it keeps itself. What it reports is
read off the nodes of the form here: off their elements, and off the elements above them.

* **`Policy.issuesAt`** — the issues about one node, with their codes and severities.
* **`usedOptions_eq`** — the attributes in use are those that the field sets.
* **`elementViolations_eq`** — one step of the walk: the issues about the node, and what is found
  inside it below the path and the depth of the elements down to it.
* **`violations_eq`** — so the walk finds the issues about all nodes. By induction over trees.
* **`depthAt_scope`** — the depth of a node is that of the scope in which it is placed.
* **`policy_check_exact`** — the statement about whole forms, and about their resolutions.
-/

namespace FormSchema

/-! ## The issues about a node -/

/-- The issue about a feature in use, with the severity of the feature's level unless it is off. -/
def Level.issues (level : Level) (about : Severity → Issue) : List Issue :=
  match level with
  | .off => []
  | .warn => [about .warning]
  | .error => [about .error]

def FieldOption.all : List FieldOption :=
  [.label, .placeholder, .required, .minValue, .maxValue, .minItems, .maxItems]

/-- Whether a field sets an attribute. -/
def Field.sets (f : Field) : FieldOption → Bool
  | .label => f.label.isSome
  | .placeholder => match f.body with | .leaf (.text placeholder) => placeholder.isSome | _ => false
  | .required => f.required
  | .minValue => match f.body with | .leaf (.number min _) => min.isSome | _ => false
  | .maxValue => match f.body with | .leaf (.number _ max) => max.isSome | _ => false
  | .minItems => match f.body with | .array bounds _ => bounds.min.isSome | _ => false
  | .maxItems => match f.body with | .array bounds _ => bounds.max.isSome | _ => false

/-- The number of arrays and objects among the elements. -/
def Trail.depth (t : Trail) : Nat := t.countP fun above => above.2.opensScope

namespace Policy

variable (p : Policy)

def groupIssues (label path : String) : List Issue :=
  p.layout.group.issues fun severity =>
    { severity
      message := s!"Group \"{label}\" is not allowed - visual grouping is not supported in this "
        ++ "project"
      path
      code := some "DISALLOWED_GROUP"
      category := some "layout"
      fieldName := none }

def conditionalIssues (path : String) : List Issue :=
  p.layout.conditionals.issues fun severity =>
    { severity
      message := "Conditional visibility (when) is not allowed in this project"
      path
      code := some "DISALLOWED_CONDITIONAL"
      category := some "layout"
      fieldName := none }

def kindIssues (f : Field) (path : String) : List Issue :=
  (p.fieldTypes.of f.kind).issues fun severity =>
    { severity
      message :=
        s!"Field \"{f.name}\" uses {f.kind.description}, which is not allowed in this project"
      path
      code := some "DISALLOWED_FIELD_TYPE"
      category := some "fieldTypes"
      fieldName := some f.name }

def optionIssues (f : Field) (path : String) (option : FieldOption) : List Issue :=
  (p.fieldOptions.of option).issues fun severity =>
    { severity
      message := s!"Field \"{f.name}\" uses the \"{option.displayName}\" option, which is not "
        ++ "allowed in this project"
      path
      code := some "DISALLOWED_FIELD_OPTION"
      category := some "fieldOptions"
      fieldName := some f.name }

/-- The issue about a field that opens a scope below too many others. -/
def depthIssues (f : Field) (path : String) (scopesAbove : Nat) : List Issue :=
  match p.layout.maxNestingDepth with
  | none => []
  | some limit =>
    if f.opensScope ∧ scopesAbove + 1 > limit then
      [{ severity := .error
         message := s!"Nesting depth {scopesAbove + 1} exceeds maximum allowed depth of {limit}"
         path
         code := some "EXCEEDED_NESTING_DEPTH"
         category := some "layout"
         fieldName := some f.name }]
    else []

/-- The issues about a field: its kind, then the attributes that it sets, then its depth. -/
def fieldIssues (f : Field) (path : String) (scopesAbove : Nat) : List Issue :=
  p.kindIssues f path
    ++ (FieldOption.all.filter f.sets).flatMap (p.optionIssues f path)
    ++ p.depthIssues f path scopesAbove

/-- The issues about a node, which are about its own element only. -/
def issuesAt (n : TreeNode) : List Issue :=
  match n.element with
  | .group label _ => p.groupIssues label n.path
  | .conditional _ _ => p.conditionalIssues n.path
  | .leaf head kind => p.fieldIssues ⟨head, .leaf kind⟩ n.path (Trail.depth n.above)
  | .array head bounds items =>
    p.fieldIssues ⟨head, .array bounds items⟩ n.path (Trail.depth n.above)
  | .object head properties =>
    p.fieldIssues ⟨head, .object properties⟩ n.path (Trail.depth n.above)

end Policy

/-! ## One field -/

theorem map_issue_unlessOff {level : Level} {violation : Level → Violation}
    {about : Severity → Issue} (h : ∀ level, (violation level).issue = about level.severity) :
    (unlessOff level violation).map (·.issue) = level.issues about := by
  cases level with
  | off => rfl
  | warn => exact congrArg (fun issue => [issue]) (h .warn)
  | error => exact congrArg (fun issue => [issue]) (h .error)

/-- The attributes in use are those that the field sets, in the order of `FieldOption.all`. -/
theorem usedOptions_eq (f : Field) : f.usedOptions = FieldOption.all.filter f.sets := by
  obtain ⟨⟨name, label, required⟩, body⟩ := f
  cases label <;> cases required <;> cases body with
  | leaf kind =>
    cases kind with
    | text placeholder => cases placeholder <;> rfl
    | number min max => cases min <;> cases max <;> rfl
    | _ => rfl
  | array bounds items =>
    obtain ⟨min, max⟩ := bounds
    cases min <;> cases max <;> rfl
  | object properties => rfl

namespace Policy

variable (p : Policy)

theorem fieldViolations_eq (f : Field) (path : String) :
    (p.fieldViolations f path).map (·.issue)
      = p.kindIssues f path ++ (FieldOption.all.filter f.sets).flatMap (p.optionIssues f path) := by
  have hkind : (unlessOff (p.fieldTypes.of f.kind) (.fieldType · f.kind f.name path)).map (·.issue)
      = p.kindIssues f path := map_issue_unlessOff fun _ => by rfl
  have hoption : ∀ option : FieldOption,
      (unlessOff (p.fieldOptions.of option) (.fieldOption · option f.name path)).map (·.issue)
        = p.optionIssues f path option := fun _ => map_issue_unlessOff fun _ => by rfl
  rw [Policy.fieldViolations, List.map_append, hkind, List.map_flatMap, usedOptions_eq]
  simp only [hoption]

theorem nestingViolations_eq {f : Field} (hopens : f.opensScope = true) (path : String)
    (depth : Nat) :
    (p.nestingViolations f.toFieldHead path (depth + 1)).map (·.issue)
      = p.depthIssues f path depth := by
  unfold nestingViolations depthIssues
  cases p.layout.maxNestingDepth with
  | none => rfl
  | some limit =>
    by_cases hdepth : depth + 1 > limit
    · simp only [if_pos hdepth, if_pos (And.intro hopens hdepth)]
      rfl
    · have hnot : ¬(f.opensScope = true ∧ depth + 1 > limit) := fun h => hdepth h.2
      simp only [if_neg hdepth, if_neg hnot]
      rfl

/-- A field that opens no scope is not too deep. -/
theorem depthIssues_leaf (head : FieldHead) (kind : LeafKind) (path : String) (depth : Nat) :
    p.depthIssues ⟨head, .leaf kind⟩ path depth = [] := by
  unfold depthIssues
  cases p.layout.maxNestingDepth with
  | none => rfl
  | some limit => exact if_neg fun h => Bool.false_ne_true h.1

end Policy

/-! ## The walk -/

theorem Trail.depth_concat (t : Trail) (address : List Nat) (e : Element) :
    Trail.depth (t ++ [(address, e)]) = Trail.depth t + if e.opensScope then 1 else 0 := by
  unfold Trail.depth
  rw [List.countP_append, List.countP_singleton]

section Walk

variable (p : Policy)

/-- One step of the walk: first the issues about the node. What is inside it stands below the path
and the depth of the elements down to it. -/
theorem elementViolations_eq (t : Trail) (address : List Nat) (e : Element) :
    (p.elementViolations (joinSegments (Trail.segments t)) (Trail.depth t) e).map (·.issue)
      = p.issuesAt ⟨address, e, t⟩
        ++ (p.violations (joinSegments (Trail.segments (t ++ [(address, e)])))
          (Trail.depth (t ++ [(address, e)])) e.inner).map (·.issue) := by
  have hpath := TreeNode.path_eq ⟨address, e, t⟩
  rw [Trail.segments_concat, joinSegments_concat, Trail.depth_concat]
  cases e with
  | leaf head kind =>
    show (p.fieldViolations _ _).map (·.issue) = p.fieldIssues _ _ _ ++ []
    rw [p.fieldViolations_eq, List.append_nil, Policy.fieldIssues, p.depthIssues_leaf,
      List.append_nil, hpath]
    rfl
  | array head bounds items =>
    have hnesting := p.nestingViolations_eq (f := ⟨head, .array bounds items⟩) rfl
      (joinPath (joinSegments (Trail.segments t)) head.name) (Trail.depth t)
    rw [Policy.elementViolations, List.map_append, List.map_append, p.fieldViolations_eq, hnesting,
      itemsPath_joinPath]
    unfold Policy.issuesAt Policy.fieldIssues
    rw [hpath]
    rfl
  | object head properties =>
    have hnesting := p.nestingViolations_eq (f := ⟨head, .object properties⟩) rfl
      (joinPath (joinSegments (Trail.segments t)) head.name) (Trail.depth t)
    rw [Policy.elementViolations, List.map_append, List.map_append, p.fieldViolations_eq, hnesting]
    unfold Policy.issuesAt Policy.fieldIssues
    rw [hpath]
    rfl
  | group label elements =>
    have hown : ∀ path, (unlessOff p.layout.group (.group · label path)).map (·.issue)
        = p.groupIssues label path := fun _ => map_issue_unlessOff fun _ => by rfl
    rw [Policy.elementViolations, List.map_append, hown, Policy.issuesAt, hpath]
    rfl
  | conditional test elements =>
    have hown : ∀ path, (unlessOff p.layout.conditionals (.conditional · path)).map (·.issue)
        = p.conditionalIssues path := fun _ => map_issue_unlessOff fun _ => by rfl
    rw [Policy.elementViolations, List.map_append, hown, Policy.issuesAt, hpath]
    rfl

/-- The walk over siblings finds the issues about all their nodes. -/
theorem violations_eq (es : List Element) : ∀ t address index,
    (p.violations (joinSegments (Trail.segments t)) (Trail.depth t) es).map (·.issue)
      = (nodesFrom t address index es).flatMap p.issuesAt := by
  induction es using tree_induction with
  | nil => intro t address index; rfl
  | cons e es ihinner ihtail =>
    intro t address index
    rw [Policy.violations, List.map_append, elementViolations_eq p t (address ++ [index]) e,
      ihinner _ (address ++ [index]) 0, ihtail t address (index + 1), nodesFrom, Element.nodes_eq,
      List.flatMap_append, List.flatMap_cons]

/-- **The check finds the issues about all nodes.** -/
theorem issues_check (form : Form) :
    (p.check form).issues = (nodes form.elements).flatMap p.issuesAt :=
  violations_eq p form.elements [] [] 0

end Walk

/-! ## Depths of scopes -/

/-- The number of arrays and objects on the way to an address, with the element there. -/
def depthAt (es : List Element) (address : List Nat) : Nat :=
  (List.range (address.length + 1)).countP fun k =>
    (elementAt? es (address.take k)).any Element.opensScope

theorem depthAt_eq {es : List Element} {address : List Nat} {e : Element}
    (h : elementAt? es address = some e) :
    depthAt es address
      = Trail.depth (ancestors es address) + if e.opensScope then 1 else 0 := by
  have habove : Trail.depth (ancestors es address)
      = (List.range address.length).countP fun k =>
        (elementAt? es (address.take k)).any Element.opensScope := by
    unfold Trail.depth ancestors
    rw [List.countP_filterMap]
    apply List.countP_congr
    intro k _
    cases elementAt? es (address.take k) <;> rfl
  rw [depthAt, List.range_succ, List.countP_append, List.countP_singleton, List.take_length, h,
    habove]
  rfl

/-- The scope inside the elements above a node is as deep as they say. -/
theorem depthAt_scope_nodesFrom {whole : List Element} (es : List Element) :
    ∀ above address index, StandIn whole above address index es →
      depthAt whole (Trail.scope above).address = Trail.depth above →
      ∀ n ∈ nodesFrom above address index es,
        depthAt whole (Trail.scope n.above).address = Trail.depth n.above := by
  induction es using tree_induction with
  | nil => intro above address index _ _ n hn; simp [nodesFrom] at hn
  | cons e es ihinner ihtail =>
    intro above address index h hdepth n hn
    have hinner : depthAt whole (Trail.scope (above ++ [(address ++ [index], e)])).address
        = Trail.depth (above ++ [(address ++ [index], e)]) := by
      rw [Trail.depth_concat]
      cases hopens : e.opensScope with
      | true =>
        rw [Trail.scope_concat_of_opensScope _ _ _ hopens, depthAt_eq h.head, h.above_eq, hopens]
      | false =>
        rw [Trail.scope_concat_of_not_opensScope _ _ _ hopens, hdepth]
        rfl
    rw [nodesFrom_cons, List.mem_append, List.mem_cons] at hn
    rcases hn with (rfl | hn) | hn
    · exact hdepth
    · exact ihinner _ _ _ h.inner hinner n hn
    · exact ihtail _ _ _ h.tail hdepth n hn

/-- A node is as deep as the scope in which it is placed. -/
theorem depthAt_scope {es : List Element} {n : TreeNode} (hn : n ∈ nodes es) :
    depthAt es (Trail.scope n.above).address = Trail.depth n.above :=
  depthAt_scope_nodesFrom es [] [] 0 (StandIn.root es) rfl n hn

/-! ## Issues by what they are about -/

section About

variable {p : Policy}

/-- An issue that a level gives is one about its feature. -/
theorem Level.exists_of_mem_issues {level : Level} {about : Severity → Issue} {issue : Issue}
    (h : issue ∈ level.issues about) : ∃ severity, issue = about severity := by
  cases level with
  | off => cases h
  | warn => exact ⟨.warning, List.mem_singleton.mp h⟩
  | error => exact ⟨.error, List.mem_singleton.mp h⟩

theorem Policy.of_mem_groupIssues {label path : String} {issue : Issue}
    (h : issue ∈ p.groupIssues label path) :
    issue.fieldName = none ∧ issue.code = some "DISALLOWED_GROUP" := by
  obtain ⟨severity, rfl⟩ := Level.exists_of_mem_issues h
  exact ⟨rfl, rfl⟩

theorem Policy.of_mem_conditionalIssues {path : String} {issue : Issue}
    (h : issue ∈ p.conditionalIssues path) :
    issue.fieldName = none ∧ issue.code = some "DISALLOWED_CONDITIONAL" := by
  obtain ⟨severity, rfl⟩ := Level.exists_of_mem_issues h
  exact ⟨rfl, rfl⟩

/-- The issues about a field name it, and their codes are those for fields. -/
theorem Policy.of_mem_fieldIssues {f : Field} {path : String} {depth : Nat} {issue : Issue}
    (h : issue ∈ p.fieldIssues f path depth) :
    issue.fieldName = some f.name ∧ issue.code ∈ [some "DISALLOWED_FIELD_TYPE",
      some "DISALLOWED_FIELD_OPTION", some "EXCEEDED_NESTING_DEPTH"] := by
  rcases List.mem_append.mp h with h | h
  · rcases List.mem_append.mp h with h | h
    · obtain ⟨severity, rfl⟩ := Level.exists_of_mem_issues h
      exact ⟨rfl, by simp⟩
    · obtain ⟨option, _, h⟩ := List.mem_flatMap.mp h
      obtain ⟨severity, rfl⟩ := Level.exists_of_mem_issues h
      exact ⟨rfl, by simp⟩
  · unfold depthIssues at h
    cases hlimit : p.layout.maxNestingDepth with
    | none => simp [hlimit] at h
    | some limit =>
      simp only [hlimit, List.mem_ite_nil_right, List.mem_singleton] at h
      rw [h.2]
      exact ⟨rfl, by simp⟩

theorem Policy.issuesAt_of_field? {n : TreeNode} {f : Field} (h : n.element.field? = some f) :
    p.issuesAt n = p.fieldIssues f n.path (Trail.depth n.above) := by
  obtain ⟨address, e, above⟩ := n
  cases e with
  | group label elements => cases h
  | conditional test elements => cases h
  | _ => cases h; rfl

/-- The issues that name a field are those at the nodes that are fields. -/
theorem filter_fieldName_issuesAt (n : TreeNode) :
    (p.issuesAt n).filter (·.fieldName.isSome)
      = n.fieldPlacement?.toList.flatMap fun place =>
        p.fieldIssues place.field place.path (Trail.depth n.above) := by
  cases hfield : n.element.field? with
  | some f =>
    have hplace : n.fieldPlacement?
        = some ⟨f, Trail.scope n.above, Trail.tests n.above, n.path⟩ := by
      rw [TreeNode.fieldPlacement?, hfield]
      rfl
    rw [hplace, Option.toList_some, List.flatMap_singleton, Policy.issuesAt_of_field? hfield]
    apply List.filter_eq_self.mpr
    intro issue hissue
    rw [(Policy.of_mem_fieldIssues hissue).1]
    rfl
  | none =>
    have hplace : n.fieldPlacement? = none := by
      rw [TreeNode.fieldPlacement?, hfield]
      rfl
    rw [hplace, Option.toList_none, List.flatMap_nil]
    apply List.filter_eq_nil_iff.mpr
    intro issue hissue
    obtain ⟨address, e, above⟩ := n
    cases e with
    | group label elements =>
      rw [(Policy.of_mem_groupIssues hissue).1]
      exact Bool.false_ne_true
    | conditional test elements =>
      rw [(Policy.of_mem_conditionalIssues hissue).1]
      exact Bool.false_ne_true
    | _ => cases hfield

/-- The issues with the code for conditionals are those at the nodes that are conditionals. -/
theorem filter_conditional_issuesAt (n : TreeNode) :
    (p.issuesAt n).filter (·.code == some "DISALLOWED_CONDITIONAL")
      = n.conditionalPlacement?.toList.flatMap fun place => p.conditionalIssues place.path := by
  obtain ⟨address, e, above⟩ := n
  cases e with
  | conditional test elements =>
    rw [TreeNode.conditionalPlacement?, Option.toList_some, List.flatMap_singleton]
    apply List.filter_eq_self.mpr
    intro issue hissue
    rw [(Policy.of_mem_conditionalIssues hissue).2]
    rfl
  | group label elements =>
    apply List.filter_eq_nil_iff.mpr
    intro issue hissue
    rw [(Policy.of_mem_groupIssues hissue).2]
    decide
  | _ =>
    apply List.filter_eq_nil_iff.mpr
    intro issue hissue
    have hcode := (Policy.of_mem_fieldIssues hissue).2
    intro hconditional
    rw [eq_of_beq hconditional] at hcode
    revert hcode
    decide

end About

/-! ## Whole forms -/

theorem flatMap_filterMap_toList {α β γ : Type} (f : α → Option β) (g : β → List γ) (l : List α) :
    (l.filterMap f).flatMap g = l.flatMap fun a => (f a).toList.flatMap g := by
  rw [List.filterMap_eq_flatMap_toList, List.flatMap_assoc]

/-- **The policy check is exact.** Its issues are those of the nodes of the form, in pre-order. At
a group and at a conditional it is one issue unless its level is off; at a field there is one for
its kind and one for each attribute that it sets, unless these are off, and one more for an array
or an object with too many others around it. The issues that name a field are those of the fields
of the resolution, in their order and at their paths, and likewise for conditionals. The form is
invalid exactly when one of the issues is an error. -/
theorem policy_check_exact (p : Policy) (form : Form) :
    ListsTree form.elements (nodes form.elements)
      ∧ (p.check form).issues = (nodes form.elements).flatMap p.issuesAt
      ∧ (p.check form).issues.filter (·.fieldName.isSome)
        = ((resolve form.elements).fields.flatMap fun place =>
          p.fieldIssues place.field place.path (depthAt form.elements place.scope.address))
      ∧ (p.check form).issues.filter (·.code == some "DISALLOWED_CONDITIONAL")
        = ((resolve form.elements).conditionals.flatMap fun place =>
          p.conditionalIssues place.path)
      ∧ ((p.check form).valid = false
        ↔ ∃ issue ∈ (p.check form).issues, issue.severity = .error) := by
  have hissues := issues_check p form
  refine ⟨listsTree_nodes form.elements, hissues, ?_, ?_, ?_⟩
  · rw [hissues, fields_resolve, List.filter_flatMap, flatMap_filterMap_toList]
    apply List.flatMap_congr
    intro n hn
    rw [filter_fieldName_issuesAt]
    apply List.flatMap_congr
    intro place hplace
    -- the scope of the place tells the depth of the node
    obtain ⟨field, _, rfl⟩ := Option.map_eq_some_iff.mp (Option.mem_toList.mp hplace)
    rw [depthAt_scope hn]
  · rw [hissues, conditionals_resolve, List.filter_flatMap, flatMap_filterMap_toList]
    apply List.flatMap_congr
    intro n _
    exact filter_conditional_issuesAt n
  · show ((p.check form).issues.all fun i => !i.isError) = false ↔ _
    rw [List.all_eq_false]
    simp [Issue.isError]

/-- Only arrays and objects count for the depth, and the one inside the limit is not reported. -/
example :
    let policy : Policy := { layout := { group := .warn, maxNestingDepth := some 1 } }
    let box : Element := .object ⟨"box", none, false⟩ []
    let form : Form := ⟨[.group "G" [.array ⟨"rows", none, false⟩ ⟨none, none⟩ [box]]]⟩
    (policy.check form).issues.map (fun issue => (issue.code, issue.path))
      = [(some "DISALLOWED_GROUP", "[G]"), (some "EXCEEDED_NESTING_DEPTH", "[G].rows[].box")] := by
  decide

end FormSchema
