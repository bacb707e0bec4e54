import FormSchema.Proofs.Form.Structure
import FormSchema.Proofs.Layout.Agreement

/-!
# FormSchema — the rules of a valid form test fields that it has

A rule names the fields that it tests, and a renderer looks these names up in the data. The layout
is written without a look at the declarations, so that there are fields of these names rests on the
structure check, and on all three walks meaning the same by the root scope.

* **`Mentions`** — the names that a rule tests, read off the document in both of its shapes.
* **`mentions_iff`** — they are the names in the tests that the rule was built from.
* **`exists_placement_of_rule`** — every rule of a layout is that of a field of the root scope.
* **`mem_ownTests_of_mem_guarded`** — the tests around a field are made by conditionals of the scope
  that the field is in. One case for each kind of element.
* **`rules_test_properties`** — the statement about whole documents.
-/

namespace FormSchema

namespace Layout

/-! ## The names that a rule tests -/

/-- `Mentions rule name`: the condition of the rule points to a property of the name, or one of its
conjuncts is about a member of the name. -/
inductive Mentions (rule : Json) (name : String) : Prop where
  | scope (h : (rule.getD "condition").get? "scope" = some (.str ("#/properties/" ++ name)))
  | conjunct {conjuncts : List Json} {conjunct : Json} {properties : Entries Json}
      (allOf : ((rule.getD "condition").getD "schema").get? "allOf" = some (.arr conjuncts))
      (among : conjunct ∈ conjuncts)
      (members : conjunct.get? "properties" = some (.obj properties))
      (named : name ∈ properties.names)

theorem mentions_scoped (field : String) (value : Json) (name : String) :
    Mentions (Condition.scoped (pointer field) value).rule name ↔ field = name := by
  constructor
  · intro h
    cases h with
    | scope h =>
      have htext : "#/properties/" ++ field = "#/properties/" ++ name :=
        Json.str.inj (Option.some.inj h)
      exact (String.append_right_inj "#/properties/").mp htext
    | conjunct allOf =>
      -- the schema of this condition is a constant
      have hnone : (constSchema value).get? "allOf" = none := rfl
      exact absurd (hnone.symm.trans allOf) (by simp)
  · intro h
    subst h
    exact .scope rfl

theorem mentions_allOf (predicates : List Predicate) (name : String) :
    Mentions (Condition.allOf predicates).rule name ↔ ∃ p ∈ predicates, p.field = name := by
  constructor
  · intro h
    cases h with
    | scope h =>
      have hnone : (Condition.allOf predicates).toJson.get? "scope" = none := rfl
      exact absurd (hnone.symm.trans h) (by simp)
    | @conjunct conjuncts conjunct properties allOf among members named =>
      have hconjuncts : predicates.map Layout.conjunct = conjuncts :=
        Json.arr.inj (Option.some.inj allOf)
      rw [← hconjuncts, List.mem_map] at among
      obtain ⟨p, hp, rfl⟩ := among
      have hproperties : [(p.field, constSchema p.value)] = properties :=
        Json.obj.inj (Option.some.inj members)
      rw [← hproperties, Entries.names_cons, Entries.names_nil, List.mem_singleton] at named
      exact ⟨p, hp, named.symm⟩
  · intro h
    obtain ⟨p, hp, hname⟩ := h
    refine .conjunct rfl (List.mem_map_of_mem hp) rfl ?_
    rw [Entries.names_cons, hname]
    exact List.mem_cons_self

/-- A rule mentions the names that its tests are about, and no others. -/
theorem mentions_iff {predicates : List Predicate} {rule : Json}
    (h : (condition? predicates).map Condition.rule = some rule) (name : String) :
    Mentions rule name ↔ ∃ p ∈ predicates, p.field = name := by
  match predicates with
  | [] => exact absurd h (by simp [condition?])
  | [p] =>
    have hrule : (Condition.scoped (pointer p.field) p.value).rule = rule := Option.some.inj h
    rw [← hrule, mentions_scoped]
    simp
  | p :: q :: rest =>
    have hrule : (Condition.allOf (p :: q :: rest)).rule = rule := Option.some.inj h
    rw [← hrule, mentions_allOf]

/-! ## Rules belong to fields of the root scope -/

mutual

theorem isKind_of_mem_layoutNodes (n : Node) :
    ∀ g ∈ layoutNodes n.toJson, isKind "Control" g = true ∨ isKind "Group" g = true := by
  intro g hg
  match n with
  | .control pointer label rule =>
    rw [layoutNodes_control, List.mem_singleton] at hg
    subst hg
    exact Or.inl rfl
  | .group label elements =>
    rw [layoutNodes_group, List.mem_cons] at hg
    rcases hg with rfl | hg
    · exact Or.inr rfl
    · exact isKind_of_mem_nodesInItems elements g hg

/-- Below the root there are controls and groups only. -/
theorem isKind_of_mem_nodesInItems (ns : List Node) :
    ∀ g ∈ nodesInItems (nodesToJson ns), isKind "Control" g = true ∨ isKind "Group" g = true := by
  intro g hg
  match ns with
  | [] => simp [nodesToJson, nodesInItems] at hg
  | n :: ns =>
    rw [nodesToJson, nodesInItems, List.mem_append] at hg
    rcases hg with hg | hg
    · exact isKind_of_mem_layoutNodes n g hg
    · exact isKind_of_mem_nodesInItems ns g hg

end

/-- A node with a rule is a control: neither the root nor a group has one. -/
theorem mem_controls_of_rule {form : Form} {node rule : Json}
    (hnode : node ∈ layoutNodes (ofForm form)) (hrule : node.get? "rule" = some rule) :
    node ∈ controls (ofForm form) := by
  have hbelow : isKind "Control" node = true := by
    rw [layoutNodes_ofForm, List.mem_cons] at hnode
    rcases hnode with rfl | hbelow
    · have hnone : (ofForm form).get? "rule" = none := rfl
      exact absurd (hnone.symm.trans hrule) (by simp)
    · rcases isKind_of_mem_nodesInItems _ node hbelow with hcontrol | hgroup
      · exact hcontrol
      · have hnone := get?_rule_groups _ node hbelow hgroup
        exact absurd (hnone.symm.trans hrule) (by simp)
  exact List.mem_filter.mpr ⟨hnode, hbelow⟩

/-- Every rule of a layout is the one that the tests around a field of the root scope ask for. -/
theorem exists_placement_of_rule {form : Form} {node rule : Json}
    (hnode : node ∈ layoutNodes (ofForm form)) (hrule : node.get? "rule" = some rule) :
    ∃ p ∈ (resolve form.elements).fieldsIn .root,
      (condition? p.predicates).map Condition.rule = some rule := by
  have hcontrol := mem_controls_of_rule hnode hrule
  rw [controls_eq_map_placedControl, List.mem_map] at hcontrol
  obtain ⟨p, hp, rfl⟩ := hcontrol
  exact ⟨p, hp, (controlFor_placedControl p).rule.symm.trans hrule⟩

end Layout

/-! ## Tests around a field are made in its scope -/

mutual

theorem Element.mem_ownTests_of_mem_guarded (path : String) :
    ∀ e : Element, ∀ g ∈ e.guarded, ∀ q ∈ g.2, ∃ own ∈ e.ownTests path, own.1 = q
  | .leaf head kind => by
    intro g hg q hq
    rw [List.mem_singleton.mp hg] at hq
    exact absurd hq (by simp)
  | .array head bounds items => by
    intro g hg q hq
    rw [List.mem_singleton.mp hg] at hq
    exact absurd hq (by simp)
  | .object head properties => by
    intro g hg q hq
    rw [List.mem_singleton.mp hg] at hq
    exact absurd hq (by simp)
  | .group label elements =>
    FormSchema.mem_ownTests_of_mem_guarded (joinPath path (groupSegment label)) elements
  | .conditional test elements => by
    intro g hg q hq
    rw [Element.guarded, List.mem_map] at hg
    obtain ⟨inner, hinner, rfl⟩ := hg
    rw [Element.ownTests]
    rcases List.mem_cons.mp hq with rfl | hq
    · exact ⟨_, List.mem_cons_self, rfl⟩
    · obtain ⟨own, hown, hq⟩ := FormSchema.mem_ownTests_of_mem_guarded _ elements inner hinner q hq
      exact ⟨own, List.mem_cons_of_mem _ hown, hq⟩

/-- Each test around a field comes from a conditional of the scope that the field is in. -/
theorem mem_ownTests_of_mem_guarded (path : String) :
    ∀ es : List Element, ∀ g ∈ guardedContents es, ∀ q ∈ g.2, ∃ own ∈ ownTests path es, own.1 = q
  | [] => by simp [guardedContents]
  | e :: es => by
    intro g hg q hq
    rw [guardedContents, List.mem_append] at hg
    rw [ownTests]
    rcases hg with hg | hg
    · obtain ⟨own, hown, hq⟩ := Element.mem_ownTests_of_mem_guarded path e g hg q hq
      exact ⟨own, List.mem_append_left _ hown, hq⟩
    · obtain ⟨own, hown, hq⟩ := mem_ownTests_of_mem_guarded path es g hg q hq
      exact ⟨own, List.mem_append_right _ hown, hq⟩

end

/-- A test made in the root scope is one of the tests of the form. -/
theorem mem_tests_of_mem_ownTests {es : List Element} {own : Predicate × String}
    (h : own ∈ ownTests "" es) : (⟨own.1, own.2, ⟨"", es⟩⟩ : ScopedTest) ∈ tests es := by
  rw [(tests_perm es).mem_iff, bodies, List.flatMap_cons]
  have hroot : (⟨own.1, own.2, ⟨"", es⟩⟩ : ScopedTest) ∈ ScopeBody.tests ⟨"", es⟩ :=
    List.mem_map_of_mem h
  exact List.mem_append_left _ hroot

/-- In a valid form a field that is tested around a field of the root scope is declared there. -/
theorem mem_names_of_tested {form : Form} (hvalid : form.checkStructure.valid = true)
    {p : FieldPlacement} (hp : p ∈ (resolve form.elements).fieldsIn .root) {q : Predicate}
    (hq : q ∈ p.predicates) : q.field ∈ (contents form.elements).map (·.name) := by
  have hguarded : (p.field, p.predicates) ∈ guardedContents form.elements := by
    rw [← guardedIn_root]
    exact List.mem_map_of_mem hp
  obtain ⟨own, hown, rfl⟩ := mem_ownTests_of_mem_guarded "" form.elements _ hguarded q hq
  have hdeclared := (valid_checkStructure_iff form).mp hvalid _ (mem_tests_of_mem_ownTests hown)
  exact of_decide_eq_true hdeclared

/-! ## Whole documents -/

/-- **No rule of a valid form is left dangling.** Every name that some rule of the layout tests, at
whatever depth of groups and in whichever shape, is a property of the schema. -/
theorem rules_test_properties (settings : Settings) (version : Json) {form : Form}
    (hvalid : form.checkStructure.valid = true) :
    ∃ properties : Entries Json,
      (form.schema settings version).toJson.get? "properties" = some (.obj properties)
        ∧ ∀ node ∈ Layout.layoutNodes (Layout.ofForm form), ∀ rule, node.get? "rule" = some rule →
          ∀ name, Layout.Mentions rule name → name ∈ properties.names := by
  obtain ⟨properties, hproperties, hnames⟩ :=
    Schema.names_properties form (orSetting version settings.schemaVersion)
  refine ⟨properties, hproperties, ?_⟩
  intro node hnode rule hrule name hmentions
  obtain ⟨p, hp, hbuilt⟩ := Layout.exists_placement_of_rule hnode hrule
  obtain ⟨q, hq, rfl⟩ := (Layout.mentions_iff hbuilt name).mp hmentions
  rw [hnames, mem_firstOccurrences]
  exact mem_names_of_tested hvalid hp hq

/-- Two nested tests in a group, of a field that is declared after them and of one inside them. -/
theorem rules_test_properties_nested :
    let inner : Element := .leaf ⟨"b", none, false⟩ .boolean
    let shown : Element := .conditional ⟨"a", .int 1⟩ [.conditional ⟨"b", .bool true⟩ [inner]]
    let form : Form := ⟨[.group "G" [shown], .leaf ⟨"a", none, true⟩ (.text none)]⟩
    let stack : List Predicate := [⟨"a", .int 1⟩, ⟨"b", .bool true⟩]
    let control : Json := (Layout.control stack ⟨"b", none, false⟩).toJson
    form.checkStructure.valid = true ∧ control ∈ Layout.layoutNodes (Layout.ofForm form)
      ∧ (∃ rule, control.get? "rule" = some rule ∧ Layout.Mentions rule "a"
        ∧ Layout.Mentions rule "b")
      ∧ ∃ properties : Entries Json,
        (form.schema {} .null).toJson.get? "properties" = some (.obj properties)
          ∧ "a" ∈ properties.names ∧ "b" ∈ properties.names := by
  intro inner shown form stack control
  have hvalid : form.checkStructure.valid = true := by decide
  have hnode : control ∈ Layout.layoutNodes (Layout.ofForm form) :=
    List.mem_cons_of_mem _ (List.mem_cons_of_mem _ List.mem_cons_self)
  have hrule : control.get? "rule" = some (Layout.Condition.allOf stack).rule := rfl
  have ha : Layout.Mentions (Layout.Condition.allOf stack).rule "a" :=
    (Layout.mentions_allOf stack "a").mpr ⟨_, List.mem_cons_self, rfl⟩
  have hb : Layout.Mentions (Layout.Condition.allOf stack).rule "b" :=
    (Layout.mentions_allOf stack "b").mpr ⟨_, List.mem_cons_of_mem _ List.mem_cons_self, rfl⟩
  obtain ⟨properties, hproperties, hdeclared⟩ := rules_test_properties {} .null hvalid
  exact ⟨hvalid, hnode, ⟨_, hrule, ha, hb⟩, properties, hproperties,
    hdeclared control hnode _ hrule "a" ha, hdeclared control hnode _ hrule "b" hb⟩

end FormSchema
