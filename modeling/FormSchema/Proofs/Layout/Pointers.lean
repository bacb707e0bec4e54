import FormSchema.Proofs.Form.RoundTrip
import FormSchema.Proofs.JsonPointer
import FormSchema.Proofs.Layout.Tested

/-!
# FormSchema — where the pointers of a layout lead

Controls and the conditions of rules with one test point at properties of the schema, by pointers
that the layout writes without a look at the schema. A pointer is written with the name as it is, so
it is read back as the name only if the name has nothing in it that pointers are made of.

* **`Points`** — the pointers of a layout, each with the name of the field that it is written for.
* **`LeadsTo`** — a pointer leads to the property of a name in a schema document.
* **`mem_names_of_points`** — in a valid form there is a property of each of these names.
* **`leadsTo_of_token`**, **`not_leadsTo_of_not_token`** — a name that is a token of its own is
  found, and any other name is missed in the form that declares it alone.
* **`pointers_lead_to_properties_iff`** — the exact condition on names.
-/

namespace FormSchema.Layout

/-! ## Pointers and names -/

/-- `Points form pointer name`: the layout of the form has the pointer as that of a control whose
field has the name, or as that of the condition which shows a control while a field of the name has
some value. Controls belong to the fields of the root scope, one to each and in order. -/
inductive Points (form : Form) : String → String → Prop where
  | control {node : Json} {p : FieldPlacement} {pointer : String}
      (pair : (node, p) ∈ (controls (ofForm form)).zip ((resolve form.elements).fieldsIn .root))
      (scope : node.get? "scope" = some (.str pointer)) : Points form pointer p.field.name
  | condition {node rule : Json} {p : FieldPlacement} {q : Predicate} {pointer : String}
      (pair : (node, p) ∈ (controls (ofForm form)).zip ((resolve form.elements).fieldsIn .root))
      (single : p.predicates = [q]) (shown : node.get? "rule" = some rule)
      (scope : (rule.getD "condition").get? "scope" = some (.str pointer)) :
      Points form pointer q.field

/-- `LeadsTo schema pointer name`: the schema has a property of the name, and the pointer refers to
what stands there. -/
def LeadsTo (schema : Json) (pointer name : String) : Prop :=
  ∃ (properties : Entries Json) (value : Json), schema.get? "properties" = some (.obj properties)
    ∧ properties.get? name = some value ∧ JsonPointer.resolve? schema pointer = some value

theorem controlFor_of_mem_zip {form : Form} {node : Json} {p : FieldPlacement}
    (h : (node, p) ∈ (controls (ofForm form)).zip ((resolve form.elements).fieldsIn .root)) :
    ControlFor node p ∧ p ∈ (resolve form.elements).fieldsIn .root := by
  have hall : List.Forall₂ ControlFor (controls (ofForm form))
      ((resolve form.elements).fieldsIn .root) := by
    rw [controls_eq_map_placedControl, List.forall₂_map_left_iff, List.forall₂_same]
    intro p _
    exact controlFor_placedControl p
  exact ⟨(List.forall₂_iff_zip.mp hall).2 h, (List.of_mem_zip h).2⟩

/-- A pointer is written with the name as it is. -/
theorem eq_pointer_of_points {form : Form} {reference name : String}
    (h : Points form reference name) : reference = pointer name := by
  cases h with
  | control pair scope =>
    have hscope := (controlFor_of_mem_zip pair).1.scope
    exact Json.str.inj (Option.some.inj (scope.symm.trans hscope))
  | @condition node rule p q _ pair single shown scope =>
    have hwritten := (controlFor_of_mem_zip pair).1.rule
    rw [single] at hwritten
    have heq : (Condition.scoped (pointer q.field) q.value).rule = rule :=
      Option.some.inj (hwritten.symm.trans shown)
    rw [← heq] at scope
    exact (Json.str.inj (Option.some.inj scope)).symm

/-- In a valid form there is a field for each name that the layout points at. -/
theorem mem_names_of_points {form : Form} (hvalid : form.checkStructure.valid = true)
    {reference name : String} (h : Points form reference name) :
    name ∈ (contents form.elements).map (·.name) := by
  cases h with
  | @control _ p _ pair =>
    have hp := (controlFor_of_mem_zip pair).2
    rw [← fields_root, List.map_map]
    exact List.mem_map_of_mem hp
  | @condition _ _ p q _ pair single =>
    have hp := (controlFor_of_mem_zip pair).2
    have hq : q ∈ p.predicates := by
      rw [single]
      exact List.mem_singleton_self q
    exact mem_names_of_tested hvalid hp hq

/-! ## What a pointer refers to -/

theorem toList_pointer (name : String) :
    (pointer name).toList = '#' :: '/' :: ("properties".toList ++ '/' :: name.toList) := by
  rw [pointer, String.toList_append]
  rfl

/-- In a schema the first token of a pointer leads to the properties, from where the tokens of the
name go on. -/
theorem resolve?_pointer {schema : Json} {properties : Entries Json}
    (h : schema.get? "properties" = some (.obj properties)) (name : String) :
    JsonPointer.resolve? schema (pointer name)
      = List.foldlM JsonPointer.step (.obj properties)
          ((name.toList.splitOn '/').map fun token =>
            String.ofList (JsonPointer.unescape token)) := by
  have htoken : String.ofList (JsonPointer.unescape "properties".toList) = "properties" := by
    decide
  have hslash : '/' ∉ "properties".toList := by decide
  rw [JsonPointer.resolve?, toList_pointer]
  simp only [JsonPointer.tokens?, Option.bind_some]
  rw [JsonPointer.splitOn_append_cons hslash, List.map_cons, htoken, List.foldlM_cons,
    JsonPointer.step_of_get? h]
  rfl

/-- A name that is a token of its own is found. -/
theorem leadsTo_of_token {schema : Json} {properties : Entries Json} {name : String}
    (h : schema.get? "properties" = some (.obj properties)) (hname : name ∈ properties.names)
    (htoken : '/' ∉ name.toList ∧ JsonPointer.unescape name.toList = name.toList) :
    LeadsTo schema (pointer name) name := by
  obtain ⟨value, hvalue⟩ := Entries.mem_names_iff.mp hname
  refine ⟨properties, value, h, hvalue, ?_⟩
  rw [resolve?_pointer h, JsonPointer.splitOn_of_not_mem htoken.1, List.map_singleton, htoken.2,
    String.ofList_toList, List.foldlM_cons]
  have hstep : JsonPointer.step (.obj properties) name = some value := hvalue
  rw [hstep]
  rfl

/-- Any other name is missed where there is no other property. -/
theorem not_leadsTo_of_not_token {schema value : Json} (name : String)
    (h : schema.get? "properties" = some (.obj [(name, value)]))
    (htoken : ¬ ('/' ∉ name.toList ∧ JsonPointer.unescape name.toList = name.toList)) :
    ¬ LeadsTo schema (pointer name) name := by
  obtain ⟨first, more, hsplit, hfirst⟩ := JsonPointer.exists_first_token_ne htoken
  have hne : String.ofList (JsonPointer.unescape first) ≠ name := by
    intro heq
    have htoList := congrArg String.toList heq
    rw [String.toList_ofList] at htoList
    exact hfirst htoList
  have hstep : JsonPointer.step (.obj [(name, value)])
      (String.ofList (JsonPointer.unescape first)) = none := by
    show Entries.get? [(name, value)] (String.ofList (JsonPointer.unescape first)) = none
    rw [Entries.get?_cons, if_neg hne]
    rfl
  have hnone : JsonPointer.resolve? schema (pointer name) = none := by
    rw [resolve?_pointer h, hsplit, List.map_cons, List.foldlM_cons, hstep]
    rfl
  rintro ⟨_, _, _, _, hresolved⟩
  exact absurd (hnone.symm.trans hresolved) (by simp)

/-! ## The form of a single field -/

section Alone

variable (name : String)

/-- The form that declares one text of the name, and nothing else. -/
def alone : Form := ⟨[.leaf ⟨name, none, false⟩ (.text none)]⟩

theorem load_alone (hname : name ≠ "") : Form.load ((alone name).dump {}) = .ok (alone name) := by
  have hfield : (Element.leaf ⟨name, none, false⟩ (.text none)).WellFormed := .leaf hname trivial
  apply load_dump_of_wellFormed
  intro e he
  rw [List.mem_singleton.mp he]
  exact hfield

theorem valid_alone : (alone name).checkStructure.valid = true := by
  rw [valid_checkStructure_iff]
  intro t ht
  exact absurd ht (List.not_mem_nil)

theorem points_alone : Points (alone name) (pointer name) name :=
  .control (p := ⟨⟨⟨name, none, false⟩, .leaf (.text none)⟩, .root, [], name⟩)
    List.mem_cons_self rfl

end Alone

/-! ## Names that pointers find -/

/-- **Which pointers resolve.** In every loaded form whose structure is valid, each pointer that is
written for a name refers to the property of the name in the schema, exactly if the name has neither
a slash in it nor a tilde in front of a 0 or a 1. -/
theorem pointers_lead_to_properties_iff (settings : Settings) (version : Json) (name : String) :
    (∀ (data : Json) (form : Form) (reference : String), Form.load data = .ok form →
        form.checkStructure.valid = true → Points form reference name →
        LeadsTo (form.schema settings version).toJson reference name)
      ↔ '/' ∉ name.toList ∧ ¬ ['~', '0'] <:+: name.toList ∧ ¬ ['~', '1'] <:+: name.toList := by
  rw [← JsonPointer.unescape_eq_self_iff]
  constructor
  · intro h
    by_contra htoken
    have hname : name ≠ "" := by
      intro hempty
      subst hempty
      exact htoken ⟨by decide, rfl⟩
    have hleads := h _ _ _ (load_alone name hname) (valid_alone name) (points_alone name)
    exact not_leadsTo_of_not_token name rfl htoken hleads
  · intro htoken data form reference _ hvalid hpoints
    obtain ⟨properties, hproperties, hnames⟩ :=
      Schema.names_properties form (orSetting version settings.schemaVersion)
    have hname : name ∈ properties.names := by
      rw [hnames, mem_firstOccurrences]
      exact mem_names_of_points hvalid hpoints
    rw [eq_pointer_of_points hpoints]
    exact leadsTo_of_token hproperties hname htoken

/-- A tilde that is no escape does no harm, neither to a control nor to a condition. -/
theorem pointers_lead_to_properties_iff_tilde :
    let field : FieldHead := ⟨"a~2", none, false⟩
    let form : Form := ⟨[.conditional ⟨"a~2", .null⟩ [.leaf field .boolean]]⟩
    let data : Json := .arr [.obj [("type", .str "conditional"), ("field", .str "a~2"),
      ("elements", .arr [.obj [("type", .str "field"), ("kind", .str "boolean"),
        ("name", .str "a~2")]])]]
    Form.load data = .ok form ∧ form.checkStructure.valid = true
      ∧ Points form "#/properties/a~2" "a~2"
      ∧ LeadsTo (form.schema {} .null).toJson "#/properties/a~2" "a~2" := by
  intro field form data
  have hload : Form.load data = .ok form := rfl
  have hvalid : form.checkStructure.valid = true := by decide
  have hpoints : Points form "#/properties/a~2" "a~2" :=
    .condition (p := ⟨⟨field, .leaf .boolean⟩, .root, [⟨"a~2", .null⟩], "when(a~2).a~2"⟩)
      (q := ⟨"a~2", .null⟩) List.mem_cons_self rfl rfl rfl
  have hplain : '/' ∉ "a~2".toList ∧ ¬ ['~', '0'] <:+: "a~2".toList
      ∧ ¬ ['~', '1'] <:+: "a~2".toList := by decide
  have hleads := (pointers_lead_to_properties_iff {} .null "a~2").mpr hplain
  exact ⟨hload, hvalid, hpoints, hleads data form _ hload hvalid hpoints⟩

/-- A slash in a name is taken for the end of a token, and the property is not found. -/
theorem pointer_misses_property :
    let form : Form := ⟨[.leaf ⟨"a/b", none, false⟩ (.text none)]⟩
    let data : Json := .arr [.obj [("type", .str "field"), ("kind", .str "text"),
      ("name", .str "a/b")]]
    Form.load data = .ok form ∧ form.checkStructure.valid = true
      ∧ Points form "#/properties/a/b" "a/b"
      ∧ ¬ LeadsTo (form.schema {} .null).toJson "#/properties/a/b" "a/b" := by
  intro form data
  refine ⟨rfl, by decide, points_alone "a/b", ?_⟩
  exact not_leadsTo_of_not_token "a/b" rfl (by decide)

end FormSchema.Layout
