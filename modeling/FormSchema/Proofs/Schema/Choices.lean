import FormSchema.Form.Reader
import FormSchema.Proofs.Schema.Meaning

/-!
# FormSchema — what the schema of a static choice accepts

Plain values are listed as an enumeration, labelled options as branches of which exactly one has to
hold. An id that two options share holds in two branches, and so it is refused although it is an id
of the field. Reading a form does not ask for different ids.

* **`valid_leafNode_plain`**, **`valid_leafNode_labelled`** — the two ways to list choices.
* **`Admits`** — the values that a choice admits: those of a list, or ids of exactly one option.
* **`choice_admits_iff`** — the schema accepts what the choice admits. That is all of its values
  exactly if its ids are different.
* **`choice_refuses_repeated_id`** — a form with a repeated id that is loaded.
-/

namespace FormSchema.Schema

open Draft07

/-! ## Constants -/

theorem equal_str (d : Json) (s : String) : equal d (.str s) = true ↔ d = .str s := by
  cases d <;> simp [equal, sameNumber, number?]

theorem typeName_eq_string {d : Json} : typeName d = "string" ↔ ∃ s, d = .str s := by
  cases d <;> simp [typeName]

/-- A branch asks for the id of its option; the label is only a title. -/
theorem valid_branch (option : EnumOption) (d : Json) :
    valid (branch option) d = equal d (.str option.id) := by
  rw [branch, valid, validKeywords_cons, validKeywords_cons, validKeywords_nil, Bool.and_true]
  have htitle : ∀ schema, holds schema "title" (.str option.label) d = true := fun _ => rfl
  rw [htitle, Bool.and_true]
  rfl

/-- The branches that hold on a text are those of the options with that id. -/
theorem count_valid_branch (options : List EnumOption) (id : String) :
    ((options.map branch).map fun schema => valid schema (.str id)).count true
      = (options.map (·.id)).count id := by
  induction options with
  | nil => rfl
  | cons option options ih =>
    rw [List.map_cons, List.map_cons, List.map_cons, List.count_cons, List.count_cons, ih,
      valid_branch]
    have hsame : equal (.str id) (.str option.id) = (option.id == id) := by
      rw [Bool.eq_iff_iff, equal_str, beq_iff_eq, Json.str.injEq, eq_comm]
    rw [hsame]
    cases option.id == id <;> rfl

/-! ## The two ways to list choices -/

/-- What the keywords of a choice ask for: a text, and what the list of its values asks for. -/
theorem valid_leafNode_choice (title : Option String) (oneOf : Option (List EnumOption))
    (enum : Option (List String)) (d : Json) :
    valid (Node.leaf { type := .string, title, oneOf, enum }).toJson d = true
      ↔ (∃ s, d = .str s)
        ∧ (∀ options, oneOf = some options →
          ((options.map branch).map fun schema => valid schema d).count true = 1)
        ∧ ∀ values, enum = some values → ∃ value ∈ values, d = .str value := by
  have htitle : ∀ schema, title.all (fun v => holds schema "title" (.str v) d) = true := by
    intro schema
    cases title <;> rfl
  have hbranches : ∀ (schema : Entries Json) (options : List EnumOption),
      holds schema "oneOf" (.arr (options.map branch)) d = true
        ↔ ((options.map branch).map fun schema => valid schema d).count true = 1 := by
    intro schema options
    change ((verdictsOf (options.map branch) d).count true == 1) = true ↔ _
    rw [verdictsOf_eq_map, beq_iff_eq]
  have hvalues : ∀ (schema : Entries Json) (values : List String),
      holds schema "enum" (.ofStrings values) d = true ↔ ∃ value ∈ values, d = .str value := by
    intro schema values
    change ((values.map Json.str).any fun value => equal d value) = true ↔ _
    rw [List.any_map, List.any_eq_true]
    exact exists_congr fun value => and_congr_right fun _ => equal_str d value
  have htype : ∀ schema : Entries Json,
      holds schema "type" (.str TypeName.string.name) d = (typeName d == "string") := fun _ => rfl
  rw [Node.toJson, valid, validKeywords_append, validKeywords_back, Keywords.front]
  simp only [validKeywords_append, validKeywords_keyword, validKeywords_cons, validKeywords_nil,
    Option.all_none, htitle, htype, Bool.and_true, Bool.true_and, Bool.and_eq_true, beq_iff_eq,
    typeName_eq_string, and_assoc]
  refine and_congr_right fun _ => and_congr ?_ ?_
  · cases oneOf <;> simp [hbranches]
  · cases enum <;> simp [hvalues]

theorem valid_leafNode_plain (title : Option String) (values : List String) (d : Json) :
    valid (leafNode title (.staticEnum (.plain values))).toJson d = true
      ↔ ∃ value ∈ values, d = .str value := by
  rw [leafNode, valid_leafNode_choice]
  constructor
  · rintro ⟨-, -, henum⟩
    exact henum values rfl
  · rintro ⟨value, hvalue, rfl⟩
    refine ⟨⟨value, rfl⟩, by simp, ?_⟩
    rintro _ ⟨⟩
    exact ⟨value, hvalue, rfl⟩

theorem valid_leafNode_labelled (title : Option String) (options : List EnumOption) (d : Json) :
    valid (leafNode title (.staticEnum (.labelled options))).toJson d = true
      ↔ ∃ id, d = .str id ∧ (options.map (·.id)).count id = 1 := by
  rw [leafNode, valid_leafNode_choice]
  constructor
  · rintro ⟨⟨id, rfl⟩, hone, -⟩
    exact ⟨id, rfl, (count_valid_branch options id).symm.trans (hone options rfl)⟩
  · rintro ⟨id, rfl, hcount⟩
    refine ⟨⟨id, rfl⟩, ?_, by simp⟩
    rintro _ ⟨⟩
    exact (count_valid_branch options id).trans hcount

/-! ## What a choice admits -/

/-- A choice admits its plain values, and the ids that exactly one of its options has. -/
inductive Admits : Choices → Json → Prop where
  | plain {values : List String} {value : String} (h : value ∈ values) :
      Admits (.plain values) (.str value)
  | labelled {options : List EnumOption} {id : String} (h : (options.map (·.id)).count id = 1) :
      Admits (.labelled options) (.str id)

/-- No id of labelled options is repeated. -/
def DifferentIds (choices : Choices) : Prop :=
  ∀ options, choices = .labelled options → (options.map (·.id)).Nodup

theorem valid_ofField_iff_admits (head : FieldHead) (choices : Choices) (scope : Scope) (d : Json) :
    valid (ofField ⟨head, .leaf (.staticEnum choices)⟩ scope).toJson d = true
      ↔ Admits choices d := by
  change valid (leafNode head.label (.staticEnum choices)).toJson d = true ↔ _
  cases choices with
  | plain values =>
    rw [valid_leafNode_plain]
    constructor
    · rintro ⟨value, hvalue, rfl⟩
      exact .plain hvalue
    · rintro ⟨hvalue⟩
      exact ⟨_, hvalue, rfl⟩
  | labelled options =>
    rw [valid_leafNode_labelled]
    constructor
    · rintro ⟨id, rfl, hcount⟩
      exact .labelled hcount
    · intro h
      cases h with
      | labelled hcount => exact ⟨_, rfl, hcount⟩

/-- Nothing but its values is admitted by a choice. -/
theorem Admits.exists_value {choices : Choices} {d : Json} (h : Admits choices d) :
    ∃ value ∈ choices.values, d = .str value := by
  cases h with
  | plain hvalue => exact ⟨_, hvalue, rfl⟩
  | @labelled options id hcount =>
    have hmem : id ∈ options.map (·.id) := List.count_pos_iff.mp (by omega)
    exact ⟨id, hmem, rfl⟩

/-- A repeated id is not admitted, so all values are exactly if none is repeated. -/
theorem admits_values_iff (choices : Choices) :
    (∀ value ∈ choices.values, Admits choices (.str value)) ↔ DifferentIds choices := by
  constructor
  · rintro h options rfl
    rw [List.nodup_iff_count_eq_one]
    intro id hid
    cases h id hid with
    | labelled hcount => exact hcount
  · intro hdifferent value hvalue
    cases choices with
    | plain values => exact .plain hvalue
    | labelled options =>
      exact .labelled (List.count_eq_one_of_mem (hdifferent options rfl) hvalue)

/-- **What the schema of a static choice accepts.** In every scope it accepts exactly the texts that
are plain values, or ids of exactly one option. So it never accepts more than the values of the
choice, and it accepts all of them exactly if no id is repeated. -/
theorem choice_admits_iff (head : FieldHead) (choices : Choices) (scope : Scope) :
    let schema := (ofField ⟨head, .leaf (.staticEnum choices)⟩ scope).toJson
    (∀ d, valid schema d = true ↔ Admits choices d)
      ∧ ((∀ d, valid schema d = true ↔ ∃ value ∈ choices.values, d = .str value)
        ↔ DifferentIds choices) := by
  intro schema
  have hadmits : ∀ d, valid schema d = true ↔ Admits choices d :=
    valid_ofField_iff_admits head choices scope
  refine ⟨hadmits, ?_⟩
  rw [← admits_values_iff]
  constructor
  · intro h value hvalue
    exact (hadmits _).mp ((h _).mpr ⟨value, hvalue, rfl⟩)
  · intro h d
    rw [hadmits]
    constructor
    · exact Admits.exists_value
    · rintro ⟨value, hvalue, rfl⟩
      exact h value hvalue

/-- Two options with one id are loaded, and the schema refuses that id. -/
theorem choice_refuses_repeated_id :
    let option (label : String) : Json := .obj [("id", .str "a"), ("label", .str label)]
    let data : Json := .arr [.obj [("type", .str "field"), ("kind", .str "static_enum"),
      ("name", .str "c"), ("options", .arr [option "A", option "B"])]]
    let head : FieldHead := ⟨"c", none, false⟩
    let choices : Choices := .labelled [⟨"a", "A"⟩, ⟨"a", "B"⟩]
    Form.load data = .ok ⟨[.leaf head (.staticEnum choices)]⟩
      ∧ "a" ∈ choices.values
      ∧ valid (ofField ⟨head, .leaf (.staticEnum choices)⟩ ⟨[0], "c"⟩).toJson (.str "a")
        = false := by
  intro option data head choices
  have hload : Form.load data = .ok ⟨[.leaf head (.staticEnum choices)]⟩ := by rfl
  have hrefused :
      valid (ofField ⟨head, .leaf (.staticEnum choices)⟩ ⟨[0], "c"⟩).toJson (.str "a") = false := by
    decide +kernel
  exact ⟨hload, List.mem_cons_self, hrefused⟩

end FormSchema.Schema
