import FormSchema.Compiler
import FormSchema.Proofs.Draft07
import FormSchema.Proofs.Form.Unambiguous
import FormSchema.Proofs.Schema.Members

/-!
# FormSchema — the meaning of schemas

A form says what data it accepts, and so does its schema. `Accepts` is the form's own account, over
the contents of scopes; `Draft07.valid` is the meaning of the document. Where no name is declared
twice in a scope the two agree on all data.

* **`valid_objectNode_iff`**, **`valid_arrayNode_iff`** — what the nodes of scopes and of arrays ask
  for, keyword by keyword, as properties of the data.
* **`valid_members_iff`** — the node of a scope asks for what its contents ask for, one field at a
  time. Properties are collected without loss because names are different.
* **`valid_iff_accepts`** — both accounts agree. The induction is on the unambiguous form: the
  fields of a scope are judged by the induction hypothesis for the scopes they open.
* **`schema_accepts`** — the statement about whole forms.
-/

namespace FormSchema

open Draft07 Schema

/-! ## What forms accept -/

mutual

/-- `Accepts es d`: the elements of a scope accept a value. It is an object with all required
fields, in which each field that is present has an accepted value. -/
inductive Accepts : List Element → Json → Prop where
  | object {es : List Element} {members : Entries Json}
      (present : ∀ f ∈ contents es, f.required = true → ∃ v, members.get? f.name = some v)
      (each : ∀ f ∈ contents es, ∀ v, members.get? f.name = some v → FieldAccepts f v) :
      Accepts es (.obj members)

/-- `FieldAccepts f v`: a field accepts a value. An array accepts lists within its bounds, of items
that its own elements accept; an object accepts what its properties accept; a leaf accepts what its
node does. -/
inductive FieldAccepts : Field → Json → Prop where
  | leaf {head : FieldHead} {kind : LeafKind} (scope : Scope) {v : Json}
      (h : valid (ofField ⟨head, .leaf kind⟩ scope).toJson v = true) :
      FieldAccepts ⟨head, .leaf kind⟩ v
  | array {head : FieldHead} {bounds : ItemBounds} {items : List Element} {xs : List Json}
      (min : ∀ n, bounds.min = some n → n ≤ xs.length)
      (max : ∀ n, bounds.max = some n → xs.length ≤ n)
      (each : ∀ x ∈ xs, Accepts items x) : FieldAccepts ⟨head, .array bounds items⟩ (.arr xs)
  | object {head : FieldHead} {properties : List Element} {v : Json}
      (h : Accepts properties v) : FieldAccepts ⟨head, .object properties⟩ v

end

/-! ## What nodes ask for -/

namespace Schema

theorem validKeywords_keyword {α : Type} (schema : Entries Json) (name : String)
    (value : Option α) (write : α → Json) (d : Json) :
    validKeywords schema (keyword name value write) d
      = value.all fun v => holds schema name (write v) d := by
  cases value with
  | none => rfl
  | some v => simp [keyword, validKeywords_cons, validKeywords_nil]

/-- Of the keywords that stand in front on the node of a scope or an array only the type asks for
something. -/
theorem validKeywords_front (schema : Entries Json) (d : Json) (type : TypeName)
    (title : Option String) (version : Option Json) (minItems maxItems : Option Int)
    (required : Option (List String)) :
    validKeywords schema
        ({ type, title, version, minItems, maxItems, required } : Keywords).front d
      = (typeName d == type.name) := by
  have htitle : title.all (fun v => holds schema "title" (.str v) d) = true := by
    cases title <;> rfl
  have hversion : version.all (fun v => holds schema "$schema" (id v) d) = true := by
    cases version <;> rfl
  simp only [Keywords.front, validKeywords_append, validKeywords_keyword, validKeywords_cons,
    validKeywords_nil, Option.all_none, htitle, hversion, Bool.and_true, Bool.true_and]
  rfl

theorem validKeywords_back (schema : Entries Json) (k : Keywords) (d : Json) :
    validKeywords schema k.back d
      = (k.minItems.all (fun n => holds schema "minItems" (.int n) d)
        && k.maxItems.all (fun n => holds schema "maxItems" (.int n) d)
        && k.required.all (fun names => holds schema "required" (.ofStrings names) d)) := by
  simp only [Keywords.back, validKeywords_append, validKeywords_keyword]

theorem validMembers_propertiesToJson (properties : Entries Node) (d : Json) :
    validMembers (propertiesToJson properties) d = true
      ↔ ∀ p ∈ properties, ∀ v, d.get? p.1 = some v → valid p.2.toJson v = true := by
  induction properties with
  | nil => simp [propertiesToJson, validMembers]
  | cons p properties ih =>
    obtain ⟨name, node⟩ := p
    rw [propertiesToJson, validMembers, Bool.and_eq_true, ih, List.forall_mem_cons]
    refine and_congr ?_ Iff.rfl
    cases hv : d.get? name with
    | none => simp
    | some v => simp

/-- The required names of a scope, listed once each or not at all. -/
theorem holds_required (schema : Entries Json) (names : List String) (members : Entries Json) :
    (if names.isEmpty then none else some names).all
        (fun names => holds schema "required" (.ofStrings names) (.obj members)) = true
      ↔ ∀ name ∈ names, name ∈ members.names := by
  have hall : holds schema "required" (.ofStrings names) (.obj members)
      = names.all fun name => decide (name ∈ members.names) := by
    change List.all (names.map Json.str) _ = _
    rw [List.all_map]
    rfl
  by_cases hempty : names = []
  · simp [hempty]
  · have hne : names.isEmpty = false := by simpa using hempty
    rw [if_neg (by simp [hne]), Option.all_some, hall, List.all_eq_true]
    simp

theorem typeName_eq_object {d : Json} : typeName d = "object" ↔ ∃ members, d = .obj members := by
  cases d <;> simp [typeName]

theorem typeName_eq_array {d : Json} : typeName d = "array" ↔ ∃ xs, d = .arr xs := by
  cases d <;> simp [typeName]

/-- **The node of a scope** asks for an object with the required members, in which each member that
is listed as a property satisfies its node. -/
theorem valid_objectNode_iff (title : Option String) (version : Option Json) (m : Members)
    (d : Json) : valid (objectNode title version m).toJson d = true
      ↔ ∃ members : Entries Json, d = .obj members
        ∧ (∀ name ∈ m.required, name ∈ members.names)
        ∧ ∀ p ∈ m.properties, ∀ v, members.get? p.1 = some v → valid p.2.toJson v = true := by
  rw [objectNode, Node.toJson, valid, validKeywords_append, validKeywords_append,
    validKeywords_front, validKeywords_back, validKeywords_cons, validKeywords_nil, Bool.and_true,
    Bool.and_eq_true, Bool.and_eq_true, beq_iff_eq, Option.all_none, Option.all_none,
    Bool.true_and, Bool.true_and]
  -- the type keyword makes the value an object; the other two speak of its members
  constructor
  · rintro ⟨⟨htype, hprops⟩, hrequired⟩
    obtain ⟨members, rfl⟩ := typeName_eq_object.mp htype
    refine ⟨members, rfl, ?_, (validMembers_propertiesToJson _ _).mp hprops⟩
    intro name hname
    exact (holds_required _ _ members).mp hrequired name (mem_firstOccurrences.mpr hname)
  · rintro ⟨members, rfl, hrequired, hprops⟩
    refine ⟨⟨rfl, (validMembers_propertiesToJson _ _).mpr hprops⟩, ?_⟩
    refine (holds_required _ _ members).mpr ?_
    intro name hname
    exact hrequired name (mem_firstOccurrences.mp hname)

/-- **The node of an array** asks for a list within the bounds, of items that satisfy the node of
items. -/
theorem valid_arrayNode_iff (title : Option String) (bounds : ItemBounds) (node : Node) (d : Json) :
    valid (arrayNode title bounds node).toJson d = true
      ↔ ∃ xs, d = .arr xs ∧ (∀ n, bounds.min = some n → n ≤ xs.length)
        ∧ (∀ n, bounds.max = some n → xs.length ≤ n)
        ∧ ∀ x ∈ xs, valid node.toJson x = true := by
  rw [arrayNode, Node.toJson, valid, validKeywords_append, validKeywords_append,
    validKeywords_front, validKeywords_back, validKeywords_cons, validKeywords_nil, Bool.and_true,
    Bool.and_eq_true, Bool.and_eq_true, beq_iff_eq, Option.all_none, Bool.and_true,
    Bool.and_eq_true]
  constructor
  · rintro ⟨⟨htype, hitems⟩, hmin, hmax⟩
    obtain ⟨xs, rfl⟩ := typeName_eq_array.mp htype
    refine ⟨xs, rfl, ?_, ?_, List.all_eq_true.mp hitems⟩
    · intro n hn
      simpa [hn, holds, asserts] using hmin
    · intro n hn
      simpa [hn, holds, asserts] using hmax
  · rintro ⟨xs, rfl, hmin, hmax, hitems⟩
    refine ⟨⟨rfl, List.all_eq_true.mpr hitems⟩, ?_, ?_⟩
    · cases hbound : bounds.min with
      | none => rfl
      | some n => simpa [holds, asserts] using hmin n hbound
    · cases hbound : bounds.max with
      | none => rfl
      | some n => simpa [holds, asserts] using hmax n hbound

/-- The node of a scope asks for what its contents ask for, field by field. -/
theorem valid_members_iff {es : List Element} (h : ((contents es).map (·.name)).Nodup)
    (title : Option String) (version : Option Json) (scope : Scope) (d : Json) :
    valid (objectNode title version (members es scope)).toJson d = true
      ↔ ∃ found : Entries Json, d = .obj found ∧ ∀ f ∈ contents es,
        (f.required = true → ∃ v, found.get? f.name = some v)
          ∧ ∀ v, found.get? f.name = some v → valid (fieldNode f).toJson v = true := by
  have hnames : (Entries.names ((contents es).map fun f => (f.name, fieldNode f))).Nodup := by
    rw [Entries.names_map]
    exact h
  have hproperties : (members es scope).properties
      = (contents es).map fun f => (f.name, fieldNode f) := by
    rw [members_eq, Members.ofFields, Entries.ofList_of_nodup hnames]
  have hrequired : (members es scope).required
      = ((contents es).filter (·.required)).map (·.name) := by
    rw [members_eq, Members.ofFields]
  rw [valid_objectNode_iff, hproperties, hrequired]
  constructor
  · rintro ⟨found, rfl, hpresent, heach⟩
    refine ⟨found, rfl, fun f hf => ⟨?_, ?_⟩⟩
    · intro hf'
      exact Entries.mem_names_iff.mp
        (hpresent f.name (List.mem_map.mpr ⟨f, List.mem_filter.mpr ⟨hf, hf'⟩, rfl⟩))
    · exact heach (f.name, fieldNode f) (List.mem_map.mpr ⟨f, hf, rfl⟩)
  · rintro ⟨found, rfl, hfields⟩
    refine ⟨found, rfl, ?_, ?_⟩
    · intro name hname
      obtain ⟨f, hf, rfl⟩ := List.mem_map.mp hname
      obtain ⟨hmem, hf'⟩ := List.mem_filter.mp hf
      exact Entries.mem_names_iff.mpr ((hfields f hmem).1 hf')
    · intro p hp
      obtain ⟨f, hf, rfl⟩ := List.mem_map.mp hp
      exact (hfields f hf).2

end Schema

/-! ## Both accounts agree -/

/-- A field's node is valid for what the field accepts, if that is so for what it nests. -/
theorem valid_fieldNode_iff {f : Field}
    (h : ∀ title version d,
      valid (objectNode title version (members f.children .root)).toJson d = true
        ↔ Accepts f.children d) (v : Json) :
    valid (fieldNode f).toJson v = true ↔ FieldAccepts f v := by
  obtain ⟨head, body⟩ := f
  cases body with
  | leaf kind =>
    constructor
    · exact .leaf .root
    · rintro ⟨⟩
      assumption
  | array bounds items =>
    rw [fieldNode_array, valid_arrayNode_iff]
    constructor
    · rintro ⟨xs, rfl, hmin, hmax, heach⟩
      exact .array hmin hmax fun x hx => (h none none x).mp (heach x hx)
    · rintro ⟨⟩
      next xs hmin hmax heach =>
        exact ⟨xs, rfl, hmin, hmax, fun x hx => (h none none x).mpr (heach x hx)⟩
  | object properties =>
    rw [fieldNode_object]
    refine (h head.label none v).trans ?_
    constructor
    · exact .object
    · rintro ⟨⟩
      assumption

/-- **Validity is acceptance** for the elements of every unambiguous scope. -/
theorem valid_iff_accepts {es : List Element} (h : Unambiguous es) :
    ∀ title version scope d,
      valid (objectNode title version (members es scope)).toJson d = true ↔ Accepts es d := by
  induction h with
  | @intro es names _ ih =>
    intro title version scope d
    -- a field is judged by the scope it opens, for which the induction hypothesis stands
    have hfield : ∀ f ∈ contents es, ∀ v,
        valid (fieldNode f).toJson v = true ↔ FieldAccepts f v := by
      intro f hf
      exact valid_fieldNode_iff fun title version => ih f hf title version .root
    rw [valid_members_iff names]
    constructor
    · rintro ⟨found, rfl, hfields⟩
      refine .object ?_ ?_
      · exact fun f hf => (hfields f hf).1
      · exact fun f hf v hv => (hfield f hf v).mp ((hfields f hf).2 v hv)
    · rintro ⟨hpresent, heach⟩
      next found =>
        exact ⟨found, rfl, fun f hf =>
          ⟨hpresent f hf, fun v hv => (hfield f hf v).mpr (heach f hf v hv)⟩⟩

/-- **The meaning of a form's schema.** If no repeated name is reported for a form, then its schema
is satisfied by exactly the data that the form accepts. -/
theorem schema_accepts (settings : Settings) (version : Json) (form : Form)
    (h : ∀ i ∈ form.checkStructure.issues, i.code ≠ some "DUPLICATE_FIELD_NAME") (d : Json) :
    valid (form.schema settings version).toJson d = true ↔ Accepts form.elements d :=
  valid_iff_accepts (unambiguous_of_checkStructure h) none _ .root d

/-- A required array below a conditional, with a wrapped field in its items, and a name that is
declared in two scopes. The conditional tests an unknown field, which is no repeated name. -/
theorem schema_accepts_nested :
    let count : Element := .leaf ⟨"n", none, true⟩ (.number (some (.int 0)) none)
    let rows : Element := .array ⟨"rows", some "Rows", true⟩ ⟨some 1, some 2⟩ [.group "Row" [count]]
    let form : Form :=
      ⟨[.conditional ⟨"kind", .str "b"⟩ [rows], .object ⟨"more", none, false⟩ [rows, count]]⟩
    let listed (n : Int) : Json := .obj [("rows", .arr [.obj [("n", .int n)]])]
    (∀ i ∈ form.checkStructure.issues, i.code ≠ some "DUPLICATE_FIELD_NAME")
      ∧ Accepts form.elements (listed 0) ∧ ¬ Accepts form.elements (listed (-1)) := by
  intro count rows form listed
  have h : ∀ i ∈ form.checkStructure.issues, i.code ≠ some "DUPLICATE_FIELD_NAME" := by
    decide +kernel
  have hvalid : valid (form.schema {} .null).toJson (listed 0) = true := by decide +kernel
  have hinvalid : valid (form.schema {} .null).toJson (listed (-1)) ≠ true := by decide +kernel
  refine ⟨h, (schema_accepts {} .null form h (listed 0)).mp hvalid, ?_⟩
  exact fun haccepts => hinvalid ((schema_accepts {} .null form h (listed (-1))).mpr haccepts)

end FormSchema
