import FormSchema.Builder
import FormSchema.Proofs.Form.RoundTrip

/-!
# FormSchema — forms that are built part by part

A form that was loaded is built again from its parts: innermost elements first, each by its builder
from its attributes and from the elements inside it, which are built already. Building checks every
part once more and finds nothing wrong with it, and what comes out is the form.

* **`Builder.rebuild`** — an element built again from its parts.
* **`readHead_given`**, **`readChoices_given`** — what builders are given is read as it is; an
  attribute that is not given has its default.
* **`rebuild_eq`** — an element that makes sense comes out as it is, by induction on that.
* **`rebuild_loaded`** — the statement about forms that were loaded.
-/

namespace FormSchema

open Intake

namespace Builder

/-! ## Building again -/

/-- Why a form could not be built again. -/
inductive RebuildError
  | record (error : RecordError)
  | notListed (error : NotListed)

def headOf (head : FieldHead) : Head where
  name := .data (.str head.name)
  label := .data (.ofText? head.label)
  required := .data (.bool head.required)

/-- Options as they are given to a builder: those with labels are made already. -/
def optionsOf : Choices → Draft
  | .plain values => .list (values.map fun value => .data (.str value))
  | .labelled options => .list (options.map .option)

def rebuildLeaf (head : FieldHead) : LeafKind → Except RebuildError Element
  | .text placeholder =>
    (text (headOf head) (.data (.ofText? placeholder))).mapError .record
  | .number min max =>
    (number (headOf head) (.data (limitOrNull min)) (.data (limitOrNull max))).mapError .record
  | .boolean => (boolean (headOf head)).mapError .record
  | .staticEnum choices => (staticEnum (headOf head) (optionsOf choices)).mapError .record
  | .dynamicEnum source params => do
    let params ← (parameters (.data (.ofStrings params))).mapError .notListed
    (dynamicEnum (headOf head) (.data (.str source)) params).mapError .record
  | .dynamicSchema source =>
    (dynamicSchema (headOf head) (.data (.str source))).mapError .record

mutual

/-- Builds an element again from its attributes, once the elements inside it are built again. -/
def rebuild : Element → Except RebuildError Element
  | .leaf head kind => rebuildLeaf head kind
  | .array head bounds items => do
    let items ← rebuildAll items
    (array (headOf head) (items.map .element) (.data (boundOrNull bounds.min))
      (.data (boundOrNull bounds.max))).mapError .record
  | .object head properties => do
    let properties ← rebuildAll properties
    (object (headOf head) (properties.map .element)).mapError .record
  | .group label elements => do
    let elements ← rebuildAll elements
    (group (.data (.str label)) (elements.map .element)).mapError .record
  | .conditional test elements => do
    let elements ← rebuildAll elements
    (conditional (.data (.str test.field)) (.data test.value) (elements.map .element)).mapError
      .record

def rebuildAll : List Element → Except RebuildError (List Element)
  | [] => .ok []
  | e :: es => do
    let e ← rebuild e
    let es ← rebuildAll es
    return e :: es

end

def rebuildForm (f : Form) : Except RebuildError Form := do
  let elements ← rebuildAll f.elements
  (form (elements.map .element)).mapError .record

end Builder

/-! ## What builders are given -/

/-- The member that a draft is read as. -/
def Member.ofDraft (draft : Draft) : Member :=
  ⟨draft.toJson, draft.readElements, draft.options?⟩

theorem Draft.readMembers_eq_map (members : List (String × Draft)) :
    Draft.readMembers members = members.map fun m => (m.1, Member.ofDraft m.2) := by
  induction members with
  | nil => rfl
  | cons m members ih =>
    rw [Draft.readMembers, ih, List.map_cons]
    rfl

theorem Draft.find?_readMembers (key : Key) (members : List (String × Draft)) :
    key.find? (Draft.readMembers members)
      = (key.find? members).map fun m => (m.1, Member.ofDraft m.2) := by
  rw [Draft.readMembers_eq_map, Key.find?_mapValues]

section Given

variable {α : Type} {key : Key} {name : String} {draft : Draft} {members : List (String × Draft)}
  {check : Member → Checked α} {a : α}

theorem required_given (hfind : key.find? members = some (name, draft))
    (hcheck : check (.ofDraft draft) = .accepted a) :
    required key check (Draft.readMembers members) = .accepted a := by
  rw [required_eq_accepted_iff, Draft.find?_readMembers, hfind]
  exact ⟨_, _, rfl, hcheck⟩

theorem optional_given {absent : α} (hfind : key.find? members = some (name, draft))
    (hcheck : check (.ofDraft draft) = .accepted a) :
    optional key absent check (Draft.readMembers members) = .accepted a := by
  rw [optional_eq_accepted_iff, Draft.find?_readMembers, hfind]
  exact .inr ⟨_, _, rfl, hcheck⟩

/-- An attribute that is not given has its default. -/
theorem optional_of_not_given (hfind : key.find? members = none) (absent : α) :
    optional key absent check (Draft.readMembers members) = .accepted absent := by
  rw [optional_eq_accepted_iff, Draft.find?_readMembers, hfind]
  exact .inl ⟨rfl, rfl⟩

end Given

theorem orNull_ofText? (s : Option String) : orNull Intake.text (.ofText? s) = .accepted s := by
  cases s <;> rfl

theorem orNull_limitOrNull (limit : Option Number.Limit) :
    orNull Intake.limit (limitOrNull limit) = .accepted limit := by
  rcases limit with _ | limit
  · rfl
  · cases limit <;> rfl

theorem orNull_boundOrNull (bound : Option Int) :
    orNull Intake.integer (boundOrNull bound) = .accepted bound := by
  cases bound <;> rfl

theorem readItems_built (position : Nat) (es : List Element) :
    Draft.readItems position (es.map .element) = .accepted es := by
  induction es generalizing position with
  | nil => rfl
  | cons e es ih =>
    rw [List.map_cons, Draft.readItems, ih, Draft.readElement]
    rfl

/-- Built elements are taken as they are. -/
theorem readChildren_given {key : String} {members : List (String × Draft)} {es : List Element}
    (hfind : (Key.plain key).find? members = some (key, .list (es.map .element))) :
    readChildren key (Draft.readMembers members) = .accepted es := by
  apply optional_given hfind
  show Draft.readElements (.list (es.map .element)) = .accepted es
  rw [Draft.readElements]
  exact readItems_built 0 es

theorem readChoices_given {choices : Choices} (h : choices.WellFormed) (name : String) :
    readChoices name (Builder.optionsOf choices).options? = .accepted choices := by
  rw [readChoices_eq_accepted_iff]
  cases choices with
  | plain values =>
    refine ⟨_, rfl, .plain ?_ ?_⟩
    · simpa [Choices.WellFormed] using h
    · rw [List.map_map, List.forall₂_map_left_iff]
      exact List.forall₂_same.mpr fun value _ => rfl
  | labelled options =>
    refine ⟨_, rfl, .labelled ?_ ?_ ?_⟩
    · simpa using h.1
    · intro draft hdraft
      rw [List.map_map, List.mem_map] at hdraft
      obtain ⟨option, _, rfl⟩ := hdraft
      exact ⟨rfl, rfl⟩
    · rw [List.map_map, List.forall₂_map_left_iff]
      exact List.forall₂_same.mpr fun option hoption =>
        OptionDraft.option?_eq_some_iff.mpr ⟨rfl, h.2 option hoption⟩

namespace Builder

/-! ## Fields -/

/-- What a builder gives for a field: its head, and then the attributes of its kind. -/
def fieldDrafts (head : FieldHead) (attributes : List (String × Draft)) : List (String × Draft) :=
  [("name", .data (.str head.name)), ("label", .data (.ofText? head.label)),
    ("required", .data (.bool head.required))] ++ attributes

/-- The head of a field is read from what its builder gives. Type and kind are not given, and their
defaults are those of the field. -/
theorem readHead_given (kind : FieldKind) {head : FieldHead} {attributes : List (String × Draft)}
    (hname : head.name ≠ "") (htype : (Key.plain "type").find? attributes = none)
    (hkind : (Key.plain "kind").find? attributes = none) :
    readHead kind (Draft.readMembers (fieldDrafts head attributes)) = .accepted head := by
  rw [readHead_eq_accepted_iff]
  refine ⟨?_, ?_, ?_, ?_, ?_⟩
  · exact optional_of_not_given htype ()
  · exact required_given rfl (nonEmptyText_eq_accepted_iff.mpr ⟨rfl, hname⟩)
  · exact optional_given rfl (orNull_ofText? head.label)
  · exact optional_given rfl rfl
  · exact optional_of_not_given hkind ()

/-- A part is built if its attributes are read and it makes sense. -/
theorem element_eq_ok (tag : Tag) {attributes : List (String × Draft)} {e : Element}
    (hread : readAttributes tag (Draft.readMembers attributes) = .accepted e)
    (hknown : unknownKeys tag.keys (Draft.readMembers attributes) = [])
    (hsense : e.WellFormed) : (element tag attributes).mapError RebuildError.record = .ok e := by
  have htagged : readTagged tag (Draft.readMembers attributes) = .accepted e :=
    readTagged_eq_accepted_iff.mpr ⟨hread, hknown, hsense.misconfiguration?⟩
  rw [element, htagged]
  rfl

theorem rebuildLeaf_eq {head : FieldHead} {kind : LeafKind} (hname : head.name ≠ "")
    (hkind : kind.WellFormed) : rebuildLeaf head kind = .ok (.leaf head kind) := by
  have hsense : (Element.leaf head kind).WellFormed := .leaf hname hkind
  have hhead {attributes : List (String × Draft)}
      (htype : (Key.plain "type").find? attributes = none)
      (hother : (Key.plain "kind").find? attributes = none) :=
    readHead_given kind.kind hname htype hother
  cases kind
  case text placeholder =>
    refine element_eq_ok (.field .text) ?_ rfl hsense
    simp only [readAttributes, Checked.seq_eq_accepted_iff, ↓Checked.exists_fmap_accepted]
    exact ⟨head, hhead rfl rfl, placeholder, optional_given rfl (orNull_ofText? placeholder), rfl⟩
  case number min max =>
    refine element_eq_ok (.field .number) ?_ rfl hsense
    simp only [readAttributes, Checked.seq_eq_accepted_iff, ↓Checked.exists_seq_accepted,
      ↓Checked.exists_fmap_accepted]
    refine ⟨head, hhead rfl rfl, min, ?_, max, ?_, rfl⟩
    · exact optional_given rfl (orNull_limitOrNull min)
    · exact optional_given rfl (orNull_limitOrNull max)
  case boolean =>
    refine element_eq_ok (.field .boolean) ?_ rfl hsense
    simp only [readAttributes, Checked.fmap_eq_accepted_iff]
    exact ⟨head, hhead rfl rfl, rfl⟩
  case staticEnum choices =>
    refine element_eq_ok (.field .staticEnum) ?_ rfl hsense
    simp only [readAttributes, Checked.seq_eq_accepted_iff, ↓Checked.exists_fmap_accepted]
    exact ⟨head, hhead rfl rfl, choices, required_given rfl (readChoices_given hkind _), rfl⟩
  case dynamicEnum source params =>
    refine element_eq_ok (.field .dynamicEnum) ?_ rfl hsense
    simp only [readAttributes, Checked.seq_eq_accepted_iff, ↓Checked.exists_seq_accepted,
      ↓Checked.exists_fmap_accepted]
    refine ⟨head, hhead rfl rfl, source, ?_, params, ?_, rfl⟩
    · exact required_given rfl rfl
    · exact optional_given rfl (texts_ofStrings params)
  case dynamicSchema source =>
    refine element_eq_ok (.field .dynamicSchema) ?_ rfl hsense
    simp only [readAttributes, Checked.seq_eq_accepted_iff, ↓Checked.exists_fmap_accepted]
    exact ⟨head, hhead rfl rfl, source, required_given rfl rfl, rfl⟩

/-! ## Elements with elements inside -/

section Containers

variable {es : List Element}

theorem rebuild_array {head : FieldHead} {bounds : ItemBounds}
    (hsense : (Element.array head bounds es).WellFormed) (hes : rebuildAll es = .ok es) :
    rebuild (.array head bounds es) = .ok (.array head bounds es) := by
  have hname : head.name ≠ "" := by
    cases hsense with
    | array name _ _ => exact name
  rw [rebuild, hes]
  refine element_eq_ok (.field .array) ?_ rfl hsense
  simp only [readAttributes, Checked.seq_eq_accepted_iff, ↓Checked.exists_seq_accepted,
    ↓Checked.exists_fmap_accepted]
  refine ⟨head, readHead_given .array hname rfl rfl, es, readChildren_given rfl, bounds.min, ?_,
    bounds.max, ?_, rfl⟩
  · exact optional_given rfl (orNull_boundOrNull bounds.min)
  · exact optional_given rfl (orNull_boundOrNull bounds.max)

theorem rebuild_object {head : FieldHead} (hsense : (Element.object head es).WellFormed)
    (hes : rebuildAll es = .ok es) : rebuild (.object head es) = .ok (.object head es) := by
  have hname : head.name ≠ "" := by
    cases hsense with
    | object name _ => exact name
  rw [rebuild, hes]
  refine element_eq_ok (.field .object) ?_ rfl hsense
  simp only [readAttributes, Checked.seq_eq_accepted_iff, ↓Checked.exists_fmap_accepted]
  exact ⟨head, readHead_given .object hname rfl rfl, es, readChildren_given rfl, rfl⟩

theorem rebuild_group {label : String} (hsense : (Element.group label es).WellFormed)
    (hes : rebuildAll es = .ok es) : rebuild (.group label es) = .ok (.group label es) := by
  rw [rebuild, hes]
  refine element_eq_ok .group ?_ rfl hsense
  simp only [readAttributes, Checked.seq_eq_accepted_iff, ↓Checked.exists_seq_accepted,
    ↓Checked.exists_fmap_accepted]
  refine ⟨(), ?_, label, ?_, es, readChildren_given rfl, rfl⟩
  · exact optional_of_not_given rfl ()
  · exact required_given rfl rfl

theorem rebuild_conditional {test : Predicate} (hsense : (Element.conditional test es).WellFormed)
    (hes : rebuildAll es = .ok es) :
    rebuild (.conditional test es) = .ok (.conditional test es) := by
  have hname : test.field ≠ "" := by
    cases hsense with
    | conditional name _ => exact name
  rw [rebuild, hes]
  refine element_eq_ok .conditional ?_ rfl hsense
  simp only [readAttributes, Checked.seq_eq_accepted_iff, ↓Checked.exists_seq_accepted,
    ↓Checked.exists_fmap_accepted]
  refine ⟨(), ?_, test.field, ?_, test.value, ?_, es, readChildren_given rfl, rfl⟩
  · exact optional_of_not_given rfl ()
  · exact required_given rfl (nonEmptyText_eq_accepted_iff.mpr ⟨rfl, hname⟩)
  · exact optional_given rfl rfl

theorem rebuildAll_eq (h : ∀ e ∈ es, rebuild e = .ok e) : rebuildAll es = .ok es := by
  induction es with
  | nil => rfl
  | cons e es ih =>
    rw [List.forall_mem_cons] at h
    rw [rebuildAll, h.1, ih h.2]
    rfl

end Containers

/-- An element that makes sense is built again as it is. Induction on why it makes sense: the
elements inside it are built before it. -/
theorem rebuild_eq {e : Element} (h : e.WellFormed) : rebuild e = .ok e := by
  induction h with
  | leaf name own => rw [rebuild, rebuildLeaf_eq name own]
  | array name own inner ih => exact rebuild_array (.array name own inner) (rebuildAll_eq ih)
  | object name inner ih => exact rebuild_object (.object name inner) (rebuildAll_eq ih)
  | group inner ih => exact rebuild_group (.group inner) (rebuildAll_eq ih)
  | conditional name inner ih =>
    exact rebuild_conditional (.conditional name inner) (rebuildAll_eq ih)

/-! ## Forms -/

/-- A form is built from elements that are built already. -/
theorem form_built (es : List Element) : form (es.map .element) = .ok ⟨es⟩ := by
  have hread : Form.readMembers (Draft.readMembers [("elements", .list (es.map .element))])
      = .accepted ⟨es⟩ := by
    rw [Form.readMembers, Checked.withFaults_eq_accepted_iff, Checked.fmap_eq_accepted_iff]
    exact ⟨⟨es, readChildren_given rfl, rfl⟩, rfl⟩
  rw [form, hread]
  rfl

theorem rebuildForm_eq {f : Form} (h : f.WellFormed) : rebuildForm f = .ok f := by
  rw [rebuildForm, rebuildAll_eq fun e he => rebuild_eq (h e he)]
  show (form (f.elements.map .element)).mapError RebuildError.record = .ok f
  rw [form_built]
  rfl

/-- **Loading and building agree.** A form that was loaded is built again from its parts, without
an error at any of them, and the outcome is the form. -/
theorem rebuild_loaded {data : Json} {f : Form} (h : Form.load data = .ok f) :
    rebuildForm f = .ok f :=
  rebuildForm_eq (wellFormed_of_load h)

/-- Fields of several kinds inside a conditional and an array, one of them with options that have
labels; the tested value holds nulls. -/
theorem rebuild_loaded_nested :
    let data : Json := .arr [
      .obj [("type", .str "field"), ("kind", .str "number"), ("name", .str "size"),
        ("required", .int 1), ("min", .float 0.5)],
      .obj [("type", .str "conditional"), ("field", .str "size"),
        ("value", .arr [.null, .obj [("unit", .null)]]),
        ("elements", .arr [.obj [("type", .str "field"), ("kind", .str "array"),
          ("name", .str "rows"), ("label", .str "Rows"), ("maxItems", .int 3),
          ("items", .arr [
            .obj [("type", .str "field"), ("kind", .str "static_enum"), ("name", .str "row"),
              ("options", .arr [.obj [("id", .str "a"), ("label", .str "A")]])],
            .obj [("type", .str "field"), ("kind", .str "dynamic_enum"), ("name", .str "city"),
              ("source", .str "cities"), ("params", .arr [.str "row"])]])]])]]
    let f : Form := ⟨[.leaf ⟨"size", none, true⟩ (.number (some (.float 0.5)) none),
      .conditional ⟨"size", .arr [.null, .obj [("unit", .null)]]⟩
        [.array ⟨"rows", some "Rows", false⟩ ⟨none, some 3⟩
          [.leaf ⟨"row", none, false⟩ (.staticEnum (.labelled [⟨"a", "A"⟩])),
            .leaf ⟨"city", none, false⟩ (.dynamicEnum "cities" ["row"])]]]⟩
    Form.load data = .ok f ∧ rebuildForm f = .ok f := by
  intro data f
  have hload : Form.load data = .ok f := rfl
  exact ⟨hload, rebuild_loaded hload⟩

end Builder

end FormSchema
