import FormSchema.Form.Reader
import FormSchema.Proofs.Form.Options
import FormSchema.Proofs.Intake.Accepted

/-!
# FormSchema — well-formed forms

What reading a form makes sure of, at every depth: fields and tests have names, static choices have
options of one kind, and limits and bounds leave room for a value.

* **`Element.WellFormed`** — the conditions on an element and all elements inside it.
* **`wellFormed_of_readTagged`** — an element that was read meets them if what is inside does; one
  case for each tag, from what its attributes accept.
* **`wellFormed_of_readElement`** — so every element that was read meets them. The induction is on
  the data.
* **`wellFormed_of_load`** — the statement about whole forms.
-/

namespace FormSchema

open Intake

/-! ## Conditions -/

def LeafKind.WellFormed : LeafKind → Prop
  | .number min max => ∀ a ∈ min, ∀ b ∈ max, a.exceeds b = false
  | .staticEnum choices => choices.WellFormed
  | _ => True

structure ItemBounds.WellFormed (bounds : ItemBounds) : Prop where
  min_nonneg : ∀ n ∈ bounds.min, 0 ≤ n
  max_nonneg : ∀ n ∈ bounds.max, 0 ≤ n
  ordered : ∀ m ∈ bounds.min, ∀ n ∈ bounds.max, m ≤ n

/-- An element makes sense, and so does every element inside it. -/
inductive Element.WellFormed : Element → Prop where
  | leaf {head : FieldHead} {kind : LeafKind} (name : head.name ≠ "") (own : kind.WellFormed) :
      WellFormed (.leaf head kind)
  | array {head : FieldHead} {bounds : ItemBounds} {items : List Element} (name : head.name ≠ "")
      (own : bounds.WellFormed) (inner : ∀ e ∈ items, WellFormed e) :
      WellFormed (.array head bounds items)
  | object {head : FieldHead} {properties : List Element} (name : head.name ≠ "")
      (inner : ∀ e ∈ properties, WellFormed e) : WellFormed (.object head properties)
  | group {label : String} {elements : List Element} (inner : ∀ e ∈ elements, WellFormed e) :
      WellFormed (.group label elements)
  | conditional {test : Predicate} {elements : List Element} (name : test.field ≠ "")
      (inner : ∀ e ∈ elements, WellFormed e) : WellFormed (.conditional test elements)

def Form.WellFormed (form : Form) : Prop := ∀ e ∈ form.elements, e.WellFormed

/-! ## Single attributes -/

theorem nonEmptyText_eq_accepted_iff {value : Json} {s : String} :
    nonEmptyText value = .accepted s ↔ value = .str s ∧ s ≠ "" := by
  cases value with
  | str t =>
    by_cases ht : t = ""
    · simp [nonEmptyText, ht]
    · simp [nonEmptyText, ht]
      grind
  | _ => simp [nonEmptyText]

theorem rangeMisconfiguration?_eq_none_iff {name : String} {min max : Option Number.Limit} :
    rangeMisconfiguration? name min max = none ↔ (LeafKind.number min max).WellFormed := by
  cases min <;> cases max <;> simp [rangeMisconfiguration?, LeafKind.WellFormed]

theorem boundsMisconfiguration?_eq_none_iff {name : String} {bounds : ItemBounds} :
    boundsMisconfiguration? name bounds = none ↔ bounds.WellFormed := by
  obtain ⟨min, max⟩ := bounds
  have hiff : (ItemBounds.mk min max).WellFormed ↔ (∀ n ∈ min, 0 ≤ n) ∧ (∀ n ∈ max, 0 ≤ n)
      ∧ ∀ m ∈ min, ∀ n ∈ max, m ≤ n :=
    ⟨fun h => ⟨h.min_nonneg, h.max_nonneg, h.ordered⟩, fun h => ⟨h.1, h.2.1, h.2.2⟩⟩
  rw [hiff, boundsMisconfiguration?]
  cases min <;> cases max <;> simp
  grind

/-! ## Elements -/

theorem readHead_eq_accepted_iff {kind : FieldKind} {members : Entries Member} {head : FieldHead} :
    readHead kind members = .accepted head
      ↔ optional (.plain "type") () (reading (exactly "field")) members = .accepted ()
        ∧ readName members = .accepted head.name
        ∧ optional (.plain "label") none (reading (orNull text)) members = .accepted head.label
        ∧ optional (.plain "required") false (reading flag) members = .accepted head.required
        ∧ optional (.plain "kind") () (reading (exactly kind.tag)) members = .accepted () := by
  obtain ⟨name, label, required⟩ := head
  simp only [readHead, readPlainHead, Checked.seq_eq_accepted_iff,
    ↓Checked.exists_seq_accepted, ↓Checked.exists_fmap_accepted]
  constructor
  · rintro ⟨_, htype, _, hname, _, hlabel, _, hrequired, _, hkind, heq⟩
    cases heq
    exact ⟨htype, hname, hlabel, hrequired, hkind⟩
  · rintro ⟨htype, hname, hlabel, hrequired, hkind⟩
    exact ⟨_, htype, _, hname, _, hlabel, _, hrequired, _, hkind, rfl⟩

theorem ne_empty_of_readHead {kind : FieldKind} {members : Entries Member} {head : FieldHead}
    (h : readHead kind members = .accepted head) : head.name ≠ "" := by
  obtain ⟨-, hname, -⟩ := readHead_eq_accepted_iff.mp h
  obtain ⟨_, value, _, hread⟩ := required_eq_accepted_iff.mp hname
  exact (nonEmptyText_eq_accepted_iff.mp hread).2

/-- Children are elements that a member was read as. -/
theorem wellFormed_of_readChildren {key : String} {members : Entries Member} {es : List Element}
    (hmembers : ∀ m ∈ members, ∀ es, m.2.elements = .accepted es → ∀ e ∈ es, e.WellFormed)
    (h : readChildren key members = .accepted es) : ∀ e ∈ es, e.WellFormed := by
  rcases optional_eq_accepted_iff.mp h with ⟨_, rfl⟩ | ⟨name, value, hfind, hread⟩
  · simp
  · exact hmembers (name, value) (Key.mem_of_find? hfind) es hread

theorem Element.WellFormed.misconfiguration? {e : Element} (h : e.WellFormed) :
    e.misconfiguration? = none := by
  cases h with
  | @leaf head kind _ hkind =>
    cases kind with
    | number min max => exact rangeMisconfiguration?_eq_none_iff.mpr hkind
    | _ => rfl
  | array _ hbounds _ => exact boundsMisconfiguration?_eq_none_iff.mpr hbounds
  | _ => rfl

theorem readTagged_eq_accepted_iff {tag : Tag} {members : Entries Member} {e : Element} :
    readTagged tag members = .accepted e ↔ readAttributes tag members = .accepted e
      ∧ unknownKeys tag.keys members = [] ∧ e.misconfiguration? = none := by
  rw [readTagged, Checked.verify_eq_accepted_iff, Checked.withFaults_eq_accepted_iff, and_assoc]

/-- An element that was read makes sense if the elements of its members do. -/
theorem wellFormed_of_readTagged {tag : Tag} {members : Entries Member} {e : Element}
    (hmembers : ∀ m ∈ members, ∀ es, m.2.elements = .accepted es → ∀ e ∈ es, e.WellFormed)
    (h : readTagged tag members = .accepted e) : e.WellFormed := by
  obtain ⟨hread, -, hsense⟩ := readTagged_eq_accepted_iff.mp h
  rcases tag with (_ | _ | _ | _ | _ | _ | _ | _) | _ | _
  all_goals
    simp only [readAttributes, Checked.seq_eq_accepted_iff, Checked.fmap_eq_accepted_iff,
      ↓Checked.exists_seq_accepted, ↓Checked.exists_fmap_accepted] at hread
  case field.text =>
    obtain ⟨head, hhead, _, _, rfl⟩ := hread
    exact .leaf (ne_empty_of_readHead hhead) trivial
  case field.number =>
    obtain ⟨head, hhead, min, _, max, _, rfl⟩ := hread
    exact .leaf (ne_empty_of_readHead hhead) (rangeMisconfiguration?_eq_none_iff.mp hsense)
  case field.boolean =>
    obtain ⟨head, hhead, rfl⟩ := hread
    exact .leaf (ne_empty_of_readHead hhead) trivial
  case field.staticEnum =>
    obtain ⟨head, hhead, choices, hchoices, rfl⟩ := hread
    obtain ⟨_, _, _, hchoices⟩ := required_eq_accepted_iff.mp hchoices
    obtain ⟨_, _, hlisted⟩ := readChoices_eq_accepted_iff.mp hchoices
    exact .leaf (ne_empty_of_readHead hhead) hlisted.wellFormed
  case field.dynamicEnum =>
    obtain ⟨head, hhead, _, _, _, _, rfl⟩ := hread
    exact .leaf (ne_empty_of_readHead hhead) trivial
  case field.dynamicSchema =>
    obtain ⟨head, hhead, _, _, rfl⟩ := hread
    exact .leaf (ne_empty_of_readHead hhead) trivial
  case field.array =>
    obtain ⟨head, hhead, items, hitems, _, _, _, _, rfl⟩ := hread
    exact .array (ne_empty_of_readHead hhead) (boundsMisconfiguration?_eq_none_iff.mp hsense)
      (wellFormed_of_readChildren hmembers hitems)
  case field.object =>
    obtain ⟨head, hhead, properties, hproperties, rfl⟩ := hread
    exact .object (ne_empty_of_readHead hhead) (wellFormed_of_readChildren hmembers hproperties)
  case group =>
    obtain ⟨_, _, label, _, elements, helements, rfl⟩ := hread
    exact .group (wellFormed_of_readChildren hmembers helements)
  case conditional =>
    obtain ⟨_, _, field, hfield, value, _, elements, helements, rfl⟩ := hread
    obtain ⟨_, _, _, hfield⟩ := required_eq_accepted_iff.mp hfield
    exact .conditional (nonEmptyText_eq_accepted_iff.mp hfield).2
      (wellFormed_of_readChildren hmembers helements)

theorem readByTag_eq_accepted_iff {value : Json} {members : Entries Member} {e : Element} :
    readByTag value members = .accepted e ↔ ∃ name tag, value = .str name
      ∧ Tag.ofName? name = some tag ∧ readTagged tag members = .accepted e := by
  cases value with
  | str name => cases htag : Tag.ofName? name <;> simp [readByTag, htag]
  | _ => simp [readByTag]

mutual

theorem wellFormed_of_readElement {value : Json} {e : Element}
    (h : readElement value = .accepted e) : e.WellFormed := by
  cases value with
  | obj members =>
    rw [readElement] at h
    obtain ⟨_, _, _, _, hread⟩ := readByTag_eq_accepted_iff.mp h
    exact wellFormed_of_readTagged (wellFormed_of_readMembers members) hread
  | _ => simp [readElement] at h

theorem wellFormed_of_readElements {value : Json} {es : List Element}
    (h : readElements value = .accepted es) : ∀ e ∈ es, e.WellFormed := by
  cases value with
  | arr items =>
    rw [readElements] at h
    exact wellFormed_of_readItems items h
  | _ => simp [readElements] at h

theorem wellFormed_of_readItems (items : List Json) {position : Nat} {es : List Element}
    (h : readItems position items = .accepted es) : ∀ e ∈ es, e.WellFormed := by
  cases items with
  | nil =>
    rw [readItems] at h
    cases h
    simp
  | cons item rest =>
    simp only [readItems, Checked.map_eq_accepted_iff, Checked.both_eq_accepted_iff,
      Checked.under_eq_accepted_iff] at h
    obtain ⟨⟨e, es⟩, ⟨he, hes⟩, rfl⟩ := h
    rintro _ (_ | ⟨_, hmem⟩)
    · exact wellFormed_of_readElement he
    · exact wellFormed_of_readItems rest hes _ hmem

theorem wellFormed_of_readMembers (members : List (String × Json)) :
    ∀ m ∈ readMembers members, ∀ es, m.2.elements = .accepted es → ∀ e ∈ es, e.WellFormed := by
  match members with
  | [] => simp [readMembers]
  | (key, value) :: rest =>
    rw [readMembers]
    rintro _ (_ | ⟨_, hm⟩) es hread
    · exact wellFormed_of_readElements hread
    · exact wellFormed_of_readMembers rest _ hm es hread

end

theorem toExcept_mapError_eq_ok_iff {α : Type} {title : String} {r : Checked α} {a : α} :
    (r.toExcept title).mapError LoadError.record = .ok a ↔ r = .accepted a := by
  cases r <;> simp [Checked.toExcept, Except.mapError]

/-- A form that was loaded was read from an object: from the data, or from what its text says. -/
theorem exists_read_of_load {data : Json} {form : Form} (h : Form.load data = .ok form) :
    ∃ members, Form.read (.obj members) = .accepted form := by
  cases data with
  | obj members => exact ⟨members, toExcept_mapError_eq_ok_iff.mp h⟩
  | arr items => exact ⟨[("elements", .arr items)], toExcept_mapError_eq_ok_iff.mp h⟩
  | str source =>
    cases hparse : Json.parse source with
    | error error =>
      rw [Form.load, hparse] at h
      cases h
    | ok value =>
      rw [Form.load, hparse] at h
      cases value with
      | obj members => exact ⟨members, toExcept_mapError_eq_ok_iff.mp h⟩
      | arr items => exact ⟨[("elements", .arr items)], toExcept_mapError_eq_ok_iff.mp h⟩
      | _ => cases h
  | _ => cases h

/-- A form that was loaded makes sense at every depth. -/
theorem wellFormed_of_load {data : Json} {form : Form} (h : Form.load data = .ok form) :
    form.WellFormed := by
  obtain ⟨members, hread⟩ := exists_read_of_load h
  simp only [Form.read, Form.readMembers, Checked.withFaults_eq_accepted_iff,
    Checked.fmap_eq_accepted_iff] at hread
  obtain ⟨⟨elements, helements, rfl⟩, -⟩ := hread
  exact wellFormed_of_readChildren (wellFormed_of_readMembers members) helements

end FormSchema
