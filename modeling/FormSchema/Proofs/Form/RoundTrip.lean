import FormSchema.Proofs.Form.Attributes
import FormSchema.Proofs.Form.WellFormed

/-!
# FormSchema — forms come back as they were

A form that makes sense is read from the data that it is written as, in every style: nothing of it
is lost, added or changed, at any depth.

* **`Element.attributes`** — what an element is written as, attribute by attribute, with those that
  hold null; **`dump_eq_record`** — its data are their members.
* **`Tag.nodup_spellings`** — no spelling stands for two attributes of an element, so each of them
  is read as it was written.
* **`readElement_dump`** — an element comes back if it makes sense, by induction on that.
* **`load_dump`** — the statement about forms that were loaded.
-/

namespace FormSchema

open Intake Number

/-! ## Attributes of elements -/

def Element.tag : Element → Tag
  | .leaf _ kind => .field kind.kind
  | .array _ _ _ => .field .array
  | .object _ _ => .field .object
  | .group _ _ => .group
  | .conditional _ _ => .conditional

def FieldHead.attributes (head : FieldHead) (kind : FieldKind) : List (Key × Json) :=
  [(.plain "type", .str "field"), (.plain "name", .str head.name),
    (.plain "label", .ofText? head.label), (.plain "required", .bool head.required),
    (.plain "kind", .str kind.tag)]

def LeafKind.attributes : LeafKind → List (Key × Json)
  | .text placeholder => [(.plain "placeholder", .ofText? placeholder)]
  | .number min max => [(.plain "min", limitOrNull min), (.plain "max", limitOrNull max)]
  | .boolean => []
  | .staticEnum choices => [(.plain "options", choices.toJson)]
  | .dynamicEnum source params =>
    [(.plain "source", .str source), (.plain "params", .ofStrings params)]
  | .dynamicSchema source => [(schemaSourceKey, .str source)]

/-- The attributes of an element in the order in which they are written. -/
def Element.attributes (style : DumpStyle) : Element → List (Key × Json)
  | .leaf head kind => head.attributes kind.kind ++ kind.attributes
  | .array head bounds items =>
    head.attributes .array ++ [(.plain "items", .arr (dumpElements style items)),
      (minItemsKey, boundOrNull bounds.min), (maxItemsKey, boundOrNull bounds.max)]
  | .object head properties =>
    head.attributes .object ++ [(.plain "properties", .arr (dumpElements style properties))]
  | .group label elements =>
    [(.plain "type", .str "group"), (.plain "label", .str label),
      (.plain "elements", .arr (dumpElements style elements))]
  | .conditional test elements =>
    [(.plain "type", .str "conditional"), (.plain "field", .str test.field),
      (.plain "value", test.value), (.plain "elements", .arr (dumpElements style elements))]

theorem Element.keys_attributes (style : DumpStyle) (e : Element) :
    (e.attributes style).map (·.1) = e.tag.keys := by
  cases e with
  | leaf head kind => cases kind <;> rfl
  | _ => rfl

theorem Tag.nodup_spellings (tag : Tag) : (tag.keys.flatMap Key.spellings).Nodup := by
  rcases tag with kind | _ | _
  · cases kind <;> decide
  · decide
  · decide

theorem Element.unmixed_attributes (style : DumpStyle) (e : Element) :
    Unmixed (e.attributes style) := by
  have h := e.tag.nodup_spellings
  rwa [← e.keys_attributes style, List.flatMap_map] at h

/-! ## What elements are written as -/

namespace DumpStyle

variable (style : DumpStyle)

@[simp] theorem spelling_plain (name : String) : style.spelling (.plain name) = name := by
  simp [spelling, Key.plain]

theorem spelled_eq (documented alternative : String) (value : Json) :
    style.spelled documented alternative value
      = style.member (style.spelling ⟨documented, some alternative⟩) value := rfl

@[simp] theorem member_str (key s : String) : style.member key (.str s) = [(key, .str s)] := rfl

@[simp] theorem member_bool (key : String) (b : Bool) :
    style.member key (.bool b) = [(key, .bool b)] := rfl

@[simp] theorem member_arr (key : String) (items : List Json) :
    style.member key (.arr items) = [(key, .arr items)] := rfl

theorem record_append (xs ys : List (Key × Json)) :
    style.record (xs ++ ys) = style.record xs ++ style.record ys := List.flatMap_append

end DumpStyle

theorem FieldHead.record_attributes (style : DumpStyle) (head : FieldHead) (kind : FieldKind) :
    style.record (head.attributes kind) = head.dump style ++ kind.dump := by
  simp [FieldHead.attributes, FieldHead.dump, FieldKind.dump]

theorem LeafKind.record_attributes (style : DumpStyle) (kind : LeafKind) :
    style.record kind.attributes = kind.dump style := by
  cases kind with
  | staticEnum choices => cases choices <;> simp [attributes, dump, Choices.toJson, Json.ofStrings]
  | dynamicSchema source => simp [attributes, dump, schemaSourceKey, DumpStyle.spelled_eq]
  | _ => simp [attributes, dump, Json.ofStrings]

theorem dump_eq_record (style : DumpStyle) (e : Element) :
    e.dump style = .obj (style.record (e.attributes style)) := by
  cases e with
  | leaf head kind =>
    rw [Element.dump, Element.attributes, DumpStyle.record_append, FieldHead.record_attributes,
      LeafKind.record_attributes]
  | array head bounds items =>
    rw [Element.dump, Element.attributes, DumpStyle.record_append, FieldHead.record_attributes]
    simp [ItemBounds.dump, minItemsKey, maxItemsKey, DumpStyle.spelled_eq]
  | object head properties =>
    rw [Element.dump, Element.attributes, DumpStyle.record_append, FieldHead.record_attributes]
    simp
  | group label elements => simp [Element.dump, Element.attributes]
  | conditional test elements => simp [Element.dump, Element.attributes]

/-! ## Single attributes come back -/

@[simp] theorem exactly_str (word : String) : exactly word (.str word) = .accepted () := by
  simp [exactly, Intake.word]

theorem ofText?_eq_getD (s : Option String) : Json.ofText? s = (s.map Json.str).getD .null := by
  cases s <;> rfl

theorem limit_toJson (l : Limit) : limit l.toJson = .accepted l := by
  cases l <;> rfl

theorem limit_toJson_ne_null (l : Limit) : l.toJson ≠ .null := by
  cases l <;> simp [Limit.toJson]

theorem Choices.toJson_ne_null (choices : Choices) : choices.toJson ≠ .null := by
  cases choices <;> simp [toJson, Json.ofStrings]

@[simp] theorem texts_ofStrings (ss : List String) : texts (.ofStrings ss) = .accepted ss := by
  rw [Json.ofStrings, texts, Checked.each, Checked.eachFrom_eq_accepted_iff,
    List.forall₂_map_left_iff]
  exact List.forall₂_same.mpr fun s _ => rfl

/-! ## Elements come back -/

section Records

variable {style : DumpStyle} {attributes : List (Key × Json)}

theorem getD_record {name : String} {value : Json} (hunmixed : Unmixed attributes)
    (hmem : (.plain name, value) ∈ attributes) :
    (Json.obj (style.record attributes)).getD name = value := by
  have hname : name ∈ (Key.plain name).spellings := List.mem_cons_self
  rw [Json.getD, Json.get?, get?_record style hunmixed hmem hname, style.spelling_plain, if_pos rfl]
  rcases style.written?_eq_some_or value with h | ⟨h, hvalue⟩
  · rw [h, Option.getD_some]
  · rw [h, hvalue, Option.getD_none]

theorem tagValue_record_field {head : FieldHead} {kind : FieldKind} (hunmixed : Unmixed attributes)
    (hhead : head.attributes kind ⊆ attributes) :
    tagValue (.obj (style.record attributes)) = .str kind.tag := by
  have htype : (Json.obj (style.record attributes)).getD "type" = .str "field" :=
    getD_record hunmixed (hhead (by simp [FieldHead.attributes]))
  have hkind : (Json.obj (style.record attributes)).getD "kind" = .str kind.tag :=
    getD_record hunmixed (hhead (by simp [FieldHead.attributes]))
  rw [tagValue, htype]
  exact hkind

theorem readHead_record (style : DumpStyle) {head : FieldHead} {kind : FieldKind}
    (hunmixed : Unmixed attributes) (hhead : head.attributes kind ⊆ attributes)
    (hname : head.name ≠ "") :
    readHead kind (readMembers (style.record attributes)) = .accepted head := by
  have htype : (.plain "type", .str "field") ∈ attributes :=
    hhead (by simp [FieldHead.attributes])
  have hnamed : (.plain "name", .str head.name) ∈ attributes :=
    hhead (by simp [FieldHead.attributes])
  have hlabel : (.plain "label", (head.label.map Json.str).getD .null) ∈ attributes :=
    hhead (by simp [FieldHead.attributes, ofText?_eq_getD])
  have hrequired : (.plain "required", .bool head.required) ∈ attributes :=
    hhead (by simp [FieldHead.attributes])
  have hkind : (.plain "kind", .str kind.tag) ∈ attributes :=
    hhead (by simp [FieldHead.attributes])
  rw [readHead_eq_accepted_iff]
  refine ⟨?_, ?_, ?_, ?_, ?_⟩
  · exact optional_record hunmixed htype (exactly_str _) (by simp)
  · exact required_record hunmixed hnamed (nonEmptyText_eq_accepted_iff.mpr ⟨rfl, hname⟩) (by simp)
  · exact optional_orNull_record hunmixed hlabel (fun _ => rfl) (by simp)
  · exact optional_record hunmixed hrequired rfl (by simp)
  · exact optional_record hunmixed hkind (exactly_str _) (by simp)

theorem readChildren_record {name : String} {children : List Json} {es : List Element}
    (hunmixed : Unmixed attributes) (hmem : (.plain name, .arr children) ∈ attributes)
    (hchildren : readElements (.arr children) = .accepted es) :
    readChildren name (readMembers (style.record attributes)) = .accepted es :=
  optional_record hunmixed hmem hchildren (by simp)

/-- A leaf is read if its attributes are written, whatever else is. -/
theorem readAttributes_leaf {head : FieldHead} {kind : LeafKind} (hunmixed : Unmixed attributes)
    (hhead : head.attributes kind.kind ⊆ attributes) (hown : kind.attributes ⊆ attributes)
    (hname : head.name ≠ "") (hkind : kind.WellFormed) :
    readAttributes (.field kind.kind) (readMembers (style.record attributes))
      = .accepted (.leaf head kind) := by
  have hread := readHead_record style hunmixed hhead hname
  cases kind
  all_goals
    simp only [LeafKind.attributes, List.cons_subset, ofText?_eq_getD, limitOrNull] at hown
    simp only [LeafKind.kind, readAttributes, Checked.seq_eq_accepted_iff,
      Checked.fmap_eq_accepted_iff, ↓Checked.exists_seq_accepted, ↓Checked.exists_fmap_accepted]
    refine ⟨head, hread, ?_⟩
  case text placeholder =>
    refine ⟨placeholder, ?_, rfl⟩
    exact optional_orNull_record hunmixed hown.1 (fun _ => rfl) (by simp)
  case number min max =>
    refine ⟨min, ?_, max, ?_, rfl⟩
    · exact optional_orNull_record hunmixed hown.1 limit_toJson limit_toJson_ne_null
    · exact optional_orNull_record hunmixed hown.2.1 limit_toJson limit_toJson_ne_null
  case boolean => rfl
  case staticEnum choices =>
    refine ⟨choices, ?_, rfl⟩
    exact required_record hunmixed hown.1 (readChoices_toJson hkind _) choices.toJson_ne_null
  case dynamicEnum source params =>
    refine ⟨source, ?_, params, ?_, rfl⟩
    · exact required_reading_record hunmixed hown.1 rfl (by simp)
    · exact optional_reading_record hunmixed hown.2.1 (texts_ofStrings _) (by simp [Json.ofStrings])
  case dynamicSchema source =>
    refine ⟨source, ?_, rfl⟩
    exact required_reading_record hunmixed hown.1 rfl (by simp)

end Records

theorem tagValue_record (style : DumpStyle) (e : Element) :
    tagValue (.obj (style.record (e.attributes style))) = .str e.tag.name := by
  have hunmixed := e.unmixed_attributes style
  cases e with
  | leaf head kind => exact tagValue_record_field hunmixed (List.subset_append_left _ _)
  | array head bounds items => exact tagValue_record_field hunmixed (List.subset_append_left _ _)
  | object head properties => exact tagValue_record_field hunmixed (List.subset_append_left _ _)
  | group label elements =>
    rw [tagValue, getD_record hunmixed List.mem_cons_self]
    rfl
  | conditional test elements =>
    rw [tagValue, getD_record hunmixed List.mem_cons_self]
    rfl

theorem readElements_dumpElements {style : DumpStyle} {es : List Element}
    (h : ∀ e ∈ es, readElement (e.dump style) = .accepted e) :
    readElements (.arr (dumpElements style es)) = .accepted es := by
  have hitems (position : Nat) :
      readItems position (dumpElements style es) = .accepted es := by
    induction es generalizing position with
    | nil => rfl
    | cons e es ih =>
      rw [List.forall_mem_cons] at h
      simp [dumpElements, readItems, h.1, ih h.2]
  exact hitems 0

section Elements

variable {style : DumpStyle} {es : List Element}

theorem readAttributes_array {head : FieldHead} (bounds : ItemBounds) (hname : head.name ≠ "")
    (hes : readElements (.arr (dumpElements style es)) = .accepted es) :
    readAttributes (.field .array)
        (readMembers (style.record ((Element.array head bounds es).attributes style)))
      = .accepted (.array head bounds es) := by
  have hunmixed := (Element.array head bounds es).unmixed_attributes style
  have hread := readHead_record style hunmixed (List.subset_append_left _ _) hname
  have hitems : (.plain "items", .arr (dumpElements style es))
      ∈ (Element.array head bounds es).attributes style := by
    simp [Element.attributes]
  have hmin : (minItemsKey, (bounds.min.map Json.int).getD .null)
      ∈ (Element.array head bounds es).attributes style := by
    simp [Element.attributes, boundOrNull]
  have hmax : (maxItemsKey, (bounds.max.map Json.int).getD .null)
      ∈ (Element.array head bounds es).attributes style := by
    simp [Element.attributes, boundOrNull]
  simp only [readAttributes, Checked.seq_eq_accepted_iff, ↓Checked.exists_seq_accepted,
    ↓Checked.exists_fmap_accepted]
  refine ⟨head, hread, es, ?_, bounds.min, ?_, bounds.max, ?_, rfl⟩
  · exact readChildren_record hunmixed hitems hes
  · exact optional_orNull_record hunmixed hmin (fun _ => rfl) (by simp)
  · exact optional_orNull_record hunmixed hmax (fun _ => rfl) (by simp)

theorem readAttributes_object {head : FieldHead} (hname : head.name ≠ "")
    (hes : readElements (.arr (dumpElements style es)) = .accepted es) :
    readAttributes (.field .object)
        (readMembers (style.record ((Element.object head es).attributes style)))
      = .accepted (.object head es) := by
  have hunmixed := (Element.object head es).unmixed_attributes style
  have hread := readHead_record style hunmixed (List.subset_append_left _ _) hname
  have hproperties : (.plain "properties", .arr (dumpElements style es))
      ∈ (Element.object head es).attributes style := by
    simp [Element.attributes]
  simp only [readAttributes, Checked.seq_eq_accepted_iff, ↓Checked.exists_fmap_accepted]
  exact ⟨head, hread, es, readChildren_record hunmixed hproperties hes, rfl⟩

theorem readAttributes_group (label : String)
    (hes : readElements (.arr (dumpElements style es)) = .accepted es) :
    readAttributes .group (readMembers (style.record ((Element.group label es).attributes style)))
      = .accepted (.group label es) := by
  have hunmixed := (Element.group label es).unmixed_attributes style
  simp only [readAttributes, Checked.seq_eq_accepted_iff, ↓Checked.exists_seq_accepted,
    ↓Checked.exists_fmap_accepted]
  have hlabel : (.plain "label", .str label) ∈ (Element.group label es).attributes style := by
    simp [Element.attributes]
  refine ⟨(), ?_, label, ?_, es, ?_, rfl⟩
  · exact optional_reading_record hunmixed (by simp [Element.attributes]) (exactly_str _) (by simp)
  · exact required_reading_record hunmixed hlabel rfl (by simp)
  · exact readChildren_record hunmixed (by simp [Element.attributes]) hes

theorem readAttributes_conditional {test : Predicate} (hname : test.field ≠ "")
    (hes : readElements (.arr (dumpElements style es)) = .accepted es) :
    readAttributes .conditional
        (readMembers (style.record ((Element.conditional test es).attributes style)))
      = .accepted (.conditional test es) := by
  have hunmixed := (Element.conditional test es).unmixed_attributes style
  simp only [readAttributes, Checked.seq_eq_accepted_iff, ↓Checked.exists_seq_accepted,
    ↓Checked.exists_fmap_accepted]
  refine ⟨(), ?_, test.field, ?_, test.value, ?_, es, ?_, rfl⟩
  · exact optional_reading_record hunmixed (by simp [Element.attributes]) (exactly_str _) (by simp)
  · exact required_reading_record hunmixed (by simp [Element.attributes])
      (nonEmptyText_eq_accepted_iff.mpr ⟨rfl, hname⟩) (by simp)
  · exact optional_reading_record hunmixed (by simp [Element.attributes]) rfl id
  · exact readChildren_record hunmixed (by simp [Element.attributes]) hes

end Elements

/-- An element comes back if it makes sense and its attributes come back. -/
theorem readElement_of_attributes {style : DumpStyle} {e : Element} (h : e.WellFormed)
    (hread : readAttributes e.tag (readMembers (style.record (e.attributes style)))
      = .accepted e) : readElement (e.dump style) = .accepted e := by
  have hknown : unknownKeys e.tag.keys (readMembers (style.record (e.attributes style))) = [] := by
    rw [← e.keys_attributes style]
    exact unknownKeys_record (e.unmixed_attributes style)
  have htagged : readTagged e.tag (readMembers (style.record (e.attributes style)))
      = .accepted e := by
    rw [readTagged_eq_accepted_iff]
    exact ⟨hread, hknown, h.misconfiguration?⟩
  rw [dump_eq_record, readElement, readByTag_eq_accepted_iff]
  exact ⟨_, e.tag, tagValue_record style e, e.tag.ofName?_name, htagged⟩

theorem readElement_dump (style : DumpStyle) {e : Element} (h : e.WellFormed) :
    readElement (e.dump style) = .accepted e := by
  induction h with
  | leaf hname hown =>
    refine readElement_of_attributes (.leaf hname hown) ?_
    exact readAttributes_leaf (Element.unmixed_attributes style _) (List.subset_append_left _ _)
      (List.subset_append_right _ _) hname hown
  | @array _ bounds _ hname hown hitems ih =>
    refine readElement_of_attributes (.array hname hown hitems) ?_
    exact readAttributes_array bounds hname (readElements_dumpElements ih)
  | object hname hproperties ih =>
    refine readElement_of_attributes (.object hname hproperties) ?_
    exact readAttributes_object hname (readElements_dumpElements ih)
  | @group label _ helements ih =>
    refine readElement_of_attributes (.group helements) ?_
    exact readAttributes_group label (readElements_dumpElements ih)
  | conditional hname helements ih =>
    refine readElement_of_attributes (.conditional hname helements) ?_
    exact readAttributes_conditional hname (readElements_dumpElements ih)

/-! ## Forms come back -/

theorem load_dump_of_wellFormed (style : DumpStyle) {form : Form} (h : form.WellFormed) :
    Form.load (form.dump style) = .ok form := by
  have hes : readElements (.arr (dumpElements style form.elements)) = .accepted form.elements :=
    readElements_dumpElements fun e he => readElement_dump style (h e he)
  have hunmixed : Unmixed [(.plain "elements", .arr (dumpElements style form.elements))] := by
    simp [Unmixed, Key.spellings, Key.plain]
  have hdump : form.dump style
      = .obj (style.record [(.plain "elements", .arr (dumpElements style form.elements))]) := by
    simp [Form.dump]
  have hread : Form.read (form.dump style) = .accepted form := by
    rw [hdump, Form.read, Form.readMembers, Checked.withFaults_eq_accepted_iff,
      Checked.fmap_eq_accepted_iff]
    refine ⟨⟨form.elements, readChildren_record hunmixed List.mem_cons_self hes, rfl⟩, ?_⟩
    exact unknownKeys_record hunmixed
  have hload : Form.load (form.dump style)
      = ((Form.read (form.dump style)).toExcept "FormSpec").mapError .record := rfl
  rw [hload, toExcept_mapError_eq_ok_iff]
  exact hread

/-- A form that was loaded is loaded from what it is written as, in every style. -/
theorem load_dump {data : Json} {form : Form} (h : Form.load data = .ok form)
    (style : DumpStyle) : Form.load (form.dump style) = .ok form :=
  load_dump_of_wellFormed style (wellFormed_of_load h)

/-- Nulls inside a tested value are kept where nulls are left out, and a bound given under its other
spelling comes back under the documented one. -/
theorem load_dump_nested :
    let form : Form := ⟨[.leaf ⟨"size", none, true⟩ (.number (some (.float 0.5)) none),
      .conditional ⟨"size", .arr [.null, .obj [("unit", .null)]]⟩
        [.array ⟨"rows", some "Rows", false⟩ ⟨some 1, some 3⟩
          [.leaf ⟨"row", none, false⟩ (.staticEnum (.labelled [⟨"a", "A"⟩]))]]]⟩
    Form.load (form.dump ⟨true, false⟩) = .ok form :=
  load_dump (show Form.load (.arr [
      .obj [("type", .str "field"), ("kind", .str "number"), ("name", .str "size"),
        ("required", .int 1), ("min", .float 0.5)],
      .obj [("type", .str "conditional"), ("field", .str "size"),
        ("value", .arr [.null, .obj [("unit", .null)]]),
        ("elements", .arr [.obj [("type", .str "field"), ("kind", .str "array"),
          ("name", .str "rows"), ("label", .str "Rows"), ("min_items", .int 1),
          ("maxItems", .str "3"), ("items", .arr [.obj [("type", .str "field"),
            ("kind", .str "static_enum"), ("name", .str "row"),
            ("options", .arr [.obj [("id", .str "a"), ("label", .str "A")]])]])]])]])
    = .ok _ from rfl) ⟨true, false⟩

end FormSchema
