import FormSchema.Proofs.Form.Composition

/-!
# FormSchema — loading the options of a static choice

Whatever stands as the options of a field, loading the field ends in one of three ways. Which one
it is follows from the items alone: options that make no sense end it whatever else is wrong with
the field, labelled options with further keys are faults, and all others are the choices.

* **`Misfit`** — the values that make no sense as options, by what is wrong with them.
* **`misfit_iff`** — all others list items, which are either all texts or all labelled.
* **`isSome_refusal?_iff_misfit`**, **`exists_listedBy`** — the reading of the options.
* **`withOptions`** — a field with its options replaced. **`readElement_withOptions`** — its other
  attributes are read as before.
* **`misconfigured_withOptions_iff`**, **`outcome_withOptions`** — how loading it ends.
* **`loading_options`** — the statement about all values.
-/

namespace FormSchema

open Intake Checked

/-! ## Values as options -/

inductive Json.IsText : Json → Prop where
  | str (s : String) : IsText (.str s)

/-- The items of a list, or the keys of an object. -/
def listedItems? : Json → Option (List Json)
  | .arr items => some items
  | .obj members => some ((Entries.names members).map .str)
  | _ => none

/-- An item is an object that has a text as its id and one as its label, neither of them empty. -/
structure Labels (item : Json) (option : EnumOption) : Prop where
  id : item.get? "id" = some (.str option.id)
  label : item.get? "label" = some (.str option.label)
  id_nonempty : option.id ≠ ""
  label_nonempty : option.label ≠ ""

/-- An item is an object with a key that options do not have. -/
def HasOtherKey (item : Json) : Prop :=
  ∃ members, item = .obj members ∧ ∃ key ∈ Entries.names members, key ≠ "id" ∧ key ≠ "label"

/-- A value makes no sense as the options of a field. -/
inductive Misfit (v : Json) : Prop where
  | notListed (notListed : listedItems? v = none)
  | noItems (listed : listedItems? v = some [])
  | mixed {items : List Json} {a b : Json} (listed : listedItems? v = some items)
      (ha : a ∈ items) (text : a.IsText) (hb : b ∈ items) (other : ¬b.IsText)
  | unlabelled {items : List Json} {item : Json} (listed : listedItems? v = some items)
      (noText : ∀ i ∈ items, ¬i.IsText) (hitem : item ∈ items) (unlabelled : ¬∃ o, Labels item o)

/-- Items agree on the kind of options they are. -/
def Uniform (items : List Json) : Prop :=
  (∀ item ∈ items, item.IsText) ∨ ∀ item ∈ items, ¬item.IsText ∧ ∃ option, Labels item option

/-- All other values list items of one kind. -/
theorem misfit_iff {v : Json} :
    Misfit v ↔ ¬∃ items, listedItems? v = some items ∧ items ≠ [] ∧ Uniform items := by
  constructor
  · rintro h ⟨items, hitems, hne, huniform⟩
    cases h with
    | notListed hnone => exact absurd (hnone.symm.trans hitems) nofun
    | noItems hempty => exact hne (Option.some.inj (hitems.symm.trans hempty))
    | mixed hlisted ha htext hb hother =>
      cases hitems.symm.trans hlisted
      rcases huniform with htexts | hobjects
      · exact hother (htexts _ hb)
      · exact (hobjects _ ha).1 htext
    | unlabelled hlisted hnoText hitem hunlabelled =>
      cases hitems.symm.trans hlisted
      rcases huniform with htexts | hobjects
      · exact hnoText _ hitem (htexts _ hitem)
      · exact hunlabelled (hobjects _ hitem).2
  · intro h
    cases hitems : listedItems? v with
    | none => exact .notListed hitems
    | some items =>
      by_cases hne : items = []
      · exact .noItems (hne ▸ hitems)
      have hnot : ¬Uniform items := fun huniform => h ⟨items, hitems, hne, huniform⟩
      obtain ⟨htexts, hobjects⟩ := not_or.mp hnot
      push Not at htexts hobjects
      obtain ⟨b, hb, hother⟩ := htexts
      by_cases hnoText : ∀ i ∈ items, ¬i.IsText
      · obtain ⟨item, hitem, hunlabelled⟩ := hobjects
        exact .unlabelled hitems hnoText hitem fun ⟨o, ho⟩ =>
          hunlabelled (hnoText item hitem) o ho
      · push Not at hnoText
        obtain ⟨a, ha, htext⟩ := hnoText
        exact .mixed hitems ha htext hb hother

/-- The choices that items stand for: the texts, or what their labels say. -/
inductive Choices.Lists (items : List Json) : Choices → Prop where
  | plain {values : List String} (texts : items = values.map .str) : Lists items (.plain values)
  | labelled {options : List EnumOption} (labels : List.Forall₂ Labels items options) :
      Lists items (.labelled options)

/-! ## Items as drafts -/

theorem ofJson?_eq (v : Json) :
    OptionDraft.ofJson? v = (listedItems? v).map fun items => items.map .data := by
  cases v with
  | obj members =>
    show some _ = some (((Entries.names members).map Json.str).map OptionDraft.data)
    rw [Entries.names, List.map_map, List.map_map]
    rfl
  | _ => rfl

theorem isSome_text?_iff {item : Json} : (OptionDraft.data item).text?.isSome ↔ item.IsText := by
  cases item with
  | str s => exact ⟨fun _ => .str s, fun _ => rfl⟩
  | _ => exact ⟨nofun, nofun⟩

theorem text?_eq_none_iff {item : Json} : (OptionDraft.data item).text? = none ↔ ¬item.IsText := by
  rw [← isSome_text?_iff, Option.not_isSome_iff_eq_none]

theorem text?_eq_some_iff {item : Json} {s : String} :
    (OptionDraft.data item).text? = some s ↔ item = .str s := by
  cases item <;> simp [OptionDraft.text?]

theorem getD_eq_str_iff {item : Json} {key s : String} :
    item.getD key = .str s ↔ item.get? key = some (.str s) := by
  rw [Json.getD]
  cases item.get? key <;> simp

theorem option?_eq_some_iff_labels {item : Json} {option : EnumOption} :
    (OptionDraft.data item).option? = some option ↔ Labels item option := by
  have hpair : (OptionDraft.data item).idAndLabel? = some (option.id, option.label)
      ↔ item.get? "id" = some (.str option.id) ∧ item.get? "label" = some (.str option.label) := by
    rw [← getD_eq_str_iff, ← getD_eq_str_iff, OptionDraft.idAndLabel?]
    cases item.getD "id" <;> cases item.getD "label" <;> simp
  rw [OptionDraft.option?_eq_some_iff, hpair]
  exact ⟨fun ⟨⟨hid, hlabel⟩, hid', hlabel'⟩ => ⟨hid, hlabel, hid', hlabel'⟩,
    fun h => ⟨⟨h.id, h.label⟩, h.id_nonempty, h.label_nonempty⟩⟩

theorem isSome_option?_iff {item : Json} :
    (OptionDraft.data item).option?.isSome ↔ ∃ option, Labels item option := by
  rw [Option.isSome_iff_exists]
  simp only [option?_eq_some_iff_labels]

theorem otherKeys_eq_nil_iff {item : Json} :
    (OptionDraft.data item).otherKeys = [] ↔ ¬HasOtherKey item := by
  cases item with
  | obj members => simp [OptionDraft.otherKeys, HasOtherKey, List.filter_eq_nil_iff]
  | _ => exact ⟨fun _ => nofun, fun _ => rfl⟩

/-! ## Reading the options -/

section Reading

variable {name : String} {v : Json} {items : List Json} {choices : Choices}

theorem optionsMisconfiguration?_items_eq_none_iff :
    optionsMisconfiguration? name (items.map .data) = none ↔ items ≠ [] ∧ Uniform items := by
  rw [optionsMisconfiguration?_eq_none_iff, Ne, List.map_eq_nil_iff, Uniform]
  simp only [List.forall_mem_map, isSome_text?_iff, text?_eq_none_iff, isSome_option?_iff]

theorem exists_checkOptions_ok_iff :
    (∃ drafts, checkOptions name (OptionDraft.ofJson? v) = .ok drafts)
      ↔ ∃ items, listedItems? v = some items ∧ items ≠ [] ∧ Uniform items := by
  rw [ofJson?_eq]
  simp only [checkOptions_eq_ok_iff, Option.map_eq_some_iff]
  constructor
  · rintro ⟨_, ⟨items, hitems, rfl⟩, hnone⟩
    exact ⟨items, hitems, optionsMisconfiguration?_items_eq_none_iff.mp hnone⟩
  · rintro ⟨items, hitems, h⟩
    exact ⟨_, ⟨items, hitems, rfl⟩, optionsMisconfiguration?_items_eq_none_iff.mpr h⟩

/-- Options that pass the check are not refused any more. -/
theorem isSome_refusal?_readChoices_iff (drafts : Option (List OptionDraft)) :
    (readChoices name drafts).refusal?.isSome
      ↔ ¬∃ listed, checkOptions name drafts = .ok listed := by
  unfold readChoices
  cases hcheck : checkOptions name drafts with
  | error reason => simp [refusal?]
  | ok listed =>
    dsimp only
    cases listed.mapM OptionDraft.text? with
    | some values => simp
    | none =>
      dsimp only
      split <;> simp

theorem isSome_refusal?_iff_misfit (name : String) (v : Json) :
    (readChoices name (OptionDraft.ofJson? v)).refusal?.isSome ↔ Misfit v := by
  rw [isSome_refusal?_readChoices_iff, exists_checkOptions_ok_iff, misfit_iff]

theorem not_hasOtherKey_of_listedBy (h : choices.ListedBy (items.map .data)) :
    ∀ item ∈ items, ¬HasOtherKey item := by
  intro item hitem
  rw [← otherKeys_eq_nil_iff]
  have hdraft : OptionDraft.data item ∈ items.map OptionDraft.data := List.mem_map_of_mem hitem
  cases h with
  | plain _ texts =>
    cases isSome_text?_iff.mp (isSome_of_forall₂ texts _ hdraft)
    rfl
  | labelled _ objects _ => exact (objects _ hdraft).2

/-- Items of one kind are choices, unless one of them has another key. -/
theorem exists_listedBy (hne : items ≠ []) (huniform : Uniform items)
    (hkeys : ∀ item ∈ items, ¬HasOtherKey item) :
    ∃ choices : Choices, choices.ListedBy (items.map .data) ∧ choices.Lists items := by
  have hdrafts : items.map OptionDraft.data ≠ [] := by
    rwa [Ne, List.map_eq_nil_iff]
  rcases huniform with htexts | hobjects
  · have hsome : ∀ draft ∈ items.map OptionDraft.data, draft.text?.isSome :=
      List.forall_mem_map.mpr fun item hitem => isSome_text?_iff.mpr (htexts item hitem)
    have hlisted := forall₂_filterMap hsome
    refine ⟨_, .plain hdrafts hlisted, .plain ?_⟩
    rw [List.forall₂_map_left_iff] at hlisted
    simp only [text?_eq_some_iff] at hlisted
    rw [← List.forall₂_eq_eq_eq, List.forall₂_map_right_iff]
    exact hlisted
  · have hsome : ∀ draft ∈ items.map OptionDraft.data, draft.option?.isSome :=
      List.forall_mem_map.mpr fun item hitem => isSome_option?_iff.mpr (hobjects item hitem).2
    have hlisted := forall₂_filterMap hsome
    have hclosed : ∀ draft ∈ items.map OptionDraft.data,
        draft.text? = none ∧ draft.otherKeys = [] :=
      List.forall_mem_map.mpr fun item hitem =>
        ⟨text?_eq_none_iff.mpr (hobjects item hitem).1, otherKeys_eq_nil_iff.mpr (hkeys item hitem)⟩
    refine ⟨_, .labelled hdrafts hclosed hlisted, .labelled ?_⟩
    rw [List.forall₂_map_left_iff] at hlisted
    simp only [option?_eq_some_iff_labels] at hlisted
    exact hlisted

end Reading

/-! ## Fields with any options -/

/-- The declaration of a field with a value as its options, whatever they were before. -/
def withOptions (members : Entries Json) (v : Json) : Json := .obj (members.put "options" v)

section WithOptions

variable {members : Entries Json} {v w : Json}

theorem tagValue_withOptions : tagValue (withOptions members v) = tagValue (.obj members) := by
  have hget (key : String) (hkey : key ≠ "options") :
      (withOptions members v).getD key = (Json.obj members).getD key := by
    show (Entries.get? (members.put "options" v) key).getD .null = (Entries.get? members key).getD _
    rw [Entries.get?_put, if_neg hkey]
  rw [tagValue, tagValue, hget "type" (by decide), hget "kind" (by decide)]

theorem find?_put_of_ne {name : String} (hname : name ≠ "options") :
    (Key.plain name).find? (readMembers (members.put "options" v))
      = (Key.plain name).find? (readMembers members) := by
  rw [find?_plain_eq, find?_plain_eq, get?_readMembers, get?_readMembers, Entries.get?_put,
    if_neg hname]

theorem find?_put_options :
    (Key.plain "options").find? (readMembers (members.put "options" v))
      = some ("options", Member.ofJson v) := by
  rw [find?_plain_eq, get?_readMembers, Entries.get?_put, if_pos rfl]
  rfl

/-- Replaced options do not matter to the other attributes. -/
theorem readHead_put (kind : FieldKind) :
    readHead kind (readMembers (members.put "options" v)) = readHead kind (readMembers members) := by
  simp only [readHead, readPlainHead, readName, required, Intake.optional,
    find?_put_of_ne (show "type" ≠ "options" by decide),
    find?_put_of_ne (show "name" ≠ "options" by decide),
    find?_put_of_ne (show "label" ≠ "options" by decide),
    find?_put_of_ne (show "required" ≠ "options" by decide),
    find?_put_of_ne (show "kind" ≠ "options" by decide)]

theorem unknownKeys_put (keys : List Key) :
    unknownKeys keys (readMembers (members.put "options" v))
      = unknownKeys keys (readMembers (members.put "options" w)) := by
  refine unknownKeys_congr ?_ (fun name => ?_) keys
  · rw [readMembers_eq_map, readMembers_eq_map, Entries.names, Entries.names, List.map_map,
      List.map_map]
    exact (Entries.names_put members "options" v).trans
      (Entries.names_put members "options" w).symm
  · rw [get?_readMembers, get?_readMembers, Entries.get?_put, Entries.get?_put]
    split <;> rfl

/-- A choice is read from its other attributes and its options, side by side. -/
def readChoiceWith (members : Entries Json) (v : Json) (choices : Checked Choices) :
    Checked Element :=
  ((fun head chosen => Element.leaf head (.staticEnum chosen))
      <$> readHead .staticEnum (readMembers members) <*> choices.under (.key "options")).withFaults
    (unknownKeys (Tag.keys (.field .staticEnum)) (readMembers (members.put "options" v)))

theorem readChoiceWith_eq_accepted_iff {choices : Checked Choices} {e : Element} :
    readChoiceWith members v choices = .accepted e ↔ ∃ head chosen,
      readHead .staticEnum (readMembers members) = .accepted head ∧ choices = .accepted chosen
        ∧ unknownKeys (Tag.keys (.field .staticEnum)) (readMembers (members.put "options" v)) = []
        ∧ e = .leaf head (.staticEnum chosen) := by
  simp only [readChoiceWith, withFaults_eq_accepted_iff, seq_eq_accepted_iff,
    ↓exists_fmap_accepted, under_eq_accepted_iff]
  constructor
  · rintro ⟨⟨head, hhead, chosen, hchosen, rfl⟩, hkeys⟩
    exact ⟨head, chosen, hhead, hchosen, hkeys, rfl⟩
  · rintro ⟨head, chosen, hhead, hchosen, hkeys, rfl⟩
    exact ⟨⟨head, hhead, chosen, hchosen, rfl⟩, hkeys⟩

/-- Nothing but its options can refuse a choice. -/
theorem refusal?_readChoiceWith (choices : Checked Choices) :
    (readChoiceWith members v choices).refusal? = choices.refusal? := by
  rw [readChoiceWith, (withFaults_eq _ _).1, refusal?_seq, refusal?_fmap, refusal?_under,
    (plain_readHead .staticEnum (readMembers members)).refusal?, Option.none_or]

theorem readElement_withOptions (hkind : tagValue (.obj members) = .str "static_enum") (v : Json) :
    ∃ name, readElement (withOptions members v)
      = (readChoiceWith members v (readChoices name (OptionDraft.ofJson? v))).under
        (.key "static_enum") := by
  have htag : tagValue (.obj (members.put "options" v)) = .str (Tag.field .staticEnum).name :=
    tagValue_withOptions.trans hkind
  let name := (readName (readMembers (members.put "options" v))).value?.getD "?"
  have hread : readTagged (.field .staticEnum) (readMembers (members.put "options" v))
      = readChoiceWith members v (readChoices name (OptionDraft.ofJson? v)) := by
    rw [readTagged, readAttributes, readHead_put, required, find?_put_options]
    refine verify_eq_self fun e he => ?_
    obtain ⟨head, chosen, -, -, -, rfl⟩ := readChoiceWith_eq_accepted_iff.mp he
    rfl
  refine ⟨name, ?_⟩
  rw [withOptions, readElement, htag, ← hread]
  rfl

end WithOptions

/-! ## Loading a field -/

section Loading

variable {members : Entries Json} (hkind : tagValue (.obj members) = .str "static_enum")
  {v w : Json}

include hkind

theorem misconfigured_withOptions_iff :
    (∃ reason, loadAlone (withOptions members v) = .error (.record (.misconfigured reason)))
      ↔ Misfit v := by
  obtain ⟨name, hread⟩ := readElement_withOptions hkind v
  rw [← isSome_refusal?_iff_misfit name, Option.isSome_iff_exists]
  refine exists_congr fun reason => ?_
  rw [loadAlone, load_eq_misconfigured_iff, ← loadAlone, misconfiguration?_loadAlone, hread,
    refusal?_under, refusal?_readChoiceWith]

theorem exists_head_of_loads {form : Form} (hform : loadAlone (withOptions members w) = .ok form) :
    ∃ head, readHead .staticEnum (readMembers members) = .accepted head ∧ unknownKeys
      (Tag.keys (.field .staticEnum)) (readMembers (members.put "options" w)) = [] := by
  obtain ⟨e, he, -⟩ := loadAlone_eq_ok_iff_exists.mp hform
  obtain ⟨name, hread⟩ := readElement_withOptions hkind w
  rw [hread, under_eq_accepted_iff, readChoiceWith_eq_accepted_iff] at he
  obtain ⟨head, _, hhead, _, hkeys, _⟩ := he
  exact ⟨head, hhead, hkeys⟩

/-- A field that can be loaded with some options can be loaded with all options that are choices,
and with no others. -/
theorem exists_loads_withOptions_iff {form : Form}
    (hform : loadAlone (withOptions members w) = .ok form) (v : Json) :
    ∃ head, ∀ other, loadAlone (withOptions members v) = .ok other ↔
      ∃ items choices, listedItems? v = some items ∧ Choices.ListedBy (items.map .data) choices
        ∧ other = ⟨[.leaf head (.staticEnum choices)]⟩ := by
  obtain ⟨head, hhead, hkeys⟩ := exists_head_of_loads hkind hform
  obtain ⟨name, hread⟩ := readElement_withOptions hkind v
  rw [unknownKeys_put (w := v)] at hkeys
  refine ⟨head, fun other => ?_⟩
  simp only [loadAlone_eq_ok_iff_exists, hread, under_eq_accepted_iff, readChoiceWith_eq_accepted_iff, hhead,
    hkeys, readChoices_eq_accepted_iff, ofJson?_eq, Option.map_eq_some_iff]
  constructor
  · rintro ⟨_, ⟨_, choices, heq, ⟨_, ⟨items, hitems, rfl⟩, hlisted⟩, -, rfl⟩, rfl⟩
    cases heq
    exact ⟨items, choices, hitems, hlisted, rfl⟩
  · rintro ⟨items, choices, hitems, hlisted, rfl⟩
    exact ⟨_, ⟨head, choices, rfl, ⟨_, ⟨items, hitems, rfl⟩, hlisted⟩, trivial, rfl⟩, rfl⟩

/-- Where a field can be loaded with some options, others that make sense have faults if an item has
another key, and are the choices if none has. -/
theorem outcome_withOptions {form : Form} (hform : loadAlone (withOptions members w) = .ok form)
    {items : List Json} (hitems : listedItems? v = some items) (hne : items ≠ [])
    (huniform : Uniform items) :
    ((∃ item ∈ items, HasOtherKey item) → ∃ faults,
        loadAlone (withOptions members v) = .error (.record (.invalid "FormSpec" faults)))
      ∧ ((¬∃ item ∈ items, HasOtherKey item) → ∃ head choices,
        loadAlone (withOptions members v) = .ok ⟨[.leaf head (.staticEnum choices)]⟩
          ∧ choices.Lists items) := by
  obtain ⟨head, hloads⟩ := exists_loads_withOptions_iff hkind hform v
  constructor
  · rintro ⟨item, hitem, hother⟩
    have hfail : ∀ other, Form.load (.arr [withOptions members v]) ≠ .ok other := by
      intro other hloaded
      obtain ⟨_, choices, hlisted, hchoices, -⟩ := (hloads other).mp hloaded
      cases hitems.symm.trans hlisted
      exact not_hasOtherKey_of_listedBy hchoices item hitem hother
    have hsense : ¬Misfit v := fun h => misfit_iff.mp h ⟨items, hitems, hne, huniform⟩
    have hnone : firstMisconfiguration? [withOptions members v] = none := by
      rw [firstMisconfiguration?_eq, ← misconfiguration?_load, Option.eq_none_iff_forall_ne_some]
      intro reason hreason
      exact hsense ((misconfigured_withOptions_iff hkind).mp
        ⟨reason, load_eq_misconfigured_iff.mpr hreason⟩)
    exact ⟨_, load_eq_invalid hfail hnone⟩
  · intro hkeys
    push Not at hkeys
    obtain ⟨choices, hlisted, hlists⟩ := exists_listedBy hne huniform hkeys
    exact ⟨head, choices, (hloads _).mpr ⟨items, choices, hitems, hlisted, rfl⟩, hlists⟩

end Loading

/-- **Options are accepted exactly.** Whatever a choice declares besides, loading it ends with a
misconfiguration exactly if its options make no sense. If they do make sense, and the rest of the
declaration can be loaded at all, it has faults exactly if one of the items has another key than
those of options, and else it is loaded with the items as its choices, in order. -/
theorem loading_options {members : Entries Json}
    (hkind : tagValue (.obj members) = .str "static_enum") (v : Json) :
    ((∃ reason, loadAlone (withOptions members v) = .error (.record (.misconfigured reason)))
        ↔ Misfit v)
      ∧ ∀ w form, loadAlone (withOptions members w) = .ok form → ¬Misfit v →
        ∃ items, listedItems? v = some items
          ∧ ((∃ faults,
              loadAlone (withOptions members v) = .error (.record (.invalid "FormSpec" faults)))
            ↔ ∃ item ∈ items, HasOtherKey item)
          ∧ ((¬∃ item ∈ items, HasOtherKey item) → ∃ head choices,
            loadAlone (withOptions members v) = .ok ⟨[.leaf head (.staticEnum choices)]⟩
              ∧ choices.Lists items) := by
  refine ⟨misconfigured_withOptions_iff hkind, fun w form hform hsense => ?_⟩
  rw [misfit_iff, not_not] at hsense
  obtain ⟨items, hitems, hne, huniform⟩ := hsense
  obtain ⟨hfaulty, hloaded⟩ := outcome_withOptions hkind hform hitems hne huniform
  refine ⟨items, hitems, ⟨?_, hfaulty⟩, hloaded⟩
  rintro ⟨faults, hfaults⟩
  by_contra hkeys
  obtain ⟨head, choices, hok, -⟩ := hloaded hkeys
  exact absurd (hok.symm.trans hfaults) nofun

/-- A label that occurs twice is loaded twice, one with a further key is a fault, and a list that
mixes texts and objects is misconfigured even where the name of the field is no text. -/
theorem loading_options_labelled :
    let head : Entries Json := [("type", .str "field"), ("kind", .str "static_enum")]
    let members : Entries Json := head ++ [("name", .str "f")]
    let red : Json := .obj [("id", .str "r"), ("label", .str "Red")]
    let extra : Json := .obj [("id", .str "r"), ("label", .str "Red"), ("hex", .str "f00")]
    let mixed : Json := .arr [red, .str "a"]
    (∃ form, loadAlone (withOptions members (.arr [.str "a"])) = .ok form)
      ∧ ¬Misfit (.arr [red, red]) ∧ ¬Misfit (.arr [red, extra])
      ∧ (∃ head choices, loadAlone (withOptions members (.arr [red, red]))
          = .ok ⟨[.leaf head (.staticEnum choices)]⟩ ∧ choices.Lists [red, red])
      ∧ (∃ faults, loadAlone (withOptions members (.arr [red, extra]))
          = .error (.record (.invalid "FormSpec" faults)))
      ∧ ∃ reason, loadAlone (withOptions (head ++ [("name", .int 5)]) mixed)
          = .error (.record (.misconfigured reason)) := by
  intro head members red extra mixed
  have hred : Labels red ⟨"r", "Red"⟩ := ⟨rfl, rfl, by decide, by decide⟩
  have hextra : Labels extra ⟨"r", "Red"⟩ := ⟨rfl, rfl, by decide, by decide⟩
  have hobject (members : Entries Json) : ¬(Json.obj members).IsText := nofun
  have hsense {item : Json} (hitem : Labels item ⟨"r", "Red"⟩) (hother : ¬item.IsText) :
      ¬Misfit (.arr [red, item]) := by
    refine fun h => misfit_iff.mp h ⟨_, rfl, List.cons_ne_nil _ _, Or.inr ?_⟩
    rintro _ (_ | ⟨_, _ | ⟨_, ⟨⟩⟩⟩)
    · exact ⟨hobject _, _, hred⟩
    · exact ⟨hother, _, hitem⟩
  have hkind : tagValue (.obj members) = .str "static_enum" := rfl
  have hform : ∃ form, loadAlone (withOptions members (.arr [.str "a"])) = .ok form := ⟨_, rfl⟩
  obtain ⟨form, hloaded⟩ := hform
  refine ⟨⟨form, hloaded⟩, hsense hred (hobject _), hsense hextra (hobject _), ?_, ?_, ?_⟩
  · obtain ⟨_, hitems, -, hchoices⟩ :=
      (loading_options hkind (.arr [red, red])).2 _ form hloaded (hsense hred (hobject _))
    cases hitems
    refine hchoices ?_
    rintro ⟨item, hitem, hother⟩
    have heq : item = red := by simpa using hitem
    exact otherKeys_eq_nil_iff.mp rfl (heq ▸ hother)
  · obtain ⟨_, hitems, hfaults, -⟩ :=
      (loading_options hkind (.arr [red, extra])).2 _ form hloaded (hsense hextra (hobject _))
    cases hitems
    exact hfaults.mpr ⟨extra, by simp, _, rfl, "hex", by simp, by decide, by decide⟩
  · exact (loading_options rfl mixed).1.mpr
      (.mixed rfl (List.mem_cons_of_mem _ List.mem_cons_self) (.str "a") List.mem_cons_self
        (hobject _))

end FormSchema
