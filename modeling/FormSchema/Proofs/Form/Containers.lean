import FormSchema.Form.Reader
import FormSchema.Proofs.Form.Attributes
import FormSchema.Proofs.Form.Tree
import FormSchema.Proofs.Form.WellFormed
import FormSchema.Proofs.Intake.Faults

/-!
# FormSchema — reading elements inside containers

What the reading of a tree of elements has to do with the reading of a part of it. A container adds
faults of its own, but none below the key of its children, and it is refused before they are in no
case.

* **`proper_readElement`** — an element that is not accepted says why. By induction on the data.
* **`readItems_eq_eachFrom`** — a list is read item by item.
* **`ListsChildren`** — a piece of data that is read as a container of a list of children.
  **`readElement_container`** — what its reading has to do with that of its children.
* **`Inside`** — the elements inside a list, at any depth, each with its address and its place.
  **`readItems_inside`** — what the reading of the list has to do with that of such an element. By
  induction on the way to the element.
-/

namespace FormSchema

open Intake Checked

/-! ## Readings that say why they accept nothing -/

theorem plain_reading {α : Type} {check : Json → Checked α} (h : ∀ value, (check value).Plain)
    (m : Member) : (reading check m).Plain := h m.value

theorem plain_readName (members : Entries Member) : (readName members).Plain :=
  plain_required (plain_reading plain_nonEmptyText)

theorem plain_readPlainHead (members : Entries Member) : (readPlainHead members).Plain := by
  have htype : (Intake.optional (.plain "type") () (reading (exactly "field")) members).Plain :=
    plain_optional (plain_reading (plain_exactly _))
  have hlabel : (Intake.optional (.plain "label") none (reading (orNull text)) members).Plain :=
    plain_optional (plain_reading (plain_orNull plain_text))
  have hrequired : (Intake.optional (.plain "required") false (reading flag) members).Plain :=
    plain_optional (plain_reading plain_flag)
  exact (((htype.fmap _).seq (plain_readName members)).seq hlabel).seq hrequired

theorem plain_readHead (kind : FieldKind) (members : Entries Member) :
    (readHead kind members).Plain := by
  have hkind : (Intake.optional (.plain "kind") () (reading (exactly kind.tag)) members).Plain :=
    plain_optional (plain_reading (plain_exactly _))
  exact ((plain_readPlainHead members).fmap _).seq hkind

/-- Options with unknown keys have a fault, since there are options. -/
theorem proper_readChoices (name : String) (drafts : Option (List OptionDraft)) :
    (readChoices name drafts).Proper := by
  unfold readChoices
  cases checkOptions name drafts with
  | error reason => exact proper_refused reason
  | ok listed =>
    dsimp only
    cases listed.mapM OptionDraft.text? with
    | some values => exact proper_accepted _
    | none =>
      dsimp only
      split
      · rename_i hany
        intro hnil
        have hnone : optionFaults listed = [] := by injection hnil
        cases listed with
        | nil => simp at hany
        | cons draft rest => simp [optionFaults] at hnone
      · exact proper_accepted _

theorem proper_readChildren {key : String} {members : Entries Member}
    (h : ∀ m ∈ members, m.2.elements.Proper) : (readChildren key members).Proper := by
  unfold readChildren Intake.optional
  cases hfind : (Key.plain key).find? members with
  | none => exact proper_accepted []
  | some found => exact (h found (Key.mem_of_find? hfind)).under _

theorem proper_readAttributes (tag : Tag) {members : Entries Member}
    (h : ∀ m ∈ members, m.2.elements.Proper) : (readAttributes tag members).Proper := by
  have hhead : ∀ kind, (readHead kind members).Proper :=
    fun kind => (plain_readHead kind members).proper
  have htext : ∀ key, (required key (reading text) members).Proper :=
    fun _ => (plain_required (plain_reading plain_text)).proper
  have htype : ∀ expected,
      (Intake.optional (.plain "type") () (reading (exactly expected)) members).Proper :=
    fun _ => (plain_optional (plain_reading (plain_exactly _))).proper
  have hgiven : ∀ {α : Type} (key) {check : Json → Checked α}, (∀ value, (check value).Plain) →
      (Intake.optional key none (reading (orNull check)) members).Proper :=
    fun _ _ hcheck => (plain_optional (plain_reading (plain_orNull hcheck))).proper
  rcases tag with (_ | _ | _ | _ | _ | _ | _ | _) | _ | _
  case field.text => exact ((hhead _).fmap _).seq (hgiven _ plain_text)
  case field.number =>
    exact (((hhead _).fmap _).seq (hgiven _ plain_limit)).seq (hgiven _ plain_limit)
  case field.boolean => exact (hhead _).fmap _
  case field.staticEnum =>
    exact ((hhead _).fmap _).seq (proper_required fun m => proper_readChoices _ m.options)
  case field.dynamicEnum =>
    have hparams : (Intake.optional (.plain "params") [] (reading texts) members).Proper :=
      (plain_optional (plain_reading plain_texts)).proper
    exact (((hhead _).fmap _).seq (htext _)).seq hparams
  case field.dynamicSchema => exact ((hhead _).fmap _).seq (htext _)
  case field.array =>
    exact ((((hhead _).fmap _).seq (proper_readChildren h)).seq (hgiven _ plain_integer)).seq
      (hgiven _ plain_integer)
  case field.object => exact ((hhead _).fmap _).seq (proper_readChildren h)
  case group => exact (((htype _).fmap _).seq (htext _)).seq (proper_readChildren h)
  case conditional =>
    have hfield : (required (.plain "field") (reading nonEmptyText) members).Proper :=
      (plain_required (plain_reading plain_nonEmptyText)).proper
    have hvalue : (Intake.optional (.plain "value") .null (reading .accepted) members).Proper :=
      (plain_optional (plain_reading plain_accepted)).proper
    exact ((((htype _).fmap _).seq hfield).seq hvalue).seq (proper_readChildren h)

theorem proper_readByTag (tag : Json) {members : Entries Member}
    (h : ∀ m ∈ members, m.2.elements.Proper) : (readByTag tag members).Proper := by
  have htagged : ∀ tag : Tag, (readTagged tag members).Proper := fun tag =>
    ((proper_readAttributes tag h).withFaults _).verify _
  cases tag with
  | null => exact proper_fault _
  | str name =>
    unfold readByTag
    dsimp only
    cases Tag.ofName? name with
    | some tag => exact (htagged tag).under _
    | none => exact proper_fault _
  | _ => exact proper_fault _

mutual

theorem proper_readElement (value : Json) : (readElement value).Proper := by
  match value with
  | .obj members =>
    rw [readElement]
    exact proper_readByTag _ (proper_readMembers members)
  | .null => exact proper_fault _
  | .bool _ => exact proper_fault _
  | .int _ => exact proper_fault _
  | .float _ => exact proper_fault _
  | .str _ => exact proper_fault _
  | .arr _ => exact proper_fault _

theorem proper_readElements (value : Json) : (readElements value).Proper := by
  match value with
  | .arr items =>
    rw [readElements]
    exact proper_readItems items 0
  | .null => exact proper_fault _
  | .bool _ => exact proper_fault _
  | .int _ => exact proper_fault _
  | .float _ => exact proper_fault _
  | .str _ => exact proper_fault _
  | .obj _ => exact proper_fault _

theorem proper_readItems (items : List Json) (position : Nat) :
    (readItems position items).Proper := by
  match items with
  | [] =>
    rw [readItems]
    exact proper_accepted []
  | item :: rest =>
    rw [readItems]
    exact (((proper_readElement item).under _).both (proper_readItems rest (position + 1))).map _

theorem proper_readMembers (members : List (String × Json)) :
    ∀ m ∈ readMembers members, m.2.elements.Proper := by
  match members with
  | [] =>
    rw [readMembers]
    exact fun m hm => absurd hm List.not_mem_nil
  | (key, value) :: rest =>
    rw [readMembers]
    rintro _ (_ | ⟨_, hm⟩)
    · exact proper_readElements value
    · exact proper_readMembers rest _ hm

end

/-! ## Lists -/

theorem readItems_eq_eachFrom (position : Nat) (items : List Json) :
    readItems position items = eachFrom readElement position items := by
  induction items generalizing position with
  | nil => rw [readItems, eachFrom]
  | cons item rest ih => rw [readItems, eachFrom, ih]

theorem readItems_eq_accepted_iff {position : Nat} {items : List Json} {es : List Element} :
    readItems position items = .accepted es
      ↔ List.Forall₂ (fun x e => readElement x = .accepted e) items es := by
  rw [readItems_eq_eachFrom, eachFrom_eq_accepted_iff]

theorem refusal?_readItems (position : Nat) (items : List Json) :
    (readItems position items).refusal? = items.findSome? fun x => (readElement x).refusal? := by
  rw [readItems_eq_eachFrom, refusal?_eachFrom]

theorem faults_readItems {position : Nat} {items : List Json}
    (h : (readItems position items).refusal? = none) :
    (readItems position items).faults = (items.zipIdx position).flatMap fun p =>
      (readElement p.1).faults.map (·.within [.index p.2]) := by
  rw [readItems_eq_eachFrom] at h ⊢
  exact faults_eachFrom h

/-- The faults of a list at a position are those of the item there. -/
theorem faultsBelow_zipIdx (read : Json → List Fault) {items : List Json} {x : Json} {i : Nat}
    (start : Nat) (hx : items[i]? = some x) :
    faultsBelow [.index (start + i)] ((items.zipIdx start).flatMap fun p =>
      (read p.1).map (·.within [.index p.2])) = (read x).map (·.within [.index (start + i)]) := by
  -- an item at another position has no faults here
  have hother : ∀ (rest : List Json) (start n : Nat), n < start →
      faultsBelow [.index n] ((rest.zipIdx start).flatMap fun p =>
        (read p.1).map (·.within [.index p.2])) = [] := by
    intro rest
    induction rest with
    | nil => intros; rfl
    | cons y rest ih =>
      intro start n hlt
      have hne : Step.index start ≠ .index n := by
        intro h
        injection h
        omega
      rw [List.zipIdx_cons, List.flatMap_cons, faultsBelow_append, ih (start + 1) n (by omega)]
      exact congrArg (· ++ []) (faultsBelow_under_of_ne hne (read y))
  induction items generalizing start i with
  | nil => cases hx
  | cons y rest ih =>
    rw [List.zipIdx_cons, List.flatMap_cons, faultsBelow_append]
    cases i with
    | zero =>
      cases hx
      rw [Nat.add_zero, hother rest (start + 1) start (by omega), List.append_nil,
        faultsBelow_within_self]
    | succ i =>
      have hne : Step.index start ≠ .index (start + (i + 1)) := by
        intro h
        injection h
        omega
      have hrest := ih (start + 1) hx
      rw [show start + 1 + i = start + (i + 1) by omega] at hrest
      rw [hrest]
      exact congrArg (· ++ _) (faultsBelow_under_of_ne hne (read y))

/-! ## Containers -/

/-- The key of a container's children. -/
def Tag.childKey? : Tag → Option String
  | .field .array => some "items"
  | .field .object => some "properties"
  | .group => some "elements"
  | .conditional => some "elements"
  | _ => none

/-- A piece of data that is tagged as a container and has a list where its children belong. -/
structure ListsChildren (container : Json) (tag : Tag) (key : String) (children : List Json) :
    Prop where
  tagged : tagValue container = .str tag.name
  childKey : tag.childKey? = some key
  listed : container.get? key = some (.arr children)

section Attributes

variable {tag : Tag} {key : String} {members : Entries Member} {m : Member}

theorem find?_plain (h : Entries.get? members key = some m) :
    (Key.plain key).find? members = some (key, m) := by
  rw [Key.find?, Key.plain, h]

theorem carries_readChildren (h : Entries.get? members key = some m) :
    Carries key m.elements (readChildren key members) := by
  rw [readChildren, Intake.optional, find?_plain h]
  exact ⟨refusal?_under _ _, fun _ =>
    (congrArg _ (faults_under _ _)).trans (faultsBelow_within_self [.key key] _)⟩

/-- The attributes of every field have no fault at any other key. -/
theorem apart_readHead (kind : FieldKind)
    (h : key ∉ ["type", "name", "label", "required", "kind"]) :
    Apart key (readHead kind members) := by
  have hother : ∀ name ∈ ["type", "name", "label", "required", "kind"],
      key ∉ (Key.plain name).spellings := by
    intro name hname hmem
    rw [List.mem_singleton.mp hmem] at h
    exact h hname
  have htype : Apart key (Intake.optional (.plain "type") () (reading (exactly "field")) members) :=
    apart_optional (plain_reading (plain_exactly _)) (hother "type" (by decide))
  have hname : Apart key (readName members) :=
    apart_required (plain_reading plain_nonEmptyText) (hother "name" (by decide))
  have hlabel : Apart key (Intake.optional (.plain "label") none (reading (orNull text)) members) :=
    apart_optional (plain_reading (plain_orNull plain_text)) (hother "label" (by decide))
  have hrequired : Apart key (Intake.optional (.plain "required") false (reading flag) members) :=
    apart_optional (plain_reading plain_flag) (hother "required" (by decide))
  have hkind : Apart key
      (Intake.optional (.plain "kind") () (reading (exactly kind.tag)) members) :=
    apart_optional (plain_reading (plain_exactly _)) (hother "kind" (by decide))
  exact (((((htype.fmap _).seq hname).seq hlabel).seq hrequired).fmap _).seq hkind

/-- What the attributes of a container add to the reading of its children: nothing at their key. -/
theorem carries_readAttributes (htag : tag.childKey? = some key)
    (h : Entries.get? members key = some m) :
    Carries key m.elements (readAttributes tag members) := by
  have hchildren := carries_readChildren h
  have htype : ∀ expected, "type" ≠ key →
      Apart key (Intake.optional (.plain "type") () (reading (exactly expected)) members) := by
    intro expected hne
    refine apart_optional (plain_reading (plain_exactly expected)) ?_
    simpa [Key.spellings, Key.plain] using hne.symm
  rcases tag with (_ | _ | _ | _ | _ | _ | _ | _) | _ | _
  case field.array =>
    cases htag
    have hhead : Apart "items" (readHead .array members) := apart_readHead .array (by decide)
    have hmin : Apart "items"
        (Intake.optional minItemsKey none (reading (orNull integer)) members) :=
      apart_optional (plain_reading (plain_orNull plain_integer)) (by decide)
    have hmax : Apart "items"
        (Intake.optional maxItemsKey none (reading (orNull integer)) members) :=
      apart_optional (plain_reading (plain_orNull plain_integer)) (by decide)
    exact (((hhead.fmap _).seq_carries hchildren).seq_apart hmin).seq_apart hmax
  case field.object =>
    cases htag
    have hhead : Apart "properties" (readHead .object members) :=
      apart_readHead .object (by decide)
    exact (hhead.fmap _).seq_carries hchildren
  case group =>
    cases htag
    have hlabel : Apart "elements" (required (.plain "label") (reading text) members) :=
      apart_required (plain_reading plain_text) (by decide)
    exact (((htype _ (by decide)).fmap _).seq hlabel).seq_carries hchildren
  case conditional =>
    cases htag
    have hfield : Apart "elements" (required (.plain "field") (reading nonEmptyText) members) :=
      apart_required (plain_reading plain_nonEmptyText) (by decide)
    have hvalue : Apart "elements"
        (Intake.optional (.plain "value") .null (reading .accepted) members) :=
      apart_optional (plain_reading plain_accepted) (by decide)
    exact ((((htype _ (by decide)).fmap _).seq hfield).seq hvalue).seq_carries hchildren
  all_goals cases htag

theorem childKey_mem_keys (htag : tag.childKey? = some key) : Key.plain key ∈ tag.keys := by
  rcases tag with (_ | _ | _ | _ | _ | _ | _ | _) | _ | _
  all_goals cases htag
  all_goals simp [Tag.keys, headKeys]

/-- The children of a container that was read are what its children were read as. -/
theorem elements_eq_accepted_inner (htag : tag.childKey? = some key)
    (h : Entries.get? members key = some m) {e : Element}
    (hread : readAttributes tag members = .accepted e) : m.elements = .accepted e.inner := by
  have hchildren : ∀ {es : List Element}, readChildren key members = .accepted es →
      m.elements = .accepted es := by
    intro es hes
    rw [readChildren, Intake.optional, find?_plain h] at hes
    exact under_eq_accepted_iff.mp hes
  rcases tag with (_ | _ | _ | _ | _ | _ | _ | _) | _ | _
  case field.array =>
    cases htag
    simp only [readAttributes, seq_eq_accepted_iff, ↓exists_seq_accepted, ↓exists_fmap_accepted]
      at hread
    obtain ⟨_, _, items, hitems, _, _, _, _, rfl⟩ := hread
    exact hchildren hitems
  case field.object =>
    cases htag
    simp only [readAttributes, seq_eq_accepted_iff, ↓exists_fmap_accepted] at hread
    obtain ⟨_, _, properties, hproperties, rfl⟩ := hread
    exact hchildren hproperties
  case group =>
    cases htag
    simp only [readAttributes, seq_eq_accepted_iff, ↓exists_seq_accepted, ↓exists_fmap_accepted]
      at hread
    obtain ⟨_, _, _, _, elements, helements, rfl⟩ := hread
    exact hchildren helements
  case conditional =>
    cases htag
    simp only [readAttributes, seq_eq_accepted_iff, ↓exists_seq_accepted, ↓exists_fmap_accepted]
      at hread
    obtain ⟨_, _, _, _, _, _, elements, helements, rfl⟩ := hread
    exact hchildren helements
  all_goals cases htag

end Attributes

/-- The reading of a container and that of its children: it is refused if they are, below their key
it has their faults and no others, and what it is read as has their elements inside. -/
structure ReadsChildren (step : Step) (key : String) (children : Checked (List Element))
    (container : Checked Element) : Prop where
  refused : ∀ reason, children.refusal? = some reason → container.refusal? = some reason
  faults : children.refusal? = none → faultsBelow [step, .key key] container.faults
    = children.faults.map (·.within [step, .key key])
  inner : ∀ e, container = .accepted e → children = .accepted e.inner

theorem readElement_container {container : Json} {tag : Tag} {key : String} {children : List Json}
    (h : ListsChildren container tag key children) :
    ReadsChildren (.key tag.name) key (readItems 0 children) (readElement container) := by
  obtain ⟨htagged, hkey, hlisted⟩ := h
  cases container with
  | obj members =>
    have hget : Entries.get? (readMembers members) key = some (Member.ofJson (.arr children)) := by
      have hmember : Entries.get? members key = some (.arr children) := hlisted
      rw [get?_readMembers, hmember]
      rfl
    have hmember : (Member.ofJson (.arr children)).elements = readItems 0 children := by
      rw [Member.ofJson, readElements]
    have hread : readElement (.obj members)
        = (readTagged tag (readMembers members)).under (.key tag.name) := by
      rw [readElement, htagged, readByTag]
      simp only [Tag.ofName?_name]
    have hcarries := carries_readAttributes hkey hget
    have hclosed := hcarries.withFaults
      (faultsBelow_unknownKeys (childKey_mem_keys hkey) (find?_plain hget))
    rw [hmember] at hcarries hclosed
    rw [hread]
    refine ⟨?_, ?_, ?_⟩
    · intro reason hreason
      rw [refusal?_under, readTagged, refusal?_verify, hclosed.refusal?, hreason, Option.some_or]
    · intro hnone
      -- a refusal of the container itself comes only when nothing was found, here as elsewhere
      have hbelow := faultsBelow_within [.key tag.name] [.key key]
        (readTagged tag (readMembers members)).faults
      rw [faults_under]
      refine hbelow.trans ?_
      rw [readTagged, faults_verify, hclosed.faults hnone, List.map_map]
      rfl
    · intro e he
      rw [under_eq_accepted_iff, readTagged_eq_accepted_iff] at he
      exact hmember.symm.trans (elements_eq_accepted_inner hkey hget he.1)
  | _ => cases hlisted

/-! ## Elements inside a list -/

/-- `Inside items address place x`: somewhere inside a list of elements there is one more, by its
child indices from the list down, and by its place in the data of a form. -/
inductive Inside (items : List Json) : List Nat → List Step → Json → Prop where
  | item {i : Nat} {x : Json} (h : items[i]? = some x) :
      Inside items [i] [.key "elements", .index i] x
  | child {address : List Nat} {place : List Step} {container : Json} {tag : Tag} {key : String}
      {children : List Json} {i : Nat} {x : Json} (h : Inside items address place container)
      (hchildren : ListsChildren container tag key children) (hx : children[i]? = some x) :
      Inside items (address ++ [i]) (place ++ [.key tag.name, .key key, .index i]) x

/-- The reading of a list of elements, as the attribute of a form. -/
def readList (items : List Json) : Checked (List Element) :=
  (readItems 0 items).under (.key "elements")

theorem refusal?_of_mem {items : List Json} (h : (readItems 0 items).refusal? = none) {i : Nat}
    {x : Json} (hx : items[i]? = some x) : (readElement x).refusal? = none := by
  rw [refusal?_readItems, List.findSome?_eq_none_iff] at h
  exact h x (List.mem_of_getElem? hx)

/-- The faults of a list below the place of an item are those of the item. -/
theorem faultsBelow_item {items : List Json} (h : (readItems 0 items).refusal? = none) {i : Nat}
    {x : Json} (hx : items[i]? = some x) :
    faultsBelow [.index i] (readItems 0 items).faults
      = (readElement x).faults.map (·.within [.index i]) := by
  have hitem := faultsBelow_zipIdx (fun x => (readElement x).faults) 0 hx
  rw [Nat.zero_add] at hitem
  rw [faults_readItems h]
  exact hitem

theorem elementAt?_of_readItems {items : List Json} {es : List Element}
    (h : readItems 0 items = .accepted es) {i : Nat} {x : Json} (hx : items[i]? = some x) :
    ∃ e, es[i]? = some e ∧ readElement x = .accepted e := by
  have hread := readItems_eq_accepted_iff.mp h
  obtain ⟨hlt, rfl⟩ := List.getElem?_eq_some_iff.mp hx
  have hlt' : i < es.length := hread.length_eq ▸ hlt
  exact ⟨es[i], List.getElem?_eq_getElem hlt', hread.get hlt hlt'⟩

/-- **What a whole tree adds to the reading of one element in it.** Unless something in the tree is
refused, the element is not, and the faults below its place are its own. If the tree is accepted,
the element at the address is what it was read as. By induction on the way to the element. -/
theorem readItems_inside {items : List Json} {address : List Nat} {place : List Step} {x : Json}
    (h : Inside items address place x) :
    ((readItems 0 items).refusal? = none → (readElement x).refusal? = none
        ∧ faultsBelow place (readList items).faults = (readElement x).faults.map (·.within place))
      ∧ ∀ es, readItems 0 items = .accepted es →
        ∃ e, elementAt? es address = some e ∧ readElement x = .accepted e := by
  induction h with
  | @item i x hx =>
    refine ⟨fun hnone => ⟨refusal?_of_mem hnone hx, ?_⟩, fun es hes => ?_⟩
    · rw [readList, faults_under]
      refine (faultsBelow_within [.key "elements"] [.index i] _).trans ?_
      rw [faultsBelow_item hnone hx, List.map_map]
      rfl
    · obtain ⟨e, he, hread⟩ := elementAt?_of_readItems hes hx
      exact ⟨e, (elementAt?_singleton es i).trans he, hread⟩
  | @child address place container tag key children i x hinside hchildren hx ih =>
    obtain ⟨hfaults, haccepted⟩ := ih
    have hcontainer := readElement_container hchildren
    refine ⟨fun hnone => ?_, fun es hes => ?_⟩
    · obtain ⟨hrefusal, hbelow⟩ := hfaults hnone
      -- children that are refused would have the container refused
      have hinner : (readItems 0 children).refusal? = none := by
        cases hreason : (readItems 0 children).refusal? with
        | none => rfl
        | some reason => exact absurd (hcontainer.refused reason hreason) (by simp [hrefusal])
      refine ⟨refusal?_of_mem hinner hx, ?_⟩
      have hown : faultsBelow [.key tag.name, .key key, .index i] (readElement container).faults
          = (readElement x).faults.map (·.within [.key tag.name, .key key, .index i]) := by
        have hnested := faultsBelow_faultsBelow [.key tag.name, .key key] [.index i]
          (readElement container).faults
        rw [hcontainer.faults hinner, faultsBelow_within, faultsBelow_item hinner hx,
          List.map_map] at hnested
        exact hnested.symm
      rw [← faultsBelow_faultsBelow, hbelow, faultsBelow_within, hown, List.map_map]
      refine List.map_congr_left fun f _ => ?_
      exact (within_append _ _ f).symm
    · obtain ⟨e, he, hread⟩ := haccepted es hes
      obtain ⟨inner, hinner, hx⟩ :=
        elementAt?_of_readItems (hcontainer.inner e hread) hx
      exact ⟨inner, (elementAt?_concat he i).trans hinner, hx⟩

end FormSchema
