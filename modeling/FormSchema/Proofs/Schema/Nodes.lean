import FormSchema.Compiler
import FormSchema.Proofs.Draft07
import FormSchema.Proofs.Form.Places
import FormSchema.Proofs.Schema.Members

/-!
# FormSchema — the nodes of a schema document

A schema document has nodes inside its nodes: the properties of a scope, and the items of an array.
Which keywords they have is read off the document.

* **`Subschema`** — one node directly inside another; its closures are the nodes below the root and
  all nodes.
* **`SoundNode`** — what every node has, and what its keywords have to do with each other.
* **`NodeOf`** — the nodes that the fields of a form call for.
* **`get?_toJson`** — the keywords of a document are those of the node that it is written from.
* **`Node.Sound`** — a node from which a sound document is written; one lemma for each kind.
* **`nodeOf_of_below`** — below the node of a scope there are only nodes that its fields call for.
  By induction over scopes.
* **`schema_nodes_sound`** — the statement about whole forms.
-/

namespace FormSchema.Schema

open Relation (TransGen ReflTransGen)

/-! ## Documents and their nodes -/

/-- `Subschema node child`: a schema document has another one directly inside it, as one of its
properties, whatever its name, or as what its items are. -/
inductive Subschema (node : Json) : Json → Prop where
  | property {properties : Entries Json} {name : String} {child : Json}
      (h : node.get? "properties" = some (.obj properties)) (hmem : (name, child) ∈ properties) :
      Subschema node child
  | items {child : Json} (h : node.get? "items" = some child) : Subschema node child

/-- What the keywords of a node are and what they have to do with each other. The branches of a
choice are no nodes: they have a constant and a title, and no other keyword. -/
structure SoundNode (node : Json) : Prop where
  type : ∃ type : TypeName, node.get? "type" = some (.str type.name)
  required : ∀ value, node.get? "required" = some value →
    ∃ (names : List String) (properties : Entries Json), value = .ofStrings names
      ∧ names ≠ [] ∧ names.Nodup ∧ node.get? "properties" = some (.obj properties)
      ∧ ∀ name ∈ names, name ∈ properties.names
  limits : ∀ min max, node.get? "minimum" = some min → node.get? "maximum" = some max →
    Draft07.below max min = false
  bounds : ∃ bounds : ItemBounds, bounds.WellFormed
    ∧ node.get? "minItems" = bounds.min.map .int ∧ node.get? "maxItems" = bounds.max.map .int
  branches : ∀ value, node.get? "oneOf" = some value →
    ∃ options : List EnumOption, value = .arr (options.map branch)

/-- A node lists its choices in exactly one way, and there are some. -/
inductive ListsChoices (node : Json) : Prop where
  | enum (values : List String) (hvalues : values ≠ [])
      (h : node.get? "enum" = some (.ofStrings values)) (hother : node.get? "oneOf" = none)
  | oneOf (options : List EnumOption) (hoptions : options ≠ [])
      (h : node.get? "oneOf" = some (.arr (options.map branch)))
      (hother : node.get? "enum" = none)

/-- The nodes that the fields among some elements call for, at any depth and in scopes other than
the root: one for each field, and one for what the items of an array are. -/
inductive NodeOf (es : List Element) : Json → Prop where
  | field {address : List Nat} {f : Field} {scope : Scope}
      (h : elementAt? es address = some f.toElement) (hscope : scope.isRoot = false) :
      NodeOf es (ofField f scope).toJson
  | items {address : List Nat} {head : FieldHead} {bounds : ItemBounds} {items : List Element}
      {scope : Scope} (h : elementAt? es address = some (.array head bounds items))
      (hscope : scope.isRoot = false) : NodeOf es (compile items scope (.str draft07)).toJson

/-! ## The keywords of a document -/

/-- The value of a keyword that holds no nodes. -/
def Keywords.value? (k : Keywords) : String → Option Json
  | "title" => k.title.map .str
  | "$schema" => k.version
  | "type" => some (.str k.type.name)
  | "minimum" => k.minimum.map Number.Limit.toJson
  | "maximum" => k.maximum.map Number.Limit.toJson
  | "oneOf" => k.oneOf.map fun options => .arr (options.map branch)
  | "enum" => k.enum.map .ofStrings
  | "x-formspec-source" => k.source.map .str
  | "x-formspec-params" => k.params.map .ofStrings
  | "additionalProperties" => k.additionalProperties.map .bool
  | "x-formspec-schemaSource" => k.schemaSource.map .str
  | "minItems" => k.minItems.map .int
  | "maxItems" => k.maxItems.map .int
  | "required" => k.required.map .ofStrings
  | _ => none

theorem get?_keyword {α : Type} (name key : String) (value : Option α) (write : α → Json) :
    Entries.get? (keyword name value write) key
      = if key = name then value.map write else none := by
  cases value with
  | none => simp [keyword, Entries.get?]
  | some v =>
    rw [keyword, Entries.get?_cons]
    rfl

/-- A keyword is written at most once, in front of the nodes or behind them. -/
theorem Keywords.get?_entries (k : Keywords) (key : String) :
    Entries.get? (k.front ++ k.back) key = k.value? key := by
  unfold value?
  split
  case h_15 =>
    -- any other key is none of those that are written
    simp only [imp_false] at *
    simp [front, back, Entries.get?_append, get?_keyword, Entries.get?_cons, *]
  all_goals simp [front, back, Entries.get?_append, get?_keyword, Entries.get?_cons]

/-- One more keyword between those in front and those behind. -/
theorem Keywords.get?_around (k : Keywords) {name : String} (hname : k.value? name = none)
    (value : Json) (key : String) :
    Entries.get? (k.front ++ [(name, value)] ++ k.back) key
      = if key = name then some value else k.value? key := by
  have hentries := k.get?_entries
  by_cases hkey : key = name
  · have hfront : Entries.get? k.front name = none := by
      have hnone := (hentries name).trans hname
      rw [Entries.get?_append, Option.or_eq_none_iff] at hnone
      exact hnone.1
    rw [if_pos hkey, hkey, Entries.get?_append, Entries.get?_append, hfront, Entries.get?_cons,
      if_pos rfl]
    rfl
  · have hnil : Entries.get? ([] : Entries Json) key = none := rfl
    rw [if_neg hkey, ← hentries, Entries.get?_append, Entries.get?_append, Entries.get?_cons,
      if_neg hkey, hnil, Option.or_none, Entries.get?_append]

theorem get?_toJson_leaf (k : Keywords) (key : String) :
    (Node.leaf k).toJson.get? key = k.value? key := k.get?_entries key

theorem get?_toJson_array (k : Keywords) (items : Node) (key : String) :
    (Node.array k items).toJson.get? key
      = if key = "items" then some items.toJson else k.value? key :=
  k.get?_around rfl items.toJson key

theorem get?_toJson_object (k : Keywords) (properties : Entries Node) (key : String) :
    (Node.object k properties).toJson.get? key
      = if key = "properties" then some (.obj (propertiesToJson properties)) else k.value? key :=
  k.get?_around rfl (.obj (propertiesToJson properties)) key

/-- The keywords of a document are those of the node that it is written from. -/
theorem get?_toJson (n : Node) {key : String} (hitems : key ≠ "items")
    (hproperties : key ≠ "properties") : n.toJson.get? key = n.keywords.value? key := by
  cases n with
  | leaf k => exact get?_toJson_leaf k key
  | array k items => rw [get?_toJson_array, if_neg hitems, Node.keywords]
  | object k properties => rw [get?_toJson_object, if_neg hproperties, Node.keywords]

/-- What is directly inside the document of a node is the document of a node inside it. -/
theorem of_subschema_toJson {n : Node} {child : Json} (h : Subschema n.toJson child) :
    (∃ k items, n = .array k items ∧ child = items.toJson)
      ∨ ∃ k properties p, n = .object k properties ∧ p ∈ properties ∧ child = p.2.toJson := by
  cases h with
  | @property written name _ h hmem =>
    cases n with
    | leaf k =>
      rw [get?_toJson_leaf] at h
      cases h
    | array k items =>
      rw [get?_toJson_array] at h
      cases h
    | object k properties =>
      rw [get?_toJson_object] at h
      cases h
      rw [propertiesToJson_eq_map] at hmem
      obtain ⟨p, hp, heq⟩ := List.mem_map.mp hmem
      cases heq
      exact .inr ⟨k, properties, p, rfl, hp, rfl⟩
  | items h =>
    cases n with
    | leaf k =>
      rw [get?_toJson_leaf] at h
      cases h
    | array k items =>
      rw [get?_toJson_array] at h
      cases h
      exact .inl ⟨k, items, rfl, rfl⟩
    | object k properties =>
      rw [get?_toJson_object] at h
      cases h

/-! ## Sound nodes -/

/-- A node from which a sound document is written. -/
structure Node.Sound (n : Node) : Prop where
  required : ∀ names ∈ n.keywords.required, names ≠ [] ∧ names.Nodup
    ∧ ∃ k properties, n = .object k properties ∧ ∀ name ∈ names, name ∈ Entries.names properties
  limits : (LeafKind.number n.keywords.minimum n.keywords.maximum).WellFormed
  bounds : ItemBounds.WellFormed ⟨n.keywords.minItems, n.keywords.maxItems⟩

/-- Limits are compared as the numbers that they are written as. -/
theorem below_toJson (a b : Number.Limit) : Draft07.below b.toJson a.toJson = a.exceeds b := by
  have hnumber : ∀ limit : Number.Limit, Draft07.number? limit.toJson = limit.magnitude? := by
    intro limit
    cases limit <;> rfl
  unfold Draft07.below Number.Limit.exceeds
  rw [hnumber, hnumber]
  cases a.magnitude? <;> cases b.magnitude? <;> rfl

theorem Node.Sound.toJson {n : Node} (h : n.Sound) : SoundNode n.toJson := by
  refine ⟨⟨n.keywords.type, get?_toJson n (by decide) (by decide)⟩, ?_, ?_, ?_, ?_⟩
  · intro value hvalue
    rw [get?_toJson n (by decide) (by decide)] at hvalue
    obtain ⟨names, hnames, rfl⟩ := Option.map_eq_some_iff.mp hvalue
    obtain ⟨hne, hnodup, k, properties, rfl, hmem⟩ := h.required names hnames
    refine ⟨names, propertiesToJson properties, rfl, hne, hnodup, ?_, ?_⟩
    · rw [get?_toJson_object, if_pos rfl]
    · intro name hname
      rw [names_propertiesToJson]
      exact hmem name hname
  · intro min max hmin hmax
    rw [get?_toJson n (by decide) (by decide)] at hmin hmax
    obtain ⟨a, ha, rfl⟩ := Option.map_eq_some_iff.mp hmin
    obtain ⟨b, hb, rfl⟩ := Option.map_eq_some_iff.mp hmax
    rw [below_toJson]
    exact h.limits a ha b hb
  · exact ⟨_, h.bounds, get?_toJson n (by decide) (by decide),
      get?_toJson n (by decide) (by decide)⟩
  · intro value hvalue
    rw [get?_toJson n (by decide) (by decide)] at hvalue
    obtain ⟨options, _, rfl⟩ := Option.map_eq_some_iff.mp hvalue
    exact ⟨options, rfl⟩

theorem wellFormed_unlimited : (LeafKind.number none none).WellFormed := by
  simp [LeafKind.WellFormed]

theorem wellFormed_unbounded : ItemBounds.WellFormed ⟨none, none⟩ := ⟨by simp, by simp, by simp⟩

theorem Node.sound_leaf {k : Keywords} (hrequired : k.required = none)
    (hlimits : (LeafKind.number k.minimum k.maximum).WellFormed)
    (hbounds : ItemBounds.WellFormed ⟨k.minItems, k.maxItems⟩) : (Node.leaf k).Sound := by
  refine ⟨?_, hlimits, hbounds⟩
  intro names hnames
  rw [Node.keywords, hrequired] at hnames
  cases hnames

theorem sound_leafNode (title : Option String) {kind : LeafKind} (h : kind.WellFormed) :
    (leafNode title kind).Sound := by
  cases kind with
  | number min max => exact Node.sound_leaf rfl h wellFormed_unbounded
  | staticEnum choices =>
    cases choices <;> exact Node.sound_leaf rfl wellFormed_unlimited wellFormed_unbounded
  | _ => exact Node.sound_leaf rfl wellFormed_unlimited wellFormed_unbounded

theorem sound_arrayNode (title : Option String) {bounds : ItemBounds} (h : bounds.WellFormed)
    (items : Node) : (arrayNode title bounds items).Sound := by
  refine ⟨?_, wellFormed_unlimited, h⟩
  intro names hnames
  cases hnames

/-- Required names are written when there are any. -/
theorem of_mem_required {title : Option String} {version : Option Json} {m : Members}
    {names : List String} (h : names ∈ (objectNode title version m).keywords.required) :
    names ≠ [] ∧ names = firstOccurrences m.required := by
  have hwritten : (if (firstOccurrences m.required).isEmpty then none
      else some (firstOccurrences m.required)) = some names := h
  rw [Option.ite_none_left_eq_some, Option.some.injEq] at hwritten
  obtain ⟨hempty, rfl⟩ := hwritten
  refine ⟨?_, rfl⟩
  intro hnil
  rw [hnil] at hempty
  exact hempty rfl

/-- The required names of a scope are names of its fields, listed once each or not at all. -/
theorem sound_objectNode (title : Option String) (version : Option Json) (es : List Element)
    (scope : Scope) : (objectNode title version (members es scope)).Sound := by
  rw [members_eq]
  refine ⟨?_, wellFormed_unlimited, wellFormed_unbounded⟩
  intro names hnames
  obtain ⟨hne, hrequired⟩ := of_mem_required hnames
  have hnodup : names.Nodup := by
    rw [hrequired]
    exact nodup_firstOccurrences _
  refine ⟨hne, hnodup, _, _, rfl, ?_⟩
  intro name hname
  rw [hrequired, mem_firstOccurrences] at hname
  obtain ⟨f, hf, rfl⟩ := List.mem_map.mp hname
  rw [Members.ofFields, Entries.names_ofList, mem_firstOccurrences, Entries.names_map]
  exact List.mem_map_of_mem (List.mem_filter.mp hf).1

/-- The node of a field that makes sense is sound, and names no version. -/
theorem sound_fieldNode {f : Field} (h : f.toElement.WellFormed) :
    (fieldNode f).Sound ∧ (fieldNode f).keywords.version = none := by
  obtain ⟨head, body⟩ := f
  cases body with
  | leaf kind =>
    cases h with
    | leaf _ own =>
      refine ⟨sound_leafNode head.label own, ?_⟩
      cases kind with
      | staticEnum choices => cases choices <;> rfl
      | _ => rfl
  | array bounds items =>
    cases h with
    | array _ own _ => exact ⟨sound_arrayNode head.label own _, rfl⟩
  | object properties => exact ⟨sound_objectNode head.label none properties .root, rfl⟩

/-- A static choice that makes sense lists its options. -/
theorem listsChoices_leafNode (title : Option String) {choices : Choices} (h : choices.WellFormed) :
    ListsChoices (leafNode title (.staticEnum choices)).toJson := by
  cases choices with
  | plain values => exact .enum values h (get?_toJson_leaf _ "enum") (get?_toJson_leaf _ "oneOf")
  | labelled options =>
    exact .oneOf options h.1 (get?_toJson_leaf _ "oneOf") (get?_toJson_leaf _ "enum")

/-! ## Fields and their addresses -/

/-- The fields of a scope are among its elements, below any wrappers. -/
theorem exists_elementAt?_of_mem_contents (es : List Element) :
    ∀ f ∈ contents es, ∃ address, elementAt? es address = some f.toElement := by
  induction es using tree_induction with
  | nil => intro f hf; cases hf
  | cons e es ihinner ihtail =>
    intro f hf
    rw [contents_cons, List.mem_append] at hf
    -- the address of a wrapper is followed by an address inside it
    have hwrapped : f ∈ contents e.inner →
        ∃ address, elementAt? (e :: es) address = some f.toElement := by
      intro hf
      obtain ⟨address, haddress⟩ := ihinner f hf
      have hfirst : elementAt? (e :: es) [0] = some e := rfl
      refine ⟨[0] ++ address, ?_⟩
      rw [elementAt?_append hfirst (ne_nil_of_elementAt? haddress), haddress]
    rcases hf with hf | hf
    · cases e with
      | group label elements => exact hwrapped hf
      | conditional test elements => exact hwrapped hf
      | _ =>
        rw [List.mem_singleton.mp hf]
        exact ⟨[0], rfl⟩
    · obtain ⟨address, haddress⟩ := ihtail f hf
      cases address with
      | nil => cases haddress
      | cons i rest => exact ⟨(i + 1) :: rest, haddress⟩

/-! ## The nodes of a form -/

/-- The node of a scope is the same in every scope but the root. -/
theorem compile_of_nested {scope : Scope} (h : scope.isRoot = false) (es : List Element)
    (version : Json) : compile es scope version = objectNode none none (members es .root) := by
  rw [compile, versionIn, h, members_eq, members_eq]
  rfl

/-- What the fields inside a field call for. -/
theorem NodeOf.inside {es : List Element} {address : List Nat} {f : Field} {node : Json}
    (h : elementAt? es address = some f.toElement) (hnode : NodeOf f.children node) :
    NodeOf es node := by
  have hinside : ∀ {inner : List Nat} {e : Element}, elementAt? f.children inner = some e →
      elementAt? es (address ++ inner) = some e := by
    intro inner e he
    rw [elementAt?_append h (ne_nil_of_elementAt? he), inner_toElement, he]
  cases hnode with
  | field hfound hscope => exact .field (hinside hfound) hscope
  | items hfound hscope => exact .items (hinside hfound) hscope

theorem exists_leafNode_eq (title : Option String) (kind : LeafKind) :
    ∃ k, leafNode title kind = .leaf k := by
  cases kind with
  | staticEnum choices => cases choices <;> exact ⟨_, rfl⟩
  | _ => exact ⟨_, rfl⟩

/-- What is at or below the node of a field, given what is below the node of the scope that the
field opens. -/
theorem nodeOf_of_fieldNode {es : List Element} {address : List Nat} {f : Field}
    (haddress : elementAt? es address = some f.toElement)
    (hinside : ∀ title version scope node,
      TransGen Subschema (objectNode title version (members f.children scope)).toJson node →
        NodeOf f.children node)
    {node : Json} (hnode : ReflTransGen Subschema (fieldNode f).toJson node) : NodeOf es node := by
  have hinner : (⟨[0], ""⟩ : Scope).isRoot = false := rfl
  rcases hnode.cases_head with rfl | ⟨next, hstep, hrest⟩
  · rw [← ofField_of_nested hinner f]
    exact .field haddress hinner
  · obtain ⟨head, body⟩ := f
    cases body with
    | leaf kind =>
      -- the node of a leaf has none inside it
      obtain ⟨k, hk⟩ := exists_leafNode_eq head.label kind
      rw [fieldNode_leaf, hk] at hstep
      rcases of_subschema_toJson hstep with ⟨_, _, heq, _⟩ | ⟨_, _, _, heq, _⟩
      · cases heq
      · cases heq
    | array bounds items =>
      rcases of_subschema_toJson hstep with ⟨k, inner, heq, rfl⟩ | ⟨_, _, _, heq, _⟩
      · cases heq
        rcases hrest.cases_head with rfl | ⟨below, hstep, hrest⟩
        · rw [← compile_of_nested hinner items (.str draft07)]
          exact .items haddress hinner
        · exact (hinside _ _ _ node (.head' hstep hrest)).inside haddress
      · cases heq
    | object properties => exact (hinside _ _ _ node (.head' hstep hrest)).inside haddress

/-- **Below the node of a scope there are only nodes that its fields call for.** By induction over
scopes. -/
theorem nodeOf_of_below (es : List Element) : ∀ title version scope node,
    TransGen Subschema (objectNode title version (members es scope)).toJson node →
      NodeOf es node := by
  induction es using scope_induction with | step es ih => ?_
  intro title version scope node hnode
  obtain ⟨next, hstep, hrest⟩ := TransGen.head'_iff.mp hnode
  rcases of_subschema_toJson hstep with ⟨_, _, heq, _⟩ | ⟨k, properties, p, heq, hp, rfl⟩
  · cases heq
  · cases heq
    -- the properties of a scope are those of its fields
    rw [members_eq] at hp
    obtain ⟨f, hf, rfl⟩ := List.mem_map.mp (Entries.mem_of_mem_ofList hp)
    obtain ⟨address, haddress⟩ := exists_elementAt?_of_mem_contents es f hf
    exact nodeOf_of_fieldNode haddress (ih f hf) hrest

theorem NodeOf.sound {form : Form} (hform : form.WellFormed) {node : Json}
    (h : NodeOf form.elements node) : SoundNode node ∧ node.get? "$schema" = none := by
  cases h with
  | field hfound hscope =>
    obtain ⟨hsound, hversion⟩ := sound_fieldNode (hform.of_elementAt? hfound)
    rw [ofField_of_nested hscope]
    exact ⟨hsound.toJson, (get?_toJson _ (by decide) (by decide)).trans hversion⟩
  | @items _ _ _ items _ _ hscope =>
    rw [compile_of_nested hscope]
    exact ⟨(sound_objectNode none none items .root).toJson, get?_toJson _ (by decide) (by decide)⟩

/-! ## Whole forms -/

/-- **All nodes of a schema are sound.** Whatever the data, in the schema of a form that was loaded
from it the root names the version, and no node below it names one. At every depth a node has a
type; required names are there if there are any, once each, and are properties of the same node;
limits and bounds leave room for a value, and bounds are not negative. The nodes below the root are
those of fields of the form and of the items of its arrays, and the node of a static choice lists
its options in exactly one way. -/
theorem schema_nodes_sound {data : Json} {form : Form} (h : Form.load data = .ok form)
    (settings : Settings) (version : Json) :
    let document := (form.schema settings version).toJson
    document.get? "$schema" = some (orSetting version settings.schemaVersion)
      ∧ (∀ node, TransGen Subschema document node → node.get? "$schema" = none)
      ∧ (∀ node, ReflTransGen Subschema document node → SoundNode node)
      ∧ (∀ node, TransGen Subschema document node → NodeOf form.elements node)
      ∧ ∀ address head choices,
        elementAt? form.elements address = some (.leaf head (.staticEnum choices)) →
          ∀ scope, ListsChoices (ofField ⟨head, .leaf (.staticEnum choices)⟩ scope).toJson := by
  intro document
  have hform := wellFormed_of_load h
  have hnodes : ∀ node, TransGen Subschema document node → NodeOf form.elements node :=
    nodeOf_of_below form.elements none _ .root
  refine ⟨get?_toJson _ (by decide) (by decide), ?_, ?_, hnodes, ?_⟩
  · intro node hnode
    exact ((hnodes node hnode).sound hform).2
  · intro node hnode
    rcases Relation.reflTransGen_iff_eq_or_transGen.mp hnode with rfl | hnode
    · exact (sound_objectNode none _ form.elements .root).toJson
    · exact ((hnodes node hnode).sound hform).1
  · intro address head choices hfound scope
    have hleaf := hform.of_elementAt? hfound
    cases hleaf with
    | leaf _ own => exact listsChoices_leafNode head.label own

/-- A property with the name of a keyword, and below it a scope with a name that is required
twice. -/
theorem schema_nodes_sound_nested :
    let choice : Json := .obj [("type", .str "field"), ("kind", .str "static_enum"),
      ("name", .str "c"), ("required", .bool true), ("options", .arr [.str "x", .str "y"])]
    let data : Json := .arr [.obj [("type", .str "field"), ("kind", .str "array"),
      ("name", .str "$schema"), ("minItems", .int 0), ("maxItems", .int 2),
      ("items", .arr [choice, choice])]]
    let leaf : Element := .leaf ⟨"c", none, true⟩ (.staticEnum (.plain ["x", "y"]))
    let form : Form := ⟨[.array ⟨"$schema", none, false⟩ ⟨some 0, some 2⟩ [leaf, leaf]]⟩
    let document := (form.schema {} (.str "v")).toJson
    Form.load data = .ok form ∧ document.get? "$schema" = some (.str "v")
      ∧ ∃ node, TransGen Subschema document node ∧ node.get? "$schema" = none ∧ SoundNode node
        ∧ node.get? "required" = some (.ofStrings ["c"]) := by
  intro choice data leaf form document
  have hload : Form.load data = .ok form := by rfl
  obtain ⟨hroot, hbelow, hsound, _, _⟩ := schema_nodes_sound hload {} (.str "v")
  let inner := (compile [leaf, leaf] ⟨[0], ""⟩ (.str draft07)).toJson
  let outer := (ofField ⟨⟨"$schema", none, false⟩, .array ⟨some 0, some 2⟩ [leaf, leaf]⟩
    ⟨[0], ""⟩).toJson
  have hproperties : document.get? "properties" = some (.obj [("$schema", outer)]) := by rfl
  have hitems : outer.get? "items" = some inner := by rfl
  have hrequired : inner.get? "required" = some (.ofStrings ["c"]) := by rfl
  have houter : Subschema document outer := .property hproperties List.mem_cons_self
  have hinner : Subschema outer inner := .items hitems
  have hpath : TransGen Subschema document inner := .tail (.single houter) hinner
  exact ⟨hload, hroot, inner, hpath, hbelow inner hpath, hsound inner hpath.to_reflTransGen,
    hrequired⟩

end FormSchema.Schema
