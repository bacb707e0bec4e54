import FormSchema.Compiler
import FormSchema.Proofs.Form.Reordering
import FormSchema.Proofs.Form.Unambiguous
import FormSchema.Proofs.Schema.Members

/-!
# FormSchema — the order of declarations in schemas

The last field of a name is the one that a schema describes, so where a name is repeated the order
of declarations matters. Where none is, forms whose siblings stand in another order have schemas
that differ by the order of members and of required names only.

* **`SameUpToOrder`** — documents with members and required names in another order, at any depth;
  **`SameUpToOrder.alikeUnder`** compares them key by key.
* **`Rearranged`** — fields in another order, with nodes that are the same up to order.
* **`sameUpToOrder_objectNode`** — fields that are rearranged are compiled to nodes that are the same
  up to order, if no name is repeated. What is inside arrays and objects comes in by `Rearranged`.
* **`unambiguous_of_reordered`** — no order of declarations repeats a name that another does not.
* **`rearranged_contents`** — reordered elements have rearranged contents, by induction on the
  reordering.
* **`schema_of_reordered`** — the statement about whole forms, and
  **`schema_of_repeated_name_reordered`** a form with a repeated name.
-/

namespace FormSchema.Schema

/-! ## Documents up to order -/

/-- `SameUpToOrder d d'`: the documents differ at most by the order of the members of objects, and
by the order and the repetitions of the names under `required`, at any depth. Only a list is a list
of required names: a property that happens to be called so has a schema for its value. -/
inductive SameUpToOrder : Json → Json → Prop where
  | refl (d : Json) : SameUpToOrder d d
  | order {members members' : Entries Json} (distinct : members.names.Nodup)
      (h : members.Perm members') : SameUpToOrder (.obj members) (.obj members')
  | required (before after : Entries Json) {names names' : List String}
      (h : ∀ name, name ∈ names ↔ name ∈ names') :
      SameUpToOrder (.obj (before ++ [("required", .ofStrings names)] ++ after))
        (.obj (before ++ [("required", .ofStrings names')] ++ after))
  | member (before after : Entries Json) (key : String) {value value' : Json}
      (h : SameUpToOrder value value') :
      SameUpToOrder (.obj (before ++ [(key, value)] ++ after))
        (.obj (before ++ [(key, value')] ++ after))
  | trans {d d' d'' : Json} (h : SameUpToOrder d d') (h' : SameUpToOrder d' d'') :
      SameUpToOrder d d''

/-! ### Reading such documents -/

/-- `AlikeUnder key v v'`: what two documents have under a key, if they have it, is the same up to
order, or the same set of required names. -/
inductive AlikeUnder (key : String) : Option Json → Option Json → Prop where
  | absent : AlikeUnder key none none
  | value {v v' : Json} (h : SameUpToOrder v v') : AlikeUnder key (some v) (some v')
  | names {names names' : List String} (hkey : key = "required")
      (h : ∀ name, name ∈ names ↔ name ∈ names') :
      AlikeUnder key (some (.ofStrings names)) (some (.ofStrings names'))

theorem AlikeUnder.refl (key : String) (v : Option Json) : AlikeUnder key v v := by
  cases v with
  | none => exact .absent
  | some v => exact .value (.refl v)

/-- Only objects are changed. -/
theorem SameUpToOrder.eq_or_obj {d d' : Json} (h : SameUpToOrder d d') :
    d = d' ∨ ∃ members members', d = .obj members ∧ d' = .obj members' := by
  induction h with
  | refl d => exact .inl rfl
  | order _ _ => exact .inr ⟨_, _, rfl, rfl⟩
  | required _ _ _ => exact .inr ⟨_, _, rfl, rfl⟩
  | member _ _ _ _ => exact .inr ⟨_, _, rfl, rfl⟩
  | trans _ _ ih ih' =>
    rcases ih with rfl | ⟨members, middle, rfl, rfl⟩
    · exact ih'
    · rcases ih' with rfl | ⟨_, members', _, rfl⟩
      · exact .inr ⟨_, _, rfl, rfl⟩
      · exact .inr ⟨_, _, rfl, rfl⟩

theorem ofStrings_injective : Function.Injective Json.ofStrings := by
  intro names names' h
  have hinjective : Function.Injective Json.str := fun _ _ => Json.str.inj
  exact hinjective.list_map (Json.arr.inj h)

theorem AlikeUnder.trans {key : String} {v v' v'' : Option Json} (h : AlikeUnder key v v')
    (h' : AlikeUnder key v' v'') : AlikeUnder key v v'' := by
  cases h with
  | absent => exact h'
  | value h =>
    cases h' with
    | value h' => exact .value (h.trans h')
    | names hkey h' =>
      -- a list of names has no other list that is the same up to order
      rcases h.eq_or_obj with rfl | ⟨_, _, _, hobj⟩
      · exact .names hkey h'
      · cases hobj
  | @names names middle hkey h =>
    generalize hmiddle : Json.ofStrings middle = value at h'
    cases h' with
    | value h' =>
      rcases h'.eq_or_obj with rfl | ⟨_, _, hobj, _⟩
      · exact hmiddle ▸ .names hkey h
      · cases hmiddle.trans hobj
    | names _ h' =>
      rw [ofStrings_injective hmiddle] at h
      exact .names hkey fun name => (h name).trans (h' name)

/-- One member is replaced. -/
theorem alikeUnder_replaced (before after : Entries Json) {name : String} {v v' : Json}
    (h : AlikeUnder name (some v) (some v')) (key : String) :
    AlikeUnder key (Json.get? (.obj (before ++ [(name, v)] ++ after)) key)
      (Json.get? (.obj (before ++ [(name, v')] ++ after)) key) := by
  show AlikeUnder key (Entries.get? _ key) (Entries.get? _ key)
  rw [Entries.get?_append, Entries.get?_append, Entries.get?_append, Entries.get?_append,
    Entries.get?_cons, Entries.get?_cons]
  by_cases hkey : key = name
  · subst hkey
    cases before.get? key with
    | none => simpa using h
    | some found => exact .refl key (some found)
  · rw [if_neg hkey, if_neg hkey]
    exact .refl key _

/-- **Documents that are the same up to order agree under every key**, so that nothing else is
changed by all steps together. -/
theorem SameUpToOrder.alikeUnder {d d' : Json} (h : SameUpToOrder d d') (key : String) :
    AlikeUnder key (d.get? key) (d'.get? key) := by
  induction h with
  | refl d => exact .refl key _
  | @order members members' distinct h =>
    have heq : Json.get? (.obj members) key = Json.get? (.obj members') key :=
      Entries.get?_eq_of_perm h distinct key
    rw [heq]
    exact .refl key _
  | required before after h => exact alikeUnder_replaced before after (.names rfl h) key
  | member before after name h _ => exact alikeUnder_replaced before after (.value h) key
  | trans _ _ ih ih' => exact ih.trans ih'

/-- Under any other key than that of required names the values are the same up to order. -/
theorem SameUpToOrder.under {d d' v v' : Json} (h : SameUpToOrder d d') {key : String}
    (hkey : key ≠ "required") (hv : d.get? key = some v) (hv' : d'.get? key = some v') :
    SameUpToOrder v v' := by
  have halike := h.alikeUnder key
  rw [hv, hv'] at halike
  generalize hsome : some v = left at halike
  generalize hsome' : some v' = right at halike
  cases halike with
  | absent => cases hsome
  | value h =>
    cases hsome
    cases hsome'
    exact h
  | names hrequired _ => exact absurd hrequired hkey

/-! ### Nodes of arrays -/

/-- An array whose items have another node. -/
theorem sameUpToOrder_arrayNode (title : Option String) (bounds : ItemBounds) {items items' : Node}
    (h : SameUpToOrder items.toJson items'.toJson) :
    SameUpToOrder (arrayNode title bounds items).toJson (arrayNode title bounds items').toJson :=
  .member _ _ "items" h

/-! ## Fields in another order -/

/-- `Rearranged fs gs`: the fields stand in another order, and some are replaced by fields of the
same head whose nodes are the same up to order. -/
inductive Rearranged : List Field → List Field → Prop where
  | perm {fs gs : List Field} (h : fs.Perm gs) : Rearranged fs gs
  | replaced (before after : List Field) {f g : Field} (head : f.toFieldHead = g.toFieldHead)
      (node : SameUpToOrder (fieldNode f).toJson (fieldNode g).toJson) :
      Rearranged (before ++ [f] ++ after) (before ++ [g] ++ after)
  | trans {fs gs hs : List Field} (h : Rearranged fs gs) (h' : Rearranged gs hs) :
      Rearranged fs hs

namespace Rearranged

variable {fs gs : List Field}

theorem among (h : Rearranged fs gs) (before after : List Field) :
    Rearranged (before ++ fs ++ after) (before ++ gs ++ after) := by
  induction h with
  | perm h => exact .perm ((h.append_left before).append_right after)
  | replaced inner outer head node =>
    have hstep := Rearranged.replaced (before ++ inner) (outer ++ after) head node
    simpa only [List.append_assoc] using hstep
  | trans _ _ ih ih' => exact ih.trans ih'

theorem perm_heads (h : Rearranged fs gs) :
    (fs.map (·.toFieldHead)).Perm (gs.map (·.toFieldHead)) := by
  induction h with
  | perm h => exact h.map _
  | replaced before after head node =>
    rw [List.map_append, List.map_append, List.map_append, List.map_append, List.map_singleton,
      List.map_singleton, head]
  | trans _ _ ih ih' => exact ih.trans ih'

theorem perm_names (h : Rearranged fs gs) : (fs.map (·.name)).Perm (gs.map (·.name)) := by
  have hnames := h.perm_heads.map (·.name)
  rwa [List.map_map, List.map_map] at hnames

/-- The same names are required. -/
theorem perm_required (h : Rearranged fs gs) :
    ((fs.filter (·.required)).map (·.name)).Perm ((gs.filter (·.required)).map (·.name)) := by
  have hrequired := (h.perm_heads.filter (·.required)).map (·.name)
  rwa [List.filter_map, List.filter_map, List.map_map, List.map_map] at hrequired

end Rearranged

/-! ## Nodes of rearranged fields -/

/-- The properties that fields are compiled to, if no name is repeated among them. -/
def fieldProperties (fs : List Field) : Entries Json :=
  fs.map fun f => (f.name, (fieldNode f).toJson)

theorem fieldProperties_append (fs gs : List Field) :
    fieldProperties (fs ++ gs) = fieldProperties fs ++ fieldProperties gs := List.map_append

theorem names_fieldProperties (fs : List Field) :
    (fieldProperties fs).names = fs.map (·.name) := Entries.names_map _ _ fs

theorem propertiesToJson_ofFields {fs : List Field} (h : (fs.map (·.name)).Nodup) :
    propertiesToJson (Members.ofFields fs).properties = fieldProperties fs := by
  have hdistinct : (Entries.names (fs.map fun f => (f.name, fieldNode f))).Nodup := by
    rwa [Entries.names_map]
  rw [Members.ofFields, Entries.ofList_of_nodup hdistinct, propertiesToJson_eq_map, List.map_map]
  rfl

/-- Rearranged fields have the same properties up to order. -/
theorem sameUpToOrder_fieldProperties {fs gs : List Field} (h : Rearranged fs gs)
    (hnames : (fs.map (·.name)).Nodup) :
    SameUpToOrder (.obj (fieldProperties fs)) (.obj (fieldProperties gs)) := by
  induction h with
  | @perm fs gs h =>
    have hdistinct : (fieldProperties fs).names.Nodup := by rwa [names_fieldProperties]
    exact .order hdistinct (h.map _)
  | @replaced before after f g head node =>
    have hname : f.name = g.name := congrArg FieldHead.name head
    have hreplaced : fieldProperties [g] = [(f.name, (fieldNode g).toJson)] := by
      rw [hname]
      rfl
    rw [fieldProperties_append, fieldProperties_append, fieldProperties_append,
      fieldProperties_append, hreplaced]
    exact .member _ _ f.name node
  | trans h _ ih ih' => exact (ih hnames).trans (ih' (h.perm_names.nodup_iff.mp hnames))

/-- The keyword that lists required names, once each, if there are any. -/
def requiredKeyword (names : List String) : Entries Json :=
  if names.isEmpty then [] else [("required", .ofStrings (firstOccurrences names))]

theorem toJson_objectNode (title : Option String) (version : Option Json) (m : Members) :
    (objectNode title version m).toJson
      = .obj (Keywords.front { type := .object, title, version }
        ++ [("properties", .obj (propertiesToJson m.properties))] ++ requiredKeyword m.required) := by
  rw [requiredKeyword, ← isEmpty_firstOccurrences, objectNode, Node.toJson]
  cases (firstOccurrences m.required).isEmpty <;> rfl

/-- The keyword lists the same names, or is missing on both sides. -/
theorem sameUpToOrder_requiredKeyword (before : Entries Json) {names names' : List String}
    (h : names.Perm names') :
    SameUpToOrder (.obj (before ++ requiredKeyword names))
      (.obj (before ++ requiredKeyword names')) := by
  unfold requiredKeyword
  rw [h.isEmpty_eq]
  split
  · exact .refl _
  · have hsame : ∀ name, name ∈ firstOccurrences names ↔ name ∈ firstOccurrences names' := by
      intro name
      rw [mem_firstOccurrences, mem_firstOccurrences, h.mem_iff]
    have hstep := SameUpToOrder.required before [] hsame
    rwa [List.append_nil, List.append_nil] at hstep

/-- **Rearranged contents have one node up to order**, if no name is repeated among them. -/
theorem sameUpToOrder_objectNode {es es' : List Element}
    (h : Rearranged (contents es) (contents es')) (hnames : ((contents es).map (·.name)).Nodup)
    (title : Option String) (version : Option Json) :
    SameUpToOrder (objectNode title version (members es .root)).toJson
      (objectNode title version (members es' .root)).toJson := by
  have hnames' := h.perm_names.nodup_iff.mp hnames
  rw [toJson_objectNode, toJson_objectNode, members_eq, members_eq,
    propertiesToJson_ofFields hnames, propertiesToJson_ofFields hnames']
  -- first the properties, and then the required names
  have hproperties := SameUpToOrder.member (Keywords.front { type := .object, title, version })
    (requiredKeyword (Members.ofFields (contents es)).required) "properties"
    (sameUpToOrder_fieldProperties h hnames)
  exact hproperties.trans (sameUpToOrder_requiredKeyword _ h.perm_required)

/-! ## Reordered elements -/

theorem contents_eq_flatMap (es : List Element) : contents es = es.flatMap Element.content := by
  induction es with
  | nil => rfl
  | cons e es ih => rw [contents_cons, ih, List.flatMap_cons]

/-- No order of declarations repeats a name that another one does not. -/
theorem unambiguous_of_reordered {es es' : List Element} (h : Reordered es es')
    (hes : Unambiguous es) : Unambiguous es' := by
  have hproblems := ((problems_checkStructure ⟨es⟩).trans
    ((scopeProblems_perm h).append (problems_perm h))).trans (problems_checkStructure ⟨es'⟩).symm
  refine (unambiguous_iff_checkStructure ⟨es'⟩).mpr ?_
  intro i hi
  -- the code of an issue is part of the problem, which some issue before reordering reports
  have hmem := hproblems.mem_iff.mpr (List.mem_map_of_mem (f := Issue.problem) hi)
  obtain ⟨j, hj, hsame⟩ := List.mem_map.mp hmem
  have hcode : j.code = i.code := congrArg (·.2.1) hsame
  rw [← hcode]
  exact (unambiguous_iff_checkStructure ⟨es⟩).mp hes j hj

theorem unambiguous_of_among {before after es : List Element}
    (h : Unambiguous (before ++ es ++ after)) : Unambiguous es := by
  rw [unambiguous_iff, contents_append, contents_append] at h
  obtain ⟨hnames, hnested⟩ := h
  rw [unambiguous_iff]
  refine ⟨?_, ?_⟩
  · refine hnames.sublist (List.Sublist.map _ ?_)
    exact (List.sublist_append_right _ _).trans (List.sublist_append_left _ _)
  · intro f hf
    exact hnested f (List.mem_append_left _ (List.mem_append_right _ hf))

/-- An element with reordered elements inside it, given that these have rearranged contents. -/
theorem rearranged_withInner (e : Element) {inner : List Element} (hes : Unambiguous [e])
    (ih : Unambiguous e.inner → Rearranged (contents e.inner) (contents inner)) :
    Rearranged (contents [e]) (contents [e.withInner inner]) := by
  rw [unambiguous_iff, contents_cons, contents_nil, List.append_nil] at hes
  rw [contents_cons, contents_cons, contents_nil, List.append_nil, List.append_nil]
  obtain ⟨hnames, hnested⟩ := hes
  cases e with
  | leaf head kind => exact .perm (.refl _)
  | array head bounds items =>
    have hitems : Unambiguous items := hnested _ (List.mem_singleton_self _)
    exact .replaced [] [] rfl (sameUpToOrder_arrayNode head.label bounds
      (sameUpToOrder_objectNode (ih hitems) ((unambiguous_iff items).mp hitems).1 none none))
  | object head properties =>
    have hproperties : Unambiguous properties := hnested _ (List.mem_singleton_self _)
    exact .replaced [] [] rfl (sameUpToOrder_objectNode (ih hproperties)
      ((unambiguous_iff properties).mp hproperties).1 head.label none)
  | group label elements => exact ih ⟨hnames, hnested⟩
  | conditional test elements => exact ih ⟨hnames, hnested⟩

/-- **Reordered elements have rearranged contents**, if no name is repeated at any depth. Induction
on the reordering. -/
theorem rearranged_contents {es es' : List Element} (h : Reordered es es') (hes : Unambiguous es) :
    Rearranged (contents es) (contents es') := by
  induction h with
  | siblings h =>
    rw [contents_eq_flatMap, contents_eq_flatMap]
    exact .perm (h.flatMap_right _)
  | inside e _ ih => exact rearranged_withInner e hes ih
  | among before after _ ih =>
    rw [contents_append, contents_append, contents_append, contents_append]
    exact (ih (unambiguous_of_among hes)).among _ _
  | trans h _ ih ih' => exact (ih hes).trans (ih' (unambiguous_of_reordered h hes))

end FormSchema.Schema

namespace FormSchema

/-- **Without repeated names the schema does not depend on the order of declarations.** Forms that
differ by the order of siblings, at the top and inside any elements, have the same schema for every
version up to the order of members and of required names, if no repeated name is reported. -/
theorem schema_of_reordered (settings : Settings) (version : Json) {form form' : Form}
    (hdistinct : ∀ i ∈ form.checkStructure.issues, i.code ≠ some "DUPLICATE_FIELD_NAME")
    (h : Reordered form.elements form'.elements) :
    Schema.SameUpToOrder (form.schema settings version).toJson
      (form'.schema settings version).toJson := by
  have hes := unambiguous_of_checkStructure hdistinct
  exact Schema.sameUpToOrder_objectNode (Schema.rearranged_contents h hes)
    ((unambiguous_iff _).mp hes).1 none _

/-- Siblings change places at the top and in a group inside the items of an array. Members and
required names come in another order. -/
theorem schema_of_reordered_nested :
    let a : Element := .leaf ⟨"a", none, true⟩ (.text none)
    let b : Element := .leaf ⟨"b", none, true⟩ .boolean
    let rows : List Element → Element := .array ⟨"rows", none, false⟩ ⟨some 1, none⟩
    let form : Form := ⟨[rows [.group "G" [a, b]], b, a]⟩
    let form' : Form := ⟨[b, a, rows [.group "G" [b, a]]]⟩
    (∀ i ∈ form.checkStructure.issues, i.code ≠ some "DUPLICATE_FIELD_NAME")
      ∧ Reordered form.elements form'.elements
      ∧ Schema.SameUpToOrder (form.schema {} .null).toJson (form'.schema {} .null).toJson
      ∧ (form.schema {} .null).toJson.same (form'.schema {} .null).toJson = false := by
  intro a b rows form form'
  have hdistinct : ∀ i ∈ form.checkStructure.issues, i.code ≠ some "DUPLICATE_FIELD_NAME" := by
    decide +kernel
  have hgroup : Reordered [Element.group "G" [a, b]] [.group "G" [b, a]] :=
    .inside (.group "G" [a, b]) (.siblings (.swap _ _ _))
  have hrows := Reordered.among [] [b, a] (.inside (rows [.group "G" [a, b]]) hgroup)
  have htop : ([rows [.group "G" [b, a]]] ++ [b, a]).Perm ([b, a] ++ [rows [.group "G" [b, a]]]) :=
    List.perm_append_comm
  have h : Reordered form.elements form'.elements := hrows.trans (.siblings htop)
  have hdiffer : (form.schema {} .null).toJson.same (form'.schema {} .null).toJson = false := by
    decide +kernel
  exact ⟨hdistinct, h, schema_of_reordered {} .null hdistinct h, hdiffer⟩

/-- A name that is declared as a text and as a flag: the last one is described, so the schemas of
both orders say different things about it. -/
theorem schema_of_repeated_name_reordered :
    let text : Element := .leaf ⟨"a", none, false⟩ (.text none)
    let flag : Element := .leaf ⟨"a", none, false⟩ .boolean
    let form : Form := ⟨[text, flag]⟩
    let form' : Form := ⟨[flag, text]⟩
    Reordered form.elements form'.elements
      ∧ ¬ Schema.SameUpToOrder (form.schema {} .null).toJson (form'.schema {} .null).toJson := by
  intro text flag form form'
  have hreordered : Reordered [text, flag] [flag, text] := .siblings (.swap flag text [])
  refine ⟨hreordered, ?_⟩
  intro h
  let described : String → Json := fun type => .obj [("a", .obj [("type", .str type)])]
  have hflag : (form.schema {} .null).toJson.get? "properties" = some (described "boolean") := rfl
  have htext : (form'.schema {} .null).toJson.get? "properties" = some (described "string") := rfl
  have hproperties := h.under (by decide) hflag htext
  have hproperty := hproperties.under (by decide : "a" ≠ "required") rfl rfl
  have htype : Schema.SameUpToOrder (.str "boolean") (.str "string") :=
    hproperty.under (by decide : "type" ≠ "required") rfl rfl
  rcases htype.eq_or_obj with heq | ⟨_, _, hobj, _⟩
  · exact absurd (Json.str.inj heq) (by decide)
  · cases hobj

end FormSchema
