import FormSchema.Proofs.Form.Places
import FormSchema.Proofs.Form.Reordering
import FormSchema.Proofs.Schema.Nodes

/-!
# FormSchema — the schema of a scope and the fields resolved in it

The compiler collects the members of a scope from its elements and never asks which fields the
resolution has there. Both come to the same: the node of a scope is determined by its placed fields.
A property has the place of the first field of its name and the node of the last, and its name is
required if any of them is.

* **`elementsOfScope?`** — the elements of a scope, looked up by its address.
* **`forall₂_elementsOfScope?`** — the scopes of a form and their elements, both in pre-order; two
  readings of the same nodes.
* **`exists_elements_of_mem_scopes`** — so the fields resolved in a scope are the contents of its
  elements.
* **`Describes`** — what a document says about placed fields, with **`describes_compile`** for the
  node of any elements.
* **`scope_node_determined`** — the statement about all scopes of a form.
-/

namespace FormSchema

/-! ## The elements of a scope -/

/-- The elements that a scope belongs to: those of the form, or those inside the array or object at
its address. -/
def elementsOfScope? (es : List Element) (s : Scope) : Option (List Element) :=
  if s.isRoot then some es
  else (elementAt? es s.address).bind fun e => if e.opensScope then some e.inner else none

/-- The elements inside the node, when it opens a scope. -/
def TreeNode.openedElements? (n : TreeNode) : Option (List Element) :=
  if n.element.opensScope then some n.element.inner else none

theorem Element.innerScopes_eq (e : Element) :
    e.innerScopes = (if e.opensScope then [e.inner] else []) ++ FormSchema.innerScopes e.inner := by
  cases e <;> rfl

/-- The scopes below are opened by the nodes. -/
theorem innerScopes_eq_filterMap (es : List Element) : ∀ above address index,
    innerScopes es = (nodesFrom above address index es).filterMap TreeNode.openedElements? := by
  induction es using tree_induction with
  | nil => intro above address index; rfl
  | cons e es ihinner ihtail =>
    intro above address index
    rw [nodesFrom_cons, List.filterMap_append, List.filterMap_cons, ← ihinner, ← ihtail,
      innerScopes, Element.innerScopes_eq, TreeNode.openedElements?]
    cases e.opensScope <;> rfl

/-- A node opens a scope of its address with its own elements inside, or none at all. -/
theorem rel_openedScope? {es : List Element} {n : TreeNode} (h : n ∈ nodes es) :
    Option.Rel (fun s inside => elementsOfScope? es s = some inside) n.openedScope?
      n.openedElements? := by
  obtain ⟨helement, _⟩ := ((listsTree_nodes es).mem_iff n).mp h
  unfold TreeNode.openedScope? TreeNode.openedElements?
  cases hopens : n.element.opensScope with
  | false => exact .none
  | true =>
    have hnested : ∀ path, (⟨n.address, path⟩ : Scope).isRoot = false := fun path =>
      List.isEmpty_eq_false_iff.mpr (ne_nil_of_elementAt? helement)
    refine .some ?_
    rw [elementsOfScope?, hnested, if_neg Bool.false_ne_true, helement, Option.bind_some,
      if_pos hopens]

/-- The scopes of a form have the elements of its scopes. -/
theorem forall₂_elementsOfScope? (es : List Element) :
    List.Forall₂ (fun s inside => elementsOfScope? es s = some inside) (resolve es).scopes
      (es :: innerScopes es) := by
  have hnodes : List.Forall₂ (fun n m => n = m ∧ n ∈ nodes es) (nodes es) (nodes es) :=
    List.forall₂_same.mpr fun n hn => ⟨rfl, hn⟩
  rw [scopes_resolve, innerScopes_eq_filterMap es [] [] 0]
  refine .cons rfl (List.rel_filterMap ?_ hnodes)
  rintro n _ ⟨rfl, hn⟩
  exact rel_openedScope? hn

/-- **The fields resolved in a scope are the contents of its elements.** The scopes of a resolution
and the lists that they stand for are matched by their positions. -/
theorem exists_elements_of_mem_scopes {es : List Element} {s : Scope}
    (hs : s ∈ (resolve es).scopes) : ∃ inside, elementsOfScope? es s = some inside
      ∧ ((resolve es).fieldsIn s).map (·.field) = contents inside := by
  have hbodies := (renders_resolve es).scopes
  have helements := forall₂_elementsOfScope? es
  have hlists : es :: innerScopes es = (bodies es).map (·.elements) :=
    congrArg (es :: ·) (elements_bodiesBelow "" es).symm
  rw [hlists, List.forall₂_map_right_iff] at helements
  obtain ⟨i, hi, rfl⟩ := List.mem_iff_get.mp hs
  have hlength : i < (bodies es).length := hbodies.length_eq ▸ i.isLt
  have hstands := hbodies.get i.isLt hlength
  refine ⟨_, helements.get i.isLt hlength, ?_⟩
  have hfields := congrArg (List.map Prod.fst) hstands.fields
  rw [List.map_map, ScopeBody.fields, fst_locatedContents] at hfields
  exact hfields

namespace Schema

/-! ## What a document says about placed fields -/

/-- `Describes node placed`: the document of a scope describes the fields placed in it. It has a
property for each of their names, in order of first occurrence. A property is the node of the last
field of its name, whatever scope but the root it is written for. Required are the names that some
field is required under, once each and in order of first occurrence. -/
structure Describes (node : Json) (placed : List FieldPlacement) : Prop where
  properties : ∃ properties : Entries Json, node.get? "properties" = some (.obj properties)
    ∧ properties.names = firstOccurrences (placed.map (·.field.name))
    ∧ ∀ (name : String) (opened : Scope), opened.isRoot = false →
      properties.get? name = (placed.filter fun p => p.field.name = name).getLast?.map
        fun p => (ofField p.field opened).toJson
  required : node.get? "required" =
    if placed.any (·.field.required) then
      some (.ofStrings (firstOccurrences ((placed.filter (·.field.required)).map (·.field.name))))
    else none

theorem get?_properties_objectNode (title : Option String) (version : Option Json) (m : Members) :
    (objectNode title version m).toJson.get? "properties"
      = some (.obj (propertiesToJson m.properties)) := by
  rw [objectNode, get?_toJson_object, if_pos rfl]

theorem get?_required_objectNode (title : Option String) (version : Option Json) (m : Members) :
    (objectNode title version m).toJson.get? "required"
      = if (firstOccurrences m.required).isEmpty then none
        else some (.ofStrings (firstOccurrences m.required)) := by
  rw [objectNode, get?_toJson_object, if_neg (by decide)]
  cases (firstOccurrences m.required).isEmpty <;> rfl

/-- The property of a name is that of the last field with the name. -/
theorem get?_properties_ofFields (fs : List Field) (name : String) :
    (Members.ofFields fs).properties.get? name
      = (fs.filter fun f => f.name = name).getLast?.map fieldNode := by
  rw [Members.ofFields, Entries.get?_ofList, Entries.valuesAt, List.filter_map, List.map_map,
    List.getLast?_map]
  rfl

/-- The node of any elements describes the fields that are their contents. -/
theorem describes_compile {inside : List Element} {placed : List FieldPlacement}
    (h : placed.map (·.field) = contents inside) (s : Scope) (version : Json) :
    Describes (compile inside s version).toJson placed := by
  rw [compile, members_eq, ← h]
  refine ⟨⟨_, get?_properties_objectNode _ _ _, ?_, ?_⟩, ?_⟩
  · rw [names_propertiesToJson, Members.ofFields, Entries.names_ofList, Entries.names_map,
      List.map_map]
    rfl
  · intro name opened hopened
    rw [get?_propertiesToJson, get?_properties_ofFields, List.filter_map, List.getLast?_map,
      Option.map_map, Option.map_map]
    refine Option.map_congr fun p _ => ?_
    rw [ofField_of_nested hopened]
    rfl
  · -- names are listed if there are any, which is so if some field is required
    have hempty : (placed.filter (·.field.required)).isEmpty = !placed.any (·.field.required) := by
      rw [Bool.eq_iff_iff, List.isEmpty_iff, List.filter_eq_nil_iff, Bool.not_eq_true',
        List.any_eq_false]
    have hnames : (Members.ofFields (placed.map (·.field))).required
        = (placed.filter (·.field.required)).map (·.field.name) := by
      rw [Members.ofFields, List.filter_map, List.map_map, List.map_map]
      rfl
    rw [get?_required_objectNode, hnames, isEmpty_firstOccurrences, List.isEmpty_map, hempty]
    cases placed.any (·.field.required) <;> rfl

end Schema

/-- **The schema of a scope is determined by the fields resolved in it.** Every scope of a form's
resolution has its elements, and what they are compiled to in this scope, for every version,
describes the fields that the resolution has there. -/
theorem scope_node_determined (form : Form) (version : Json) :
    ∀ s ∈ (resolve form.elements).scopes, ∃ inside, elementsOfScope? form.elements s = some inside
      ∧ Schema.Describes (Schema.compile inside s version).toJson
        ((resolve form.elements).fieldsIn s) := by
  intro s hs
  obtain ⟨inside, helements, hfields⟩ := exists_elements_of_mem_scopes hs
  exact ⟨inside, helements, Schema.describes_compile hfields s version⟩

/-- The scope of an object inside the items of an array, with a name that a group and a conditional
declare again: first as a required text, and last as a number that is not. -/
theorem scope_node_determined_repeated_name :
    let first : Field := ⟨⟨"a", none, true⟩, .leaf (.text none)⟩
    let last : Field := ⟨⟨"a", some "A", false⟩, .leaf (.number none none)⟩
    let flag : Field := ⟨⟨"b", none, false⟩, .leaf .boolean⟩
    let inside : List Element := [.group "G" [first.toElement, flag.toElement],
      .conditional ⟨"b", .bool true⟩ [last.toElement]]
    let form : Form := ⟨[flag.toElement, .array ⟨"rows", none, false⟩ ⟨none, none⟩
      [flag.toElement, .object ⟨"box", none, false⟩ inside]]⟩
    let box : Scope := ⟨[1, 1], "rows[].box"⟩
    box ∈ (resolve form.elements).scopes
      ∧ (Schema.compile inside box .null).toJson.get? "required" = some (.arr [.str "a"])
      ∧ ∃ properties : Entries Json,
        (Schema.compile inside box .null).toJson.get? "properties" = some (.obj properties)
        ∧ properties.names = ["a", "b"]
        ∧ properties.get? "a" = some (Schema.ofField last ⟨[7], "elsewhere"⟩).toJson := by
  intro first last flag inside form box
  have hbox : box ∈ (resolve form.elements).scopes := by decide
  obtain ⟨found, hfound, hdescribes⟩ := scope_node_determined form .null box hbox
  have hinside : found = inside := Option.some.inj (hfound.symm.trans rfl)
  have hplaced : (resolve form.elements).fieldsIn box
      = [⟨first, box, [], "rows[].box.[G].a"⟩, ⟨flag, box, [], "rows[].box.[G].b"⟩,
        ⟨last, box, [⟨"b", .bool true⟩], "rows[].box.when(b).a"⟩] := rfl
  rw [hinside, hplaced] at hdescribes
  obtain ⟨⟨properties, hproperties, hnames, hvalues⟩, hrequired⟩ := hdescribes
  refine ⟨hbox, hrequired.trans rfl, properties, hproperties, hnames.trans rfl, ?_⟩
  exact (hvalues "a" ⟨[7], "elsewhere"⟩ rfl).trans rfl

end FormSchema
