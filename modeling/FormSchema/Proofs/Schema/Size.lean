import FormSchema.Compiler
import FormSchema.Proofs.Form.Unambiguous
import FormSchema.Proofs.Schema.Members

/-!
# FormSchema — the size of schemas

A schema describes at most as many properties as its form declares fields. It loses some exactly if
a name is declared twice in a scope, since only the last of such fields is described, and with the
others all that they nest is lost, too.

* **`propertyCount`** — the properties in a schema document, at every depth, read off the document.
* **`fieldCount`** — the fields in a tree, at every depth.
* **`propertyCount_le`** — the comparison, with the exact condition for equality. By induction over
  scopes: what one scope loses is weighed by `Entries.total_ofList_eq_iff`, what the scopes below it
  lose by the induction hypothesis.
* **`schema_loses_repeated_names`** — the statement about whole forms.
-/

namespace FormSchema

/-! ## Counting in documents -/

mutual

/-- The number of properties in a schema document, with those of the schemas of items and of
properties. -/
def propertyCount : Json → Nat
  | .obj keywords => countKeywords keywords
  | _ => 0

def countKeywords : List (String × Json) → Nat
  | [] => 0
  | (key, value) :: rest =>
    (if key = "properties" then countProperties value
      else if key = "items" then propertyCount value
      else 0) + countKeywords rest

def countProperties : Json → Nat
  | .obj schemas => countSchemas schemas
  | _ => 0

def countSchemas : List (String × Json) → Nat
  | [] => 0
  | (_, schema) :: rest => 1 + propertyCount schema + countSchemas rest

end

namespace Schema

theorem countKeywords_append (xs ys : List (String × Json)) :
    countKeywords (xs ++ ys) = countKeywords xs + countKeywords ys := by
  induction xs with
  | nil => simp [countKeywords]
  | cons x xs ih =>
    obtain ⟨key, value⟩ := x
    rw [List.cons_append, countKeywords, countKeywords, ih, Nat.add_assoc]

theorem countKeywords_cons_other {key : String} (hproperties : key ≠ "properties")
    (hitems : key ≠ "items") (value : Json) (rest : List (String × Json)) :
    countKeywords ((key, value) :: rest) = countKeywords rest := by
  rw [countKeywords, if_neg hproperties, if_neg hitems, Nat.zero_add]

theorem countKeywords_keyword {α : Type} {name : String} (hproperties : name ≠ "properties")
    (hitems : name ≠ "items") (value : Option α) (write : α → Json) :
    countKeywords (keyword name value write) = 0 := by
  cases value with
  | none => rfl
  | some v => exact countKeywords_cons_other hproperties hitems (write v) []

/-- The keywords of a node that hold no other node describe no properties. -/
theorem countKeywords_front (k : Keywords) : countKeywords k.front = 0 := by
  simp [Keywords.front, countKeywords_append, countKeywords_keyword, countKeywords]

theorem countKeywords_back (k : Keywords) : countKeywords k.back = 0 := by
  simp [Keywords.back, countKeywords_append, countKeywords_keyword]

/-- The weight of a property: itself and the properties in its schema. -/
def propertyWeight (node : Node) : Nat := 1 + propertyCount node.toJson

theorem countSchemas_propertiesToJson (properties : Entries Node) :
    countSchemas (propertiesToJson properties) = properties.total propertyWeight := by
  induction properties with
  | nil => rfl
  | cons p properties ih =>
    rw [propertiesToJson, countSchemas, ih, Entries.total_cons, propertyWeight]

theorem propertyCount_leafNode (title : Option String) (kind : LeafKind) :
    propertyCount (leafNode title kind).toJson = 0 := by
  have hleaf : ∃ k, leafNode title kind = .leaf k := by
    cases kind with
    | staticEnum choices => cases choices <;> exact ⟨_, rfl⟩
    | _ => exact ⟨_, rfl⟩
  obtain ⟨k, hk⟩ := hleaf
  rw [hk, Node.toJson, propertyCount, countKeywords_append, countKeywords_front,
    countKeywords_back]

theorem propertyCount_arrayNode (title : Option String) (bounds : ItemBounds) (items : Node) :
    propertyCount (arrayNode title bounds items).toJson = propertyCount items.toJson := by
  rw [arrayNode, Node.toJson, propertyCount, countKeywords_append, countKeywords_append,
    countKeywords_front, countKeywords_back]
  simp [countKeywords]

theorem propertyCount_objectNode (title : Option String) (version : Option Json) (m : Members) :
    propertyCount (objectNode title version m).toJson = m.properties.total propertyWeight := by
  rw [objectNode, Node.toJson, propertyCount, countKeywords_append, countKeywords_append,
    countKeywords_front, countKeywords_back]
  simp [countKeywords, countProperties, countSchemas_propertiesToJson]

/-- The number of properties that the elements of a scope are compiled to. -/
def size (es : List Element) : Nat := (members es .root).properties.total propertyWeight

/-- A field is compiled to a property for itself and to those of the scope it opens. -/
theorem propertyWeight_fieldNode (f : Field) :
    propertyWeight (fieldNode f) = 1 + size f.children := by
  obtain ⟨head, body⟩ := f
  cases body with
  | leaf kind =>
    rw [propertyWeight, fieldNode_leaf, propertyCount_leafNode]
    rfl
  | array bounds items =>
    rw [propertyWeight, fieldNode_array, propertyCount_arrayNode, propertyCount_objectNode]
    rfl
  | object properties =>
    rw [propertyWeight, fieldNode_object, propertyCount_objectNode]
    rfl

end Schema

/-! ## Counting in trees -/

mutual

/-- The number of fields of an element, with those inside it. -/
def Element.fieldCount : Element → Nat
  | .leaf _ _ => 1
  | .array _ _ items => 1 + FormSchema.fieldCount items
  | .object _ properties => 1 + FormSchema.fieldCount properties
  | .group _ elements => FormSchema.fieldCount elements
  | .conditional _ elements => FormSchema.fieldCount elements

/-- The number of fields in a list of elements, at every depth. -/
def fieldCount : List Element → Nat
  | [] => 0
  | e :: es => e.fieldCount + fieldCount es

end

mutual

theorem length_fields_placeElement (pos : Position) :
    ∀ e : Element, (placeElement pos e).fields.length = e.fieldCount
  | .leaf _ _ => rfl
  | .array head bounds items => by
    rw [placeElement_array, fields_placeOpening, List.length_cons, Element.fieldCount,
      Nat.add_comm 1]
    exact congrArg (· + 1) (length_fields_placeElements _ 0 items)
  | .object head properties => by
    rw [placeElement_object, fields_placeOpening, List.length_cons, Element.fieldCount,
      Nat.add_comm 1]
    exact congrArg (· + 1) (length_fields_placeElements _ 0 properties)
  | .group label elements =>
    length_fields_placeElements (pos.within (groupSegment label)) 0 elements
  | .conditional test elements => length_fields_placeElements (pos.under test) 0 elements

/-- The resolution has a place for every field of the tree. -/
theorem length_fields_placeElements (pos : Position) (index : Nat) :
    ∀ es : List Element, (placeElements pos index es).fields.length = fieldCount es
  | [] => rfl
  | e :: es => by
    rw [placeElements, Resolution.fields_append, List.length_append,
      length_fields_placeElement (pos.child index) e,
      length_fields_placeElements pos (index + 1) es, fieldCount]

end

theorem length_fields_resolve (es : List Element) :
    (resolve es).fields.length = fieldCount es := length_fields_placeElements .start 0 es

mutual

theorem Element.fieldCount_eq_sum :
    ∀ e : Element, e.fieldCount = (e.content.map fun f => 1 + fieldCount f.children).sum
  | .leaf _ _ => rfl
  | .array _ _ _ => rfl
  | .object _ _ => rfl
  | .group _ elements => fieldCount_eq_sum elements
  | .conditional _ elements => fieldCount_eq_sum elements

/-- The fields of a scope and those of the scopes that they open. -/
theorem fieldCount_eq_sum :
    ∀ es : List Element, fieldCount es = ((contents es).map fun f => 1 + fieldCount f.children).sum
  | [] => rfl
  | e :: es => by
    rw [fieldCount, Element.fieldCount_eq_sum e, fieldCount_eq_sum es, contents_cons,
      List.map_append, List.sum_append]

end

/-! ## Both counts compared -/

theorem sum_map_le_and_eq_iff {α : Type} {f g : α → Nat} {xs : List α}
    (h : ∀ x ∈ xs, f x ≤ g x) : (xs.map f).sum ≤ (xs.map g).sum
      ∧ ((xs.map f).sum = (xs.map g).sum ↔ ∀ x ∈ xs, f x = g x) := by
  induction xs with
  | nil => simp
  | cons x xs ih =>
    obtain ⟨hx, hxs⟩ := List.forall_mem_cons.mp h
    obtain ⟨hle, heq⟩ := ih hxs
    rw [List.forall_mem_cons, ← heq]
    simp only [List.map_cons, List.sum_cons]
    omega

namespace Schema

/-- What the fields of a scope weigh before those of one name are merged. -/
theorem total_contents (es : List Element) :
    Entries.total propertyWeight ((contents es).map fun f => (f.name, fieldNode f))
      = ((contents es).map fun f => 1 + size f.children).sum := by
  rw [Entries.total, List.map_map]
  exact congrArg List.sum (List.map_congr_left fun f _ => propertyWeight_fieldNode f)

/-- **A scope is compiled to at most as many properties as it has fields**, counted at every depth,
and to as many exactly if it is unambiguous. -/
theorem size_le_fieldCount (es : List Element) :
    size es ≤ fieldCount es ∧ (size es = fieldCount es ↔ Unambiguous es) := by
  induction es using scope_induction with
  | step es ih =>
    have hpos : ∀ node, 0 < propertyWeight node := by
      intro node
      rw [propertyWeight]
      omega
    have hsize : size es = Entries.total propertyWeight
        (Entries.ofList ((contents es).map fun f => (f.name, fieldNode f))) := by
      rw [size, members_eq, Members.ofFields]
    -- names of the scope itself
    have hown := Entries.total_ofList_le propertyWeight hpos
      ((contents es).map fun f => (f.name, fieldNode f))
    have howneq := Entries.total_ofList_eq_iff propertyWeight hpos
      ((contents es).map fun f => (f.name, fieldNode f))
    rw [total_contents, ← hsize] at hown howneq
    rw [Entries.names_map] at howneq
    -- scopes below
    obtain ⟨hbelow, hbeloweq⟩ := sum_map_le_and_eq_iff fun f hf =>
      Nat.add_le_add_left (ih f hf).1 1
    rw [← fieldCount_eq_sum] at hbelow hbeloweq
    refine ⟨Nat.le_trans hown hbelow, ?_⟩
    rw [unambiguous_iff, ← howneq]
    have hnested : (∀ f ∈ contents es, 1 + size f.children = 1 + fieldCount f.children)
        ↔ ∀ f ∈ contents es, Unambiguous f.children := by
      refine forall₂_congr fun f hf => ?_
      rw [Nat.add_left_cancel_iff, (ih f hf).2]
    rw [← hnested, ← hbeloweq]
    omega

end Schema

/-- **A schema loses a declaration exactly if a repeated name is reported.** For every version, the
properties of a form's schema, counted at every depth, are at most as many as the fields that the
form declares, and as many exactly if no repeated name is reported. -/
theorem schema_loses_repeated_names (settings : Settings) (version : Json) (form : Form) :
    propertyCount (form.schema settings version).toJson ≤ (resolve form.elements).fields.length
      ∧ (propertyCount (form.schema settings version).toJson
          = (resolve form.elements).fields.length
        ↔ ∀ i ∈ form.checkStructure.issues, i.code ≠ some "DUPLICATE_FIELD_NAME") := by
  have hcount :
      propertyCount (form.schema settings version).toJson = Schema.size form.elements := by
    rw [Form.schema, Schema.ofForm, Schema.compile, Schema.propertyCount_objectNode, Schema.size]
  rw [hcount, length_fields_resolve, ← unambiguous_iff_checkStructure]
  exact Schema.size_le_fieldCount form.elements

end FormSchema
