import FormSchema.Proofs.Entries
import FormSchema.Proofs.Form.Contents
import FormSchema.Schema.Compile

/-!
# FormSchema — the members of a scope are those of its contents

The walk that collects the members of a scope carries an address and a path along, and collects
what is inside a group or a conditional apart before it merges it. Neither shows in what comes out:

* **`fieldNode`** — the node of a field, wherever in a form it stands.
* **`addMembers_eq`** — what a run of siblings adds to the members collected before it is what
  their contents add, field by field. The induction is on the elements; the entries that wrappers
  collect apart are merged by `Entries.merge_ofList`.
* **`members_eq`** and **`ofField_of_nested`** — the members of a scope and the node of a field in
  terms of contents, at every address and path.
-/

namespace FormSchema.Schema

/-- The node of a field. No scope that a field opens is the root, so none names a version. -/
def fieldNode (f : Field) : Node :=
  match f.body with
  | .leaf kind => leafNode f.label kind
  | .array bounds items => arrayNode f.label bounds (objectNode none none (members items .root))
  | .object properties => objectNode f.label none (members properties .root)

@[simp] theorem fieldNode_leaf (head : FieldHead) (kind : LeafKind) :
    fieldNode ⟨head, .leaf kind⟩ = leafNode head.label kind := rfl

@[simp] theorem fieldNode_array (head : FieldHead) (bounds : ItemBounds) (items : List Element) :
    fieldNode ⟨head, .array bounds items⟩
      = arrayNode head.label bounds (objectNode none none (members items .root)) := rfl

@[simp] theorem fieldNode_object (head : FieldHead) (properties : List Element) :
    fieldNode ⟨head, .object properties⟩
      = objectNode head.label none (members properties .root) := rfl

namespace Members

/-- The members of a scope with the given fields. -/
def ofFields (fs : List Field) : Members :=
  ⟨Entries.ofList (fs.map fun f => (f.name, fieldNode f)),
    (fs.filter (·.required)).map (·.name)⟩

@[simp] theorem ofFields_nil : ofFields [] = empty := rfl

theorem ofFields_singleton (f : Field) : ofFields [f] = ofField f.toFieldHead (fieldNode f) := by
  cases hr : f.required <;> simp [ofFields, ofField, hr, Entries.ofList, Entries.put]

theorem append_ofFields_append (m : Members) (fs gs : List Field) :
    (m.append (ofFields fs)).append (ofFields gs) = m.append (ofFields (fs ++ gs)) := by
  simp only [append, ofFields, Entries.merge_ofList, List.map_append, List.filter_append,
    Entries.merge_append, List.append_assoc]

@[simp] theorem empty_append_ofFields (fs : List Field) :
    empty.append (ofFields fs) = ofFields fs := by
  simp only [append, empty, ofFields, List.nil_append]
  rw [Entries.merge_ofList]
  rfl

theorem ofFields_append (fs gs : List Field) :
    ofFields (fs ++ gs) = (ofFields fs).append (ofFields gs) := by
  have h := append_ofFields_append empty fs gs
  rw [empty_append_ofFields, empty_append_ofFields] at h
  exact h.symm

end Members

/-! ## Properties -/

theorem propertiesToJson_eq_map (properties : Entries Node) :
    propertiesToJson properties = properties.map fun p => (p.1, p.2.toJson) := by
  induction properties with
  | nil => rfl
  | cons p properties ih => rw [propertiesToJson, ih, List.map_cons]

theorem names_propertiesToJson (properties : Entries Node) :
    Entries.names (propertiesToJson properties) = properties.names := by
  rw [propertiesToJson_eq_map, Entries.names, List.map_map]
  rfl

theorem get?_propertiesToJson (properties : Entries Node) (name : String) :
    Entries.get? (propertiesToJson properties) name = (properties.get? name).map Node.toJson := by
  induction properties with
  | nil => rfl
  | cons p properties ih =>
    obtain ⟨n, node⟩ := p
    rw [propertiesToJson, Entries.get?_cons, Entries.get?_cons, ih]
    split <;> rfl

/-! ## The walk adds the contents -/

/-- A scope that a field opens names no version. -/
theorem versionIn_nested {address : List Nat} (h : address ≠ []) (path : String) (version : Json) :
    versionIn ⟨address, path⟩ version = none := by
  cases address with
  | nil => exact absurd rfl h
  | cons i address => rfl

mutual

theorem elementMembers_eq {address : List Nat} (h : address ≠ []) (path : String) :
    ∀ e : Element, elementMembers address path e = .ofFields e.content
  | .leaf head kind => by
    rw [Element.content, Members.ofFields_singleton]
    rfl
  | .array head bounds items => by
    -- the walk at this address and the walk at the root add the same contents
    have hitems := addMembers_eq address (itemsPath (joinPath path head.name)) 0 .empty items
    have hroot : members items .root = _ := addMembers_eq [] "" 0 .empty items
    rw [Element.content, Members.ofFields_singleton, fieldNode_array, hroot,
      elementMembers, versionIn_nested h, hitems]
  | .object head properties => by
    have hprops := addMembers_eq address (joinPath path head.name) 0 .empty properties
    have hroot : members properties .root = _ := addMembers_eq [] "" 0 .empty properties
    rw [Element.content, Members.ofFields_singleton, fieldNode_object, hroot,
      elementMembers, versionIn_nested h, hprops]
  | .group label elements => by
    rw [elementMembers, addMembers_eq, Members.empty_append_ofFields, Element.content]
  | .conditional test elements => by
    rw [elementMembers, addMembers_eq, Members.empty_append_ofFields, Element.content]

/-- A run of siblings adds the fields of its contents. -/
theorem addMembers_eq (address : List Nat) (path : String) (index : Nat) (collected : Members) :
    ∀ es : List Element,
      addMembers address path index collected es = collected.append (.ofFields (contents es))
  | [] => by
    simp [addMembers, Members.append, Members.empty]
  | e :: es => by
    -- a child's address is never empty, so nothing it opens is taken for the root
    have hchild : address ++ [index] ≠ [] := by simp
    rw [addMembers, elementMembers_eq hchild, addMembers_eq, contents_cons,
      Members.append_ofFields_append]

end

/-- **The members of a scope are those of its contents**, whichever scope it is. -/
theorem members_eq (es : List Element) (scope : Scope) :
    members es scope = .ofFields (contents es) := by
  rw [members, addMembers_eq, Members.empty_append_ofFields]

/-- The node of a field is the same in every scope but the root. -/
theorem ofField_of_nested {scope : Scope} (h : scope.isRoot = false) (f : Field) :
    ofField f scope = fieldNode f := by
  obtain ⟨head, body⟩ := f
  cases body with
  | leaf kind => rfl
  | array bounds items => simp [ofField, fieldNode, compile, versionIn, h, members_eq]
  | object properties => simp [ofField, fieldNode, versionIn, h, members_eq]

end FormSchema.Schema
