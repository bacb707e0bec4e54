import FormSchema.Proofs.Form.Contents

/-!
# FormSchema — which placements are in which scope

Resolving a form walks it once and labels every placement with a scope; a scope's placements are
then told apart by comparing labels. That this gives each scope its own contents and nothing else
rests on addresses:

* **`below_of_mem_scopes`** — a scope that siblings open has an address below one of them.
* **`fieldsPlaced_placeElements`** — a field among siblings is in their scope or in one that they
  open.
* **`fieldsIn_into`** — so nothing inside an array or an object is taken for a field of the scope
  around it.
* **`fieldsIn_placeElements`** — the fields of a scope are those that its elements give a place,
  with no regard to addresses.
* **`guardedIn_root`** — the fields of the root scope are the contents of the form, with the tests
  of the conditionals around them.
-/

namespace FormSchema

/-! ## Parts of a resolution -/

namespace Resolution

@[simp] theorem scopes_append (r s : Resolution) : (r ++ s).scopes = r.scopes ++ s.scopes := rfl

@[simp] theorem fields_append (r s : Resolution) : (r ++ s).fields = r.fields ++ s.fields := rfl

@[simp] theorem scopes_empty : empty.scopes = [] := rfl

@[simp] theorem fields_empty : empty.fields = [] := rfl

@[simp] theorem scopes_ofField (p : FieldPlacement) : (ofField p).scopes = [] := rfl

@[simp] theorem fields_ofField (p : FieldPlacement) : (ofField p).fields = [p] := rfl

@[simp] theorem fieldsIn_append (r s : Resolution) (scope : Scope) :
    (r ++ s).fieldsIn scope = r.fieldsIn scope ++ s.fieldsIn scope := by
  simp [fieldsIn]

@[simp] theorem fieldsIn_ofScope (s scope : Scope) : (ofScope s).fieldsIn scope = [] := rfl

theorem fieldsIn_ofField_self (p : FieldPlacement) : (ofField p).fieldsIn p.scope = [p] := by
  simp [fieldsIn]

end Resolution

/-! ## Fields that open a scope

Arrays and objects are placed alike: the field itself, the scope it opens, and what is in it. -/

section Opening

variable (pos : Position) (field : Field)

/-- The position inside the scope that a field at a position opens. -/
def Position.into : Position := pos.inside (field.childPath (pos.fieldPath field.toFieldHead))

/-- What is placed for a field that opens a scope. -/
def placeOpening : Resolution :=
  .ofField ⟨field, pos.scope, pos.predicates, pos.fieldPath field.toFieldHead⟩
    ++ .ofScope (pos.into field).scope ++ placeElements (pos.into field) 0 field.children

theorem placeElement_array (head : FieldHead) (bounds : ItemBounds) (items : List Element) :
    placeElement pos (.array head bounds items) = placeOpening pos ⟨head, .array bounds items⟩ :=
  rfl

theorem placeElement_object (head : FieldHead) (properties : List Element) :
    placeElement pos (.object head properties) = placeOpening pos ⟨head, .object properties⟩ :=
  rfl

theorem scopes_placeOpening : (placeOpening pos field).scopes
    = (pos.into field).scope :: (placeElements (pos.into field) 0 field.children).scopes := rfl

theorem fields_placeOpening : (placeOpening pos field).fields
    = ⟨field, pos.scope, pos.predicates, pos.fieldPath field.toFieldHead⟩
      :: (placeElements (pos.into field) 0 field.children).fields := rfl

end Opening

/-! ## Addresses of scopes -/

/-- `Below address index s`: the scope is opened at or below one of the children of the node at the
address, from an index on. -/
def Below (address : List Nat) (index : Nat) (s : Scope) : Prop :=
  ∃ j, index ≤ j ∧ address ++ [j] <+: s.address

theorem Below.isPrefix {address : List Nat} {index : Nat} {s : Scope}
    (h : Below address index s) : address <+: s.address := by
  obtain ⟨j, _, hj⟩ := h
  exact (List.prefix_append _ [j]).trans hj

theorem prefix_of_mem_scopes_opening {pos : Position} {field : Field}
    (h : ∀ s ∈ (placeElements (pos.into field) 0 field.children).scopes, Below pos.address 0 s) :
    ∀ s ∈ (placeOpening pos field).scopes, pos.address <+: s.address := by
  intro s hs
  rw [scopes_placeOpening, List.mem_cons] at hs
  rcases hs with rfl | hs
  · exact List.prefix_rfl
  · exact (h s hs).isPrefix

mutual

theorem prefix_of_mem_scopes (pos : Position) :
    ∀ e : Element, ∀ s ∈ (placeElement pos e).scopes, pos.address <+: s.address
  | .leaf head kind => by
    intro s hs
    simp [placeElement] at hs
  | .array head bounds items =>
    prefix_of_mem_scopes_opening
      (below_of_mem_scopes (pos.into ⟨head, .array bounds items⟩) 0 items)
  | .object head properties =>
    prefix_of_mem_scopes_opening
      (below_of_mem_scopes (pos.into ⟨head, .object properties⟩) 0 properties)
  | .group label elements => by
    intro s hs
    exact (below_of_mem_scopes (pos.within (groupSegment label)) 0 elements s hs).isPrefix
  | .conditional test elements => by
    intro s hs
    exact (below_of_mem_scopes (pos.under test) 0 elements s hs).isPrefix

/-- A scope opened by siblings from an index on has an address below one of them. -/
theorem below_of_mem_scopes (pos : Position) (index : Nat) :
    ∀ es : List Element, ∀ s ∈ (placeElements pos index es).scopes, Below pos.address index s
  | [] => by
    intro s hs
    simp [placeElements] at hs
  | e :: es => by
    intro s hs
    rw [placeElements, Resolution.scopes_append, List.mem_append] at hs
    rcases hs with hs | hs
    · exact ⟨index, Nat.le_refl _, prefix_of_mem_scopes (pos.child index) e s hs⟩
    · obtain ⟨j, hle, hj⟩ := below_of_mem_scopes pos (index + 1) es s hs
      exact ⟨j, by omega, hj⟩

end

/-! ## Scopes of fields -/

/-- The fields of a resolution are in the given scope or in one that the resolution lists. -/
def Resolution.FieldsPlaced (r : Resolution) (scope : Scope) : Prop :=
  ∀ p ∈ r.fields, p.scope = scope ∨ p.scope ∈ r.scopes

theorem Resolution.FieldsPlaced.append {r s : Resolution} {scope : Scope}
    (hr : r.FieldsPlaced scope) (hs : s.FieldsPlaced scope) : (r ++ s).FieldsPlaced scope := by
  intro p hp
  rw [fields_append, List.mem_append] at hp
  rw [scopes_append, List.mem_append]
  rcases hp with hp | hp
  · exact (hr p hp).imp_right Or.inl
  · exact (hs p hp).imp_right Or.inr

theorem fieldsPlaced_opening {pos : Position} {field : Field}
    (h : (placeElements (pos.into field) 0 field.children).FieldsPlaced (pos.into field).scope) :
    (placeOpening pos field).FieldsPlaced pos.scope := by
  intro p hp
  rw [fields_placeOpening, List.mem_cons] at hp
  rw [scopes_placeOpening, List.mem_cons]
  rcases hp with rfl | hp
  · exact Or.inl rfl
  · exact Or.inr (h p hp)

mutual

theorem fieldsPlaced_placeElement (pos : Position) :
    ∀ e : Element, (placeElement pos e).FieldsPlaced pos.scope
  | .leaf head kind => by
    intro p hp
    rw [List.mem_singleton.mp hp]
    exact Or.inl rfl
  | .array head bounds items =>
    fieldsPlaced_opening (fieldsPlaced_placeElements (pos.into ⟨head, .array bounds items⟩) 0 items)
  | .object head properties =>
    fieldsPlaced_opening
      (fieldsPlaced_placeElements (pos.into ⟨head, .object properties⟩) 0 properties)
  | .group label elements => fieldsPlaced_placeElements (pos.within (groupSegment label)) 0 elements
  | .conditional test elements => fieldsPlaced_placeElements (pos.under test) 0 elements

/-- A field among siblings is in the scope they stand in or in one that they open. -/
theorem fieldsPlaced_placeElements (pos : Position) (index : Nat) :
    ∀ es : List Element, (placeElements pos index es).FieldsPlaced pos.scope
  | [] => by
    intro p hp
    simp [placeElements] at hp
  | e :: es =>
    (fieldsPlaced_placeElement (pos.child index) e).append
      (fieldsPlaced_placeElements pos (index + 1) es)

end

/-! ## Fields of one scope -/

/-- Nothing inside a scope is in the scope around it, whose address is shorter. -/
theorem fieldsIn_into {pos : Position} (hpos : pos.scope.address.length < pos.address.length)
    (field : Field) (index : Nat) (es : List Element) :
    (placeElements (pos.into field) index es).fieldsIn pos.scope = [] := by
  rw [Resolution.fieldsIn, List.filter_eq_nil_iff]
  intro p hp
  -- the scope of what is placed inside has an address at least as long as the position's
  have hlong : pos.address.length ≤ p.scope.address.length := by
    rcases fieldsPlaced_placeElements (pos.into field) index es p hp with hown | hbelow
    · rw [hown]
      exact Nat.le_refl _
    · exact (below_of_mem_scopes (pos.into field) index es p.scope hbelow).isPrefix.length_le
  rw [decide_eq_true_eq]
  intro heq
  rw [heq] at hlong
  omega

/-- Of what is placed for a field that opens a scope only the field itself is in the scope around
it. -/
theorem fieldsIn_placeOpening {pos : Position}
    (hpos : pos.scope.address.length < pos.address.length) (field : Field) :
    (placeOpening pos field).fieldsIn pos.scope
      = [⟨field, pos.scope, pos.predicates, pos.fieldPath field.toFieldHead⟩] := by
  have hinside := fieldsIn_into hpos field 0 field.children
  rw [Resolution.fieldsIn] at hinside
  rw [Resolution.fieldsIn, fields_placeOpening, List.filter_cons, hinside]
  simp

mutual

/-- The places that an element gives to the fields of its scope. Only groups and conditionals are
entered. -/
def Element.placed (scope : Scope) (predicates : List Predicate) (path : String) :
    Element → List FieldPlacement
  | .leaf head kind => [⟨⟨head, .leaf kind⟩, scope, predicates, joinPath path head.name⟩]
  | .array head bounds items =>
    [⟨⟨head, .array bounds items⟩, scope, predicates, joinPath path head.name⟩]
  | .object head properties =>
    [⟨⟨head, .object properties⟩, scope, predicates, joinPath path head.name⟩]
  | .group label elements =>
    placedContents scope predicates (joinPath path (groupSegment label)) elements
  | .conditional test elements =>
    placedContents scope (predicates ++ [test]) (joinPath path (conditionalSegment test.field))
      elements

/-- The places that elements give to the fields of their scope. -/
def placedContents (scope : Scope) (predicates : List Predicate) (path : String) :
    List Element → List FieldPlacement
  | [] => []
  | e :: es => e.placed scope predicates path ++ placedContents scope predicates path es

end

mutual

theorem fieldsIn_placeElement (pos : Position)
    (hpos : pos.scope.address.length < pos.address.length) :
    ∀ e : Element,
      (placeElement pos e).fieldsIn pos.scope = e.placed pos.scope pos.predicates pos.path
  | .leaf head kind => by
    rw [placeElement, Resolution.fieldsIn_ofField_self]
    rfl
  | .array head bounds items => by
    rw [placeElement_array, fieldsIn_placeOpening hpos]
    rfl
  | .object head properties => by
    rw [placeElement_object, fieldsIn_placeOpening hpos]
    rfl
  | .group label elements =>
    fieldsIn_placeElements (pos.within (groupSegment label)) (Nat.le_of_lt hpos) 0 elements
  | .conditional test elements =>
    fieldsIn_placeElements (pos.under test) (Nat.le_of_lt hpos) 0 elements

/-- The fields among siblings that are in their scope are those that the siblings give a place. -/
theorem fieldsIn_placeElements (pos : Position)
    (hpos : pos.scope.address.length ≤ pos.address.length) (index : Nat) :
    ∀ es : List Element, (placeElements pos index es).fieldsIn pos.scope
      = placedContents pos.scope pos.predicates pos.path es
  | [] => rfl
  | e :: es => by
    have hchild : pos.scope.address.length < (pos.child index).address.length := by
      simp only [Position.child, List.length_append, List.length_singleton]
      omega
    have hhead := fieldsIn_placeElement (pos.child index) hchild e
    have htail := fieldsIn_placeElements pos hpos (index + 1) es
    rw [placeElements, Resolution.fieldsIn_append, placedContents, htail]
    exact congrArg (· ++ _) hhead

end

/-! ## Tests around fields -/

/-- The fields of a scope, each with the tests recorded for it. -/
def Resolution.guardedIn (r : Resolution) (scope : Scope) : List (Field × List Predicate) :=
  (r.fieldsIn scope).map fun p => (p.field, p.predicates)

/-- Puts the tests in force in front of those around each field. -/
def underTests (outer : List Predicate) (gs : List (Field × List Predicate)) :
    List (Field × List Predicate) :=
  gs.map fun g => (g.1, outer ++ g.2)

mutual

theorem Element.guarded_placed (scope : Scope) (predicates : List Predicate) (path : String) :
    ∀ e : Element, (e.placed scope predicates path).map (fun p => (p.field, p.predicates))
      = underTests predicates e.guarded
  | .leaf head kind => by simp [Element.placed, underTests, Element.guarded]
  | .array head bounds items => by simp [Element.placed, underTests, Element.guarded]
  | .object head properties => by simp [Element.placed, underTests, Element.guarded]
  | .group label elements => guarded_placedContents scope predicates _ elements
  | .conditional test elements => by
    -- the test was pushed onto those in force; around a field it stands in front
    refine (guarded_placedContents scope (predicates ++ [test]) _ elements).trans ?_
    simp [underTests, Element.guarded]

/-- The tests recorded for the fields of a scope are those around them, below those in force. -/
theorem guarded_placedContents (scope : Scope) (predicates : List Predicate) (path : String) :
    ∀ es : List Element,
      (placedContents scope predicates path es).map (fun p => (p.field, p.predicates))
        = underTests predicates (guardedContents es)
  | [] => rfl
  | e :: es => by
    rw [placedContents, List.map_append, Element.guarded_placed scope predicates path e,
      guarded_placedContents scope predicates path es, guardedContents, underTests, underTests,
      underTests, List.map_append]

end

theorem guardedIn_placeElements (pos : Position)
    (hpos : pos.scope.address.length ≤ pos.address.length) (index : Nat) (es : List Element) :
    (placeElements pos index es).guardedIn pos.scope
      = underTests pos.predicates (guardedContents es) := by
  rw [Resolution.guardedIn, fieldsIn_placeElements pos hpos, guarded_placedContents]

theorem fieldsIn_resolve_root (es : List Element) :
    (resolve es).fieldsIn .root = (placeElements .start 0 es).fieldsIn .root := by
  rw [resolve, Resolution.fieldsIn_append, Resolution.fieldsIn_ofScope, List.nil_append]

/-- **The fields of the root scope are the contents of the form**, in order, each with the tests of
the conditionals around it. -/
theorem guardedIn_root (es : List Element) :
    (resolve es).guardedIn .root = guardedContents es := by
  have h := guardedIn_placeElements .start (Nat.le_refl 0) 0 es
  rw [Resolution.guardedIn, fieldsIn_resolve_root]
  refine h.trans ?_
  simp [underTests, Position.start]

end FormSchema
