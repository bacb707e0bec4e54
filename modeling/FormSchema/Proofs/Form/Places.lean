import FormSchema.Proofs.Form.Placement
import FormSchema.Proofs.Form.Tree
import FormSchema.Proofs.Form.WellFormed

/-!
# FormSchema — the places of nodes

Resolving a form carries a scope, predicates, a path and an address along, and each kind of element
changes them in its own way. All of it can be read off the elements above a node instead:

* **`Trail.scope`**, **`Trail.tests`**, **`Trail.segments`** — the scope, the tests and the path
  segments that a row of elements, one inside the other, amounts to.
* **`Follows`** — the invariant of the walk: a position has the scope, the predicates and the path
  of the elements above it. One lemma for each way into an element.
* **`placeElements_eq`** — so what is placed for siblings are the places of their nodes. By
  induction over trees.
* **`joinSegments_eq_intercalate`** — paths are segments with dots in between, since no segment is
  empty in a form that makes sense.
* **`resolution_places_nodes`** — the statement about whole forms.
-/

namespace FormSchema

/-! ## What is read off an element -/

namespace Element

/-- Whether the element is an array or an object. -/
def opensScope : Element → Bool
  | .array _ _ _ => true
  | .object _ _ => true
  | _ => false

/-- The test of a conditional. -/
def test? : Element → Option Predicate
  | .conditional test _ => some test
  | _ => none

/-- How a path names the element that it leads to. -/
def segment : Element → String
  | .leaf head _ => head.name
  | .array head _ _ => head.name
  | .object head _ => head.name
  | .group label _ => "[" ++ label ++ "]"
  | .conditional test _ => "when(" ++ test.field ++ ")"

/-- How a path names an element that it leads through: an array by one of its items. -/
def outerSegment : Element → String
  | .array head _ _ => head.name ++ "[]"
  | e => e.segment

end Element

/-! ## What is read off the elements above a node -/

/-- Path segments joined, as a walk joins them one after the other. -/
def joinSegments (segments : List String) : String := segments.foldl joinPath ""

theorem joinSegments_concat (segments : List String) (s : String) :
    joinSegments (segments ++ [s]) = joinPath (joinSegments segments) s := by
  rw [joinSegments, List.foldl_append]
  rfl

namespace Trail

/-- The path segments of the elements. -/
def segments (t : Trail) : List String := t.map fun above => above.2.outerSegment

/-- The tests of the conditionals among the elements, outermost first. -/
def tests (t : Trail) : List Predicate := t.filterMap fun above => above.2.test?

/-- The elements down to the innermost array or object among them. -/
def toOwner (t : Trail) : Trail := t.rdropWhile fun above => !above.2.opensScope

/-- The scope inside the elements: that of the innermost array or object among them, or else the
form's own. -/
def scope (t : Trail) : Scope :=
  match (toOwner t).getLast? with
  | none => .root
  | some owner => ⟨owner.1, joinSegments (segments (toOwner t))⟩

variable (t : Trail) (address : List Nat) (e : Element)

theorem segments_concat : segments (t ++ [(address, e)]) = segments t ++ [e.outerSegment] := by
  simp [segments]

theorem tests_concat : tests (t ++ [(address, e)]) = tests t ++ e.test?.toList := by
  unfold tests
  rw [List.filterMap_append]
  cases h : e.test? <;> simp [h]

/-- Inside an array or an object there is the scope that it opens. -/
theorem scope_concat_of_opensScope (h : e.opensScope = true) :
    scope (t ++ [(address, e)]) = ⟨address, joinSegments (segments (t ++ [(address, e)]))⟩ := by
  have howner : toOwner (t ++ [(address, e)]) = t ++ [(address, e)] := by
    apply List.rdropWhile_concat_neg
    simp [h]
  unfold scope
  rw [howner, List.getLast?_concat]

/-- Other elements leave the scope as it is. -/
theorem scope_concat_of_not_opensScope (h : e.opensScope = false) :
    scope (t ++ [(address, e)]) = scope t := by
  have howner : toOwner (t ++ [(address, e)]) = toOwner t := by
    apply List.rdropWhile_concat_pos
    simp [h]
  unfold scope
  rw [howner]

end Trail

namespace TreeNode

variable (n : TreeNode)

/-- The segments that lead to the node. -/
def segments : List String := Trail.segments n.above ++ [n.element.segment]

def path : String := joinSegments n.segments

/-- The place of the node, when it is a field. -/
def fieldPlacement? : Option FieldPlacement :=
  n.element.field?.map fun field => ⟨field, Trail.scope n.above, Trail.tests n.above, n.path⟩

/-- The place of the node, when it is a conditional. Its own test is not among those around it. -/
def conditionalPlacement? : Option ConditionalPlacement :=
  match n.element with
  | .conditional test elements =>
    some ⟨test, elements, Trail.scope n.above, Trail.tests n.above, n.path⟩
  | _ => none

/-- The scope that the node opens, when it is an array or an object. -/
def openedScope? : Option Scope :=
  if n.element.opensScope then
    some ⟨n.address, joinSegments (Trail.segments (n.above ++ [(n.address, n.element)]))⟩
  else none

theorem path_eq : n.path = joinPath (joinSegments (Trail.segments n.above)) n.element.segment :=
  joinSegments_concat _ _

end TreeNode

/-- The places of nodes. -/
def Resolution.ofNodes (ns : List TreeNode) : Resolution :=
  ⟨ns.filterMap TreeNode.openedScope?, ns.filterMap TreeNode.fieldPlacement?,
    ns.filterMap TreeNode.conditionalPlacement?⟩

theorem Resolution.ofNodes_append (ns ms : List TreeNode) :
    ofNodes (ns ++ ms) = ofNodes ns ++ ofNodes ms := by
  unfold ofNodes
  rw [List.filterMap_append, List.filterMap_append, List.filterMap_append]
  rfl

theorem Resolution.ofNodes_cons (n : TreeNode) (ns : List TreeNode) :
    ofNodes (n :: ns) = ofNodes [n] ++ ofNodes ns := ofNodes_append [n] ns

/-! ## The walk follows the elements above it -/

/-- `Follows pos t`: the position has the scope, the predicates and the path that the elements
above it amount to. -/
structure Follows (pos : Position) (t : Trail) : Prop where
  scope : pos.scope = Trail.scope t
  predicates : pos.predicates = Trail.tests t
  path : pos.path = joinSegments (Trail.segments t)

theorem itemsPath_joinPath (parent name : String) :
    itemsPath (joinPath parent name) = joinPath parent (name ++ "[]") := by
  have hitems : ∀ path : String, itemsPath path = path ++ "[]" := fun _ => rfl
  have hjoin : ∀ segment : String, joinPath parent segment
      = if parent.isEmpty then segment else parent ++ "." ++ segment := fun _ => rfl
  rw [hitems, hjoin, hjoin]
  split
  · rfl
  · rw [String.append_assoc]

namespace Follows

theorem start : Follows .start [] := ⟨rfl, rfl, rfl⟩

variable {pos : Position} {t : Trail} (h : Follows pos t) (index : Nat)

include h

theorem group (label : String) (elements : List Element) :
    Follows ((pos.child index).within (groupSegment label))
      (t ++ [((pos.child index).address, .group label elements)]) := by
  refine ⟨?_, ?_, ?_⟩
  · rw [Trail.scope_concat_of_not_opensScope _ _ _ rfl]
    exact h.scope
  · rw [Trail.tests_concat]
    show pos.predicates = Trail.tests t ++ []
    rw [List.append_nil]
    exact h.predicates
  · rw [Trail.segments_concat, joinSegments_concat, ← h.path]
    rfl

theorem conditional (test : Predicate) (elements : List Element) :
    Follows ((pos.child index).under test)
      (t ++ [((pos.child index).address, .conditional test elements)]) := by
  refine ⟨?_, ?_, ?_⟩
  · rw [Trail.scope_concat_of_not_opensScope _ _ _ rfl]
    exact h.scope
  · rw [Trail.tests_concat, ← h.predicates]
    rfl
  · rw [Trail.segments_concat, joinSegments_concat, ← h.path]
    rfl

/-- Into an array or an object, whose scope has the path that leads through it. -/
theorem into (field : Field) (hopens : field.opensScope = true) :
    Follows ((pos.child index).into field)
      (t ++ [((pos.child index).address, field.toElement)]) := by
  have hpath : ((pos.child index).into field).path
      = joinSegments (Trail.segments (t ++ [((pos.child index).address, field.toElement)])) := by
    rw [Trail.segments_concat, joinSegments_concat, ← h.path]
    obtain ⟨head, body⟩ := field
    cases body with
    | leaf kind => cases hopens
    | array bounds items => exact itemsPath_joinPath pos.path head.name
    | object properties => rfl
  have helement : field.toElement.opensScope = true := by
    obtain ⟨head, body⟩ := field
    cases body with
    | leaf kind => cases hopens
    | array bounds items => rfl
    | object properties => rfl
  refine ⟨?_, ?_, hpath⟩
  · rw [Trail.scope_concat_of_opensScope _ _ _ helement, ← hpath]
    rfl
  · rw [Trail.tests_concat]
    have htest : field.toElement.test? = none := by
      obtain ⟨head, body⟩ := field
      cases body <;> rfl
    rw [htest, Option.toList_none, List.append_nil]
    exact h.predicates

/-- The place of a field at a position. -/
theorem placement_eq (field : Field) :
    (⟨field, pos.scope, pos.predicates, pos.fieldPath field.toFieldHead⟩ : FieldPlacement)
      = ⟨field, Trail.scope t, Trail.tests t,
        (⟨(pos.child index).address, field.toElement, t⟩ : TreeNode).path⟩ := by
  have hpath : (⟨(pos.child index).address, field.toElement, t⟩ : TreeNode).path
      = pos.fieldPath field.toFieldHead := by
    rw [TreeNode.path_eq, ← h.path]
    obtain ⟨head, body⟩ := field
    cases body <;> rfl
  rw [hpath, h.scope, h.predicates]

end Follows

/-! ## What is placed are the places of the nodes -/

section Step

variable {pos : Position} {t : Trail} {index : Nat}

/-- A field that opens a scope, given what is placed inside it. -/
theorem placeOpening_eq (h : Follows pos t) {field : Field} (hopens : field.opensScope = true)
    (hinside : placeElements ((pos.child index).into field) 0 field.children
      = .ofNodes (nodesFrom (t ++ [((pos.child index).address, field.toElement)])
        (pos.child index).address 0 field.children)) :
    placeOpening (pos.child index) field
      = .ofNodes (field.toElement.nodes t (pos.child index).address) := by
  have hplace := h.placement_eq index field
  have hscope := (h.into index field hopens).scope
  -- the field's own node gives its place and its scope
  have hown : Resolution.ofNodes [⟨(pos.child index).address, field.toElement, t⟩]
      = .ofField ⟨field, pos.scope, pos.predicates, pos.fieldPath field.toFieldHead⟩
        ++ .ofScope ((pos.child index).into field).scope := by
    rw [hplace, hscope]
    obtain ⟨head, body⟩ := field
    cases body with
    | leaf kind => cases hopens
    | array bounds items =>
      rw [Trail.scope_concat_of_opensScope _ _ _ rfl]
      rfl
    | object properties =>
      rw [Trail.scope_concat_of_opensScope _ _ _ rfl]
      rfl
  rw [Element.nodes_eq, Resolution.ofNodes_cons, hown, inner_toElement, ← hinside]
  rfl

/-- One element, given what is placed inside it from any position that follows it. -/
theorem placeElement_eq (h : Follows pos t) (e : Element)
    (ih : ∀ inner : Position, inner.address = (pos.child index).address →
      Follows inner (t ++ [((pos.child index).address, e)]) →
      placeElements inner 0 e.inner = .ofNodes
        (nodesFrom (t ++ [((pos.child index).address, e)]) (pos.child index).address 0 e.inner)) :
    placeElement (pos.child index) e = .ofNodes (e.nodes t (pos.child index).address) := by
  cases e with
  | leaf head kind =>
    have hplace := h.placement_eq index ⟨head, .leaf kind⟩
    show Resolution.ofField ⟨⟨head, .leaf kind⟩, pos.scope, pos.predicates, pos.fieldPath head⟩ = _
    rw [hplace]
    rfl
  | array head bounds items =>
    exact placeOpening_eq h rfl (ih _ rfl (h.into index ⟨head, .array bounds items⟩ rfl))
  | object head properties =>
    exact placeOpening_eq h rfl (ih _ rfl (h.into index ⟨head, .object properties⟩ rfl))
  | group label elements =>
    have hinside := ih ((pos.child index).within (groupSegment label)) rfl
      (h.group index label elements)
    rw [Element.nodes_eq, Resolution.ofNodes_cons, placeElement]
    -- a group has no place of its own
    exact hinside
  | conditional test elements =>
    have hinside := ih ((pos.child index).under test) rfl (h.conditional index test elements)
    have hpath : (⟨(pos.child index).address, .conditional test elements, t⟩ : TreeNode).path
        = ((pos.child index).under test).path := by
      rw [TreeNode.path_eq, ← h.path]
      rfl
    have hown : Resolution.ofNodes [⟨(pos.child index).address, .conditional test elements, t⟩]
        = .ofConditional ⟨test, elements, pos.scope, pos.predicates,
          ((pos.child index).under test).path⟩ := by
      rw [← hpath, h.scope, h.predicates]
      rfl
    rw [Element.nodes_eq, Resolution.ofNodes_cons, hown, placeElement]
    exact congrArg (Resolution.ofConditional _ ++ ·) hinside

end Step

/-- What is placed for siblings are the places of their nodes. -/
theorem placeElements_eq (es : List Element) : ∀ pos t index, Follows pos t →
    placeElements pos index es = .ofNodes (nodesFrom t pos.address index es) := by
  induction es using tree_induction with
  | nil => intro pos t index _; rfl
  | cons e es ihinner ihtail =>
    intro pos t index h
    have hhead : placeElement (pos.child index) e
        = .ofNodes (e.nodes t (pos.child index).address) := by
      apply placeElement_eq h e
      intro inner haddress hinner
      rw [ihinner inner _ 0 hinner, haddress]
    rw [placeElements, hhead, ihtail pos t (index + 1) h, nodesFrom, Resolution.ofNodes_append]
    rfl

/-- **A resolution places the nodes of the tree.** -/
theorem resolve_eq_ofNodes (es : List Element) :
    resolve es = .ofScope .root ++ .ofNodes (nodes es) := by
  rw [resolve, placeElements_eq es .start [] 0 Follows.start]
  rfl

theorem scopes_resolve (es : List Element) :
    (resolve es).scopes = .root :: (nodes es).filterMap TreeNode.openedScope? := by
  rw [resolve_eq_ofNodes]
  rfl

theorem fields_resolve (es : List Element) :
    (resolve es).fields = (nodes es).filterMap TreeNode.fieldPlacement? := by
  rw [resolve_eq_ofNodes]
  rfl

theorem conditionals_resolve (es : List Element) :
    (resolve es).conditionals = (nodes es).filterMap TreeNode.conditionalPlacement? := by
  rw [resolve_eq_ofNodes]
  rfl

/-! ## Paths -/

theorem foldl_joinPath {parent : String} (hparent : parent ≠ "") (segments : List String) :
    segments.foldl joinPath parent = ".".intercalate (parent :: segments) := by
  induction segments generalizing parent with
  | nil => rw [List.foldl_nil, String.intercalate_singleton]
  | cons s segments ih =>
    have hjoin : joinPath parent s = parent ++ "." ++ s := by
      have hempty : parent.isEmpty = false := by simpa using hparent
      unfold joinPath
      rw [hempty]
      rfl
    have hne : joinPath parent s ≠ "" := by
      rw [hjoin]
      simp
    rw [List.foldl_cons, ih hne, hjoin, String.intercalate_cons_append,
      String.intercalate_cons_cons]

/-- Segments none of which is empty are joined with dots. -/
theorem joinSegments_eq_intercalate {segments : List String} (h : ∀ s ∈ segments, s ≠ "") :
    joinSegments segments = ".".intercalate segments := by
  cases segments with
  | nil => rw [String.intercalate_nil]; rfl
  | cons s segments => exact foldl_joinPath (h s List.mem_cons_self) segments

theorem Element.WellFormed.of_inner {e : Element} (h : e.WellFormed) :
    ∀ child ∈ e.inner, child.WellFormed := by
  cases h with
  | leaf _ _ => intro child hchild; simp [Element.inner] at hchild
  | array _ _ inner => exact inner
  | object _ inner => exact inner
  | group inner => exact inner
  | conditional _ inner => exact inner

theorem Element.WellFormed.of_at? {a : List Nat} {e found : Element} (h : e.WellFormed)
    (hfound : e.at? a = some found) : found.WellFormed := by
  induction a generalizing e with
  | nil =>
    cases hfound
    exact h
  | cons i rest ih =>
    obtain ⟨child, hchild, hrest⟩ := Option.bind_eq_some_iff.mp hfound
    exact ih (h.of_inner child (List.mem_of_getElem? hchild)) hrest

/-- In a form that makes sense there are only elements that do, at every address. -/
theorem Form.WellFormed.of_elementAt? {form : Form} (h : form.WellFormed) {a : List Nat}
    {e : Element} (he : elementAt? form.elements a = some e) : e.WellFormed := by
  cases a with
  | nil => cases he
  | cons i rest =>
    obtain ⟨top, htop, hrest⟩ := Option.bind_eq_some_iff.mp he
    exact (h top (List.mem_of_getElem? htop)).of_at? hrest

theorem Element.WellFormed.segment_ne {e : Element} (h : e.WellFormed) : e.segment ≠ "" := by
  cases h with
  | leaf name _ => exact name
  | array name _ _ => exact name
  | object name _ => exact name
  | group _ => simp [Element.segment]
  | conditional _ _ => simp [Element.segment]

theorem Element.WellFormed.outerSegment_ne {e : Element} (h : e.WellFormed) :
    e.outerSegment ≠ "" := by
  cases e with
  | array head bounds items => simp [Element.outerSegment]
  | _ => exact h.segment_ne

/-- In a form that makes sense the path of a node has dots between the segments that lead to it. -/
theorem path_eq_intercalate {form : Form} (h : form.WellFormed) {n : TreeNode}
    (hn : n ∈ nodes form.elements) : n.path = ".".intercalate n.segments := by
  obtain ⟨helement, habove⟩ := ((listsTree_nodes form.elements).mem_iff n).mp hn
  apply joinSegments_eq_intercalate
  intro s hs
  rcases List.mem_append.mp hs with hs | hs
  · obtain ⟨⟨b, e⟩, hmem, rfl⟩ := List.mem_map.mp hs
    rw [habove] at hmem
    exact (h.of_elementAt? (elementAt?_of_mem_ancestors hmem)).outerSegment_ne
  · rw [List.mem_singleton.mp hs]
    exact (h.of_elementAt? helement).segment_ne

/-! ## Whole forms -/

/-- **A resolution places every node.** The nodes of a form are listed once each and in pre-order,
and the resolution has in this order the place of each field and of each conditional, and after the
scope of the form the one that each array or object opens. A place is read off the elements above
the node: the scope is that of the innermost array or object, with its address, and the predicates
are the tests of all conditionals, outermost first. In a form that makes sense its path has dots
between the segments of these elements and the node's own. -/
theorem resolution_places_nodes (form : Form) :
    ListsTree form.elements (nodes form.elements)
      ∧ (resolve form.elements).fields
        = (nodes form.elements).filterMap TreeNode.fieldPlacement?
      ∧ (resolve form.elements).conditionals
        = (nodes form.elements).filterMap TreeNode.conditionalPlacement?
      ∧ (resolve form.elements).scopes
        = .root :: (nodes form.elements).filterMap TreeNode.openedScope?
      ∧ (form.WellFormed → ∀ n ∈ nodes form.elements, n.path = ".".intercalate n.segments) := by
  exact ⟨listsTree_nodes form.elements, fields_resolve form.elements,
    conditionals_resolve form.elements, scopes_resolve form.elements,
    fun h n hn => path_eq_intercalate h hn⟩

/-- A field inside an object, which is one of the items of an array, below a conditional on either
side of the array. -/
theorem resolution_places_nodes_nested :
    let size : Field := ⟨⟨"size", none, false⟩, .leaf .boolean⟩
    let box : Element := .object ⟨"box", none, false⟩ [.conditional ⟨"b", .null⟩ [size.toElement]]
    let rows : Element := .array ⟨"rows", none, false⟩ ⟨none, none⟩ [box]
    let form : Form := ⟨[.group "G" [.conditional ⟨"a", .int 1⟩ [rows]]]⟩
    form.WellFormed
      ∧ (resolve form.elements).fields.getLast? = some
        ⟨size, ⟨[0, 0, 0, 0], "[G].when(a).rows[].box"⟩, [⟨"a", .int 1⟩, ⟨"b", .null⟩],
          ".".intercalate ["[G]", "when(a)", "rows[]", "box", "when(b)", "size"]⟩ := by
  intro size box rows form
  have hsize : size.toElement.WellFormed := .leaf (by decide) trivial
  have hbox : box.WellFormed := .object (by decide)
    (List.forall_mem_singleton.mpr (.conditional (by decide) (List.forall_mem_singleton.mpr hsize)))
  have hrows : rows.WellFormed := .array (by decide) ⟨by simp, by simp, by simp⟩
    (List.forall_mem_singleton.mpr hbox)
  have hform : form.WellFormed := List.forall_mem_singleton.mpr
    (.group (List.forall_mem_singleton.mpr
      (.conditional (by decide) (List.forall_mem_singleton.mpr hrows))))
  refine ⟨hform, ?_⟩
  obtain ⟨_, hfields, _, _, hpaths⟩ := resolution_places_nodes form
  let node : TreeNode := ⟨[0, 0, 0, 0, 0, 0], size.toElement,
    ancestors form.elements [0, 0, 0, 0, 0, 0]⟩
  have hlast : (nodes form.elements).getLast? = some node := rfl
  have hplace : (resolve form.elements).fields.getLast? = some
      ⟨size, ⟨[0, 0, 0, 0], "[G].when(a).rows[].box"⟩, [⟨"a", .int 1⟩, ⟨"b", .null⟩],
        node.path⟩ := by
    rw [hfields]
    rfl
  rw [hplace, hpaths hform node (List.mem_of_getLast? hlast)]
  rfl

end FormSchema
