import FormSchema.Proofs.Form.Bodies
import FormSchema.Proofs.Form.Placement
import Mathlib.Data.List.Forall2

/-!
# FormSchema — resolutions and trees

The resolution of a form finds the fields of a scope by comparing scopes over all placements of the
form. This gives every scope its own fields, at every depth and also where scopes share a path:

* **`StandsFor`** — a scope of a resolution has the path and the fields of an element list.
* **`Agrees`** — inside the part of a form that an address marks off, all of the form says the same
  as that part alone. It is handed down from siblings to each of them by their addresses.
* **`renders_placeElements`** — what is placed for siblings stands for the scopes and the tests in
  them, one by one and in order. The induction is on the elements.
* **`renders_resolve`** — the statement about whole forms.
-/

namespace FormSchema

namespace Resolution

@[simp] theorem conditionals_append (r s : Resolution) :
    (r ++ s).conditionals = r.conditionals ++ s.conditionals := rfl

/-! ## Scopes and the lists they stand for -/

/-- `r.StandsFor s b`: messages name the scope by the path of the element list, and the fields that
the resolution has in the scope are those of the list, in order and with their paths. -/
structure StandsFor (r : Resolution) (s : Scope) (b : ScopeBody) : Prop where
  path : s.path = b.path
  fields : (r.fieldsIn s).map (fun p => (p.field, p.path)) = b.fields

/-- `r.StandsForTest c t`: the conditional makes the test, under its path and in its scope. -/
structure StandsForTest (r : Resolution) (c : ConditionalPlacement) (t : ScopedTest) : Prop where
  test : c.test = t.test
  path : c.path = t.path
  scope : r.StandsFor c.scope t.scope

/-- `whole.Renders r bs ts`: what is placed in a part `r` of a whole stands for the element lists
and the tests, one by one and in order. -/
structure Renders (whole r : Resolution) (bs : List ScopeBody) (ts : List ScopedTest) : Prop where
  scopes : List.Forall₂ whole.StandsFor r.scopes bs
  conditionals : List.Forall₂ whole.StandsForTest r.conditionals ts

theorem Renders.append {whole r r' : Resolution} {bs bs' : List ScopeBody}
    {ts ts' : List ScopedTest} (h : whole.Renders r bs ts) (h' : whole.Renders r' bs' ts') :
    whole.Renders (r ++ r') (bs ++ bs') (ts ++ ts') :=
  ⟨List.rel_append h.scopes h'.scopes, List.rel_append h.conditionals h'.conditionals⟩

/-! ## Parts of a form -/

/-- `whole.Agrees r region`: in each scope of a region the whole has the fields that its part `r`
has there. -/
def Agrees (whole r : Resolution) (region : Scope → Prop) : Prop :=
  ∀ s, region s → whole.fieldsIn s = r.fieldsIn s

theorem Agrees.mono {whole r : Resolution} {region smaller : Scope → Prop}
    (h : whole.Agrees r region) (hsub : ∀ s, smaller s → region s) : whole.Agrees r smaller :=
  fun s hs => h s (hsub s hs)

theorem fieldsIn_eq_nil {r : Resolution} {s : Scope} (h : ∀ p ∈ r.fields, p.scope ≠ s) :
    r.fieldsIn s = [] := by
  rw [fieldsIn, List.filter_eq_nil_iff]
  intro p hp
  simpa using h p hp

end Resolution

open Resolution

/-- The scope has the given address or one below it. -/
def AtOrBelow (address : List Nat) (s : Scope) : Prop := address <+: s.address

theorem AtOrBelow.below {address : List Nat} {index : Nat} {s : Scope}
    (h : AtOrBelow (address ++ [index]) s) : Below address index s := ⟨index, Nat.le_refl _, h⟩

theorem Below.succ {address : List Nat} {index : Nat} {s : Scope}
    (h : Below address (index + 1) s) : Below address index s := by
  obtain ⟨j, hle, hj⟩ := h
  exact ⟨j, by omega, hj⟩

/-- No scope is at or below a node and also below one of the siblings after it. -/
theorem not_below_succ {address : List Nat} {index : Nat} {s : Scope}
    (h : AtOrBelow (address ++ [index]) s) : ¬ Below address (index + 1) s := by
  rintro ⟨j, hle, hj⟩
  have hsame : address ++ [index] = address ++ [j] :=
    List.prefix_of_prefix_length_le h hj (by simp) |>.eq_of_length (by simp)
  have hindex : index = j := by simpa using hsame
  omega

/-- A field of an element is in the scope of the element's siblings or in one at or below it. -/
theorem scope_of_mem_placeElement {pos : Position} {e : Element} {p : FieldPlacement}
    (h : p ∈ (placeElement pos e).fields) :
    p.scope = pos.scope ∨ AtOrBelow pos.address p.scope :=
  (fieldsPlaced_placeElement pos e p h).imp_right (prefix_of_mem_scopes pos e p.scope)

theorem scope_of_mem_placeElements {pos : Position} {index : Nat} {es : List Element}
    {p : FieldPlacement} (h : p ∈ (placeElements pos index es).fields) :
    p.scope = pos.scope ∨ Below pos.address index p.scope :=
  (fieldsPlaced_placeElements pos index es p h).imp_right (below_of_mem_scopes pos index es p.scope)

/-! ## Handing agreement down -/

section Agreement

variable {whole : Resolution} {pos : Position} {index : Nat} {e : Element} {es : List Element}

/-- A scope around a position is not one at or below it. -/
theorem scope_ne_of_atOrBelow {s : Scope} (hpos : pos.scope.address.length < pos.address.length)
    (hs : AtOrBelow pos.address s) : pos.scope ≠ s := by
  intro heq
  have hlength := hs.length_le
  rw [← heq] at hlength
  omega

theorem agrees_head (hpos : pos.scope.address.length ≤ pos.address.length)
    (h : whole.Agrees (placeElements pos index (e :: es)) (Below pos.address index)) :
    whole.Agrees (placeElement (pos.child index) e) (AtOrBelow (pos.child index).address) := by
  intro s hs
  have hchild : (pos.child index).scope.address.length < (pos.child index).address.length := by
    simp only [Position.child, List.length_append, List.length_singleton]
    omega
  have htail : (placeElements pos (index + 1) es).fieldsIn s = [] := by
    apply fieldsIn_eq_nil
    intro p hp heq
    rcases scope_of_mem_placeElements hp with hown | hbelow
    · exact scope_ne_of_atOrBelow hchild hs (hown.symm.trans heq)
    · exact not_below_succ hs (heq ▸ hbelow)
  rw [h s (AtOrBelow.below hs), placeElements, fieldsIn_append, htail, List.append_nil]

theorem agrees_tail (hpos : pos.scope.address.length ≤ pos.address.length)
    (h : whole.Agrees (placeElements pos index (e :: es)) (Below pos.address index)) :
    whole.Agrees (placeElements pos (index + 1) es) (Below pos.address (index + 1)) := by
  intro s hs
  have hhead : (placeElement (pos.child index) e).fieldsIn s = [] := by
    apply fieldsIn_eq_nil
    intro p hp heq
    rcases scope_of_mem_placeElement hp with hown | hbelow
    · obtain ⟨j, _, hj⟩ := hs
      have hlength := hj.length_le
      rw [← heq, hown, List.length_append, List.length_singleton] at hlength
      simp only [Position.child] at hlength
      omega
    · exact not_below_succ (heq ▸ hbelow) hs
  rw [h s hs.succ, placeElements, fieldsIn_append, hhead, List.nil_append]

theorem agrees_into {field : Field} (hpos : pos.scope.address.length < pos.address.length)
    (h : whole.Agrees (placeOpening pos field) (AtOrBelow pos.address)) :
    whole.Agrees (placeElements (pos.into field) 0 field.children) (AtOrBelow pos.address) := by
  intro s hs
  rw [h s hs, fieldsIn, fields_placeOpening, List.filter_cons]
  simp only [scope_ne_of_atOrBelow hpos hs, decide_false, Bool.false_eq_true, if_false]
  rfl

end Agreement

/-! ## What is placed stands for the tree -/

mutual

theorem located_placed (scope : Scope) (predicates : List Predicate) (path : String) :
    ∀ e : Element,
      (e.placed scope predicates path).map (fun p => (p.field, p.path)) = e.located path
  | .leaf _ _ => rfl
  | .array _ _ _ => rfl
  | .object _ _ => rfl
  | .group _ elements => located_placedContents scope predicates _ elements
  | .conditional test elements => located_placedContents scope (predicates ++ [test]) _ elements

/-- The fields of a scope are placed under their own paths. -/
theorem located_placedContents (scope : Scope) (predicates : List Predicate) (path : String) :
    ∀ es : List Element,
      (placedContents scope predicates path es).map (fun p => (p.field, p.path))
        = locatedContents path es
  | [] => rfl
  | e :: es => by
    rw [placedContents, List.map_append, located_placed scope predicates path e,
      located_placedContents scope predicates path es, locatedContents]

end

/-- The scope of siblings stands for them, if the whole has no other fields in it. -/
theorem standsFor_siblings {whole : Resolution} {pos : Position} {index : Nat} {es : List Element}
    (hpos : pos.scope.address.length ≤ pos.address.length) (hpath : pos.scope.path = pos.path)
    (h : whole.fieldsIn pos.scope = (placeElements pos index es).fieldsIn pos.scope) :
    whole.StandsFor pos.scope ⟨pos.path, es⟩ := by
  refine ⟨hpath, ?_⟩
  rw [h, fieldsIn_placeElements pos hpos, located_placedContents, ScopeBody.fields]

/-- A field that opens a scope, given that what is inside stands for the tree inside. -/
theorem renders_opening {whole : Resolution} (pos : Position) (field : Field)
    (hpos : pos.scope.address.length < pos.address.length)
    (hagrees : whole.Agrees (placeOpening pos field) (AtOrBelow pos.address))
    {bs : List ScopeBody} {ts : List ScopedTest}
    (h : whole.StandsFor (pos.into field).scope ⟨(pos.into field).path, field.children⟩ →
      whole.Agrees (placeElements (pos.into field) 0 field.children)
        (Below (pos.into field).address 0) →
      whole.Renders (placeElements (pos.into field) 0 field.children) bs ts) :
    whole.Renders (placeOpening pos field) (⟨(pos.into field).path, field.children⟩ :: bs) ts := by
  have hinside := agrees_into hpos hagrees
  have hstands : whole.StandsFor (pos.into field).scope ⟨(pos.into field).path, field.children⟩ :=
    standsFor_siblings (Nat.le_refl _) rfl (hinside _ List.prefix_rfl)
  have hbelow := h hstands (hinside.mono fun _ hs => hs.isPrefix)
  exact ⟨.cons hstands hbelow.scopes, hbelow.conditionals⟩

mutual

theorem renders_placeElement {whole : Resolution} {scope : ScopeBody} (pos : Position)
    (hpos : pos.scope.address.length < pos.address.length)
    (hscope : whole.StandsFor pos.scope scope) :
    ∀ e : Element, whole.Agrees (placeElement pos e) (AtOrBelow pos.address) →
      whole.Renders (placeElement pos e) (e.bodies pos.path) (e.tests scope pos.path)
  | .leaf _ _ => fun _ => ⟨.nil, .nil⟩
  | .array head bounds items => by
    intro hagrees
    refine renders_opening pos ⟨head, .array bounds items⟩ hpos hagrees ?_
    intro hstands hbelow
    exact renders_placeElements (pos.into ⟨head, .array bounds items⟩) (Nat.le_refl _) hstands 0
      items hbelow
  | .object head properties => by
    intro hagrees
    refine renders_opening pos ⟨head, .object properties⟩ hpos hagrees ?_
    intro hstands hbelow
    exact renders_placeElements (pos.into ⟨head, .object properties⟩) (Nat.le_refl _) hstands 0
      properties hbelow
  | .group label elements => by
    -- nothing at or below the group is in the scope around it, so only the path changes
    intro hagrees
    exact renders_placeElements (pos.within (groupSegment label)) (Nat.le_of_lt hpos) hscope 0
      elements (hagrees.mono fun _ hs => hs.isPrefix)
  | .conditional test elements => by
    intro hagrees
    have hinner := renders_placeElements (pos.under test) (Nat.le_of_lt hpos) hscope 0 elements
      (hagrees.mono fun _ hs => hs.isPrefix)
    exact ⟨hinner.scopes, .cons ⟨rfl, rfl, hscope⟩ hinner.conditionals⟩

/-- What is placed for siblings stands for the scopes and tests in them. -/
theorem renders_placeElements {whole : Resolution} {scope : ScopeBody} (pos : Position)
    (hpos : pos.scope.address.length ≤ pos.address.length)
    (hscope : whole.StandsFor pos.scope scope) (index : Nat) :
    ∀ es : List Element, whole.Agrees (placeElements pos index es) (Below pos.address index) →
      whole.Renders (placeElements pos index es) (bodiesBelow pos.path es)
        (testsIn scope pos.path es)
  | [] => fun _ => ⟨.nil, .nil⟩
  | e :: es => by
    intro hagrees
    have hchild : pos.scope.address.length < (pos.child index).address.length := by
      simp only [Position.child, List.length_append, List.length_singleton]
      omega
    have hhead := renders_placeElement (pos.child index) hchild hscope e (agrees_head hpos hagrees)
    have htail := renders_placeElements pos hpos hscope (index + 1) es (agrees_tail hpos hagrees)
    exact hhead.append htail

end

/-- **A resolution stands for its form**: its scopes for the element lists of the form, its
conditionals for the tests, each in the scope that its fields are looked up in. -/
theorem renders_resolve (es : List Element) :
    (resolve es).Renders (resolve es) (bodies es) (tests es) := by
  have hagrees : (resolve es).Agrees (placeElements .start 0 es) (Below [] 0) := by
    intro s _
    rw [resolve, fieldsIn_append, fieldsIn_ofScope, List.nil_append]
  have hroot : (resolve es).StandsFor Position.start.scope ⟨Position.start.path, es⟩ :=
    standsFor_siblings (Nat.le_refl 0) rfl (fieldsIn_resolve_root es)
  have hbelow := renders_placeElements .start (Nat.le_refl 0) hroot 0 es hagrees
  exact ⟨.cons hroot hbelow.scopes, hbelow.conditionals⟩

end FormSchema
