import FormSchema.Proofs.Form.Structure
import FormSchema.Proofs.Form.Tree
import Mathlib.Data.List.Perm.Basic

/-!
# FormSchema — the order of declarations

Forms whose siblings stand in another order, at the top or inside any element, have the same
structural problems. Their paths and messages may differ: what stays is how severe an issue is, its
code, and the name it is about.

* **`Reordered`** — siblings in another order, at any depth.
* **`Reordered.perm_flatMap`** — what is collected from elements one by one is the same up to order,
  if the same holds of one element with reordered elements inside it.
* **`scopeProblems`** — the problems in a scope, from the names that it declares and tests only.
* **`scopeProblems_perm`** — these names are the same up to order, and so are the problems.
* **`problems_perm`** — the problems of all scopes below.
* **`problems_checkStructure`** — the check reports the problems of all scopes.
* **`structure_check_reordered`** — the statement about whole forms.
-/

namespace FormSchema

/-! ## Reordering -/

/-- The element with other elements inside it. -/
def Element.withInner : Element → List Element → Element
  | .leaf head kind, _ => .leaf head kind
  | .array head bounds _, items => .array head bounds items
  | .object head _, properties => .object head properties
  | .group label _, elements => .group label elements
  | .conditional test _, elements => .conditional test elements

/-- `Reordered es es'`: `es'` is `es` with siblings in another order, at the top, or inside some of
the elements, and so on, one after the other. -/
inductive Reordered : List Element → List Element → Prop where
  | siblings {es es' : List Element} (h : es.Perm es') : Reordered es es'
  | inside (e : Element) {inner : List Element} (h : Reordered e.inner inner) :
      Reordered [e] [e.withInner inner]
  | among (before after : List Element) {es es' : List Element} (h : Reordered es es') :
      Reordered (before ++ es ++ after) (before ++ es' ++ after)
  | trans {es es' es'' : List Element} (h : Reordered es es') (h' : Reordered es' es'') :
      Reordered es es''

/-- What is collected from elements one by one is the same up to order. Induction on the reordering;
only what is inside an element is left to show. -/
theorem Reordered.perm_flatMap {α : Type} {f : Element → List α}
    (inside : ∀ e inner, Reordered e.inner inner →
      (e.inner.flatMap f).Perm (inner.flatMap f) → (f e).Perm (f (e.withInner inner)))
    {es es' : List Element} (h : Reordered es es') : (es.flatMap f).Perm (es'.flatMap f) := by
  induction h with
  | siblings h => exact h.flatMap_right f
  | inside e h ih =>
    rw [List.flatMap_singleton, List.flatMap_singleton]
    exact inside e _ h ih
  | among before after _ ih =>
    rw [List.flatMap_append, List.flatMap_append, List.flatMap_append, List.flatMap_append]
    exact (ih.append_left _).append_right _
  | trans _ _ ih ih' => exact ih.trans ih'

/-! ## The problems of a scope -/

/-- The names that a list of elements declares in its scope. -/
def declaredNames (es : List Element) : List String := (contents es).map (·.name)

mutual

/-- The names that the conditionals of an element test in its scope. -/
def Element.testedNames : Element → List String
  | .leaf _ _ => []
  | .array _ _ _ => []
  | .object _ _ => []
  | .group _ elements => testedNames elements
  | .conditional test elements => test.field :: testedNames elements

def testedNames : List Element → List String
  | [] => []
  | e :: es => e.testedNames ++ testedNames es

end

/-- What identifies an issue wherever it is found: severity, code, and name of the field. -/
abbrev Problem := Severity × Option String × Option String

def Issue.problem (i : Issue) : Problem := (i.severity, i.code, i.fieldName)

def Problem.repetition (name : String) : Problem :=
  (.warning, some "DUPLICATE_FIELD_NAME", some name)

def Problem.unknownField (name : String) : Problem :=
  (.error, some "UNKNOWN_CONDITIONAL_FIELD", some name)

/-- The names that occur more than once, each once. -/
def repeated (names : List String) : List String :=
  (firstOccurrences names).filter fun name => 2 ≤ names.count name

/-- The problems of a scope by itself. -/
def scopeProblems (es : List Element) : List Problem :=
  (repeated (declaredNames es)).map .repetition
    ++ ((testedNames es).filter fun name => name ∉ declaredNames es).map .unknownField

theorem declaredNames_eq_flatMap (es : List Element) :
    declaredNames es = es.flatMap fun e => e.content.map (·.name) := by
  induction es with
  | nil => rfl
  | cons e es ih =>
    rw [declaredNames, contents_cons, List.map_append, List.flatMap_cons, ← ih]
    rfl

theorem testedNames_eq_flatMap (es : List Element) :
    testedNames es = es.flatMap Element.testedNames := by
  induction es with
  | nil => rfl
  | cons e es ih => rw [testedNames, ih, List.flatMap_cons]

/-- The names declared in a scope are the same, whatever happens inside its arrays and objects. -/
theorem declaredNames_perm {es es' : List Element} (h : Reordered es es') :
    (declaredNames es).Perm (declaredNames es') := by
  rw [declaredNames_eq_flatMap, declaredNames_eq_flatMap]
  apply h.perm_flatMap
  intro e inner _ ih
  rw [← declaredNames_eq_flatMap, ← declaredNames_eq_flatMap] at ih
  cases e with
  | group label elements => exact ih
  | conditional test elements => exact ih
  | _ => exact .refl _

theorem testedNames_perm {es es' : List Element} (h : Reordered es es') :
    (testedNames es).Perm (testedNames es') := by
  rw [testedNames_eq_flatMap, testedNames_eq_flatMap]
  apply h.perm_flatMap
  intro e inner _ ih
  rw [← testedNames_eq_flatMap, ← testedNames_eq_flatMap] at ih
  cases e with
  | group label elements => exact ih
  | conditional test elements => exact ih.cons test.field
  | _ => exact .refl _

/-- A name is repeated in every order or in none. -/
theorem repeated_perm {names names' : List String} (h : names.Perm names') :
    (repeated names).Perm (repeated names') := by
  have hnodup : ∀ ns, (repeated ns).Nodup := fun ns => (nodup_firstOccurrences ns).filter _
  rw [List.perm_ext_iff_of_nodup (hnodup names) (hnodup names')]
  intro name
  rw [repeated, repeated, List.mem_filter, List.mem_filter, mem_firstOccurrences,
    mem_firstOccurrences, h.mem_iff, h.count_eq name]

/-- Reordering leaves the problems of a scope. -/
theorem scopeProblems_perm {es es' : List Element} (h : Reordered es es') :
    (scopeProblems es).Perm (scopeProblems es') := by
  have hdeclared := declaredNames_perm h
  have hkeep : (fun name => decide (name ∉ declaredNames es))
      = fun name => decide (name ∉ declaredNames es') := by
    funext name
    exact decide_eq_decide.mpr (not_congr hdeclared.mem_iff)
  unfold scopeProblems
  rw [hkeep]
  exact ((repeated_perm hdeclared).map _).append (((testedNames_perm h).filter _).map _)

/-! ## The scopes below -/

mutual

/-- The element lists of the scopes that an element opens and of those inside them. -/
def Element.innerScopes : Element → List (List Element)
  | .leaf _ _ => []
  | .array _ _ items => items :: innerScopes items
  | .object _ properties => properties :: innerScopes properties
  | .group _ elements => innerScopes elements
  | .conditional _ elements => innerScopes elements

def innerScopes : List Element → List (List Element)
  | [] => []
  | e :: es => e.innerScopes ++ innerScopes es

end

theorem innerScopes_eq_flatMap (es : List Element) :
    innerScopes es = es.flatMap Element.innerScopes := by
  induction es with
  | nil => rfl
  | cons e es ih => rw [innerScopes, ih, List.flatMap_cons]

/-- Reordering leaves the problems of the scopes below. -/
theorem problems_perm {es es' : List Element} (h : Reordered es es') :
    ((innerScopes es).flatMap scopeProblems).Perm ((innerScopes es').flatMap scopeProblems) := by
  have hflat : ∀ es, (innerScopes es).flatMap scopeProblems
      = es.flatMap fun e => e.innerScopes.flatMap scopeProblems := by
    intro es
    rw [innerScopes_eq_flatMap, List.flatMap_assoc]
  rw [hflat, hflat]
  apply h.perm_flatMap
  intro e inner h ih
  rw [← hflat, ← hflat] at ih
  cases e with
  | leaf head kind => exact .refl _
  | array head bounds items => exact (scopeProblems_perm h).append ih
  | object head properties => exact (scopeProblems_perm h).append ih
  | group label elements => exact ih
  | conditional test elements => exact ih

/-! ## The problems that the check reports -/

mutual

theorem Element.elements_bodies (path : String) :
    ∀ e : Element, (e.bodies path).map (·.elements) = e.innerScopes
  | .leaf _ _ => rfl
  | .array head _ items =>
    congrArg (items :: ·) (elements_bodiesBelow (itemsPath (joinPath path head.name)) items)
  | .object head properties =>
    congrArg (properties :: ·) (elements_bodiesBelow (joinPath path head.name) properties)
  | .group label elements => elements_bodiesBelow (joinPath path (groupSegment label)) elements
  | .conditional test elements =>
    elements_bodiesBelow (joinPath path (conditionalSegment test.field)) elements

theorem elements_bodiesBelow (path : String) :
    ∀ es : List Element, (bodiesBelow path es).map (·.elements) = innerScopes es
  | [] => rfl
  | e :: es => by
    rw [bodiesBelow, List.map_append, Element.elements_bodies path e, elements_bodiesBelow path es,
      innerScopes]

end

mutual

theorem Element.fields_ownTests (path : String) :
    ∀ e : Element, (e.ownTests path).map (·.1.field) = e.testedNames
  | .leaf _ _ => rfl
  | .array _ _ _ => rfl
  | .object _ _ => rfl
  | .group label elements => fields_ownTests (joinPath path (groupSegment label)) elements
  | .conditional test elements => congrArg (test.field :: ·)
      (fields_ownTests (joinPath path (conditionalSegment test.field)) elements)

theorem fields_ownTests (path : String) :
    ∀ es : List Element, (ownTests path es).map (·.1.field) = testedNames es
  | [] => rfl
  | e :: es => by
    rw [ownTests, List.map_append, Element.fields_ownTests path e, fields_ownTests path es,
      testedNames]

end

namespace ScopeBody

theorem problems_warnings (b : ScopeBody) :
    b.warnings.map Issue.problem = (repeated (declaredNames b.elements)).map .repetition := by
  rw [warnings, List.map_map]
  rfl

theorem problems_errors (b : ScopeBody) :
    ((b.tests.filter fun t => !t.declared).map ScopedTest.error).map Issue.problem
      = ((testedNames b.elements).filter fun name => name ∉ declaredNames b.elements).map
        .unknownField := by
  rw [← fields_ownTests b.path b.elements, List.filter_map, List.map_map, List.map_map, tests,
    testsAmong, List.filter_map, List.map_map]
  have hkeep : ((fun t : ScopedTest => !t.declared) ∘ fun test : Predicate × String =>
        (⟨test.1, test.2, b⟩ : ScopedTest))
      = (fun name => decide (name ∉ declaredNames b.elements)) ∘ fun test => test.1.field := by
    funext test
    exact (decide_not (p := test.1.field ∈ b.names)).symm
  rw [hkeep]
  rfl

end ScopeBody

/-- The check reports the problems of all scopes, the form's own and those below it. -/
theorem problems_checkStructure (form : Form) :
    (form.checkStructure.issues.map Issue.problem).Perm
      ((form.elements :: innerScopes form.elements).flatMap scopeProblems) := by
  have hscopes : (bodies form.elements).map (·.elements)
      = form.elements :: innerScopes form.elements :=
    congrArg (form.elements :: ·) (elements_bodiesBelow "" form.elements)
  have hwarnings : ((bodies form.elements).flatMap ScopeBody.warnings).map Issue.problem
      = (bodies form.elements).flatMap fun b =>
        (repeated (declaredNames b.elements)).map .repetition := by
    rw [List.map_flatMap]
    exact List.flatMap_congr fun b _ => b.problems_warnings
  -- the errors stand in pre-order, and not scope by scope
  have herrors : ((((tests form.elements).filter fun t => !t.declared).map
        ScopedTest.error).map Issue.problem).Perm
      ((bodies form.elements).flatMap fun b =>
        ((testedNames b.elements).filter fun name => name ∉ declaredNames b.elements).map
          .unknownField) := by
    have hperm := (((tests_perm form.elements).filter fun t => !t.declared).map
      ScopedTest.error).map Issue.problem
    rw [List.filter_flatMap, List.map_flatMap, List.map_flatMap] at hperm
    rw [← List.flatMap_congr fun b _ => b.problems_errors]
    exact hperm
  rw [issues_checkStructure, List.map_append, hwarnings, ← hscopes, List.flatMap_map]
  exact (herrors.append_left _).trans (List.flatMap_append_perm _ _ _)

/-! ## Whole forms -/

/-- **The structure check does not depend on the order of declarations.** Forms that differ by the
order of siblings, at the top and inside any elements, are both valid or both not, and the same
problems are found in them: the same number of issues for each severity, code and name. -/
theorem structure_check_reordered {form form' : Form}
    (h : Reordered form.elements form'.elements) :
    form.checkStructure.valid = form'.checkStructure.valid
      ∧ (form.checkStructure.issues.map Issue.problem).Perm
        (form'.checkStructure.issues.map Issue.problem) := by
  have hbelow := (scopeProblems_perm h).append (problems_perm h)
  have hproblems := ((problems_checkStructure form).trans hbelow).trans
    (problems_checkStructure form').symm
  refine ⟨?_, hproblems⟩
  -- whether an issue is an error is part of the problem
  have hvalid : ∀ f : Form, f.checkStructure.valid
      = (f.checkStructure.issues.map Issue.problem).all fun problem => !(problem.1 == .error) := by
    intro f
    rw [List.all_map]
    rfl
  rw [hvalid, hvalid, hproblems.all_eq]

/-- A repeated name, and inside the items of an array three conditionals, one of them with the field
that it tests. The issues of the two others come in another order. -/
theorem structure_check_reordered_nested :
    let leaf : String → Element := fun name => .leaf ⟨name, none, false⟩ .boolean
    let rows : List Element → Element := .array ⟨"rows", none, false⟩ ⟨none, none⟩
    let test : String → List Element → Element := fun name => .conditional ⟨name, .null⟩
    let form : Form := ⟨[rows [test "x" [], test "a" [leaf "a"], test "y" []], leaf "b", leaf "b"]⟩
    let form' : Form := ⟨[leaf "b", rows [test "y" [], test "x" [], test "a" [leaf "a"]], leaf "b"]⟩
    Reordered form.elements form'.elements
      ∧ form.checkStructure.valid = form'.checkStructure.valid
      ∧ (form.checkStructure.issues.map Issue.problem).Perm
        (form'.checkStructure.issues.map Issue.problem)
      ∧ form.checkStructure.issues.map Issue.problem
        ≠ form'.checkStructure.issues.map Issue.problem := by
  intro leaf rows test form form'
  have hitems : ([test "x" [], test "a" [leaf "a"]] ++ [test "y" []]).Perm
      ([test "y" []] ++ [test "x" [], test "a" [leaf "a"]]) := List.perm_append_comm
  have hrows := Reordered.among [] [leaf "b", leaf "b"]
    (.inside (rows [test "x" [], test "a" [leaf "a"], test "y" []]) (.siblings hitems))
  have h : Reordered form.elements form'.elements := hrows.trans (.siblings (.swap _ _ _))
  obtain ⟨hvalid, hproblems⟩ := structure_check_reordered h
  refine ⟨h, hvalid, hproblems, ?_⟩
  decide

end FormSchema
