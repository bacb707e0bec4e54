import FormSchema.Proofs.Form.Erasure
import FormSchema.Proofs.Form.Reordering
import FormSchema.Proofs.Policy.Exactness

/-!
# FormSchema — policies and wrappers

Groups and conditionals are features of their own, which a policy may restrict. To everything else
that a policy restricts they are transparent: where both are allowed, a form has the issues of the
form without them, and only the paths tell where the wrappers were. They do not count for the
nesting depth in particular.

* **`flatMap_nodesFrom_eraseAll`** — what is collected from fields by themselves and by their depth
  does not see wrappers. By induction over trees.
* **`fieldDepths_eraseAll`** — so all fields are as deep as they are without wrappers.
* **`unplaced_fieldIssues`** — the issues about a field do not depend on what is inside it, and on
  its path only by the path that they carry.
* **`check_erase`** — the statement about whole forms.
-/

namespace FormSchema

/-! ## What does not see wrappers -/

/-- A wrapper gives way to what is inside it. -/
theorem Element.erase_of_wrapper {e : Element} (h : e.field? = none) :
    e.erase = eraseAll e.inner := by
  cases e with
  | group label elements => rfl
  | conditional test elements => rfl
  | _ => cases h

/-- A field stays, and loses the wrappers inside it. -/
theorem Element.erase_of_field {e : Element} {f : Field} (h : e.field? = some f) :
    e.erase = [e.withInner (eraseAll e.inner)] := by
  cases e with
  | group label elements => cases h
  | conditional test elements => cases h
  | _ => rfl

theorem nodesFrom_append (above : Trail) (address : List Nat) (index : Nat)
    (es more : List Element) : nodesFrom above address index (es ++ more)
      = nodesFrom above address index es ++ nodesFrom above address (index + es.length) more := by
  induction es generalizing index with
  | nil => rfl
  | cons e es ih =>
    have hindex : index + (e :: es).length = index + 1 + es.length := by
      rw [List.length_cons]
      omega
    rw [List.cons_append, nodesFrom, nodesFrom, ih, hindex, List.append_assoc]

section Collect

variable {α : Type} {collect : TreeNode → List α}

/-- What is collected from siblings does not change with their wrappers, if a wrapper gives nothing
and a field what it has by itself and by its depth. -/
theorem flatMap_nodesFrom_eraseAll
    (wrapper : ∀ n, n.element.field? = none → collect n = [])
    (field : ∀ {a b : List Nat} {e : Element} {f : Field} {t u : Trail} (inner : List Element),
      e.field? = some f → Trail.depth t = Trail.depth u →
        collect ⟨a, e, t⟩ = collect ⟨b, e.withInner inner, u⟩)
    (es : List Element) : ∀ t a i u b j, Trail.depth t = Trail.depth u →
      (nodesFrom t a i es).flatMap collect = (nodesFrom u b j (eraseAll es)).flatMap collect := by
  induction es using tree_induction with
  | nil => intros; rfl
  | cons e es ihinner ihtail =>
    intro t a i u b j hdepth
    rw [nodesFrom_cons, eraseAll_cons, nodesFrom_append, List.flatMap_append, List.flatMap_append,
      ihtail t a (i + 1) u b (j + e.erase.length) hdepth]
    congr 1
    cases hfield : e.field? with
    | none =>
      -- the children stand at the depth of the wrapper
      have hinner : Trail.depth (t ++ [(a ++ [i], e)]) = Trail.depth u := by
        rw [Trail.depth_concat, hdepth]
        cases e with
        | group label elements => rfl
        | conditional test elements => rfl
        | _ => cases hfield
      rw [List.flatMap_cons, wrapper _ hfield, List.nil_append, Element.erase_of_wrapper hfield]
      exact ihinner _ _ _ _ _ _ hinner
    | some f =>
      have hinner : Trail.depth (t ++ [(a ++ [i], e)])
          = Trail.depth (u ++ [(b ++ [j], e.withInner (eraseAll e.inner))]) := by
        rw [Trail.depth_concat, Trail.depth_concat, hdepth]
        cases e <;> rfl
      have hkept : (e.withInner (eraseAll e.inner)).inner = eraseAll e.inner := by
        cases e <;> rfl
      rw [Element.erase_of_field hfield, nodesFrom_cons, nodesFrom, List.append_nil,
        List.flatMap_cons, List.flatMap_cons, hkept,
        field (b := b ++ [j]) (eraseAll e.inner) hfield hdepth]
      congr 1
      exact ihinner _ _ _ _ _ _ hinner

end Collect

/-! ## Depths -/

/-- The fields of a form by their names, each with the number of arrays and objects around it. -/
def fieldDepths (es : List Element) : List (String × Nat) :=
  (resolve es).fields.map fun place => (place.field.name, depthAt es place.scope.address)

theorem fieldDepths_eq (es : List Element) : fieldDepths es
    = (nodes es).flatMap fun n =>
      n.element.field?.toList.map fun f => (f.name, Trail.depth n.above) := by
  rw [fieldDepths, fields_resolve, ← List.flatMap_pure_eq_map, flatMap_filterMap_toList]
  apply List.flatMap_congr
  intro n hn
  rw [TreeNode.fieldPlacement?]
  cases n.element.field? with
  | none => rfl
  | some f =>
    show [(f.name, depthAt es (Trail.scope n.above).address)] = [(f.name, Trail.depth n.above)]
    rw [depthAt_scope hn]

/-- No field changes its depth with the wrappers of the form. -/
theorem fieldDepths_eraseAll (es : List Element) : fieldDepths es = fieldDepths (eraseAll es) := by
  rw [fieldDepths_eq, fieldDepths_eq]
  refine flatMap_nodesFrom_eraseAll ?_ ?_ es [] [] 0 [] [] 0 rfl
  · intro n hwrapper
    rw [hwrapper]
    rfl
  · intro a b e f t u inner hfield hdepth
    cases e with
    | group label elements => cases hfield
    | conditional test elements => cases hfield
    | _ => rw [hdepth]; rfl

/-! ## Issues -/

/-- An issue without the path to what it is about. -/
def Issue.unplaced (i : Issue) : Issue := { i with path := "" }

theorem unplaced_levelIssues (level : Level) {about about' : Severity → Issue}
    (h : ∀ severity, (about severity).unplaced = (about' severity).unplaced) :
    (level.issues about).map Issue.unplaced = (level.issues about').map Issue.unplaced := by
  cases level with
  | off => rfl
  | warn => exact congrArg (fun issue => [issue]) (h .warning)
  | error => exact congrArg (fun issue => [issue]) (h .error)

section Policy

variable (p : Policy)

theorem unplaced_depthIssues (f : Field) (path path' : String) (depth : Nat) :
    (p.depthIssues f path depth).map Issue.unplaced
      = (p.depthIssues f path' depth).map Issue.unplaced := by
  unfold Policy.depthIssues
  cases p.layout.maxNestingDepth with
  | none => rfl
  | some limit =>
    by_cases hdeep : f.opensScope = true ∧ depth + 1 > limit
    · simp only [if_pos hdeep]
      rfl
    · simp only [if_neg hdeep]

/-- The issues about a field have its path, and nothing else in them depends on that. -/
theorem unplaced_fieldIssues (f : Field) (path path' : String) (depth : Nat) :
    (p.fieldIssues f path depth).map Issue.unplaced
      = (p.fieldIssues f path' depth).map Issue.unplaced := by
  have hkind : (p.kindIssues f path).map Issue.unplaced
      = (p.kindIssues f path').map Issue.unplaced := unplaced_levelIssues _ fun _ => rfl
  have hoption : ∀ option, (p.optionIssues f path option).map Issue.unplaced
      = (p.optionIssues f path' option).map Issue.unplaced :=
    fun _ => unplaced_levelIssues _ fun _ => rfl
  simp only [Policy.fieldIssues, List.map_append, List.map_flatMap, hkind, hoption,
    unplaced_depthIssues p f path path' depth]

/-- The issues about a field do not depend on what is inside it. -/
theorem unplaced_issuesAt_withInner {a b : List Nat} {e : Element} {f : Field} {t u : Trail}
    (inner : List Element) (hfield : e.field? = some f) (hdepth : Trail.depth t = Trail.depth u) :
    (p.issuesAt ⟨a, e, t⟩).map Issue.unplaced
      = (p.issuesAt ⟨b, e.withInner inner, u⟩).map Issue.unplaced := by
  cases e with
  | group label elements => cases hfield
  | conditional test elements => cases hfield
  | leaf head kind =>
    show (p.fieldIssues _ _ (Trail.depth t)).map _ = (p.fieldIssues _ _ (Trail.depth u)).map _
    rw [hdepth]
    exact unplaced_fieldIssues p _ _ _ _
  | array head bounds items =>
    show (p.fieldIssues _ _ (Trail.depth t)).map _ = (p.fieldIssues _ _ (Trail.depth u)).map _
    rw [hdepth]
    exact unplaced_fieldIssues p ⟨head, .array bounds items⟩ _ _ _
  | object head properties =>
    show (p.fieldIssues _ _ (Trail.depth t)).map _ = (p.fieldIssues _ _ (Trail.depth u)).map _
    rw [hdepth]
    exact unplaced_fieldIssues p ⟨head, .object properties⟩ _ _ _

/-- A policy that allows wrappers has nothing to say about them. -/
theorem issuesAt_of_wrapper (hgroup : p.layout.group = .off)
    (hconditionals : p.layout.conditionals = .off) {n : TreeNode} (h : n.element.field? = none) :
    p.issuesAt n = [] := by
  obtain ⟨address, e, above⟩ := n
  cases e with
  | group label elements =>
    have hallowed : ∀ path, p.groupIssues label path = [] := by
      intro path
      rw [Policy.groupIssues, hgroup]
      rfl
    exact hallowed _
  | conditional test elements =>
    have hallowed : ∀ path, p.conditionalIssues path = [] := by
      intro path
      rw [Policy.conditionalIssues, hconditionals]
      rfl
    exact hallowed _
  | _ => cases h

end Policy

/-- Whether a report is valid can be told without the paths. -/
theorem valid_ofIssues_eq {issues issues' : List Issue}
    (h : issues.map Issue.unplaced = issues'.map Issue.unplaced) :
    (Report.ofIssues issues).valid = (Report.ofIssues issues').valid := by
  have hvalid : ∀ is : List Issue,
      (Report.ofIssues is).valid = (is.map Issue.unplaced).all fun i => !i.isError := by
    intro is
    rw [List.all_map]
    rfl
  rw [hvalid, hvalid, h]

/-! ## Whole forms -/

/-- **Wrappers are transparent to the policy on fields.** Under a policy that allows groups and
conditionals, a form and the form without them are valid alike, and have the same issues one by one
but for their paths. In particular every field has the same depth in both. -/
theorem check_erase {p : Policy} (hgroup : p.layout.group = .off)
    (hconditionals : p.layout.conditionals = .off) (form : Form) :
    (p.check form).valid = (p.check form.erase).valid
      ∧ (p.check form).issues.map Issue.unplaced = (p.check form.erase).issues.map Issue.unplaced
      ∧ fieldDepths form.elements = fieldDepths form.erase.elements := by
  have hissues : (p.check form).issues.map Issue.unplaced
      = (p.check form.erase).issues.map Issue.unplaced := by
    rw [issues_check, issues_check, List.map_flatMap, List.map_flatMap]
    refine flatMap_nodesFrom_eraseAll ?_ (unplaced_issuesAt_withInner p) form.elements [] [] 0 [] []
      0 rfl
    intro n hwrapper
    rw [issuesAt_of_wrapper p hgroup hconditionals hwrapper]
    rfl
  exact ⟨valid_ofIssues_eq hissues, hissues, fieldDepths_eraseAll form.elements⟩

/-- Wrappers at the top, inside an array and around an object: the object is too deep with them and
without them, and the field in it is required. -/
theorem check_erase_nested :
    let policy : Policy :=
      { layout := { maxNestingDepth := some 1 }, fieldOptions := { required := .warn } }
    let box : Element := .object ⟨"box", none, false⟩ [.leaf ⟨"t", none, true⟩ .boolean]
    let rows : Element :=
      .array ⟨"rows", none, false⟩ ⟨none, none⟩ [.group "H" [.group "I" [box]]]
    let form : Form := ⟨[.conditional ⟨"on", .bool true⟩ [.group "G" [rows]]]⟩
    (policy.check form).issues.map (fun i => (i.severity, i.path))
        = [(.error, "when(on).[G].rows[].[H].[I].box"),
          (.warning, "when(on).[G].rows[].[H].[I].box.t")]
      ∧ (policy.check form.erase).issues.map (fun i => (i.severity, i.path))
        = [(.error, "rows[].box"), (.warning, "rows[].box.t")]
      ∧ (policy.check form).issues.map Issue.unplaced
        = (policy.check form.erase).issues.map Issue.unplaced
      ∧ fieldDepths form.elements = [("rows", 0), ("box", 1), ("t", 2)] := by
  intro policy box rows form
  obtain ⟨-, hissues, hdepths⟩ := check_erase (p := policy) rfl rfl form
  exact ⟨by decide, by decide, hissues, hdepths.trans (by decide)⟩

end FormSchema
