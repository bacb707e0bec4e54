import FormSchema.Form.Structure
import FormSchema.Proofs.Form.Resolved

/-!
# FormSchema — what the structure check reports

The check works on the flat list of placements; here its issues are those that the tree itself calls
for.

* **`ScopeBody.warnings`**, **`ScopedTest.error`** — the issues of one scope and of one test,
  written out.
* **`issues_duplicatesIn`**, **`issue_unknownField`** — in a scope that stands for an element list
  the check finds the issues of that list.
* **`issues_checkStructure`** — so its report is the warnings of all scopes and then the errors of
  all tests without a field; both by `renders_resolve`.
* **`structure_check_exact`** — the statement about whole forms.
-/

namespace FormSchema

/-! ## The issues that a tree calls for -/

namespace ScopeBody

/-- The scope as messages name it. -/
def place (b : ScopeBody) : String :=
  if b.path = "" then "root scope" else s!"scope \"{b.path}\""

/-- The warning about a repeated name: how often it is declared, and where. It is given at the first
of these places. -/
def warning (b : ScopeBody) (name : String) : Issue :=
  { severity := .warning
    message := s!"Duplicate field name \"{name}\" found {b.names.count name} times in "
      ++ s!"{b.place} at: " ++ ", ".intercalate (b.pathsOf name)
    path := (b.pathsOf name).headD ""
    code := some "DUPLICATE_FIELD_NAME"
    category := none
    fieldName := some name }

/-- One warning for each repeated name. -/
def warnings (b : ScopeBody) : List Issue := b.repeatedNames.map b.warning

end ScopeBody

/-- The error about a test of a field that its scope does not declare. -/
def ScopedTest.error (t : ScopedTest) : Issue :=
  { severity := .error
    message := s!"Conditional references non-existent field \"{t.test.field}\" in {t.scope.place}"
    path := t.path
    code := some "UNKNOWN_CONDITIONAL_FIELD"
    category := none
    fieldName := some t.test.field }

/-! ## The issues that the check finds -/

namespace Resolution

variable {r : Resolution} {s : Scope} {b : ScopeBody}

theorem StandsFor.describe (h : r.StandsFor s b) : s.describe = b.place := by
  rw [Scope.describe, h.path, ScopeBody.place]
  simp [String.isEmpty_iff]

theorem StandsFor.names (h : r.StandsFor s b) : (r.fieldsIn s).map (·.field.name) = b.names := by
  have hnames := congrArg (List.map fun field => field.1.name) h.fields
  rw [List.map_map] at hnames
  rw [ScopeBody.names, ← fst_locatedContents b.path b.elements, List.map_map]
  exact hnames

/-- The repeated names of a scope are reported as its element list calls for. -/
theorem issues_duplicatesIn (h : r.StandsFor s b) :
    (r.duplicatesIn s).map (·.issue) = b.warnings := by
  have hpairs : (r.fieldsIn s).map (fun p => (p.field.name, p.path))
      = b.fields.map fun field => (field.1.name, field.2) := by
    rw [← h.fields, List.map_map]
    rfl
  rw [duplicatesIn, hpairs, Entries.group_eq, b.names_eq_map_fields, List.filter_map, List.map_map,
    List.map_map, ScopeBody.warnings, ScopeBody.repeatedNames]
  -- the check counts the paths it has grouped, of which there is one for each declaration
  have hfilter : ((fun entry : String × List String => decide (2 ≤ entry.2.length))
        ∘ fun n => (n, Entries.valuesAt (b.fields.map fun field => (field.1.name, field.2)) n))
      = fun name => decide (2 ≤ b.names.count name) := by
    funext name
    exact congrArg (fun n => decide (2 ≤ n)) (b.length_pathsOf name)
  rw [hfilter]
  apply List.map_congr_left
  intro name _
  have hcount := b.length_pathsOf name
  rw [ScopeBody.pathsOf] at hcount
  simp [StructuralFault.issue, ScopeBody.warning, ScopeBody.pathsOf, hcount, h.describe,
    String.append_assoc]

variable {c : ConditionalPlacement} {t : ScopedTest}

theorem StandsForTest.declares (h : r.StandsForTest c t) : r.declares c = t.declared := by
  rw [Resolution.declares, ScopedTest.declared, namesIn, h.scope.names, h.test]
  simp

theorem issue_unknownField (h : r.StandsForTest c t) :
    (StructuralFault.unknownField c.test.field c.scope c.path).issue = t.error := by
  rw [StructuralFault.issue, ScopedTest.error, h.test, h.path, h.scope.describe]

end Resolution

/-! ## Whole forms -/

section Lockstep

variable {α β γ : Type} {R : α → β → Prop} {xs : List α} {ys : List β}

theorem flatMap_eq_of_forall₂ {f : α → List γ} {g : β → List γ} (h : List.Forall₂ R xs ys)
    (heq : ∀ x y, R x y → f x = g y) : xs.flatMap f = ys.flatMap g := by
  induction h with
  | nil => rfl
  | cons hxy _ ih => rw [List.flatMap_cons, List.flatMap_cons, heq _ _ hxy, ih]

theorem map_filter_eq_of_forall₂ {p : α → Bool} {q : β → Bool} {f : α → γ} {g : β → γ}
    (h : List.Forall₂ R xs ys) (hkeep : ∀ x y, R x y → p x = q y)
    (heq : ∀ x y, R x y → f x = g y) : (xs.filter p).map f = (ys.filter q).map g := by
  induction h with
  | nil => rfl
  | cons hxy _ ih =>
    rw [List.filter_cons, List.filter_cons, hkeep _ _ hxy]
    split
    · rw [List.map_cons, List.map_cons, heq _ _ hxy, ih]
    · exact ih

end Lockstep

/-- The issues of the structure check, as the tree calls for them. -/
theorem issues_checkStructure (form : Form) :
    form.checkStructure.issues
      = (bodies form.elements).flatMap ScopeBody.warnings
        ++ ((tests form.elements).filter fun t => !t.declared).map ScopedTest.error := by
  have hrenders := renders_resolve form.elements
  have hwarnings : (resolve form.elements).duplicates.map (·.issue)
      = (bodies form.elements).flatMap ScopeBody.warnings := by
    rw [Resolution.duplicates, List.map_flatMap]
    exact flatMap_eq_of_forall₂ hrenders.scopes fun s b h => Resolution.issues_duplicatesIn h
  have herrors : (resolve form.elements).unknownFields.map (·.issue)
      = ((tests form.elements).filter fun t => !t.declared).map ScopedTest.error := by
    rw [Resolution.unknownFields, List.map_map]
    refine map_filter_eq_of_forall₂ hrenders.conditionals ?_ ?_
    · intro c t h
      rw [h.declares]
    · intro c t h
      exact Resolution.issue_unknownField h
  rw [Form.checkStructure, Report.ofIssues, structuralFaults, List.map_append, hwarnings, herrors]

theorem isError_of_mem_warnings {b : ScopeBody} {i : Issue} (h : i ∈ b.warnings) :
    i.isError = false := by
  obtain ⟨name, _, rfl⟩ := List.mem_map.mp h
  rfl

/-- Only a test without a field makes a form invalid. -/
theorem valid_checkStructure_iff (form : Form) :
    form.checkStructure.valid = true ↔ ∀ t ∈ tests form.elements, t.declared = true := by
  have hvalid : form.checkStructure.valid
      = form.checkStructure.issues.all fun i => !i.isError := rfl
  rw [hvalid, issues_checkStructure, List.all_append, Bool.and_eq_true, List.all_eq_true,
    List.all_eq_true]
  constructor
  · rintro ⟨_, herrors⟩ t ht
    by_contra hundeclared
    have hmem : t ∈ (tests form.elements).filter fun t => !t.declared :=
      List.mem_filter.mpr ⟨ht, by simpa using hundeclared⟩
    have herror : (!t.error.isError) = true := herrors t.error (List.mem_map_of_mem hmem)
    exact absurd herror (by simp [Issue.isError, ScopedTest.error])
  · intro h
    refine ⟨?_, ?_⟩
    · intro i hi
      obtain ⟨b, _, hwarning⟩ := List.mem_flatMap.mp hi
      rw [isError_of_mem_warnings hwarning, Bool.not_false]
    · intro i hi
      obtain ⟨t, ht, rfl⟩ := List.mem_map.mp hi
      obtain ⟨hmem, hundeclared⟩ := List.mem_filter.mp ht
      rw [h t hmem] at hundeclared
      exact absurd hundeclared (by simp)

/-- **The structure check is exact.** It reports, scope by scope in pre-order, one warning for each
name that the scope declares more than once, and then in pre-order one error for each conditional
whose tested field its scope does not declare; nothing else. A warning counts and lists all paths of
its name. Every conditional of the form is in exactly one of the scopes, and the form is valid
exactly if all of them test a declared field. -/
theorem structure_check_exact (form : Form) :
    form.checkStructure.issues
        = (bodies form.elements).flatMap (fun b => b.repeatedNames.map b.warning)
          ++ ((tests form.elements).filter fun t => t.test.field ∉ t.scope.names).map
            ScopedTest.error
      ∧ (∀ b ∈ bodies form.elements, ∀ name, (b.pathsOf name).length = b.names.count name)
      ∧ (tests form.elements).Perm ((bodies form.elements).flatMap ScopeBody.tests)
      ∧ (form.checkStructure.valid = true
        ↔ ∀ t ∈ tests form.elements, t.test.field ∈ t.scope.names) := by
  refine ⟨?_, fun b _ => b.length_pathsOf, tests_perm form.elements, ?_⟩
  · rw [issues_checkStructure]
    have hkeep : (fun t : ScopedTest => decide (t.test.field ∉ t.scope.names))
        = fun t => !t.declared := by
      funext t
      simp [ScopedTest.declared]
    rw [hkeep]
    rfl
  · rw [valid_checkStructure_iff]
    simp [ScopedTest.declared]

/-- A field of the form around it does not count for a test inside an array, and a name that both
declare is not repeated. -/
theorem structure_check_exact_nested :
    let plain : FieldHead → Element := fun head => .leaf head .boolean
    let form : Form := ⟨[.array ⟨"rows", none, false⟩ ⟨none, none⟩
        [plain ⟨"b", none, false⟩, .group "G" [plain ⟨"b", none, false⟩],
          .conditional ⟨"a", .null⟩ [plain ⟨"c", none, false⟩]],
      plain ⟨"a", none, false⟩, .conditional ⟨"c", .null⟩ [plain ⟨"c", none, false⟩]]⟩
    form.checkStructure.issues.map (fun i => (i.code, i.path))
        = [(some "DUPLICATE_FIELD_NAME", "rows[].b"),
          (some "UNKNOWN_CONDITIONAL_FIELD", "rows[].when(a)")]
      ∧ form.checkStructure.valid = false := by
  intro plain form
  obtain ⟨hissues, _, _, hvalid⟩ := structure_check_exact form
  refine ⟨?_, ?_⟩
  · rw [hissues]
    rfl
  · rw [Bool.eq_false_iff, ne_eq, hvalid]
    decide

end FormSchema
