import FormSchema.Proofs.Form.Structure

/-!
# FormSchema — forms without repeated names

A form is unambiguous when no scope of it declares a name twice, at any depth. The structure check
tells exactly this.

* **`repeatedNames_eq_nil_iff`** — a scope has no warning exactly if its names are all different.
* **`unambiguous_iff_bodies`** — a form is unambiguous exactly if that is so in all of its scopes.
  By induction over scopes.
* **`unambiguous_iff_checkStructure`** — so a form is unambiguous exactly if no repeated name is
  reported.
-/

namespace FormSchema

/-- No name is declared twice in one scope, at any depth. -/
inductive Unambiguous : List Element → Prop where
  | intro {es : List Element} (names : ((contents es).map (·.name)).Nodup)
      (nested : ∀ f ∈ contents es, Unambiguous f.children) : Unambiguous es

theorem unambiguous_iff (es : List Element) :
    Unambiguous es ↔ ((contents es).map (·.name)).Nodup
      ∧ ∀ f ∈ contents es, Unambiguous f.children := by
  constructor
  · rintro ⟨names, nested⟩
    exact ⟨names, nested⟩
  · rintro ⟨names, nested⟩
    exact ⟨names, nested⟩

/-! ## Scope by scope -/

theorem ScopeBody.repeatedNames_eq_nil_iff (b : ScopeBody) :
    b.repeatedNames = [] ↔ b.names.Nodup := by
  rw [repeatedNames, List.filter_eq_nil_iff, List.nodup_iff_count_le_one]
  constructor
  · intro h name
    -- a name that is not declared at all is not looked at
    by_cases hmem : name ∈ b.names
    · have hname := h name (mem_firstOccurrences.mpr hmem)
      rw [decide_eq_true_eq] at hname
      omega
    · rw [List.count_eq_zero_of_not_mem hmem]
      omega
  · intro h name _
    have hcount := h name
    rw [decide_eq_true_eq]
    omega

theorem children_of_not_opensScope {f : Field} (h : f.opensScope = false) : f.children = [] := by
  obtain ⟨head, body⟩ := f
  cases body with
  | leaf kind => rfl
  | array bounds items => simp [Field.opensScope] at h
  | object properties => simp [Field.opensScope] at h

/-- One scope more, given the scopes below it. -/
theorem unambiguous_children_iff {f : Field}
    (h : ∀ path, Unambiguous f.children ↔ ((contents f.children).map (·.name)).Nodup
      ∧ ∀ b ∈ bodiesBelow path f.children, b.names.Nodup) (path : String) :
    Unambiguous f.children ↔ ∀ b ∈ f.bodies path, b.names.Nodup := by
  cases hopens : f.opensScope with
  | false =>
    -- a leaf has nothing below it, on either side
    have hchildren : Unambiguous f.children := by
      rw [children_of_not_opensScope hopens]
      exact ⟨List.nodup_nil, by simp⟩
    simp [Field.bodies, hopens, hchildren]
  | true =>
    rw [h (f.childPath path), Field.bodies, if_pos hopens, List.forall_mem_cons]
    rfl

theorem unambiguous_iff_bodiesBelow (es : List Element) : ∀ path,
    Unambiguous es ↔ ((contents es).map (·.name)).Nodup
      ∧ ∀ b ∈ bodiesBelow path es, b.names.Nodup := by
  induction es using scope_induction with
  | step es ih =>
    intro path
    rw [unambiguous_iff, bodiesBelow_eq_flatMap, ← fst_locatedContents path es]
    refine and_congr_right fun _ => ?_
    rw [List.forall_mem_map, List.forall_mem_flatMap]
    refine forall₂_congr fun g hg => ?_
    have hfield : g.1 ∈ contents es := by
      rw [← fst_locatedContents path es]
      exact List.mem_map_of_mem hg
    exact unambiguous_children_iff (ih g.1 hfield) g.2

/-- **A form is unambiguous exactly if each of its scopes has different names.** -/
theorem unambiguous_iff_bodies (es : List Element) :
    Unambiguous es ↔ ∀ b ∈ bodies es, b.names.Nodup := by
  rw [unambiguous_iff_bodiesBelow es "", bodies, List.forall_mem_cons]
  rfl

/-! ## What the check reports -/

/-- **A form is unambiguous exactly if no repeated name is reported.** -/
theorem unambiguous_iff_checkStructure (form : Form) :
    Unambiguous form.elements
      ↔ ∀ i ∈ form.checkStructure.issues, i.code ≠ some "DUPLICATE_FIELD_NAME" := by
  rw [unambiguous_iff_bodies, issues_checkStructure]
  constructor
  · intro h i hi
    rcases List.mem_append.mp hi with hi | hi
    · obtain ⟨b, hb, hwarning⟩ := List.mem_flatMap.mp hi
      rw [ScopeBody.warnings, b.repeatedNames_eq_nil_iff.mpr (h b hb)] at hwarning
      exact absurd hwarning (by simp)
    · -- errors have a code of their own
      obtain ⟨t, _, rfl⟩ := List.mem_map.mp hi
      simp [ScopedTest.error]
  · intro h b hb
    rw [← b.repeatedNames_eq_nil_iff, List.eq_nil_iff_forall_not_mem]
    intro name hname
    have hwarning : b.warning name ∈ b.warnings := List.mem_map_of_mem hname
    exact h _ (List.mem_append_left _ (List.mem_flatMap.mpr ⟨b, hb, hwarning⟩)) rfl

theorem unambiguous_of_checkStructure {form : Form}
    (h : ∀ i ∈ form.checkStructure.issues, i.code ≠ some "DUPLICATE_FIELD_NAME") :
    Unambiguous form.elements :=
  (unambiguous_iff_checkStructure form).mpr h

end FormSchema
