import FormSchema.Proofs.Form.Structure
import FormSchema.Proofs.Strict.Lookup

/-!
# FormSchema — the structure check finds what it looks up

The check keeps the names of each scope in a table, enters every field in the row of its scope,
looks every conditional up in the row of its own, and reports a repeated name where the first of its
paths says. Rows and paths are there for every form, whether or not its attributes make sense.

* **`checkStructure`** — the check with these look-ups.
* **`Resolution.Listed`** — every placement is in a scope that has a row; `listed_resolve` by
  induction on the elements.
* **`NameTable.enter_ofFields`** — what entering one field does to the table, and
  `foldlM_enter_ofFields` what a whole run of them does.
* **`checkStructure_eq`** — the check never misses a row or a path, and finds the same issues.
-/

namespace FormSchema.Strict

/-! ## The check with its look-ups -/

/-- The names of each scope, one row for each. -/
abbrev NameTable := List (Scope × List String)

namespace NameTable

/-- The table of no fields, with the rows of all scopes. -/
def blank (scopes : List Scope) : NameTable := scopes.map fun scope => (scope, [])

def names (table : NameTable) (scope : Scope) : Lookup (List String) :=
  match table.lookup scope with
  | some names => .ok names
  | none => .error (.row scope.path)

/-- Adds the name of a field to the row of its scope. -/
def enter (table : NameTable) (p : FieldPlacement) : Lookup NameTable := do
  let names ← table.names p.scope
  let more := if p.field.name ∈ names then names else names ++ [p.field.name]
  pure (table.map fun row => if row.1 = p.scope then (row.1, more) else row)

end NameTable

def nameTable (r : Resolution) : Lookup NameTable :=
  r.fields.foldlM NameTable.enter (.blank r.scopes)

/-- The conditionals whose field is not in the row of their scope. -/
def unknownAmong (table : NameTable) : List ConditionalPlacement → Lookup (List StructuralFault)
  | [] => pure []
  | c :: cs => do
    let names ← table.names c.scope
    let rest ← unknownAmong table cs
    if c.test.field ∈ names then pure rest
    else pure (.unknownField c.test.field c.scope c.path :: rest)

/-- The issue that reports a problem, a repeated name at the first one of its paths. -/
def issue : StructuralFault → Lookup Issue
  | .duplicateName name scope paths => do
    let first ← itemAt paths 0
    pure { (StructuralFault.duplicateName name scope paths).issue with path := first }
  | .unknownField name scope path => pure (StructuralFault.unknownField name scope path).issue

/-- The structure check with every look-up spelled out. -/
def checkStructure (form : Form) : Lookup Report := do
  let warnings ← (resolve form.elements).duplicates.mapM issue
  let table ← nameTable (resolve form.elements)
  let unknown ← unknownAmong table (resolve form.elements).conditionals
  let errors ← unknown.mapM issue
  pure (.ofIssues (warnings ++ errors))

/-! ## Every placement is in a listed scope -/

/-- The conditionals of a resolution are in the given scope or in one that the resolution lists. -/
def ConditionalsPlaced (r : Resolution) (scope : Scope) : Prop :=
  ∀ c ∈ r.conditionals, c.scope = scope ∨ c.scope ∈ r.scopes

theorem ConditionalsPlaced.append {r s : Resolution} {scope : Scope}
    (hr : ConditionalsPlaced r scope) (hs : ConditionalsPlaced s scope) :
    ConditionalsPlaced (r ++ s) scope := by
  intro c hc
  rw [Resolution.conditionals_append, List.mem_append] at hc
  rw [Resolution.scopes_append, List.mem_append]
  rcases hc with hc | hc
  · exact (hr c hc).imp_right Or.inl
  · exact (hs c hc).imp_right Or.inr

/-- A field that opens a scope lists it for the conditionals inside. -/
theorem conditionalsPlaced_opening {pos : Position} {field : Field}
    (h : ConditionalsPlaced (placeElements (pos.into field) 0 field.children)
      (pos.into field).scope) : ConditionalsPlaced (placeOpening pos field) pos.scope := by
  intro c hc
  rw [scopes_placeOpening, List.mem_cons]
  exact Or.inr (h c hc)

mutual

theorem conditionalsPlaced_placeElement (pos : Position) :
    ∀ e : Element, ConditionalsPlaced (placeElement pos e) pos.scope
  | .leaf head kind => by
    intro c hc
    exact absurd hc List.not_mem_nil
  | .array head bounds items =>
    conditionalsPlaced_opening
      (conditionalsPlaced_placeElements (pos.into ⟨head, .array bounds items⟩) 0 items)
  | .object head properties =>
    conditionalsPlaced_opening
      (conditionalsPlaced_placeElements (pos.into ⟨head, .object properties⟩) 0 properties)
  | .group label elements =>
    conditionalsPlaced_placeElements (pos.within (groupSegment label)) 0 elements
  | .conditional test elements => by
    intro c hc
    rcases List.mem_cons.mp hc with rfl | hc
    · exact Or.inl rfl
    · exact conditionalsPlaced_placeElements (pos.under test) 0 elements c hc

/-- A conditional among siblings is in the scope they stand in or in one that they open. -/
theorem conditionalsPlaced_placeElements (pos : Position) (index : Nat) :
    ∀ es : List Element, ConditionalsPlaced (placeElements pos index es) pos.scope
  | [] => by
    intro c hc
    exact absurd hc List.not_mem_nil
  | e :: es =>
    (conditionalsPlaced_placeElement (pos.child index) e).append
      (conditionalsPlaced_placeElements pos (index + 1) es)

end

/-- Every field and every conditional of a resolution is in a scope that the resolution lists. -/
structure Listed (r : Resolution) : Prop where
  fields : ∀ p ∈ r.fields, p.scope ∈ r.scopes
  conditionals : ∀ c ∈ r.conditionals, c.scope ∈ r.scopes

theorem listed_resolve (es : List Element) : Listed (resolve es) := by
  have hscopes : (resolve es).scopes = Scope.root :: (placeElements .start 0 es).scopes := rfl
  constructor
  · intro p hp
    rw [hscopes, List.mem_cons]
    exact fieldsPlaced_placeElements .start 0 es p hp
  · intro c hc
    rw [hscopes, List.mem_cons]
    exact conditionalsPlaced_placeElements .start 0 es c hc

/-! ## The table has the names of every scope -/

/-- The names of the fields in a scope, each once. -/
def namesAmong (fields : List FieldPlacement) (scope : Scope) : List String :=
  firstOccurrences ((fields.filter fun p => p.scope = scope).map (·.field.name))

/-- One more field changes the names of its own scope only, and only if its name is a new one. -/
theorem namesAmong_concat (fields : List FieldPlacement) (p : FieldPlacement) (scope : Scope) :
    namesAmong (fields ++ [p]) scope
      = if scope = p.scope then
          if p.field.name ∈ namesAmong fields scope then namesAmong fields scope
          else namesAmong fields scope ++ [p.field.name]
        else namesAmong fields scope := by
  rw [namesAmong, List.filter_append, List.filter_singleton]
  by_cases hscope : scope = p.scope
  · have hkeep : decide (p.scope = scope) = true := decide_eq_true hscope.symm
    rw [if_pos hscope, hkeep, List.map_append]
    exact firstOccurrences_concat
      ((fields.filter fun p => p.scope = scope).map (·.field.name)) p.field.name
  · have hdrop : decide (p.scope = scope) = false := decide_eq_false fun heq => hscope heq.symm
    rw [if_neg hscope, hdrop, cond_false, List.append_nil, namesAmong]

namespace NameTable

/-- The table of some fields. -/
def ofFields (scopes : List Scope) (fields : List FieldPlacement) : NameTable :=
  scopes.map fun scope => (scope, namesAmong fields scope)

variable {scopes : List Scope} {scope : Scope}

/-- A scope that is listed has a row. -/
theorem names_ofFields (h : scope ∈ scopes) (fields : List FieldPlacement) :
    (ofFields scopes fields).names scope = .ok (namesAmong fields scope) := by
  have hrow : (ofFields scopes fields).lookup scope = some (namesAmong fields scope) := by
    induction scopes with
    | nil => exact absurd h List.not_mem_nil
    | cons s rest ih =>
      rw [ofFields, List.map_cons, List.lookup_cons]
      by_cases hs : scope = s
      · rw [hs, beq_self_eq_true]
      · rw [beq_false_of_ne hs]
        exact ih ((List.mem_cons.mp h).resolve_left hs)
  rw [names, hrow]

/-- Entering a field turns the table of the fields before it into the one with it. -/
theorem enter_ofFields {p : FieldPlacement} (h : p.scope ∈ scopes) (seen : List FieldPlacement) :
    (ofFields scopes seen).enter p = .ok (ofFields scopes (seen ++ [p])) := by
  rw [enter, names_ofFields h, ok_bind]
  refine congrArg Except.ok ?_
  rw [ofFields, ofFields, List.map_map]
  apply List.map_congr_left
  intro scope _
  rw [Function.comp_apply, namesAmong_concat]
  by_cases hscope : scope = p.scope
  · rw [if_pos hscope, if_pos hscope, hscope]
  · rw [if_neg hscope, if_neg hscope]

/-- Entering fields one after the other gives the table of all of them. -/
theorem foldlM_enter_ofFields {fields : List FieldPlacement} (h : ∀ p ∈ fields, p.scope ∈ scopes)
    (seen : List FieldPlacement) :
    fields.foldlM enter (ofFields scopes seen) = .ok (ofFields scopes (seen ++ fields)) := by
  induction fields generalizing seen with
  | nil =>
    rw [List.append_nil]
    rfl
  | cons p rest ih =>
    have hstep := enter_ofFields (h p List.mem_cons_self) seen
    have hrest := ih (fun q hq => h q (List.mem_cons_of_mem p hq)) (seen ++ [p])
    rw [List.append_assoc] at hrest
    rw [List.foldlM_cons, hstep, ok_bind]
    exact hrest

end NameTable

theorem nameTable_eq {r : Resolution} (h : Listed r) : nameTable r = .ok r.namesByScope :=
  NameTable.foldlM_enter_ofFields h.fields []

/-! ## The check finds what it looks up -/

theorem names_namesByScope {r : Resolution} {scope : Scope} (h : scope ∈ r.scopes) :
    NameTable.names r.namesByScope scope = .ok (r.namesIn scope) :=
  NameTable.names_ofFields h r.fields

theorem unknownAmong_eq {r : Resolution} {cs : List ConditionalPlacement}
    (h : ∀ c ∈ cs, c.scope ∈ r.scopes) :
    unknownAmong r.namesByScope cs = .ok ((cs.filter fun c => !r.declares c).map fun c =>
      .unknownField c.test.field c.scope c.path) := by
  induction cs with
  | nil => rfl
  | cons c cs ih =>
    have hnames := names_namesByScope (h c List.mem_cons_self)
    have hrest := ih fun d hd => h d (List.mem_cons_of_mem c hd)
    rw [unknownAmong, hnames, ok_bind, hrest, ok_bind, List.filter_cons]
    by_cases hdeclared : c.test.field ∈ r.namesIn c.scope
    · have hdrop : (!r.declares c) = false := by
        rw [Resolution.declares, decide_eq_true hdeclared, Bool.not_true]
      rw [hdrop]
      exact if_pos hdeclared
    · have hkeep : (!r.declares c) = true := by
        rw [Resolution.declares, decide_eq_false hdeclared, Bool.not_false]
      rw [hkeep]
      exact if_neg hdeclared

theorem issue_of_mem_duplicates {r : Resolution} {fault : StructuralFault}
    (h : fault ∈ r.duplicates) : issue fault = .ok fault.issue := by
  obtain ⟨scope, _, hfault⟩ := List.mem_flatMap.mp h
  obtain ⟨⟨name, paths⟩, hentry, rfl⟩ := List.mem_map.mp hfault
  have hlength : 2 ≤ paths.length := by
    simpa using (List.mem_filter.mp hentry).2
  cases paths with
  | nil => exact absurd hlength (by simp)
  | cons path paths => rfl

theorem issue_of_mem_unknownFields {r : Resolution} {fault : StructuralFault}
    (h : fault ∈ r.unknownFields) : issue fault = .ok fault.issue := by
  obtain ⟨c, _, rfl⟩ := List.mem_map.mp h
  rfl

/-- **The structure check finds what it looks up**, in every form, and reports what it finds. -/
theorem checkStructure_eq (form : Form) : checkStructure form = .ok form.checkStructure := by
  have hlisted := listed_resolve form.elements
  have hwarnings := mapM_eq_ok fun fault (h : fault ∈ (resolve form.elements).duplicates) =>
    issue_of_mem_duplicates h
  have herrors := mapM_eq_ok fun fault (h : fault ∈ (resolve form.elements).unknownFields) =>
    issue_of_mem_unknownFields h
  have hunknown : unknownAmong (resolve form.elements).namesByScope
      (resolve form.elements).conditionals = .ok (resolve form.elements).unknownFields :=
    unknownAmong_eq hlisted.conditionals
  rw [checkStructure, hwarnings, ok_bind, nameTable_eq hlisted, ok_bind, hunknown, ok_bind,
    herrors, ok_bind, Form.checkStructure, structuralFaults, List.map_append]
  rfl

end FormSchema.Strict
