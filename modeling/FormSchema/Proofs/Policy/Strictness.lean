import FormSchema.Proofs.Policy.Exactness
import Mathlib.Order.Basic

/-!
# FormSchema — stricter policies

A policy is at least as strict as another if none of its levels is lower and it allows no deeper
nesting. What a policy reports is then reported by the stricter one too: about the same things, in
the same order, and with no less severity. In between, the stricter one may report more.

* **`Policy.AtMost`** — the order of policies, setting by setting.
* **`Issue.Raised`** — an issue, and the one that it becomes under a stricter policy.
* **`raised_levelIssues`**, **`raised_depthIssues`** — one feature of a node, as its level or the
  limit on the depth gets stricter.
* **`raised_issuesAt`** — all features of a node. The order in which nodes and features are looked
  at does not depend on the policy, so whole forms follow node by node.
* **`check_mono`** — the statement about whole forms.
-/

namespace FormSchema

/-! ## The order of policies -/

def Level.strictness : Level → Nat
  | .off => 0
  | .warn => 1
  | .error => 2

instance : Preorder Level := Preorder.lift Level.strictness

instance : DecidableLE Level :=
  fun a b => inferInstanceAs (Decidable (a.strictness ≤ b.strictness))

def Severity.weight : Severity → Nat
  | .warning => 0
  | .error => 1

instance : Preorder Severity := Preorder.lift Severity.weight

instance : DecidableLE Severity :=
  fun a b => inferInstanceAs (Decidable (a.weight ≤ b.weight))

/-- A limit on the nesting depth is stricter the smaller it is, and any limit is stricter than
none. -/
def LimitAtMost (limit stricter : Option Nat) : Prop := ∀ n ∈ limit, ∃ m ∈ stricter, m ≤ n

theorem LimitAtMost.refl (limit : Option Nat) : LimitAtMost limit limit :=
  fun n hn => ⟨n, hn, Nat.le_refl n⟩

theorem LimitAtMost.trans {a b c : Option Nat} (h : LimitAtMost a b) (h' : LimitAtMost b c) :
    LimitAtMost a c := by
  intro n hn
  obtain ⟨m, hm, hle⟩ := h n hn
  obtain ⟨k, hk, hle'⟩ := h' m hm
  exact ⟨k, hk, hle'.trans hle⟩

/-- A policy is at most as strict as another in every setting. -/
structure Policy.AtMost (p q : Policy) : Prop where
  fieldTypes : ∀ kind, p.fieldTypes.of kind ≤ q.fieldTypes.of kind
  group : p.layout.group ≤ q.layout.group
  conditionals : p.layout.conditionals ≤ q.layout.conditionals
  maxNestingDepth : LimitAtMost p.layout.maxNestingDepth q.layout.maxNestingDepth
  fieldOptions : ∀ option, p.fieldOptions.of option ≤ q.fieldOptions.of option

instance : Preorder Policy where
  le := Policy.AtMost
  le_refl p := ⟨fun _ => le_rfl, le_rfl, le_rfl, .refl _, fun _ => le_rfl⟩
  le_trans p q r h h' :=
    { fieldTypes := fun kind => (h.fieldTypes kind).trans (h'.fieldTypes kind)
      group := h.group.trans h'.group
      conditionals := h.conditionals.trans h'.conditionals
      maxNestingDepth := h.maxNestingDepth.trans h'.maxNestingDepth
      fieldOptions := fun option => (h.fieldOptions option).trans (h'.fieldOptions option) }

/-! ## Issues that come back -/

/-- What an issue is about, whatever its severity and its wording. -/
def Issue.about (i : Issue) : Option String × String × Option String :=
  (i.code, i.path, i.fieldName)

/-- An issue comes back about the same thing and with no less severity. -/
structure Issue.Raised (i j : Issue) : Prop where
  about : i.about = j.about
  severity : i.severity ≤ j.severity

section Sublists

variable {α β γ : Type} {R : α → β → Prop}

theorem sublistForall₂_append {xs xs' : List α} {ys ys' : List β}
    (h : List.SublistForall₂ R xs ys) (h' : List.SublistForall₂ R xs' ys') :
    List.SublistForall₂ R (xs ++ xs') (ys ++ ys') := by
  rw [List.sublistForall₂_iff] at h h' ⊢
  obtain ⟨l, hl, hsub⟩ := h
  obtain ⟨l', hl', hsub'⟩ := h'
  exact ⟨l ++ l', List.rel_append hl hl', hsub.append hsub'⟩

theorem sublistForall₂_flatMap {f : γ → List α} {g : γ → List β} (zs : List γ)
    (h : ∀ z, List.SublistForall₂ R (f z) (g z)) :
    List.SublistForall₂ R (zs.flatMap f) (zs.flatMap g) := by
  induction zs with
  | nil => exact .nil
  | cons z zs ih =>
    rw [List.flatMap_cons, List.flatMap_cons]
    exact sublistForall₂_append (h z) ih

end Sublists

section Raised

variable {issues more : List Issue} (h : List.SublistForall₂ Issue.Raised issues more)

include h

theorem sublist_about : (issues.map Issue.about).Sublist (more.map Issue.about) := by
  induction h with
  | nil => exact List.nil_sublist _
  | cons hraised _ ih =>
    rw [List.map_cons, List.map_cons, hraised.about]
    exact ih.cons_cons _
  | cons_right _ ih => exact ih.cons _

/-- Issues that come back and are no errors then were none before. -/
theorem valid_of_raised (hvalid : (Report.ofIssues more).valid = true) :
    (Report.ofIssues issues).valid = true := by
  rw [Report.valid_ofIssues_iff] at hvalid ⊢
  induction h with
  | nil => exact fun i hi => absurd hi List.not_mem_nil
  | @cons i j issues more hraised _ ih =>
    rw [List.forall_mem_cons] at hvalid ⊢
    refine ⟨fun herror => ?_, ih hvalid.2⟩
    -- no severity is above that of an error
    have hle := hraised.severity
    rw [herror] at hle
    cases hj : j.severity with
    | warning => exact absurd hle (by rw [hj]; decide)
    | error => exact hvalid.1 hj
  | cons_right _ ih => exact ih fun j hj => hvalid j (List.mem_cons_of_mem _ hj)

end Raised

/-! ## One node -/

theorem raised_levelIssues {l m : Level} (h : l ≤ m) {about : Severity → Issue}
    (hraised : ∀ {s t : Severity}, s ≤ t → (about s).Raised (about t)) :
    List.SublistForall₂ Issue.Raised (l.issues about) (m.issues about) := by
  cases l with
  | off => exact .nil
  | warn =>
    cases m with
    | off => exact absurd h (by decide)
    | warn => exact .cons (hraised (by decide)) .nil
    | error => exact .cons (hraised (by decide)) .nil
  | error =>
    cases m with
    | off => exact absurd h (by decide)
    | warn => exact absurd h (by decide)
    | error => exact .cons (hraised (by decide)) .nil

section Node

variable {p q : Policy} (h : p ≤ q)

include h

/-- What is too deep for a limit is too deep for a stricter one. Only the wording changes, since it
says the limit. -/
theorem raised_depthIssues (f : Field) (path : String) (depth : Nat) :
    List.SublistForall₂ Issue.Raised (p.depthIssues f path depth) (q.depthIssues f path depth) := by
  unfold Policy.depthIssues
  cases hlimit : p.layout.maxNestingDepth with
  | none => exact .nil
  | some limit =>
    obtain ⟨stricter, hstricter, hle⟩ := h.maxNestingDepth limit hlimit
    rw [hstricter]
    by_cases hdeep : f.opensScope = true ∧ depth + 1 > limit
    · have hdeeper : f.opensScope = true ∧ depth + 1 > stricter := ⟨hdeep.1, by omega⟩
      simp only [if_pos hdeep, if_pos hdeeper]
      exact .cons ⟨rfl, le_rfl⟩ .nil
    · simp only [if_neg hdeep]
      exact .nil

theorem raised_fieldIssues (f : Field) (path : String) (depth : Nat) :
    List.SublistForall₂ Issue.Raised (p.fieldIssues f path depth) (q.fieldIssues f path depth) := by
  have hkind : List.SublistForall₂ Issue.Raised (p.kindIssues f path) (q.kindIssues f path) :=
    raised_levelIssues (h.fieldTypes f.kind) fun hle => ⟨rfl, hle⟩
  have hoption : ∀ option, List.SublistForall₂ Issue.Raised (p.optionIssues f path option)
      (q.optionIssues f path option) :=
    fun option => raised_levelIssues (h.fieldOptions option) fun hle => ⟨rfl, hle⟩
  exact sublistForall₂_append (sublistForall₂_append hkind (sublistForall₂_flatMap _ hoption))
    (raised_depthIssues h f path depth)

theorem raised_issuesAt (n : TreeNode) :
    List.SublistForall₂ Issue.Raised (p.issuesAt n) (q.issuesAt n) := by
  obtain ⟨address, e, above⟩ := n
  cases e with
  | group label elements =>
    have hgroup : ∀ path, List.SublistForall₂ Issue.Raised (p.groupIssues label path)
        (q.groupIssues label path) :=
      fun path => raised_levelIssues h.group fun hle => ⟨rfl, hle⟩
    exact hgroup _
  | conditional test elements =>
    have hconditional : ∀ path, List.SublistForall₂ Issue.Raised (p.conditionalIssues path)
        (q.conditionalIssues path) :=
      fun path => raised_levelIssues h.conditionals fun hle => ⟨rfl, hle⟩
    exact hconditional _
  | leaf head kind => exact raised_fieldIssues h _ _ _
  | array head bounds items => exact raised_fieldIssues h _ _ _
  | object head properties => exact raised_fieldIssues h _ _ _

end Node

/-! ## Whole forms -/

/-- **The check is monotone.** What a policy reports about a form is reported by every policy that
is at least as strict: about the same things in the same order, with other issues in between, and
each issue with no less severity. So a form that is valid under the stricter policy is valid. -/
theorem check_mono {p q : Policy} (h : p ≤ q) (form : Form) :
    ((p.check form).issues.map Issue.about).Sublist ((q.check form).issues.map Issue.about)
      ∧ List.SublistForall₂ Issue.Raised (p.check form).issues (q.check form).issues
      ∧ ((q.check form).valid = true → (p.check form).valid = true) := by
  have hraised : List.SublistForall₂ Issue.Raised (p.check form).issues (q.check form).issues := by
    rw [issues_check, issues_check]
    exact sublistForall₂_flatMap _ (raised_issuesAt h)
  exact ⟨sublist_about hraised, hraised, valid_of_raised hraised⟩

/-- The limit goes down by one, a warning becomes an error, and a group and a kind of field are no
longer allowed: the two issues of the looser policy come back with others before and between. -/
theorem check_mono_nested :
    let loose : Policy :=
      { layout := { maxNestingDepth := some 1 }, fieldOptions := { required := .warn } }
    let strict : Policy :=
      { fieldTypes := { text := .warn }
        layout := { group := .warn, maxNestingDepth := some 0 }
        fieldOptions := { required := .error } }
    let text : Element := .leaf ⟨"t", none, true⟩ (.text none)
    let box : Element := .object ⟨"box", none, false⟩ [text]
    let form : Form := ⟨[.group "G" [.array ⟨"rows", none, false⟩ ⟨none, none⟩ [box]]]⟩
    loose ≤ strict
      ∧ ((loose.check form).issues.map Issue.about).Sublist
        ((strict.check form).issues.map Issue.about)
      ∧ (loose.check form).issues.map (fun i => (i.severity, i.path))
        = [(.error, "[G].rows[].box"), (.warning, "[G].rows[].box.t")]
      ∧ (strict.check form).issues.map (fun i => (i.severity, i.path))
        = [(.warning, "[G]"), (.error, "[G].rows"), (.error, "[G].rows[].box"),
          (.warning, "[G].rows[].box.t"), (.error, "[G].rows[].box.t")] := by
  intro loose strict text box form
  have hle : loose ≤ strict :=
    { fieldTypes := by intro kind; cases kind <;> decide
      group := by decide
      conditionals := by decide
      maxNestingDepth := by
        intro n hn
        cases hn
        exact ⟨0, rfl, by decide⟩
      fieldOptions := by intro option; cases option <;> decide }
  exact ⟨hle, (check_mono hle form).1, by decide, by decide⟩

end FormSchema
