import FormSchema.Proofs.Entries
import FormSchema.Proofs.Intake.Accepted

/-!
# FormSchema — reading records that are written from lists

A record may be written from a list of attributes: those of the list become its members, the others
are left out. Reading it gives every attribute of the list its value, and the others their defaults.

* **`Checked.unlessFaulty`** — a reading whose value and faults are both known. Side by side, such
  readings have all faults of the parts, and the value of the whole if there are none.
* **`optional_ofList_map`** — an attribute of such a record.
-/

namespace FormSchema.Intake

variable {α β : Type}

namespace Checked

/-- A reading that gives a value, unless it has faults. -/
def unlessFaulty (value : α) : List Fault → Checked α
  | [] => .accepted value
  | fault :: rest => .faulty (fault :: rest)

theorem fmap_unlessFaulty (f : α → β) (value : α) (faults : List Fault) :
    f <$> unlessFaulty value faults = unlessFaulty (f value) faults := by
  cases faults <;> rfl

theorem seq_unlessFaulty (f : α → β) (value : α) (faults more : List Fault) :
    unlessFaulty f faults <*> unlessFaulty value more
      = unlessFaulty (f value) (faults ++ more) := by
  cases faults with
  | nil => cases more <;> rfl
  | cons fault rest =>
    cases more with
    | nil =>
      rw [List.append_nil]
      rfl
    | cons next others => rfl

theorem under_unlessFaulty (step : Step) (value : α) (faults : List Fault) :
    (unlessFaulty value faults).under step
      = unlessFaulty value (faults.map (·.under step)) := by
  cases faults <;> rfl

theorem unlessFaulty_eq_accepted_iff {value other : α} {faults : List Fault} :
    unlessFaulty value faults = .accepted other ↔ faults = [] ∧ value = other := by
  cases faults <;> simp [unlessFaulty]

end Checked

section Written

variable {γ : Type} [DecidableEq γ] {name : γ → String}

/-- An attribute of a record that is written from a list, if nothing is written under its other
spelling. -/
theorem optional_ofList_map (hname : Function.Injective name) {key : Key} {x : γ}
    (hkey : key.name = name x) (hspelling : ∀ other ∈ key.alternative, ∀ y, name y ≠ other)
    (absent : β) (check : α → Checked β) (value : γ → α) (xs : List γ) :
    optional key absent check (Entries.ofList (xs.map fun y => (name y, value y)))
      = if x ∈ xs then (check (value x)).under (.key (name x)) else .accepted absent := by
  have hfind : key.find? (Entries.ofList (xs.map fun y => (name y, value y)))
      = if x ∈ xs then some (name x, value x) else none := by
    unfold Key.find?
    rw [hkey, Entries.get?_ofList_map hname]
    by_cases h : x ∈ xs
    · simp [h]
    · have hother : ∀ other ∈ key.alternative,
          Entries.get? (Entries.ofList (xs.map fun y => (name y, value y))) other = none := by
        intro other hmem
        refine Entries.get?_ofList_of_not_mem fun hwritten => ?_
        rw [List.map_map] at hwritten
        obtain ⟨y, _, hy⟩ := List.mem_map.mp hwritten
        exact hspelling other hmem y hy
      cases halternative : key.alternative with
      | none => simp [h]
      | some other => simp [h, hother other halternative]
  unfold optional
  rw [hfind]
  by_cases h : x ∈ xs <;> simp [h]

end Written

end FormSchema.Intake
