import FormSchema.Entries

/-!
# FormSchema — look-ups that can find nothing

The passes over a form are total: where they look something up, a default stands ready for the case
that it is not there. Here are look-ups without a default. A pass that is written with them ends at
the first one that finds nothing, and so says whether it ever needs a default.

* **`Lookup`** — a computation that may end at such a look-up.
* **`mapM_eq_ok`** — a list whose items are all found.
-/

namespace FormSchema.Strict

/-- What was not found: the item of a list at a position, the row of a table under a key, or an
attribute of a record. -/
inductive LookupError
  | item (position : Nat)
  | row (key : String)
  | attribute (name : String)
  deriving DecidableEq, Repr

/-- A computation that may end at a look-up which finds nothing. -/
abbrev Lookup (α : Type) := Except LookupError α

variable {α β : Type}

def itemAt (xs : List α) (position : Nat) : Lookup α :=
  match xs[position]? with
  | some x => .ok x
  | none => .error (.item position)

def rowOf (table : Entries α) (key : String) : Lookup α :=
  match table.get? key with
  | some value => .ok value
  | none => .error (.row key)

def attributeOf (record : Entries α) (name : String) : Lookup α :=
  match record.get? name with
  | some value => .ok value
  | none => .error (.attribute name)

theorem rowOf_eq_ok {table : Entries α} {key : String} {value : α}
    (h : table.get? key = some value) : rowOf table key = .ok value := by
  rw [rowOf, h]

theorem attributeOf_eq_ok {record : Entries α} {name : String} {value : α}
    (h : record.get? name = some value) : attributeOf record name = .ok value := by
  rw [attributeOf, h]

/-- What was found is handed on. -/
theorem ok_bind (a : α) (f : α → Lookup β) : (Except.ok a >>= f) = f a := rfl

theorem mapM_eq_ok {f : α → Lookup β} {g : α → β} {xs : List α} (h : ∀ x ∈ xs, f x = .ok (g x)) :
    xs.mapM f = .ok (xs.map g) := by
  induction xs with
  | nil => rfl
  | cons x xs ih =>
    have hhead : f x = .ok (g x) := h x List.mem_cons_self
    have htail : xs.mapM f = .ok (xs.map g) := ih fun y hy => h y (List.mem_cons_of_mem x hy)
    rw [List.mapM_cons, hhead, ok_bind, htail, ok_bind]
    rfl

end FormSchema.Strict
