/-!
# FormSchema — ordered entries

A list of named values in order of first appearance. Setting a name that is already there replaces
its value and keeps its place, so a repeated name has the position of its first and the value of
its last occurrence. JSON objects, `properties` maps and groupings by name all follow this rule.
-/

namespace FormSchema

/-- Named values, in order. -/
abbrev Entries (α : Type) := List (String × α)

namespace Entries

variable {α β : Type}

/-- The names, in order. -/
def names (es : Entries α) : List String := es.map (·.1)

def get? (es : Entries α) (name : String) : Option α := es.lookup name

/-- Sets the value at a name: in place when the name is present, else at the end. -/
def put (es : Entries α) (name : String) (value : α) : Entries α :=
  match es with
  | [] => [(name, value)]
  | (n, v) :: rest => if n = name then (n, value) :: rest else (n, v) :: put rest name value

/-- Sets every entry of `more`, in order. -/
def merge (es more : Entries α) : Entries α :=
  more.foldl (fun acc entry => acc.put entry.1 entry.2) es

/-- The entries of a list of pairs in which a name may be repeated. -/
def ofList (pairs : List (String × α)) : Entries α := merge [] pairs

def push (es : Entries (List α)) (name : String) (value : α) : Entries (List α) :=
  es.put name ((es.get? name).getD [] ++ [value])

/-- Collects the values of each name, names in order of first occurrence. -/
def group (pairs : List (String × α)) : Entries (List α) :=
  pairs.foldl (fun acc pair => acc.push pair.1 pair.2) []

@[simp] theorem names_nil : names ([] : Entries α) = [] := rfl

@[simp] theorem names_cons (e : String × α) (es : Entries α) :
    names (e :: es) = e.1 :: names es := rfl

@[simp] theorem merge_nil (es : Entries α) : merge es [] = es := rfl

@[simp] theorem merge_cons (es : Entries α) (e : String × α) (more : Entries α) :
    merge es (e :: more) = merge (es.put e.1 e.2) more := rfl

theorem merge_append (es xs ys : Entries α) : merge es (xs ++ ys) = merge (merge es xs) ys := by
  simp [merge, List.foldl_append]

theorem get?_cons (n : String) (v : α) (es : Entries α) (name : String) :
    get? ((n, v) :: es) name = if name = n then some v else get? es name := by
  unfold get?
  rw [List.lookup_cons]
  by_cases h : name = n
  · simp [h]
  · have hb : (name == n) = false := by simpa using h
    simp [hb, h]

theorem get?_put (es : Entries α) (name other : String) (value : α) :
    get? (put es name value) other = if other = name then some value else get? es other := by
  induction es with
  | nil => rw [put, get?_cons]
  | cons e es ih =>
    obtain ⟨n, v⟩ := e
    unfold put
    by_cases hn : n = name
    · subst hn
      rw [if_pos rfl, get?_cons, get?_cons]
      split <;> rfl
    · rw [if_neg hn, get?_cons, get?_cons, ih]
      by_cases ho : other = n
      · have : ¬ n = name := hn
        simp [ho, this]
      · simp [ho]

theorem names_put (es : Entries α) (name : String) (value : α) :
    names (put es name value) = if name ∈ names es then names es else names es ++ [name] := by
  induction es with
  | nil => rfl
  | cons e es ih =>
    obtain ⟨n, v⟩ := e
    unfold put
    by_cases hn : n = name
    · simp [hn]
    · have hn' : name ≠ n := fun h => hn h.symm
      rw [if_neg hn, names_cons, ih]
      by_cases hm : name ∈ names es <;> simp [hm, hn']

end Entries

/-- The distinct members of a list, each at its first occurrence. -/
def firstOccurrences {α : Type} [DecidableEq α] (xs : List α) : List α :=
  xs.foldl (fun seen x => if x ∈ seen then seen else seen ++ [x]) []

end FormSchema
