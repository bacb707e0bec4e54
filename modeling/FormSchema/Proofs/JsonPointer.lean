import FormSchema.Json
import Mathlib.Data.List.Infix

/-!
# FormSchema — pointers into documents

The meaning of the pointers that layouts are written with: JSON pointers as the fragment of a
reference. A pointer is read token by token, and knows nothing about forms. Percent signs are taken
as they stand, so this is the meaning of pointers that have none.

* **`resolve?`** — the part of a document that a pointer refers to.
* **`unescape_eq_self_iff`** — the tokens that stand for themselves.
* **`exists_first_token_ne`** — a text with a slash or an escape is not read as itself.
-/

namespace FormSchema.JsonPointer

/-! ## Tokens -/

/-- The text that a token stands for: `~1` is written for a slash, and `~0` for a tilde. -/
def unescape : List Char → List Char
  | '~' :: '1' :: rest => '/' :: unescape rest
  | '~' :: '0' :: rest => '~' :: unescape rest
  | c :: rest => c :: unescape rest
  | [] => []

/-- The texts that the tokens of a pointer stand for, which slashes set off. The empty pointer has
no token, and every other pointer starts with a slash. -/
def tokens? : List Char → Option (List String)
  | [] => some []
  | '/' :: rest => some ((rest.splitOn '/').map fun token => String.ofList (unescape token))
  | _ => none

theorem length_unescape_le (cs : List Char) : (unescape cs).length ≤ cs.length := by
  fun_induction unescape cs with
  | case1 rest ih =>
    simp only [List.length_cons]
    omega
  | case2 rest ih =>
    simp only [List.length_cons]
    omega
  | case3 c rest _ _ ih =>
    simp only [List.length_cons]
    omega
  | case4 => exact Nat.le_refl 0

/-- A token stands for itself exactly if no tilde in it has a 0 or a 1 behind it. -/
theorem unescape_eq_self_iff (cs : List Char) :
    unescape cs = cs ↔ ¬ ['~', '0'] <:+: cs ∧ ¬ ['~', '1'] <:+: cs := by
  fun_induction unescape cs with
  | case1 rest ih =>
    have hescape : ['~', '1'] <:+: '~' :: '1' :: rest := (List.prefix_append _ rest).isInfix
    simp [hescape]
  | case2 rest ih =>
    have hescape : ['~', '0'] <:+: '~' :: '0' :: rest := (List.prefix_append _ rest).isInfix
    -- what is left is too short to start with the zero again
    have hlength := length_unescape_le rest
    have hshort : unescape rest ≠ '0' :: rest := by
      intro heq
      rw [heq, List.length_cons] at hlength
      omega
    simp [hescape, hshort]
  | case3 c rest hslash htilde ih =>
    have hone : ¬ ['~', '1'] <+: c :: rest := by
      intro h
      obtain ⟨hc, tail, htail⟩ := List.cons_prefix_cons.mp h
      exact hslash tail hc.symm htail.symm
    have hzero : ¬ ['~', '0'] <+: c :: rest := by
      intro h
      obtain ⟨hc, tail, htail⟩ := List.cons_prefix_cons.mp h
      exact htilde tail hc.symm htail.symm
    rw [List.infix_cons_iff, List.infix_cons_iff, List.cons_inj_right, ih]
    simp [hone, hzero]
  | case4 => simp

/-! ## References -/

/-- The part of a value that a token leads to: the member of an object, or the item of a list whose
position it writes in digits. -/
def step (value : Json) (token : String) : Option Json :=
  match value with
  | .obj members => Entries.get? members token
  | .arr items => (items.zipIdx.find? fun item => toString item.2 == token).map (·.1)
  | _ => none

/-- The part of a document that a pointer behind a hash sign refers to. -/
def resolve? (document : Json) (reference : String) : Option Json :=
  match reference.toList with
  | '#' :: pointer => (tokens? pointer).bind fun tokens => tokens.foldlM step document
  | _ => none

theorem step_of_get? {value found : Json} {token : String} (h : value.get? token = some found) :
    step value token = some found := by
  cases value with
  | obj members => exact h
  | _ => exact absurd h (by simp [Json.get?])

theorem splitOn_of_not_mem {cs : List Char} (h : '/' ∉ cs) : cs.splitOn '/' = [cs] := by
  have hpieces : ∀ piece ∈ [cs], '/' ∉ piece := by
    intro piece hpiece
    rw [List.mem_singleton.mp hpiece]
    exact h
  have hsplit := List.splitOn_intercalate '/' hpieces (List.cons_ne_nil cs [])
  rw [List.intercalate_singleton] at hsplit
  exact hsplit

/-- What stands in front of a slash is the first token. -/
theorem splitOn_append_cons {cs : List Char} (h : '/' ∉ cs) (rest : List Char) :
    (cs ++ '/' :: rest).splitOn '/' = cs :: rest.splitOn '/' := by
  have hfirst : ∀ c ∈ cs, (c == '/') = false := by
    intro c hc
    rw [beq_eq_false_iff_ne]
    intro heq
    exact h (heq ▸ hc)
  rw [List.splitOn_eq_splitOnP, List.splitOn_eq_splitOnP,
    List.splitOnP_append_cons_of_forall_mem hfirst '/' (by simp)]

/-- A text with a slash or an escape in it has a first token that stands for another text. -/
theorem exists_first_token_ne {cs : List Char} (h : ¬ ('/' ∉ cs ∧ unescape cs = cs)) :
    ∃ first more, cs.splitOn '/' = first :: more ∧ unescape first ≠ cs := by
  by_cases hslash : '/' ∈ cs
  · -- the first token ends in front of the first slash, and unescaping never makes it longer
    obtain ⟨first, rest, hcs, hfirst⟩ := List.eq_append_cons_of_mem hslash
    subst hcs
    refine ⟨first, _, splitOn_append_cons hfirst rest, ?_⟩
    intro heq
    have hlength := length_unescape_le first
    rw [heq, List.length_append, List.length_cons] at hlength
    omega
  · have hescape : unescape cs ≠ cs := fun heq => h ⟨hslash, heq⟩
    exact ⟨cs, [], splitOn_of_not_mem hslash, hescape⟩

end FormSchema.JsonPointer
