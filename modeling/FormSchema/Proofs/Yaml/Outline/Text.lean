import FormSchema.Yaml.Token.Lexer

/-!
# FormSchema — outlines and how they are written

An outline is a document of the simplest notation: keys, each with a word behind it, with an outline
indented below it, or with nothing. Words and keys are made of ASCII letters and digits, so no
character of theirs means anything to the lexer.

* **`Outline.text`**, **`entriesText`** — what stands behind a key's colon, and a block's lines.
* **`Continues`** — what may stand behind a line: nothing, or a line that is indented no further.
* **`readPlain_key`**, **`readPlain_word`** — a word is read up to the colon, or to the next line.
-/

namespace FormSchema.Yaml

/-- A word, or a block of keys. A block without keys stands for nothing. -/
inductive Outline
  | word (text : String)
  | block (entries : List (String × Outline))

/-- A text of ASCII letters and digits, one at least. -/
def IsWord (cs : List Char) : Prop := cs ≠ [] ∧ ∀ c ∈ cs, c.isAlphanum = true

-- the list is gone through, and not all characters
instance (cs : List Char) : Decidable (IsWord cs) :=
  decidable_of_iff (cs ≠ [] ∧ cs.all Char.isAlphanum = true)
    (and_congr_right' List.all_eq_true)

namespace Outline

mutual

/-- What stands behind the colon of a key in some column. Every block is indented by `width`. -/
def text (width column : Nat) : Outline → List Char
  | .word w => ' ' :: (w.toList ++ ['\n'])
  | .block entries => '\n' :: entriesText width (column + width) entries

/-- The lines of a block in some column. -/
def entriesText (width column : Nat) : List (String × Outline) → List Char
  | [] => []
  | (key, outline) :: rest =>
    List.replicate column ' ' ++ (key.toList ++ ':' :: (outline.text width column
      ++ entriesText width column rest))

end

mutual

/-- All keys and words are words, and no key is longer than keys may be. -/
def Plain : Outline → Prop
  | .word w => IsWord w.toList
  | .block entries => PlainEntries entries

def PlainEntries : List (String × Outline) → Prop
  | [] => True
  | (key, outline) :: rest =>
    (IsWord key.toList ∧ key.toList.length ≤ 1024) ∧ outline.Plain ∧ PlainEntries rest

end

theorem plainEntries_map {α : Type} {name : α → String} {outline : α → Outline}
    (hname : ∀ x, IsWord (name x).toList ∧ (name x).toList.length ≤ 1024) (xs : List α)
    (h : ∀ x ∈ xs, (outline x).Plain) : PlainEntries (xs.map fun x => (name x, outline x)) := by
  induction xs with
  | nil => trivial
  | cons x xs ih =>
    exact ⟨hname x, h x List.mem_cons_self, ih fun y hy => h y (List.mem_cons_of_mem x hy)⟩

end Outline

/-! ## Letters and digits -/

theorem ne_of_isAlphanum {c d : Char} (hc : c.isAlphanum = true) (hd : d.isAlphanum = false) :
    c ≠ d := by
  rintro rfl
  rw [hc] at hd
  cases hd

theorem beq_eq_false_of_isAlphanum {c d : Char} (hc : c.isAlphanum = true)
    (hd : d.isAlphanum = false) : (c == d) = false := by
  simpa using ne_of_isAlphanum hc hd

/-- Neither a break nor a byte order mark: what counts one column. -/
def IsInline (c : Char) : Prop := isBreak c = false ∧ c ≠ '\uFEFF'

theorem isInline_of_isAlphanum {c : Char} (h : c.isAlphanum = true) : IsInline c := by
  have hne {d : Char} (hd : d.isAlphanum = false) : (c == d) = false :=
    beq_eq_false_of_isAlphanum h hd
  constructor
  · unfold isBreak
    rw [hne (by decide), hne (by decide), hne (by decide), hne (by decide), hne (by decide)]
    rfl
  · exact ne_of_isAlphanum h (by decide)

theorem isInline_blank : IsInline ' ' := by
  constructor <;> decide

theorem isInline_colon : IsInline ':' := by
  constructor <;> decide

theorem separates_of_isAlphanum {c : Char} (h : c.isAlphanum = true) : separates c = false := by
  have hne {d : Char} (hd : d.isAlphanum = false) : (c == d) = false :=
    beq_eq_false_of_isAlphanum h hd
  unfold separates isBlank endsLine
  rw [hne (by decide), hne (by decide), hne (by decide), (isInline_of_isAlphanum h).1]
  rfl

theorem isAllowed_of_isAlphanum {c : Char} (h : c.isAlphanum = true) : isAllowed c = true := by
  have hrange : 0x30 ≤ c.toNat ∧ c.toNat ≤ 0x7a := by
    have hcases : ((c.isUpper || c.isLower) || c.isDigit) = true := h
    rw [Bool.or_eq_true, Bool.or_eq_true] at hcases
    rcases hcases with (hupper | hlower) | hdigit
    · have hbounds : 0x41 ≤ c.toNat ∧ c.toNat ≤ 0x5a := of_decide_eq_true hupper
      omega
    · obtain ⟨hlow, hhigh⟩ := Bool.and_eq_true_iff.mp hlower
      have hlow : 0x61 ≤ c.toNat := of_decide_eq_true hlow
      have hhigh : c.toNat ≤ 0x7a := of_decide_eq_true hhigh
      omega
    · have hbounds : 0x30 ≤ c.toNat ∧ c.toNat ≤ 0x39 := Char.isDigit_iff_toNat.mp hdigit
      omega
  unfold isAllowed
  simp only [Bool.or_eq_true, Bool.and_eq_true, decide_eq_true_eq, beq_iff_eq]
  omega

/-! ## Cursors -/

namespace Cursor

variable {rest : List Char} {index line column : Nat}

theorem next_of_isInline {c : Char} (h : IsInline c) :
    (⟨c :: rest, index, line, column⟩ : Cursor).next
      = ⟨rest, index + 1, line, column + 1⟩ := by
  unfold next
  simp [h.1, h.2]

theorem advance_append {cs : List Char} (h : ∀ c ∈ cs, IsInline c) :
    (⟨cs ++ rest, index, line, column⟩ : Cursor).advance cs.length
      = ⟨rest, index + cs.length, line, column + cs.length⟩ := by
  induction cs generalizing index column with
  | nil => rfl
  | cons c cs ih =>
    show ((⟨c :: (cs ++ rest), index, line, column⟩ : Cursor).next).advance cs.length = _
    rw [next_of_isInline (h c List.mem_cons_self), ih fun d hd => h d (List.mem_cons_of_mem c hd),
      List.length_cons]
    congr 1 <;> omega

theorem span_blanks (n : Nat) (h : rest.head? ≠ some ' ') :
    (⟨List.replicate n ' ' ++ rest, index, line, column⟩ : Cursor).span (· == ' ')
      = List.replicate n ' ' := by
  unfold span
  have hrest : rest.takeWhile (· == ' ') = [] := by
    cases rest with
    | nil => rfl
    | cons c rest =>
      have hc : c ≠ ' ' := fun hc => h (congrArg some hc)
      simp [hc]
  rw [List.takeWhile_append_of_pos fun c hc => by simp [List.eq_of_mem_replicate hc], hrest,
    List.append_nil]

/-- Moves past the blanks in front of something else. -/
theorem skip_blanks (n : Nat) (h : rest.head? ≠ some ' ') :
    (⟨List.replicate n ' ' ++ rest, index, line, column⟩ : Cursor).skip (· == ' ')
      = ⟨rest, index + n, line, column + n⟩ := by
  have hinline : ∀ c ∈ List.replicate n ' ', IsInline c := by
    intro c hc
    rw [List.eq_of_mem_replicate hc]
    exact isInline_blank
  unfold skip
  rw [span_blanks n h, advance_append hinline, List.length_replicate]

theorem lineBreak?_of_isInline {c : Char} (h : IsInline c) :
    (⟨c :: rest, index, line, column⟩ : Cursor).lineBreak? = none := by
  have hbreak := h.1
  unfold lineBreak?
  dsimp only
  split
  · next heq =>
    cases heq
    cases hbreak
  · next heq =>
    cases heq
    unfold isBreak at hbreak ⊢
    simp only [Bool.or_eq_false_iff] at hbreak
    simp [hbreak]
  · rfl

theorem skip_of_head? (h : rest.head? ≠ some ' ') :
    (⟨rest, index, line, column⟩ : Cursor).skip (· == ' ') = ⟨rest, index, line, column⟩ :=
  skip_blanks 0 h

end Cursor

/-! ## Lines -/

/-- What stands behind a line of a block: nothing, or a line that starts with a letter or a digit
and is indented no further than some column. -/
inductive Continues (column : Nat) : List Char → Prop
  | nothing : Continues column []
  | line (n : Nat) (hn : n ≤ column) (c : Char) (hc : c.isAlphanum = true) (rest : List Char) :
    Continues column (List.replicate n ' ' ++ c :: rest)

theorem Continues.mono {column deeper : Nat} {tail : List Char} (h : Continues column tail)
    (hle : column ≤ deeper) : Continues deeper tail := by
  cases h with
  | nothing => exact .nothing
  | line n hn c hc rest => exact .line n (by omega) c hc rest

/-- The place of the first letter or digit of a line. -/
def indented (tail : List Char) (index line : Nat) : Cursor :=
  (⟨tail, index, line, 0⟩ : Cursor).skip (· == ' ')

theorem head?_of_isAlphanum {c d : Char} (hc : c.isAlphanum = true) (hd : d.isAlphanum = false)
    (rest : List Char) : (c :: rest).head? ≠ some d := by
  rw [List.head?_cons, Ne, Option.some_inj]
  exact ne_of_isAlphanum hc hd

theorem indented_line (n index line : Nat) {c : Char} (hc : c.isAlphanum = true)
    (rest : List Char) :
    indented (List.replicate n ' ' ++ c :: rest) index line = ⟨c :: rest, index + n, line, n⟩ := by
  unfold indented
  rw [Cursor.skip_blanks n (head?_of_isAlphanum hc (by decide) rest), Nat.zero_add]

theorem column_indented_le {column : Nat} {tail : List Char} (h : Continues column tail)
    (index line : Nat) : (indented tail index line).column ≤ column := by
  cases h with
  | nothing => exact Nat.zero_le _
  | line n hn c hc rest =>
    rw [indented_line n index line hc]
    exact hn

/-- No document starts or ends at such a line. -/
theorem atDocumentMarks_of_continues {column : Nat} {tail : List Char} (h : Continues column tail)
    (index line col : Nat) : (⟨tail, index, line, col⟩ : Cursor).atDocumentMarks = false := by
  have hmarks (mark : Char) (hmark : mark.isAlphanum = false ∧ mark ≠ ' ') :
      (⟨tail, index, line, col⟩ : Cursor).atMarks mark = false := by
    have hhead : ∀ c rest, tail = c :: rest → c ≠ mark := by
      intro c rest htail
      cases h with
      | nothing => cases htail
      | line n hn d hd rest' =>
        cases n with
        | zero =>
          cases htail
          exact ne_of_isAlphanum hd hmark.1
        | succ n =>
          cases htail
          exact hmark.2.symm
    unfold Cursor.atMarks
    cases tail with
    | nil => rfl
    | cons c rest =>
      have hc : (c == mark) = false := by simpa using hhead c rest rfl
      show ((c :: rest.take 2) == [mark, mark, mark] && _) = false
      rw [List.cons_beq_cons, hc]
      rfl
  unfold Cursor.atDocumentMarks
  rw [hmarks '-' (by decide), hmarks '.' (by decide)]
  rfl

/-! ## Reading words -/

/-- What ends a word: a line break, or a colon with a separator behind it. -/
inductive EndsWord : List Char → Prop
  | lineBreak (rest : List Char) : EndsWord ('\n' :: rest)
  | colon (c : Char) (hc : separates c = true) (rest : List Char) : EndsWord (':' :: c :: rest)

theorem plainLength_append {w : List Char} (hw : ∀ c ∈ w, c.isAlphanum = true) {rest : List Char}
    (hrest : EndsWord rest) : plainLength false (w ++ rest) = w.length := by
  induction w with
  | nil =>
    cases hrest with
    | lineBreak rest => rfl
    | colon c hc rest => simp [plainLength, hc]
  | cons c w ih =>
    have hc := hw c List.mem_cons_self
    rw [List.cons_append, plainLength, separates_of_isAlphanum hc,
      beq_eq_false_of_isAlphanum hc (by decide), ih fun d hd => hw d (List.mem_cons_of_mem c hd)]
    rfl

theorem plainBreaks_blanks {tail : List Char} {fuel : Nat} (hfuel : tail.length < fuel)
    {column : Nat} (h : Continues column tail) (index line : Nat) :
    plainBreaks fuel ⟨tail, index, line, 0⟩ [] = (some [], indented tail index line) := by
  -- the blanks are passed one by one
  have hblanks (n : Nat) {c : Char} (hc : c.isAlphanum = true) (rest : List Char) :
      ∀ fuel index col, n < fuel →
        plainBreaks fuel ⟨List.replicate n ' ' ++ c :: rest, index, line, col⟩ []
          = (some [], ⟨c :: rest, index + n, line, col + n⟩) := by
    induction n with
    | zero =>
      intro fuel index col hfuel
      obtain ⟨fuel, rfl⟩ := Nat.exists_eq_succ_of_ne_zero (by omega : fuel ≠ 0)
      have hpeek : ((⟨c :: rest, index, line, col⟩ : Cursor).peek == ' ') = false :=
        beq_eq_false_of_isAlphanum hc (by decide)
      show plainBreaks (fuel + 1) ⟨c :: rest, index, line, col⟩ [] = _
      rw [plainBreaks, hpeek, Cursor.lineBreak?_of_isInline (isInline_of_isAlphanum hc)]
      rfl
    | succ n ih =>
      intro fuel index col hfuel
      obtain ⟨fuel, rfl⟩ := Nat.exists_eq_succ_of_ne_zero (by omega : fuel ≠ 0)
      show plainBreaks fuel
        (⟨' ' :: (List.replicate n ' ' ++ c :: rest), index, line, col⟩ : Cursor).next [] = _
      rw [Cursor.next_of_isInline isInline_blank, ih fuel (index + 1) (col + 1) (by omega),
        show index + 1 + n = index + (n + 1) by omega, show col + 1 + n = col + (n + 1) by omega]
  cases h with
  | nothing =>
    obtain ⟨fuel, rfl⟩ := Nat.exists_eq_succ_of_ne_zero (by omega : fuel ≠ 0)
    rfl
  | line n hn c hc rest =>
    have hlength : n < fuel := by
      simp at hfuel
      omega
    rw [hblanks n hc rest fuel index 0 hlength, indented_line n index line hc, Nat.zero_add]

/-- Behind the last word of a line, all blanks up to the next word are passed. -/
theorem plainSpaces_lineBreak {tail : List Char} {column : Nat} (h : Continues column tail)
    (index line col : Nat) :
    plainSpaces ⟨'\n' :: tail, index, line, col⟩
      = ([' '], true, indented tail (index + 1) (line + 1)) := by
  have hspan : (⟨'\n' :: tail, index, line, col⟩ : Cursor).span (· == ' ') = [] := rfl
  have hbreak : (⟨'\n' :: tail, index, line, col⟩ : Cursor).lineBreak?
      = some ('\n', ⟨tail, index + 1, line + 1, 0⟩) := rfl
  unfold plainSpaces
  dsimp only
  rw [hspan, List.length_nil, Cursor.advance, hbreak]
  dsimp only
  rw [atDocumentMarks_of_continues h, if_neg Bool.false_ne_true,
    plainBreaks_blanks (Nat.lt_succ_self _) h]
  rfl

theorem plainSpaces_of_isInline {c : Char} (h : IsInline c) (hc : c ≠ ' ') (rest : List Char)
    (index line col : Nat) :
    plainSpaces ⟨c :: rest, index, line, col⟩ = ([], false, ⟨c :: rest, index, line, col⟩) := by
  have hspan : (⟨c :: rest, index, line, col⟩ : Cursor).span (· == ' ') = [] := by
    simp [Cursor.span, hc]
  unfold plainSpaces
  dsimp only
  rw [hspan]
  rw [List.length_nil, Cursor.advance, Cursor.lineBreak?_of_isInline h]

/-- The first part of a plain scalar, when the scalar has no more parts. -/
theorem readPlain_part {indent : Int} {fuel : Nat} {w rest : List Char} (hw : IsWord w)
    (hrest : EndsWord rest) {index line col : Nat} {separator : List Char} {newLine : Bool}
    {cursor : Cursor}
    (hspaces : plainSpaces ⟨rest, index + w.length, line, col + w.length⟩
      = (separator, newLine, cursor))
    (hends : separator = [] ∨ (cursor.column : Int) < indent) :
    readPlain false indent (fuel + 1) ⟨w ++ rest, index, line, col⟩ [] [] false
      = (w, newLine, cursor) := by
  obtain ⟨hne, hw⟩ := hw
  obtain ⟨c, w', rfl⟩ := List.exists_cons_of_ne_nil hne
  have hpeek : ((⟨c :: w' ++ rest, index, line, col⟩ : Cursor).peek == '#') = false :=
    beq_eq_false_of_isAlphanum (hw c List.mem_cons_self) (by decide)
  unfold readPlain
  dsimp only
  rw [hpeek, if_neg Bool.false_ne_true, plainLength_append hw hrest,
    if_neg (by simp : ¬ (c :: w').length = 0),
    Cursor.advance_append fun d hd => isInline_of_isAlphanum (hw d hd), hspaces]
  dsimp only
  rw [List.take_left, List.nil_append, List.nil_append, if_pos]
  rcases hends with rfl | hcolumn
  · rfl
  · simp [hcolumn]

/-- A key is read up to its colon. -/
theorem readPlain_key (indent : Int) (fuel : Nat) {w : List Char} (hw : IsWord w) {c : Char}
    (hc : separates c = true) (rest : List Char) (index line col : Nat) :
    readPlain false indent (fuel + 1) ⟨w ++ ':' :: c :: rest, index, line, col⟩ [] [] false
      = (w, false, ⟨':' :: c :: rest, index + w.length, line, col + w.length⟩) :=
  readPlain_part hw (.colon c hc rest)
    (plainSpaces_of_isInline isInline_colon (by decide) _ _ _ _) (.inl rfl)

/-- A word behind a colon is read up to the next line, which is too far left to go on with it. -/
theorem readPlain_word (indent : Int) (fuel : Nat) {w tail : List Char} (hw : IsWord w)
    {column : Nat} (h : Continues column tail) (hcolumn : (column : Int) < indent)
    (index line col : Nat) :
    readPlain false indent (fuel + 1) ⟨w ++ '\n' :: tail, index, line, col⟩ [] [] false
      = (w, true, indented tail (index + w.length + 1) (line + 1)) := by
  refine readPlain_part hw (.lineBreak tail) (plainSpaces_lineBreak h _ _ _) (.inr ?_)
  have hle := column_indented_le h (index + w.length + 1) (line + 1)
  omega

end FormSchema.Yaml
