import FormSchema.Proofs.Yaml.Outline.Text

/-!
# FormSchema — the tokens of an outline

The lexer keeps the columns of the blocks it is in. On an outline it opens a block at the first key
that stands deeper than the block around it, and closes it at the line behind the block, so the
tokens are those of the outline's tree.

* **`Lexer.Reads`** — reading goes on from one state of the lexer as from another, with as much fuel
  left as characters.
* **`reads_key`**, **`reads_word`** — one key with its colon, and one word with the break behind it.
* **`reads_text`**, **`reads_entries`** — an outline, and the lines of a block, by induction on it.
* **`Outline.tokens_entriesText`** — the tokens of a whole document.
-/

namespace FormSchema.Yaml

namespace Outline

mutual

/-- The tokens of what stands behind a key. -/
def tokens : Outline → List Token
  | .word w => [.scalar w true]
  | .block [] => []
  | .block (entry :: rest) =>
    .blockMappingStart :: (entryTokens (entry :: rest) ++ [.blockEnd])

def entryTokens : List (String × Outline) → List Token
  | [] => []
  | (key, outline) :: rest =>
    .key :: .scalar key true :: .value :: (outline.tokens ++ entryTokens rest)

end

end Outline

namespace Lexer

/-! ## Runs -/

/-- Reading goes on from one state as from another, further on in the text. -/
def Reads (l l' : Lexer) : Prop :=
  ∃ n, n + l'.cursor.rest.length ≤ l.cursor.rest.length
    ∧ ∀ fuel, run (fuel + n + 1) l = run (fuel + 1) l'

theorem Reads.trans {l l' l'' : Lexer} (h : Reads l l') (h' : Reads l' l'') : Reads l l'' := by
  obtain ⟨n, hn, hrun⟩ := h
  obtain ⟨m, hm, hrun'⟩ := h'
  refine ⟨m + n, by omega, fun fuel => ?_⟩
  rw [show fuel + (m + n) + 1 = (fuel + m) + n + 1 by omega, hrun, hrun']

/-- States that settle alike are read alike. -/
theorem Reads.of_settle {l l' : Lexer} (h : l.settle = l'.settle)
    (hlength : l'.cursor.rest.length ≤ l.cursor.rest.length) : Reads l l' := by
  refine ⟨0, by omega, fun fuel => ?_⟩
  show (l.step >>= _) = (l'.step >>= _)
  unfold step
  rw [h]

/-- One token is read. -/
theorem Reads.of_step {l l₁ l' : Lexer} (hstep : l.step = .ok l₁)
    (hhead : l₁.tokens.head? ≠ some .streamEnd) (h : l₁.settle = l'.settle)
    (hlength : l'.cursor.rest.length < l.cursor.rest.length) : Reads l l' := by
  refine ⟨1, by omega, fun fuel => ?_⟩
  have hrest : run (fuel + 1) l₁ = run (fuel + 1) l' := by
    show (l₁.step >>= _) = (l'.step >>= _)
    unfold step
    rw [h]
  rw [← hrest]
  rw [run, hstep]
  dsimp only [bind, Except.bind]
  split
  · next heq => exact absurd (by rw [heq]; rfl) hhead
  · rfl

/-! ## Settling -/

/-- The lexer inside blocks, with no key in front of it. -/
def inBlock (cursor : Cursor) (keyAllowed : Bool) (indent : Int) (outer : List Int)
    (tokens : List Token) : Lexer :=
  { cursor, depth := 0, indent, outerIndents := outer, keyAllowed, keyStarts := [], tokens }

variable {index line column : Nat} {indent : Int} {outer : List Int} {tokens : List Token}
  {keyAllowed : Bool}

/-- Behind some blanks, something else than a comment or a line break is the next token. -/
theorem skipToToken_of_skip {l : Lexer} {cursor : Cursor} (fuel : Nat)
    (hskip : l.cursor.skip (· == ' ') = cursor) (hcomment : (cursor.peek == '#') = false)
    (hbreak : cursor.lineBreak? = none) : skipToToken (fuel + 1) l = { l with cursor } := by
  have hskipped : (l.cursor.skip (· == ' ')).skipComment = cursor := by
    rw [hskip]
    unfold Cursor.skipComment
    rw [hcomment]
    rfl
  unfold skipToToken
  dsimp only
  rw [hskipped, hbreak]

theorem peek_ne_comment_of_continues {tail : List Char} (h : Continues column tail)
    (index line : Nat) :
    ((indented tail index line).peek == '#') = false
      ∧ (indented tail index line).lineBreak? = none
      ∧ (indented tail index line).skip (· == ' ') = indented tail index line := by
  cases h with
  | nothing => exact ⟨rfl, rfl, rfl⟩
  | line n hn c hc rest =>
    rw [indented_line n index line hc]
    exact ⟨beq_eq_false_of_isAlphanum hc (by decide),
      Cursor.lineBreak?_of_isInline (isInline_of_isAlphanum hc),
      Cursor.skip_of_head? (head?_of_isAlphanum hc (by decide) rest)⟩

/-- The lexer that has skipped to a token settles by ending the blocks that it has left. -/
theorem settle_inBlock {cursor cursor' : Cursor} {keyAllowed' : Bool}
    (h : skipToToken (cursor.rest.length + 1) (inBlock cursor keyAllowed indent outer tokens)
      = inBlock cursor' keyAllowed' indent outer tokens) :
    settle (inBlock cursor keyAllowed indent outer tokens)
      = .ok ((inBlock cursor' keyAllowed' indent outer tokens).unwind cursor'.column) := by
  unfold settle
  show (skipToToken (cursor.rest.length + 1) _).dropStaleKeys >>= _ = _
  rw [h]
  rfl

/-- At the start of a line, the lexer settles at its first letter or digit. -/
theorem settle_line {tail : List Char} (h : Continues column tail) :
    settle (inBlock ⟨tail, index, line, 0⟩ keyAllowed indent outer tokens)
      = .ok ((inBlock (indented tail index line) keyAllowed indent outer tokens).unwind
          (indented tail index line).column) := by
  obtain ⟨hcomment, hbreak, -⟩ := peek_ne_comment_of_continues h index line
  exact settle_inBlock (skipToToken_of_skip _ rfl hcomment hbreak)

/-- It settles there as well when the blanks are passed already. -/
theorem settle_indented {tail : List Char} (h : Continues column tail) :
    settle (inBlock (indented tail index line) keyAllowed indent outer tokens)
      = settle (inBlock ⟨tail, index, line, 0⟩ keyAllowed indent outer tokens) := by
  obtain ⟨hcomment, hbreak, hskip⟩ := peek_ne_comment_of_continues h index line
  rw [settle_line h]
  exact settle_inBlock (skipToToken_of_skip _ hskip hcomment hbreak)

/-- Behind a colon at the end of a line, the lexer goes on with the next line. -/
theorem settle_lineBreak {tail : List Char} (h : Continues column tail) {col : Nat} :
    settle (inBlock ⟨'\n' :: tail, index, line, col⟩ keyAllowed indent outer tokens)
      = settle (inBlock ⟨tail, index + 1, line + 1, 0⟩ true indent outer tokens) := by
  obtain ⟨hcomment, hbreak, -⟩ := peek_ne_comment_of_continues h (index + 1) (line + 1)
  have hskip : skipToToken (tail.length + 1)
      (inBlock ⟨tail, index + 1, line + 1, 0⟩ (keyAllowed || true) indent outer tokens) = _ :=
    skipToToken_of_skip _ rfl hcomment hbreak
  rw [settle_line h]
  refine settle_inBlock ?_
  show skipToToken (tail.length + 1)
    (inBlock ⟨tail, index + 1, line + 1, 0⟩ (keyAllowed || true) indent outer tokens) = _
  rw [hskip, Bool.or_true]
  rfl

/-! ## Leaving blocks -/

/-- No block is left as long as the column is not further to the left. -/
theorem unwind_of_le {l : Lexer} {column : Int} (h : l.indent ≤ column) : l.unwind column = l := by
  unfold unwind
  split
  · rfl
  · unfold closeTo
    split
    · rw [if_neg (by omega)]
    · rfl

/-- A block that is left ends with a token. -/
theorem unwind_inBlock_of_lt (cursor : Cursor) {column outerIndent : Int} (h : column < indent) :
    (inBlock cursor keyAllowed indent (outerIndent :: outer) tokens).unwind column
      = (inBlock cursor keyAllowed outerIndent outer (.blockEnd :: tokens)).unwind column := by
  show closeTo column (outerIndent :: outer) _ = closeTo column outer _
  rw [closeTo, if_pos (by show indent > column; omega)]
  rfl

/-- A block can be ended as soon as the line behind it is further to the left. -/
theorem reads_blockEnd {tail : List Char} (h : Continues column tail) {outerIndent : Int}
    (hcolumn : (column : Int) < indent) :
    Reads (inBlock ⟨tail, index, line, 0⟩ keyAllowed indent (outerIndent :: outer) tokens)
      (inBlock ⟨tail, index, line, 0⟩ keyAllowed outerIndent outer (.blockEnd :: tokens)) := by
  have hle := column_indented_le h index line
  refine .of_settle ?_ (Nat.le_refl _)
  rw [settle_line h, settle_line h, unwind_inBlock_of_lt _ (by omega)]

/-! ## Single tokens -/

theorem contains_eq_false_of_isAlphanum {c : Char} (hc : c.isAlphanum = true) {cs : List Char}
    (h : cs.all (fun d => !d.isAlphanum) = true) : cs.contains c = false := by
  rw [List.contains_eq_mem, decide_eq_false_iff_not]
  intro hmem
  have hnot := List.all_eq_true.mp h c hmem
  rw [hc] at hnot
  cases hnot

/-- What a letter or digit starts is a plain scalar. -/
theorem readToken_of_isAlphanum {l : Lexer} {c : Char} {rest : List Char}
    (h : l.cursor.rest = c :: rest) (hc : c.isAlphanum = true) : l.readToken = l.plainScalar := by
  have hpeek : l.cursor.peek = c := by
    unfold Cursor.peek
    rw [h]
    rfl
  have hne (d : Char) (hd : d.isAlphanum = false) : (c == d) = false :=
    beq_eq_false_of_isAlphanum hc hd
  have hmarks (mark : Char) (hmark : mark.isAlphanum = false) : l.cursor.atMarks mark = false := by
    unfold Cursor.atMarks
    rw [h, List.take_succ_cons, List.cons_beq_cons, hne mark hmark]
    rfl
  have hplain : l.startsPlain = true := by
    unfold startsPlain
    dsimp only
    rw [hpeek, separates_of_isAlphanum hc, contains_eq_false_of_isAlphanum hc (by decide)]
    rfl
  unfold readToken
  dsimp only
  -- the character stands for none of the indicators
  rw [hpeek, hplain, hmarks '-' (by decide), hmarks '.' (by decide),
    hne endOfText (by decide), hne '%' (by decide), hne '[' (by decide),
    hne '\x7b' (by decide), hne ']' (by decide), hne '\x7d' (by decide),
    hne ',' (by decide), hne '-' (by decide), hne '?' (by decide),
    hne ':' (by decide), hne '*' (by decide), hne '&' (by decide),
    hne '!' (by decide), hne '|' (by decide), hne '>' (by decide),
    hne '\'' (by decide), hne '"' (by decide)]
  simp only [Bool.and_false, Bool.false_and, Bool.false_eq_true, if_false, if_true]

/-- A colon in front of a separator announces a value. -/
theorem readToken_of_colon {l : Lexer} {c : Char} {rest : List Char}
    (h : l.cursor.rest = ':' :: c :: rest) (hc : separates c = true) : l.readToken = l.value := by
  have hpeek : l.cursor.peek = ':' := by
    unfold Cursor.peek
    rw [h]
    rfl
  have hpeekAt : l.cursor.peekAt 1 = c := by
    unfold Cursor.peekAt
    rw [h]
    rfl
  have hmarks (mark : Char) (hmark : (':' == mark) = false) : l.cursor.atMarks mark = false := by
    unfold Cursor.atMarks
    rw [h, List.take_succ_cons, List.cons_beq_cons, hmark]
    rfl
  unfold readToken
  dsimp only
  rw [hpeek, hpeekAt, hc, hmarks '-' (by decide), hmarks '.' (by decide),
    show (':' == '%') = false from rfl]
  simp only [Bool.and_false, Bool.or_true, Bool.and_true]
  rfl

/-! ## Keys -/

/-- The indentations once a block in some column is open. -/
def openedIndents (indent : Int) (outer : List Int) (column : Nat) : List Int :=
  if indent < column then indent :: outer else outer

/-- The tokens once a block in some column is open. -/
def openedTokens (indent : Int) (tokens : List Token) (column : Nat) : List Token :=
  if indent < column then .blockMappingStart :: tokens else tokens

@[simp] theorem openedIndents_self (column : Nat) (outer : List Int) :
    openedIndents column outer column = outer := if_neg (Int.lt_irrefl _)

@[simp] theorem openedTokens_self (column : Nat) (tokens : List Token) :
    openedTokens column tokens column = tokens := if_neg (Int.lt_irrefl _)

theorem openedIndents_of_lt {indent : Int} {column : Nat} (h : indent < column)
    (outer : List Int) : openedIndents indent outer column = indent :: outer := if_pos h

theorem openedTokens_of_lt {indent : Int} {column : Nat} (h : indent < column)
    (tokens : List Token) : openedTokens indent tokens column = .blockMappingStart :: tokens :=
  if_pos h

/-- The lexer behind a key that is still without its colon. -/
def behindKey (cursor : Cursor) (key : KeyStart) (indent : Int) (outer : List Int)
    (tokens : List Token) : Lexer :=
  { cursor, depth := 0, indent, outerIndents := outer, keyAllowed := false,
    keyStarts := [(0, key)], tokens }

/-- A token is put in front of the last ones. -/
theorem insertToken_behind {l : Lexer} (last tokens : List Token) (token : Token)
    (h : l.tokens = last ++ tokens) :
    l.insertToken tokens.length token = { l with tokens := last ++ token :: tokens } := by
  unfold insertToken
  rw [h, List.length_append, Nat.add_sub_cancel]
  dsimp only
  rw [List.take_left, List.drop_left]

/-- Behind a key that is short enough for one, nothing has to be settled in front of its colon. -/
theorem settle_behindKey {length before : Nat} (hlength : length ≤ 1024) {rest : List Char}
    {required : Bool} {scalars : List Token} (h : indent ≤ column) :
    settle (behindKey ⟨':' :: rest, index + length, line, column + length⟩
        ⟨before, required, index, line, column⟩ indent outer scalars)
      = .ok (behindKey ⟨':' :: rest, index + length, line, column + length⟩
          ⟨before, required, index, line, column⟩ indent outer scalars) := by
  let key : KeyStart := ⟨before, required, index, line, column⟩
  let l := behindKey ⟨':' :: rest, index + length, line, column + length⟩ key indent outer scalars
  have hskip : skipToToken (l.cursor.rest.length + 1) l = l :=
    skipToToken_of_skip _ (Cursor.skip_of_head? (by simp)) rfl
      (Cursor.lineBreak?_of_isInline isInline_colon)
  have hstale : l.isStale key = false := by
    show (line != line || decide (index + length - index > 1024)) = false
    simp only [bne_self_eq_false, Bool.false_or, decide_eq_false_iff_not]
    omega
  have hdrop : l.dropStaleKeys = .ok l := by
    show (if [(0, key)].any (fun entry => l.isStale entry.2 && entry.2.required) then _
      else Except.ok
        { l with keyStarts := [(0, key)].filter fun entry => !l.isStale entry.2 }) = _
    rw [List.any_cons, hstale, List.filter_cons, hstale]
    rfl
  have hunwind : l.unwind l.cursor.column = l :=
    unwind_of_le (show indent ≤ ((column + length : Nat) : Int) by omega)
  show l.settle = .ok l
  unfold settle
  rw [hskip, hdrop]
  show Except.ok (l.unwind l.cursor.column) = _
  rw [hunwind]

/-- A value behind a key: the key gets its token, and its block is opened if it is deeper. -/
theorem value_behindKey {rest : List Char} {i col : Nat} {required : Bool} {scalar : Token}
    (h : indent ≤ column) :
    (behindKey ⟨':' :: rest, i, line, col⟩ ⟨tokens.length, required, index, line, column⟩ indent
        outer (scalar :: tokens)).value
      = .ok (inBlock (⟨':' :: rest, i, line, col⟩ : Cursor).next false column
          (openedIndents indent outer column)
          (.value :: scalar :: .key :: openedTokens indent tokens column)) := by
  let key : KeyStart := ⟨tokens.length, required, index, line, column⟩
  let l := behindKey ⟨':' :: rest, i, line, col⟩ key indent outer (scalar :: tokens)
  let keyed : Lexer := { l.forgetKey with tokens := scalar :: .key :: tokens }
  have hkeyed : l.forgetKey.insertToken tokens.length .key = keyed :=
    insertToken_behind [scalar] tokens .key rfl
  have hkey : l.keyStart? = some key := rfl
  show l.value = _
  unfold value
  rw [hkey]
  dsimp only
  rw [show key.tokensBefore = tokens.length from rfl, hkeyed]
  by_cases hdeeper : indent < column
  · have hopened : (keyed.deepen key.column).insertToken tokens.length .blockMappingStart
        = { keyed.deepen key.column with
            tokens := scalar :: .key :: .blockMappingStart :: tokens } :=
      insertToken_behind [scalar, .key] tokens .blockMappingStart rfl
    have hif : (!keyed.inFlow && keyed.isDeeper key.column) = true := decide_eq_true hdeeper
    rw [if_pos hif, openedIndents_of_lt hdeeper, openedTokens_of_lt hdeeper, hopened]
    rfl
  · have hif : (!keyed.inFlow && keyed.isDeeper key.column) = false := decide_eq_false hdeeper
    obtain rfl : indent = column := by omega
    rw [hif, if_neg Bool.false_ne_true, openedIndents_self, openedTokens_self]
    rfl

/-- The colon behind a key is read as one that announces the key's value. -/
theorem step_colon {w : List Char} (hw : w.length ≤ 1024) {c : Char} (hc : separates c = true)
    {rest : List Char} {required : Bool} {scalar : Token} (h : indent ≤ column) :
    (behindKey ⟨':' :: c :: rest, index + w.length, line, column + w.length⟩
        ⟨tokens.length, required, index, line, column⟩ indent outer (scalar :: tokens)).step
      = .ok (inBlock ⟨c :: rest, index + w.length + 1, line, column + w.length + 1⟩ false column
          (openedIndents indent outer column)
          (.value :: scalar :: .key :: openedTokens indent tokens column)) := by
  unfold step
  rw [settle_behindKey hw h]
  dsimp only [bind, Except.bind]
  rw [readToken_of_colon rfl hc, value_behindKey h, Cursor.next_of_isInline isInline_colon]

/-- At a letter or digit that is in no block to the left, nothing has to be settled. -/
theorem settle_of_isAlphanum {c : Char} (hc : c.isAlphanum = true) (rest : List Char)
    (h : indent ≤ column) :
    settle (inBlock ⟨c :: rest, index, line, column⟩ keyAllowed indent outer tokens)
      = .ok (inBlock ⟨c :: rest, index, line, column⟩ keyAllowed indent outer tokens) := by
  have hsettle : settle (inBlock ⟨c :: rest, index, line, column⟩ keyAllowed indent outer tokens)
      = .ok ((inBlock ⟨c :: rest, index, line, column⟩ keyAllowed indent outer tokens).unwind
          column) :=
    settle_inBlock (skipToToken_of_skip _
      (Cursor.skip_of_head? (head?_of_isAlphanum hc (by decide) _))
      (beq_eq_false_of_isAlphanum hc (by decide))
      (Cursor.lineBreak?_of_isInline (isInline_of_isAlphanum hc)))
  rw [hsettle, unwind_of_le h]

theorem plainScalar_of_readPlain {l l' : Lexer} {text : List Char} {newLine : Bool}
    {cursor : Cursor} (hsave : l.saveKey = .ok l')
    (hread : readPlain l'.inFlow (l'.indent + 1) (l'.cursor.rest.length + 1) l'.cursor [] [] false
      = (text, newLine, cursor)) :
    l.plainScalar = .ok ({ l' with cursor, keyAllowed := newLine }.emit
      (.scalar (String.ofList text) true)) := by
  unfold plainScalar
  simp only [hsave, bind, Except.bind, hread]
  rfl

/-- A key at the start of its line is read up to its colon. -/
theorem step_key {w : List Char} (hw : IsWord w) {c : Char} (hc : separates c = true)
    {rest : List Char} (h : indent ≤ column) :
    (inBlock ⟨w ++ ':' :: c :: rest, index, line, column⟩ true indent outer tokens).step
      = .ok (behindKey ⟨':' :: c :: rest, index + w.length, line, column + w.length⟩
          ⟨tokens.length, indent == column, index, line, column⟩ indent outer
          (.scalar (String.ofList w) true :: tokens)) := by
  have hread := fun fuel => readPlain_key (indent + 1) fuel hw hc rest index line column
  obtain ⟨d, w', rfl⟩ := List.exists_cons_of_ne_nil hw.1
  have hd := hw.2 d List.mem_cons_self
  let l := inBlock ⟨d :: (w' ++ ':' :: c :: rest), index, line, column⟩ true indent outer tokens
  have hsave : l.saveKey = .ok { l with
      keyStarts := [(0, ⟨tokens.length, indent == column, index, line, column⟩)] } := rfl
  unfold step
  rw [List.cons_append, settle_of_isAlphanum hd _ h]
  show l.readToken = _
  rw [readToken_of_isAlphanum rfl hd]
  exact plainScalar_of_readPlain hsave (hread _)

/-- A key, its colon and the place behind it. -/
theorem reads_key {w : List Char} (hw : IsWord w) (hlength : w.length ≤ 1024) {c : Char}
    (hc : separates c = true) {rest : List Char} (h : indent ≤ column) :
    Reads (inBlock ⟨List.replicate column ' ' ++ (w ++ ':' :: c :: rest), index, line, 0⟩ true
        indent outer tokens)
      (inBlock ⟨c :: rest, index + column + w.length + 1, line, column + w.length + 1⟩ false column
        (openedIndents indent outer column)
        (.value :: .scalar (String.ofList w) true :: .key
          :: openedTokens indent tokens column)) := by
  have hline : Reads
      (inBlock ⟨List.replicate column ' ' ++ (w ++ ':' :: c :: rest), index, line, 0⟩ true indent
        outer tokens)
      (inBlock ⟨w ++ ':' :: c :: rest, index + column, line, column⟩ true indent outer tokens) := by
    obtain ⟨d, w', rfl⟩ := List.exists_cons_of_ne_nil hw.1
    have hd := hw.2 d List.mem_cons_self
    have hcontinues := Continues.line column (Nat.le_refl _) d hd (w' ++ ':' :: c :: rest)
    refine .of_settle ?_ (by simp [inBlock])
    have hsettle : settle (inBlock (indented _ index line) true indent outer tokens) = _ :=
      settle_indented hcontinues
    rw [indented_line column index line hd] at hsettle
    exact hsettle.symm
  refine hline.trans ((Reads.of_step (step_key hw hc h) nofun rfl ?_).trans
    (Reads.of_step (step_colon hlength hc h) nofun rfl ?_))
  · have hpos := List.length_pos_iff.mpr hw.1
    show (':' :: c :: rest).length < (w ++ ':' :: c :: rest).length
    rw [List.length_append]
    omega
  · exact Nat.lt_succ_self _

/-! ## Words -/

/-- A word behind a colon is read with all blanks up to the next line's first word. -/
theorem step_word {w tail : List Char} (hw : IsWord w) {column col : Nat}
    (h : Continues column tail) (hindent : (column : Int) ≤ indent) (hcol : indent ≤ col) :
    (inBlock ⟨' ' :: (w ++ '\n' :: tail), index, line, col⟩ false indent outer tokens).step
      = .ok (inBlock (indented tail (index + 1 + w.length + 1) (line + 1)) true indent outer
          (.scalar (String.ofList w) true :: tokens)) := by
  have hread := fun fuel => readPlain_word (indent + 1) fuel hw h (by omega) (index + 1) line
    (col + 1)
  obtain ⟨d, w', rfl⟩ := List.exists_cons_of_ne_nil hw.1
  have hd := hw.2 d List.mem_cons_self
  let l := inBlock ⟨d :: (w' ++ '\n' :: tail), index + 1, line, col + 1⟩ false indent outer tokens
  have hsettle : settle (inBlock ⟨' ' :: (d :: w' ++ '\n' :: tail), index, line, col⟩ false indent
      outer tokens) = .ok l := by
    have hunwind : l.unwind ((col + 1 : Nat) : Int) = l :=
      unwind_of_le (show indent ≤ ((col + 1 : Nat) : Int) by omega)
    rw [← hunwind]
    exact settle_inBlock (skipToToken_of_skip _
      (Cursor.skip_blanks 1 (head?_of_isAlphanum hd (by decide) _))
      (beq_eq_false_of_isAlphanum hd (by decide))
      (Cursor.lineBreak?_of_isInline (isInline_of_isAlphanum hd)))
  unfold step
  rw [hsettle]
  show l.readToken = _
  rw [readToken_of_isAlphanum rfl hd]
  exact plainScalar_of_readPlain (show l.saveKey = .ok l from rfl) (hread _)

theorem reads_word {w tail : List Char} (hw : IsWord w) {column col : Nat}
    (h : Continues column tail) (hindent : (column : Int) ≤ indent) (hcol : indent ≤ col) :
    Reads (inBlock ⟨' ' :: (w ++ '\n' :: tail), index, line, col⟩ false indent outer tokens)
      (inBlock ⟨tail, index + 1 + w.length + 1, line + 1, 0⟩ true indent outer
        (.scalar (String.ofList w) true :: tokens)) :=
  .of_step (step_word hw h hindent hcol) nofun (settle_indented h) (by simp [inBlock]; omega)

/-! ## Outlines -/

/-- Reading goes on at the start of a line. -/
def ReadsTo (l : Lexer) (tail : List Char) (indent : Int) (outer : List Int)
    (tokens : List Token) : Prop :=
  ∃ index line, Reads l (inBlock ⟨tail, index, line, 0⟩ true indent outer tokens)

theorem Reads.to {l l' : Lexer} (h : Reads l l') {tail : List Char} {indent : Int}
    {outer : List Int} {tokens : List Token} (h' : ReadsTo l' tail indent outer tokens) :
    ReadsTo l tail indent outer tokens := by
  obtain ⟨index, line, h'⟩ := h'
  exact ⟨index, line, h.trans h'⟩

open Outline

/-- What stands behind a colon starts with a blank or with a line break. -/
theorem exists_text_eq (width column : Nat) (outline : Outline) :
    ∃ c cs, separates c = true ∧ outline.text width column = c :: cs := by
  cases outline with
  | word w => exact ⟨' ', _, rfl, rfl⟩
  | block entries => exact ⟨'\n', _, rfl, rfl⟩

theorem entriesText_cons_append (width column : Nat) (key : String) (outline : Outline)
    (rest : List (String × Outline)) (tail : List Char) :
    entriesText width column ((key, outline) :: rest) ++ tail
      = List.replicate column ' ' ++ (key.toList ++ ':' :: (outline.text width column
        ++ (entriesText width column rest ++ tail))) := by
  rw [entriesText]
  simp only [List.append_assoc, List.cons_append]

/-- The lines of a block are indented to its column. -/
theorem continues_entriesText (width : Nat) {column : Nat} {entries : List (String × Outline)}
    (h : PlainEntries entries) {tail : List Char} (htail : Continues column tail) :
    Continues column (entriesText width column entries ++ tail) := by
  cases entries with
  | nil => exact htail
  | cons entry rest =>
    obtain ⟨key, outline⟩ := entry
    obtain ⟨⟨hkey, -⟩, -⟩ := h
    obtain ⟨d, w, hw⟩ := List.exists_cons_of_ne_nil hkey.1
    rw [entriesText_cons_append, hw]
    exact .line column (Nat.le_refl _) d (hkey.2 d (hw ▸ List.mem_cons_self)) _

mutual

/-- What stands behind a colon gives its tokens, and leaves the blocks around it as they are. -/
theorem reads_text {width : Nat} (hwidth : 0 < width) : (outline : Outline) → outline.Plain →
    ∀ {column col : Nat} (_ : column ≤ col) {tail : List Char} (_ : Continues column tail)
      (index line : Nat) (outer : List Int) (tokens : List Token),
      ReadsTo (inBlock ⟨outline.text width column ++ tail, index, line, col⟩ false column outer
        tokens) tail column outer (outline.tokens.reverse ++ tokens)
  | .word w, hw, column, col, hcol, tail, htail, index, line, outer, tokens => by
    have hword : Reads (inBlock ⟨' ' :: (w.toList ++ '\n' :: tail), index, line, col⟩ false column
        outer tokens) _ := reads_word hw htail (Int.le_refl column) (Int.ofNat_le.mpr hcol)
    rw [String.ofList_toList] at hword
    have htext : (Outline.word w).text width column ++ tail
        = ' ' :: (w.toList ++ '\n' :: tail) := by
      rw [text, List.cons_append, List.append_assoc]
      rfl
    rw [htext]
    exact ⟨_, _, hword⟩
  | .block [], _, column, col, hcol, tail, htail, index, line, outer, tokens =>
    ⟨index + 1, line + 1, .of_settle (settle_lineBreak htail) (Nat.le_succ _)⟩
  | .block (entry :: rest), hplain, column, col, hcol, tail, htail, index, line, outer, tokens => by
    have hdeeper : (column : Int) < ((column + width : Nat) : Int) := by omega
    have htail' := htail.mono (Nat.le_add_right column width)
    -- the next line starts the block
    have hlines := continues_entriesText width hplain htail'
    refine (Reads.of_settle (settle_lineBreak hlines) (Nat.le_succ _)).to ?_
    obtain ⟨index', line', hentries⟩ := reads_entries hwidth (entry :: rest) (by simp) hplain
      (Int.le_of_lt hdeeper) htail' (index + 1) (line + 1) outer tokens
    refine ⟨index', line', hentries.trans ?_⟩
    rw [openedIndents_of_lt hdeeper, openedTokens_of_lt hdeeper]
    -- and the line behind the block ends it
    have htokens : Token.blockEnd :: ((entryTokens (entry :: rest)).reverse
        ++ .blockMappingStart :: tokens)
        = (Outline.block (entry :: rest)).tokens.reverse ++ tokens := by
      rw [Outline.tokens, List.reverse_cons, List.reverse_append]
      simp
    rw [← htokens]
    exact reads_blockEnd htail hdeeper

/-- The lines of a block give its tokens. The block is opened in front of them if it is deeper. -/
theorem reads_entries {width : Nat} (hwidth : 0 < width) :
    (entries : List (String × Outline)) → entries ≠ [] → PlainEntries entries →
    ∀ {column : Nat} {indent : Int} (_ : indent ≤ column) {tail : List Char}
      (_ : Continues column tail) (index line : Nat) (outer : List Int) (tokens : List Token),
      ReadsTo (inBlock ⟨entriesText width column entries ++ tail, index, line, 0⟩ true indent outer
        tokens) tail column (openedIndents indent outer column)
        ((entryTokens entries).reverse ++ openedTokens indent tokens column)
  | [], h, _, _, _, _, _, _, _, _, _, _ => absurd rfl h
  | (key, outline) :: rest, _, hplain, column, indent, hindent, tail, htail, index, line, outer,
      tokens => by
    obtain ⟨⟨hkey, hlength⟩, houtline, hrest⟩ := hplain
    have hlines := continues_entriesText width hrest htail
    obtain ⟨c, cs, hc, htext⟩ := exists_text_eq width column outline
    have hfirst : Reads (inBlock ⟨List.replicate column ' ' ++ (key.toList
        ++ ':' :: c :: (cs ++ (entriesText width column rest ++ tail))), index, line, 0⟩ true indent
        outer tokens) _ := reads_key hkey hlength hc hindent
    rw [String.ofList_toList, ← List.cons_append, ← htext] at hfirst
    rw [entriesText_cons_append]
    refine hfirst.to ?_
    have hcol : column ≤ column + key.toList.length + 1 := by omega
    obtain ⟨index₁, line₁, hvalue⟩ := reads_text hwidth outline houtline hcol hlines
      (index + column + key.toList.length + 1) line (openedIndents indent outer column)
      (.value :: .scalar key true :: .key :: openedTokens indent tokens column)
    refine hvalue.to ?_
    have htokens : (entryTokens ((key, outline) :: rest)).reverse
        ++ openedTokens indent tokens column
        = (entryTokens rest).reverse ++ (outline.tokens.reverse
          ++ .value :: .scalar key true :: .key :: openedTokens indent tokens column) := by
      rw [entryTokens]
      simp
    rw [htokens]
    cases rest with
    | nil => exact ⟨index₁, line₁, .of_settle rfl (Nat.le_refl _)⟩
    | cons entry rest =>
      -- the block is open from here on
      have hothers := reads_entries hwidth (entry :: rest) (by simp) hrest (Int.le_refl column)
        htail index₁ line₁ (openedIndents indent outer column)
        (outline.tokens.reverse
          ++ .value :: .scalar key true :: .key :: openedTokens indent tokens column)
      rw [openedIndents_self, openedTokens_self] at hothers
      exact hothers

end

theorem start_of_continues {text : List Char} (h : Continues 0 text) :
    start text = inBlock ⟨text, 0, 0, 0⟩ true (-1) [] [] := by
  cases h with
  | nothing => rfl
  | line n hn c hc rest =>
    obtain rfl : n = 0 := by omega
    have hmark : (c == '\uFEFF') = false := beq_eq_false_of_isAlphanum hc (by decide)
    show inBlock (if c == '\uFEFF' then _ else ⟨c :: rest, 0, 0, 0⟩) true (-1) [] [] = _
    rw [hmark]
    rfl

/-- At the end of the text, the outermost block is closed and reading ends. -/
theorem run_end (fuel : Nat) :
    run (fuel + 1) (inBlock ⟨[], index, line, 0⟩ keyAllowed 0 [-1] tokens)
      = .ok (tokens.reverse ++ [.blockEnd, .streamEnd]) := by
  have hsettle : settle (inBlock ⟨[], index, line, 0⟩ keyAllowed 0 [-1] tokens) = _ :=
    settle_line (.nothing : Continues 0 [])
  have hstep : (inBlock ⟨[], index, line, 0⟩ keyAllowed 0 [-1] tokens).step
      = .ok (inBlock ⟨[], index, line, 0⟩ false (-1) [] (.streamEnd :: .blockEnd :: tokens)) := by
    unfold step
    rw [hsettle]
    rfl
  show ((inBlock ⟨[], index, line, 0⟩ keyAllowed 0 [-1] tokens).step >>= _) = _
  rw [hstep]
  show Except.ok (Token.streamEnd :: .blockEnd :: tokens).reverse = _
  simp

end Lexer

namespace Outline

mutual

theorem all_isAllowed_text (width : Nat) : (outline : Outline) → outline.Plain →
    ∀ column, (outline.text width column).all isAllowed = true
  | .word w, hw, column => by
    have hall : w.toList.all isAllowed = true :=
      List.all_eq_true.mpr fun c hc => isAllowed_of_isAlphanum (hw.2 c hc)
    rw [text, List.all_cons, List.all_append, hall]
    decide
  | .block entries, hplain, column => by
    rw [text, List.all_cons, all_isAllowed_entriesText width entries hplain]
    decide

theorem all_isAllowed_entriesText (width : Nat) : (entries : List (String × Outline)) →
    PlainEntries entries → ∀ column, (entriesText width column entries).all isAllowed = true
  | [], _, _ => rfl
  | (key, outline) :: rest, hplain, column => by
    obtain ⟨⟨hkey, -⟩, houtline, hrest⟩ := hplain
    have hblanks : (List.replicate column ' ').all isAllowed = true :=
      List.all_eq_true.mpr fun c hc => by
        rw [List.eq_of_mem_replicate hc]
        decide
    have hkeys : key.toList.all isAllowed = true :=
      List.all_eq_true.mpr fun c hc => isAllowed_of_isAlphanum (hkey.2 c hc)
    rw [entriesText, List.all_append, List.all_append, List.all_cons, List.all_append, hblanks,
      hkeys, all_isAllowed_text width outline houtline column,
      all_isAllowed_entriesText width rest hrest column]
    decide

end

/-- **The tokens of an outline.** A document in block style gives the tokens of its outline. -/
theorem tokens_entriesText {width : Nat} (hwidth : 0 < width) {entries : List (String × Outline)}
    (hne : entries ≠ []) (hplain : PlainEntries entries) :
    Yaml.tokens (entriesText width 0 entries)
      = .ok ((Outline.block entries).tokens ++ [.streamEnd]) := by
  have hstart : Lexer.start (entriesText width 0 entries)
      = Lexer.inBlock ⟨entriesText width 0 entries, 0, 0, 0⟩ true (-1) [] [] := by
    have hlines := Lexer.continues_entriesText width hplain
      (.nothing : Continues 0 [])
    rw [List.append_nil] at hlines
    exact Lexer.start_of_continues hlines
  obtain ⟨index, line, n, hlength, hrun⟩ := Lexer.reads_entries hwidth entries hne hplain
    (by omega : (-1 : Int) ≤ (0 : Nat)) Continues.nothing 0 0 [] []
  rw [List.append_nil, Lexer.openedIndents_of_lt (by omega), Lexer.openedTokens_of_lt (by omega)]
    at hrun
  rw [List.append_nil] at hlength
  -- every step takes a character at least, so the fuel is enough
  have hfuel : n ≤ (entriesText width 0 entries).length := by
    have hzero : n + 0 ≤ (entriesText width 0 entries).length := hlength
    omega
  obtain ⟨fuel, hfuel⟩ := Nat.exists_eq_add_of_le hfuel
  unfold Yaml.tokens
  rw [if_pos (all_isAllowed_entriesText width entries hplain 0), hstart, hfuel,
    show n + fuel + 2 = (fuel + 1) + n + 1 by omega, hrun (fuel + 1)]
  refine (Lexer.run_end (fuel + 1)).trans ?_
  obtain ⟨entry, rest, rfl⟩ := List.exists_cons_of_ne_nil hne
  rw [tokens, List.reverse_append, List.reverse_reverse]
  simp

end Outline

end FormSchema.Yaml
