import FormSchema.Yaml.Token.Lexer

/-!
# FormSchema — how reading tokens fails

The lexer looks at the form of a text and never at what a scalar means. So a text without tokens is
malformed, with one exception: an escape may name a character that does not exist.
-/

namespace FormSchema.Yaml

variable {ε α β : Type}

/-- An operation fails with errors of one sort only. -/
def FailsWith (sort : ε → Prop) (x : Except ε α) : Prop := ∀ e, x = .error e → sort e

namespace FailsWith

variable {sort : ε → Prop}

theorem ok (a : α) : FailsWith sort (.ok a : Except ε α) := by
  intro e h
  cases h

theorem pure (a : α) : FailsWith sort (Pure.pure a : Except ε α) := ok a

theorem error {e : ε} (h : sort e) : FailsWith sort (.error e : Except ε α) := by
  intro e' he
  cases he
  exact h

theorem bind {x : Except ε α} {f : α → Except ε β} (hx : FailsWith sort x)
    (hf : ∀ a, x = .ok a → FailsWith sort (f a)) : FailsWith sort (x >>= f) := by
  cases x with
  | ok a => exact hf a rfl
  | error e => exact error (hx e rfl)

theorem ite {p : Prop} [Decidable p] {x y : Except ε α} (hx : FailsWith sort x)
    (hy : FailsWith sort y) : FailsWith sort (if p then x else y) := by
  split
  · exact hx
  · exact hy

end FailsWith

/-- Whether an error is about the form of a text: the text is malformed, or an escape in it names no
character. -/
def ReadError.IsLexical : ReadError → Prop
  | .malformed _ => True
  | .noCharacter code => 0x110000 ≤ code
  | .scalar _ => False

/-- An operation that fails with errors about the form of a text only. -/
abbrev FailsLexically (x : Except ReadError α) : Prop := FailsWith ReadError.IsLexical x

theorem failsLexically_malformed (reason : Malformed) :
    FailsLexically (.error (.malformed reason) : Except ReadError α) :=
  FailsWith.error trivial

/-! ## Scalars -/

theorem failsLexically_quotedBreaks (fuel : Nat) (c : Cursor) (breaks : List Char) :
    FailsLexically (quotedBreaks fuel c breaks) := by
  induction fuel generalizing c breaks with
  | zero => exact .ok _
  | succ fuel ih =>
    unfold quotedBreaks
    split
    · exact failsLexically_malformed _
    · split
      · exact ih _ _
      · exact .ok _

/-- This is where a character may be asked for that does not exist. -/
theorem failsLexically_readEscape (c : Cursor) : FailsLexically (readEscape c) := by
  unfold readEscape
  split
  · exact .ok _
  · dsimp only
    split
    · split
      · exact failsLexically_malformed _
      · split
        · next hcode => exact FailsWith.error hcode
        · exact .ok _
    · exact failsLexically_malformed _
  · split
    · exact failsLexically_quotedBreaks _ _ _
    · exact failsLexically_malformed _

theorem failsLexically_quotedSpaces (c : Cursor) : FailsLexically (quotedSpaces c) := by
  unfold quotedSpaces
  dsimp only
  split
  · exact .bind (failsLexically_quotedBreaks _ _ _) fun _ _ => .pure _
  · split
    · exact failsLexically_malformed _
    · exact .ok _

theorem failsLexically_readQuoted (double : Bool) (fuel : Nat) (c : Cursor) (text : List Char) :
    FailsLexically (readQuoted double fuel c text) := by
  induction fuel generalizing c text with
  | zero => exact failsLexically_malformed _
  | succ fuel ih =>
    unfold readQuoted
    split
    · exact failsLexically_malformed _
    · split
      · exact .ok _
      · exact ih _ _
    · split
      · exact ih _ _
      · split
        · exact ih _ _
        · exact .ok _
    · split
      · exact .bind (failsLexically_readEscape _) fun _ _ => ih _ _
      · exact ih _ _
    · split
      · exact .bind (failsLexically_quotedSpaces _) fun _ _ => ih _ _
      · exact ih _ _

theorem failsLexically_readBlock (folded : Bool) (outer : Int) (c : Cursor) :
    FailsLexically (readBlock folded outer c) := by
  have hheader : FailsLexically (blockHeader c) := by
    unfold blockHeader
    extract_lets
    split
    split
    · exact failsLexically_malformed _
    · split
      · dsimp only
        split
        · exact .ok _
        · exact failsLexically_malformed _
      · exact failsLexically_malformed _
  exact .bind hheader fun _ _ => .pure _

/-! ## Directives, names and tags -/

namespace Lexer

theorem failsLexically_uriEscapes (fuel : Nat) (c : Cursor) (bytes : List Nat) :
    FailsLexically (uriEscapes fuel c bytes) := by
  induction fuel generalizing c bytes with
  | zero => exact .ok _
  | succ fuel ih =>
    unfold uriEscapes
    split
    · exact .ok _
    · split
      · exact ih _ _
      · exact failsLexically_malformed _

theorem failsLexically_readUri (fuel : Nat) (c : Cursor) (read : List Char) :
    FailsLexically (readUri fuel c read) := by
  induction fuel generalizing c read with
  | zero => exact failsLexically_malformed _
  | succ fuel ih =>
    unfold readUri
    split
    · refine .bind (failsLexically_uriEscapes _ _ _) fun escapes _ => ?_
      dsimp only
      split
      · exact ih _ _
      · exact failsLexically_malformed _
    · split
      · exact ih _ _
      · split
        · exact failsLexically_malformed _
        · exact .ok _

theorem failsLexically_readHandle (c : Cursor) : FailsLexically (readHandle c) := by
  unfold readHandle
  split
  · exact failsLexically_malformed _
  · split
    · exact .ok _
    · dsimp only
      split
      · exact .ok _
      · exact failsLexically_malformed _

theorem failsLexically_readVersionNumber (c : Cursor) : FailsLexically (readVersionNumber c) := by
  unfold readVersionNumber
  dsimp only
  split
  · exact failsLexically_malformed _
  · exact .ok _

theorem failsLexically_endDirective (c : Cursor) : FailsLexically (endDirective c) := by
  unfold endDirective
  dsimp only
  split
  · exact .ok _
  · exact failsLexically_malformed _

theorem failsLexically_readDirective (c : Cursor) : FailsLexically (readDirective c) := by
  unfold readDirective
  dsimp only
  split
  · exact failsLexically_malformed _
  · split
    · refine .bind (failsLexically_readVersionNumber _) fun major _ => ?_
      split
      · exact failsLexically_malformed _
      · refine .bind (failsLexically_readVersionNumber _) fun minor _ => ?_
        split
        · exact failsLexically_malformed _
        · exact .bind (failsLexically_endDirective _) fun _ _ => .pure _
    · refine .bind (failsLexically_readHandle _) fun handle _ => ?_
      split
      · exact failsLexically_malformed _
      · refine .bind (failsLexically_readUri _ _ _) fun expansion _ => ?_
        split
        · exact failsLexically_malformed _
        · exact .bind (failsLexically_endDirective _) fun _ _ => .pure _
    · exact .bind (failsLexically_endDirective _) fun _ _ => .pure _

theorem failsLexically_readName (c : Cursor) : FailsLexically (readName c) := by
  unfold readName
  dsimp only
  split
  · exact failsLexically_malformed _
  · exact .ok _

theorem failsLexically_readTag (c : Cursor) : FailsLexically (readTag c) := by
  unfold readTag
  -- whatever the notation, the tag has to end with a blank or with the line
  extract_lets finish _ _ suffixed
  have hfinish (read : Token × Cursor) : FailsLexically (finish read) := by
    show FailsLexically (if _ then _ else _)
    split
    · exact .pure _
    · exact failsLexically_malformed _
  have hsuffixed (handle : String × Cursor) : FailsLexically (suffixed handle) :=
    .bind (failsLexically_readUri _ _ _) fun _ _ => .bind (.pure _) fun _ _ => hfinish _
  split
  · exact .bind (failsLexically_readUri _ _ _) fun _ _ =>
      .ite (.bind (.pure _) fun _ _ => hfinish _)
        (.bind (failsLexically_malformed _) fun _ _ => hfinish _)
  · split
    · exact .bind (.pure _) fun _ _ => hfinish _
    · split
      · exact .bind (failsLexically_readHandle _) fun _ _ => hsuffixed _
      · exact .bind (.pure _) fun _ _ => hsuffixed _

/-! ## Tokens -/

variable (l : Lexer)

theorem failsLexically_dropKey : FailsLexically l.dropKey := by
  unfold dropKey
  split
  · split
    · exact failsLexically_malformed _
    · exact .ok _
  · exact .ok _

theorem failsLexically_saveKey : FailsLexically l.saveKey := by
  unfold saveKey
  split
  · exact .bind (failsLexically_dropKey l) fun _ _ => .pure _
  · exact .ok _

theorem failsLexically_dropStaleKeys : FailsLexically l.dropStaleKeys := by
  unfold dropStaleKeys
  split
  · exact failsLexically_malformed _
  · exact .ok _

theorem failsLexically_keyedToken {read : Cursor → Except ReadError (Token × Cursor)}
    (hread : ∀ c, FailsLexically (read c)) : FailsLexically (l.keyedToken read) :=
  .bind (failsLexically_saveKey l) fun l _ => .bind (hread l.cursor) fun _ _ => .pure _

theorem failsLexically_endBlocks : FailsLexically l.endBlocks :=
  .bind (failsLexically_dropKey _) fun _ _ => .pure _

theorem failsLexically_openFlow (token : Token) : FailsLexically (l.openFlow token) :=
  .bind (failsLexically_saveKey l) fun _ _ => .pure _

theorem failsLexically_closeFlow (token : Token) : FailsLexically (l.closeFlow token) := by
  refine .bind (failsLexically_dropKey l) fun l _ => ?_
  split
  · exact failsLexically_malformed _
  · exact .pure _

theorem failsLexically_flowEntry : FailsLexically l.flowEntry :=
  .bind (failsLexically_dropKey _) fun _ _ => .pure _

/-- A token of a block where none may stand is malformed; otherwise the key in front of it may be
missed. -/
theorem failsLexically_guarded {stop : Prop} [Decidable stop] {next : Except ReadError Lexer}
    (hnext : FailsLexically next) :
    FailsLexically (do
      if stop then .error (.malformed .indentation)
      next) := by
  split
  · exact failsLexically_malformed _
  · exact hnext

theorem failsLexically_blockEntry : FailsLexically l.blockEntry :=
  failsLexically_guarded (.bind (failsLexically_dropKey _) fun _ _ => .pure _)

theorem failsLexically_explicitKey : FailsLexically l.explicitKey :=
  failsLexically_guarded (.bind (failsLexically_dropKey _) fun _ _ => .pure _)

theorem failsLexically_value : FailsLexically l.value := by
  unfold value
  split
  · exact .ok _
  · exact failsLexically_guarded (.bind (failsLexically_dropKey _) fun _ _ => .pure _)

theorem failsLexically_blockScalar (folded : Bool) : FailsLexically (l.blockScalar folded) :=
  .bind (failsLexically_dropKey _) fun _ _ =>
    .bind (failsLexically_readBlock _ _ _) fun _ _ => .pure _

theorem failsLexically_quotedScalar (double : Bool) : FailsLexically (l.quotedScalar double) :=
  failsLexically_keyedToken l fun _ =>
    .bind (failsLexically_readQuoted _ _ _ _) fun _ _ => .pure _

theorem failsLexically_plainScalar : FailsLexically l.plainScalar :=
  .bind (failsLexically_saveKey l) fun _ _ => .pure _

theorem failsLexically_settle : FailsLexically l.settle :=
  .bind (failsLexically_dropStaleKeys _) fun _ _ => .pure _

theorem failsLexically_readToken : FailsLexically l.readToken :=
  -- one branch for each character that a token may start with
  .ite (.bind (failsLexically_endBlocks _) fun _ _ => .pure _) <|
    .ite (.bind (failsLexically_endBlocks _) fun _ _ =>
      .bind (failsLexically_readDirective _) fun _ _ => .pure _) <|
    .ite (.bind (failsLexically_endBlocks _) fun _ _ => .pure _) <|
    .ite (.bind (failsLexically_endBlocks _) fun _ _ => .pure _) <|
    .ite (failsLexically_openFlow _ _) <|
    .ite (failsLexically_openFlow _ _) <|
    .ite (failsLexically_closeFlow _ _) <|
    .ite (failsLexically_closeFlow _ _) <|
    .ite (failsLexically_flowEntry _) <|
    .ite (failsLexically_blockEntry _) <|
    .ite (failsLexically_explicitKey _) <|
    .ite (failsLexically_value _) <|
    .ite (failsLexically_keyedToken _ fun c =>
      .bind (failsLexically_readName c) fun _ _ => .pure _) <|
    .ite (failsLexically_keyedToken _ fun c =>
      .bind (failsLexically_readName c) fun _ _ => .pure _) <|
    .ite (failsLexically_keyedToken _ failsLexically_readTag) <|
    .ite (failsLexically_blockScalar _ _) <|
    .ite (failsLexically_blockScalar _ _) <|
    .ite (failsLexically_quotedScalar _ _) <|
    .ite (failsLexically_quotedScalar _ _) <|
    .ite (failsLexically_plainScalar _) (failsLexically_malformed _)

theorem failsLexically_step : FailsLexically l.step :=
  .bind (failsLexically_settle l) fun l _ => failsLexically_readToken l

theorem failsLexically_run (fuel : Nat) : FailsLexically (run fuel l) := by
  induction fuel generalizing l with
  | zero => exact failsLexically_malformed _
  | succ fuel ih =>
    refine .bind (failsLexically_step l) fun l _ => ?_
    split
    · exact .pure _
    · exact ih l

end Lexer

/-- A text without tokens is malformed, or an escape in it names no character. -/
theorem failsLexically_tokens (text : List Char) : FailsLexically (tokens text) := by
  unfold tokens
  split
  · exact Lexer.failsLexically_run _ _
  · exact failsLexically_malformed _

end FormSchema.Yaml
