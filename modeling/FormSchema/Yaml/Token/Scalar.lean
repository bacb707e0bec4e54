import FormSchema.Yaml.Cursor
import FormSchema.Yaml.Error

/-!
# FormSchema — the text of YAML scalars

Reading the three notations of a scalar: plain, in quotes, and as a block. Each reader gives the
text that the scalar stands for and the place behind it. Line breaks inside plain and quoted
scalars are folded: a single one becomes a blank, and of several the first one is dropped.
-/

namespace FormSchema.Yaml

/-- The line breaks at the cursor, with the blanks around them that `skipBlanks` moves past. -/
def readBreaks (skipBlanks : Cursor → Cursor) :
    (fuel : Nat) → Cursor → List Char → List Char × Cursor
  | 0, c, breaks => (breaks, c)
  | fuel + 1, c, breaks =>
    let c := skipBlanks c
    match c.lineBreak? with
    | some (char, c) => readBreaks skipBlanks fuel c (breaks ++ [char])
    | none => (breaks, c)

/-- What a line break and the empty lines behind it stand for. -/
def foldBreaks (first : Char) (further : List Char) : List Char :=
  if first != '\n' then first :: further
  else if further.isEmpty then [' ']
  else further

/-! ## Plain scalars -/

/-- How many characters of a plain scalar stand at the cursor without a blank. In flow context,
brackets, commas and question marks end it. -/
def plainLength (flow : Bool) : List Char → Nat
  | [] => 0
  | c :: rest =>
    let next := rest.headD endOfText
    -- a colon belongs to the scalar unless it ends a key
    if separates c
      || (c == ':' && (separates next || (flow && next ∈ [',', '[', ']', '{', '}'])))
      || (flow && c ∈ [',', '?', '[', ']', '{', '}']) then 0
    else plainLength flow rest + 1

/-- The empty lines behind a plain scalar's line, up to a document's start or end. -/
def plainBreaks : (fuel : Nat) → Cursor → List Char → Option (List Char) × Cursor
  | 0, c, breaks => (some breaks, c)
  | fuel + 1, c, breaks =>
    if c.peek == ' ' then plainBreaks fuel c.next breaks
    else
      match c.lineBreak? with
      | some (char, c) =>
        if c.atDocumentMarks then (none, c) else plainBreaks fuel c (breaks ++ [char])
      | none => (some breaks, c)

/-- What separates the parts of a plain scalar: blanks, or line breaks. The flag tells whether a
line break was passed; nothing is separated when the scalar ends here. -/
def plainSpaces (c : Cursor) : List Char × Bool × Cursor :=
  let blanks := c.span (· == ' ')
  let c := c.advance blanks.length
  match c.lineBreak? with
  | some (first, c) =>
    if c.atDocumentMarks then ([], true, c)
    else
      match plainBreaks (c.rest.length + 1) c [] with
      | (none, c) => ([], true, c)
      | (some further, c) => (foldBreaks first further, true, c)
  | none => (blanks, false, c)

/-- Reads a plain scalar whose further lines start at `indent` or behind it. `separator` is what
stands between the text so far and the next part. -/
def readPlain (flow : Bool) (indent : Int) :
    (fuel : Nat) → Cursor → (text separator : List Char) → (newLine : Bool) →
      List Char × Bool × Cursor
  | 0, c, text, _, newLine => (text, newLine, c)
  | fuel + 1, c, text, separator, newLine =>
    -- a number sign behind a blank starts a comment
    let length := if c.peek == '#' then 0 else plainLength flow c.rest
    if length = 0 then (text, newLine, c)
    else
      let text := text ++ separator ++ c.rest.take length
      let (separator, newLine, c) := plainSpaces (c.advance length)
      if separator.isEmpty || c.peek == '#' || (!flow && (c.column : Int) < indent) then
        (text, newLine, c)
      else readPlain flow indent fuel c text separator newLine

/-! ## Quoted scalars -/

/-- The character that a letter stands for behind a backslash. -/
def escaped? : Char → Option Char
  | '0' => some '\x00'
  | 'a' => some '\x07'
  | 'b' => some '\x08'
  | 't' => some '\t'
  | '\t' => some '\t'
  | 'n' => some '\n'
  | 'v' => some '\x0b'
  | 'f' => some '\x0c'
  | 'r' => some '\r'
  | 'e' => some '\x1b'
  | ' ' => some ' '
  | '"' => some '"'
  | '\\' => some '\\'
  | '/' => some '/'
  | 'N' => some '\x85'
  | '_' => some '\xa0'
  | 'L' => some '\u2028'
  | 'P' => some '\u2029'
  | _ => none

/-- How many hexadecimal digits follow a letter behind a backslash. -/
def codeDigits? : Char → Option Nat
  | 'x' => some 2
  | 'u' => some 4
  | 'U' => some 8
  | _ => none

def hexDigit? (c : Char) : Option Nat :=
  if '0' ≤ c ∧ c ≤ '9' then some (c.toNat - '0'.toNat)
  else if 'a' ≤ c ∧ c ≤ 'f' then some (c.toNat - 'a'.toNat + 10)
  else if 'A' ≤ c ∧ c ≤ 'F' then some (c.toNat - 'A'.toNat + 10)
  else none

def hexNumber? (digits : List Char) : Option Nat :=
  digits.foldl (fun n c => n.bind fun n => (hexDigit? c).map (16 * n + ·)) (some 0)

/-- The line breaks in a quoted scalar. No document may start or end there. -/
def quotedBreaks : (fuel : Nat) → Cursor → List Char → Except ReadError (List Char × Cursor)
  | 0, c, breaks => .ok (breaks, c)
  | fuel + 1, c, breaks =>
    if c.atDocumentMarks then .error (.malformed .openScalar)
    else
      match (c.skip isBlank).lineBreak? with
      | some (char, c) => quotedBreaks fuel c (breaks ++ [char])
      | none => .ok (breaks, c.skip isBlank)

/-- Reads an escape in double quotes; the cursor stands behind the backslash. An escaped line break
only keeps the empty lines behind it. -/
def readEscape (c : Cursor) : Except ReadError (List Char × Cursor) :=
  match escaped? c.peek, codeDigits? c.peek with
  | some char, _ => .ok ([char], c.next)
  | none, some count =>
    let digits := c.next.rest.take count
    match hexNumber? digits with
    | some code =>
      if digits.length < count then .error (.malformed .escape)
      else if 0x110000 ≤ code then .error (.noCharacter code)
      else
        -- half of a pair is no character of its own
        let code := if 0xd800 ≤ code ∧ code < 0xe000 then 0xfffd else code
        .ok ([Char.ofNat code], c.next.advance count)
    | none => .error (.malformed .escape)
  | none, none =>
    match c.lineBreak? with
    | some (_, c) => quotedBreaks (c.rest.length + 1) c []
    | none => .error (.malformed .escape)

def quotedSpaces (c : Cursor) : Except ReadError (List Char × Cursor) :=
  let blanks := c.span isBlank
  let c := c.advance blanks.length
  match c.lineBreak? with
  | some (first, c) => do
    let (further, c) ← quotedBreaks (c.rest.length + 1) c []
    return (foldBreaks first further, c)
  | none =>
    if c.peek == endOfText then .error (.malformed .openScalar) else .ok (blanks, c)

/-- Reads a quoted scalar up to its closing quote; the cursor stands behind the opening one. -/
def readQuoted (double : Bool) :
    (fuel : Nat) → Cursor → List Char → Except ReadError (List Char × Cursor)
  | 0, _, _ => .error (.malformed .openScalar)
  | fuel + 1, c, text =>
    match c.rest with
    | [] => .error (.malformed .openScalar)
    | '"' :: _ =>
      if double then .ok (text, c.next) else readQuoted double fuel c.next (text ++ ['"'])
    | '\'' :: rest =>
      if double then readQuoted double fuel c.next (text ++ ['\''])
      else if rest.head? == some '\'' then readQuoted double fuel (c.advance 2) (text ++ ['\''])
      else .ok (text, c.next)
    | '\\' :: _ =>
      if double then do
        let (chars, c) ← readEscape c.next
        readQuoted double fuel c (text ++ chars)
      else readQuoted double fuel c.next (text ++ ['\\'])
    | char :: _ =>
      if separates char then do
        let (chars, c) ← quotedSpaces c
        readQuoted double fuel c (text ++ chars)
      else readQuoted double fuel c.next (text ++ [char])

/-! ## Block scalars -/

/-- What becomes of the line breaks at the end of a block scalar: one, none or all are kept. -/
inductive Chomping
  | clip
  | strip
  | keep
  deriving DecidableEq, Repr

/-- The header of a block scalar: its chomping and the indentation it states. -/
def blockHeader (c : Cursor) : Except ReadError (Chomping × Option Nat × Cursor) :=
  let chomping? (c : Cursor) : Chomping × Cursor :=
    if c.peek == '+' then (.keep, c.next)
    else if c.peek == '-' then (.strip, c.next)
    else (.clip, c)
  let indentation? (c : Cursor) : Option Nat × Cursor :=
    if '0' ≤ c.peek ∧ c.peek ≤ '9' then (some (c.peek.toNat - '0'.toNat), c.next) else (none, c)
  -- the two indicators come in either order
  let (chomping, increment, c) :=
    match chomping? c with
    | (.clip, _) =>
      let (increment, c) := indentation? c
      if increment.isSome then
        let (chomping, c) := chomping? c
        (chomping, increment, c)
      else (.clip, none, c)
    | (chomping, c) =>
      let (increment, c) := indentation? c
      (chomping, increment, c)
  if increment == some 0 then .error (.malformed .blockHeader)
  else if c.peek == ' ' || endsLine c.peek then
    let c := (c.skip (· == ' ')).skipComment
    if endsLine c.peek then .ok (chomping, increment, c.skipLineBreak)
    else .error (.malformed .blockHeader)
  else .error (.malformed .blockHeader)

/-- The leading empty lines of a block scalar and the greatest column reached in them. -/
def blockIndentation : (fuel : Nat) → Cursor → List Char → (deepest : Nat) →
    List Char × Nat × Cursor
  | 0, c, breaks, deepest => (breaks, deepest, c)
  | fuel + 1, c, breaks, deepest =>
    if c.peek == ' ' then
      let c := c.next
      blockIndentation fuel c breaks (max deepest c.column)
    else
      match c.lineBreak? with
      | some (char, c) => blockIndentation fuel c (breaks ++ [char]) deepest
      | none => (breaks, deepest, c)

/-- The empty lines at the cursor, and the indentation of the line behind them. -/
def blockBreaks (indent : Nat) (c : Cursor) : List Char × Cursor :=
  -- blanks behind the indentation belong to the text
  let dedent (c : Cursor) : Cursor :=
    c.advance ((c.rest.take (indent - c.column)).takeWhile (· == ' ')).length
  readBreaks dedent (c.rest.length + 1) c []

/-- Reads the lines of a block scalar. `breaks` are the empty lines in front of the next line. Gives
the text, the last line break and the empty lines behind it. -/
def blockLines (folded : Bool) (indent : Nat) :
    (fuel : Nat) → Cursor → (text breaks : List Char) →
      List Char × List Char × List Char × Cursor
  | 0, c, text, breaks => (text, [], breaks, c)
  | fuel + 1, c, text, breaks =>
    if c.column != indent || c.peek == endOfText then (text, [], breaks, c)
    else
      let startsText := !isBlank c.peek
      let line := c.span fun char => !endsLine char
      let text := text ++ breaks ++ line
      let c := c.advance line.length
      let (lineBreak, c) := match c.lineBreak? with
        | some (char, c) => ([char], c)
        | none => ([], c)
      let (breaks, c) := blockBreaks indent c
      if c.column == indent && c.peek != endOfText then
        -- a break is folded only between two lines that both start with text
        let joint :=
          if folded && lineBreak == ['\n'] && startsText && !isBlank c.peek then
            if breaks.isEmpty then [' '] else []
          else lineBreak
        blockLines folded indent fuel c (text ++ joint) breaks
      else (text, lineBreak, breaks, c)

/-- Reads a block scalar inside a block of the given indentation; the cursor stands behind the
indicator. -/
def readBlock (folded : Bool) (outer : Int) (c : Cursor) :
    Except ReadError (List Char × Cursor) := do
  let (chomping, increment, c) ← blockHeader c
  -- a scalar of the outermost block is indented by one column all the same
  let least := max 1 (outer + 1).toNat
  let (indent, breaks, c) := match increment with
    | some n =>
      let indent := least + n - 1
      let (breaks, c) := blockBreaks indent c
      (indent, breaks, c)
    | none =>
      let (breaks, deepest, c) := blockIndentation (c.rest.length + 1) c [] 0
      (max least deepest, breaks, c)
  let (text, lineBreak, breaks, c) := blockLines folded indent (c.rest.length + 1) c [] breaks
  let tail := match chomping with
    | .clip => lineBreak
    | .strip => []
    | .keep => lineBreak ++ breaks
  return (text ++ tail, c)

end FormSchema.Yaml
