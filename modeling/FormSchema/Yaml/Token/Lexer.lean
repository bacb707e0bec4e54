import FormSchema.Text.Utf8
import FormSchema.Yaml.Token
import FormSchema.Yaml.Token.Scalar

/-!
# FormSchema — from YAML text to tokens

The lexer keeps the indentation of the open block collections, the depth of open brackets, and for
each depth the place where a key may have started. A colon makes a key of what stands at that
place; the key's token is then put in front of tokens that were already read.
-/

namespace FormSchema.Yaml

/-- A place where a key may have started: how many tokens were read before it, and whether nothing
but a key can stand there. -/
structure KeyStart where
  tokensBefore : Nat
  required : Bool
  index : Nat
  line : Nat
  column : Nat

/-- The state of the lexer. The tokens read so far are listed last first. -/
structure Lexer where
  cursor : Cursor
  depth : Nat
  indent : Int
  outerIndents : List Int
  keyAllowed : Bool
  keyStarts : List (Nat × KeyStart)
  tokens : List Token

namespace Lexer

/-- The state at the start of a text. A byte order mark in front is skipped. -/
def start (text : List Char) : Lexer :=
  let cursor := Cursor.start text
  { cursor := if cursor.peek == '\uFEFF' then cursor.next else cursor
    depth := 0
    indent := -1
    outerIndents := []
    keyAllowed := true
    keyStarts := []
    tokens := [] }

/-- Whether brackets are open. -/
def inFlow (l : Lexer) : Bool := l.depth != 0

def emit (l : Lexer) (token : Token) : Lexer := { l with tokens := token :: l.tokens }

/-- Puts a token behind the first `tokensBefore` ones. -/
def insertToken (l : Lexer) (tokensBefore : Nat) (token : Token) : Lexer :=
  -- the list is read backwards, so the later tokens stand in front
  let later := l.tokens.length - tokensBefore
  { l with tokens := l.tokens.take later ++ token :: l.tokens.drop later }

def advance (l : Lexer) (n : Nat) : Lexer := { l with cursor := l.cursor.advance n }

/-! ## Indentation -/

/-- Closes the block collections that are indented further than a column. -/
def closeTo (column : Int) : (open_ : List Int) → Lexer → Lexer
  | outer :: rest, l =>
    if l.indent > column then
      closeTo column rest { l.emit .blockEnd with indent := outer, outerIndents := rest }
    else l
  | [], l => l

/-- Closes block collections unless brackets are open. -/
def unwind (l : Lexer) (column : Int) : Lexer :=
  if l.inFlow then l else closeTo column l.outerIndents l

/-- Whether a column opens a new block collection. -/
def isDeeper (l : Lexer) (column : Nat) : Bool := l.indent < column

def deepen (l : Lexer) (column : Nat) : Lexer :=
  { l with indent := column, outerIndents := l.indent :: l.outerIndents }

/-- Opens a block collection at the cursor if it stands deeper than the one around it. -/
def openBlock (l : Lexer) (token : Token) : Lexer :=
  if l.isDeeper l.cursor.column then (l.deepen l.cursor.column).emit token else l

/-! ## Keys -/

/-- The place where a key at the current depth may have started. -/
def keyStart? (l : Lexer) : Option KeyStart := l.keyStarts.lookup l.depth

def forgetKey (l : Lexer) : Lexer :=
  { l with keyStarts := l.keyStarts.filter fun entry => entry.1 != l.depth }

/-- Gives up the key at the current depth; one that is required is missed. -/
def dropKey (l : Lexer) : Except ReadError Lexer :=
  match l.keyStart? with
  | some key => if key.required then .error (.malformed .simpleKey) else .ok l.forgetKey
  | none => .ok l

/-- Remembers that a key may start at the cursor. -/
def saveKey (l : Lexer) : Except ReadError Lexer :=
  if l.keyAllowed then do
    -- one place for each depth: an earlier one can no longer become a key
    let l ← l.dropKey
    let key : KeyStart :=
      { tokensBefore := l.tokens.length
        -- at the column of a block mapping nothing but its next key can stand
        required := !l.inFlow && l.indent == l.cursor.column
        index := l.cursor.index
        line := l.cursor.line
        column := l.cursor.column }
    return { l with keyStarts := (l.depth, key) :: l.keyStarts }
  else .ok l

/-- Whether a key that may have started at a place can no longer end at the cursor: keys are at most
1024 characters on one line. -/
def isStale (l : Lexer) (key : KeyStart) : Bool :=
  key.line != l.cursor.line || l.cursor.index - key.index > 1024

def dropStaleKeys (l : Lexer) : Except ReadError Lexer :=
  if l.keyStarts.any fun entry => l.isStale entry.2 && entry.2.required then
    .error (.malformed .simpleKey)
  else .ok { l with keyStarts := l.keyStarts.filter fun entry => !l.isStale entry.2 }

/-! ## Between tokens -/

/-- Moves to the next token. A new line allows a key outside brackets. -/
def skipToToken : (fuel : Nat) → Lexer → Lexer
  | 0, l => l
  | fuel + 1, l =>
    let cursor := (l.cursor.skip (· == ' ')).skipComment
    match cursor.lineBreak? with
    | some (_, cursor) =>
      skipToToken fuel { l with cursor, keyAllowed := l.keyAllowed || !l.inFlow }
    | none => { l with cursor }

/-! ## Directives, names and tags -/

/-- The characters of anchors, aliases and directive names. -/
def isNameChar (c : Char) : Bool := c.isAlphanum || c == '-' || c == '_'

def isUriChar (c : Char) : Bool := c.isAlphanum || "-;/?:@&=+$,_.!~*'()[]%".toList.contains c

/-- The bytes that percent signs with two hexadecimal digits name. -/
def uriEscapes : (fuel : Nat) → Cursor → List Nat → Except ReadError (List Nat × Cursor)
  | 0, c, bytes => .ok (bytes, c)
  | fuel + 1, c, bytes =>
    if c.peek != '%' then .ok (bytes, c)
    else
      match hexDigit? (c.peekAt 1), hexDigit? (c.peekAt 2) with
      | some a, some b => uriEscapes fuel (c.advance 3) (bytes ++ [16 * a + b])
      | _, _ => .error (.malformed .tag)

/-- Reads the characters of a tag, of which there has to be one at least. -/
def readUri : (fuel : Nat) → Cursor → List Char → Except ReadError (String × Cursor)
  | 0, _, _ => .error (.malformed .tag)
  | fuel + 1, c, read =>
    if c.peek == '%' then do
      let (bytes, c) ← uriEscapes (c.rest.length + 1) c []
      -- adjacent escapes are the bytes of one text
      match Text.decodeUtf8 bytes with
      | .ok chars => readUri fuel c (read ++ chars)
      | .error _ => .error (.malformed .tag)
    else if isUriChar c.peek then readUri fuel c.next (read ++ [c.peek])
    else if read.isEmpty then .error (.malformed .tag)
    else .ok (String.ofList read, c)

/-- Reads a tag handle: an exclamation mark, or a name between two of them. -/
def readHandle (c : Cursor) : Except ReadError (String × Cursor) :=
  if c.peek != '!' then .error (.malformed .tag)
  else if c.peekAt 1 == ' ' then .ok ("!", c.next)
  else
    let name := c.next.span isNameChar
    if c.peekAt (name.length + 1) == '!' then
      .ok (String.ofList ('!' :: name ++ ['!']), c.advance (name.length + 2))
    else .error (.malformed .tag)

def readVersionNumber (c : Cursor) : Except ReadError (Nat × Cursor) :=
  let digits := c.span Char.isDigit
  if digits.isEmpty then .error (.malformed .directive)
  else .ok (digits.foldl (fun n d => 10 * n + (d.toNat - '0'.toNat)) 0, c.advance digits.length)

/-- The rest of a directive's line: at most a comment. -/
def endDirective (c : Cursor) : Except ReadError Cursor :=
  let c := (c.skip (· == ' ')).skipComment
  if endsLine c.peek then .ok c.skipLineBreak else .error (.malformed .directive)

/-- Reads a directive; the cursor stands at the percent sign. -/
def readDirective (c : Cursor) : Except ReadError (Directive × Cursor) := do
  let c := c.next
  let name := c.span isNameChar
  let c := c.advance name.length
  let ends (c : Cursor) : Bool := c.peek == ' ' || endsLine c.peek
  if name.isEmpty || !ends c then .error (.malformed .directive)
  else
    match String.ofList name with
    | "YAML" =>
      let (major, c) ← readVersionNumber (c.skip (· == ' '))
      if c.peek != '.' then .error (.malformed .directive)
      else
        let (minor, c) ← readVersionNumber c.next
        if !ends c then .error (.malformed .directive)
        else return (.version major minor, ← endDirective c)
    | "TAG" =>
      let (handle, c) ← readHandle (c.skip (· == ' '))
      if c.peek != ' ' then .error (.malformed .directive)
      else
        let c := c.skip (· == ' ')
        let (expansion, c) ← readUri (c.rest.length + 1) c []
        if !ends c then .error (.malformed .directive)
        else return (.handle handle expansion, ← endDirective c)
    | _ => return (.other, ← endDirective (c.skip fun char => !endsLine char))

/-- Reads the name of an anchor or an alias; the cursor stands at the indicator. -/
def readName (c : Cursor) : Except ReadError (String × Cursor) :=
  let c := c.next
  let name := c.span isNameChar
  let c := c.advance name.length
  if name.isEmpty || !(separates c.peek || "?:,]\x7d%@`".toList.contains c.peek) then
    .error (.malformed .name)
  else .ok (String.ofList name, c)

/-- Reads a tag: one in angle brackets, a single exclamation mark, or a handle and a suffix. -/
def readTag (c : Cursor) : Except ReadError (Token × Cursor) := do
  let (tag, c) ←
    if c.peekAt 1 == '<' then do
      let c := c.advance 2
      let (uri, c) ← readUri (c.rest.length + 1) c []
      if c.peek == '>' then pure (Token.tag none uri, c.next) else .error (.malformed .tag)
    else if separates (c.peekAt 1) then pure (Token.tag none "!", c.next)
    else do
      -- a second mark anywhere in the word makes a named handle of what stands in front of it
      let word := c.next.span fun char => !(char == ' ' || endsLine char)
      let (handle, c) ← if word.contains '!' then readHandle c else pure ("!", c.next)
      let (suffix, c) ← readUri (c.rest.length + 1) c []
      pure (Token.tag (some handle) suffix, c)
  if c.peek == ' ' || endsLine c.peek then return (tag, c) else .error (.malformed .tag)

/-! ## Tokens -/

def keyedToken (l : Lexer) (read : Cursor → Except ReadError (Token × Cursor)) :
    Except ReadError Lexer := do
  let l ← l.saveKey
  let (token, cursor) ← read l.cursor
  return { l with cursor, keyAllowed := false }.emit token

/-- Ends all open blocks in front of a token of the whole stream. -/
def endBlocks (l : Lexer) : Except ReadError Lexer := do
  let l ← (l.unwind (-1)).dropKey
  return { l with keyAllowed := false }

def openFlow (l : Lexer) (token : Token) : Except ReadError Lexer := do
  let l ← l.saveKey
  return ({ l with depth := l.depth + 1, keyAllowed := true }.advance 1).emit token

def closeFlow (l : Lexer) (token : Token) : Except ReadError Lexer := do
  let l ← l.dropKey
  if l.depth = 0 then .error (.malformed .arrangement)
  else return ({ l with depth := l.depth - 1, keyAllowed := false }.advance 1).emit token

def flowEntry (l : Lexer) : Except ReadError Lexer := do
  let l ← { l with keyAllowed := true }.dropKey
  return (l.advance 1).emit .flowEntry

def blockEntry (l : Lexer) : Except ReadError Lexer := do
  if !l.inFlow && !l.keyAllowed then .error (.malformed .indentation)
  let l := if l.inFlow then l else l.openBlock .blockSequenceStart
  let l ← { l with keyAllowed := true }.dropKey
  return (l.advance 1).emit .blockEntry

def explicitKey (l : Lexer) : Except ReadError Lexer := do
  if !l.inFlow && !l.keyAllowed then .error (.malformed .indentation)
  let l := if l.inFlow then l else l.openBlock .blockMappingStart
  let l ← { l with keyAllowed := !l.inFlow }.dropKey
  return (l.advance 1).emit .key

/-- Reads a colon. What stands where a key may have started becomes the key; without such a place,
the colon belongs to an explicit key. -/
def value (l : Lexer) : Except ReadError Lexer :=
  match l.keyStart? with
  | some key =>
    let l := l.forgetKey.insertToken key.tokensBefore .key
    -- the first key of a mapping opens it, in front of the key that was just put there
    let l :=
      if !l.inFlow && l.isDeeper key.column then
        (l.deepen key.column).insertToken key.tokensBefore .blockMappingStart
      else l
    .ok (({ l with keyAllowed := false }.advance 1).emit .value)
  | none => do
    if !l.inFlow && !l.keyAllowed then .error (.malformed .indentation)
    let l := if l.inFlow then l else l.openBlock .blockMappingStart
    let l ← { l with keyAllowed := !l.inFlow }.dropKey
    return (l.advance 1).emit .value

def blockScalar (l : Lexer) (folded : Bool) : Except ReadError Lexer := do
  -- a block scalar is never a key, and the line behind it starts afresh
  let l ← { l with keyAllowed := true }.dropKey
  let (text, cursor) ← readBlock folded l.indent l.cursor.next
  return { l with cursor }.emit (.scalar (String.ofList text) false)

def quotedScalar (l : Lexer) (double : Bool) : Except ReadError Lexer :=
  l.keyedToken fun c => do
    let (text, c) ← readQuoted double (c.rest.length + 1) c.next []
    return (.scalar (String.ofList text) false, c)

/-- Reads a plain scalar. A key may follow when it ended with its line. -/
def plainScalar (l : Lexer) : Except ReadError Lexer := do
  let l ← l.saveKey
  let (text, newLine, cursor) :=
    readPlain l.inFlow (l.indent + 1) (l.cursor.rest.length + 1) l.cursor [] [] false
  return { l with cursor, keyAllowed := newLine }.emit (.scalar (String.ofList text) true)

/-- Whether a plain scalar starts at the cursor. -/
def startsPlain (l : Lexer) : Bool :=
  let c := l.cursor.peek
  let indicators := "-?:,[]\x7b\x7d#&*!|>'\"%@`".toList
  !(separates c || indicators.contains c)
    || (!separates (l.cursor.peekAt 1) && (c == '-' || (!l.inFlow && (c == '?' || c == ':'))))

/-- Moves to the next token. One further to the left ends the blocks that it has left. -/
def settle (l : Lexer) : Except ReadError Lexer := do
  let l ← (skipToToken (l.cursor.rest.length + 1) l).dropStaleKeys
  return l.unwind l.cursor.column

/-- Reads the token at the cursor, or finds the end of the text. -/
def readToken (l : Lexer) : Except ReadError Lexer := do
  let c := l.cursor
  let atStart := c.column == 0
  let aloneInBlock := l.inFlow || separates (c.peekAt 1)
  let char := c.peek
  if char == endOfText then
    let l ← l.endBlocks
    return { l with keyStarts := [] }.emit .streamEnd
  else if atStart && char == '%' then
    let l ← l.endBlocks
    let (directive, cursor) ← readDirective l.cursor
    return { l with cursor }.emit (.directive directive)
  else if atStart && c.atMarks '-' then return ((← l.endBlocks).advance 3).emit .documentStart
  else if atStart && c.atMarks '.' then return ((← l.endBlocks).advance 3).emit .documentEnd
  else if char == '[' then l.openFlow .flowSequenceStart
  else if char == '\x7b' then l.openFlow .flowMappingStart
  else if char == ']' then l.closeFlow .flowSequenceEnd
  else if char == '\x7d' then l.closeFlow .flowMappingEnd
  else if char == ',' then l.flowEntry
  else if char == '-' && separates (c.peekAt 1) then l.blockEntry
  else if char == '?' && aloneInBlock then l.explicitKey
  else if char == ':' && aloneInBlock then l.value
  else if char == '*' then
    l.keyedToken fun c => do
      let (name, c) ← readName c
      return (.alias name, c)
  else if char == '&' then
    l.keyedToken fun c => do
      let (name, c) ← readName c
      return (.anchor name, c)
  else if char == '!' then l.keyedToken readTag
  else if char == '|' && !l.inFlow then l.blockScalar false
  else if char == '>' && !l.inFlow then l.blockScalar true
  else if char == '\'' then l.quotedScalar false
  else if char == '"' then l.quotedScalar true
  else if l.startsPlain then l.plainScalar
  else .error (.malformed .character)

def step (l : Lexer) : Except ReadError Lexer := do (← l.settle).readToken

def run : (fuel : Nat) → Lexer → Except ReadError (List Token)
  | 0, _ => .error (.malformed .token)
  | fuel + 1, l => do
    let l ← l.step
    match l.tokens with
    | .streamEnd :: _ => return l.tokens.reverse
    | _ => run fuel l

end Lexer

/-- The tokens of a text. Every token but the last one takes a character of it. -/
def tokens (text : List Char) : Except ReadError (List Token) :=
  if text.all isAllowed then (Lexer.start text).run (text.length + 2)
  else .error (.malformed .character)

end FormSchema.Yaml
