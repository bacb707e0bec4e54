/-!
# FormSchema — places in a YAML text

The characters of YAML 1.1 and a cursor that knows line and column. The end of the text is read as
the character NUL, which no text may contain.
-/

namespace FormSchema.Yaml

def isAllowed (c : Char) : Bool :=
  let n := c.toNat
  n == 0x9 || n == 0xa || n == 0xd || (0x20 ≤ n && n ≤ 0x7e) || n == 0x85
    || (0xa0 ≤ n && n ≤ 0xfffd) || 0x10000 ≤ n

def endOfText : Char := '\x00'

def isBreak (c : Char) : Bool :=
  c == '\n' || c == '\r' || c == '\x85' || c == '\u2028' || c == '\u2029'

/-- What no line contains: line breaks and the end of the text. -/
def endsLine (c : Char) : Bool := c == endOfText || isBreak c

def isBlank (c : Char) : Bool := c == ' ' || c == '\t'

def separates (c : Char) : Bool := isBlank c || endsLine c

structure Cursor where
  rest : List Char
  index : Nat
  line : Nat
  column : Nat

namespace Cursor

def start (text : List Char) : Cursor := ⟨text, 0, 0, 0⟩

def peek (c : Cursor) : Char := c.rest.headD endOfText

def peekAt (c : Cursor) (n : Nat) : Char := (c.rest[n]?).getD endOfText

/-- Moves past a character. A carriage return with a line feed behind it does not end the line by
itself, and a byte order mark takes no column. -/
def next (c : Cursor) : Cursor :=
  match c.rest with
  | [] => c
  | char :: rest =>
    if isBreak char && !(char == '\r' && rest.head? == some '\n') then
      ⟨rest, c.index + 1, c.line + 1, 0⟩
    else
      ⟨rest, c.index + 1, c.line, if char == '\uFEFF' then c.column else c.column + 1⟩

def advance (c : Cursor) : Nat → Cursor
  | 0 => c
  | n + 1 => advance c.next n

/-- The characters at the cursor that satisfy a condition. -/
def span (c : Cursor) (keep : Char → Bool) : List Char := c.rest.takeWhile keep

/-- Moves past the characters that satisfy a condition. -/
def skip (c : Cursor) (drop : Char → Bool) : Cursor := c.advance (c.span drop).length

/-- Moves past a comment, if one starts at the cursor. -/
def skipComment (c : Cursor) : Cursor :=
  if c.peek == '#' then c.skip fun char => !endsLine char else c

/-- Moves past a line break and tells what it stands for: the line and paragraph separators stay,
all others are a line feed. -/
def lineBreak? (c : Cursor) : Option (Char × Cursor) :=
  match c.rest with
  | '\r' :: '\n' :: _ => some ('\n', c.advance 2)
  | char :: _ =>
    if char == '\n' || char == '\r' || char == '\x85' then some ('\n', c.next)
    else if isBreak char then some (char, c.next)
    else none
  | [] => none

/-- Moves past a line break, if there is one. -/
def skipLineBreak (c : Cursor) : Cursor :=
  match c.lineBreak? with
  | some (_, c) => c
  | none => c

/-- Whether the three marks of a document's start or end stand at the cursor. -/
def atMarks (c : Cursor) (mark : Char) : Bool :=
  c.rest.take 3 == [mark, mark, mark] && separates (c.peekAt 3)

/-- Whether a document's start or end stands at the cursor. -/
def atDocumentMarks (c : Cursor) : Bool := c.atMarks '-' || c.atMarks '.'

end Cursor

end FormSchema.Yaml
