import FormSchema.Json
import FormSchema.Number.Literal

/-!
# FormSchema — reading JSON text

JSON as RFC 8259 has it, with `NaN`, `Infinity` and `-Infinity` as further numbers. A text that is
not JSON is refused with what was expected and where: line and column from one, the offset in
characters from zero.
-/

namespace FormSchema.Json

/-- Why a text is not JSON. -/
inductive TextFault
  | byteOrderMark
  | value
  | key
  | colon
  | comma
  | trailing
  | openString
  | controlCharacter
  | escapeCharacter
  | unicodeEscape
  deriving DecidableEq, Repr

def TextFault.message : TextFault → String
  | .byteOrderMark => "Unexpected UTF-8 BOM (decode using utf-8-sig)"
  | .value => "Expecting value"
  | .key => "Expecting property name enclosed in double quotes"
  | .colon => "Expecting ':' delimiter"
  | .comma => "Expecting ',' delimiter"
  | .trailing => "Extra data"
  | .openString => "Unterminated string starting at"
  | .controlCharacter => "Invalid control character at"
  | .escapeCharacter => "Invalid \\escape"
  | .unicodeEscape => "Invalid \\uXXXX escape"

structure TextError where
  fault : TextFault
  line : Nat
  column : Nat
  offset : Nat
  deriving DecidableEq, Repr

/-- The place of an offset: lines end at a line feed. -/
def TextError.locate (text : List Char) (fault : TextFault) (offset : Nat) : TextError :=
  let before := text.take offset
  { fault
    line := before.count '\n' + 1
    column := (before.reverse.takeWhile (· != '\n')).length + 1
    offset }

def TextError.message (e : TextError) : String :=
  s!"{e.fault.message}: line {e.line} column {e.column} (char {e.offset})"

structure Cursor where
  rest : List Char
  offset : Nat

def Cursor.advance (c : Cursor) (n : Nat) : Cursor := ⟨c.rest.drop n, c.offset + n⟩

def isJsonBlank (c : Char) : Bool := c == ' ' || c == '\t' || c == '\n' || c == '\r'

def Cursor.skipBlanks (c : Cursor) : Cursor := c.advance (c.rest.takeWhile isJsonBlank).length

abbrev FaultAt := TextFault × Nat

def hexValue? (c : Char) : Option Nat :=
  if '0' ≤ c ∧ c ≤ '9' then some (c.toNat - '0'.toNat)
  else if 'a' ≤ c ∧ c ≤ 'f' then some (c.toNat - 'a'.toNat + 10)
  else if 'A' ≤ c ∧ c ≤ 'F' then some (c.toNat - 'A'.toNat + 10)
  else none

/-- The UTF-16 unit that four hexadecimal digits name; another character has to follow them. -/
def unit? : List Char → Option Nat
  | a :: b :: c :: d :: _ :: _ => do
    let a ← hexValue? a
    let b ← hexValue? b
    let c ← hexValue? c
    let d ← hexValue? d
    return ((a * 16 + b) * 16 + c) * 16 + d
  | _ => none

def simpleEscape? : Char → Option Char
  | '"' => some '"'
  | '\\' => some '\\'
  | '/' => some '/'
  | 'b' => some '\x08'
  | 'f' => some '\x0c'
  | 'n' => some '\n'
  | 'r' => some '\r'
  | 't' => some '\t'
  | _ => none

/-- Reads the escape whose digits start behind the `u` at `offset - 1`. A high surrogate takes the
low one of a directly following escape with it; one that stands alone becomes U+FFFD. Gives the
character and the number of characters read. -/
def unicodeEscape (rest : List Char) (offset : Nat) : Except FaultAt (Char × Nat) :=
  match unit? rest with
  | none => .error (.unicodeEscape, offset - 1)
  | some high =>
    let alone := (Char.ofNat (if 0xd800 ≤ high ∧ high < 0xe000 then 0xfffd else high), 4)
    match rest.drop 4 with
    | '\\' :: 'u' :: more =>
      -- a second escape is looked at only behind a high surrogate
      if 0xd800 ≤ high ∧ high < 0xdc00 ∧ 5 ≤ more.length then
        match unit? more with
        | none => .error (.unicodeEscape, offset + 5)
        | some low =>
          if 0xdc00 ≤ low ∧ low < 0xe000 then
            .ok (Char.ofNat (0x10000 + (high - 0xd800) * 0x400 + (low - 0xdc00)), 10)
          else .ok alone
      else .ok alone
    | _ => .ok alone

/-- Reads the characters of a string whose opening quote stands at `start`. -/
def readString (start : Nat) : (fuel : Nat) → Cursor → List Char → Except FaultAt (String × Cursor)
  | 0, c, _ => .error (.openString, c.offset)
  | fuel + 1, c, read =>
    match c.rest with
    | [] => .error (.openString, start)
    | '"' :: _ => .ok (String.ofList read.reverse, c.advance 1)
    | '\\' :: [] => .error (.openString, start)
    | '\\' :: 'u' :: rest =>
      match unicodeEscape rest (c.offset + 2) with
      | .error e => .error e
      | .ok (char, n) => readString start fuel (c.advance (n + 2)) (char :: read)
    | '\\' :: e :: _ =>
      match simpleEscape? e with
      | none => .error (.escapeCharacter, c.offset)
      | some char => readString start fuel (c.advance 2) (char :: read)
    | char :: _ =>
      if char.toNat < 0x20 then .error (.controlCharacter, c.offset)
      else readString start fuel (c.advance 1) (char :: read)

def leadingDigits (cs : List Char) : List Char :=
  cs.takeWhile fun c => (Number.asciiDigit? c).isSome

/-- The fraction at the front of a text: a point with at least one digit. -/
def leadingFraction : List Char → List Char
  | '.' :: rest => leadingDigits rest
  | _ => []

/-- The exponent at the front of a text: its length and value. -/
def leadingExponent? : List Char → Option (Nat × Int)
  | e :: rest =>
    let (negative, body) := Number.splitSign rest
    let digits := leadingDigits body
    if (e = 'e' ∨ e = 'E') ∧ digits ≠ [] then
      some (1 + (rest.length - body.length) + digits.length,
        Number.signedInt negative (Number.digitsValue digits))
    else none
  | [] => none

/-- Reads the longest number at the front of a text. A fraction or an exponent makes it a
floating-point number. -/
def readNumber (c : Cursor) : Option (Json × Cursor) :=
  let (negative, body) := match c.rest with
    | '-' :: rest => (true, rest)
    | rest => (false, rest)
  -- no digit follows a leading zero
  let whole := match body with
    | '0' :: _ => ['0']
    | _ => leadingDigits body
  if whole = [] then none
  else
    let signLength := if negative then 1 else 0
    let behind := body.drop whole.length
    let fraction := leadingFraction behind
    let fractionLength := if fraction = [] then 0 else fraction.length + 1
    let exponent := leadingExponent? (behind.drop fractionLength)
    let length := signLength + whole.length + fractionLength + (exponent.map (·.1)).getD 0
    let value :=
      if fraction = [] ∧ exponent.isNone then
        .int (Number.signedInt negative (Number.digitsValue whole))
      else
        let magnitude := Number.ofDecimal (Number.digitsValue (whole ++ fraction))
          ((exponent.map (·.2)).getD 0 - fraction.length)
        .float (if negative then -magnitude else magnitude)
    some (value, c.advance length)

def words : List (List Char × Json) :=
  [("null".toList, .null), ("true".toList, .bool true), ("false".toList, .bool false),
    ("NaN".toList, .float Number.notANumber), ("Infinity".toList, .float Number.infinity),
    ("-Infinity".toList, .float (-Number.infinity))]

mutual

/-- Reads the value that starts right at the cursor. -/
def readValue : (fuel : Nat) → Cursor → Except FaultAt (Json × Cursor)
  | 0, c => .error (.value, c.offset)
  | fuel + 1, c =>
    match c.rest with
    | '"' :: rest => do
      let (s, c') ← readString c.offset (rest.length + 1) (c.advance 1) []
      return (.str s, c')
    | '[' :: _ =>
      let c' := (c.advance 1).skipBlanks
      match c'.rest with
      | ']' :: _ => .ok (.arr [], c'.advance 1)
      | _ => readItems fuel c' []
    | '{' :: _ =>
      let c' := (c.advance 1).skipBlanks
      match c'.rest with
      | '}' :: _ => .ok (.obj [], c'.advance 1)
      | _ => readMembers fuel c' []
    | rest =>
      match words.find? fun word => word.1.isPrefixOf rest with
      | some (word, value) => .ok (value, c.advance word.length)
      | none =>
        match readNumber c with
        | some result => .ok result
        | none => .error (.value, c.offset)

/-- Reads the items of a list up to its closing bracket. -/
def readItems : (fuel : Nat) → Cursor → List Json → Except FaultAt (Json × Cursor)
  | 0, c, _ => .error (.value, c.offset)
  | fuel + 1, c, read => do
    let (item, c) ← readValue fuel c
    let c := c.skipBlanks
    match c.rest with
    | ']' :: _ => .ok (.arr (item :: read).reverse, c.advance 1)
    | ',' :: _ => readItems fuel (c.advance 1).skipBlanks (item :: read)
    | _ => .error (.comma, c.offset)

/-- Reads the members of an object up to its closing brace. -/
def readMembers : (fuel : Nat) → Cursor → List (String × Json) → Except FaultAt (Json × Cursor)
  | 0, c, _ => .error (.key, c.offset)
  | fuel + 1, c, read => do
    let '"' :: rest := c.rest | .error (.key, c.offset)
    let (key, c) ← readString c.offset (rest.length + 1) (c.advance 1) []
    let c := c.skipBlanks
    let ':' :: _ := c.rest | .error (.colon, c.offset)
    let (value, c) ← readValue fuel (c.advance 1).skipBlanks
    let c := c.skipBlanks
    match c.rest with
    | '}' :: _ => .ok (.ofMembers ((key, value) :: read).reverse, c.advance 1)
    | ',' :: _ => readMembers fuel (c.advance 1).skipBlanks ((key, value) :: read)
    | _ => .error (.comma, c.offset)

end

/-- Reads a whole text. Every step consumes a character, so the text's length bounds them. -/
def parse (text : String) : Except TextError Json :=
  let chars := text.toList
  let fail := fun (e : FaultAt) => TextError.locate chars e.1 e.2
  if chars.head? = some '\uFEFF' then .error (fail (.byteOrderMark, 0))
  else
    match readValue (2 * chars.length + 2) (Cursor.mk chars 0).skipBlanks with
    | .error e => .error (fail e)
    | .ok (value, c) =>
      let c := c.skipBlanks
      if c.rest.isEmpty then .ok value else .error (fail (.trailing, c.offset))

end FormSchema.Json
