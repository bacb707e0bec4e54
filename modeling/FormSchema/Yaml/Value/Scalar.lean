import FormSchema.Text.Case
import FormSchema.Yaml.Tag

/-!
# FormSchema — reading YAML scalars

Integers in four bases and in base sixty, numbers with a point, truth values and binary data. The
text of a plain scalar has the form of its kind already; one that was tagged may be anything.
-/

namespace FormSchema.Yaml

/-- The value of a digit in any base up to sixteen. -/
def digitIn? (base : Nat) (c : Char) : Option Nat :=
  let value :=
    if 'a' ≤ c ∧ c ≤ 'f' then some (c.toNat - 'a'.toNat + 10)
    else if 'A' ≤ c ∧ c ≤ 'F' then some (c.toNat - 'A'.toNat + 10)
    else Number.asciiDigit? c
  value.filter (· < base)

/-- The number that digits write in a base; there has to be one at least. -/
def digitsInBase? (base : Nat) (cs : List Char) : Option Nat :=
  if cs.isEmpty then none
  else cs.foldl (fun n c => n.bind fun n => (digitIn? base c).map (base * n + ·)) (some 0)

/-- Digits without the zero and the letter in front of them that tell their base. -/
def withoutBaseMark (base : Nat) : List Char → List Char
  | '0' :: letter :: rest =>
    let marks : List (Nat × List Char) := [(2, ['b', 'B']), (8, ['o', 'O']), (16, ['x', 'X'])]
    if letter ∈ (marks.lookup base).getD [] then rest else '0' :: letter :: rest
  | cs => cs

def readInBase (base : Nat) (cs : List Char) : Except ScalarFault Int :=
  let text := String.ofList cs
  let value :=
    if base = 10 then Number.settingInteger? text
    else
      let (negative, digits) := Number.splitSign (Text.trimChars Text.isBlank cs)
      (digitsInBase? base (withoutBaseMark base digits)).map (Number.signedInt negative)
  match value with
  | some n => .ok n
  | none => .error (.integer base text)

def partsBetweenColons (cs : List Char) : List (List Char) :=
  (Tag.splitColons (':' :: cs)).map (·.drop 1)

def readSixtieths (cs : List Char) : Except ScalarFault Int := do
  let parts ← (partsBetweenColons cs).mapM (readInBase 10)
  return parts.foldl (fun n part => 60 * n + part) 0

def withoutLines (text : String) : List Char := text.toList.filter (· != '_')

/-- Reads an integer: `0b`, `0x` and a leading zero tell the base. -/
def readInteger (text : String) : Except ScalarFault Int :=
  let cs := withoutLines text
  let (negative, body) := Number.splitSign cs
  let magnitude : Except ScalarFault Int :=
    match body with
    | [] => .error .noDigits
    | ['0'] => .ok 0
    | '0' :: 'b' :: rest => readInBase 2 rest
    | '0' :: 'x' :: rest => readInBase 16 rest
    | '0' :: _ => readInBase 8 body
    | _ => if ':' ∈ body then readSixtieths body else readInBase 10 body
  magnitude.map fun n => if negative then -n else n

def readDecimal (cs : List Char) : Except ScalarFault Float :=
  let text := String.ofList cs
  match Number.numberText? text with
  | some x => .ok x
  | none => .error (.number text)

/-- Reads a number with a point, or the name of a number that has no digits. -/
def readFloat (text : String) : Except ScalarFault Float :=
  let cs := (Text.lower (String.ofList (withoutLines text))).toList
  let (negative, body) := Number.splitSign cs
  let magnitude : Except ScalarFault Float :=
    if cs.isEmpty then .error .noDigits
    else if body == ".inf".toList then .ok Number.infinity
    else if body == ".nan".toList then .ok Number.notANumber
    else if ':' ∈ body then do
      let parts ← (partsBetweenColons body).mapM readDecimal
      pure (sixtieths parts.reverse 1.0 0.0)
    else readDecimal body
  magnitude.map fun x => if negative then -x else x
where
  /-- The sum of parts, the last one first, each sixty times as heavy as the one before. -/
  sixtieths : List Float → (weight sum : Float) → Float
    | [], _, sum => sum
    | part :: rest, weight, sum => sixtieths rest (60.0 * weight) (sum + part * weight)

def readFlag (text : String) : Except ScalarFault Bool :=
  let word := Text.lower text
  if word ∈ ["yes", "true", "on"] then .ok true
  else if word ∈ ["no", "false", "off"] then .ok false
  else .error (.flag word)

def readTimestamp (text : String) : Except ScalarFault Timestamp :=
  match Timestamp.read? text with
  | none => .error .timestamp
  | some t =>
    match t.fault? with
    | some fault => .error fault
    | none => .ok t

/-- Whether a character is a digit of base sixty-four. -/
def isBase64Digit (c : Char) : Bool := c.isAlphanum || c == '+' || c == '/'

/-- Whether a text encodes binary data in base sixty-four. Characters that have no meaning there are
passed over; the digits come in groups of four, of which the last one may be filled up with equality
signs. `digits` and `fill` count what the group at hand has so far. -/
def isBase64 (digits fill : Nat) : List Char → Bool
  | [] => digits == 0
  | c :: rest =>
    if c == '=' then
      if 2 ≤ digits && 4 ≤ digits + fill + 1 then true
      else isBase64 digits (if 2 ≤ digits then fill + 1 else fill) rest
    else if isBase64Digit c then isBase64 ((digits + 1) % 4) 0 rest
    else isBase64 digits fill rest

/-- Whether a text encodes binary data. -/
def isBinary (text : String) : Bool :=
  text.toList.all (fun c => c.toNat < 0x80) && isBase64 0 0 text.toList

end FormSchema.Yaml
