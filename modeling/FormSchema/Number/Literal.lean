import FormSchema.Text.Blank
import FormSchema.Text.Digit

/-!
# FormSchema — numbers written as text

Three notations are read: integers and numbers as they may stand in a declaration, and integers as
settings give them. All allow surrounding blanks, a sign and single underscores between digits.
-/

namespace FormSchema.Number

def infinity : Float := Float.ofBits 0x7ff0000000000000

def notANumber : Float := Float.ofBits 0x7ff8000000000000

/-- The double nearest to `digits * 10 ^ exponent`. Decimals outside every double's range are
settled by their size, so that no huge power is computed. -/
def ofDecimal (digits : Nat) (exponent : Int) : Float :=
  if digits = 0 then 0.0
  else
    -- one more than the exponent of the leading digit
    let lead : Int := ((Nat.toDigits 10 digits).length : Int) + exponent
    if lead > 400 then infinity
    else if lead < -400 then 0.0
    else Float.ofScientific digits (exponent < 0) exponent.natAbs

/-- Splits a sign off; true stands for minus. -/
def splitSign : List Char → Bool × List Char
  | '-' :: rest => (true, rest)
  | '+' :: rest => (false, rest)
  | cs => (false, cs)

/-- Reads decimal digits that may be separated by single underscores; `digit` says which characters
are digits. Empty texts and underscores at an end are refused. -/
def readDigits? (digit : Char → Option Nat) (cs : List Char) : Option Nat :=
  go 0 false cs
where
  /-- `afterDigit` tells whether the text so far ends in a digit. -/
  go (value : Nat) (afterDigit : Bool) : List Char → Option Nat
    | [] => if afterDigit then some value else none
    | '_' :: rest => if afterDigit then goDigit value rest else none
    | c :: rest => (digit c).bind fun d => go (10 * value + d) true rest
  /-- Right behind an underscore: a digit has to follow. -/
  goDigit (value : Nat) : List Char → Option Nat
    | [] => none
    | c :: rest => (digit c).bind fun d => go (10 * value + d) true rest

def asciiDigit? (c : Char) : Option Nat :=
  if '0' ≤ c ∧ c ≤ '9' then some (c.toNat - '0'.toNat) else none

def signedInt (negative : Bool) (n : Nat) : Int := if negative then -(n : Int) else n

/-- An integer in a declaration: ASCII digits, and behind them at most a point with zeros. -/
def integerText? (s : String) : Option Int :=
  let (negative, body) := splitSign (trimBlanks s)
  let whole := body.takeWhile (· != '.')
  let fraction := body.dropWhile (· != '.')
  if fraction = [] ∨ (2 ≤ fraction.length ∧ (fraction.drop 1).all (· == '0')) then
    (readDigits? asciiDigit? whole).map (signedInt negative)
  else none
where
  /-- The characters between the blanks. -/
  trimBlanks (s : String) : List Char := Text.trimChars Text.isBlank s.toList

/-- Drops the underscores that stand between two digits; any other one is refused. -/
def dropUnderscores? (cs : List Char) : Option (List Char) :=
  go false cs
where
  /-- `afterDigit` tells whether the character before was a digit. -/
  go (afterDigit : Bool) : List Char → Option (List Char)
    | [] => some []
    | '_' :: rest =>
      if afterDigit && (rest.head?.any fun c => (asciiDigit? c).isSome) then go false rest
      else none
    | c :: rest => (go (asciiDigit? c).isSome rest).map (c :: ·)

def digitsValue (cs : List Char) : Nat :=
  cs.foldl (fun n c => 10 * n + (asciiDigit? c).getD 0) 0

/-- An unsigned decimal with an optional point and exponent. -/
def unsignedDecimal? (cs : List Char) : Option Float :=
  let isDigit := fun c => (asciiDigit? c).isSome
  let whole := cs.takeWhile isDigit
  let (fraction, rest) := match cs.dropWhile isDigit with
    | '.' :: rest => (rest.takeWhile isDigit, rest.dropWhile isDigit)
    | rest => ([], rest)
  if whole = [] ∧ fraction = [] then none
  else
    let digits := digitsValue (whole ++ fraction)
    let shift : Int := fraction.length
    match rest with
    | [] => some (ofDecimal digits (-shift))
    | e :: rest =>
      let (negative, exponent) := splitSign rest
      if (e = 'e' ∨ e = 'E') ∧ exponent ≠ [] ∧ exponent.all isDigit then
        some (ofDecimal digits (signedInt negative (digitsValue exponent) - shift))
      else none

/-- A number in a declaration: a decimal, or infinity or not-a-number by name in any case. -/
def numberText? (s : String) : Option Float := do
  let cs ← dropUnderscores? (Text.trimChars Text.isBlank s.toList)
  let (negative, body) := splitSign cs
  let word := String.ofList (body.map Char.toLower)
  let magnitude ←
    if word = "inf" ∨ word = "infinity" then some infinity
    else if word = "nan" then some notANumber
    else unsignedDecimal? body
  return if negative then -magnitude else magnitude

/-- An integer in a setting: decimal digits of any script. -/
def settingInteger? (s : String) : Option Int :=
  let (negative, body) := splitSign (Text.trimChars Text.isBlank s.toList)
  (readDigits? Text.digitValue? body).map (signedInt negative)

end FormSchema.Number
