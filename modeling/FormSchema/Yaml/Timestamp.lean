import FormSchema.Number.Literal
import FormSchema.Yaml.Error

/-!
# FormSchema — YAML timestamps

Dates, and dates with a time of day and an offset. A text may have the form of a timestamp and yet
name a day or a time that does not exist.
-/

namespace FormSchema.Yaml

/-- A time of day; the offset is in minutes, if one is given. -/
structure TimeOfDay where
  hour : Nat
  minute : Nat
  second : Nat
  offset : Option Int
  deriving DecidableEq, Repr

/-- A date, with a time of day or without. -/
structure Timestamp where
  year : Nat
  month : Nat
  day : Nat
  time : Option TimeOfDay
  deriving DecidableEq, Repr

namespace Timestamp

/-- Reads between `least` and `most` decimal digits, as many as there are. -/
def takeDigits? (least most : Nat) (cs : List Char) : Option (Nat × List Char) :=
  let digits := (cs.take most).takeWhile Char.isDigit
  if least ≤ digits.length then some (Number.digitsValue digits, cs.drop digits.length) else none

def takeChar? (c : Char) : List Char → Option (List Char)
  | d :: rest => if d = c then some rest else none
  | [] => none

def takeSeparator? : List Char → Option (List Char)
  | 'T' :: rest => some rest
  | 't' :: rest => some rest
  | c :: rest =>
    if c = ' ' ∨ c = '\t' then some (rest.dropWhile fun c => c = ' ' ∨ c = '\t') else none
  | [] => none

/-- Reads the offset at the end of a time: none, `Z`, or a sign with hours and minutes. -/
def readOffset? : List Char → Option (Option Int)
  | [] => some none
  | cs =>
    match cs.dropWhile fun c => c = ' ' ∨ c = '\t' with
    | ['Z'] => some (some 0)
    | sign :: rest => do
      let negative ← if sign = '-' then some true else if sign = '+' then some false else none
      let (hours, rest) ← takeDigits? 1 2 rest
      let minutes ←
        match rest with
        | [] => some 0
        | ':' :: rest => do
          let (minutes, rest) ← takeDigits? 2 2 rest
          if rest.isEmpty then some minutes else none
        | _ => none
      return some (Number.signedInt negative (60 * hours + minutes))
    | [] => none

def readTime? (cs : List Char) : Option TimeOfDay := do
  let (hour, rest) ← takeDigits? 1 2 cs
  let (minute, rest) ← takeDigits? 2 2 (← takeChar? ':' rest)
  let (second, rest) ← takeDigits? 2 2 (← takeChar? ':' rest)
  let rest := match rest with
    | '.' :: rest => rest.dropWhile Char.isDigit
    | rest => rest
  return ⟨hour, minute, second, ← readOffset? rest⟩

def read? (text : String) : Option Timestamp := do
  let (year, rest) ← takeDigits? 4 4 text.toList
  let (month, rest) ← takeDigits? 1 2 (← takeChar? '-' rest)
  let (day, rest) ← takeDigits? 1 2 (← takeChar? '-' rest)
  if rest.isEmpty then return ⟨year, month, day, none⟩
  return ⟨year, month, day, some (← readTime? (← takeSeparator? rest))⟩

/-- Whether a plain scalar is a timestamp. A date alone has to have all its digits. -/
def isWritten (text : String) : Bool :=
  match read? text with
  | some ⟨_, _, _, none⟩ => text.length = 10
  | some _ => true
  | none => false

/-- Whether a year has a leap day. -/
def isLeapYear (year : Nat) : Bool := year % 4 = 0 && (year % 100 ≠ 0 || year % 400 = 0)

def daysIn (year month : Nat) : Nat :=
  if month = 2 then if isLeapYear year then 29 else 28
  else if month ∈ [4, 6, 9, 11] then 30
  else 31

/-- The first part of a timestamp that does not exist. An offset is looked at first, and it is
smaller than a day. -/
def fault? (t : Timestamp) : Option ScalarFault :=
  let offset := (t.time.bind (·.offset)).getD 0
  if 1440 ≤ offset.natAbs then some (.offset offset)
  else if t.year = 0 then some .year
  else if t.month = 0 ∨ 12 < t.month then some .month
  else if t.day = 0 ∨ daysIn t.year t.month < t.day then some .day
  else
    match t.time with
    | some time =>
      if 23 < time.hour then some .hour
      else if 59 < time.minute then some .minute
      else if 59 < time.second then some .second
      else none
    | none => none

end Timestamp

end FormSchema.Yaml
