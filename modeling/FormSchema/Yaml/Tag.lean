import FormSchema.Yaml.Timestamp

/-!
# FormSchema — YAML tags

What kind of value a node stands for. A plain scalar has no tag of its own; its form tells the kind,
and whatever has no special form is text.
-/

namespace FormSchema.Yaml

/-- The kinds of values, and two keys with a meaning of their own. -/
inductive Tag
  | null
  | bool
  | int
  | float
  | text
  | timestamp
  | binary
  | merge
  | value
  | sequence
  | mapping
  | set
  | orderedMap
  | pairs
  | other
  deriving DecidableEq, Repr

namespace Tag

def standardNames : String := "tag:yaml.org,2002:"

def ofName (name : String) : Tag :=
  let known : List (String × Tag) :=
    [("null", .null), ("bool", .bool), ("int", .int), ("float", .float), ("str", .text),
      ("timestamp", .timestamp), ("binary", .binary), ("merge", .merge), ("value", .value),
      ("seq", .sequence), ("map", .mapping), ("set", .set), ("omap", .orderedMap),
      ("pairs", .pairs)]
  ((known.find? fun entry => name == standardNames ++ entry.1).map (·.2)).getD .other

/-! ## The forms of plain scalars -/

/-- The words for truth values; each may also be capitalised or in capitals. -/
def flagWords : List String :=
  ["yes", "Yes", "YES", "no", "No", "NO", "true", "True", "TRUE", "false", "False", "FALSE",
    "on", "On", "ON", "off", "Off", "OFF"]

def nullWords : List String := ["~", "null", "Null", "NULL", ""]

def isRun (keep : Char → Bool) (cs : List Char) : Bool := !cs.isEmpty && cs.all keep

def isDigitOrLine (c : Char) : Bool := c.isDigit || c == '_'

def splitColons (cs : List Char) : List (List Char) := cs.splitBy fun _ c => c != ':'

/-- Whether a part behind a colon is a number below sixty. -/
def isSixtieth : List Char → Bool
  | [':', c] => c.isDigit
  | [':', c, d] => '0' ≤ c && c ≤ '5' && d.isDigit
  | _ => false

/-- Whether a text is a whole number in base sixty, with a colon at least. -/
def isSexagesimal (leads : Char → Bool) (cs : List Char) : Bool :=
  match splitColons cs with
  | (c :: rest) :: part :: parts =>
    leads c && rest.all isDigitOrLine && (part :: parts).all isSixtieth
  | _ => false

/-- Whether a text has the form of an integer. -/
def isInteger (cs : List Char) : Bool :=
  match (Number.splitSign cs).2 with
  | '0' :: 'b' :: rest => isRun (fun c => c == '0' || c == '1' || c == '_') rest
  | '0' :: 'x' :: rest => isRun (fun c => isHex c || c == '_') rest
  | '0' :: rest => rest.all fun c => ('0' ≤ c && c ≤ '7') || c == '_'
  | body =>
    match body with
    | c :: rest => (isLeading c && rest.all isDigitOrLine) || isSexagesimal isLeading body
    | [] => false
where
  /-- Whether a character is a hexadecimal digit. -/
  isHex (c : Char) : Bool := c.isDigit || ('a' ≤ c && c ≤ 'f') || ('A' ≤ c && c ≤ 'F')
  /-- Whether a number without a base may start with a character. -/
  isLeading (c : Char) : Bool := '1' ≤ c && c ≤ '9'

/-- Whether a text is a signed exponent, or nothing. -/
def isExponent : List Char → Bool
  | [] => true
  | e :: sign :: digits =>
    (e == 'e' || e == 'E') && (sign == '+' || sign == '-') && isRun Char.isDigit digits
  | _ => false

/-- Whether a text has the form of a number with a point. -/
def isFloat (cs : List Char) : Bool :=
  let body := (Number.splitSign cs).2
  let signed := body.length != cs.length
  let whole := body.takeWhile (· != '.')
  match body.dropWhile (· != '.') with
  | '.' :: fraction =>
    let rest := fraction.dropWhile isDigitOrLine
    if whole.isEmpty then
      String.ofList fraction ∈ ["inf", "Inf", "INF"]
        || (!signed && String.ofList fraction ∈ ["nan", "NaN", "NAN"])
        || (!signed && fraction.head?.any Char.isDigit && isExponent rest)
    else
      (whole.head?.any Char.isDigit && whole.all isDigitOrLine && isExponent rest)
        || (rest.isEmpty && isSexagesimal Char.isDigit whole)
  | _ => false

def ofPlain (text : String) : Tag :=
  let cs := text.toList
  if text ∈ nullWords then .null
  else if text ∈ flagWords then .bool
  else if isFloat cs then .float
  else if isInteger cs then .int
  else if Timestamp.isWritten text then .timestamp
  else if text == "<<" then .merge
  else if text == "=" then .value
  else .text

end Tag

end FormSchema.Yaml
