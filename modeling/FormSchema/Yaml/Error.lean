import FormSchema.Text.Quoted

/-!
# FormSchema — why a YAML document cannot be read

A text may be no YAML at all, and a scalar may not have the form of the values that its tag
announces. The first is one kind of error whatever the reason; the second names the scalar's fault.
-/

namespace FormSchema.Yaml

/-- Why a text is not YAML. -/
inductive Malformed
  | character
  | directive
  | token
  | simpleKey
  | indentation
  | name
  | tag
  | escape
  | blockHeader
  | openScalar
  | arrangement
  | alias
  | documents
  | unknownTag
  | key
  | merge
  | binary
  deriving DecidableEq, Repr

inductive ScalarFault
  | integer (base : Nat) (text : String)
  | number (text : String)
  | noDigits
  | flag (word : String)
  | timestamp
  | year
  | month
  | day
  | hour
  | minute
  | second
  | offset (minutes : Int)
  deriving DecidableEq, Repr

/-- A time span in days and seconds, of which the seconds are never negative. -/
def spanText (minutes : Int) : String :=
  let days := Int.fdiv minutes 1440
  let seconds := 60 * Int.fmod minutes 1440
  let parts := (if days = 0 then [] else [s!"days={days}"])
    ++ (if seconds = 0 then [] else [s!"seconds={seconds}"])
  "datetime.timedelta(" ++ ", ".intercalate parts ++ ")"

def ScalarFault.message : ScalarFault → String
  | .integer base text => s!"invalid literal for int() with base {base}: {Text.quoted text}"
  | .number text => s!"could not convert string to float: {Text.quoted text}"
  | .noDigits => "string index out of range"
  | .flag word => Text.quoted word
  | .timestamp => "'NoneType' object has no attribute 'groupdict'"
  | .year => "year 0 is out of range"
  | .month => "month must be in 1..12"
  | .day => "day is out of range for month"
  | .hour => "hour must be in 0..23"
  | .minute => "minute must be in 0..59"
  | .second => "second must be in 0..59"
  | .offset minutes =>
    "offset must be a timedelta strictly between -timedelta(hours=24) and timedelta(hours=24), not "
      ++ spanText minutes ++ "."

/-- Why a document cannot be read: it is malformed, it asks for a character that does not exist, or
one of its scalars is no value of its kind. -/
inductive ReadError
  | malformed (reason : Malformed)
  | noCharacter (code : Nat)
  | scalar (fault : ScalarFault)
  deriving DecidableEq, Repr

/-- The wording of an error. A malformed document is described by the place it comes from alone. -/
def ReadError.message (source : String) : ReadError → String
  | .malformed _ => s!"Invalid YAML in {source}:"
  | .noCharacter code =>
    if code < 0x80000000 then "chr() arg not in range(0x110000)"
    else "Python int too large to convert to C int"
  | .scalar fault => fault.message

end FormSchema.Yaml
