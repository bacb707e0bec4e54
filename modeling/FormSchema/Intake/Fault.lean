/-!
# FormSchema — faults in data

What can be wrong with a piece of data that is read into a declaration, and where it stands. All
faults of a reading are collected and reported together.
-/

namespace FormSchema.Intake

/-- A step into data: the value of a key or the item at a position. -/
inductive Step
  | key (name : String)
  | index (position : Nat)
  deriving DecidableEq, Repr

inductive Cause
  | missing
  | unknownKey
  | notText
  | emptyText
  | notAmong (words : List String)
  | notFlag
  | unreadableFlag
  | notInteger
  | unreadableInteger
  | fraction
  | integerTooLarge
  | notFinite
  | belowZero
  | notNumber
  | unreadableNumber
  | notTuple
  | notList
  | notMapping
  | notRecord (title : String)
  | untagged
  | unknownTag (shown : String) (known : List String)
  deriving DecidableEq, Repr

structure Fault where
  path : List Step
  cause : Cause
  deriving DecidableEq, Repr

/-- A fault at the place that the reading started from. -/
def Fault.here (cause : Cause) : Fault := ⟨[], cause⟩

def Fault.under (step : Step) (f : Fault) : Fault := { f with path := step :: f.path }

/-- Texts in quotes, separated by commas and a last `or`. -/
def alternatives : List String → String
  | [] => ""
  | [word] => s!"'{word}'"
  | [word, last] => s!"'{word}' or '{last}'"
  | word :: rest => s!"'{word}', " ++ alternatives rest

def Cause.code : Cause → String
  | .missing => "missing"
  | .unknownKey => "extra_forbidden"
  | .notText => "string_type"
  | .emptyText => "string_too_short"
  | .notAmong _ => "literal_error"
  | .notFlag => "bool_type"
  | .unreadableFlag => "bool_parsing"
  | .notInteger => "int_type"
  | .unreadableInteger => "int_parsing"
  | .fraction => "int_from_float"
  | .integerTooLarge => "int_parsing_size"
  | .notFinite => "finite_number"
  | .belowZero => "greater_than_equal"
  | .notNumber => "float_type"
  | .unreadableNumber => "float_parsing"
  | .notTuple => "tuple_type"
  | .notList => "list_type"
  | .notMapping => "dict_type"
  | .notRecord _ => "model_type"
  | .untagged => "union_tag_not_found"
  | .unknownTag _ _ => "union_tag_invalid"

def Cause.message : Cause → String
  | .missing => "Field required"
  | .unknownKey => "Extra inputs are not permitted"
  | .notText => "Input should be a valid string"
  | .emptyText => "String should have at least 1 character"
  | .notAmong words => "Input should be " ++ alternatives words
  | .notFlag => "Input should be a valid boolean"
  | .unreadableFlag => "Input should be a valid boolean, unable to interpret input"
  | .notInteger => "Input should be a valid integer"
  | .unreadableInteger => "Input should be a valid integer, unable to parse string as an integer"
  | .fraction => "Input should be a valid integer, got a number with a fractional part"
  | .integerTooLarge => "Unable to parse input string as an integer, exceeded maximum size"
  | .notFinite => "Input should be a finite number"
  | .belowZero => "Input should be greater than or equal to 0"
  | .notNumber => "Input should be a valid number"
  | .unreadableNumber => "Input should be a valid number, unable to parse string as a number"
  | .notTuple => "Input should be a valid tuple"
  | .notList => "Input should be a valid list"
  | .notMapping => "Input should be a valid dictionary"
  | .notRecord title => s!"Input should be a valid dictionary or instance of {title}"
  | .untagged => "Unable to extract tag using discriminator element_tag()"
  | .unknownTag shown known =>
    s!"Input tag '{shown}' found using element_tag() does not match any of the expected tags: "
      ++ ", ".intercalate (known.map fun tag => s!"'{tag}'")

/-- A step as reports show it. A key that holds a point is set off by backquotes. -/
def Step.text : Step → String
  | .key name => if name.toList.contains '.' then "`" ++ name ++ "`" else name
  | .index position => toString position

/-- The lines of a fault: its place, unless it is the start, and what is wrong there. -/
def Fault.lines (f : Fault) : List String :=
  let place := if f.path.isEmpty then [] else [".".intercalate (f.path.map Step.text)]
  place ++ [s!"  {f.cause.message} [type={f.cause.code}]"]

/-- The report on all faults of a reading of the titled record. -/
def report (title : String) (faults : List Fault) : String :=
  let count := if faults.length = 1 then "1 validation error" else
    s!"{faults.length} validation errors"
  "\n".intercalate (s!"{count} for {title}" :: faults.flatMap Fault.lines)

end FormSchema.Intake
