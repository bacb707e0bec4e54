import FormSchema.Intake.Checked
import FormSchema.Number.Literal

/-!
# FormSchema — reading single values

Texts are never made from anything else. Flags, integers and limits are read generously: from
texts that write them, from each other where nothing is lost, and from whole numbers.
-/

namespace FormSchema.Intake

open Number (Limit)

def text : Json → Checked String
  | .str s => .accepted s
  | _ => .fault .notText

def nonEmptyText : Json → Checked String
  | .str s => if s.isEmpty then .fault .emptyText else .accepted s
  | _ => .fault .notText

/-- A value, or nothing where null stands. -/
def orNull {α : Type} (check : Json → Checked α) : Json → Checked (Option α)
  | .null => .accepted none
  | value => (check value).map some

def word {α : Type} (choices : List (String × α)) (value : Json) : Checked α :=
  let found := match value with
    | .str s => choices.lookup s
    | _ => none
  match found with
  | some a => .accepted a
  | none => .fault (.notAmong (choices.map (·.1)))

def exactly (expected : String) : Json → Checked Unit := word [(expected, ())]

/-- The words for true, in lower case. -/
def trueWords : List String := ["1", "true", "t", "yes", "y", "on"]

/-- The words for false, in lower case. -/
def falseWords : List String := ["0", "false", "f", "no", "n", "off"]

/-- Whether an integer fits into 64 bits with its sign. -/
def fitsWord (n : Int) : Bool :=
  -(Number.twoTo 63 : Int) ≤ n && n < Number.twoTo 63

/-- A truth value, the numbers 0 and 1, or one of their words in any case. -/
def flag : Json → Checked Bool
  | .bool b => .accepted b
  | .int n =>
    if n = 0 then .accepted false
    else if n = 1 then .accepted true
    else .fault (if fitsWord n then .unreadableFlag else .notFlag)
  | .float x =>
    if x == 0.0 then .accepted false else if x == 1.0 then .accepted true else .fault .notFlag
  | .str s =>
    let lower := String.ofList (s.toList.map Char.toLower)
    if lower ∈ trueWords then .accepted true
    else if lower ∈ falseWords then .accepted false
    else .fault .unreadableFlag
  | _ => .fault .notFlag

/-- A double without a fraction, as long as its size is below `2 ^ 63`. -/
def wholeNumber (x : Float) : Checked Int :=
  match Number.unpack x with
  | .nan => .fault .notFinite
  | .infinite _ => .fault .notFinite
  | .finite negative mantissa exponent =>
    let scale := Number.twoTo (-exponent).toNat
    if mantissa % scale ≠ 0 then .fault .fraction
    else
      let size := mantissa / scale * Number.twoTo exponent.toNat
      if size < Number.twoTo 63 then .accepted (Number.signedInt negative size)
      else .fault .integerTooLarge

/-- An integer, a truth value as 0 or 1, a whole double or a text that writes an integer. -/
def integer : Json → Checked Int
  | .int n => .accepted n
  | .bool b => .accepted (if b then 1 else 0)
  | .float x => wholeNumber x
  | .str s =>
    match Number.integerText? s with
    | some n => .accepted n
    | none => .fault .unreadableInteger
  | _ => .fault .notInteger

/-- An integer that is not negative. -/
def natural (value : Json) : Checked Nat :=
  match integer value with
  | .accepted n => if n < 0 then .fault .belowZero else .accepted n.toNat
  | .faulty faults => .faulty faults
  | .refused reason => .refused reason

/-- A limit that is neither an integer nor a double: both readings are reported. -/
def notLimit (asInteger asNumber : Cause) : Checked Limit :=
  .faulty [⟨[.key "int"], asInteger⟩, ⟨[.key "float"], asNumber⟩]

/-- A limit: numbers stay as they are, truth values count 0 and 1, and a text is read as an integer
if it writes one and as a double else. -/
def limit : Json → Checked Limit
  | .int n => .accepted (.int n)
  | .float x => .accepted (.float x)
  | .bool b => .accepted (.int (if b then 1 else 0))
  | .str s =>
    match Number.integerText? s, Number.numberText? s with
    | some n, _ => .accepted (.int n)
    | none, some x => .accepted (.float x)
    | none, none => notLimit .unreadableInteger .unreadableNumber
  | _ => notLimit .notInteger .notNumber

def texts : Json → Checked (List String)
  | .arr items => Checked.each text items
  | _ => .fault .notTuple

/-- The members of an object, as they are. -/
def mapping : Json → Checked (Entries Json)
  | .obj members => .accepted members
  | _ => .fault .notMapping

end FormSchema.Intake
