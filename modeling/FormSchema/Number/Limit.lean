import FormSchema.Json
import FormSchema.Number.Shortest

/-!
# FormSchema — limits

A limit of a number field is an integer of any size or a double. Limits are compared by their exact
values, so that an integer is never rounded to the double next to it.
-/

namespace FormSchema.Number

inductive Limit
  | int (value : Int)
  | float (value : Float)
  deriving DecidableEq

/-- A value on the extended number line. Finite values are counted in units of `2 ^ -1074`, of
which every finite double is a multiple. -/
inductive Magnitude
  | bottom
  | finite (units : Int)
  | top
  deriving DecidableEq, Repr

def Magnitude.lt : Magnitude → Magnitude → Bool
  | .bottom, .bottom => false
  | .bottom, _ => true
  | .finite a, .finite b => a < b
  | .finite _, .top => true
  | _, _ => false

/-- The exact value of a double; not-a-number has none. -/
def Magnitude.ofFloat? (x : Float) : Option Magnitude :=
  match unpack x with
  | .nan => none
  | .infinite true => some .bottom
  | .infinite false => some .top
  | .finite negative mantissa exponent =>
    let units : Int := (mantissa * twoTo (exponent + 1074).toNat : Nat)
    some (.finite (if negative then -units else units))

def Limit.magnitude? : Limit → Option Magnitude
  | .int n => some (.finite (n * (twoTo 1074 : Nat)))
  | .float x => Magnitude.ofFloat? x

/-- Whether a limit is greater than another one. Not-a-number is neither greater nor smaller. -/
def Limit.exceeds (a b : Limit) : Bool :=
  match a.magnitude?, b.magnitude? with
  | some x, some y => y.lt x
  | _, _ => false

def Limit.toJson : Limit → Json
  | .int n => .int n
  | .float x => .float x

end FormSchema.Number
