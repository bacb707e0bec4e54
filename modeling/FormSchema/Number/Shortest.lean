/-!
# FormSchema — floating-point numbers as decimals

A double is written with the fewest digits that still lie nearer to it than to any other double;
of two such decimals the nearer one is taken. Everything is decided in exact integer arithmetic on
the number's bits.
-/

namespace FormSchema.Number

def twoTo (n : Nat) : Nat := Nat.pow 2 n

def tenTo (n : Nat) : Nat := Nat.pow 10 n

/-- What the bits of a double say. A finite one is `mantissa * 2 ^ exponent`, up to its sign. -/
inductive Unpacked
  | nan
  | infinite (negative : Bool)
  | finite (negative : Bool) (mantissa : Nat) (exponent : Int)
  deriving DecidableEq, Repr

/-- Reads the sign, exponent and fraction bits. -/
def unpack (x : Float) : Unpacked :=
  let bits := x.toBits.toNat
  let negative := bits / twoTo 63 == 1
  let biased : Nat := bits / twoTo 52 % 2048
  let fraction : Nat := bits % twoTo 52
  -- the greatest exponent marks what is not finite, and the least one has no leading bit
  if biased = 2047 then if fraction = 0 then .infinite negative else .nan
  else if biased = 0 then .finite negative fraction (-1074)
  else .finite negative (fraction + twoTo 52) ((biased : Int) - 1075)

structure Decimal where
  digits : Nat
  exponent : Int
  deriving DecidableEq, Repr

/-- A double's exact value and the ends of the interval of numbers that round to it, as numerators
over one denominator. The ends belong to the interval when `closed` holds. -/
structure Interval where
  value : Nat
  lower : Nat
  upper : Nat
  denominator : Nat
  closed : Bool

/-- The rounding interval of `mantissa * 2 ^ exponent`. Below a power of two the next double is
half as far away, except in the lowest binade. -/
def Interval.around (mantissa : Nat) (exponent : Int) : Interval :=
  -- everything is counted in quarters of the unit in the last place
  let e := exponent - 2
  let up := twoTo e.toNat
  let below := if mantissa = twoTo 52 ∧ exponent > -1074 then 1 else 2
  { value := 4 * mantissa * up
    lower := (4 * mantissa - below) * up
    upper := (4 * mantissa + 2) * up
    denominator := twoTo (-e).toNat
    closed := mantissa % 2 = 0 }

def digitCount (n : Nat) : Nat := (Nat.toDigits 10 n).length

/-- The exponent of the leading decimal digit of `n / d`, for positive `n` and `d`. -/
def leadingExponent (n d : Nat) : Int :=
  if d ≤ n then (digitCount (n / d) : Int) - 1
  else -(digitCount ((d + n - 1) / n - 1) : Int)

/-- Whether `digits * 10 ^ exponent` lies in an interval. -/
def Interval.contains (i : Interval) (d : Decimal) : Bool :=
  let point := d.digits * tenTo d.exponent.toNat * i.denominator
  let scale := tenTo (-d.exponent).toNat
  if i.closed then i.lower * scale ≤ point && point ≤ i.upper * scale
  else i.lower * scale < point && point < i.upper * scale

/-- The decimal on the grid `10 ^ exponent` nearest to the value that lies in the interval, if any
does; it is one of the value's two neighbours on the grid. A tie goes to the even digit. -/
def Interval.onGrid? (i : Interval) (exponent : Int) : Option Decimal :=
  let up := tenTo exponent.toNat * i.denominator
  let value := i.value * tenTo (-exponent).toNat
  let below : Decimal := ⟨value / up, exponent⟩
  let above : Decimal := ⟨value / up + 1, exponent⟩
  match i.contains below, i.contains above with
  | false, false => none
  | true, false => some below
  | false, true => some above
  | true, true =>
    let rest := 2 * (value % up)
    if rest < up ∨ (rest = up ∧ below.digits % 2 = 0) then some below else some above

/-- The decimal with the fewest digits in the interval: the first of the grids with 1, 2, … 17
digits that has one. -/
def Interval.shortest (i : Interval) : Decimal :=
  let lead := leadingExponent i.value i.denominator
  -- seventeen digits tell every double from every other
  let grids := (List.range 17).map fun (n : Nat) => lead - (n : Int)
  (grids.findSome? i.onGrid?).getD ⟨i.value / i.denominator, 0⟩

/-- Moves trailing zeros of the digits into the exponent. -/
def Decimal.trimZeros : (fuel : Nat) → Decimal → Decimal
  | 0, d => d
  | fuel + 1, d =>
    if d.digits % 10 = 0 ∧ d.digits ≠ 0 then trimZeros fuel ⟨d.digits / 10, d.exponent + 1⟩ else d

/-- The layout of a decimal: written out when its leading digit's exponent is at least
`positionalFrom` and below `positionalBelow`, else in scientific form. -/
structure DecimalLayout where
  positionalFrom : Int
  positionalBelow : Int
  exponentDigits : Nat

/-- Written out from `0.0001` up to seventeen digits before the point; two exponent digits. -/
def defaultLayout : DecimalLayout := ⟨-4, 16, 2⟩

/-- The exponent part: a sign and at least the layout's digits. -/
def DecimalLayout.exponentText (layout : DecimalLayout) (e : Int) : List Char :=
  let digits := Nat.toDigits 10 e.natAbs
  ['e', if e < 0 then '-' else '+']
    ++ List.replicate (layout.exponentDigits - digits.length) '0' ++ digits

/-- Writes a decimal. A number written out has a point and at least one digit behind it; in
scientific form the point is left out when one digit is enough. -/
def DecimalLayout.write (layout : DecimalLayout) (d : Decimal) : List Char :=
  let digits := Nat.toDigits 10 d.digits
  let lead : Int := (digits.length : Int) - 1 + d.exponent
  if layout.positionalFrom ≤ lead ∧ lead < layout.positionalBelow then
    if 0 ≤ d.exponent then digits ++ List.replicate d.exponent.toNat '0' ++ ['.', '0']
    else if 0 ≤ lead then
      digits.take (lead + 1).toNat ++ '.' :: digits.drop (lead + 1).toNat
    else '0' :: '.' :: List.replicate (-lead - 1).toNat '0' ++ digits
  else
    let mantissa := match digits with
      | [] => []
      | [c] => [c]
      | c :: rest => c :: '.' :: rest
    mantissa ++ layout.exponentText lead

/-- The names of the numbers that have no digits. -/
structure SpecialNames where
  infinity : String
  nan : String

def plainNames : SpecialNames := ⟨"inf", "nan"⟩

def jsonNames : SpecialNames := ⟨"Infinity", "NaN"⟩

def floatText (names : SpecialNames) (x : Float) : String :=
  let signed (negative : Bool) (cs : List Char) : String :=
    String.ofList (if negative then '-' :: cs else cs)
  match unpack x with
  | .nan => names.nan
  | .infinite negative => signed negative names.infinity.toList
  | .finite negative 0 _ => signed negative "0.0".toList
  | .finite negative mantissa exponent =>
    let shortest := (Interval.around mantissa exponent).shortest
    signed negative (defaultLayout.write (shortest.trimZeros 20))

end FormSchema.Number
