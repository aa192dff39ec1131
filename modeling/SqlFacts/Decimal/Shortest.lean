/-!
# Shortest decimal text of binary fractions

A finite binary floating-point number stands for every real number that rounds to it. Its
shortest decimal form has the fewest significant digits among the decimals in that interval and,
of those, lies nearest to the number. Digits are chosen in exact integer arithmetic; how they are
laid out is a separate value.
-/

namespace SqlFacts.Decimal

/-- A positive binary number and the ends of the interval of reals that round to it, as
numerators over one denominator. The ends belong to the interval when `closed` holds. -/
structure Interval where
  value : Nat
  lower : Nat
  upper : Nat
  denominator : Nat
  closed : Bool

namespace Interval

/-- The interval of `significand * 2 ^ exponent`. The gap below the number is half as wide as the
one above it when the significand is the least of its binade. -/
def ofBinary (significand : Nat) (exponent : Int) (leastOfBinade : Bool) : Interval :=
  let scale := Nat.pow 2 (exponent - 2).toNat
  { value := 4 * significand * scale
    lower := (4 * significand - if leastOfBinade then 1 else 2) * scale
    upper := (4 * significand + 2) * scale
    denominator := Nat.pow 2 (2 - exponent).toNat
    closed := significand % 2 == 0 }

/-- Tests whether `numerator / divisor` lies in the interval scaled by `scale`. -/
def contains (interval : Interval) (scale numerator divisor : Nat) : Bool :=
  let point := numerator * divisor
  let low := interval.lower * scale
  let high := interval.upper * scale
  (low < point || (interval.closed && low == point)) &&
    (point < high || (interval.closed && point == high))

/-- The power of ten that the number lies below and is at least a tenth of. -/
def magnitude (interval : Interval) : Int :=
  let whole := interval.value / interval.denominator
  let reaches (k : Nat) : Bool := interval.denominator ≤ interval.value * Nat.pow 10 (k + 1)
  if whole = 0 then Int.neg (((List.range 400).find? reaches).getD 0)
  else (Nat.toDigits 10 whole).length

/-- The nearest decimal of `places` significant digits inside the interval, as a coefficient of
`10 ^ (magnitude - places)`; of two equally near ones the even coefficient. -/
def nearest? (interval : Interval) (magnitude : Int) (places : Nat) : Option Nat :=
  let scale := Nat.pow 10 (places - magnitude).toNat
  let divisor := interval.denominator * Nat.pow 10 (magnitude - places).toNat
  let below := interval.value * scale / divisor
  let remainder := interval.value * scale % divisor
  match interval.contains scale below divisor, interval.contains scale (below + 1) divisor with
  | true, true =>
    if 2 * remainder < divisor then some below
    else if divisor < 2 * remainder then some (below + 1)
    else if below % 2 == 0 then some below else some (below + 1)
  | true, false => some below
  | false, true => some (below + 1)
  | false, false => none

end Interval

/-- A positive decimal: the digits after the point, and the power of ten in front of it. -/
structure Digits where
  digits : List Char
  magnitude : Int

/-- The shortest decimal of an interval. Seventeen digits always suffice for the numbers of the
double format. -/
def shortestDigits (interval : Interval) : Digits :=
  let magnitude := interval.magnitude
  let found := (List.range 17).findSome? fun k =>
    (interval.nearest? magnitude (k + 1)).map fun coefficient => (k + 1, coefficient)
  match found with
  | none => ⟨['0'], 1⟩
  | some (places, coefficient) =>
    let digits := Nat.toDigits 10 coefficient
    let kept := (digits.reverse.dropWhile (· == '0')).reverse
    ⟨kept, magnitude + ((digits.length : Int) - places)⟩

/-- How decimal digits are laid out: which exponents are written with a plain point, and the
least number of digits of a written exponent. -/
structure Layout where
  leastPlainExponent : Int
  leastScientificExponent : Int
  exponentDigits : Nat

namespace Layout

/-- The digits with a plain decimal point and at least one digit on either side of it. -/
def plain (d : Digits) : List Char :=
  let point := d.magnitude.toNat
  if d.magnitude ≤ 0 then '0' :: '.' :: List.replicate (-d.magnitude).toNat '0' ++ d.digits
  else if d.digits.length ≤ point then
    d.digits ++ List.replicate (point - d.digits.length) '0' ++ ['.', '0']
  else d.digits.take point ++ '.' :: d.digits.drop point

/-- The digits with one digit before the point and a signed exponent. -/
def scientific (layout : Layout) (d : Digits) : List Char :=
  let exponent := d.magnitude - 1
  let written := Nat.toDigits 10 exponent.natAbs
  let fraction := d.digits.drop 1
  d.digits.take 1 ++ (if fraction.isEmpty then [] else '.' :: fraction) ++
    'e' :: (if exponent < 0 then '-' else '+') ::
    (List.replicate (layout.exponentDigits - written.length) '0' ++ written)

/-- The laid-out digits. -/
def digits (layout : Layout) (d : Digits) : List Char :=
  let exponent := d.magnitude - 1
  if layout.leastPlainExponent ≤ exponent ∧ exponent < layout.leastScientificExponent then plain d
  else layout.scientific d

/-- The number of fractions that share an exponent in the double format. -/
def fractionCount : Nat := 4503599627370496

/-- The stored exponent of the infinities and of what is not a number. -/
def lastExponent : Nat := 2047

/-- The text of a double: its sign, then its shortest digits, or a word for what is not a finite
number. -/
def text (layout : Layout) (x : Float) : String :=
  let bits := x.toBits.toNat
  let biased : Nat := bits / fractionCount % (lastExponent + 1)
  let fraction : Nat := bits % fractionCount
  let sign := if fractionCount * (lastExponent + 1) ≤ bits then ['-'] else []
  if biased = lastExponent then
    if fraction = 0 then String.ofList (sign ++ ['i', 'n', 'f']) else "nan"
  else if biased = 0 ∧ fraction = 0 then String.ofList (sign ++ ['0', '.', '0'])
  else
    let interval :=
      if biased = 0 then Interval.ofBinary fraction (-1074) false
      else
        Interval.ofBinary (fractionCount + fraction) ((biased : Int) - 1075)
          (fraction == 0 && 1 < biased)
    String.ofList (sign ++ layout.digits (shortestDigits interval))

end Layout

end SqlFacts.Decimal
