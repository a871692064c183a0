import Dialogue.Number.Binary64
/-!
# Shortest decimal digits

The shortest decimal of a binary64 number is the one with the fewest digits among those that read
back as that number; among several it is the nearest, an exact tie going to the even digit.

## Main definitions

- `Decimal` — a natural number of units of a power of ten
- `Binary64.shortest` — the shortest decimal of a positive finite number
- `Decimal.positional` — the digits written out without an exponent
-/

namespace Dialogue

/-- The decimal `units · 10 ^ exponent`. -/
structure Decimal where
  units : Nat
  exponent : Int
  deriving DecidableEq, Repr, Inhabited

/-- The decimal digits of a natural, most significant first. -/
def decimalDigits (n : Nat) : List Char := Nat.toDigits 10 n

/-- A row of `n` zeros. -/
def zeros (n : Nat) : List Char := List.replicate n '0'

/-- The digits written out without an exponent; a whole number has no point. -/
def Decimal.positional (d : Decimal) : List Char :=
  let digits := decimalDigits d.units
  match d.exponent with
  | .ofNat k => digits ++ zeros k
  | .negSucc k =>
    let places := k + 1
    if places < digits.length then
      digits.take (digits.length - places) ++ '.' :: digits.drop (digits.length - places)
    else
      '0' :: '.' :: (zeros (places - digits.length) ++ digits)

namespace Binary64

/-- The numbers that read back as one binary64 number: an interval of fractions over one
denominator, with its end points included or not, around the number itself. -/
structure Interval where
  low : Nat
  value : Nat
  high : Nat
  denominator : Nat
  closed : Bool

/-- The interval of fractions that round to `mantissa · 2 ^ exponent`. -/
def roundingInterval (mantissa : Nat) (exponent : Int) : Interval :=
  let narrow := mantissa == 2 ^ 52 && decide (minExponent < exponent)
  let (unit, den) := scaled 1 1 (exponent - 2)
  { low := (4 * mantissa - if narrow then 1 else 2) * unit
    value := 4 * mantissa * unit
    high := (4 * mantissa + 2) * unit
    denominator := den
    closed := mantissa % 2 == 0 }

/-- Whether the fraction `num / den` lies in the interval. -/
def Interval.contains (i : Interval) (num den : Nat) : Bool :=
  let a := num * i.denominator
  if i.closed then i.low * den ≤ a && a ≤ i.high * den
  else i.low * den < a && a < i.high * den

/-- The multiple of `10 ^ k` in the interval that is nearest to its value, in units of `10 ^ k`. -/
def Interval.onGrid (i : Interval) (k : Int) : Option Nat :=
  let (grid, gridDen) : Nat × Nat := match k with
    | .ofNat k => (10 ^ k, 1)
    | .negSucc k => (1, 10 ^ (k + 1))
  let num := i.value * gridDen
  let den := i.denominator * grid
  let below := num / den
  let inside (n : Nat) : Bool := i.contains (n * grid) gridDen
  match inside below && below != 0, inside (below + 1) with
  | true, true => some (roundHalfEven num den)
  | true, false => some below
  | false, true => some (below + 1)
  | false, false => none

/-- Search the grids `10 ^ k, 10 ^ (k - 1), …`, at most `fuel` of them, for one that meets the
interval. -/
def Interval.coarsest (i : Interval) : Nat → Int → Decimal
  | 0, k => ⟨i.value * 10 ^ (-k).toNat / i.denominator, k⟩
  | fuel + 1, k =>
    match i.onGrid k with
    | some n => ⟨n, k⟩
    | none => i.coarsest fuel (k - 1)

/-- The shortest decimal of `mantissa · 2 ^ exponent`. -/
def shortest (mantissa : Nat) (exponent : Int) : Decimal :=
  if mantissa = 0 then ⟨0, 0⟩
  else
    let magnitude : Int := ((mantissa.log2 : Int) + exponent) * 30103 / 100000
    (roundingInterval mantissa exponent).coarsest 24 (magnitude + 2)

/-- The number in positional notation: a whole number has no point, and the two special values
read `inf` and `NaN`. -/
def plainText : Binary64 → String
  | .finite s m e => String.ofList ((if s then ['-'] else []) ++ (shortest m e).positional)
  | .infinite s => if s then "-inf" else "inf"
  | .nan => "NaN"

end Binary64

end Dialogue
