/-!
# Binary64 numbers

A binary64 number is kept as an exact dyadic rational, so that every operation is exact integer
arithmetic followed by one rounding to the nearest representable number, ties to the even mantissa.

## Main definitions

- `Binary64` — a finite number `± mantissa · 2 ^ exponent`, an infinity, or the value that is no number
- `Binary64.ofRatio` — the number nearest to a quotient of naturals
- `Binary64.mul`, `Binary64.div`, `Binary64.add` — arithmetic, rounded once
- `Binary64.same` — equality of the numbers represented (`0` and `-0` are the same number)
-/

namespace Dialogue

/-- Powers of naturals are these, whatever other powers a module sees. -/
@[default_instance 20000]
instance (priority := 2000) powNat : Pow Nat Nat := instPowNat

/-- A binary64 number; a finite one denotes `± mantissa · 2 ^ exponent`. -/
inductive Binary64 where
  | finite (negative : Bool) (mantissa : Nat) (exponent : Int)
  | infinite (negative : Bool)
  | nan
  deriving DecidableEq, Repr, Inhabited

namespace Binary64

/-- The exponent of the smallest positive number. -/
def minExponent : Int := -1074

/-- The exponent of the largest numbers. -/
def maxExponent : Int := 971

/-- Zero with a sign. -/
def zero (negative : Bool) : Binary64 := .finite negative 0 minExponent

/-- Round `num / den` to an integer, a half going to the even neighbour. -/
def roundHalfEven (num den : Nat) : Nat :=
  let q := num / den
  let r := num % den
  if 2 * r < den then q
  else if den < 2 * r then q + 1
  else if q % 2 = 0 then q else q + 1

/-- The fraction `num / den · 2 ^ shift` as a numerator and a denominator. -/
def scaled (num den : Nat) (shift : Int) : Nat × Nat :=
  match shift with
  | .ofNat k => (num * 2 ^ k, den)
  | .negSucc k => (num, den * 2 ^ (k + 1))

/-- The exponent at which the mantissa of `num / den` has 53 binary digits, or the smallest
exponent when the quotient is subnormal. -/
def exponentFor (num den : Nat) : Int :=
  let guess : Int := max ((num.log2 : Int) - den.log2 - 53) minExponent
  let (n, d) := scaled num den (-guess)
  if n / d < 2 ^ 53 then guess else guess + 1

/-- The number nearest to `num / den`, with the given sign. -/
def ofRatio (negative : Bool) (num den : Nat) : Binary64 :=
  if num = 0 then zero negative
  else
    let e := exponentFor num den
    let (n, d) := scaled num den (-e)
    let m := roundHalfEven n d
    let (m, e) := if m = 2 ^ 53 then (2 ^ 52, e + 1) else (m, e)
    if maxExponent < e then .infinite negative else .finite negative m e

/-- The number nearest to a natural. -/
def ofNat (n : Nat) : Binary64 := ofRatio false n 1

/-- The number nearest to an integer. -/
def ofInt : Int → Binary64
  | .ofNat n => ofNat n
  | .negSucc n => ofRatio true (n + 1) 1

/-- The magnitude of a finite number as a fraction. -/
def fraction (mantissa : Nat) (exponent : Int) : Nat × Nat := scaled mantissa 1 exponent

/-- The number with the opposite sign. -/
def neg : Binary64 → Binary64
  | .finite s m e => .finite (!s) m e
  | .infinite s => .infinite (!s)
  | .nan => .nan

/-- Whether the number is neither infinite nor the value that is no number. -/
def isFinite : Binary64 → Bool
  | .finite .. => true
  | _ => false

/-- Whether the number is greater than zero. -/
def isPositive : Binary64 → Bool
  | .finite s m _ => !s && m != 0
  | .infinite s => !s
  | .nan => false

/-- The product of two finite numbers, rounded; any other operand gives no number. -/
def mul : Binary64 → Binary64 → Binary64
  | .finite s m e, .finite t n f =>
    let (num, den) := scaled (m * n) 1 (e + f)
    ofRatio (s != t) num den
  | _, _ => .nan

/-- The quotient of two finite numbers, rounded; any other operand, or a zero divisor, gives no
number. -/
def div : Binary64 → Binary64 → Binary64
  | .finite s m e, .finite t n f =>
    if n = 0 then .nan
    else
      let (num, den) := scaled m n (e - f)
      ofRatio (s != t) num den
  | _, _ => .nan

/-- The value of a finite number in units of `2 ^ unit`, when `unit` is at most its exponent. -/
def inUnits (negative : Bool) (mantissa : Nat) (exponent unit : Int) : Int :=
  let n : Int := (mantissa * 2 ^ (exponent - unit).toNat : Nat)
  if negative then -n else n

/-- The sum of two finite numbers, rounded; any other operand gives no number. -/
def add : Binary64 → Binary64 → Binary64
  | .finite s m e, .finite t n f =>
    let unit := min e f
    let total := inUnits s m e unit + inUnits t n f unit
    if total = 0 then zero (s && t)
    else
      let (num, den) := scaled total.natAbs 1 unit
      ofRatio (decide (total < 0)) num den
  | _, _ => .nan

/-- Whether two values denote the same number; the two zeros do, and nothing is the same as the
value that is no number. -/
def same : Binary64 → Binary64 → Bool
  | .finite s m e, .finite t n f => (m == 0 && n == 0) || (s == t && m == n && e == f)
  | .infinite s, .infinite t => s == t
  | _, _ => false

/-- A positive finite number times a natural, rounded to an integer with a half going to the even
neighbour; zero for any other number. -/
def timesRounded (x : Binary64) (k : Nat) : Nat :=
  match x with
  | .finite false m e =>
    let (num, den) := fraction m e
    roundHalfEven (num * k) den
  | _ => 0

end Binary64

end Dialogue
