import Dialogue.Number.Binary64
import Dialogue.Location
/-!
# Reading numbers

The numbers that a whole text denotes: integers of 64 bits with a sign, and binary64 numbers, which
are the nearest to the decimal that the text denotes.

## Main definitions

- `Binary64.ofDecimal` — the binary64 number nearest to a decimal
- `readInteger?`, `readReal?` — the number a text denotes
-/

namespace Dialogue

/-- The natural that decimal digits denote. -/
def digitsValue (digits : List Char) : Nat :=
  digits.foldl (fun n c => 10 * n + (c.toNat - '0'.toNat)) 0

/-- The number nearest to `units · 10 ^ exponent`. -/
def Binary64.ofDecimal (negative : Bool) (units : Nat) (exponent : Int) : Binary64 :=
  if units = 0 then .zero negative
  else
    let leading : Int := (Nat.toDigits 10 units).length + exponent
    if 400 < leading then .infinite negative
    else if leading < -400 then .zero negative
    else
      match exponent with
      | .ofNat k => .ofRatio negative (units * 10 ^ k) 1
      | .negSucc k => .ofRatio negative units (10 ^ (k + 1))

/-- Split off a sign; the first part tells whether it is a minus. -/
def splitSign : List Char → Bool × List Char
  | '-' :: rest => (true, rest)
  | '+' :: rest => (false, rest)
  | cs => (false, cs)

/-- The integer of 64 bits that a text denotes: an optional sign and decimal digits. -/
def readInteger? (cs : List Char) : Option Int :=
  let (negative, digits) := splitSign cs
  if digits.isEmpty || !digits.all Char.isDigit then none
  else
    let n : Int := digitsValue digits
    let n := if negative then -n else n
    let bound : Nat := 2 ^ 63
    if -(bound : Int) ≤ n ∧ n < (bound : Int) then some n else none

/-- The exponent at the end of a number, zero if there is none. -/
def readExponent? : List Char → Option Int
  | [] => some 0
  | e :: rest =>
    if e = 'e' ∨ e = 'E' then
      let (negative, digits) := splitSign rest
      if digits.isEmpty || !digits.all Char.isDigit then none
      else
        let n : Int := digitsValue digits
        some (if negative then -n else n)
    else none

/-- The binary64 number that a text denotes: an optional sign, digits with a point before, inside or
after them, and an optional exponent; or a name of infinity or of the value that is no number. -/
def readReal? (cs : List Char) : Option Binary64 :=
  let (negative, body) := splitSign cs
  match String.ofList (body.map Char.toLower) with
  | "inf" | "infinity" => some (.infinite negative)
  | "nan" => some .nan
  | _ =>
    let before := body.takeWhile Char.isDigit
    let rest := body.dropWhile Char.isDigit
    let (after, rest) := match rest with
      | '.' :: rest => (rest.takeWhile Char.isDigit, rest.dropWhile Char.isDigit)
      | rest => ([], rest)
    if before.isEmpty && after.isEmpty then none
    else
      (readExponent? rest).map fun exponent =>
        .ofDecimal negative (digitsValue (before ++ after)) (exponent - after.length)

end Dialogue
