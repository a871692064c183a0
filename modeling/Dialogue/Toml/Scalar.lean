import Dialogue.Layer.Value
import Dialogue.Number.Reader
/-!
# Scalars of TOML

Booleans, integers, binary64 numbers and dates are single words, and a word that is none of them is
no value. A date keeps its text, with a capital `T` and `Z` and without zeros at the end of its
fraction.

## Main definitions

- `Toml.scalar?` — the value of a word
-/

namespace Dialogue.Toml

/-- Drop the underscores between digits; nothing when one stands elsewhere or a character is no
digit. -/
def plainDigits? (isDigit : Char → Bool) : List Char → Option (List Char)
  | [] => none
  | [c] => if isDigit c then some [c] else none
  | c :: '_' :: rest => if isDigit c then (plainDigits? isDigit rest).map (c :: ·) else none
  | c :: rest => if isDigit c then (plainDigits? isDigit rest).map (c :: ·) else none

/-- The value of a hexadecimal digit. -/
def digitOf (c : Char) : Nat :=
  if c.isDigit then c.toNat - '0'.toNat else c.toLower.toNat - 'a'.toNat + 10

/-- The integer that digits to a base denote, if it fits in 64 bits with a sign. -/
def based? (base : Nat) (isDigit : Char → Bool) (cs : List Char) : Option LayerValue := do
  let digits ← plainDigits? isDigit cs
  let n := digits.foldl (fun n c => base * n + digitOf c) 0
  if n < 2 ^ 63 then some (.whole n) else none

/-- Decimal digits without superfluous zeros in front. -/
def decimal? (cs : List Char) : Option (List Char) := do
  let digits ← plainDigits? Char.isDigit cs
  match digits with
  | '0' :: _ :: _ => none
  | digits => some digits

/-- The integer that a word denotes. -/
def integer? (word : List Char) : Option LayerValue :=
  match word with
  | '0' :: 'x' :: rest =>
    based? 16 (fun c => c.isDigit || ('a' ≤ c.toLower && c.toLower ≤ 'f')) rest
  | '0' :: 'o' :: rest => based? 8 (fun c => '0' ≤ c && c ≤ '7') rest
  | '0' :: 'b' :: rest => based? 2 (fun c => c == '0' || c == '1') rest
  | _ => do
    let (negative, body) := splitSign word
    let digits ← decimal? body
    let n ← readInteger? ((if negative then ['-'] else []) ++ digits)
    return .whole n

/-- Split before an exponent. -/
def splitExponent (cs : List Char) : List Char × List Char :=
  (cs.takeWhile fun c => c != 'e' && c != 'E', cs.dropWhile fun c => c != 'e' && c != 'E')

/-- The digits and sign of an exponent, without underscores. -/
def exponent? : List Char → Option (List Char)
  | [] => some []
  | e :: rest => do
    let (negative, body) := splitSign rest
    let digits ← plainDigits? Char.isDigit body
    return e :: (if negative then '-' :: digits else digits)

/-- The number with a point or an exponent that a word denotes; one too large is refused unless it
is negative. -/
def real? (word : List Char) : Option LayerValue :=
  let (negative, body) := splitSign word
  match body with
  | ['i', 'n', 'f'] => some (.real (.infinite negative))
  | ['n', 'a', 'n'] => some (.real .nan)
  | _ => do
    let (mantissa, exponent) := splitExponent body
    let before ← decimal? (mantissa.takeWhile (· != '.'))
    let after ← match mantissa.dropWhile (· != '.') with
      | [] => if exponent.isEmpty then none else some []
      | _ :: digits => (plainDigits? Char.isDigit digits).map ('.' :: ·)
    let exponent ← exponent? exponent
    let x ← readReal? ((if negative then ['-'] else []) ++ before ++ after ++ exponent)
    if x = .infinite false then none else some (.real x)

/-- The natural that exactly `n` digits in front denote, and the rest. -/
def fixed? (n : Nat) (cs : List Char) : Option (Nat × List Char) :=
  let digits := cs.take n
  if digits.length = n ∧ digits.all Char.isDigit then some (digitsValue digits, cs.drop n) else none

/-- A natural with at least two digits. -/
def padded (n : Nat) : List Char :=
  let digits := Nat.toDigits 10 n
  List.replicate (2 - digits.length) '0' ++ digits

/-- The number of days of a month. -/
def daysIn (year month : Nat) : Nat :=
  if month = 2 then
    if year % 4 = 0 ∧ (year % 100 ≠ 0 ∨ year % 400 = 0) then 29 else 28
  else if month = 4 ∨ month = 6 ∨ month = 9 ∨ month = 11 then 30
  else 31

/-- Read a date; its text stays as it is. -/
def date? (cs : List Char) : Option (List Char × List Char) := do
  let (year, rest) ← fixed? 4 cs
  match rest with
  | '-' :: rest =>
    let (month, rest) ← fixed? 2 rest
    match rest with
    | '-' :: rest =>
      let (day, rest) ← fixed? 2 rest
      if 1 ≤ month ∧ month ≤ 12 ∧ 1 ≤ day ∧ day ≤ daysIn year month then
        some (cs.take 10, rest)
      else none
    | _ => none
  | _ => none

/-- The text of a fraction of a second: nine digits at most, without zeros at the end. -/
def fractionText (digits : List Char) : List Char :=
  match ((digits.take 9).reverse.dropWhile (· == '0')).reverse with
  | [] => []
  | kept => '.' :: kept

/-- Read a time of day. -/
def time? (cs : List Char) : Option (List Char × List Char) := do
  let (hour, rest) ← fixed? 2 cs
  match rest with
  | ':' :: rest =>
    let (minute, rest) ← fixed? 2 rest
    match rest with
    | ':' :: rest =>
      let (second, rest) ← fixed? 2 rest
      if hour ≤ 23 ∧ minute ≤ 59 ∧ second ≤ 60 then
        match rest with
        | '.' :: rest =>
          let digits := rest.takeWhile Char.isDigit
          if digits.isEmpty then none
          else some (cs.take 8 ++ fractionText digits, rest.dropWhile Char.isDigit)
        | rest => some (cs.take 8, rest)
      else none
    | _ => none
  | _ => none

/-- Read the offset at the end of a date with a time. -/
def offset? : List Char → Option (List Char)
  | [] => some []
  | ['Z'] => some ['Z']
  | ['z'] => some ['Z']
  | sign :: rest => do
    guard (sign = '+' ∨ sign = '-')
    let (hours, rest) ← fixed? 2 rest
    match rest with
    | ':' :: rest =>
      let (minutes, rest) ← fixed? 2 rest
      guard (rest.isEmpty ∧ hours ≤ 23 ∧ minutes ≤ 59)
      return sign :: (padded hours ++ ':' :: padded minutes)
    | _ => none

/-- The text of a date, a time, or both that a word denotes. -/
def dateTime? (word : List Char) : Option (List Char) :=
  match date? word with
  | some (date, []) => some date
  | some (date, mark :: rest) =>
    if mark = 'T' ∨ mark = 't' ∨ mark = ' ' then do
      let (time, rest) ← time? rest
      let offset ← offset? rest
      return date ++ 'T' :: (time ++ offset)
    else none
  | none =>
    match time? word with
    | some (time, []) => some time
    | _ => none

/-- The value of a word. -/
def scalar? (word : List Char) : Option LayerValue :=
  if word = ['t', 'r', 'u', 'e'] then some (.flag true)
  else if word = ['f', 'a', 'l', 's', 'e'] then some (.flag false)
  else
    (integer? word).or ((real? word).or
      ((dateTime? word).map fun text => .text (String.ofList text)))

end Dialogue.Toml
