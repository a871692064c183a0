import Dialogue.Number.Shortest
import Dialogue.Json.Basic
/-!
# Compact JSON text

A value is written without blanks, members in order. Only the quote, the backslash and the control
characters below the space are escaped.

## Main definitions

- `Number.text` — the text of a number
- `Json.quoted` — a string between quotes
- `Json.compact` — the text of a value
-/

namespace Dialogue

namespace Number

/-- The digits with a point after the first, when there is more than one. -/
def leadingPoint : List Char → List Char
  | d :: e :: rest => d :: '.' :: e :: rest
  | digits => digits

/-- An exponent with its sign always written. -/
def exponentText (e : Int) : List Char :=
  'e' :: (if e < 0 then '-' else '+') :: decimalDigits e.natAbs

/-- A finite binary64 number is positional when its leading digit stands for `10 ^ -5` to
`10 ^ 15`, a whole one then ending in `.0`; otherwise one digit stands before the point and an
exponent follows. -/
def realDigits (d : Decimal) : List Char :=
  let digits := decimalDigits d.units
  let leading : Int := d.exponent + digits.length - 1
  if d.units = 0 then ['0', '.', '0']
  else if -5 ≤ leading ∧ leading ≤ 15 then
    if 0 ≤ d.exponent then d.positional ++ ['.', '0'] else d.positional
  else leadingPoint digits ++ exponentText leading

/-- The text of a number; the two special binary64 values have none and read `null`. -/
def text : Number → List Char
  | .whole n => (if n < 0 then ['-'] else []) ++ decimalDigits n.natAbs
  | .real (.finite s m e) => (if s then ['-'] else []) ++ realDigits (Binary64.shortest m e)
  | .real _ => ['n', 'u', 'l', 'l']

end Number

namespace Json

/-- A hexadecimal digit in lower case. -/
def hexDigit (n : Nat) : Char := Nat.digitChar (n % 16)

/-- The escape of a character inside a string, or the character itself. -/
def escaped (c : Char) : List Char :=
  if c = '"' then ['\\', '"']
  else if c = '\\' then ['\\', '\\']
  else if c = '\n' then ['\\', 'n']
  else if c = '\r' then ['\\', 'r']
  else if c = '\t' then ['\\', 't']
  else if c.toNat = 8 then ['\\', 'b']
  else if c.toNat = 12 then ['\\', 'f']
  else if c.toNat < 32 then ['\\', 'u', '0', '0', hexDigit (c.toNat / 16), hexDigit c.toNat]
  else [c]

/-- A string between quotes. -/
def quoted (s : String) : List Char := '"' :: (s.toList.flatMap escaped ++ ['"'])

mutual

/-- The characters of a value's compact text. -/
def compactChars : Json → List Char
  | .null => ['n', 'u', 'l', 'l']
  | .bool true => ['t', 'r', 'u', 'e']
  | .bool false => ['f', 'a', 'l', 's', 'e']
  | .number n => n.text
  | .text s => quoted s
  | .array items => '[' :: (compactItems items ++ [']'])
  | .object fields => '{' :: (compactFields fields ++ ['}'])

/-- The items, separated by commas. -/
def compactItems : List Json → List Char
  | [] => []
  | [item] => compactChars item
  | item :: next :: rest => compactChars item ++ ',' :: compactItems (next :: rest)

/-- The members, separated by commas. -/
def compactFields : List (String × Json) → List Char
  | [] => []
  | [(key, value)] => quoted key ++ ':' :: compactChars value
  | (key, value) :: next :: rest =>
    quoted key ++ ':' :: (compactChars value ++ ',' :: compactFields (next :: rest))

end

/-- The compact text of a value. -/
def compact (j : Json) : String := String.ofList (compactChars j)

end Json

end Dialogue
