import Dialogue.Json.Basic
/-!
# Reading JSON text

The strict grammar: one value, blanks around it, nothing else. A raw control character in a string,
a surrogate escape without its partner, a number too large for binary64 and more than 127 open
arrays and objects are all refused. Of two members with one name the later wins.

A whole number is one without point and exponent from `-2 ^ 63` to `2 ^ 64 - 1`; `-0` and all other
numbers are binary64. A binary64 number is read in two roundings: the leading digits that fit in 64
bits are rounded, and the result is multiplied or divided by the power of ten, rounded itself.

## Main definitions

- `Numeral` — the parts of a number's text, and `Numeral.value?`, what it denotes
- `Json.parse?` — the value of a text
-/

namespace Dialogue

/-- The value of a decimal digit. -/
def digitValue (c : Char) : Nat := c.toNat - '0'.toNat

/-- The natural that decimal digits denote. -/
def naturalOf (digits : List Char) : Nat := digits.foldl (fun n c => 10 * n + digitValue c) 0

/-- The parts of a number: sign, digits before and after the point, exponent with its sign. -/
structure Numeral where
  negative : Bool
  before : List Char
  after : Option (List Char)
  exponent : Option (Bool × List Char)

namespace Numeral

/-- The largest natural of 64 bits. -/
def largest : Nat := 2 ^ 64 - 1

/-- Append digits while the natural fits in 64 bits; the second part is what does not fit. -/
def gather : Nat → List Char → Nat × List Char
  | n, [] => (n, [])
  | n, c :: rest =>
    if 10 * n + digitValue c ≤ largest then gather (10 * n + digitValue c) rest else (n, c :: rest)

/-- The power of ten as a binary64 number. -/
def powerOfTen (k : Nat) : Binary64 := Binary64.ofNat (10 ^ k)

/-- A binary64 number times a power of ten, in steps of at most 308 places; nothing when it
overflows. -/
def shift : Nat → Binary64 → Int → Option Binary64
  | 0, x, _ => some x
  | steps + 1, x, e =>
    if e.natAbs ≤ 308 then
      if 0 ≤ e then
        let y := x.mul (powerOfTen e.natAbs)
        if y.isFinite then some y else none
      else some (x.div (powerOfTen e.natAbs))
    else if !x.isPositive then some x
    else if 0 ≤ e then none
    else shift steps (x.div (powerOfTen 308)) (e + 308)

/-- The magnitude of a number with a point, an exponent or too many digits. -/
def magnitude? (n : Numeral) : Option Binary64 :=
  let (leading, dropped) := gather 0 n.before
  let fraction := n.after.getD []
  let (significand, unread) := gather leading fraction
  let places : Int := (dropped.length : Int) - (fraction.length - unread.length : Nat)
  match n.exponent with
  | none => shift 5 (Binary64.ofNat significand) places
  | some (negative, digits) =>
    let e := naturalOf digits
    if 2 ^ 31 ≤ e then
      if significand ≠ 0 ∧ !negative then none else some (Binary64.zero false)
    else shift 5 (Binary64.ofNat significand) (if negative then places - e else places + e)

/-- The number a numeral denotes; nothing when it is too large. -/
def value? (n : Numeral) : Option Number :=
  let signed (x : Binary64) : Number := .real (if n.negative then x.neg else x)
  let integer := naturalOf n.before
  if n.after.isNone && n.exponent.isNone && integer ≤ largest then
    if !n.negative then some (.whole integer)
    else if integer ≠ 0 ∧ integer ≤ 2 ^ 63 then some (.whole (-integer))
    else some (signed (Binary64.ofNat integer))
  else n.magnitude?.map signed

/-- Read a point and the digits after it, if there is a point; at least one digit must follow. -/
def readFraction? : List Char → Option (Option (List Char) × List Char)
  | '.' :: rest =>
    let digits := rest.takeWhile Char.isDigit
    if digits.isEmpty then none else some (some digits, rest.dropWhile Char.isDigit)
  | rest => some (none, rest)

/-- Read an exponent, if there is one; at least one digit must follow its sign. -/
def readExponent? : List Char → Option (Option (Bool × List Char) × List Char)
  | c :: rest =>
    if c = 'e' ∨ c = 'E' then
      let (negative, rest) := match rest with
        | '-' :: rest => (true, rest)
        | '+' :: rest => (false, rest)
        | rest => (false, rest)
      let digits := rest.takeWhile Char.isDigit
      if digits.isEmpty then none else some (some (negative, digits), rest.dropWhile Char.isDigit)
    else some (none, c :: rest)
  | [] => some (none, [])

/-- Read the parts of a number: no leading zeros, and a digit on both sides of a point. -/
def read? (text : List Char) : Option (Numeral × List Char) := do
  let (negative, text) := match text with
    | '-' :: rest => (true, rest)
    | rest => (false, rest)
  let before := text.takeWhile Char.isDigit
  guard (!before.isEmpty && (before.head? != some '0' || before.length == 1))
  let (after, text) ← readFraction? (text.dropWhile Char.isDigit)
  let (exponent, text) ← readExponent? text
  return (⟨negative, before, after, exponent⟩, text)

end Numeral

namespace Json

/-- The blanks allowed between the parts of a text. -/
def isBlank (c : Char) : Bool := c = ' ' || c = '\n' || c = '\r' || c = '\t'

/-- Drop the blanks in front. -/
def skipBlanks (input : List Char) : List Char := input.dropWhile isBlank

/-- The value of a hexadecimal digit. -/
def hexValue? (c : Char) : Option Nat :=
  if '0' ≤ c ∧ c ≤ '9' then some (c.toNat - '0'.toNat)
  else if 'a' ≤ c ∧ c ≤ 'f' then some (c.toNat - 'a'.toNat + 10)
  else if 'A' ≤ c ∧ c ≤ 'F' then some (c.toNat - 'A'.toNat + 10)
  else none

/-- Read four hexadecimal digits. -/
def readHex4? : List Char → Option (Nat × List Char)
  | a :: b :: c :: d :: rest => do
    let a ← hexValue? a
    let b ← hexValue? b
    let c ← hexValue? c
    let d ← hexValue? d
    return (((a * 16 + b) * 16 + c) * 16 + d, rest)
  | _ => none

/-- Read what follows a backslash and `u`: one code unit, or two that form a surrogate pair. -/
def readUnicode? (input : List Char) : Option (Char × List Char) := do
  let (unit, rest) ← readHex4? input
  if 0xD800 ≤ unit ∧ unit < 0xDC00 then
    match rest with
    | '\\' :: 'u' :: rest =>
      let (low, rest) ← readHex4? rest
      if 0xDC00 ≤ low ∧ low < 0xE000 then
        some (Char.ofNat (0x10000 + (unit - 0xD800) * 0x400 + (low - 0xDC00)), rest)
      else none
    | _ => none
  else if 0xDC00 ≤ unit ∧ unit < 0xE000 then none
  else some (Char.ofNat unit, rest)

/-- Read what follows a backslash. -/
def readEscape? : List Char → Option (Char × List Char)
  | '"' :: rest => some ('"', rest)
  | '\\' :: rest => some ('\\', rest)
  | '/' :: rest => some ('/', rest)
  | 'b' :: rest => some (Char.ofNat 8, rest)
  | 'f' :: rest => some (Char.ofNat 12, rest)
  | 'n' :: rest => some ('\n', rest)
  | 'r' :: rest => some ('\r', rest)
  | 't' :: rest => some ('\t', rest)
  | 'u' :: rest => readUnicode? rest
  | _ => none

/-- Read the rest of a string after its opening quote; `done` holds the characters read, last
first. -/
def readString? : Nat → List Char → List Char → Option (String × List Char)
  | 0, _, _ => none
  | fuel + 1, done, input =>
    match input with
    | [] => none
    | '"' :: rest => some (String.ofList done.reverse, rest)
    | '\\' :: rest => do
      let (c, rest) ← readEscape? rest
      readString? fuel (c :: done) rest
    | c :: rest => if c.toNat < 32 then none else readString? fuel (c :: done) rest

/-- How many arrays and objects may be open at once. -/
def deepest : Nat := 127

mutual

/-- Read a value that starts at the first character; `room` more arrays and objects may open. -/
def readValue? : Nat → Nat → List Char → Option (Json × List Char)
  | 0, _, _ => none
  | fuel + 1, room, input =>
    match input with
    | 'n' :: 'u' :: 'l' :: 'l' :: rest => some (.null, rest)
    | 't' :: 'r' :: 'u' :: 'e' :: rest => some (.bool true, rest)
    | 'f' :: 'a' :: 'l' :: 's' :: 'e' :: rest => some (.bool false, rest)
    | '"' :: rest => do
      let (s, rest) ← readString? (rest.length + 1) [] rest
      return (.text s, rest)
    | '[' :: rest =>
      match room with
      | 0 => none
      | room + 1 =>
        match skipBlanks rest with
        | ']' :: rest => some (.array [], rest)
        | rest => readItems? fuel room [] rest
    | '{' :: rest =>
      match room with
      | 0 => none
      | room + 1 =>
        match skipBlanks rest with
        | '}' :: rest => some (.object [], rest)
        | rest => readMembers? fuel room [] rest
    | input => do
      let (numeral, rest) ← Numeral.read? input
      let n ← numeral.value?
      return (.number n, rest)

/-- Read the items of an array up to its bracket; `done` holds the items read, last first. -/
def readItems? : Nat → Nat → List Json → List Char → Option (Json × List Char)
  | 0, _, _, _ => none
  | fuel + 1, room, done, input => do
    let (item, rest) ← readValue? fuel room input
    match skipBlanks rest with
    | ',' :: rest => readItems? fuel room (item :: done) (skipBlanks rest)
    | ']' :: rest => some (.array (item :: done).reverse, rest)
    | _ => none

/-- Read the members of an object up to its brace. -/
def readMembers? : Nat → Nat → Keyed Json → List Char → Option (Json × List Char)
  | 0, _, _, _ => none
  | fuel + 1, room, done, input =>
    match input with
    | '"' :: rest => do
      let (key, rest) ← readString? (rest.length + 1) [] rest
      match skipBlanks rest with
      | ':' :: rest =>
        let (value, rest) ← readValue? fuel room (skipBlanks rest)
        let done := Keyed.insert key value done
        match skipBlanks rest with
        | ',' :: rest => readMembers? fuel room done (skipBlanks rest)
        | '}' :: rest => some (.object done, rest)
        | _ => none
      | _ => none
    | _ => none

end

/-- The value of a text, which holds nothing else. -/
def parse? (input : String) : Option Json := do
  let chars := skipBlanks input.toList
  let (value, rest) ← readValue? (2 * chars.length + 2) deepest chars
  if (skipBlanks rest).isEmpty then some value else none

end Json

end Dialogue
