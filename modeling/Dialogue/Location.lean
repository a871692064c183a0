import Dialogue.Number.Binary64
import Dialogue.Text.White
/-!
# Locations

A location points at one step of a document: a page and the index of the step inside the page. Its
text is the page followed by the index in brackets; a text without an index means the first step.

## Main definitions

- `Location`, `Location.text`, `Location.parse?`
- `readIndex?` — the index that a text denotes
-/

namespace Dialogue

/-- The number of indices: an index is less than this. -/
def indexBound : Nat := 2 ^ 64

/-- The natural that a nonempty row of decimal digits denotes, when it is less than `indexBound`. -/
def readDigits? (digits : List Char) : Option Nat :=
  if digits.isEmpty || !digits.all Char.isDigit then none
  else
    let n := digits.foldl (fun n c => 10 * n + (c.toNat - '0'.toNat)) 0
    if n < indexBound then some n else none

/-- The index that a text denotes: an optional plus sign and decimal digits. -/
def readIndex? : List Char → Option Nat
  | '+' :: digits => readDigits? digits
  | digits => readDigits? digits

/-- Split at the last occurrence of a character, which belongs to neither part. -/
def splitLast? (c : Char) (cs : List Char) : Option (List Char × List Char) :=
  match cs.reverse.span (· != c) with
  | (_, []) => none
  | (after, _ :: before) => some (before.reverse, after.reverse)

/-- A step of a page. -/
structure Location where
  page : String
  index : Nat
  deriving DecidableEq, Repr, Inhabited

namespace Location

/-- The first step of a page. -/
def start (page : String) : Location := ⟨page, 0⟩

/-- The step after this one on the same page. -/
def successor (l : Location) : Location := ⟨l.page, l.index + 1⟩

/-- The text of a location: the page, then the index in brackets. -/
def text (l : Location) : String := l.page ++ "[" ++ toString l.index ++ "]"

/-- The location that a text denotes. A text that ends in a bracket must have an index in its last
pair of brackets, blanks around it allowed, and a page before them; any other text is a page and
holds no opening bracket. -/
def parse? (s : String) : Option Location :=
  match s.toList.reverse with
  | ']' :: body =>
    match splitLast? '[' body.reverse with
    | some (page, index) =>
      if page.isEmpty then none
      else (readIndex? (trim index)).map fun i => ⟨String.ofList page, i⟩
    | none => none
  | body => if body.isEmpty || body.contains '[' then none else some (start s)

end Location

end Dialogue
