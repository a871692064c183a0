import Dialogue.Json.Basic
import Dialogue.Location
/-!
# Paths into stored values

A path is a list of segments, each a member name or an array index. Its text separates names by
points and puts each index in brackets after the name: `user.pets[0].name`.

## Main definitions

- `Segment`, `Path`, `Path.parse`, `Path.text`
- `Json.get?` — the value at a path
-/

namespace Dialogue

/-- One step of a path. -/
inductive Segment where
  | key (name : String)
  | index (position : Nat)
  deriving DecidableEq, Repr, Inhabited

/-- The steps from a value to a value inside. -/
abbrev Path := List Segment

namespace Segment

/-- The member a segment names in an object; an index names its decimal digits. -/
def name : Segment → String
  | .key name => name
  | .index position => toString position

/-- The place a segment names in an array; a name that reads as an index counts as one. -/
def position? : Segment → Option Nat
  | .key name => readIndex? name.toList
  | .index position => some position

/-- The segment on its own: a bare name, or an index in brackets. -/
def text : Segment → String
  | .key name => name
  | .index position => "[" ++ toString position ++ "]"

end Segment

namespace Path

/-- The parts of a text between its points. -/
def splitPoints : List Char → List (List Char)
  | [] => [[]]
  | '.' :: rest => [] :: splitPoints rest
  | c :: rest =>
    match splitPoints rest with
    | [] => [[c]]
    | part :: parts => (c :: part) :: parts

/-- The indices of a row of brackets. Inside a bracket, `open?` holds its characters so far, last
first. -/
def indices? (open? : Option (List Char)) : List Char → Option (List Nat)
  | [] => if open?.isNone then some [] else none
  | c :: rest =>
    match open? with
    | none => if c = '[' then indices? (some []) rest else none
    | some digits =>
      if c = ']' then do
        let i ← readIndex? digits.reverse
        let others ← indices? none rest
        return i :: others
      else indices? (some (c :: digits)) rest

/-- The segments of a part between points: a name, dropped when empty, and the indices after it. A
part whose brackets are malformed is a name as a whole. -/
def ofPart (part : List Char) : Path :=
  match indices? none (part.dropWhile (· != '[')) with
  | some indices =>
    let name := part.takeWhile (· != '[')
    (if name.isEmpty then [] else [.key (String.ofList name)]) ++ indices.map .index
  | none => [.key (String.ofList part)]

/-- The path that a text denotes. -/
def parse (s : String) : Path := (splitPoints s.toList).flatMap ofPart

/-- Append the text of one more segment; a name follows a point unless it comes first. -/
def extendText (front : String) : Segment → String
  | .key name => if front.isEmpty then name else front ++ "." ++ name
  | .index position => front ++ "[" ++ toString position ++ "]"

/-- The text of a path. -/
def text (p : Path) : String := p.foldl extendText ""

end Path

namespace Json

/-- The value directly inside at a segment. -/
def child? (s : Segment) : Json → Option Json
  | .object fields => Keyed.get? s.name fields
  | .array items => s.position?.bind (items[·]?)
  | _ => none

/-- The value at a path. -/
def get? : Path → Json → Option Json
  | [], root => some root
  | s :: rest, root => (root.child? s).bind (get? rest)

@[simp] theorem get?_nil (root : Json) : get? [] root = some root := rfl

theorem get?_cons (s : Segment) (rest : Path) (root : Json) :
    get? (s :: rest) root = (root.child? s).bind (get? rest) := rfl

/-- Reading a path is reading its front, then its rest in what was found there. -/
theorem get?_append (p q : Path) (root : Json) :
    get? (p ++ q) root = (get? p root).bind (get? q) := by
  induction p generalizing root with
  | nil => rfl
  | cons s p ih => cases h : root.child? s <;> simp [get?_cons, h, ih]

end Json

end Dialogue
