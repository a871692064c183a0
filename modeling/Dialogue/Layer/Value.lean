import Dialogue.Json.Basic
import Dialogue.Text.Case
/-!
# Layered values

Settings come from several sources, each laid over the ones before. Tables are merged member by
member, and every other value replaces what was there. The names of members are kept in lower case.

## Main definitions

- `LayerValue` — the values that sources hold
- `LayerValue.assign` — lay a member over a table
- `PlaceStep`, `LayerValue.placeAt`, `readPlace?` — lay a value at a place inside
-/

namespace Dialogue

/-- A value of a source of settings. -/
inductive LayerValue where
  | nothing
  | flag (value : Bool)
  | whole (value : Int)
  | real (value : Binary64)
  | text (value : String)
  | list (items : List LayerValue)
  | table (members : List (String × LayerValue))
  deriving BEq, Repr, Inhabited

/-- One step of the place of a value. -/
inductive PlaceStep where
  | member (name : String)
  | item (position : Nat)
  deriving DecidableEq, Repr, Inhabited

namespace LayerValue

/-- The members of a table; other values have none. -/
def members : LayerValue → Keyed LayerValue
  | .table members => members
  | _ => []

/-- The items of a list; other values have none. -/
def items : LayerValue → List LayerValue
  | .list items => items
  | _ => []

/-- Lay a member that is no table over a table. -/
def assignPlain (root : LayerValue) (name : String) (value : LayerValue) : LayerValue :=
  if Keyed.contains name root.members then .table (Keyed.replace name value root.members)
  else .table (Keyed.insert (lowercase name) value root.members)

mutual

/-- Lay a member over a table; what is no table gives way to one. -/
def assign (root : LayerValue) (name : String) : LayerValue → LayerValue
  | .table incoming =>
    let key := lowercase name
    let target := (Keyed.get? key root.members).getD (.table [])
    .table (Keyed.insert key (assignAll target incoming) root.members)
  | .nothing => assignPlain root name .nothing
  | .flag b => assignPlain root name (.flag b)
  | .whole n => assignPlain root name (.whole n)
  | .real x => assignPlain root name (.real x)
  | .text s => assignPlain root name (.text s)
  | .list items => assignPlain root name (.list items)

/-- Lay members over a table, one after the other. -/
def assignAll (root : LayerValue) : List (String × LayerValue) → LayerValue
  | [] => root
  | (name, value) :: rest => assignAll (assign root name value) rest

end

/-- Replace the item at a position, making the list long enough. -/
def setItem (items : List LayerValue) (position : Nat) (value : LayerValue) : List LayerValue :=
  (items ++ List.replicate (position + 1 - items.length) LayerValue.nothing).set position value

/-- Lay a value at a place, making tables and lists on the way. -/
def placeAt : List PlaceStep → LayerValue → LayerValue → LayerValue
  | [], _, value => value
  | [.member name], root, value => assign root name value
  | .member name :: rest, root, value =>
    let child := (Keyed.get? name root.members).getD .nothing
    .table (Keyed.insert name (placeAt rest child value) root.members)
  | .item position :: rest, root, value =>
    let child := (root.items[position]?).getD .nothing
    .list (setItem root.items position (placeAt rest child value))

end LayerValue

/-- The characters of names in the text of a place. -/
def isPlaceChar (c : Char) : Bool := c.isAlphanum || c == '_' || c == '-' || c == ' '

/-- Read the steps of a place after the first one; `fuel` bounds their number. -/
def readPlaceSteps? : Nat → List Char → Option (List PlaceStep)
  | 0, _ => none
  | _ + 1, [] => some []
  | fuel + 1, '.' :: rest =>
    let name := rest.takeWhile isPlaceChar
    if name.isEmpty then none
    else (readPlaceSteps? fuel (rest.dropWhile isPlaceChar)).map (.member (String.ofList name) :: ·)
  | fuel + 1, '[' :: rest =>
    let digits := (rest.dropWhile (· == ' ')).takeWhile Char.isDigit
    match ((rest.dropWhile (· == ' ')).dropWhile Char.isDigit).dropWhile (· == ' ') with
    | ']' :: rest =>
      if digits.isEmpty then none
      else (readPlaceSteps? fuel rest).map
        (.item (digits.foldl (fun n c => 10 * n + (c.toNat - '0'.toNat)) 0) :: ·)
    | _ => none
  | _ + 1, _ => none

/-- The place that a text denotes: names with points between them and positions in brackets. -/
def readPlace? (s : String) : Option (List PlaceStep) :=
  let cs := s.toList
  let name := cs.takeWhile isPlaceChar
  if name.isEmpty then none
  else (readPlaceSteps? (cs.length + 1) (cs.dropWhile isPlaceChar)).map
    (.member (String.ofList name) :: ·)

/-- Lay a value at the place that a text denotes; a text that denotes none is a name. -/
def LayerValue.put (root : LayerValue) (place : String) (value : LayerValue) : LayerValue :=
  match readPlace? place with
  | some steps => placeAt steps root value
  | none => root.assign place value

end Dialogue
