import Dialogue.Json.Basic
import Dialogue.Location
/-!
# Records in JSON

A record is an object in which each field goes by a name or one of its aliases; members that name no
field are ignored, and a field under two of its names is an error. A record may also be an array with
the fields in their order, from which trailing fields may be missing.

An optional field may be `null`; a field with a default may be missing but not `null`; any other
field is required.

## Main definitions

- `Record.slots?` — what a value gives for each field
- `Record.optional`, `Record.defaulted`, `Record.required` — reading one field
- `Json.record` — the object with the fields that are present
-/

namespace Dialogue

namespace Json

/-- The text of a string. -/
def text? : Json → Option String
  | .text s => some s
  | _ => none

/-- The truth value of a boolean. -/
def bool? : Json → Option Bool
  | .bool b => some b
  | _ => none

/-- The binary64 number nearest to a number. -/
def real? : Json → Option Binary64
  | .number n => some n.toReal
  | _ => none

/-- The natural that a whole number less than `indexBound` denotes. -/
def natural? : Json → Option Nat
  | .number (.whole (.ofNat n)) => if n < indexBound then some n else none
  | _ => none

/-- The items of an array, each read. -/
def items? {α : Type} (read : Json → Option α) : Json → Option (List α)
  | .array items => items.mapM read
  | _ => none

/-- The members of an object, each read. -/
def keyed? {α : Type} (read : Json → Option α) : Json → Option (Keyed α)
  | .object fields => fields.mapM fun (key, value) => (read value).map (key, ·)
  | _ => none

/-- The name a value gives out of a fixed choice: a string, or an object whose one member is
`null`. -/
def choice? : Json → Option String
  | .text s => some s
  | .object [(s, .null)] => some s
  | _ => none

/-- The object with the fields that are present. -/
def record (fields : List (String × Option Json)) : Json :=
  .object (Keyed.ofList (fields.filterMap fun (key, value) => value.map (key, ·)))

/-- The object whose members are strings. -/
def texts (fields : Keyed String) : Json := .object (fields.map fun (key, s) => (key, .text s))

end Json

namespace Record

variable {α : Type}

/-- The member under one of the names; nothing when there are two. -/
def member? (fields : Keyed Json) (names : List String) : Option (Option Json) :=
  match names.filterMap (Keyed.get? · fields) with
  | [] => some none
  | [value] => some (some value)
  | _ => none

/-- What a value gives for each field of a record, the fields listed with all their names. -/
def slots? (fields : List (List String)) : Json → Option (List (Option Json))
  | .object members => fields.mapM (member? members)
  | .array items =>
    if items.length ≤ fields.length then
      some (items.map some ++ List.replicate (fields.length - items.length) none)
    else none
  | _ => none

/-- Read a field that may be missing or `null`. -/
def optional (read : Json → Option α) : Option Json → Option (Option α)
  | none => some none
  | some .null => some none
  | some value => (read value).map some

/-- Read a field that may be missing. -/
def defaulted (default : α) (read : Json → Option α) : Option Json → Option α
  | none => some default
  | some value => read value

/-- Read a field that may not be missing. -/
def required (read : Json → Option α) (slot : Option Json) : Option α := slot.bind read

end Record

end Dialogue
