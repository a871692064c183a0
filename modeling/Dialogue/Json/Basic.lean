import Dialogue.Number.Binary64
import Dialogue.Keyed
/-!
# JSON values

The values that conversations store, that documents are written in and that patches carry. An object
keeps its members in increasing order of their names. A number is either a whole number or a
binary64 number, and `1` and `1.0` are different values.

## Main definitions

- `Number`, `Json` — the values
- `Json.same` — equality of values, in which `0.0` and `-0.0` agree
- `Json.depth` — how deep arrays and objects nest
- `Json.Tidy` — every object has its members in order, and every number is one
-/

namespace Dialogue

/-- A number: a whole one, or a binary64 one. -/
inductive Number where
  | whole (value : Int)
  | real (value : Binary64)
  deriving DecidableEq, Repr, Inhabited

namespace Number

/-- Equality of numbers of the same kind. -/
def same : Number → Number → Bool
  | .whole a, .whole b => a == b
  | .real a, .real b => a.same b
  | _, _ => false

/-- The nearest binary64 number. -/
def toReal : Number → Binary64
  | .whole n => Binary64.ofInt n
  | .real x => x

end Number

/-- A JSON value. -/
inductive Json where
  | null
  | bool (value : Bool)
  | number (value : Number)
  | text (value : String)
  | array (items : List Json)
  | object (fields : List (String × Json))
  deriving BEq, Repr, Inhabited

namespace Json

/-- A whole number as a value. -/
def whole (n : Int) : Json := .number (.whole n)

/-- A binary64 number as a value. -/
def real (x : Binary64) : Json := .number (.real x)

mutual

/-- Equality of values: structural, with numbers compared by `Number.same`. -/
def same : Json → Json → Bool
  | .null, .null => true
  | .bool a, .bool b => a == b
  | .number a, .number b => a.same b
  | .text a, .text b => a == b
  | .array a, .array b => sameItems a b
  | .object a, .object b => sameFields a b
  | _, _ => false

/-- Item by item, `same`. -/
def sameItems : List Json → List Json → Bool
  | [], [] => true
  | a :: as, b :: bs => same a b && sameItems as bs
  | _, _ => false

/-- Member by member, the same name and `same`. -/
def sameFields : List (String × Json) → List (String × Json) → Bool
  | [], [] => true
  | (k, a) :: as, (l, b) :: bs => k == l && same a b && sameFields as bs
  | _, _ => false

end

mutual

/-- How deep arrays and objects nest. -/
def depth : Json → Nat
  | .array items => depthItems items + 1
  | .object fields => depthFields fields + 1
  | .null => 0
  | .bool _ => 0
  | .number _ => 0
  | .text _ => 0

/-- The greatest depth of the items. -/
def depthItems : List Json → Nat
  | [] => 0
  | item :: rest => max (depth item) (depthItems rest)

/-- The greatest depth of the members. -/
def depthFields : List (String × Json) → Nat
  | [] => 0
  | (_, value) :: rest => max (depth value) (depthFields rest)

end

mutual

/-- Every object in the value has its members in order, and no number in it is the binary64 value
that is no number. -/
def Tidy : Json → Prop
  | .array items => TidyItems items
  | .object fields => Keyed.Sorted fields ∧ TidyFields fields
  | .null => True
  | .bool _ => True
  | .number n => n.same n
  | .text _ => True

/-- Every item is tidy. -/
def TidyItems : List Json → Prop
  | [] => True
  | item :: rest => Tidy item ∧ TidyItems rest

/-- Every member is tidy. -/
def TidyFields : List (String × Json) → Prop
  | [] => True
  | (_, value) :: rest => Tidy value ∧ TidyFields rest

end

/-- Whether the value is `null`. -/
def isNull : Json → Bool
  | .null => true
  | _ => false

/-- The members of an object. -/
def fields? : Json → Option (Keyed Json)
  | .object fields => some fields
  | _ => none

end Json

end Dialogue
