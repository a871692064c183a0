import Dialogue.Path
/-!
# The store

A store has two layers: the variables of one conversation, which every write goes to, and an
optional shared layer, which is read where the first layer has nothing. A path that is in neither
is undefined, which differs from a stored `null`.

## Main definitions

- `Json.put` — write at a path, making containers where they are missing
- `Json.outOfReach?` — the first array index along a path that a write may not create
- `Store`, `Store.get?`, `Store.set?`, `Store.clear`
-/

namespace Dialogue

namespace Json

/-- How far past the end of an array a write may reach. -/
def maxGap : Nat := 1024

/-- Replace the item at `position`, filling the places before it with `null` where the array is too
short. -/
def setItem (items : List Json) (position : Nat) (value : Json) : List Json :=
  if position < items.length then items.set position value
  else items ++ List.replicate (position - items.length) .null ++ [value]

/-- Replace the value directly inside at a segment. A value that cannot hold the segment gives way
to a container that can: an array for an index, an object for a name. -/
def setChild (root : Json) (s : Segment) (value : Json) : Json :=
  match root with
  | .object fields => .object (Keyed.insert s.name value fields)
  | .array items =>
    match s.position? with
    | some position => .array (setItem items position value)
    | none => .object [(s.name, value)]
  | _ =>
    match s with
    | .index position => .array (setItem [] position value)
    | .key name => .object [(name, value)]

/-- Write a value at a path. -/
def put (root : Json) (p : Path) (value : Json) : Json :=
  match p with
  | [] => value
  | s :: rest => root.setChild s (put ((root.child? s).getD .null) rest value)

/-- The first array index along a path that a write may not create: one more than `maxGap` past the
end of its array. A missing value is `none`. -/
def outOfReach? : Path → Option Json → Option Nat
  | [], _ => none
  | s :: rest, some (.object fields) => outOfReach? rest (Keyed.get? s.name fields)
  | s :: rest, some (.array items) =>
    match s.position? with
    | some position =>
      if items.length + maxGap < position then some position
      else outOfReach? rest items[position]?
    | none => outOfReach? rest none
  | .index position :: rest, _ =>
    if maxGap < position then some position else outOfReach? rest none
  | .key _ :: rest, _ => outOfReach? rest none

end Json

/-- The variables of a conversation over an optional shared layer. -/
structure Store where
  own : Json
  shared : Option Json
  deriving BEq, Repr, Inhabited

namespace Store

/-- No variables and no shared layer. -/
def empty : Store := ⟨.object [], none⟩

/-- The value at a path of segments, in the variables or else in the shared layer. -/
def at? (store : Store) (p : Path) : Option Json :=
  (store.own.get? p).or (store.shared.bind (Json.get? p))

/-- The value at the path that a text denotes. -/
def get? (store : Store) (path : String) : Option Json := store.at? (Path.parse path)

/-- Write a value at the path that a text denotes; nothing when an index is out of reach. -/
def set? (store : Store) (path : String) (value : Json) : Option Store :=
  let p := Path.parse path
  if (Json.outOfReach? p (some store.own)).isSome then none
  else some { store with own := store.own.put p value }

/-- Write a value, leaving the store as it is when an index is out of reach. -/
def set (store : Store) (path : String) (value : Json) : Store :=
  (store.set? path value).getD store

/-- Drop all variables. -/
def clear (store : Store) : Store := { store with own := .object [] }

/-- Writing leaves the shared layer alone. -/
@[simp] theorem shared_set (store : Store) (path : String) (value : Json) :
    (store.set path value).shared = store.shared := by
  unfold set set?
  dsimp only
  split <;> rfl

/-- Clearing leaves the shared layer alone. -/
@[simp] theorem shared_clear (store : Store) : store.clear.shared = store.shared := rfl

end Store

end Dialogue
