import Dialogue.Path
/-!
# Patches

A patch turns one value into another by adding, removing and replacing values at paths. The
difference of two values compares objects member by member and arrays item by item, and replaces
whatever else differs.

## Main definitions

- `Patch`, `Patch.apply`, `Json.patch` — one change, and a row of them carried out
- `Json.diff` — the changes from one value to another
-/

namespace Dialogue

/-- One change of a value. -/
inductive Patch where
  | add (path : Path) (value : Json)
  | remove (path : Path)
  | replace (path : Path) (value : Json)
  deriving BEq, Repr, Inhabited

/-- Why a change does not fit a value. -/
inductive PatchFault where
  | pathNotFound (path : Path)
  | notAContainer (path : Path)
  deriving DecidableEq, Repr, Inhabited

/-- The wording of a fault. -/
def PatchFault.message : PatchFault → String
  | .pathNotFound path => "no value at '" ++ path.text ++ "'"
  | .notAContainer path => "cannot add at '" ++ path.text ++ "': parent is not a container"

namespace Json

/-- Replace the value directly inside at a segment, if there is one. -/
def overwriteChild? (s : Segment) (root value : Json) : Option Json :=
  match root with
  | .object fields =>
    if Keyed.contains s.name fields then some (.object (Keyed.replace s.name value fields)) else none
  | .array items => do
    let position ← s.position?
    if position < items.length then some (.array (items.set position value)) else none
  | _ => none

/-- Change the value at a path; nothing when there is none. -/
def updateAt {ε : Type} (missing : ε) (change : Json → Except ε Json) :
    Path → Json → Except ε Json
  | [], root => change root
  | s :: rest, root =>
    match root.child? s with
    | none => .error missing
    | some child => do
      let child ← updateAt missing change rest child
      match root.overwriteChild? s child with
      | some root => return root
      | none => throw missing

/-- Add a value directly inside: a member of an object, or an item put before the item at its
position. -/
def addChild (path : Path) (s : Segment) (value : Json) : Json → Except PatchFault Json
  | .object fields => .ok (.object (Keyed.insert s.name value fields))
  | .array items =>
    match s.position? with
    | some position =>
      if position ≤ items.length then
        .ok (.array (items.take position ++ value :: items.drop position))
      else .error (.pathNotFound path)
    | none => .error (.pathNotFound path)
  | _ => .error (.notAContainer path)

/-- Remove the value directly inside at a segment. -/
def removeChild (path : Path) (s : Segment) : Json → Except PatchFault Json
  | .object fields =>
    if Keyed.contains s.name fields then .ok (.object (Keyed.erase s.name fields))
    else .error (.pathNotFound path)
  | .array items =>
    match s.position? with
    | some position =>
      if position < items.length then .ok (.array (items.eraseIdx position))
      else .error (.pathNotFound path)
    | none => .error (.pathNotFound path)
  | _ => .error (.pathNotFound path)

/-- Replace the value directly inside at a segment. -/
def replaceChild (path : Path) (s : Segment) (value root : Json) : Except PatchFault Json :=
  match root.overwriteChild? s value with
  | some root => .ok root
  | none => .error (.pathNotFound path)

/-- Split off the last segment of a path. -/
def splitLast? (path : Path) : Option (Path × Segment) :=
  path.getLast?.map (path.dropLast, ·)

/-- Carry out one change. With an empty path it concerns the whole value, which `null` replaces when
it is removed. -/
def applyPatch (root : Json) : Patch → Except PatchFault Json
  | .add path value =>
    match splitLast? path with
    | none => .ok value
    | some (parent, last) =>
      updateAt (.pathNotFound path) (addChild path last value) parent root
  | .remove path =>
    match splitLast? path with
    | none => .ok .null
    | some (parent, last) =>
      updateAt (.pathNotFound path) (removeChild path last) parent root
  | .replace path value =>
    match splitLast? path with
    | none => .ok value
    | some (parent, last) =>
      updateAt (.pathNotFound path) (replaceChild path last value) parent root

/-- Carry out changes in order, up to the first that does not fit. -/
def patch (root : Json) : List Patch → Except PatchFault Json
  | [] => .ok root
  | p :: rest => do (← root.applyPatch p).patch rest

/-- The members of the second object that are not in the first, as additions. -/
def additions (path : Path) (old new : Keyed Json) : List Patch :=
  (new.filter fun (key, _) => !Keyed.contains key old).map fun (key, value) =>
    .add (path ++ [.key key]) value

/-- The additions of items from a position on. -/
def appendItems (path : Path) : Nat → List Json → List Patch
  | _, [] => []
  | position, value :: rest =>
    .add (path ++ [.index position]) value :: appendItems path (position + 1) rest

/-- The removals of `count` items from a position on, the last item first. -/
def dropItems (path : Path) (position : Nat) : Nat → List Patch
  | 0 => []
  | count + 1 => .remove (path ++ [.index (position + count)]) :: dropItems path position count

mutual

/-- The changes from a value at a path to another. -/
def diffAt (path : Path) : Json → Json → List Patch
  | .object old, .object new => diffFields path old new ++ additions path old new
  | .array old, .array new => diffItems path 0 old new
  | old, new => if old.same new then [] else [.replace path new]

/-- The changes to the members of the first object. -/
def diffFields (path : Path) : List (String × Json) → Keyed Json → List Patch
  | [], _ => []
  | (key, old) :: rest, new =>
    (match Keyed.get? key new with
      | some value => diffAt (path ++ [.key key]) old value
      | none => [.remove (path ++ [.key key])]) ++ diffFields path rest new

/-- The changes to the items of two arrays from a position on. -/
def diffItems (path : Path) (position : Nat) : List Json → List Json → List Patch
  | [], new => appendItems path position new
  | old, [] => dropItems path position old.length
  | old :: olds, new :: news =>
    diffAt (path ++ [.index position]) old new ++ diffItems path (position + 1) olds news

end

/-- The changes that turn one value into another. -/
def diff (before after : Json) : List Patch := diffAt [] before after

end Json

end Dialogue
