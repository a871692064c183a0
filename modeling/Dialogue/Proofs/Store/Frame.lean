import Dialogue.Proofs.Store.Lens
/-!
# Writes stay local

Two paths part where they come to different places inside one value: to two members of an object or
to two items of an array. Which place a segment names depends on the value it meets, so that `a.1`
and `a[01]` are one place of an array and two of an object. A write at one path leaves what is read
at the other as it was, unless an array or a primitive value had to give way to it.

## Main definitions

- `Json.Place`, `Json.place?` — the place that a segment names inside a value
- `Json.parts` — whether two paths part inside a value
- `Json.displaces` — whether an array or a primitive value gives way to a write at a path

## Main statements

- `Json.child?_setChild_of_ne` — one level deep
- `Json.get?_put_of_parts` — along a path
- `Store.writes_local`
-/

namespace Dialogue

namespace Json

/-- A place inside a container: a member of an object, or an item of an array. -/
inductive Place where
  | member (name : String)
  | item (position : Nat)
  deriving DecidableEq, Repr

/-- The place that a segment names inside a value. An array has none for a name that is no index. -/
def place? (s : Segment) : Json → Option Place
  | .object _ => some (.member s.name)
  | .array _ => s.position?.map .item
  | _ => none

/-- Whether two paths come to different places of one value on their way from the root. -/
def parts : Path → Path → Json → Bool
  | s :: p, t :: q, root =>
    if root.place? s = root.place? t then (root.child? s).any (parts p q) else true
  | _, _, _ => false

/-- Whether an array or a primitive value gives way to a write at a path. It does where it has no
place for the segment; `null` counts as no value. -/
def displaces : Path → Json → Bool
  | [], _ => false
  | s :: rest, root =>
    (!root.isNull && (root.place? s).isNone) || (root.child? s).any (displaces rest)

/-! ### One level -/

/-- An item at another position stays. -/
theorem getElem?_setItem_of_ne {items : List Json} {position other : Nat} {item : Json}
    (hne : position ≠ other) (hitem : items[other]? = some item) (value : Json) :
    (setItem items position value)[other]? = some item := by
  have hlt : other < items.length := (List.getElem?_eq_some_iff.1 hitem).1
  unfold setItem
  by_cases hinside : position < items.length
  · rw [if_pos hinside, List.getElem?_set_ne hne, hitem]
  · -- The array is made longer, which moves none of its items.
    rw [if_neg hinside, List.append_assoc, List.getElem?_append_left hlt, hitem]

/-- Segments that name the same place name the same child. -/
theorem child?_congr {root : Json} {s t : Segment} (h : root.place? s = root.place? t) :
    root.child? s = root.child? t := by
  cases root with
  | object fields =>
    have hname : s.name = t.name := Place.member.inj (Option.some.inj h)
    rw [child?, child?, hname]
  | array items =>
    have hposition : s.position? = t.position? :=
      Option.map_injective (fun _ _ => Place.item.inj) h
    rw [child?, child?, hposition]
  | null | bool | number | text => rfl

/-- A value that has something inside at a segment has a place for it. -/
theorem exists_place_of_child? {root child : Json} {s : Segment} (h : root.child? s = some child) :
    ∃ place, root.place? s = some place := by
  cases root with
  | object fields => exact ⟨_, rfl⟩
  | array items =>
    obtain ⟨position, hposition, -⟩ := Option.bind_eq_some_iff.1 h
    exact ⟨.item position, congrArg (Option.map Place.item) hposition⟩
  | null | bool | number | text => cases h

/-- A container that has a place for a segment has the same places when something is written
there. -/
theorem place?_setChild {root : Json} {s : Segment} {place : Place} (h : root.place? s = some place)
    (value : Json) (t : Segment) : (root.setChild s value).place? t = root.place? t := by
  cases root with
  | object fields => rfl
  | array items =>
    obtain ⟨position, hposition, -⟩ := Option.map_eq_some_iff.1 h
    rw [setChild, hposition]
    rfl
  | null | bool | number | text => cases h

/-- **A write one level deep leaves the other places of the container alone.** -/
theorem child?_setChild_of_ne {root child : Json} {s t : Segment} {place other : Place}
    (hs : root.place? s = some place) (ht : root.place? t = some other) (hne : place ≠ other)
    (hchild : root.child? t = some child) (value : Json) :
    (root.setChild s value).child? t = some child := by
  cases root with
  | object fields =>
    obtain rfl := Option.some.inj hs
    obtain rfl := Option.some.inj ht
    have hname : t.name ≠ s.name := fun hsame => hne (congrArg Place.member hsame.symm)
    rw [setChild, child?, Keyed.get?_insert_of_ne hname]
    exact hchild
  | array items =>
    obtain ⟨position, hposition, rfl⟩ := Option.map_eq_some_iff.1 hs
    obtain ⟨position', hposition', rfl⟩ := Option.map_eq_some_iff.1 ht
    have hdiffer : position ≠ position' := fun hsame => hne (congrArg Place.item hsame)
    rw [child?, hposition', Option.bind_some] at hchild
    rw [setChild, hposition]
    show (t.position?.bind fun i => (setItem items position value)[i]?) = some child
    rw [hposition', Option.bind_some, getElem?_setItem_of_ne hdiffer hchild]
  | null | bool | number | text => cases hs

/-! ### Along a path -/

/-- **A write at one path leaves what is read at another alone**, if the two part and no array and no
primitive value gives way. -/
theorem get?_put_of_parts {p q : Path} {root u : Json} (hparts : parts p q root = true)
    (hstays : displaces p root = false) (hget : root.get? q = some u) (value : Json) :
    (root.put p value).get? q = some u := by
  -- Up to the value where they part both paths go through the same children.
  induction p generalizing q root with
  | nil => cases hparts
  | cons s p ih =>
    cases q with
    | nil => cases hparts
    | cons t q =>
      obtain ⟨child, hchild, hrest⟩ := Option.bind_eq_some_iff.1 hget
      obtain ⟨other, hother⟩ := exists_place_of_child? hchild
      rw [displaces, Bool.or_eq_false_iff] at hstays
      obtain ⟨hroot, hinside⟩ := hstays
      rw [parts] at hparts
      by_cases hsame : root.place? s = root.place? t
      · have hs : root.child? s = some child := (child?_congr hsame).trans hchild
        rw [if_pos hsame, hs, Option.any_some] at hparts
        rw [hs, Option.any_some] at hinside
        have hplaces : (root.setChild s (child.put p value)).place? s =
            (root.setChild s (child.put p value)).place? t := by
          rw [place?_setChild (hsame.trans hother), place?_setChild (hsame.trans hother), hsame]
        rw [put, hs, Option.getD_some, get?_cons, ← child?_congr hplaces, child?_setChild,
          Option.bind_some]
        exact ih hparts hinside hrest
      · have hvalue : root.isNull = false := by
          cases root with
          | null => cases hchild
          | _ => rfl
        rw [hvalue, Bool.not_false, Bool.true_and, Option.isNone_eq_false_iff] at hroot
        obtain ⟨place, hplace⟩ := Option.isSome_iff_exists.1 hroot
        have hne : place ≠ other := by
          rintro rfl
          exact hsame (hplace.trans hother.symm)
        rw [put, get?_cons, child?_setChild_of_ne hplace hother hne hchild, Option.bind_some]
        exact hrest

end Json

namespace Store

/-- **Writes stay local.** A write that succeeds, and to which no array and no primitive value gives
way, leaves what the variables hold at every path that parts from its own. No write and no clearing
touches the shared layer, and once the variables are dropped every path that names something is read
from the shared layer alone. -/
theorem writes_local (store : Store) (path : String) (value : Json) :
    (∀ written, store.set? path value = some written →
      Json.displaces (Path.parse path) store.own = false →
      ∀ other u, Json.parts (Path.parse path) (Path.parse other) store.own = true →
        store.own.get? (Path.parse other) = some u →
        written.own.get? (Path.parse other) = some u) ∧
    (store.set path value).shared = store.shared ∧
    (∀ written, store.set? path value = some written → written.shared = store.shared) ∧
    store.clear.shared = store.shared ∧
    ∀ other, Path.parse other ≠ [] →
      store.clear.get? other = store.shared.bind (Json.get? (Path.parse other)) := by
  refine ⟨?_, shared_set store path value, ?_, rfl, ?_⟩
  · intro written hset hstays other u hparts hget
    obtain ⟨-, rfl⟩ := set?_eq_some_iff.1 hset
    exact Json.get?_put_of_parts hparts hstays hget value
  · intro written hset
    obtain ⟨-, rfl⟩ := set?_eq_some_iff.1 hset
    rfl
  · intro other hother
    obtain ⟨s, rest, hpath⟩ := List.exists_cons_of_ne_nil hother
    have hnone : (Json.object []).get? (s :: rest) = none := rfl
    rw [get?, at?, hpath, clear, hnone, Option.none_or]

/-- Two boxes on a shelf, under a note that all conversations share. -/
def shelf : Store where
  own := .object [("boxes", .array [.object [("label", .text "bolts")], .object []])]
  shared := some (.object [("note", .text "closed")])

/-- The second box is labelled, its position written as a name. -/
theorem writes_local_shelf :
    ∃ written, shelf.set? "boxes.+01.label" (.text "nuts") = some written ∧
      written.own.get? (Path.parse "boxes[0].label") = some (.text "bolts") ∧
      shelf.clear.get? "note" = shelf.shared.bind (Json.get? (Path.parse "note")) := by
  obtain ⟨hlocal, -, -, -, hcleared⟩ := writes_local shelf "boxes.+01.label" (.text "nuts")
  have hset : (shelf.set? "boxes.+01.label" (.text "nuts")).isSome := by decide +kernel
  obtain ⟨written, hwritten⟩ := Option.isSome_iff_exists.1 hset
  refine ⟨written, hwritten, ?_, hcleared "note" (by decide +kernel)⟩
  exact hlocal written hwritten (by decide +kernel) "boxes[0].label" _ (by decide +kernel) rfl

end Store

end Dialogue
