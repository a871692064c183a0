import Dialogue.Proofs.Json.Basic
import Dialogue.Template
/-!
# Tidy stores

Reading from a store of tidy values, writing a tidy value to it and expanding a tidy value over it
all give tidy values again.

## Main definitions

- `Store.Tidy` — both layers hold tidy values

## Main statements

- `Json.tidy_put`, `Store.Tidy.set` — writing
- `Store.Tidy.get?` — reading
- `Store.Tidy.expandValue` — expanding
-/

namespace Dialogue

namespace Json

/-- What is inside a tidy value is tidy. -/
theorem tidy_child? {root child : Json} {s : Segment} (hroot : root.Tidy)
    (h : root.child? s = some child) : child.Tidy := by
  cases root with
  | object fields => exact (tidy_object.1 hroot).2 _ (Keyed.mem_of_get? h)
  | array items =>
    obtain ⟨position, -, hitem⟩ := Option.bind_eq_some_iff.1 h
    exact tidy_array.1 hroot _ (List.mem_of_getElem? hitem)
  | _ => cases h

theorem tidy_get? {root value : Json} {p : Path} (hroot : root.Tidy)
    (h : root.get? p = some value) : value.Tidy := by
  induction p generalizing root with
  | nil => exact Option.some.inj h ▸ hroot
  | cons s rest ih =>
    obtain ⟨child, hchild, hrest⟩ := Option.bind_eq_some_iff.1 h
    exact ih (tidy_child? hroot hchild) hrest

theorem tidy_setItem {items : List Json} {value : Json} (hitems : ∀ item ∈ items, item.Tidy)
    (hvalue : value.Tidy) (position : Nat) : ∀ item ∈ setItem items position value, item.Tidy := by
  unfold setItem
  split
  · intro item hitem
    rcases List.mem_or_eq_of_mem_set hitem with hitem | rfl
    · exact hitems item hitem
    · exact hvalue
  · intro item hitem
    rw [List.mem_append, List.mem_append, List.mem_singleton] at hitem
    rcases hitem with (hitem | hitem) | rfl
    · exact hitems item hitem
    · rw [List.eq_of_mem_replicate hitem]
      trivial
    · exact hvalue

theorem tidy_singleton {key : String} {value : Json} (h : value.Tidy) :
    (object [(key, value)]).Tidy :=
  tidy_insert (tidy_object.2 ⟨.nil, by simp⟩) h key

theorem tidy_setChild {root value : Json} (hroot : root.Tidy) (hvalue : value.Tidy) (s : Segment) :
    (root.setChild s value).Tidy := by
  cases root with
  | object fields => exact tidy_insert hroot hvalue s.name
  | array items =>
    unfold setChild
    dsimp only
    split
    · exact tidy_array.2 (tidy_setItem (tidy_array.1 hroot) hvalue _)
    · exact tidy_singleton hvalue
  | _ =>
    cases s with
    | index position => exact tidy_array.2 (tidy_setItem (by simp) hvalue position)
    | key name => exact tidy_singleton hvalue

/-- Writing a tidy value into a tidy value. -/
theorem tidy_put {root value : Json} (hroot : root.Tidy) (hvalue : value.Tidy) (p : Path) :
    (root.put p value).Tidy := by
  induction p generalizing root with
  | nil => exact hvalue
  | cons s rest ih =>
    refine tidy_setChild hroot (ih ?_) s
    cases hchild : root.child? s with
    | none => trivial
    | some child => exact tidy_child? hroot hchild

end Json

namespace Store

/-- Both layers hold tidy values. -/
structure Tidy (store : Store) : Prop where
  own : store.own.Tidy
  shared : ∀ value ∈ store.shared, value.Tidy

namespace Tidy

variable {store : Store}

theorem set (h : store.Tidy) {value : Json} (hvalue : value.Tidy) (path : String) :
    (store.set path value).Tidy := by
  refine ⟨?_, by rw [shared_set]; exact h.shared⟩
  unfold Store.set set?
  dsimp only
  split
  · exact h.own
  · exact Json.tidy_put h.own hvalue _

theorem clear (h : store.Tidy) : store.clear.Tidy :=
  ⟨Json.tidy_object.2 ⟨.nil, by simp⟩, h.shared⟩

theorem get? (h : store.Tidy) {path : String} {value : Json}
    (hvalue : store.get? path = some value) : value.Tidy := by
  rcases Option.or_eq_some_iff.1 hvalue with hown | ⟨-, hshared⟩
  · exact Json.tidy_get? h.own hown
  · obtain ⟨shared, hlayer, hread⟩ := Option.bind_eq_some_iff.1 hshared
    exact Json.tidy_get? (h.shared shared hlayer) hread

theorem lone? (h : store.Tidy) {s : String} {value : Json} (hvalue : store.lone? s = some value) :
    value.Tidy := by
  obtain ⟨path, -, hread⟩ := Option.bind_eq_some_iff.1 hvalue
  exact h.get? hread

theorem expandText (h : store.Tidy) (s : String) : (store.expandText s).Tidy := by
  unfold Store.expandText
  split
  · next value hvalue => exact h.lone? hvalue
  · trivial

end Tidy

theorem expandItems_eq (store : Store) (items : List Json) :
    store.expandItems items = items.map store.expandValue := by
  induction items with
  | nil => rfl
  | cons item rest ih => rw [expandItems, ih, List.map_cons]

theorem expandFields_eq (store : Store) (fields : List (String × Json)) :
    store.expandFields fields = fields.map fun p => (p.1, store.expandValue p.2) := by
  induction fields with
  | nil => rfl
  | cons p rest ih => rw [expandFields, ih, List.map_cons]

/-- Expanding a tidy value over tidy values. -/
theorem Tidy.expandValue {store : Store} (h : store.Tidy) {value : Json} (hvalue : value.Tidy) :
    (store.expandValue value).Tidy := by
  induction value using Json.induction with
  | null => trivial
  | bool => trivial
  | number => exact hvalue
  | text s => exact h.expandText s
  | array items ih =>
    rw [Store.expandValue, expandItems_eq, Json.tidy_array]
    intro item hitem
    obtain ⟨old, hold, rfl⟩ := List.mem_map.1 hitem
    exact ih old hold (Json.tidy_array.1 hvalue old hold)
  | object fields ih =>
    obtain ⟨hsorted, htidy⟩ := Json.tidy_object.1 hvalue
    rw [Store.expandValue, expandFields_eq, Json.tidy_object]
    refine ⟨?_, fun p hp => ?_⟩
    · rw [Keyed.Sorted, Keyed.keys, List.map_map]
      exact hsorted
    · obtain ⟨old, hold, rfl⟩ := List.mem_map.1 hp
      exact ih old hold (htidy old hold)

end Store

end Dialogue
