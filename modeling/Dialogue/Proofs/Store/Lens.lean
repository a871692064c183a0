import Dialogue.Proofs.Keyed
import Dialogue.Store.Basic
/-!
# The store as a lens

Reading a path, checking whether it may be written and writing it are three walks down a value, each
of which decides anew whether a segment is a name or a position. They agree: what was written is
read, the later of two writes of one path hides the earlier, and writing what is read changes
nothing.

## Main statements

- `Json.child?_setChild`, `Json.setChild_setChild`, `Json.setChild_eq_self` — the laws one level deep
- `Json.get?_put`, `Json.put_put`, `Json.put_eq_self` — the laws along a path
- `Json.outOfReach?_put`, `Json.outOfReach?_of_get?` — what is written or read is in reach
- `Store.lens_laws` — the laws of the store
-/

namespace Dialogue

namespace Json

/-! ### One level -/

theorem getElem?_setItem_self (items : List Json) (position : Nat) (value : Json) :
    (setItem items position value)[position]? = some value := by
  unfold setItem
  split
  · next h => simp [h]
  · next h =>
    have hlen : (items ++ List.replicate (position - items.length) Json.null).length = position := by
      rw [List.length_append, List.length_replicate]
      omega
    rw [List.getElem?_append_right (by omega), hlen]
    simp

theorem length_setItem (items : List Json) (position : Nat) (value : Json) :
    (setItem items position value).length = max items.length (position + 1) := by
  unfold setItem
  split
  · rw [List.length_set]
    omega
  · simp only [List.length_append, List.length_replicate, List.length_singleton]
    omega

theorem setItem_setItem (items : List Json) (position : Nat) (u v : Json) :
    setItem (setItem items position u) position v = setItem items position v := by
  have hlen := length_setItem items position u
  rw [setItem, if_pos (by omega)]
  unfold setItem
  split
  · exact List.set_set u
  · next h =>
    have hlen' : (items ++ List.replicate (position - items.length) Json.null).length = position := by
      rw [List.length_append, List.length_replicate]
      omega
    rw [List.set_append_right _ _ (by omega), hlen']
    simp

theorem setItem_eq_self {items : List Json} {position : Nat} {value : Json}
    (h : items[position]? = some value) : setItem items position value = items := by
  obtain ⟨hlt, hget⟩ := List.getElem?_eq_some_iff.1 h
  rw [setItem, if_pos hlt, ← hget, List.set_getElem_self]

/-- What was written one level deep is read there. -/
theorem child?_setChild (root : Json) (s : Segment) (value : Json) :
    (root.setChild s value).child? s = some value := by
  cases root with
  | object fields => simp [setChild, child?]
  | array items =>
    cases h : s.position? with
    | some position => simp [setChild, child?, h, getElem?_setItem_self]
    | none =>
      cases s with
      | key name => simp [setChild, child?, h, Keyed.get?, Segment.name]
      | index position => simp [Segment.position?] at h
  | null | bool | number | text =>
    cases s with
    | key name => simp [setChild, child?, Keyed.get?, Segment.name]
    | index position => simp [setChild, child?, Segment.position?, getElem?_setItem_self]

/-- The later of two writes one level deep hides the earlier. -/
theorem setChild_setChild (root : Json) (s : Segment) (u v : Json) :
    (root.setChild s u).setChild s v = root.setChild s v := by
  cases root with
  | object fields => simp [setChild, Keyed.insert_insert]
  | array items =>
    cases h : s.position? with
    | some position => simp [setChild, h, setItem_setItem]
    | none =>
      cases s with
      | key name => simp [setChild, h, Keyed.insert, Keyed.contains_cons, Keyed.replace, Segment.name]
      | index position => simp [Segment.position?] at h
  | null | bool | number | text =>
    cases s with
    | key name =>
      simp [setChild, Keyed.insert, Keyed.contains_cons, Keyed.replace, Segment.name]
    | index position => simp [setChild, Segment.position?, setItem_setItem]

/-- Writing the value that is there changes nothing. -/
theorem setChild_eq_self {root : Json} {s : Segment} {value : Json}
    (h : root.child? s = some value) : root.setChild s value = root := by
  cases root with
  | object fields => simp [setChild, Keyed.insert_eq_self h]
  | array items =>
    obtain ⟨position, hp, hget⟩ := Option.bind_eq_some_iff.1 h
    simp [setChild, hp, setItem_eq_self hget]
  | null | bool | number | text => simp [child?] at h

/-! ### Along a path -/

/-- What was written at a path is read there. -/
theorem get?_put (root : Json) (p : Path) (value : Json) :
    (root.put p value).get? p = some value := by
  induction p generalizing root with
  | nil => rfl
  | cons s rest ih => simp [put, get?_cons, child?_setChild, ih]

/-- The later of two writes at one path hides the earlier. -/
theorem put_put (root : Json) (p : Path) (u v : Json) :
    (root.put p u).put p v = root.put p v := by
  induction p generalizing root with
  | nil => rfl
  | cons s rest ih => simp [put, child?_setChild, setChild_setChild, ih]

/-- Writing the value that is read at a path changes nothing. -/
theorem put_eq_self {root : Json} {p : Path} {value : Json} (h : root.get? p = some value) :
    root.put p value = root := by
  induction p generalizing root with
  | nil => exact (Option.some.inj h).symm
  | cons s rest ih =>
    obtain ⟨child, hchild, hrest⟩ := Option.bind_eq_some_iff.1 h
    simp [put, hchild, ih hrest, setChild_eq_self hchild]

/-! ### Reach -/

/-- A write may create what a segment names directly inside a value, or in the place of a missing
one: no item too far past the end of its array. -/
def InReach (s : Segment) : Option Json → Prop
  | some (.object _) => True
  | some (.array items) => ∀ position, s.position? = some position → position ≤ items.length + maxGap
  | _ => ∀ position, s = .index position → position ≤ maxGap

/-- A path is in reach when its first segment is, and its rest from what that names. -/
theorem outOfReach?_cons_eq_none {s : Segment} {rest : Path} {node : Option Json} :
    outOfReach? (s :: rest) node = none ↔
      InReach s node ∧ outOfReach? rest (node.bind (child? s)) = none := by
  have hleaf : outOfReach? (s :: rest) none = none ↔
      (∀ position, s = .index position → position ≤ maxGap) ∧ outOfReach? rest none = none := by
    cases s with
    | key name => simp [outOfReach?]
    | index position =>
      by_cases h : maxGap < position
      · refine ⟨fun hnone => by simp [outOfReach?, h] at hnone, fun hin => ?_⟩
        have := hin.1 position rfl
        omega
      · simp [outOfReach?, h]
        omega
  cases node with
  | none => exact hleaf
  | some root =>
    cases root with
    | object fields => simp [outOfReach?, InReach, child?]
    | array items =>
      cases hp : s.position? with
      | none => simp [outOfReach?, InReach, child?, hp]
      | some position =>
        by_cases h : items.length + maxGap < position
        · refine ⟨fun hnone => by simp [outOfReach?, hp, h] at hnone, fun hin => ?_⟩
          have := hin.1 position hp
          omega
        · simp [outOfReach?, InReach, child?, hp, h]
          omega
    | null | bool | number | text => cases s <;> exact hleaf

/-- What is there already is in reach. -/
theorem inReach_of_child? {root child : Json} {s : Segment} (h : root.child? s = some child) :
    InReach s (some root) := by
  cases root with
  | object fields => trivial
  | array items =>
    obtain ⟨position, hp, hget⟩ := Option.bind_eq_some_iff.1 h
    have hlt : position < items.length := (List.getElem?_eq_some_iff.1 hget).1
    intro other ho
    obtain rfl : position = other := Option.some.inj (hp.symm.trans ho)
    omega
  | null | bool | number | text => simp [child?] at h

/-- What a write has put at a path is in reach of the next write. -/
theorem outOfReach?_put {p : Path} {node : Option Json} (h : outOfReach? p node = none)
    (value : Json) : outOfReach? p (some ((node.getD .null).put p value)) = none := by
  induction p generalizing node with
  | nil => rfl
  | cons s rest ih =>
    have hwritten := child?_setChild (node.getD .null) s
      ((((node.getD .null).child? s).getD .null).put rest value)
    have hnode : ((node.getD .null).child? s).getD .null = (node.bind (child? s)).getD .null := by
      cases node <;> rfl
    refine outOfReach?_cons_eq_none.2 ⟨inReach_of_child? hwritten, ?_⟩
    rw [Option.bind_some, put, hwritten, hnode]
    exact ih (outOfReach?_cons_eq_none.1 h).2

/-- What is read at a path is in reach of a write. -/
theorem outOfReach?_of_get? {root : Json} {p : Path} {value : Json}
    (h : root.get? p = some value) : outOfReach? p (some root) = none := by
  induction p generalizing root with
  | nil => rfl
  | cons s rest ih =>
    obtain ⟨child, hchild, hrest⟩ := Option.bind_eq_some_iff.1 h
    refine outOfReach?_cons_eq_none.2 ⟨inReach_of_child? hchild, ?_⟩
    rw [Option.bind_some, hchild]
    exact ih hrest

end Json

namespace Store

variable {store written : Store} {path : String} {value : Json}

/-- A write succeeds exactly when the path is in reach, and then replaces the variables. -/
theorem set?_eq_some_iff : store.set? path value = some written ↔
    Json.outOfReach? (Path.parse path) (some store.own) = none ∧
      written = { store with own := store.own.put (Path.parse path) value } := by
  unfold set?
  cases h : Json.outOfReach? (Path.parse path) (some store.own) with
  | none => simpa [h] using eq_comm
  | some position => simp [h]

/-- What was written is read, whatever the shared layer holds. -/
theorem get?_of_set? (h : store.set? path value = some written) :
    written.get? path = some value := by
  obtain ⟨-, rfl⟩ := set?_eq_some_iff.1 h
  simp [get?, at?, Json.get?_put]

/-- Whether a write succeeds does not depend on the value. -/
theorem isSome_set? (store : Store) (path : String) (v w : Json) :
    (store.set? path v).isSome = (store.set? path w).isSome := by
  unfold set?
  dsimp only
  split <;> rfl

/-- The later of two writes of one path hides the earlier; both fail or neither. -/
theorem set?_set (store : Store) (path : String) (v w : Json) :
    (store.set path v).set? path w = store.set? path w := by
  cases h : store.set? path v with
  | none => rw [set, h, Option.getD_none]
  | some written =>
    obtain ⟨hreach, rfl⟩ := set?_eq_some_iff.1 h
    have hagain := Json.outOfReach?_put hreach v
    rw [Option.getD_some] at hagain
    rw [set, h, Option.getD_some, set?_eq_some_iff.2 ⟨hreach, rfl⟩, set?_eq_some_iff]
    exact ⟨hagain, by rw [Json.put_put]⟩

/-- Two writes of one path leave what the later of them leaves. -/
theorem set_set (store : Store) (path : String) (v w : Json) :
    (store.set path v).set path w = store.set path w := by
  have hagain := set?_set store path v w
  cases hw : store.set? path w with
  | some written =>
    rw [hw] at hagain
    rw [set, hagain, Option.getD_some, set, hw, Option.getD_some]
  | none =>
    -- Neither write is possible, so the first one has changed nothing either.
    have hv : store.set? path v = none := by
      rw [← Option.not_isSome_iff_eq_none, isSome_set? store path v w, hw]
      simp
    rw [set, hagain, hw, Option.getD_none, set, hv, set, hw]

/-- Writing the value that the variables hold already succeeds and changes nothing. -/
theorem set?_eq_self (h : store.own.get? (Path.parse path) = some value) :
    store.set? path value = some store :=
  set?_eq_some_iff.2 ⟨Json.outOfReach?_of_get? h, by rw [Json.put_eq_self h]⟩

/-- **Lens laws** of the store, for every path and whatever the shared layer holds: a write that
succeeds is read back; of two writes of one path the later decides, and they succeed or fail
together; writing a value that the variables hold already succeeds and changes nothing. -/
theorem lens_laws (store : Store) (path : String) (v w : Json) :
    (∀ written, store.set? path v = some written → written.get? path = some v) ∧
    ((store.set path v).set path w = store.set path w ∧
      (store.set? path v).isSome = (store.set? path w).isSome ∧
      ((store.set path v).set? path w).isSome = (store.set? path w).isSome) ∧
    (∀ u, store.own.get? (Path.parse path) = some u → store.set? path u = some store) := by
  refine ⟨fun written h => get?_of_set? h,
    ⟨set_set store path v w, isSome_set? store path v w, ?_⟩, fun u h => set?_eq_self h⟩
  rw [set?_set]

end Store

end Dialogue
