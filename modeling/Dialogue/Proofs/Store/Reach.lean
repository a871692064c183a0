import Dialogue.Proofs.Path
import Dialogue.Proofs.Store.Lens
/-!
# How far a write may reach

A write goes down a path slot by slot: at each segment it takes the container it finds, or makes a new
one, and makes an array long enough to have the item. Nothing in that keeps an array from growing
without bound or, in 64-bit arithmetic, from staying too short for its item. The check before a write
looks at the value alone and refuses exactly the paths along which some array would grow too far.

## Main definitions

- `saturatingAdd`, `widened` — an array made longer in 64-bit arithmetic
- `Slot`, `Json.slot` — where a write goes on inside a value
- `Json.slots`, `Json.write?` — the slots along a path, and the write that goes through them unchecked
- `Json.Short` — every array is shorter than `2 ^ 63`

## Main statements

- `Json.outOfReach?_eq_none_iff` — the check and the growth of arrays
- `Json.write?_eq_put` — a write in reach goes through
- `Json.length_of_slot` — how long the arrays along a path become
- `Store.guard_exact`
-/

namespace Dialogue

/-- Addition of 64-bit numbers that stops at the largest one. -/
def saturatingAdd (m n : Nat) : Nat := min (m + n) (indexBound - 1)

theorem saturatingAdd_eq {m n : Nat} (h : m + n < indexBound) : saturatingAdd m n = m + n :=
  Nat.min_eq_left (Nat.le_sub_one_of_lt h)

/-- The items with `null` behind them as far as needed to have one at `position`. -/
def widened (items : List Json) (position : Nat) : List Json :=
  if items.length ≤ position then items.rightpad (saturatingAdd position 1) .null else items

theorem length_widened {items : List Json} {position : Nat} (h : position + 1 < indexBound) :
    (widened items position).length = max items.length (position + 1) := by
  unfold widened
  rw [saturatingAdd_eq h]
  split
  · rw [List.length_rightpad, Nat.max_comm]
  · omega

/-- The items that are there keep their positions, and `null` stands behind them. -/
theorem getElem?_widened {items : List Json} {position : Nat} (h : position + 1 < indexBound) :
    (widened items position)[position]? = some (items[position]?.getD .null) := by
  by_cases hlength : items.length ≤ position
  · have hnone : items[position]? = none := List.getElem?_eq_none hlength
    rw [widened, if_pos hlength, saturatingAdd_eq h, List.rightpad, hnone,
      List.getElem?_append_right hlength, List.getElem?_replicate, if_pos (by omega)]
    rfl
  · have hlt : position < items.length := Nat.lt_of_not_le hlength
    rw [widened, if_neg hlength, List.getElem?_eq_getElem hlt, Option.getD_some]

/-- Setting an item of the longer array is writing it. -/
theorem set_widened {items : List Json} {position : Nat} (h : position + 1 < indexBound)
    (value : Json) : (widened items position).set position value =
      Json.setItem items position value := by
  by_cases hlength : items.length ≤ position
  · obtain ⟨gap, rfl⟩ := Nat.exists_eq_add_of_le hlength
    rw [widened, if_pos hlength, saturatingAdd_eq h, List.rightpad, Json.setItem,
      if_neg (Nat.not_lt.2 hlength), List.set_append_right _ _ (Nat.le_add_right _ _),
      List.append_assoc]
    have hgap : items.length + gap - items.length = gap := by omega
    have hmore : items.length + gap + 1 - items.length = gap + 1 := by omega
    rw [hgap, hmore, List.replicate_succ',
      List.set_append_right _ _ (Nat.le_of_eq (List.length_replicate))]
    simp
  · rw [widened, if_neg hlength, Json.setItem, if_pos (Nat.lt_of_not_le hlength)]

/-! ### Slots -/

/-- Where a write goes on inside a value: at an item of an array or at a member of an object. Both may
be new. -/
inductive Slot where
  | item (items : List Json) (position : Nat)
  | member (fields : Keyed Json) (name : String)

namespace Slot

/-- What is in the slot once its array is long enough: `null` in a new one, and nothing at all where
the array is still too short. -/
def content? : Slot → Option Json
  | .item items position => (widened items position)[position]?
  | .member fields name => some ((Keyed.get? name fields).getD .null)

/-- The container of the slot with another value in it. -/
def fill : Slot → Json → Json
  | .item items position, value => .array ((widened items position).set position value)
  | .member fields name, value => .object (Keyed.insert name value fields)

/-- By how many items the array of the slot is made longer. -/
def growth : Slot → Nat
  | .item items position => (widened items position).length - items.length
  | .member _ _ => 0

/-- Where a short array grows little, its item is one of the first `2 ^ 64 - 1`. -/
theorem position_lt {items : List Json} {position : Nat} (hlength : items.length < 2 ^ 63)
    (hgrowth : (item items position).growth ≤ Json.maxGap + 1) : position + 1 < indexBound := by
  by_contra hlarge
  unfold indexBound at hlarge
  rw [growth, widened, if_pos (by omega), List.length_rightpad] at hgrowth
  unfold saturatingAdd indexBound Json.maxGap at hgrowth
  omega

end Slot

namespace Json

/-- The slot for a segment: in the value itself if that can hold the segment, and else in a new array
or object. -/
def slot (head : Json) (s : Segment) : Slot :=
  match head with
  | .object fields => .member fields s.name
  | .array items =>
    match s.position? with
    | some position => .item items position
    | none => .member [] s.name
  | _ =>
    match s with
    | .index position => .item [] position
    | .key name => .member [] name

/-- The slots along a path, as far as they can be entered. -/
def slots : Path → Json → List Slot
  | [], _ => []
  | s :: rest, head => head.slot s :: ((head.slot s).content?.elim [] (slots rest))

/-- Write at a path slot by slot, without a check; nothing when some slot cannot be entered. -/
def write? (value : Json) : Path → Json → Option Json
  | [], _ => some value
  | s :: rest, head =>
    (head.slot s).content?.bind fun inner => (write? value rest inner).map (head.slot s).fill

/-- Every array in the value is shorter than `2 ^ 63`. -/
inductive Short : Json → Prop where
  | null : Short .null
  | bool (b : Bool) : Short (.bool b)
  | number (n : Number) : Short (.number n)
  | text (s : String) : Short (.text s)
  | array {items : List Json} (hlength : items.length < 2 ^ 63)
      (hitems : ∀ item ∈ items, Short item) : Short (.array items)
  | object {fields : List (String × Json)} (hfields : ∀ p ∈ fields, Short p.2) :
      Short (.object fields)

/-- What a segment names inside a short value is short, also where nothing is there. -/
theorem Short.entered {head : Json} (h : head.Short) (s : Segment) :
    ((head.child? s).getD .null).Short := by
  cases hchild : head.child? s with
  | none => exact .null
  | some child =>
    cases h with
    | object hfields => exact hfields _ (Keyed.mem_of_get? hchild)
    | array hlength hitems =>
      obtain ⟨position, -, hitem⟩ := Option.bind_eq_some_iff.1 hchild
      exact hitems _ (List.mem_of_getElem? hitem)
    | null | bool | number | text => cases hchild

/-- What the slot for a segment says about reading, writing and checking there. -/
inductive Opens (head : Json) (s : Segment) : Slot → Prop where
  | item {items : List Json} {position : Nat} (hposition : s.position? = some position)
      (hchild : head.child? s = items[position]?)
      (hset : ∀ value, head.setChild s value = .array (setItem items position value))
      (hreach : InReach s (some head) ↔ position ≤ items.length + maxGap)
      (hshort : head.Short → items.length < 2 ^ 63) : Opens head s (.item items position)
  | member {fields : Keyed Json} {name : String} (hchild : head.child? s = Keyed.get? name fields)
      (hset : ∀ value, head.setChild s value = .object (Keyed.insert name value fields))
      (hreach : InReach s (some head)) : Opens head s (.member fields name)

/-- **The slot for a segment** in every kind of value. -/
theorem opens_slot (head : Json) (s : Segment) : Opens head s (head.slot s) := by
  have hnew : ∀ leaf : Json, (∀ s, leaf.child? s = none) → leaf.slot s = Json.null.slot s →
      (∀ value, leaf.setChild s value = Json.null.setChild s value) →
      (InReach s (some leaf) ↔ InReach s (some .null)) → Opens leaf s (leaf.slot s) := by
    intro leaf hchild hslot hset hreach
    rw [hslot]
    cases s with
    | key name =>
      exact .member (hchild _) hset (hreach.2 nofun)
    | index position =>
      refine .item rfl ((hchild _).trans rfl) hset ?_ fun _ => by decide
      rw [hreach]
      constructor
      · intro h
        exact Nat.le_add_left_of_le (h position rfl)
      · intro h other hother
        obtain rfl := Segment.index.inj hother
        simpa using h
  cases head with
  | object fields => exact .member rfl (fun _ => rfl) trivial
  | array items =>
    cases hposition : s.position? with
    | some position =>
      have hslot : (array items).slot s = .item items position := by rw [slot, hposition]
      rw [hslot]
      refine .item hposition ?_ (fun value => by rw [setChild, hposition]) ?_ fun h => ?_
      · rw [child?, hposition, Option.bind_some]
      · rw [InReach, hposition]
        exact ⟨fun h => h position rfl, fun h other ho => by rwa [← Option.some.inj ho]⟩
      · cases h with
        | array hlength => exact hlength
    | none =>
      cases s with
      | index position => cases hposition
      | key name =>
        have hslot : (array items).slot (.key name) = .member [] name := by rw [slot, hposition]; rfl
        rw [hslot]
        refine .member ?_ (fun value => by rw [setChild, hposition]; rfl) ?_
        · rw [child?, hposition]
          rfl
        · intro position hsome
          rw [hposition] at hsome
          cases hsome
  | null | bool | number | text => exact hnew _ (fun _ => rfl) rfl (fun _ => rfl) Iff.rfl

variable {head : Json} {s : Segment} {p : Path}

/-- Entering a slot comes to what the segment names, if its array grows little. -/
theorem Short.content?_slot (h : head.Short) (hgrowth : (head.slot s).growth ≤ maxGap + 1) :
    (head.slot s).content? = some ((head.child? s).getD .null) := by
  have hopens := opens_slot head s
  generalize head.slot s = slot at hopens hgrowth ⊢
  cases hopens with
  | item _ hchild _ _ hshort =>
    rw [Slot.content?, getElem?_widened (Slot.position_lt (hshort h) hgrowth), hchild]
  | member hchild => rw [Slot.content?, hchild]

/-- Filling a slot writes what the segment names, if its array grows little. -/
theorem Short.fill_slot (h : head.Short) (hgrowth : (head.slot s).growth ≤ maxGap + 1)
    (value : Json) : (head.slot s).fill value = head.setChild s value := by
  have hopens := opens_slot head s
  generalize head.slot s = slot at hopens hgrowth ⊢
  cases hopens with
  | item _ _ hset _ hshort =>
    rw [Slot.fill, set_widened (Slot.position_lt (hshort h) hgrowth), hset]
  | member _ hset => rw [Slot.fill, hset]

/-- A segment is in reach exactly when its array grows little. -/
theorem Short.inReach_iff (h : head.Short) :
    InReach s (some head) ↔ (head.slot s).growth ≤ maxGap + 1 := by
  have hopens := opens_slot head s
  generalize head.slot s = slot at hopens ⊢
  cases hopens with
  | @item items position _ _ _ hreach hshort =>
    have hlength := hshort h
    rw [hreach, Slot.growth, widened]
    by_cases hlong : items.length ≤ position
    · rw [if_pos hlong, List.length_rightpad]
      unfold saturatingAdd indexBound maxGap
      omega
    · rw [if_neg hlong]
      omega
  | member _ _ hreach => exact iff_of_true hreach (Nat.zero_le _)

/-- The array of a slot is short, and its position is the one that the segment names. -/
theorem Short.item_of_slot (h : head.Short) {items : List Json} {position : Nat}
    (hslot : head.slot s = .item items position) :
    items.length < 2 ^ 63 ∧ s.position? = some position := by
  have hopens := opens_slot head s
  rw [hslot] at hopens
  cases hopens with
  | item hposition _ _ _ hshort => exact ⟨hshort h, hposition⟩

/-- What a slot holds in a short value is short, whether its array grows much or little. -/
theorem Short.of_content? {inner : Json} (h : head.Short)
    (hinner : (head.slot s).content? = some inner) : inner.Short := by
  have hopens := opens_slot head s
  have hentered := h.entered s
  generalize head.slot s = slot at hopens hinner
  cases hopens with
  | member hchild =>
    rw [← Option.some.inj hinner, ← hchild]
    exact hentered
  | @item items position _ hchild =>
    rw [hchild] at hentered
    rw [Slot.content?, widened] at hinner
    by_cases hlength : items.length ≤ position
    · -- Behind the items there is only `null`.
      rw [if_pos hlength, List.rightpad, List.getElem?_append_right hlength] at hinner
      rw [List.eq_of_mem_replicate (List.mem_of_getElem? hinner)]
      exact .null
    · rw [if_neg hlength] at hinner
      rw [hinner] at hentered
      exact hentered

/-! ### Along a path -/

/-- A missing value is checked like `null`. -/
theorem outOfReach?_getD (p : Path) (node : Option Json) :
    outOfReach? p (some (node.getD .null)) = outOfReach? p node := by
  cases node with
  | some root => rfl
  | none =>
    cases p with
    | nil => rfl
    | cons s rest => cases s <;> rfl

/-- A path that names nothing inside a value names nothing inside a missing one. -/
theorem getD_get?_cons (s : Segment) (rest : Path) (head : Json) :
    (head.get? (s :: rest)).getD .null =
      (((head.child? s).getD .null).get? rest).getD .null := by
  rw [get?_cons]
  cases hchild : head.child? s with
  | some child => rfl
  | none => cases rest <;> rfl

/-- A segment in reach is entered, and what it names is where the rest of the path goes on. -/
theorem Short.slots_cons (h : head.Short) (hgrowth : (head.slot s).growth ≤ maxGap + 1)
    (rest : Path) :
    slots (s :: rest) head = head.slot s :: slots rest ((head.child? s).getD .null) := by
  rw [slots, h.content?_slot hgrowth, Option.elim_some]

/-- **The check refuses a path exactly when some array along it grows too far.** -/
theorem outOfReach?_eq_none_iff (h : head.Short) :
    outOfReach? p (some head) = none ↔ ∀ slot ∈ slots p head, slot.growth ≤ maxGap + 1 := by
  induction p generalizing head with
  | nil => exact iff_of_true rfl nofun
  | cons s rest ih =>
    rw [outOfReach?_cons_eq_none, h.inReach_iff, Option.bind_some, ← outOfReach?_getD,
      ih (h.entered s)]
    constructor
    · rintro ⟨hgrowth, hrest⟩
      rw [h.slots_cons hgrowth, List.forall_mem_cons]
      exact ⟨hgrowth, hrest⟩
    · intro hall
      have hgrowth := hall _ List.mem_cons_self
      rw [h.slots_cons hgrowth, List.forall_mem_cons] at hall
      exact hall

/-- The arrays along a path are short, also behind one that grows too far, and the positions are those
that the segments name. -/
theorem Short.item_of_mem_slots (h : head.Short) {items : List Json} {position : Nat}
    (hmem : .item items position ∈ slots p head) :
    items.length < 2 ^ 63 ∧ ∃ s ∈ p, s.position? = some position := by
  induction p generalizing head with
  | nil => cases hmem
  | cons s rest ih =>
    rcases List.mem_cons.1 hmem with hslot | hrest
    · obtain ⟨hlength, hposition⟩ := h.item_of_slot hslot.symm
      exact ⟨hlength, s, List.mem_cons_self, hposition⟩
    · cases hcontent : (head.slot s).content? with
      | none =>
        rw [hcontent] at hrest
        cases hrest
      | some inner =>
        rw [hcontent, Option.elim_some] at hrest
        obtain ⟨hlength, t, ht, hposition⟩ := ih (h.of_content? hcontent) hrest
        exact ⟨hlength, t, List.mem_cons_of_mem s ht, hposition⟩

/-- **A write in reach goes through**, and leaves what is written with the check. -/
theorem write?_eq_put (h : head.Short) (hreach : ∀ slot ∈ slots p head, slot.growth ≤ maxGap + 1)
    (value : Json) : write? value p head = some (head.put p value) := by
  induction p generalizing head with
  | nil => rfl
  | cons s rest ih =>
    have hgrowth := hreach _ List.mem_cons_self
    rw [h.slots_cons hgrowth, List.forall_mem_cons] at hreach
    rw [write?, h.content?_slot hgrowth, Option.bind_some, ih (h.entered s) hreach.2,
      Option.map_some, h.fill_slot hgrowth, put]

/-- Along a path in reach, the slot for each segment is the one in what was there before. -/
theorem getElem?_slots (h : head.Short) (hreach : ∀ slot ∈ slots p head, slot.growth ≤ maxGap + 1)
    (k : Nat) :
    (slots p head)[k]? = p[k]?.map fun s => ((head.get? (p.take k)).getD .null).slot s := by
  induction p generalizing head k with
  | nil => rfl
  | cons s rest ih =>
    have hgrowth := hreach _ List.mem_cons_self
    rw [h.slots_cons hgrowth] at hreach ⊢
    cases k with
    | zero => rfl
    | succ k =>
      rw [List.getElem?_cons_succ, List.getElem?_cons_succ, List.take_succ_cons, getD_get?_cons]
      exact ih (h.entered s) (List.forall_mem_cons.1 hreach).2 k

/-- **Along a path in reach, arrays become just long enough.** -/
theorem length_of_slot (h : head.Short) (hreach : ∀ slot ∈ slots p head, slot.growth ≤ maxGap + 1)
    (value : Json) {k : Nat} {items : List Json} {position : Nat}
    (hslot : (slots p head)[k]? = some (.item items position)) :
    ∃ items', (head.put p value).get? (p.take k) = some (.array items') ∧
      items'.length = max items.length (position + 1) := by
  induction p generalizing head k with
  | nil => cases hslot
  | cons s rest ih =>
    have hgrowth := hreach _ List.mem_cons_self
    rw [h.slots_cons hgrowth] at hreach hslot
    cases k with
    | zero =>
      have hopens := opens_slot head s
      rw [Option.some.inj hslot] at hopens
      cases hopens with
      | item _ _ hset => exact ⟨_, congrArg some (hset _), length_setItem items position _⟩
    | succ k =>
      obtain ⟨items', hget, hlength⟩ := ih (h.entered s) (List.forall_mem_cons.1 hreach).2 hslot
      refine ⟨items', ?_, hlength⟩
      rw [List.take_succ_cons, get?_cons, put, child?_setChild, Option.bind_some]
      exact hget

end Json

namespace Store

/-- **The check before a write agrees exactly with the write.** Over variables whose arrays are shorter
than `2 ^ 63`, it refuses a path exactly when some array along it would be made longer by more than
`maxGap + 1` items, and then nothing is written. Otherwise the write goes through slot by slot: in
every array along the path the item is there once the array is long enough, and no 64-bit sum is cut
off; each of these arrays, or the new one in the place of what was no array, ends up as long as it was
or as its item needs. -/
theorem guard_exact {store : Store} (hshort : store.own.Short) (path : String) (value : Json) :
    ((Json.outOfReach? (Path.parse path) (some store.own)).isSome ↔
      ∃ slot ∈ Json.slots (Path.parse path) store.own, Json.maxGap + 1 < slot.growth) ∧
    ((Json.outOfReach? (Path.parse path) (some store.own)).isSome →
      store.set? path value = none ∧ store.set path value = store) ∧
    (Json.outOfReach? (Path.parse path) (some store.own) = none →
      ∃ written, store.set? path value = some { store with own := written } ∧
        Json.write? value (Path.parse path) store.own = some written ∧
        (∀ k, (Json.slots (Path.parse path) store.own)[k]? =
          (Path.parse path)[k]?.map
            (((store.own.get? ((Path.parse path).take k)).getD .null).slot ·)) ∧
        ∀ k items position,
          (Json.slots (Path.parse path) store.own)[k]? = some (.item items position) →
            saturatingAdd position 1 = position + 1 ∧
            position < (widened items position).length ∧
            ∃ items', written.get? ((Path.parse path).take k) = some (.array items') ∧
              items'.length = max items.length (position + 1)) ∧
    ∀ items position, .item items position ∈ Json.slots (Path.parse path) store.own →
      position < indexBound ∧
        saturatingAdd items.length Json.maxGap = items.length + Json.maxGap := by
  have hexact := Json.outOfReach?_eq_none_iff (p := Path.parse path) hshort
  refine ⟨?_, fun hfar => ?_, fun hnear => ?_, fun items position hmem => ?_⟩
  · rw [← Option.not_isSome_iff_eq_none, not_iff_comm] at hexact
    rw [← hexact]
    simp only [not_forall, Nat.not_le, exists_prop]
  · have hnone : store.set? path value = none := by
      rw [set?]
      exact if_pos hfar
    exact ⟨hnone, by rw [set, hnone, Option.getD_none]⟩
  · have hreach := hexact.1 hnear
    refine ⟨store.own.put (Path.parse path) value, set?_eq_some_iff.2 ⟨hnear, rfl⟩,
      Json.write?_eq_put hshort hreach value, Json.getElem?_slots hshort hreach, ?_⟩
    intro k items position hslot
    have hmem := List.mem_of_getElem? hslot
    have hposition := Slot.position_lt (hshort.item_of_mem_slots hmem).1 (hreach _ hmem)
    refine ⟨saturatingAdd_eq hposition, ?_, Json.length_of_slot hshort hreach value hslot⟩
    rw [length_widened hposition]
    omega
  · obtain ⟨hlength, s, hs, hposition⟩ := hshort.item_of_mem_slots hmem
    refine ⟨Path.position?_lt_of_mem_parse hs hposition, saturatingAdd_eq ?_⟩
    unfold Json.maxGap indexBound
    omega

/-- A row of two seats. -/
def seated : Store where
  own := .object [("seats", .array [.text "Ada", .text "Bo"])]
  shared := none

/-- The last seat that may be written is `1024` seats behind the row. -/
theorem guard_exact_seated :
    seated.set? "seats.1027" .null = none ∧
    ∃ written, seated.set? "seats[1026].name" (.text "Cy") = some { seated with own := written } ∧
      Json.write? (.text "Cy") (Path.parse "seats[1026].name") seated.own = some written := by
  have hshort : seated.own.Short := by
    refine .object fun p hp => ?_
    obtain rfl := List.mem_singleton.1 hp
    exact .array (by decide)
      (List.forall_mem_cons.2 ⟨.text "Ada", List.forall_mem_singleton.2 (.text "Bo")⟩)
  obtain ⟨-, hfar, -⟩ := guard_exact hshort "seats.1027" .null
  obtain ⟨-, -, hnear, -⟩ := guard_exact hshort "seats[1026].name" (.text "Cy")
  obtain ⟨written, hset, hwrite, -⟩ := hnear (by decide +kernel)
  exact ⟨(hfar (by decide +kernel)).1, written, hset, hwrite⟩

end Store

end Dialogue
