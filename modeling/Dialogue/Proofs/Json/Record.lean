import Dialogue.Json.Record
import Dialogue.Proofs.Json.Basic
/-!
# Reading a record that was written

A record that was written gives each of its fields under the name it was written with, and a missing
field gives nothing. When the fields of a reader are those of a record, each under exactly one of its
names and in the same order, the reader finds all of them, whatever they hold.

## Main definitions

- `Record.Spells` — the names of a record are those that a reader looks for

## Main statements

- `Json.get?_record`, `Json.depth_lt_of_record` — the members of a record that was written
- `Record.slots?_record` — what a reader finds in it
- `Record.optional_map` — reading a field that may be missing
-/

namespace Dialogue

namespace Json

/-! ### Depth -/

theorem depth_le_of_mem_fields {p : String × Json} {fields : List (String × Json)}
    (h : p ∈ fields) : p.2.depth ≤ depthFields fields := by
  induction fields with
  | nil => cases h
  | cons first rest ih =>
    rw [depthFields]
    rcases List.mem_cons.1 h with rfl | h
    · exact Nat.le_max_left _ _
    · exact Nat.le_trans (ih h) (Nat.le_max_right _ _)

/-- A member nests less deep than its object. -/
theorem depth_lt_of_mem {p : String × Json} {fields : List (String × Json)} (h : p ∈ fields) :
    p.2.depth < (object fields).depth :=
  Nat.lt_succ_of_le (depth_le_of_mem_fields h)

/-! ### Members of a record -/

/-- The fields that are present, read by their names. -/
theorem get?_filterMap {fields : Keyed (Option Json)} (h : (Keyed.keys fields).Nodup)
    (key : String) : Keyed.get? key (fields.filterMap fun p => p.2.map (p.1, ·)) =
      (Keyed.get? key fields).join := by
  induction fields with
  | nil => rfl
  | cons p rest ih =>
    obtain ⟨k, v⟩ := p
    rw [Keyed.keys_cons, List.nodup_cons] at h
    cases v with
    | none =>
      rw [List.filterMap_cons, Option.map_none, ih h.2, Keyed.get?_cons]
      split
      · next hk =>
        rw [Keyed.get?_eq_none_iff.2 (hk ▸ h.1)]
        rfl
      · rfl
    | some v =>
      rw [List.filterMap_cons, Option.map_some, Keyed.get?_cons, Keyed.get?_cons, ih h.2]
      split <;> rfl

theorem keys_filterMap_sublist (fields : Keyed (Option Json)) :
    (Keyed.keys (fields.filterMap fun p => p.2.map (p.1, ·))).Sublist (Keyed.keys fields) := by
  induction fields with
  | nil => exact .slnil
  | cons p rest ih =>
    obtain ⟨k, v⟩ := p
    cases v with
    | none => exact ih.cons k
    | some v => exact ih.cons_cons k

/-- A record is an object that gives its fields under their names. -/
theorem get?_record {fields : Keyed (Option Json)} (h : (Keyed.keys fields).Nodup) :
    ∃ members, record fields = .object members ∧
      ∀ key, Keyed.get? key members = (Keyed.get? key fields).join := by
  refine ⟨_, rfl, fun key => ?_⟩
  rw [Keyed.ofList, Keyed.get?_foldl_insert (h.sublist (keys_filterMap_sublist fields)),
    Keyed.get?_nil, Option.or_none]
  exact get?_filterMap h key

/-- A field nests less deep than its record. -/
theorem depth_lt_of_record {fields : Keyed (Option Json)} (h : (Keyed.keys fields).Nodup)
    {key : String} {value : Json} (hmem : (key, some value) ∈ fields) :
    value.depth < (record fields).depth := by
  obtain ⟨members, hrecord, hget⟩ := get?_record h
  have hfield : Keyed.get? key members = some value := by
    rw [hget, Keyed.get?_of_mem h hmem]
    rfl
  rw [hrecord]
  exact depth_lt_of_mem (Keyed.mem_of_get? hfield)

/-! ### Reading lists and objects -/

theorem items?_array_map {α : Type} {read : Json → Option α} {write : α → Json} {items : List α}
    (h : ∀ a ∈ items, read (write a) = some a) : items? read (.array (items.map write)) = some items := by
  induction items with
  | nil => rfl
  | cons a rest ih =>
    obtain ⟨ha, hrest⟩ := List.forall_mem_cons.1 h
    have hread := ih hrest
    simp only [items?] at hread ⊢
    rw [List.map_cons, List.mapM_cons, ha, hread]
    rfl

theorem keyed?_object_map {α : Type} {read : Json → Option α} {write : α → Json} {fields : Keyed α}
    (h : ∀ p ∈ fields, read (write p.2) = some p.2) :
    keyed? read (.object (fields.map fun p => (p.1, write p.2))) = some fields := by
  induction fields with
  | nil => rfl
  | cons p rest ih =>
    obtain ⟨hp, hrest⟩ := List.forall_mem_cons.1 h
    have hread := ih hrest
    simp only [keyed?] at hread ⊢
    rw [List.map_cons, List.mapM_cons, hp, hread]
    rfl

/-- An array of values as they are. -/
@[simp] theorem items?_array (items : List Json) : items? some (.array items) = some items := by
  have hread := items?_array_map fun (item : Json) (_ : item ∈ items) =>
    (rfl : some (id item) = some item)
  rwa [List.map_id] at hread

/-- An object of values as they are. -/
@[simp] theorem keyed?_object (fields : Keyed Json) : keyed? some (.object fields) = some fields := by
  have hread := keyed?_object_map fun (p : String × Json) (_ : p ∈ fields) =>
    (rfl : some (id p.2) = some p.2)
  simpa using hread

/-- An object of strings. -/
@[simp] theorem keyed?_texts (fields : Keyed String) : keyed? text? (.texts fields) = some fields :=
  keyed?_object_map fun _ _ => rfl

end Json

namespace Record

open Json

variable {α : Type}

/-- Each field of a reader is under exactly one of its names in a record, in the same order. -/
def Spells (fields : List (List String)) (keys : List String) : Prop :=
  keys.Nodup ∧ fields.map (·.filter keys.contains) = keys.map ([·])

instance (fields : List (List String)) (keys : List String) : Decidable (Spells fields keys) :=
  inferInstanceAs (Decidable (_ ∧ _))

/-- Of the names of a field, only the one that is in the record counts. -/
theorem member?_of_filter {members : Keyed Json} {keys names : List String} {key : String}
    (hmembers : ∀ name, name ∉ keys → Keyed.get? name members = none)
    (hnames : names.filter keys.contains = [key]) :
    member? members names = some (Keyed.get? key members) := by
  have hread : names.filterMap (Keyed.get? · members) = (Keyed.get? key members).toList := by
    have hfilter : names.filterMap (Keyed.get? · members) =
        (names.filter keys.contains).filterMap (Keyed.get? · members) := by
      rw [List.filterMap_filter]
      refine List.filterMap_congr fun name _ => ?_
      by_cases hname : name ∈ keys
      · simp [hname]
      · simp [hname, hmembers name hname]
    rw [hfilter, hnames]
    cases hkey : Keyed.get? key members <;> simp [hkey]
  rw [member?, hread]
  cases Keyed.get? key members <;> rfl

/-- What a reader finds under the names of some of the fields. -/
theorem mapM_member? {written rest : Keyed (Option Json)} {members : Keyed Json}
    {looked : List (List String)} (hnodup : (Keyed.keys written).Nodup)
    (hget : ∀ key, Keyed.get? key members = (Keyed.get? key written).join)
    (hrest : ∀ p ∈ rest, p ∈ written)
    (hlooked : looked.map (·.filter (Keyed.keys written).contains) =
      (Keyed.keys rest).map ([·])) :
    looked.mapM (member? members) = some (Keyed.values rest) := by
  have hmissing : ∀ name, name ∉ Keyed.keys written → Keyed.get? name members = none := by
    intro name hname
    rw [hget, Keyed.get?_eq_none_iff.2 hname]
    rfl
  induction rest generalizing looked with
  | nil =>
    obtain rfl : looked = [] := List.map_eq_nil_iff.1 hlooked
    rfl
  | cons p rest ih =>
    obtain ⟨hp, hrest⟩ := List.forall_mem_cons.1 hrest
    cases looked with
    | nil => cases hlooked
    | cons names looked =>
      obtain ⟨hfirst, hothers⟩ := List.cons.inj hlooked
      have hfield : Keyed.get? p.1 members = p.2 := by
        rw [hget, Keyed.get?_of_mem hnodup hp]
        rfl
      rw [List.mapM_cons, member?_of_filter hmissing hfirst, hfield, ih hrest hothers]
      rfl

/-- **What a reader finds in a record that was written**: every field, whatever it holds. -/
theorem slots?_record {fields : List (List String)} {written : Keyed (Option Json)}
    (h : Spells fields (Keyed.keys written)) :
    slots? fields (record written) = some (Keyed.values written) := by
  obtain ⟨hnodup, hnames⟩ := h
  obtain ⟨members, hrecord, hget⟩ := get?_record hnodup
  rw [hrecord, slots?]
  exact mapM_member? hnodup hget (fun _ hp => hp) hnames

/-- A field that may be missing and is never written as `null`. -/
theorem optional_map {read : Json → Option α} {write : α → Json} {value : Option α}
    (h : ∀ a ∈ value, read (write a) = some a) (hnull : ∀ a ∈ value, write a ≠ .null) :
    optional read (value.map write) = some value := by
  cases value with
  | none => rfl
  | some a =>
    have hread := h a rfl
    have hne := hnull a rfl
    rw [Option.map_some]
    cases hwritten : write a with
    | null => exact absurd hwritten hne
    | _ => rw [hwritten] at hread; simp [optional, hread]

end Record

end Dialogue
