/-!
# Keyed lists

A keyed list pairs names with values, in increasing order of the names and each name at most once.
Reading takes the first pair of a name; writing replaces that pair where it stands, and puts a new
name at its place in the order.

## Main definitions

- `Keyed.get?`, `Keyed.contains`, `Keyed.insert`, `Keyed.erase`, `Keyed.ofList`
- `Keyed.Sorted` — the names increase
-/

namespace Dialogue

/-- Pairs of a name and a value, in increasing order of the names. -/
abbrev Keyed (α : Type) := List (String × α)

namespace Keyed

variable {α β : Type}

/-- The value of the first pair named `key`. -/
def get? (key : String) : Keyed α → Option α
  | [] => none
  | (k, v) :: rest => if k = key then some v else get? key rest

/-- Whether some pair is named `key`. -/
def contains (key : String) (fields : Keyed α) : Bool := (get? key fields).isSome

/-- Give the first pair named `key` a new value. -/
def replace (key : String) (value : α) : Keyed α → Keyed α
  | [] => []
  | (k, v) :: rest => if k = key then (k, value) :: rest else (k, v) :: replace key value rest

/-- Put a new pair before the first larger name. -/
def place (key : String) (value : α) : Keyed α → Keyed α
  | [] => [(key, value)]
  | (k, v) :: rest =>
    if key < k then (key, value) :: (k, v) :: rest else (k, v) :: place key value rest

/-- Give `key` the value, in place when the name is there already. -/
def insert (key : String) (value : α) (fields : Keyed α) : Keyed α :=
  if contains key fields then replace key value fields else place key value fields

/-- Drop the first pair named `key`. -/
def erase (key : String) : Keyed α → Keyed α
  | [] => []
  | (k, v) :: rest => if k = key then rest else (k, v) :: erase key rest

/-- Insert the pairs one after the other, so that the last pair of a name wins. -/
def ofList (pairs : List (String × α)) : Keyed α :=
  pairs.foldl (fun fields (k, v) => insert k v fields) []

/-- The names, in order. -/
def keys (fields : Keyed α) : List String := fields.map (·.1)

/-- The values, in the order of their names. -/
def values (fields : Keyed α) : List α := fields.map (·.2)

/-- The names increase. -/
def Sorted (fields : Keyed α) : Prop := (keys fields).Pairwise (· < ·)

@[simp] theorem get?_nil (key : String) : get? key ([] : Keyed α) = none := rfl

theorem get?_cons (key k : String) (v : α) (rest : Keyed α) :
    get? key ((k, v) :: rest) = if k = key then some v else get? key rest := rfl

theorem get?_replace_self {key : String} {value : α} {fields : Keyed α}
    (h : contains key fields = true) : get? key (replace key value fields) = some value := by
  induction fields with
  | nil => simp [contains] at h
  | cons p rest ih =>
    obtain ⟨k, v⟩ := p
    by_cases hk : k = key
    · simp [replace, get?, hk]
    · simp only [contains, get?, hk, if_false] at h
      simp [replace, get?, hk, ih h]

theorem get?_place_self {key : String} {value : α} {fields : Keyed α}
    (h : contains key fields = false) : get? key (place key value fields) = some value := by
  induction fields with
  | nil => simp [place, get?]
  | cons p rest ih =>
    obtain ⟨k, v⟩ := p
    by_cases hk : k = key
    · simp [contains, get?, hk] at h
    · simp only [contains, get?, hk, if_false] at h
      by_cases hlt : key < k
      · simp [place, hlt, get?]
      · simp [place, hlt, get?, hk, ih h]

/-- What was written is read. -/
@[simp] theorem get?_insert_self (key : String) (value : α) (fields : Keyed α) :
    get? key (insert key value fields) = some value := by
  unfold insert
  cases h : contains key fields with
  | true => simpa using get?_replace_self h
  | false => simpa using get?_place_self h

theorem get?_replace_of_ne {key other : String} (h : other ≠ key) (value : α) (fields : Keyed α) :
    get? other (replace key value fields) = get? other fields := by
  induction fields with
  | nil => rfl
  | cons p rest ih =>
    obtain ⟨k, v⟩ := p
    by_cases hk : k = key
    · subst hk
      simp [replace, get?, h.symm]
    · simp [replace, get?, hk, ih]

theorem get?_place_of_ne {key other : String} (h : other ≠ key) (value : α) (fields : Keyed α) :
    get? other (place key value fields) = get? other fields := by
  induction fields with
  | nil => simp [place, get?, h.symm]
  | cons p rest ih =>
    obtain ⟨k, v⟩ := p
    by_cases hlt : key < k
    · simp [place, hlt, get?, h.symm]
    · simp [place, hlt, get?, ih]

/-- Writing one name leaves every other name as it was. -/
theorem get?_insert_of_ne {key other : String} (h : other ≠ key) (value : α) (fields : Keyed α) :
    get? other (insert key value fields) = get? other fields := by
  unfold insert
  split
  · exact get?_replace_of_ne h value fields
  · exact get?_place_of_ne h value fields

end Keyed

end Dialogue
