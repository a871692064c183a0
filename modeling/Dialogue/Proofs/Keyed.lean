import Dialogue.Keyed
/-!
# Laws of keyed lists

A keyed list behaves as a map from names to values: a later write of a name hides an earlier one,
writing what is there already changes nothing, and dropping a name drops no other. A list whose
names increase keeps that order under every operation.

## Main statements

- `Keyed.insert_insert`, `Keyed.insert_eq_self` — writing twice, and writing what is there
- `Keyed.get?_erase_of_ne`, `Keyed.Sorted.get?_erase_self` — reading after dropping
- `Keyed.erase_insert` — dropping what was written anew
- `Keyed.Sorted.insert`, `Keyed.Sorted.erase`, `Keyed.Sorted.ofList` — the order stays
- `Keyed.get?_ofList_append_cons` — of the pairs of one name the last is read
- `Keyed.Sorted.ofList_eq_self` — a list in order is built from its own pairs
-/

namespace Dialogue

namespace Keyed

variable {α : Type}

/-- Names are comparable: one that is neither smaller nor the same is larger. -/
theorem name_lt_of_not_lt {a b : String} (h : ¬ a < b) (hne : b ≠ a) : b < a :=
  String.not_le.1 fun hab => hne (String.le_antisymm (String.not_lt.1 h) hab)

theorem keys_cons (k : String) (v : α) (rest : Keyed α) :
    keys ((k, v) :: rest) = k :: keys rest := rfl

@[simp] theorem contains_nil (key : String) : contains key ([] : Keyed α) = false := rfl

theorem contains_cons (key k : String) (v : α) (rest : Keyed α) :
    contains key ((k, v) :: rest) = (k == key || contains key rest) := by
  by_cases h : k = key <;> simp [contains, get?, h]

theorem contains_iff_mem_keys {key : String} {fields : Keyed α} :
    contains key fields = true ↔ key ∈ keys fields := by
  induction fields with
  | nil => simp [keys]
  | cons p rest ih =>
    obtain ⟨k, v⟩ := p
    rw [contains_cons, Bool.or_eq_true, ih, beq_iff_eq, keys_cons, List.mem_cons]
    exact or_congr_left eq_comm

theorem get?_eq_none_iff {key : String} {fields : Keyed α} :
    get? key fields = none ↔ key ∉ keys fields := by
  rw [← contains_iff_mem_keys, contains]
  simp

/-- A value that is read stands in the list. -/
theorem mem_of_get? {key : String} {value : α} {fields : Keyed α}
    (h : get? key fields = some value) : (key, value) ∈ fields := by
  induction fields with
  | nil => simp at h
  | cons p rest ih =>
    obtain ⟨k, v⟩ := p
    by_cases hk : k = key
    · simp [get?, hk] at h
      simp [hk, h]
    · simp only [get?, hk, if_false] at h
      exact List.mem_cons_of_mem _ (ih h)

/-- Where all names are different, every pair is the one that is read under its name. -/
theorem get?_of_mem {key : String} {v : α} {fields : Keyed α} (h : (keys fields).Nodup)
    (hmem : (key, v) ∈ fields) : get? key fields = some v := by
  induction fields with
  | nil => simp at hmem
  | cons p rest ih =>
    obtain ⟨k, w⟩ := p
    rw [keys_cons, List.nodup_cons] at h
    rcases List.mem_cons.1 hmem with heq | hrest
    · obtain ⟨rfl, rfl⟩ := Prod.mk.inj heq
      simp [get?]
    · have hk : k ≠ key := by
        rintro rfl
        exact h.1 (List.mem_map_of_mem (f := (·.1)) hrest)
      simpa [get?, hk] using ih h.2 hrest

/-! ### Replacing -/

theorem replace_replace (key : String) (u v : α) (fields : Keyed α) :
    replace key v (replace key u fields) = replace key v fields := by
  induction fields with
  | nil => rfl
  | cons p rest ih =>
    obtain ⟨k, w⟩ := p
    by_cases hk : k = key <;> simp [replace, hk, ih]

theorem replace_place {key : String} {fields : Keyed α} (h : contains key fields = false)
    (u v : α) : replace key v (place key u fields) = place key v fields := by
  induction fields with
  | nil => simp [place, replace]
  | cons p rest ih =>
    obtain ⟨k, w⟩ := p
    rw [contains_cons, Bool.or_eq_false_iff] at h
    have hk : k ≠ key := by simpa using h.1
    by_cases hlt : key < k
    · simp [place, replace, hlt]
    · simp [place, replace, hlt, hk, ih h.2]

/-- Replacing a value by itself changes nothing. -/
theorem replace_eq_self {key : String} {v : α} {fields : Keyed α}
    (h : get? key fields = some v) : replace key v fields = fields := by
  induction fields with
  | nil => rfl
  | cons p rest ih =>
    obtain ⟨k, w⟩ := p
    by_cases hk : k = key
    · simp [get?, hk] at h
      simp [replace, hk, h]
    · simp only [get?, hk, if_false] at h
      simp [replace, hk, ih h]

@[simp] theorem keys_replace (key : String) (v : α) (fields : Keyed α) :
    keys (replace key v fields) = keys fields := by
  induction fields with
  | nil => rfl
  | cons p rest ih =>
    obtain ⟨k, w⟩ := p
    by_cases hk : k = key
    · simp [replace, hk, keys]
    · simpa [replace, hk, keys] using ih

@[simp] theorem contains_replace (key other : String) (v : α) (fields : Keyed α) :
    contains other (replace key v fields) = contains other fields := by
  rw [Bool.eq_iff_iff, contains_iff_mem_keys, contains_iff_mem_keys, keys_replace]

/-- Every pair after replacing is the new one or was there before. -/
theorem mem_replace {key : String} {v : α} {fields : Keyed α} {p : String × α}
    (h : p ∈ replace key v fields) : p = (key, v) ∨ p ∈ fields := by
  induction fields with
  | nil => simp [replace] at h
  | cons q rest ih =>
    obtain ⟨k, w⟩ := q
    by_cases hk : k = key
    · simp only [replace, hk, if_true, List.mem_cons] at h
      exact h.imp id fun h => List.mem_cons_of_mem _ h
    · simp only [replace, hk, if_false, List.mem_cons] at h
      rcases h with rfl | h
      · exact Or.inr List.mem_cons_self
      · exact (ih h).imp id fun h => List.mem_cons_of_mem _ h

/-! ### Writing -/

theorem mem_place {key : String} {v : α} {fields : Keyed α} {p : String × α}
    (h : p ∈ place key v fields) : p = (key, v) ∨ p ∈ fields := by
  induction fields with
  | nil => simpa [place] using h
  | cons q rest ih =>
    obtain ⟨k, w⟩ := q
    by_cases hlt : key < k
    · simpa [place, hlt] using h
    · simp only [place, hlt, if_false, List.mem_cons] at h
      rcases h with rfl | h
      · exact Or.inr List.mem_cons_self
      · exact (ih h).imp id fun h => List.mem_cons_of_mem _ h

/-- Every pair after writing is the new one or was there before. -/
theorem mem_insert {key : String} {v : α} {fields : Keyed α} {p : String × α}
    (h : p ∈ insert key v fields) : p = (key, v) ∨ p ∈ fields := by
  unfold insert at h
  split at h
  · exact mem_replace h
  · exact mem_place h

@[simp] theorem contains_insert_self (key : String) (v : α) (fields : Keyed α) :
    contains key (insert key v fields) = true := by
  simp [contains]

/-- The later of two writes of one name hides the earlier. -/
theorem insert_insert (key : String) (u v : α) (fields : Keyed α) :
    insert key v (insert key u fields) = insert key v fields := by
  rw [insert, if_pos (contains_insert_self key u fields)]
  unfold insert
  split
  · exact replace_replace key u v fields
  · next h => exact replace_place (by simpa using h) u v

/-- Writing what is there already changes nothing. -/
theorem insert_eq_self {key : String} {v : α} {fields : Keyed α}
    (h : get? key fields = some v) : insert key v fields = fields := by
  rw [insert, if_pos (by simp [contains, h]), replace_eq_self h]

/-! ### Dropping -/

theorem erase_sublist (key : String) (fields : Keyed α) : (erase key fields).Sublist fields := by
  induction fields with
  | nil => exact List.Sublist.slnil
  | cons p rest ih =>
    obtain ⟨k, v⟩ := p
    by_cases hk : k = key
    · simp [erase, hk]
    · simpa [erase, hk] using ih

/-- Dropping one name leaves every other name as it was. -/
theorem get?_erase_of_ne {key other : String} (h : other ≠ key) (fields : Keyed α) :
    get? other (erase key fields) = get? other fields := by
  induction fields with
  | nil => rfl
  | cons p rest ih =>
    obtain ⟨k, v⟩ := p
    by_cases hk : k = key
    · subst hk
      simp [erase, get?, h.symm]
    · simp [erase, get?, hk, ih]

/-- Dropping a name that is not there drops nothing. -/
theorem erase_eq_self {key : String} {fields : Keyed α} (h : get? key fields = none) :
    erase key fields = fields := by
  induction fields with
  | nil => rfl
  | cons p rest ih =>
    obtain ⟨k, v⟩ := p
    by_cases hk : k = key
    · simp [get?, hk] at h
    · rw [get?_cons, if_neg hk] at h
      rw [erase, if_neg hk, ih h]

theorem erase_place {key : String} {fields : Keyed α} (h : get? key fields = none) (v : α) :
    erase key (place key v fields) = fields := by
  induction fields with
  | nil => simp [place, erase]
  | cons p rest ih =>
    obtain ⟨k, u⟩ := p
    by_cases hk : k = key
    · simp [get?, hk] at h
    · rw [get?_cons, if_neg hk] at h
      by_cases hlt : key < k
      · simp [place, hlt, erase]
      · simp [place, hlt, erase, hk, ih h]

/-- Dropping a name that was written anew leaves what was there before. -/
theorem erase_insert {key : String} {fields : Keyed α} (h : get? key fields = none) (v : α) :
    erase key (insert key v fields) = fields := by
  rw [insert, if_neg (by simp [contains, h]), erase_place h]

/-! ### Order -/

namespace Sorted

theorem nil : Sorted ([] : Keyed α) := List.Pairwise.nil

theorem cons_iff {k : String} {v : α} {rest : Keyed α} :
    Sorted ((k, v) :: rest) ↔ (∀ l ∈ keys rest, k < l) ∧ Sorted rest := by
  simp only [Sorted, keys, List.map_cons, List.pairwise_cons]

theorem tail {p : String × α} {rest : Keyed α} (h : Sorted (p :: rest)) : Sorted rest :=
  (cons_iff.1 h).2

/-- The first name of a list in order is its least. -/
theorem first_le_of_contains {key k : String} {v : α} {rest : Keyed α}
    (h : Sorted ((k, v) :: rest)) (hkey : contains key ((k, v) :: rest) = true) :
    k = key ∨ k < key := by
  rw [contains_cons, Bool.or_eq_true, beq_iff_eq, contains_iff_mem_keys] at hkey
  exact hkey.imp id ((cons_iff.1 h).1 key)

/-- The first name of a list in order stands nowhere else in it. -/
theorem get?_tail {k : String} {v : α} {rest : Keyed α} (h : Sorted ((k, v) :: rest)) :
    get? k rest = none :=
  get?_eq_none_iff.2 fun hmem => String.lt_irrefl k ((cons_iff.1 h).1 k hmem)

/-- The names of a list in order are all different. -/
theorem nodup {fields : Keyed α} (h : Sorted fields) : (keys fields).Nodup :=
  List.Pairwise.imp (S := (· ≠ ·)) (fun hlt heq => String.lt_irrefl _ (heq ▸ hlt)) h

/-- In a list in order, every pair is the one that is read under its name. -/
theorem get?_of_mem {key : String} {v : α} {fields : Keyed α} (h : Sorted fields)
    (hmem : (key, v) ∈ fields) : get? key fields = some v :=
  Keyed.get?_of_mem h.nodup hmem

theorem replace {fields : Keyed α} (h : Sorted fields) (key : String) (v : α) :
    Sorted (Keyed.replace key v fields) := by
  simpa [Sorted] using h

theorem place {key : String} {fields : Keyed α} (h : Sorted fields)
    (hnew : contains key fields = false) (v : α) : Sorted (Keyed.place key v fields) := by
  induction fields with
  | nil => simp [Sorted, Keyed.place, keys]
  | cons p rest ih =>
    obtain ⟨k, w⟩ := p
    rw [contains_cons, Bool.or_eq_false_iff] at hnew
    have hk : k ≠ key := by simpa using hnew.1
    obtain ⟨hhead, htail⟩ := cons_iff.1 h
    by_cases hlt : key < k
    · rw [Keyed.place, if_pos hlt, cons_iff]
      refine ⟨fun l hl => ?_, h⟩
      rcases List.mem_cons.1 hl with rfl | hl
      · exact hlt
      · exact String.lt_trans hlt (hhead l hl)
    · rw [Keyed.place, if_neg hlt, cons_iff]
      refine ⟨fun l hl => ?_, ih htail hnew.2⟩
      obtain ⟨q, hq, rfl⟩ := List.mem_map.1 hl
      rcases mem_place hq with rfl | hq
      · exact name_lt_of_not_lt hlt hk
      · exact hhead q.1 (List.mem_map_of_mem hq)

/-- Writing keeps the order. -/
theorem insert {fields : Keyed α} (h : Sorted fields) (key : String) (v : α) :
    Sorted (Keyed.insert key v fields) := by
  unfold Keyed.insert
  split
  · exact h.replace key v
  · next hnew => exact h.place (by simpa using hnew) v

/-- Dropping keeps the order. -/
theorem erase {fields : Keyed α} (h : Sorted fields) (key : String) :
    Sorted (Keyed.erase key fields) :=
  List.Pairwise.sublist ((erase_sublist key fields).map _) h

/-- What was dropped is not read. -/
theorem get?_erase_self {fields : Keyed α} (h : Sorted fields) (key : String) :
    get? key (Keyed.erase key fields) = none := by
  induction fields with
  | nil => rfl
  | cons p rest ih =>
    obtain ⟨k, v⟩ := p
    by_cases hk : k = key
    · subst hk
      simpa [Keyed.erase] using h.get?_tail
    · simpa [Keyed.erase, hk, get?] using ih h.tail

end Sorted

/-! ### Writing and keeping many names -/

/-- Reading after writing pairs of different names one after the other. -/
theorem get?_foldl_insert {pairs : Keyed α} (h : (keys pairs).Nodup) (key : String)
    (fields : Keyed α) : get? key (pairs.foldl (fun fields p => insert p.1 p.2 fields) fields) =
      (get? key pairs).or (get? key fields) := by
  induction pairs generalizing fields with
  | nil => rfl
  | cons p rest ih =>
    obtain ⟨k, v⟩ := p
    rw [keys_cons, List.nodup_cons] at h
    rw [List.foldl_cons, ih h.2]
    by_cases hk : k = key
    · subst hk
      simp [get?_cons, get?_eq_none_iff.2 h.1]
    · rw [get?_cons, if_neg hk, get?_insert_of_ne (Ne.symm hk)]

theorem Sorted.foldl_insert {fields : Keyed α} (h : Sorted fields) (pairs : List (String × α)) :
    Sorted (pairs.foldl (fun fields p => Keyed.insert p.1 p.2 fields) fields) := by
  induction pairs generalizing fields with
  | nil => exact h
  | cons p rest ih => exact ih (h.insert p.1 p.2)

/-- A list built by writing is in order. -/
theorem Sorted.ofList (pairs : List (String × α)) : Sorted (Keyed.ofList pairs) :=
  Sorted.nil.foldl_insert pairs

/-- Every pair of a list built by writing is one of those written. -/
theorem mem_ofList {pairs : List (String × α)} {p : String × α} (h : p ∈ ofList pairs) :
    p ∈ pairs := by
  have hall : ∀ (pairs : List (String × α)) (fields : Keyed α),
      p ∈ pairs.foldl (fun fields q => insert q.1 q.2 fields) fields → p ∈ fields ∨ p ∈ pairs := by
    intro pairs
    induction pairs with
    | nil => exact fun fields h => .inl h
    | cons q rest ih =>
      intro fields h
      rcases ih _ h with h | h
      · rcases mem_insert h with rfl | h
        · exact .inr List.mem_cons_self
        · exact .inl h
      · exact .inr (List.mem_cons_of_mem _ h)
  exact (hall pairs [] h).resolve_left List.not_mem_nil

/-- A name that is not written is read as before. -/
theorem get?_foldl_insert_of_notMem {key : String} {pairs : List (String × α)} (h : key ∉ keys pairs)
    (fields : Keyed α) :
    get? key (pairs.foldl (fun fields p => insert p.1 p.2 fields) fields) = get? key fields := by
  induction pairs generalizing fields with
  | nil => rfl
  | cons p rest ih =>
    obtain ⟨hp, hrest⟩ := List.ne_and_not_mem_of_not_mem_cons h
    rw [List.foldl_cons, ih hrest, get?_insert_of_ne hp]

/-- **Of the pairs of one name the last is read.** -/
theorem get?_ofList_append_cons {key : String} {later : List (String × α)} (h : key ∉ keys later)
    (earlier : List (String × α)) (v : α) :
    get? key (ofList (earlier ++ (key, v) :: later)) = some v := by
  rw [ofList, List.foldl_append, List.foldl_cons, get?_foldl_insert_of_notMem h, get?_insert_self]

theorem mem_keys_insert {key other : String} {v : α} {fields : Keyed α} :
    other ∈ keys (insert key v fields) ↔ other = key ∨ other ∈ keys fields := by
  rw [← contains_iff_mem_keys, ← contains_iff_mem_keys]
  by_cases h : other = key
  · simp [h]
  · simp [h, contains, get?_insert_of_ne h]

/-- The names of a list built by writing are those written. -/
theorem mem_keys_ofList {key : String} {pairs : List (String × α)} :
    key ∈ keys (ofList pairs) ↔ key ∈ keys pairs := by
  have hall : ∀ (pairs : List (String × α)) (fields : Keyed α),
      key ∈ keys (pairs.foldl (fun fields p => insert p.1 p.2 fields) fields) ↔
        key ∈ keys pairs ∨ key ∈ keys fields := by
    intro pairs
    induction pairs with
    | nil => simp [keys]
    | cons p rest ih =>
      intro fields
      rw [List.foldl_cons, ih, mem_keys_insert, keys_cons, List.mem_cons, or_left_comm, or_assoc]
  simpa [keys, ofList] using hall pairs []

/-- A name larger than all others is written at the end. -/
theorem insert_of_forall_lt {key : String} {fields : Keyed α} (h : ∀ k ∈ keys fields, k < key)
    (v : α) : insert key v fields = fields ++ [(key, v)] := by
  have hnew : contains key fields = false := by
    rw [← Bool.not_eq_true, contains_iff_mem_keys]
    exact fun hmem => String.lt_irrefl key (h key hmem)
  rw [insert, if_neg (by simp [hnew])]
  clear hnew
  induction fields with
  | nil => rfl
  | cons p rest ih =>
    obtain ⟨k, w⟩ := p
    rw [keys_cons, List.forall_mem_cons] at h
    rw [place, if_neg (String.lt_asymm h.1), ih h.2, List.cons_append]

/-- A list in order is built by writing its pairs. -/
theorem Sorted.ofList_eq_self {fields : Keyed α} (h : Sorted fields) : Keyed.ofList fields = fields := by
  have hall : ∀ rest done : Keyed α, Sorted (done ++ rest) →
      rest.foldl (fun fields p => Keyed.insert p.1 p.2 fields) done = done ++ rest := by
    intro rest
    induction rest with
    | nil => exact fun done _ => (List.append_nil done).symm
    | cons p rest ih =>
      intro done hsorted
      have hlast : ∀ k ∈ keys done, k < p.1 := by
        intro k hk
        rw [Sorted, keys, List.map_append, List.pairwise_append] at hsorted
        exact hsorted.2.2 k hk p.1 (by simp)
      rw [List.foldl_cons, insert_of_forall_lt hlast, ih _ (by simpa using hsorted)]
      simp
  exact hall fields [] h

theorem Sorted.filter {fields : Keyed α} (h : Sorted fields) (keep : String × α → Bool) :
    Sorted (fields.filter keep) :=
  List.Pairwise.sublist (List.filter_sublist.map _) h

/-- Reading after keeping only some names. -/
theorem get?_filter (keep : String → Bool) (key : String) (fields : Keyed α) :
    get? key (fields.filter fun p => keep p.1) = if keep key then get? key fields else none := by
  induction fields with
  | nil => simp
  | cons p rest ih =>
    obtain ⟨k, v⟩ := p
    by_cases hk : k = key
    · subst hk
      by_cases hkeep : keep k <;> simp [hkeep, get?_cons, ih]
    · by_cases hkeep : keep k <;> simp [hkeep, get?_cons, hk, ih]

end Keyed

end Dialogue
