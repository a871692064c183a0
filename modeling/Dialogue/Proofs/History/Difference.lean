import Dialogue.Proofs.History.Patch
import Dialogue.Proofs.Json.Basic
import Mathlib.Data.List.Induction
/-!
# Differences

The difference of two values is undone by carrying it out: from the first value, or any value that
is the same, it leads to the second. The changes to one member or item happen inside a value that
the changes before them have already rewritten, so each row of changes is followed through the value
as it is by then.

## Main definitions

- `Json.LeadsFrom` — a difference leads from a value to the second of the two
- `Json.Settles` — a value stands between two others

## Main statements

- `Json.diffAt_append` — a difference further down is the difference with longer paths
- `Json.patch_diffFields`, `Json.patch_additions`, `Json.patch_diffItems` — objects and arrays
- `Json.Settles.leadsFrom`, `Json.patch_diff` — carrying out a difference
- `Json.diff_eq_nil_iff` — there is nothing to change between values that are the same
- `Json.diff_inverse` — all of it
-/

namespace Dialogue

namespace Json

/-- Both are objects or both are arrays, so that their difference looks inside. -/
def alike : Json → Json → Bool
  | .object _, .object _ => true
  | .array _, .array _ => true
  | _, _ => false

/-- Where there is nothing to look inside, one value replaces the other. -/
theorem diffAt_of_not_alike {before after : Json} (h : alike before after = false) (path : Path) :
    diffAt path before after = if before.same after then [] else [.replace path after] := by
  unfold diffAt
  split
  · simp [alike] at h
  · simp [alike] at h
  · rfl

/-! ### Paths of a difference -/

theorem map_under_appendItems (front path : Path) (position : Nat) (items : List Json) :
    (appendItems path position items).map (Patch.under front) =
      appendItems (front ++ path) position items := by
  induction items generalizing position with
  | nil => rfl
  | cons item rest ih => simp [appendItems, ih]

theorem map_under_dropItems (front path : Path) (position count : Nat) :
    (dropItems path position count).map (Patch.under front) =
      dropItems (front ++ path) position count := by
  induction count with
  | zero => rfl
  | succ count ih => simp [dropItems, ih]

theorem map_under_additions (front path : Path) (old new : Keyed Json) :
    (additions path old new).map (Patch.under front) = additions (front ++ path) old new := by
  simp [additions]

theorem diffFields_append {rest : List (String × Json)}
    (ih : ∀ p ∈ rest, ∀ front path after,
      diffAt (front ++ path) p.2 after = (diffAt path p.2 after).map (Patch.under front))
    (front path : Path) (new : Keyed Json) :
    diffFields (front ++ path) rest new = (diffFields path rest new).map (Patch.under front) := by
  induction rest with
  | nil => rfl
  | cons p rest ihr =>
    obtain ⟨hp, hrest⟩ := List.forall_mem_cons.1 ih
    rw [diffFields, diffFields, List.map_append, ihr hrest]
    cases Keyed.get? p.1 new with
    | none => simp
    | some value => simp [hp]

theorem diffItems_append {olds : List Json}
    (ih : ∀ old ∈ olds, ∀ front path after,
      diffAt (front ++ path) old after = (diffAt path old after).map (Patch.under front))
    (front path : Path) (position : Nat) (news : List Json) :
    diffItems (front ++ path) position olds news =
      (diffItems path position olds news).map (Patch.under front) := by
  induction olds generalizing position news with
  | nil => simp [diffItems, map_under_appendItems]
  | cons old olds ihr =>
    obtain ⟨hold, holds⟩ := List.forall_mem_cons.1 ih
    cases news with
    | nil => simp [diffItems, map_under_dropItems]
    | cons new news => simp [diffItems, hold, ihr holds]

/-- A difference further down is the same difference with longer paths. -/
theorem diffAt_append (front path : Path) (before after : Json) :
    diffAt (front ++ path) before after = (diffAt path before after).map (Patch.under front) := by
  induction before using induction generalizing front path after with
  | null | bool | number | text =>
    rw [diffAt_of_not_alike rfl, diffAt_of_not_alike rfl]
    split <;> rfl
  | array olds ih =>
    cases after with
    | array news => exact diffItems_append ih front path 0 news
    | _ => rfl
  | object olds ih =>
    cases after with
    | object news =>
      rw [diffAt, diffAt, List.map_append, map_under_additions, diffFields_append ih]
    | _ => rfl

theorem inner_diffFields {rest : List (String × Json)}
    (ih : ∀ p ∈ rest, ∀ path after, ∀ q ∈ diffAt path p.2 after, q.Inner) (path : Path)
    (new : Keyed Json) : ∀ q ∈ diffFields path rest new, q.Inner := by
  induction rest with
  | nil => simp [diffFields]
  | cons p rest ihr =>
    obtain ⟨hp, hrest⟩ := List.forall_mem_cons.1 ih
    intro q hq
    rw [diffFields, List.mem_append] at hq
    rcases hq with hq | hq
    · cases hget : Keyed.get? p.1 new with
      | none =>
        rw [hget, List.mem_singleton] at hq
        simp [hq, Patch.Inner]
      | some value =>
        rw [hget] at hq
        exact hp _ _ q hq
    · exact ihr hrest q hq

theorem inner_appendItems (path : Path) (position : Nat) (items : List Json) :
    ∀ q ∈ appendItems path position items, q.Inner := by
  induction items generalizing position with
  | nil => simp [appendItems]
  | cons item rest ih => simpa [appendItems, Patch.Inner] using ih (position + 1)

theorem inner_dropItems (path : Path) (position count : Nat) :
    ∀ q ∈ dropItems path position count, q.Inner := by
  induction count with
  | zero => simp [dropItems]
  | succ count ih => simpa [dropItems, Patch.Inner] using ih

theorem inner_diffItems {olds : List Json}
    (ih : ∀ old ∈ olds, ∀ path after, ∀ q ∈ diffAt path old after, q.Inner) (path : Path)
    (position : Nat) (news : List Json) : ∀ q ∈ diffItems path position olds news, q.Inner := by
  induction olds generalizing position news with
  | nil => simpa [diffItems] using inner_appendItems path position news
  | cons old olds ihr =>
    obtain ⟨hold, holds⟩ := List.forall_mem_cons.1 ih
    cases news with
    | nil => simpa [diffItems] using inner_dropItems path position (olds.length + 1)
    | cons new news =>
      intro q hq
      rw [diffItems, List.mem_append] at hq
      exact hq.elim (hold _ _ q) (ihr holds (position + 1) news q)

/-- A difference never adds or removes the whole value. -/
theorem inner_diffAt (path : Path) (before after : Json) :
    ∀ q ∈ diffAt path before after, q.Inner := by
  induction before using induction generalizing path after with
  | null | bool | number | text =>
    rw [diffAt_of_not_alike rfl]
    split <;> simp [Patch.Inner]
  | array olds ih =>
    cases after with
    | array news => exact inner_diffItems ih path 0 news
    | _ => simp [diffAt, same, Patch.Inner]
  | object olds ih =>
    cases after with
    | object news =>
      intro q hq
      rw [diffAt, List.mem_append] at hq
      rcases hq with hq | hq
      · exact inner_diffFields ih path news q hq
      · obtain ⟨p, -, rfl⟩ := List.mem_map.1 hq
        simp [Patch.Inner]
    | _ => simp [diffAt, same, Patch.Inner]

/-- The changes inside a member or an item, carried out one segment deeper. -/
theorem patch_diffAt_under {root child inner outer before after : Json} {s : Segment}
    (hchild : root.child? s = some child) (hin : child.patch (diffAt [] before after) = .ok inner)
    (hout : root.overwriteChild? s inner = some outer) :
    root.patch (diffAt [s] before after) = .ok outer := by
  rw [← List.append_nil [s], diffAt_append]
  exact patch_under (inner_diffAt [] before after) hchild hin hout

/-! ### Objects -/

/-- The difference of two values leads from a value to the second. -/
def LeadsFrom (t before after : Json) : Prop :=
  ∃ result, t.patch (diffAt [] before after) = .ok result ∧ result.same after

/-- The difference of two values leads from whatever is the same as the first to the second. -/
def Leads (before after : Json) : Prop := ∀ t : Json, t.same before → t.LeadsFrom before after

/-- The changes to one member: its name then gives the same as in the second object. -/
theorem patch_member {k : String} {old : Json} {new current : Keyed Json} {t : Json}
    (hlead : ∀ value, Keyed.get? k new = some value → t.LeadsFrom old value)
    (hcur : Keyed.Sorted current) (hget : Keyed.get? k current = some t) :
    ∃ result, (object current).patch (match Keyed.get? k new with
        | some value => diffAt [.key k] old value
        | none => [.remove [.key k]]) = .ok (object result) ∧
      Keyed.Sorted result ∧ (∀ key, key ≠ k → Keyed.get? key result = Keyed.get? key current) ∧
      SameOption (Keyed.get? k result) (Keyed.get? k new) := by
  have hkey : Keyed.contains k current = true := by rw [Keyed.contains, hget, Option.isSome_some]
  cases hnew : Keyed.get? k new with
  | some value =>
    obtain ⟨r, hr, hrv⟩ := hlead value hnew
    have hover : (object current).overwriteChild? (.key k) r =
        some (object (Keyed.replace k r current)) := if_pos hkey
    refine ⟨Keyed.replace k r current, patch_diffAt_under hget hr hover, hcur.replace k r,
      fun key hne => Keyed.get?_replace_of_ne hne r current, ?_⟩
    rw [Keyed.get?_replace_self hkey]
    exact .some hrv
  | none =>
    refine ⟨Keyed.erase k current, ?_, hcur.erase k,
      fun key hne => Keyed.get?_erase_of_ne hne current, ?_⟩
    · simp [patch, applyPatch, splitLast?, updateAt, removeChild, Segment.name, hkey, bind,
        Except.bind]
    · rw [hcur.get?_erase_self]
      exact .none

/-- The changes to the members of the first object: their names then give the same as in the second
object, and no other name is touched. -/
theorem patch_diffFields {rest new current : Keyed Json} (hrest : Keyed.Sorted rest)
    (hcur : Keyed.Sorted current)
    (hlead : ∀ p ∈ rest, ∃ t, Keyed.get? p.1 current = some t ∧
      ∀ value, Keyed.get? p.1 new = some value → t.LeadsFrom p.2 value) :
    ∃ result, (object current).patch (diffFields [] rest new) = .ok (object result) ∧
      Keyed.Sorted result ∧
      (∀ key, Keyed.contains key rest = false →
        Keyed.get? key result = Keyed.get? key current) ∧
      (∀ key, Keyed.contains key rest = true →
        SameOption (Keyed.get? key result) (Keyed.get? key new)) := by
  induction rest generalizing current with
  | nil => exact ⟨current, rfl, hcur, fun _ _ => rfl, by simp⟩
  | cons p rest ih =>
    obtain ⟨k, old⟩ := p
    obtain ⟨⟨t, hget, hp⟩, hleads⟩ := List.forall_mem_cons.1 hlead
    -- The first member's changes touch no other name, so the other members are still to be found.
    obtain ⟨middle, hfirst, hmid, hother, hk⟩ := patch_member hp hcur hget
    have hne : ∀ q ∈ rest, q.1 ≠ k := fun q hq hqk =>
      String.lt_irrefl k ((Keyed.Sorted.cons_iff.1 hrest).1 k
        (hqk ▸ List.mem_map_of_mem (f := (·.1)) hq))
    obtain ⟨result, hsecond, hres, hout, hin⟩ := ih hrest.tail hmid fun q hq => by
      rw [hother q.1 (hne q hq)]
      exact hleads q hq
    refine ⟨result, ?_, hres, fun key hkey => ?_, fun key hkey => ?_⟩
    · rw [diffFields, patch_append]
      exact (congrArg (Except.bind · _) hfirst).trans hsecond
    · rw [Keyed.contains_cons, Bool.or_eq_false_iff] at hkey
      have hkk : key ≠ k := fun h => by simp [h] at hkey
      rw [hout key hkey.2, hother key hkk]
    · by_cases hkk : key = k
      · subst hkk
        rw [hout key (by rw [Keyed.contains, hrest.get?_tail, Option.isSome_none])]
        exact hk
      · rw [Keyed.contains_cons] at hkey
        exact hin key (by simpa [Ne.symm hkk] using hkey)

/-- Additions of members write them one after the other. -/
theorem patch_additions (pairs : List (String × Json)) (current : Keyed Json) :
    (object current).patch (pairs.map fun (key, value) => .add [.key key] value) =
      .ok (object (pairs.foldl (fun fields p => Keyed.insert p.1 p.2 fields) current)) := by
  induction pairs generalizing current with
  | nil => rfl
  | cons p rest ih => exact ih (Keyed.insert p.1 p.2 current)

/-- The difference of two objects, when the differences of their members lead on and there are no
other members. -/
theorem leadsFrom_object {olds ts news : Keyed Json} (hold : (object olds).Tidy)
    (ht : Keyed.Sorted ts) (hnew : (object news).Tidy)
    (hkept : ∀ key, Keyed.contains key olds → Keyed.contains key ts)
    (hadds : ∀ key, Keyed.contains key ts → Keyed.contains key olds ∨ Keyed.contains key news)
    (hlead : ∀ key old t new, Keyed.get? key olds = some old → Keyed.get? key ts = some t →
      Keyed.get? key news = some new → t.LeadsFrom old new) :
    (object ts).LeadsFrom (object olds) (object news) := by
  obtain ⟨holds, -⟩ := tidy_object.1 hold
  obtain ⟨hnews, htidy⟩ := tidy_object.1 hnew
  have hleads : ∀ p ∈ olds, ∃ t, Keyed.get? p.1 ts = some t ∧
      ∀ value, Keyed.get? p.1 news = some value → t.LeadsFrom p.2 value := by
    intro p hp
    have hget : Keyed.get? p.1 olds = some p.2 := holds.get?_of_mem hp
    obtain ⟨t, ht⟩ := Option.isSome_iff_exists.1
      (hkept p.1 (by rw [Keyed.contains, hget, Option.isSome_some]))
    exact ⟨t, ht, fun value hvalue => hlead p.1 p.2 t value hget ht hvalue⟩
  obtain ⟨middle, hfirst, hmid, hout, hin⟩ := patch_diffFields holds ht hleads
  have hadded := hnews.filter fun p => !Keyed.contains p.1 olds
  refine ⟨_, by rw [diffAt, patch_append, hfirst]; exact patch_additions _ middle, ?_⟩
  refine sameFields_of_get? (hmid.foldl_insert _) hnews fun key => ?_
  rw [Keyed.get?_foldl_insert hadded.nodup,
    Keyed.get?_filter (fun name => !Keyed.contains name olds) key news]
  cases hkey : Keyed.contains key olds with
  | true => simpa using hin key hkey
  | false =>
    rw [hout key hkey]
    cases hget : Keyed.get? key news with
    | none =>
      -- A name in neither object was missing before, and stays so.
      have hmissing : ¬ Keyed.contains key ts := fun hcontains => by
        rcases hadds key hcontains with h | h
        · rw [hkey] at h; cases h
        · rw [Keyed.contains, hget] at h; cases h
      rw [Keyed.contains, Bool.not_eq_true, Option.isSome_eq_false_iff, Option.isNone_iff_eq_none]
        at hmissing
      rw [hmissing]
      exact .none
    | some value => exact .some (same_refl (htidy (key, value) (Keyed.mem_of_get? hget)))

/-! ### Arrays -/

/-- Additions at the end of an array, one after the other. -/
theorem patch_appendItems (done items : List Json) :
    (array done).patch (appendItems [] done.length items) = .ok (array (done ++ items)) := by
  induction items generalizing done with
  | nil => simp [appendItems, patch]
  | cons item rest ih =>
    have hfirst : (array done).applyPatch (.add ([] ++ [.index done.length]) item) =
        .ok (array (done ++ [item])) := by
      simp [applyPatch, splitLast?, updateAt, addChild, Segment.position?]
    have hrest := ih (done ++ [item])
    rw [List.length_append, List.length_singleton] at hrest
    rw [appendItems, patch_cons, hfirst]
    simpa [Except.bind] using hrest

/-- Removals from the end of an array, the last item first. -/
theorem patch_dropItems (done items : List Json) :
    (array (done ++ items)).patch (dropItems [] done.length items.length) = .ok (array done) := by
  induction items using List.reverseRecOn with
  | nil => simp [dropItems, patch]
  | append_singleton items last ih =>
    have hfirst : (array (done ++ (items ++ [last]))).applyPatch
        (.remove ([] ++ [.index (done.length + items.length)])) = .ok (array (done ++ items)) := by
      rw [← List.append_assoc]
      simp [applyPatch, splitLast?, updateAt, removeChild, Segment.position?,
        List.eraseIdx_append_of_length_le]
    rw [List.length_append, List.length_singleton, dropItems, patch_cons, hfirst]
    exact ih

/-- The changes to the items from a position on, when there are as many as in the first array. -/
theorem patch_diffItems {olds news ts : List Json} (done : List Json)
    (hlength : ts.length = olds.length)
    (hlead : ∀ (i : Nat) (old t new : Json), olds[i]? = some old → ts[i]? = some t →
      news[i]? = some new → t.LeadsFrom old new) (hnews : ∀ new ∈ news, new.Tidy) :
    ∃ us, (array (done ++ ts)).patch (diffItems [] done.length olds news) =
        .ok (array (done ++ us)) ∧ List.Forall₂ (fun u new => u.same new) us news := by
  induction olds generalizing ts news done with
  | nil =>
    obtain rfl : ts = [] := List.length_eq_zero_iff.1 hlength
    refine ⟨news, by rw [List.append_nil, diffItems, patch_appendItems], ?_⟩
    exact List.forall₂_same.2 fun new hnew => same_refl (hnews new hnew)
  | cons old olds ih =>
    obtain ⟨t, ts, rfl⟩ := List.exists_cons_of_length_eq_add_one hlength
    rw [List.length_cons, List.length_cons, Nat.add_right_cancel_iff] at hlength
    cases news with
    | nil =>
      refine ⟨[], ?_, .nil⟩
      rw [diffItems, List.length_cons, ← hlength, ← List.length_cons (a := t), patch_dropItems,
        List.append_nil]
      simp
    | cons new news =>
      -- The items before the position are done, so the induction goes on with one more of them.
      obtain ⟨hnew, hnews⟩ := List.forall_mem_cons.1 hnews
      obtain ⟨u, hu, hsame⟩ := hlead 0 old t new rfl rfl rfl
      have hchild : (array (done ++ t :: ts)).child? (.index done.length) = some t := by
        simp [child?, Segment.position?]
      have hover : (array (done ++ t :: ts)).overwriteChild? (.index done.length) u =
          some (array (done ++ u :: ts)) := by
        simp [overwriteChild?, Segment.position?]
      obtain ⟨us, hus, hall⟩ := ih (done ++ [u]) hlength
        (fun i old t new hold ht hnew => hlead (i + 1) old t new hold ht hnew) hnews
      refine ⟨u :: us, ?_, .cons hsame hall⟩
      rw [diffItems, patch_append, List.nil_append, patch_diffAt_under hchild hu hover]
      simpa [Except.bind] using hus

/-! ### All values -/

/-- A value stands between two others so that their difference leads on from it: where the two are
compared inside, it has the same number of items as the first, the members of the first, and no
members besides those of the two; and what stays the same is there already. -/
inductive Settles : Json → Json → Json → Prop
  | leaf {before t after : Json} (hleaf : alike before after = false)
      (hsame : before.same after → t.same after) : Settles before t after
  | array {olds ts news : List Json} (hlength : ts.length = olds.length)
      (hitems : ∀ (i : Nat) (old t new : Json), olds[i]? = some old → ts[i]? = some t →
        news[i]? = some new → Settles old t new) : Settles (.array olds) (.array ts) (.array news)
  | object {olds ts news : Keyed Json}
      (hkept : ∀ key, Keyed.contains key olds → Keyed.contains key ts)
      (hadds : ∀ key, Keyed.contains key ts → Keyed.contains key olds ∨ Keyed.contains key news)
      (hmembers : ∀ key old t new, Keyed.get? key olds = some old → Keyed.get? key ts = some t →
        Keyed.get? key news = some new → Settles old t new) :
      Settles (.object olds) (.object ts) (.object news)

/-- **A difference leads on from every value that stands between.** -/
theorem Settles.leadsFrom {before t after : Json} (h : Settles before t after)
    (hb : before.Tidy) (ht : t.Tidy) (ha : after.Tidy) : t.LeadsFrom before after := by
  induction h with
  | @leaf before t after hleaf hsame =>
    rw [LeadsFrom, diffAt_of_not_alike hleaf]
    split
    · next h => exact ⟨t, rfl, hsame h⟩
    · exact ⟨after, rfl, same_refl ha⟩
  | @array olds ts news hlength hitems ih =>
    rw [tidy_array] at hb ht ha
    obtain ⟨us, hus, hall⟩ := patch_diffItems [] hlength (fun i old t new hold hget hnew =>
      ih i old t new hold hget hnew (hb old (List.mem_of_getElem? hold))
        (ht t (List.mem_of_getElem? hget)) (ha new (List.mem_of_getElem? hnew))) ha
    exact ⟨.array us, hus, by rw [same, sameItems_iff]; exact hall⟩
  | @object olds ts news hkept hadds hmembers ih =>
    have hin : ∀ {fields : Keyed Json}, (Json.object fields).Tidy → ∀ {key value},
        Keyed.get? key fields = some value → value.Tidy := fun hfields _ _ hget =>
      (tidy_object.1 hfields).2 _ (Keyed.mem_of_get? hget)
    exact leadsFrom_object hb (tidy_object.1 ht).1 ha hkept hadds
      fun key old t new hold hget hnew =>
        ih key old t new hold hget hnew (hin hb hold) (hin ht hget) (hin ha hnew)

/-- What is the same as the first value stands between it and any other. -/
theorem settles_of_same {before t : Json} (h : t.same before) (after : Json) :
    Settles before t after := by
  induction before using induction generalizing t after with
  | null | bool | number | text => exact .leaf rfl fun hafter => same_trans h hafter
  | array olds ih =>
    cases after with
    | array news =>
      cases t with
      | array ts =>
        have hall := sameItems_iff.1 h
        refine .array hall.length_eq fun i old t new hold hget _ => ?_
        exact ih old (List.mem_of_getElem? hold) (rel_of_forall₂ hall hget hold) new
      | null | bool | number | text | object => simp [same] at h
    | _ => exact .leaf rfl fun hafter => same_trans h hafter
  | object olds ih =>
    cases after with
    | object news =>
      cases t with
      | object ts =>
        have hsame : ∀ key, SameOption (Keyed.get? key ts) (Keyed.get? key olds) :=
          sameOption_get? h
        refine .object (fun key hkey => ?_) (fun key hkey => .inl ?_)
          fun key old t new hold hget _ => ?_
        · rw [Keyed.contains, (hsame key).isSome_eq]
          exact hkey
        · rw [Keyed.contains, ← (hsame key).isSome_eq]
          exact hkey
        · have hkey := hsame key
          rw [hold, hget] at hkey
          cases hkey with
          | some hkey => exact ih (key, old) (Keyed.mem_of_get? hold) hkey new
      | null | bool | number | text | array => simp [same] at h
    | _ => exact .leaf rfl fun hafter => same_trans h hafter

/-- **Carrying out a difference.** From whatever is the same as the first value, the difference
leads to the second. -/
theorem patch_diff {before after : Json} (hb : before.Tidy) (ha : after.Tidy) :
    Leads before after := fun _ ht =>
  (settles_of_same ht after).leadsFrom hb (tidy_of_same ht hb) ha

/-! ### Nothing to change -/

theorem diffItems_eq_nil {olds news : List Json} (path : Path) (position : Nat)
    (hnil : ∀ old ∈ olds, ∀ path new, old.same new → diffAt path old new = [])
    (hsame : List.Forall₂ (fun old new => old.same new) olds news) :
    diffItems path position olds news = [] := by
  induction hsame generalizing position with
  | nil => rfl
  | cons h _ ih =>
    obtain ⟨hold, holds⟩ := List.forall_mem_cons.1 hnil
    rw [diffItems, hold _ _ h, List.nil_append, ih (position + 1) holds]

theorem diffFields_eq_nil {rest : List (String × Json)} {new : Keyed Json} (path : Path)
    (hnil : ∀ p ∈ rest, ∀ path value, p.2.same value → diffAt path p.2 value = [])
    (hsame : ∀ p ∈ rest, ∃ value, Keyed.get? p.1 new = some value ∧ p.2.same value) :
    diffFields path rest new = [] := by
  induction rest with
  | nil => rfl
  | cons p rest ih =>
    obtain ⟨hp, hrest⟩ := List.forall_mem_cons.1 hnil
    obtain ⟨⟨value, hget, hvalue⟩, hsames⟩ := List.forall_mem_cons.1 hsame
    rw [diffFields, ih hrest hsames, hget]
    simp [hp _ _ hvalue]

theorem additions_eq_nil {old new : Keyed Json} (path : Path)
    (h : Keyed.keys old = Keyed.keys new) : additions path old new = [] := by
  rw [additions, List.map_eq_nil_iff, List.filter_eq_nil_iff]
  intro p hp
  have hkey : Keyed.contains p.1 old := by
    rw [Keyed.contains_iff_mem_keys, h]
    exact List.mem_map_of_mem (f := (·.1)) hp
  simp [hkey]

/-- Between values that are the same there is nothing to change. -/
theorem diffAt_eq_nil {before after : Json} (path : Path) (hb : before.Tidy)
    (h : before.same after) : diffAt path before after = [] := by
  induction before using induction generalizing path after with
  | null | bool | number | text => rw [diffAt_of_not_alike rfl, if_pos h]
  | array olds ih =>
    cases after with
    | array news =>
      exact diffItems_eq_nil path 0
        (fun old hold path new => ih old hold path (tidy_array.1 hb old hold)) (sameItems_iff.1 h)
    | _ => simp [same] at h
  | object olds ih =>
    cases after with
    | object news =>
      obtain ⟨hsorted, htidy⟩ := tidy_object.1 hb
      rw [diffAt, additions_eq_nil path (keys_eq_of_same h), List.append_nil]
      refine diffFields_eq_nil path (fun p hp path value => ih p hp path (htidy p hp)) ?_
      intro p hp
      have hp' := sameOption_get? h p.1
      rw [hsorted.get?_of_mem hp] at hp'
      cases hget : Keyed.get? p.1 news with
      | none => rw [hget] at hp'; cases hp'
      | some value =>
        rw [hget] at hp'
        cases hp' with
        | some hvalue => exact ⟨value, rfl, hvalue⟩
    | _ => simp [same] at h

/-- The difference is empty exactly between values that are the same. -/
theorem diff_eq_nil_iff {before after : Json} (hb : before.Tidy) (ha : after.Tidy) :
    before.diff after = [] ↔ before.same after := by
  refine ⟨fun h => ?_, diffAt_eq_nil [] hb⟩
  obtain ⟨result, hresult, hsame⟩ := patch_diff hb ha before (same_refl hb)
  have hself : before = result := by
    rw [show diffAt [] before after = [] from h] at hresult
    exact Except.ok.inj hresult
  exact hself ▸ hsame

/-- **Differences are undone by carrying them out.** From the first value the difference leads to
the second, so does every beginning of it lead to some value, and it is empty exactly between values
that are the same. -/
theorem diff_inverse {before after : Json} (hb : before.Tidy) (ha : after.Tidy) :
    (∃ result, before.patch (before.diff after) = .ok result ∧ result.same after) ∧
      (∀ n, ∃ between, before.patch ((before.diff after).take n) = .ok between) ∧
      (before.diff after = [] ↔ before.same after) := by
  obtain ⟨result, hresult, hsame⟩ := patch_diff hb ha before (same_refl hb)
  exact ⟨⟨result, hresult, hsame⟩, patch_take hresult, diff_eq_nil_iff hb ha⟩

/-- An array that grows, an item that loses and gains members, and a member that goes. -/
theorem diff_inverse_nested :
    let before := object [("list", array [object [("a", whole 1), ("b", null)]]), ("x", whole 0)]
    let after := object [("list", array [object [("b", text "b"), ("c", array [])], whole 2])]
    (∃ result, before.patch (before.diff after) = .ok result ∧ result.same after) ∧
      (∀ n, ∃ between, before.patch ((before.diff after).take n) = .ok between) ∧
      (before.diff after = [] ↔ before.same after) := by
  refine diff_inverse ?_ ?_
  · simp only [Tidy, TidyItems, TidyFields, whole, Keyed.Sorted]
    decide
  · simp only [Tidy, TidyItems, TidyFields, whole, Keyed.Sorted]
    decide

end Json

end Dialogue
