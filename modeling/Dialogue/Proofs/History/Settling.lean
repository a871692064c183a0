import Dialogue.Proofs.Except
import Dialogue.Proofs.History.Difference
/-!
# Where differences lead on from

The difference of two values can be carried out on a third one. It leads to the second value exactly
from the values that stand between the two: additions and replacements may have happened already,
while removals, and items that have come or gone, may not.

## Main definitions

- `Json.Fate` — what becomes of a member of the first object

## Main statements

- `Json.exists_of_patch_under` — changes one segment deeper are changes of what stands there
- `Json.alike_of_applyPatch` — changes inside keep objects objects and arrays arrays
- `Json.exists_of_patch_diffFields`, `Json.exists_of_patch_diffItems` — objects and arrays
- `Json.leadsFrom_iff_settles`, `Json.Settles.congr`
-/

namespace Dialogue

namespace Json

/-! ### One segment deeper -/

/-- Only what is there is replaced. -/
theorem exists_child?_of_overwriteChild? {root value result : Json} {s : Segment}
    (h : root.overwriteChild? s value = some result) : ∃ child, root.child? s = some child := by
  cases root with
  | object fields =>
    by_cases hkey : Keyed.contains s.name fields = true
    · exact Option.isSome_iff_exists.1 hkey
    · rw [overwriteChild?, if_neg hkey] at h
      cases h
  | array items =>
    obtain ⟨position, hp, hset⟩ := Option.bind_eq_some_iff.1 h
    by_cases hlt : position < items.length
    · exact ⟨items[position], by simp [child?, hp, hlt]⟩
    · rw [if_neg hlt] at hset
      cases hset
  | null | bool | number | text => cases h

theorem exists_of_updateAt_cons {ε : Type} {missing : ε} {change : Json → Except ε Json}
    {s : Segment} {p : Path} {root outer : Json}
    (h : updateAt missing change (s :: p) root = .ok outer) :
    ∃ child inner, root.child? s = some child ∧ updateAt missing change p child = .ok inner ∧
      root.overwriteChild? s inner = some outer := by
  rw [updateAt] at h
  cases hchild : root.child? s with
  | none => rw [hchild] at h; cases h
  | some child =>
    rw [hchild] at h
    cases hin : updateAt missing change p child with
    | error fault => simp [hin, bind, Except.bind] at h
    | ok inner =>
      simp only [hin, bind, Except.bind] at h
      cases hout : root.overwriteChild? s inner with
      | none => simp only [hout] at h; cases h
      | some result =>
        simp only [hout] at h
        obtain rfl : result = outer := Except.ok.inj h
        exact ⟨child, inner, rfl, hin, hout⟩

/-- A change one segment deeper that fits is a change of what stands there. -/
theorem exists_of_applyPatch_under {root outer : Json} {s : Segment} {p : Patch} (hp : p.Inner)
    (h : root.applyPatch (p.under [s]) = .ok outer) :
    ∃ child inner, root.child? s = some child ∧ child.applyPatch p = .ok inner ∧
      root.overwriteChild? s inner = some outer := by
  rcases List.eq_nil_or_concat p.path with hnil | ⟨parent, last, hpath⟩
  · cases p with
    | add path value => exact absurd hnil hp
    | remove path => exact absurd hnil hp
    | replace path value =>
      obtain rfl : path = [] := hnil
      have hover : root.overwriteChild? s value = some outer := by
        cases hover : root.overwriteChild? s value with
        | none => simp [Patch.under, applyPatch, splitLast?, updateAt, replaceChild, hover] at h
        | some result =>
          simpa [Patch.under, applyPatch, splitLast?, updateAt, replaceChild, hover] using h
      obtain ⟨child, hchild⟩ := exists_child?_of_overwriteChild? hover
      exact ⟨child, value, hchild, rfl, hover⟩
  · rw [List.concat_eq_append] at hpath
    cases p with
    | add path value =>
      obtain rfl : path = parent ++ [last] := hpath
      simp only [Patch.under, ← List.append_assoc, applyPatch, splitLast?_append_singleton] at h ⊢
      obtain ⟨child, inner, hchild, hin, hout⟩ := exists_of_updateAt_cons h
      exact ⟨child, inner, hchild, updateAt_mono (fun _ _ => addChild_mono) hin, hout⟩
    | remove path =>
      obtain rfl : path = parent ++ [last] := hpath
      simp only [Patch.under, ← List.append_assoc, applyPatch, splitLast?_append_singleton] at h ⊢
      obtain ⟨child, inner, hchild, hin, hout⟩ := exists_of_updateAt_cons h
      exact ⟨child, inner, hchild, updateAt_mono (fun _ _ => removeChild_mono) hin, hout⟩
    | replace path value =>
      obtain rfl : path = parent ++ [last] := hpath
      simp only [Patch.under, ← List.append_assoc, applyPatch, splitLast?_append_singleton] at h ⊢
      obtain ⟨child, inner, hchild, hin, hout⟩ := exists_of_updateAt_cons h
      exact ⟨child, inner, hchild, updateAt_mono (fun _ _ => replaceChild_mono) hin, hout⟩

/-- A row of changes one segment deeper that fits is a row of changes of what stands there, unless
there are none. -/
theorem exists_of_patch_under {root outer : Json} {s : Segment} {ps : List Patch}
    (hps : ∀ p ∈ ps, p.Inner) (hne : ps ≠ [])
    (h : root.patch (ps.map (Patch.under [s])) = .ok outer) :
    ∃ child inner, root.child? s = some child ∧ child.patch ps = .ok inner ∧
      root.overwriteChild? s inner = some outer := by
  induction ps generalizing root with
  | nil => exact absurd rfl hne
  | cons p ps ih =>
    obtain ⟨hp, hps⟩ := List.forall_mem_cons.1 hps
    rw [List.map_cons, patch_cons] at h
    obtain ⟨middle, hfirst, hothers⟩ := bind_eq_ok_iff.1 h
    obtain ⟨child, inner, hchild, hin, hover⟩ := exists_of_applyPatch_under hp hfirst
    by_cases hrest : ps = []
    · subst hrest
      obtain rfl : middle = outer := Except.ok.inj hothers
      exact ⟨child, inner, hchild, by rw [patch_cons, hin]; rfl, hover⟩
    · obtain ⟨child', inner', hchild', hin', hover'⟩ := ih hps hrest hothers
      -- What the other changes find is what the first one has left.
      obtain ⟨middle', hmiddle, hnext⟩ := exists_overwriteChild? hchild inner
      obtain rfl : middle' = middle := Option.some.inj (hmiddle.symm.trans hover)
      obtain rfl : inner = child' := Option.some.inj (hnext.symm.trans hchild')
      rw [overwriteChild?_overwriteChild? hover] at hover'
      exact ⟨child, inner', hchild, by rw [patch_cons, hin]; exact hin', hover'⟩

/-! ### Objects stay objects and arrays stay arrays -/

theorem alike_trans {a b c : Json} (hab : alike a b = true) (hbc : alike b c = true) :
    alike a c = true := by
  cases a <;> cases b <;> cases c <;> simp_all [alike]

theorem alike_of_same {a b : Json} (h : a.same b) (c : Json) : alike b c = alike a c := by
  cases a <;> cases b <;> first | rfl | (cases c <;> rfl) | simp [same] at h

theorem alike_of_overwriteChild? {root value result : Json} {s : Segment}
    (h : root.overwriteChild? s value = some result) : alike root result = true := by
  cases root with
  | object fields =>
    by_cases hkey : Keyed.contains s.name fields = true
    · rw [overwriteChild?, if_pos hkey] at h
      obtain rfl := Option.some.inj h
      rfl
    · rw [overwriteChild?, if_neg hkey] at h
      cases h
  | array items =>
    obtain ⟨position, -, hset⟩ := Option.bind_eq_some_iff.1 h
    by_cases hlt : position < items.length
    · rw [if_pos hlt] at hset
      obtain rfl := Option.some.inj hset
      rfl
    · rw [if_neg hlt] at hset
      cases hset
  | null | bool | number | text => cases h

theorem alike_of_addChild {path : Path} {s : Segment} {value root result : Json}
    (h : addChild path s value root = .ok result) : alike root result = true := by
  unfold addChild at h
  split at h
  · obtain rfl := Except.ok.inj h
    rfl
  · split at h
    · split at h
      · obtain rfl := Except.ok.inj h
        rfl
      · cases h
    · cases h
  · cases h

theorem alike_of_removeChild {path : Path} {s : Segment} {root result : Json}
    (h : removeChild path s root = .ok result) : alike root result = true := by
  unfold removeChild at h
  split at h
  · split at h
    · obtain rfl := Except.ok.inj h
      rfl
    · cases h
  · split at h
    · split at h
      · obtain rfl := Except.ok.inj h
        rfl
      · cases h
    · cases h
  · cases h

theorem alike_of_replaceChild {path : Path} {s : Segment} {value root result : Json}
    (h : replaceChild path s value root = .ok result) : alike root result = true := by
  unfold replaceChild at h
  split at h
  · next hover =>
    obtain rfl := Except.ok.inj h
    exact alike_of_overwriteChild? hover
  · cases h

theorem alike_of_updateAt {ε : Type} {missing : ε} {change : Json → Except ε Json}
    (hchange : ∀ root result, change root = .ok result → alike root result = true) {p : Path}
    {root result : Json} (h : updateAt missing change p root = .ok result) :
    alike root result = true := by
  cases p with
  | nil => exact hchange root result h
  | cons s p =>
    obtain ⟨child, inner, -, -, hover⟩ := exists_of_updateAt_cons h
    exact alike_of_overwriteChild? hover

/-- A change inside a value keeps objects objects and arrays arrays. -/
theorem alike_of_applyPatch {p : Patch} (hpath : p.path ≠ []) {root result : Json}
    (h : root.applyPatch p = .ok result) : alike root result = true := by
  obtain hnil | ⟨parent, last, hconcat⟩ := List.eq_nil_or_concat p.path
  · exact absurd hnil hpath
  · rw [List.concat_eq_append] at hconcat
    cases p with
    | add path value =>
      obtain rfl : path = parent ++ [last] := hconcat
      rw [applyPatch, splitLast?_append_singleton] at h
      exact alike_of_updateAt (fun _ _ => alike_of_addChild) h
    | remove path =>
      obtain rfl : path = parent ++ [last] := hconcat
      rw [applyPatch, splitLast?_append_singleton] at h
      exact alike_of_updateAt (fun _ _ => alike_of_removeChild) h
    | replace path value =>
      obtain rfl : path = parent ++ [last] := hconcat
      rw [applyPatch, splitLast?_append_singleton] at h
      exact alike_of_updateAt (fun _ _ => alike_of_replaceChild) h

theorem eq_or_alike_of_patch {ps : List Patch} (hps : ∀ p ∈ ps, p.path ≠ []) {root result : Json}
    (h : root.patch ps = .ok result) : result = root ∨ alike root result = true := by
  induction ps generalizing root with
  | nil => exact .inl (Except.ok.inj h).symm
  | cons p ps ih =>
    obtain ⟨hp, hps⟩ := List.forall_mem_cons.1 hps
    obtain ⟨middle, hfirst, hothers⟩ := bind_eq_ok_iff.1 h
    have halike := alike_of_applyPatch hp hfirst
    rcases ih hps hothers with rfl | hrest
    · exact .inr halike
    · exact .inr (alike_trans halike hrest)

/-! ### Paths of a difference -/

theorem path_under (front : Path) (p : Patch) : (p.under front).path = front ++ p.path := by
  cases p <;> rfl

theorem path_ne_nil_of_mem_diffAt {path : Path} (hpath : path ≠ []) {before after : Json}
    {p : Patch} (h : p ∈ diffAt path before after) : p.path ≠ [] := by
  rw [← List.append_nil path, diffAt_append] at h
  obtain ⟨inner, -, rfl⟩ := List.mem_map.1 h
  rw [path_under]
  exact List.append_ne_nil_of_left_ne_nil hpath _

theorem path_ne_nil_of_mem_diffFields {rest : List (String × Json)} {new : Keyed Json} {p : Patch}
    (h : p ∈ diffFields [] rest new) : p.path ≠ [] := by
  induction rest with
  | nil => cases h
  | cons q rest ih =>
    rw [diffFields, List.mem_append] at h
    rcases h with h | h
    · cases hget : Keyed.get? q.1 new with
      | none =>
        rw [hget] at h
        rw [List.mem_singleton.1 h]
        exact (by cases ·)
      | some value =>
        rw [hget] at h
        exact path_ne_nil_of_mem_diffAt (by simp) h
    · exact ih h

theorem path_ne_nil_of_mem_appendItems {position : Nat} {items : List Json} {p : Patch}
    (h : p ∈ appendItems [] position items) : p.path ≠ [] := by
  induction items generalizing position with
  | nil => cases h
  | cons item rest ih =>
    rcases List.mem_cons.1 h with rfl | h
    · exact (by cases ·)
    · exact ih h

theorem path_ne_nil_of_mem_dropItems {position count : Nat} {p : Patch}
    (h : p ∈ dropItems [] position count) : p.path ≠ [] := by
  induction count with
  | zero => cases h
  | succ count ih =>
    rcases List.mem_cons.1 h with rfl | h
    · exact (by cases ·)
    · exact ih h

theorem path_ne_nil_of_mem_diffItems {olds news : List Json} {position : Nat} {p : Patch}
    (h : p ∈ diffItems [] position olds news) : p.path ≠ [] := by
  induction olds generalizing position news with
  | nil => exact path_ne_nil_of_mem_appendItems (by simpa [diffItems] using h)
  | cons old olds ih =>
    cases news with
    | nil => exact path_ne_nil_of_mem_dropItems h
    | cons new news =>
      rw [diffItems, List.mem_append] at h
      rcases h with h | h
      · exact path_ne_nil_of_mem_diffAt (by simp) h
      · exact ih h

/-- Between two objects or two arrays every change is one inside. -/
theorem path_ne_nil_of_mem_diff {before after : Json} (halike : alike before after = true) :
    ∀ p ∈ before.diff after, p.path ≠ [] := by
  intro p hp
  cases before with
  | object olds =>
    cases after with
    | object news =>
      rw [diff, diffAt, List.mem_append] at hp
      rcases hp with hp | hp
      · exact path_ne_nil_of_mem_diffFields hp
      · obtain ⟨q, -, rfl⟩ := List.mem_map.1 hp
        exact (by cases ·)
    | _ => cases halike
  | array olds =>
    cases after with
    | array news => exact path_ne_nil_of_mem_diffItems hp
    | _ => cases halike
  | null | bool | number | text => cases halike

/-! ### Objects -/

/-- What becomes of a member of the first object: its value there, the value in the second object,
the value that the changes find, and the value that they leave. -/
inductive Fate (old : Json) : Option Json → Option Json → Option Json → Prop
  | changed {new t u : Json} (h : t.patch (old.diff new) = .ok u) :
      Fate old (some new) (some t) (some u)
  | missing {new : Json} : Fate old (some new) none none
  | removed {t : Json} : Fate old none (some t) none

/-- The changes inside a member or an item that fit: there are none, or they are the changes of what
stands there. -/
theorem exists_of_patch_diffAt {root outer before after : Json} {s : Segment}
    (h : root.patch (diffAt [s] before after) = .ok outer) :
    (before.diff after = [] ∧ outer = root) ∨
      ∃ child inner, root.child? s = some child ∧ child.patch (before.diff after) = .ok inner ∧
        root.overwriteChild? s inner = some outer := by
  rw [← List.append_nil [s], diffAt_append] at h
  by_cases hnil : before.diff after = []
  · rw [← diff, hnil] at h
    exact .inl ⟨hnil, (Except.ok.inj h).symm⟩
  · exact .inr (exists_of_patch_under (inner_diffAt [] before after) hnil h)

/-- The changes to one member, when they fit. -/
theorem exists_of_patch_member {k : String} {old r : Json} {new current : Keyed Json}
    (hcur : Keyed.Sorted current)
    (h : (object current).patch (match Keyed.get? k new with
      | some value => diffAt [.key k] old value
      | none => [.remove [.key k]]) = .ok r) :
    ∃ result, r = object result ∧ Keyed.Sorted result ∧
      (∀ key, key ≠ k → Keyed.get? key result = Keyed.get? key current) ∧
      Fate old (Keyed.get? k new) (Keyed.get? k current) (Keyed.get? k result) := by
  cases hnew : Keyed.get? k new with
  | some value =>
    rw [hnew] at h
    rcases exists_of_patch_diffAt h with ⟨hnil, rfl⟩ | ⟨child, inner, hchild, hin, hover⟩
    · refine ⟨current, rfl, hcur, fun _ _ => rfl, ?_⟩
      cases hget : Keyed.get? k current with
      | none => exact .missing
      | some t => exact .changed (by rw [hnil]; rfl)
    · have hget : Keyed.get? k current = some child := hchild
      have hkey : Keyed.contains k current = true := by
        rw [Keyed.contains, hget, Option.isSome_some]
      have hreplaced : (object current).overwriteChild? (.key k) inner =
          some (object (Keyed.replace k inner current)) := if_pos hkey
      obtain rfl := Option.some.inj (hreplaced.symm.trans hover)
      refine ⟨_, rfl, hcur.replace k inner,
        fun key hne => Keyed.get?_replace_of_ne hne inner current, ?_⟩
      rw [hget, Keyed.get?_replace_self hkey]
      exact .changed hin
  | none =>
    rw [hnew] at h
    by_cases hkey : Keyed.contains k current = true
    · obtain ⟨t, hget⟩ := Option.isSome_iff_exists.1 hkey
      have hremoved : (object current).patch [.remove [.key k]] =
          .ok (object (Keyed.erase k current)) := by
        simp [patch, applyPatch, splitLast?, updateAt, removeChild, Segment.name, hkey, bind,
          Except.bind]
      obtain rfl := Except.ok.inj (hremoved.symm.trans h)
      refine ⟨_, rfl, hcur.erase k, fun key hne => Keyed.get?_erase_of_ne hne current, ?_⟩
      rw [hget, hcur.get?_erase_self]
      exact .removed
    · simp [patch, applyPatch, splitLast?, updateAt, removeChild, Segment.name, hkey, bind,
        Except.bind] at h

/-- The changes to the members of the first object, when they fit. -/
theorem exists_of_patch_diffFields {rest new current : Keyed Json} {r : Json}
    (hrest : Keyed.Sorted rest) (hcur : Keyed.Sorted current)
    (h : (object current).patch (diffFields [] rest new) = .ok r) :
    ∃ result, r = object result ∧ Keyed.Sorted result ∧
      (∀ key, Keyed.contains key rest = false →
        Keyed.get? key result = Keyed.get? key current) ∧
      ∀ key old, Keyed.get? key rest = some old →
        Fate old (Keyed.get? key new) (Keyed.get? key current) (Keyed.get? key result) := by
  induction rest generalizing current with
  | nil =>
    obtain rfl := Except.ok.inj h
    exact ⟨current, rfl, hcur, fun _ _ => rfl, fun _ _ hget => by cases hget⟩
  | cons p rest ih =>
    obtain ⟨k, old⟩ := p
    rw [diffFields, patch_append] at h
    obtain ⟨middle, hfirst, hsecond⟩ := bind_eq_ok_iff.1 h
    obtain ⟨middle, rfl, hmid, hother, hfate⟩ := exists_of_patch_member hcur hfirst
    obtain ⟨result, rfl, hres, hout, hin⟩ := ih hrest.tail hmid hsecond
    refine ⟨result, rfl, hres, fun key hkey => ?_, fun key old' hget => ?_⟩
    · rw [Keyed.contains_cons, Bool.or_eq_false_iff] at hkey
      have hkk : key ≠ k := fun h => by simp [h] at hkey
      rw [hout key hkey.2, hother key hkk]
    · by_cases hkk : key = k
      · -- The first name comes up no more among the others.
        subst hkk
        rw [Keyed.get?_cons, if_pos rfl] at hget
        obtain rfl := Option.some.inj hget
        rw [hout key (by rw [Keyed.contains, hrest.get?_tail, Option.isSome_none])]
        exact hfate
      · rw [Keyed.get?_cons, if_neg (Ne.symm hkk)] at hget
        rw [← hother key hkk]
        exact hin key old' hget

/-! ### Arrays -/

theorem exists_of_patch_appendItems {xs items : List Json} {position : Nat} {r : Json}
    (h : (array xs).patch (appendItems [] position items) = .ok r) :
    ∃ ys, r = array ys ∧ ys.length = xs.length + items.length ∧
      ∀ i < position, ys[i]? = xs[i]? := by
  induction items generalizing xs position with
  | nil =>
    obtain rfl := Except.ok.inj h
    exact ⟨xs, rfl, rfl, fun _ _ => rfl⟩
  | cons item rest ih =>
    obtain ⟨middle, hfirst, hsecond⟩ := bind_eq_ok_iff.1 h
    have hle : position ≤ xs.length := by
      by_contra hgt
      simp [applyPatch, splitLast?, updateAt, addChild, Segment.position?, hgt] at hfirst
    have hadded : (array xs).applyPatch (.add ([] ++ [.index position]) item) =
        .ok (array (xs.take position ++ item :: xs.drop position)) := by
      simp [applyPatch, splitLast?, updateAt, addChild, Segment.position?, hle]
    obtain rfl := Except.ok.inj (hadded.symm.trans hfirst)
    obtain ⟨ys, rfl, hlength, hfront⟩ := ih hsecond
    refine ⟨ys, rfl, ?_, fun i hi => ?_⟩
    · rw [hlength]
      simp only [List.length_append, List.length_take, List.length_cons, List.length_drop]
      omega
    · rw [hfront i (by omega), List.getElem?_append_left (by rw [List.length_take]; omega),
        List.getElem?_take_of_lt hi]

theorem exists_of_patch_dropItems {xs : List Json} {position count : Nat} {r : Json}
    (h : (array xs).patch (dropItems [] position count) = .ok r) :
    ∃ ys, r = array ys ∧ ys.length + count = xs.length ∧ ∀ i < position, ys[i]? = xs[i]? := by
  induction count generalizing xs with
  | zero =>
    obtain rfl := Except.ok.inj h
    exact ⟨xs, rfl, rfl, fun _ _ => rfl⟩
  | succ count ih =>
    obtain ⟨middle, hfirst, hsecond⟩ := bind_eq_ok_iff.1 h
    have hlt : position + count < xs.length := by
      by_contra hge
      simp [applyPatch, splitLast?, updateAt, removeChild, Segment.position?, hge] at hfirst
    have hremoved : (array xs).applyPatch (.remove ([] ++ [.index (position + count)])) =
        .ok (array (xs.eraseIdx (position + count))) := by
      simp [applyPatch, splitLast?, updateAt, removeChild, Segment.position?, hlt]
    obtain rfl := Except.ok.inj (hremoved.symm.trans hfirst)
    obtain ⟨ys, rfl, hlength, hfront⟩ := ih hsecond
    refine ⟨ys, rfl, ?_, fun i hi => ?_⟩
    · rw [List.length_eraseIdx_of_lt hlt] at hlength
      omega
    · rw [hfront i hi, List.getElem?_eraseIdx_of_lt (by omega)]

/-- The changes to the items from a position on, when they fit: as many items come or go as between
the two arrays, and those at places in both are changed where they stand. -/
theorem exists_of_patch_diffItems {olds news xs : List Json} {position : Nat} {r : Json}
    (h : (array xs).patch (diffItems [] position olds news) = .ok r) :
    ∃ ys, r = array ys ∧ ys.length + olds.length = xs.length + news.length ∧
      (∀ i < position, ys[i]? = xs[i]?) ∧
      ∀ i old new t, olds[i]? = some old → news[i]? = some new → xs[position + i]? = some t →
        ∃ u, t.patch (old.diff new) = .ok u ∧ ys[position + i]? = some u := by
  induction olds generalizing xs news position with
  | nil =>
    obtain ⟨ys, rfl, hlength, hfront⟩ := exists_of_patch_appendItems (by simpa [diffItems] using h)
    exact ⟨ys, rfl, hlength, hfront, fun _ _ _ _ hold => by cases hold⟩
  | cons old olds ih =>
    cases news with
    | nil =>
      obtain ⟨ys, rfl, hlength, hfront⟩ := exists_of_patch_dropItems h
      exact ⟨ys, rfl, hlength, hfront, fun _ _ _ _ _ hnew => by cases hnew⟩
    | cons new news =>
      rw [diffItems, patch_append] at h
      obtain ⟨middle, hfirst, hsecond⟩ := bind_eq_ok_iff.1 h
      -- The first item is changed where it stands, if it is there; nothing else is touched.
      obtain ⟨zs, rfl, hlength, hother, hitem⟩ : ∃ zs, middle = array zs ∧ zs.length = xs.length ∧
          (∀ i, i ≠ position → zs[i]? = xs[i]?) ∧
          ∀ t, xs[position]? = some t → ∃ u, t.patch (old.diff new) = .ok u ∧
            zs[position]? = some u := by
        rcases exists_of_patch_diffAt hfirst with ⟨hnil, rfl⟩ | ⟨child, inner, hchild, hin, hover⟩
        · exact ⟨xs, rfl, rfl, fun _ _ => rfl, fun t ht => ⟨t, by rw [hnil]; rfl, ht⟩⟩
        · have hget : xs[position]? = some child := hchild
          have hlt : position < xs.length := (List.getElem?_eq_some_iff.1 hget).1
          have hset : (array xs).overwriteChild? (.index position) inner =
              some (array (xs.set position inner)) := by
            simp [overwriteChild?, Segment.position?, hlt]
          obtain rfl := Option.some.inj (hset.symm.trans hover)
          refine ⟨_, rfl, List.length_set, fun i hi => List.getElem?_set_ne (Ne.symm hi),
            fun t ht => ⟨inner, ?_, List.getElem?_set_self hlt⟩⟩
          obtain rfl := Option.some.inj (hget.symm.trans ht)
          exact hin
      obtain ⟨ys, rfl, hlength', hfront, hitems⟩ := ih hsecond
      refine ⟨ys, rfl, ?_, fun i hi => ?_, fun i old' new' t hold hnew ht => ?_⟩
      · rw [List.length_cons, List.length_cons]
        omega
      · rw [hfront i (by omega), hother i (by omega)]
      · cases i with
        | zero =>
          obtain rfl := Option.some.inj hold
          obtain rfl := Option.some.inj hnew
          obtain ⟨u, hu, hget⟩ := hitem t ht
          exact ⟨u, hu, by rw [Nat.add_zero, hfront position (by omega), hget]⟩
        | succ i =>
          have hshift : position + (i + 1) = position + 1 + i := by omega
          rw [hshift] at ht ⊢
          exact hitems i old' new' t hold hnew (by rw [hother _ (by omega)]; exact ht)

/-! ### All values -/

/-- Changes between two objects or two arrays are carried out on a value of that kind. -/
theorem alike_of_leadsFrom {before t after : Json} (halike : alike before after = true)
    (h : t.LeadsFrom before after) : alike t after = true := by
  obtain ⟨r, hr, hsame⟩ := h
  have hresult : alike r after = true := by
    rw [← alike_of_same hsame]
    cases after <;> first | rfl | (cases before <;> cases halike)
  rcases eq_or_alike_of_patch (path_ne_nil_of_mem_diff halike) hr with rfl | ht
  · exact hresult
  · exact alike_trans ht hresult

theorem settles_array {olds ts news : List Json}
    (ih : ∀ old ∈ olds, ∀ t ∈ ts, ∀ new ∈ news, t.LeadsFrom old new → Settles old t new)
    (h : (array ts).LeadsFrom (array olds) (array news)) :
    Settles (array olds) (array ts) (array news) := by
  obtain ⟨r, hr, hsame⟩ := h
  rw [diffAt] at hr
  obtain ⟨ys, rfl, hlength, -, hitems⟩ := exists_of_patch_diffItems hr
  have hall := sameItems_iff.1 hsame
  have hcount := hall.length_eq
  refine .array (by omega) fun i old t new hold hget hnew => ?_
  obtain ⟨u, hu, hy⟩ := hitems i old new t hold hnew (by rwa [Nat.zero_add])
  rw [Nat.zero_add] at hy
  exact ih old (List.mem_of_getElem? hold) t (List.mem_of_getElem? hget) new
    (List.mem_of_getElem? hnew) ⟨u, hu, rel_of_forall₂ hall hy hnew⟩

theorem settles_object {olds ts news : Keyed Json} (holds : Keyed.Sorted olds)
    (hts : Keyed.Sorted ts) (hnews : Keyed.Sorted news)
    (ih : ∀ key old t new, Keyed.get? key olds = some old → Keyed.get? key ts = some t →
      Keyed.get? key news = some new → t.LeadsFrom old new → Settles old t new)
    (h : (object ts).LeadsFrom (object olds) (object news)) :
    Settles (object olds) (object ts) (object news) := by
  obtain ⟨r, hr, hsame⟩ := h
  rw [diffAt, patch_append] at hr
  obtain ⟨middle, hfirst, hsecond⟩ := bind_eq_ok_iff.1 hr
  obtain ⟨middle, rfl, -, hout, hfate⟩ := exists_of_patch_diffFields holds hts hfirst
  obtain rfl := Except.ok.inj ((patch_additions _ middle).symm.trans hsecond)
  -- Under each name: what the additions write, else what the changes before them have left.
  have hget : ∀ key, SameOption ((if Keyed.contains key olds then none else Keyed.get? key news).or
      (Keyed.get? key middle)) (Keyed.get? key news) := by
    intro key
    have hkey := sameOption_get? hsame key
    rw [Keyed.get?_foldl_insert (hnews.filter fun p => !Keyed.contains p.1 olds).nodup,
      Keyed.get?_filter (fun name => !Keyed.contains name olds) key news] at hkey
    cases hcontains : Keyed.contains key olds <;> simpa [hcontains] using hkey
  have hgetOld : ∀ {key old}, Keyed.get? key olds = some old →
      SameOption (Keyed.get? key middle) (Keyed.get? key news) := by
    intro key old hold
    have hkey := hget key
    rwa [Keyed.contains, hold, Option.isSome_some, if_pos rfl, Option.none_or] at hkey
  refine .object (fun key hkey => ?_) (fun key hkey => ?_) fun key old t new hold ht hnew => ?_
  · obtain ⟨old, hold⟩ := Option.isSome_iff_exists.1 hkey
    have hfound := hfate key old hold
    have hsameKey := hgetOld hold
    rw [Keyed.contains]
    generalize Keyed.get? key ts = t at hfound ⊢
    generalize Keyed.get? key middle = u at hfound hsameKey
    generalize Keyed.get? key news = new at hfound hsameKey
    cases hfound with
    | changed => rfl
    | missing => cases hsameKey
    | removed => rfl
  · by_contra hnone
    rw [not_or, Bool.not_eq_true, Bool.not_eq_true] at hnone
    have hnews' : Keyed.get? key news = none := by
      rw [← Option.isNone_iff_eq_none, ← Option.isSome_eq_false_iff]
      exact hnone.2
    obtain ⟨t, ht⟩ := Option.isSome_iff_exists.1 hkey
    have hkeySame := hget key
    rw [hnews', hout key hnone.1, ht, ite_self] at hkeySame
    cases hkeySame
  · have hfound := hfate key old hold
    have hsameKey := hgetOld hold
    rw [hnew, ht] at hfound
    rw [hnew] at hsameKey
    generalize Keyed.get? key middle = u at hfound hsameKey
    cases hfound with
    | changed hu =>
      cases hsameKey with
      | some hsameValue => exact ih key old t new hold ht hnew ⟨_, hu, hsameValue⟩

/-- **The values from which a difference leads on** are those that stand between. -/
theorem leadsFrom_iff_settles {before t after : Json} (hb : before.Tidy) (ht : t.Tidy)
    (ha : after.Tidy) : t.LeadsFrom before after ↔ Settles before t after := by
  refine ⟨fun h => ?_, fun h => h.leadsFrom hb ht ha⟩
  have hleaf : ∀ {before t after : Json}, alike before after = false →
      t.LeadsFrom before after → Settles before t after := by
    intro before t after halike hlead
    refine .leaf halike fun hsame => ?_
    obtain ⟨r, hr, hafter⟩ := hlead
    rw [diffAt_of_not_alike halike, if_pos hsame] at hr
    rwa [Except.ok.inj hr]
  induction before using induction generalizing t after with
  | null | bool | number | text => exact hleaf rfl h
  | array olds ih =>
    cases after with
    | array news =>
      have halike := alike_of_leadsFrom rfl h
      cases t with
      | array ts =>
        rw [tidy_array] at hb ht ha
        exact settles_array (fun old hold t hmem new hnew =>
          ih old hold (hb old hold) (ht t hmem) (ha new hnew)) h
      | null | bool | number | text | object => cases halike
    | _ => exact hleaf rfl h
  | object olds ih =>
    cases after with
    | object news =>
      have halike := alike_of_leadsFrom rfl h
      cases t with
      | object ts =>
        obtain ⟨holds, hvalues⟩ := tidy_object.1 hb
        obtain ⟨hts, hvalues'⟩ := tidy_object.1 ht
        obtain ⟨hnews, hvalues''⟩ := tidy_object.1 ha
        refine settles_object holds hts hnews (fun key old t new hold hget hnew => ?_) h
        exact ih (key, old) (Keyed.mem_of_get? hold) (hvalues _ (Keyed.mem_of_get? hold))
          (hvalues' _ (Keyed.mem_of_get? hget)) (hvalues'' _ (Keyed.mem_of_get? hnew))
      | null | bool | number | text | array => cases halike
    | _ => exact hleaf rfl h

/-- What stands between two values stands between any value that is the same as the first, and the
second. -/
theorem Settles.congr {before before' t after : Json} (h : Settles before t after)
    (hsame : before.same before') : Settles before' t after := by
  induction h generalizing before' with
  | @leaf before t after hleaf hafter =>
    rw [← alike_of_same hsame] at hleaf
    exact .leaf hleaf fun h => hafter (same_trans hsame h)
  | @array olds ts news hlength hitems ih =>
    cases before' with
    | array olds' =>
      have hall := sameItems_iff.1 hsame
      refine .array (hlength.trans hall.length_eq) fun i old' t new hold' hget hnew => ?_
      have hlt : i < olds.length := by
        rw [hall.length_eq]
        exact (List.getElem?_eq_some_iff.1 hold').1
      have hold : olds[i]? = some olds[i] := List.getElem?_eq_getElem hlt
      exact ih i olds[i] t new hold hget hnew (rel_of_forall₂ hall hold hold')
    | null | bool | number | text | object => simp [same] at hsame
  | @object olds ts news hkept hadds hmembers ih =>
    cases before' with
    | object olds' =>
      have hget : ∀ key, SameOption (Keyed.get? key olds) (Keyed.get? key olds') :=
        sameOption_get? hsame
      have hcontains : ∀ key, Keyed.contains key olds = Keyed.contains key olds' :=
        fun key => (hget key).isSome_eq
      refine .object (fun key hkey => hkept key ((hcontains key).trans hkey))
        (fun key hkey => hcontains key ▸ hadds key hkey) fun key old' t new hold' ht hnew => ?_
      have hkey := hget key
      rw [hold'] at hkey
      cases hold : Keyed.get? key olds with
      | none => rw [hold] at hkey; cases hkey
      | some old =>
        rw [hold] at hkey
        cases hkey with
        | some hvalue => exact ih key old t new hold ht hnew hvalue
    | null | bool | number | text | array => simp [same] at hsame

end Json

end Dialogue
