import Dialogue.Json.Basic
import Dialogue.Proofs.Keyed
import Mathlib.Data.List.Forall2
/-!
# Sameness of JSON values

`Json.same` is an equivalence on tidy values. Two arrays are the same when their items are, one by
one; two objects in order are the same when they give the same under every name.

## Main statements

- `Json.induction` — a property of all values from the items of arrays and the members of objects
- `Json.same_refl`, `Json.same_symm`, `Json.same_trans`
- `Json.tidy_of_same`
- `Json.sameItems_iff`, `Json.sameFields_iff`, `Json.sameFields_of_get?`
-/

namespace Dialogue

namespace Binary64
theorem finite_same_iff {s t : Bool} {m n : Nat} {e f : Int} :
    (finite s m e).same (finite t n f) = true ↔
      (m = 0 ∧ n = 0) ∨ (s = t ∧ m = n ∧ e = f) := by
  simp [same, and_assoc]

theorem same_trans {x y z : Binary64} (hxy : x.same y) (hyz : y.same z) : x.same z := by
  cases y with
  | finite t n f =>
    cases x with
    | finite s m e =>
      cases z with
      | finite u k g =>
        rw [finite_same_iff] at hxy hyz ⊢
        grind
      | infinite | nan => simp [same] at hyz
    | infinite | nan => simp [same] at hxy
  | infinite t => cases x <;> cases z <;> simp_all [same]
  | nan => cases x <;> simp [same] at hxy

theorem same_symm {x y : Binary64} (h : x.same y) : y.same x := by
  cases x with
  | finite s m e =>
    cases y with
    | finite t n f =>
      rw [finite_same_iff] at h ⊢
      exact h.imp And.symm fun h => ⟨h.1.symm, h.2.1.symm, h.2.2.symm⟩
    | infinite | nan => simp [same] at h
  | infinite s => cases y <;> simp_all [same]
  | nan => cases y <;> simp [same] at h

end Binary64

namespace Number

theorem same_symm {m n : Number} (h : m.same n) : n.same m := by
  cases m with
  | whole a => cases n <;> simp_all [same]
  | real x =>
    cases n with
    | whole b => simp [same] at h
    | real y => exact Binary64.same_symm h

theorem same_trans {l m n : Number} (hlm : l.same m) (hmn : m.same n) : l.same n := by
  cases m with
  | whole b => cases l <;> cases n <;> simp_all [same]
  | real y =>
    cases l with
    | whole a => simp [same] at hlm
    | real x =>
      cases n with
      | whole c => simp [same] at hmn
      | real z => exact Binary64.same_trans hlm hmn

end Number

namespace Json

/-- A property holds of every value when it passes from the items of an array to the array and from
the members of an object to the object. -/
@[elab_as_elim]
theorem induction {motive : Json → Prop} (null : motive .null)
    (bool : ∀ b, motive (.bool b)) (number : ∀ n, motive (.number n))
    (text : ∀ s, motive (.text s))
    (array : ∀ items, (∀ item ∈ items, motive item) → motive (.array items))
    (object : ∀ fields : List (String × Json), (∀ p ∈ fields, motive p.2) → motive (.object fields))
    (j : Json) : motive j :=
  Json.rec (motive_2 := fun items => ∀ item ∈ items, motive item)
    (motive_3 := fun fields => ∀ p ∈ fields, motive p.2) (motive_4 := fun p => motive p.2)
    null bool number text array object
    (by simp) (fun _ _ hitem hrest => List.forall_mem_cons.2 ⟨hitem, hrest⟩)
    (by simp) (fun _ _ hp hrest => List.forall_mem_cons.2 ⟨hp, hrest⟩)
    (fun _ _ h => h) j

/-! ### Items and members -/

theorem tidyItems_iff {items : List Json} : TidyItems items ↔ ∀ item ∈ items, item.Tidy := by
  induction items with
  | nil => simp [TidyItems]
  | cons item rest ih => simp [TidyItems, ih]

theorem tidyFields_iff {fields : List (String × Json)} :
    TidyFields fields ↔ ∀ p ∈ fields, p.2.Tidy := by
  induction fields with
  | nil => simp [TidyFields]
  | cons p rest ih => simp [TidyFields, ih]

theorem tidy_array {items : List Json} : (array items).Tidy ↔ ∀ item ∈ items, item.Tidy := by
  rw [Tidy, tidyItems_iff]

theorem tidy_object {fields : Keyed Json} :
    (object fields).Tidy ↔ Keyed.Sorted fields ∧ ∀ p ∈ fields, p.2.Tidy := by
  rw [Tidy, tidyFields_iff]

/-- Inserting a tidy value keeps an object tidy. -/
theorem tidy_insert {fields : Keyed Json} {value : Json} (hfields : (object fields).Tidy)
    (hvalue : value.Tidy) (key : String) : (object (Keyed.insert key value fields)).Tidy := by
  rw [tidy_object] at hfields ⊢
  refine ⟨hfields.1.insert key value, fun p hp => ?_⟩
  rcases Keyed.mem_insert hp with rfl | hp
  · exact hvalue
  · exact hfields.2 p hp

theorem sameItems_iff {as bs : List Json} :
    sameItems as bs = true ↔ List.Forall₂ (fun a b => a.same b) as bs := by
  induction as generalizing bs with
  | nil => cases bs <;> simp [sameItems]
  | cons a as ih => cases bs <;> simp [sameItems, ih]

theorem sameFields_iff {as bs : List (String × Json)} :
    sameFields as bs = true ↔ List.Forall₂ (fun a b => a.1 = b.1 ∧ a.2.same b.2) as bs := by
  induction as generalizing bs with
  | nil => cases bs <;> simp [sameFields]
  | cons a as ih => cases bs <;> simp [sameFields, ih]

/-! ### An equivalence -/

/-- A tidy value is the same as itself. -/
theorem same_refl {a : Json} (h : a.Tidy) : a.same a := by
  induction a using induction with
  | null => rfl
  | bool b => simp [same]
  | number n => simpa [same, Tidy] using h
  | text s => simp [same]
  | array items ih =>
    rw [tidy_array] at h
    rw [same, sameItems_iff, List.forall₂_same]
    exact fun item hmem => ih item hmem (h item hmem)
  | object fields ih =>
    rw [tidy_object] at h
    rw [same, sameFields_iff, List.forall₂_same]
    exact fun p hmem => ⟨rfl, ih p hmem (h.2 p hmem)⟩

/-- Relations that compose for the elements of a list compose for the list. -/
theorem forall₂_trans_of_mem {α β γ : Type} {r : α → β → Prop} {s : β → γ → Prop}
    {t : α → γ → Prop} {as : List α} {bs : List β} {cs : List γ}
    (h : ∀ a ∈ as, ∀ b c, r a b → s b c → t a c) (hab : List.Forall₂ r as bs)
    (hbc : List.Forall₂ s bs cs) : List.Forall₂ t as cs := by
  induction hab generalizing cs with
  | nil =>
    cases hbc
    exact .nil
  | cons hr _ ih =>
    cases hbc with
    | cons hs hrest =>
      exact .cons (h _ List.mem_cons_self _ _ hr hs)
        (ih (fun a ha => h a (List.mem_cons_of_mem _ ha)) hrest)

theorem null_same {b : Json} : null.same b ↔ b = null := by
  cases b <;> simp [same]

theorem bool_same {x : Bool} {b : Json} : (bool x).same b ↔ b = bool x := by
  cases b with
  | bool y => simpa [same] using eq_comm
  | _ => simp [same]

theorem text_same {s : String} {b : Json} : (text s).same b ↔ b = text s := by
  cases b with
  | text t => simpa [same] using eq_comm
  | _ => simp [same]

/-- Values that are the same as one value are the same. -/
theorem same_trans {a b c : Json} (hab : a.same b) (hbc : b.same c) : a.same c := by
  induction a using induction generalizing b c with
  | null => exact null_same.1 hab ▸ hbc
  | bool x => exact bool_same.1 hab ▸ hbc
  | number n =>
    cases b with
    | number m =>
      cases c with
      | number l => exact Number.same_trans hab hbc
      | _ => simp [same] at hbc
    | _ => simp [same] at hab
  | text s => exact text_same.1 hab ▸ hbc
  | array items ih =>
    cases b with
    | array bs =>
      cases c with
      | array cs =>
        rw [same, sameItems_iff] at hab hbc ⊢
        refine forall₂_trans_of_mem ?_ hab hbc
        exact fun a ha _ _ h h' => ih a ha h h'
      | _ => simp [same] at hbc
    | _ => simp [same] at hab
  | object fields ih =>
    cases b with
    | object bs =>
      cases c with
      | object cs =>
        rw [same, sameFields_iff] at hab hbc ⊢
        refine forall₂_trans_of_mem ?_ hab hbc
        exact fun p hp _ _ h h' => ⟨h.1.trans h'.1, ih p hp h.2 h'.2⟩
      | _ => simp [same] at hbc
    | _ => simp [same] at hab

/-- A relation between the elements of two lists may be turned around element by element. -/
theorem forall₂_flip_of_mem {α β : Type} {r : α → β → Prop} {s : β → α → Prop} {as : List α}
    {bs : List β} (h : ∀ a ∈ as, ∀ b, r a b → s b a) (hab : List.Forall₂ r as bs) :
    List.Forall₂ s bs as := by
  induction hab with
  | nil => exact .nil
  | cons hr _ ih =>
    exact .cons (h _ List.mem_cons_self _ hr) (ih fun a ha => h a (List.mem_cons_of_mem _ ha))

theorem exists_mem_of_forall₂ {α β : Type} {r : α → β → Prop} {as : List α} {bs : List β}
    (h : List.Forall₂ r as bs) {a : α} (ha : a ∈ as) : ∃ b ∈ bs, r a b := by
  induction h with
  | nil => cases ha
  | @cons _ b _ bs hr _ ih =>
    rcases List.mem_cons.1 ha with rfl | ha
    · exact ⟨b, List.mem_cons_self, hr⟩
    · obtain ⟨b', hb', hr'⟩ := ih ha
      exact ⟨b', List.mem_cons_of_mem b hb', hr'⟩

theorem rel_of_forall₂ {α β : Type} {r : α → β → Prop} {as : List α} {bs : List β}
    (h : List.Forall₂ r as bs) {i : Nat} {a : α} {b : β} (ha : as[i]? = some a)
    (hb : bs[i]? = some b) : r a b := by
  obtain ⟨hlt, rfl⟩ := List.getElem?_eq_some_iff.1 ha
  obtain ⟨hlt', rfl⟩ := List.getElem?_eq_some_iff.1 hb
  exact h.get hlt hlt'

theorem same_symm {a b : Json} (h : a.same b) : b.same a := by
  induction a using induction generalizing b with
  | null =>
    obtain rfl := null_same.1 h
    exact h
  | bool x =>
    obtain rfl := bool_same.1 h
    exact h
  | number n =>
    cases b with
    | number m => exact Number.same_symm h
    | _ => simp [same] at h
  | text s =>
    obtain rfl := text_same.1 h
    exact h
  | array items ih =>
    cases b with
    | array bs =>
      rw [same, sameItems_iff] at h ⊢
      exact forall₂_flip_of_mem (fun a ha _ hab => ih a ha hab) h
    | _ => simp [same] at h
  | object fields ih =>
    cases b with
    | object bs =>
      rw [same, sameFields_iff] at h ⊢
      exact forall₂_flip_of_mem (fun p hp _ hpq => ⟨hpq.1.symm, ih p hp hpq.2⟩) h
    | _ => simp [same] at h

/-! ### Objects by their names -/

/-- Both are missing, or both are there and the same. -/
abbrev SameOption : Option Json → Option Json → Prop := Option.Rel fun a b => a.same b

/-- Members that are the same pair by pair have the same names. -/
theorem keys_eq_of_same {as bs : Keyed Json} (h : sameFields as bs) :
    Keyed.keys as = Keyed.keys bs := by
  rw [sameFields_iff] at h
  induction h with
  | nil => rfl
  | cons hp _ ih => simpa [Keyed.keys, hp.1] using ih

/-- Members that are the same pair by pair give the same under every name. -/
theorem sameOption_get? {as bs : Keyed Json} (h : sameFields as bs) (key : String) :
    SameOption (Keyed.get? key as) (Keyed.get? key bs) := by
  rw [sameFields_iff] at h
  induction h with
  | nil => exact .none
  | @cons a b as bs hp _ ih =>
    obtain ⟨k, u⟩ := a
    obtain ⟨l, v⟩ := b
    obtain ⟨rfl, huv⟩ := hp
    by_cases hk : k = key
    · simpa [Keyed.get?, hk] using Option.Rel.some huv
    · simpa [Keyed.get?, hk] using ih

theorem SameOption.isSome_eq {x y : Option Json} (h : SameOption x y) : x.isSome = y.isSome := by
  cases h <;> rfl

/-- Members in order that give the same under every name are the same pair by pair. -/
theorem sameFields_of_get? {as bs : Keyed Json} (ha : Keyed.Sorted as) (hb : Keyed.Sorted bs)
    (h : ∀ key, SameOption (Keyed.get? key as) (Keyed.get? key bs)) : sameFields as bs := by
  induction as generalizing bs with
  | nil =>
    cases bs with
    | nil => rfl
    | cons q bs =>
      have hq := h q.1
      rw [Keyed.get?_nil, Keyed.get?_cons, if_pos rfl] at hq
      cases hq
  | cons p as ih =>
    obtain ⟨k, u⟩ := p
    cases bs with
    | nil =>
      have hp := h k
      rw [Keyed.get?_nil, Keyed.get?_cons, if_pos rfl] at hp
      cases hp
    | cons q bs =>
      obtain ⟨l, v⟩ := q
      -- Each first name stands in the other list too, so neither is smaller.
      have hk : Keyed.contains k ((l, v) :: bs) := by
        rw [Keyed.contains, ← (h k).isSome_eq, Keyed.get?_cons, if_pos rfl, Option.isSome_some]
      have hl : Keyed.contains l ((k, u) :: as) := by
        rw [Keyed.contains, (h l).isSome_eq, Keyed.get?_cons, if_pos rfl, Option.isSome_some]
      obtain rfl : k = l := by
        rcases ha.first_le_of_contains hl with heq | hlt
        · exact heq
        · rcases hb.first_le_of_contains hk with heq | hgt
          · exact heq.symm
          · exact absurd hgt (String.lt_asymm hlt)
      have huv := h k
      rw [Keyed.get?_cons, if_pos rfl, Keyed.get?_cons, if_pos rfl] at huv
      cases huv with
      | some huv =>
        rw [sameFields_iff]
        refine .cons ⟨rfl, huv⟩ (sameFields_iff.1 (ih ha.tail hb.tail fun key => ?_))
        by_cases hk : k = key
        · subst hk
          rw [ha.get?_tail, hb.get?_tail]
          exact .none
        · simpa [Keyed.get?_cons, hk] using h key

/-- A value that is the same as a tidy one is tidy. -/
theorem tidy_of_same {a b : Json} (h : a.same b) (hb : b.Tidy) : a.Tidy := by
  induction a using induction generalizing b with
  | null | bool | text => trivial
  | number n =>
    cases b with
    | number m => exact Number.same_trans h (Number.same_symm h)
    | _ => simp [same] at h
  | array items ih =>
    cases b with
    | array bs =>
      rw [tidy_array] at hb ⊢
      rw [same, sameItems_iff] at h
      intro item hitem
      obtain ⟨other, hother, hsame⟩ := exists_mem_of_forall₂ h hitem
      exact ih item hitem hsame (hb other hother)
    | _ => simp [same] at h
  | object fields ih =>
    cases b with
    | object bs =>
      rw [tidy_object] at hb ⊢
      rw [same] at h
      refine ⟨by rw [Keyed.Sorted, keys_eq_of_same h]; exact hb.1, fun p hp => ?_⟩
      obtain ⟨other, hother, hsame⟩ := exists_mem_of_forall₂ (sameFields_iff.1 h) hp
      exact ih p hp hsame.2 (hb.2 other hother)
    | _ => simp [same] at h

end Json

end Dialogue
