import Dialogue.Json.Reader
import Dialogue.Proofs.Json.Basic
import Dialogue.Proofs.Keyed
import Dialogue.Proofs.Number.Binary64
/-!
# Values that are read are tidy

Reading puts the members of objects in order, and reads no number as the value that is no number:
the magnitude of a numeral stays finite while powers of ten are divided out.

## Main statements

- `Numeral.same_value?` — the number that a numeral denotes is a number
- `Json.tidy_parse?` — the value of a text is tidy
-/

namespace Dialogue

namespace Numeral

theorem gather_le {n : Nat} (h : n ≤ largest) (digits : List Char) :
    (gather n digits).1 ≤ largest := by
  induction digits generalizing n with
  | nil => exact h
  | cons c rest ih =>
    rw [gather]
    split
    · next hle => exact ih hle
    · exact h

/-- The powers of ten that numbers are multiplied and divided by are finite and not zero. -/
theorem powerOfTen_eq {k : Nat} (h : k ≤ 308) :
    ∃ m e, powerOfTen k = .finite false m e ∧ m ≠ 0 := by
  have hall : ∀ k ∈ List.range 309,
      (powerOfTen k).isPositive && (powerOfTen k).isFinite := by decide +kernel
  have hk := hall k (List.mem_range.2 (by omega))
  cases hpower : powerOfTen k with
  | finite s m e =>
    rw [hpower] at hk
    cases s with
    | false => exact ⟨m, e, rfl, by simpa [Binary64.isPositive, Binary64.isFinite] using hk⟩
    | true => simp [Binary64.isPositive] at hk
  | infinite s => simp [hpower, Binary64.isFinite] at hk
  | nan => simp [hpower, Binary64.isFinite] at hk

theorem powerOfTen_308 : powerOfTen 308 = .finite false 5010420900022432 971 := by
  decide +kernel

/-- Shifting a small number by a power of ten gives a number. -/
theorem shift_ne_nan {steps : Nat} {x y : Binary64} {e : Int} (hx : x.IsSmall)
    (h : shift steps x e = some y) : y ≠ .nan := by
  induction steps generalizing x e with
  | zero => exact Option.some.inj h ▸ hx.ne_nan
  | succ steps ih =>
    rw [shift] at h
    split at h
    · next hnear =>
      split at h
      · dsimp only at h
        split at h
        · next hfinite =>
          rw [← Option.some.inj h]
          intro hnan
          rw [hnan] at hfinite
          cases hfinite
        · cases h
      · obtain ⟨s, m, e', rfl, -, -⟩ := hx
        obtain ⟨n, f, hpower, hn⟩ := powerOfTen_eq hnear
        rw [hpower] at h
        exact Option.some.inj h ▸ Binary64.div_ne_nan hn
    · split at h
      · exact Option.some.inj h ▸ hx.ne_nan
      · split at h
        · cases h
        · rw [powerOfTen_308] at h
          exact ih (Binary64.isSmall_div hx (by decide) (by decide)) h

theorem isSmall_ofNat {n : Nat} (h : n ≤ largest) : (Binary64.ofNat n).IsSmall := by
  have hlt : n < 2 ^ 64 := Nat.lt_of_le_of_lt h (by decide)
  exact Binary64.isSmall_ofRatio false hlt (by decide)

theorem magnitude?_ne_nan {n : Numeral} {x : Binary64} (h : n.magnitude? = some x) : x ≠ .nan := by
  have hleading : (gather 0 n.before).1 ≤ largest := gather_le (Nat.zero_le _) n.before
  have hsmall := isSmall_ofNat (gather_le hleading (n.after.getD []))
  unfold magnitude? at h
  dsimp only at h
  split at h
  · exact shift_ne_nan hsmall h
  · split at h
    · split at h
      · cases h
      · rw [← Option.some.inj h]
        simp [Binary64.zero]
    · exact shift_ne_nan hsmall h

/-- **The number that a numeral denotes is a number.** -/
theorem same_value? {numeral : Numeral} {n : Number} (h : numeral.value? = some n) : n.same n := by
  have hsigned : ∀ x : Binary64, x ≠ .nan →
      Number.same (.real (if numeral.negative then x.neg else x))
        (.real (if numeral.negative then x.neg else x)) := by
    intro x hx
    rw [Number.same, Binary64.same_self_iff]
    split
    · exact Binary64.neg_ne_nan hx
    · exact hx
  unfold value? at h
  dsimp only at h
  split at h
  · split at h
    · rw [← Option.some.inj h]
      simp [Number.same]
    · split at h
      · rw [← Option.some.inj h]
        simp [Number.same]
      · rw [← Option.some.inj h]
        exact hsigned _ (Binary64.ofRatio_ne_nan _ _ _)
  · obtain ⟨x, hx, rfl⟩ := Option.map_eq_some_iff.1 h
    exact hsigned x (magnitude?_ne_nan hx)

end Numeral

namespace Json

/-- Whatever is read with some fuel is tidy: values, the rest of an array, the rest of an object. -/
theorem tidy_read? (fuel : Nat) :
    (∀ room input value rest, readValue? fuel room input = some (value, rest) → value.Tidy) ∧
      (∀ room done input value rest, (∀ item ∈ done, item.Tidy) →
        readItems? fuel room done input = some (value, rest) → value.Tidy) ∧
      ∀ room (done : Keyed Json) input value rest, (object done).Tidy →
        readMembers? fuel room done input = some (value, rest) → value.Tidy := by
  induction fuel with
  | zero => simp [readValue?, readItems?, readMembers?]
  | succ fuel ih =>
    obtain ⟨hvalue, hitems, hmembers⟩ := ih
    refine ⟨fun room input value rest h => ?_, fun room done input value rest hdone h => ?_,
      fun room done input value rest hdone h => ?_⟩
    · rw [readValue?.eq_def] at h
      dsimp only at h
      split at h
      · rw [← (Prod.mk.inj (Option.some.inj h)).1]; trivial
      · rw [← (Prod.mk.inj (Option.some.inj h)).1]; trivial
      · rw [← (Prod.mk.inj (Option.some.inj h)).1]; trivial
      · obtain ⟨⟨s, after⟩, -, hs⟩ := Option.bind_eq_some_iff.1 h
        rw [← (Prod.mk.inj (Option.some.inj hs)).1]; trivial
      · split at h
        · cases h
        · split at h
          · rw [← (Prod.mk.inj (Option.some.inj h)).1]; trivial
          · exact hitems _ _ _ _ _ (by simp) h
      · split at h
        · cases h
        · split at h
          · rw [← (Prod.mk.inj (Option.some.inj h)).1]
            exact tidy_object.2 ⟨.nil, by simp⟩
          · exact hmembers _ _ _ _ _ (tidy_object.2 ⟨.nil, by simp⟩) h
      · obtain ⟨⟨numeral, after⟩, -, hnumber⟩ := Option.bind_eq_some_iff.1 h
        obtain ⟨n, hn, hresult⟩ := Option.bind_eq_some_iff.1 hnumber
        rw [← (Prod.mk.inj (Option.some.inj hresult)).1]
        exact Numeral.same_value? hn
    · rw [readItems?.eq_def] at h
      obtain ⟨⟨item, after⟩, hitem, hrest⟩ := Option.bind_eq_some_iff.1 h
      have hall : ∀ i ∈ item :: done, i.Tidy :=
        List.forall_mem_cons.2 ⟨hvalue _ _ _ _ hitem, hdone⟩
      dsimp only at hrest
      split at hrest
      · exact hitems _ _ _ _ _ hall hrest
      · rw [← (Prod.mk.inj (Option.some.inj hrest)).1, tidy_array]
        exact fun i hi => hall i (List.mem_reverse.1 hi)
      · cases hrest
    · rw [readMembers?.eq_def] at h
      dsimp only at h
      split at h
      · obtain ⟨⟨key, afterKey⟩, -, hmember⟩ := Option.bind_eq_some_iff.1 h
        dsimp only at hmember
        split at hmember
        · obtain ⟨⟨member, afterMember⟩, hread, hrest⟩ := Option.bind_eq_some_iff.1 hmember
          have hinserted : (object (Keyed.insert key member done)).Tidy :=
            tidy_insert hdone (hvalue _ _ _ _ hread) key
          dsimp only at hrest
          split at hrest
          · exact hmembers _ _ _ _ _ hinserted hrest
          · rw [← (Prod.mk.inj (Option.some.inj hrest)).1]
            exact hinserted
          · cases hrest
        · cases hmember
      · cases h

/-- **The value of a text is tidy.** -/
theorem tidy_parse? {input : String} {value : Json} (h : parse? input = some value) :
    value.Tidy := by
  obtain ⟨⟨read, rest⟩, hread, hrest⟩ := Option.bind_eq_some_iff.1 h
  dsimp only at hrest
  split at hrest
  · rw [← Option.some.inj hrest]
    exact (tidy_read? _).1 _ _ _ _ hread
  · cases hrest

end Json

end Dialogue
