import Dialogue.Number.Binary64
/-!
# Rounding gives a number

The number nearest to a quotient is never the value that is no number, and the quotient of a natural
of 64 bits is finite, with a mantissa of at most `2 ^ 54` and an exponent of at most 12.

## Main definitions

- `Binary64.IsSmall` — a finite number with such a mantissa and exponent
- `Binary64.IsDouble` — the finite numbers of the format

## Main statements

- `Binary64.ofRatio_ne_nan`, `Binary64.div_ne_nan`
- `Binary64.isSmall_ofRatio`
- `Binary64.isDouble_ofRatio`
-/

namespace Dialogue

namespace Binary64

/-- A number is the same as itself unless it is the value that is no number. -/
theorem same_self_iff {x : Binary64} : x.same x ↔ x ≠ .nan := by
  cases x with
  | finite => simp [same]
  | infinite => simp [same]
  | nan => simp [same]

theorem neg_ne_nan {x : Binary64} (h : x ≠ .nan) : x.neg ≠ .nan := by
  cases x with
  | finite => simp [neg]
  | infinite => simp [neg]
  | nan => exact absurd rfl h

theorem ofRatio_ne_nan (negative : Bool) (num den : Nat) : ofRatio negative num den ≠ .nan := by
  unfold ofRatio
  split
  · simp [zero]
  · dsimp only
    split <;> split <;> simp

/-- A finite number with a mantissa of at most `2 ^ 54` and an exponent of at most 12. -/
def IsSmall (x : Binary64) : Prop :=
  ∃ s m e, x = .finite s m e ∧ m ≤ 2 ^ 54 ∧ e ≤ 12

theorem IsSmall.ne_nan {x : Binary64} (h : x.IsSmall) : x ≠ .nan := by
  obtain ⟨s, m, e, rfl, -, -⟩ := h
  simp

theorem roundHalfEven_le (num den : Nat) : roundHalfEven num den ≤ num / den + 1 := by
  unfold roundHalfEven
  dsimp only
  split
  · omega
  · split
    · omega
    · split <;> omega

theorem exponentFor_le (num den : Nat) :
    exponentFor num den ≤ max ((num.log2 : Int) - den.log2 - 53) minExponent + 1 := by
  unfold exponentFor
  dsimp only
  split <;> omega

theorem le_exponentFor (num den : Nat) :
    (num.log2 : Int) - den.log2 - 53 ≤ exponentFor num den := by
  unfold exponentFor
  dsimp only
  split <;> omega

/-- At an exponent that leaves room for some binary digits, the mantissa has at most one more. -/
theorem scaled_div_lt {num den : Nat} (digits : Nat) (hden : den ≠ 0) {e : Int}
    (he : (num.log2 : Int) - den.log2 - digits ≤ e) :
    (scaled num den (-e)).1 / (scaled num den (-e)).2 < 2 ^ (digits + 1) := by
  have hnum : num < 2 ^ (num.log2 + 1) := Nat.lt_log2_self
  have hle : 2 ^ den.log2 ≤ den := Nat.log2_self_le hden
  unfold scaled
  split
  · next k hk =>
    have hshift : -e = (k : Int) := hk
    have hk' : num.log2 + 1 + k ≤ digits + 1 + den.log2 := by omega
    rw [Nat.div_lt_iff_lt_mul (Nat.pos_of_ne_zero hden)]
    calc num * 2 ^ k < 2 ^ (num.log2 + 1) * 2 ^ k :=
          Nat.mul_lt_mul_of_pos_right hnum (Nat.two_pow_pos k)
      _ = 2 ^ (num.log2 + 1 + k) := (Nat.pow_add 2 _ _).symm
      _ ≤ 2 ^ (digits + 1 + den.log2) := Nat.pow_le_pow_right (by decide) hk'
      _ = 2 ^ (digits + 1) * 2 ^ den.log2 := Nat.pow_add 2 _ _
      _ ≤ 2 ^ (digits + 1) * den := Nat.mul_le_mul_left _ hle
  · next k hk =>
    have hk' : num.log2 + 1 ≤ digits + 1 + den.log2 + (k + 1) := by omega
    have hpos : 0 < den * 2 ^ (k + 1) :=
      Nat.mul_pos (Nat.pos_of_ne_zero hden) (Nat.two_pow_pos _)
    rw [Nat.div_lt_iff_lt_mul hpos]
    calc num < 2 ^ (num.log2 + 1) := hnum
      _ ≤ 2 ^ (digits + 1 + den.log2 + (k + 1)) := Nat.pow_le_pow_right (by decide) hk'
      _ = 2 ^ (digits + 1) * (2 ^ den.log2 * 2 ^ (k + 1)) := by
        rw [Nat.pow_add, Nat.pow_add 2 (digits + 1), Nat.mul_assoc]
      _ ≤ 2 ^ (digits + 1) * (den * 2 ^ (k + 1)) :=
        Nat.mul_le_mul_left _ (Nat.mul_le_mul_right _ hle)

/-- The quotient of a natural of 64 bits is small. -/
theorem isSmall_ofRatio (negative : Bool) {num den : Nat} (hnum : num < 2 ^ 64) (hden : den ≠ 0) :
    (ofRatio negative num den).IsSmall := by
  unfold ofRatio
  split
  · exact ⟨negative, 0, minExponent, rfl, by decide, by decide⟩
  · next hne =>
    have hlog : num.log2 < 64 := (Nat.log2_lt hne).2 hnum
    have hupper := exponentFor_le num den
    have hmin : minExponent ≤ 10 := by decide
    have hexponent : exponentFor num den ≤ 11 := by omega
    have hmantissa := roundHalfEven_le (scaled num den (-exponentFor num den)).1
      (scaled num den (-exponentFor num den)).2
    have hquotient : _ < 2 ^ 54 := scaled_div_lt 53 hden (le_exponentFor num den)
    have hmax : maxExponent = 971 := rfl
    dsimp only
    split
    · rw [if_neg (by omega)]
      exact ⟨negative, 2 ^ 52, _, rfl, by decide, by omega⟩
    · rw [if_neg (by omega)]
      exact ⟨negative, _, _, rfl, by omega, by omega⟩

/-- A quotient is a number when both parts are finite and the divisor is not zero. -/
theorem div_ne_nan {s t : Bool} {m n : Nat} {e f : Int} (hn : n ≠ 0) :
    div (.finite s m e) (.finite t n f) ≠ .nan := by
  rw [div, if_neg hn]
  exact ofRatio_ne_nan _ _ _

/-- A small number divided by a number with a great exponent is small. -/
theorem isSmall_div {x : Binary64} (hx : x.IsSmall) {t : Bool} {n : Nat} {f : Int} (hn : n ≠ 0)
    (hf : 12 < f) : (x.div (.finite t n f)).IsSmall := by
  obtain ⟨s, m, e, rfl, hm, he⟩ := hx
  rw [div, if_neg hn]
  obtain ⟨k, hk⟩ : ∃ k : Nat, e - f = .negSucc k := ⟨(f - e - 1).toNat, by omega⟩
  rw [hk, scaled]
  refine isSmall_ofRatio _ (Nat.lt_of_le_of_lt hm (by decide)) ?_
  exact Nat.mul_ne_zero hn (Nat.pos_iff_ne_zero.1 (Nat.two_pow_pos _))

/-! ### Doubles -/

/-- A mantissa of 53 binary digits and an exponent of the format. -/
def IsDouble : Binary64 → Prop
  | .finite _ m e => m < 2 ^ 53 ∧ minExponent ≤ e ∧ e ≤ maxExponent
  | _ => True

theorem isDouble_zero (negative : Bool) : (zero negative).IsDouble := by
  refine ⟨by decide, ?_, ?_⟩ <;> decide

/-- The mantissa at the exponent of a quotient has 53 binary digits. -/
theorem scaled_exponentFor_lt (num : Nat) {den : Nat} (hden : den ≠ 0) :
    (scaled num den (-exponentFor num den)).1 / (scaled num den (-exponentFor num den)).2 <
      2 ^ 53 := by
  unfold exponentFor
  dsimp only
  split
  · assumption
  · exact scaled_div_lt 52 hden (by omega)

/-- **Rounding gives a double.** -/
theorem isDouble_ofRatio (negative : Bool) {num den : Nat} (hden : den ≠ 0) :
    (ofRatio negative num den).IsDouble := by
  unfold ofRatio
  split
  · exact isDouble_zero negative
  · have hquotient := scaled_exponentFor_lt num hden
    have hmantissa := roundHalfEven_le (scaled num den (-exponentFor num den)).1
      (scaled num den (-exponentFor num den)).2
    have hexponent : minExponent ≤ exponentFor num den := by
      unfold exponentFor
      dsimp only
      split <;> omega
    dsimp only
    split <;> split
    · trivial
    · exact ⟨Nat.pow_lt_pow_right (by decide) (by decide), by omega, by omega⟩
    · trivial
    · exact ⟨by omega, hexponent, by omega⟩

theorem isDouble_ofNat (n : Nat) : (ofNat n).IsDouble := isDouble_ofRatio false Nat.one_ne_zero

end Binary64

end Dialogue
