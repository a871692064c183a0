import Dialogue.Number.Duration
import Dialogue.Proofs.Number.Binary64
import Mathlib.Algebra.Order.Field.Rat
import Mathlib.Tactic.FieldSimp
import Mathlib.Tactic.Linarith
import Mathlib.Tactic.Positivity
import Mathlib.Tactic.Ring
/-!
# Seconds as durations

A positive finite number of seconds is a rational. The nearest whole number of nanoseconds is its
duration, when this many seconds fit in 64 bits. A mantissa of 53 digits leaves no number between
`2 ^ 53 - 1` and `2 ^ 53`, so rounding never reaches a bound that the number stays below.

## Main definitions

- `Binary64.positive?` — the exact value of a positive finite number
- `Duration.IsNearest` — a duration is a number of seconds, up to half a nanosecond

## Main statements

- `Binary64.abs_timesRounded_sub_le`
- `Duration.nanoseconds_lt_iff`, `Duration.ofSeconds?_eq`
-/

namespace Dialogue

namespace Binary64

/-- The exact value of a positive finite number. -/
def positive? : Binary64 → Option ℚ
  | .finite false m e => if m = 0 then none else some (m * (2 : ℚ) ^ e)
  | _ => none

theorem positive?_eq_some_iff {x : Binary64} {q : ℚ} : x.positive? = some q ↔
    ∃ m e, x = .finite false m e ∧ m ≠ 0 ∧ q = m * (2 : ℚ) ^ e := by
  constructor
  · intro h
    unfold positive? at h
    split at h
    · next m e =>
      split at h
      · cases h
      · next hm => exact ⟨m, e, rfl, hm, (Option.some.inj h).symm⟩
    · cases h
  · rintro ⟨m, e, rfl, hm, rfl⟩
    rw [positive?, if_neg hm]

theorem positive?_eq_none_iff {x : Binary64} :
    x.positive? = none ↔ (x.isFinite && x.isPositive) = false := by
  cases x with
  | finite s m e =>
    cases s
    · by_cases hm : m = 0 <;> simp [positive?, isFinite, isPositive, hm]
    · simp [positive?, isPositive]
  | infinite s => simp [positive?, isFinite]
  | nan => simp [positive?, isFinite]

/-- The fraction of a magnitude is its value. -/
theorem fraction_eq (m : Nat) (e : Int) :
    0 < (fraction m e).2 ∧ ((fraction m e).1 : ℚ) = m * (2 : ℚ) ^ e * (fraction m e).2 := by
  cases e with
  | ofNat k =>
    refine ⟨Nat.one_pos, ?_⟩
    show ((m * 2 ^ k : Nat) : ℚ) = m * (2 : ℚ) ^ (k : Int) * (1 : Nat)
    rw [zpow_natCast]
    push_cast
    ring
  | negSucc k =>
    refine ⟨by show 0 < 1 * 2 ^ (k + 1); positivity, ?_⟩
    show (m : ℚ) = m * (2 : ℚ) ^ Int.negSucc k * ((1 * 2 ^ (k + 1) : Nat) : ℚ)
    rw [zpow_negSucc]
    push_cast
    field_simp

/-- Rounding a quotient misses it by at most a half. -/
theorem roundHalfEven_near (num : Nat) {den : Nat} (hden : 0 < den) :
    2 * num ≤ 2 * (roundHalfEven num den * den) + den ∧
      2 * (roundHalfEven num den * den) ≤ 2 * num + den := by
  have hsplit : den * (num / den) + num % den = num := Nat.div_add_mod num den
  have hrest : num % den < den := Nat.mod_lt _ hden
  have hdown : num / den * den = den * (num / den) := Nat.mul_comm _ _
  have hup : (num / den + 1) * den = den * (num / den) + den := by rw [Nat.succ_mul, hdown]
  unfold roundHalfEven
  dsimp only
  split
  · omega
  · split
    · omega
    · split <;> omega

/-- **A positive number times a natural is rounded to the nearest integer.** -/
theorem abs_timesRounded_sub_le {x : Binary64} {q : ℚ} (h : x.positive? = some q) (k : Nat) :
    |(x.timesRounded k : ℚ) - q * k| ≤ 1 / 2 := by
  obtain ⟨m, e, rfl, -, rfl⟩ := positive?_eq_some_iff.1 h
  obtain ⟨hden, hnum⟩ := fraction_eq m e
  obtain ⟨hlower, hupper⟩ := roundHalfEven_near ((fraction m e).1 * k) hden
  show |((roundHalfEven ((fraction m e).1 * k) (fraction m e).2 : Nat) : ℚ) - _| ≤ _
  generalize roundHalfEven ((fraction m e).1 * k) (fraction m e).2 = n at hlower hupper ⊢
  have hden' : (0 : ℚ) < (fraction m e).2 := by exact_mod_cast hden
  have hlower' : 2 * ((fraction m e).1 * k : ℚ) ≤
      2 * (n * (fraction m e).2) + (fraction m e).2 := by exact_mod_cast hlower
  have hupper' : 2 * (n * (fraction m e).2 : ℚ) ≤
      2 * ((fraction m e).1 * k) + (fraction m e).2 := by exact_mod_cast hupper
  rw [hnum] at hlower' hupper'
  generalize (m : ℚ) * (2 : ℚ) ^ e = q at hlower' hupper' ⊢
  have hbelow : 2 * (q * k) ≤ 2 * n + 1 := by
    refine le_of_mul_le_mul_right ?_ hden'
    linarith
  have habove : 2 * (n : ℚ) ≤ 2 * (q * k) + 1 := by
    refine le_of_mul_le_mul_right ?_ hden'
    linarith
  rw [abs_le]
  constructor <;> linarith

/-- A number that stays below a bound of at least 53 binary digits stays below it by one. -/
theorem IsDouble.le_of_lt {x : Binary64} {q : ℚ} {digits : Nat} (hdouble : x.IsDouble)
    (h : x.positive? = some q) (hdigits : 53 ≤ digits) (hq : q < 2 ^ digits) :
    q ≤ 2 ^ digits - 1 := by
  obtain ⟨m, e, rfl, -, rfl⟩ := positive?_eq_some_iff.1 h
  cases e with
  | ofNat k =>
    -- A number without a fraction is an integer.
    have hwhole : (m : ℚ) * (2 : ℚ) ^ Int.ofNat k = ((m * 2 ^ k : Nat) : ℚ) := by
      rw [Int.ofNat_eq_natCast, zpow_natCast]
      push_cast
      rfl
    rw [hwhole] at hq ⊢
    have hlt : m * 2 ^ k < 2 ^ digits := by exact_mod_cast hq
    have hle : m * 2 ^ k + 1 ≤ 2 ^ digits := hlt
    have hle' : ((m * 2 ^ k : Nat) : ℚ) + 1 ≤ 2 ^ digits := by exact_mod_cast hle
    linarith
  | negSucc k =>
    have hm : (m : ℚ) < 2 ^ 53 := by exact_mod_cast hdouble.1
    have hhalf : (2 : ℚ) ^ Int.negSucc k ≤ 1 / 2 := by
      rw [zpow_negSucc, pow_succ, mul_inv, one_div]
      refine mul_le_of_le_one_left (by norm_num) (inv_le_one_of_one_le₀ (one_le_pow₀ ?_))
      norm_num
    have hproduct : (m : ℚ) * (2 : ℚ) ^ Int.negSucc k ≤ 2 ^ 53 * (1 / 2) :=
      mul_le_mul hm.le hhalf (zpow_nonneg (by norm_num) _) (by positivity)
    have hpower : (2 : ℚ) ^ 53 ≤ 2 ^ digits := pow_le_pow_right₀ (by norm_num) hdigits
    norm_num at hproduct hpower ⊢
    linarith

end Binary64

namespace Duration

/-- The duration is a number of seconds, up to half a nanosecond. -/
def IsNearest (d : Duration) (q : ℚ) : Prop := |(d.nanoseconds : ℚ) - q * 10 ^ 9| ≤ 1 / 2

/-- **Rounding to nanoseconds reaches a bound only if the number does.** -/
theorem nanoseconds_lt_iff {x : Binary64} {q : ℚ} {digits : Nat} (hdouble : x.IsDouble)
    (h : x.positive? = some q) (hdigits : 53 ≤ digits) {n : Nat}
    (hn : |(n : ℚ) - q * 10 ^ 9| ≤ 1 / 2) :
    n < 2 ^ digits * 10 ^ 9 ↔ q < 2 ^ digits := by
  obtain ⟨hlower, hupper⟩ := abs_le.1 hn
  constructor
  · intro hlt
    by_contra hge
    rw [not_lt] at hge
    have hle : n + 1 ≤ 2 ^ digits * 10 ^ 9 := hlt
    have hle' : (n : ℚ) + 1 ≤ 2 ^ digits * 10 ^ 9 := by exact_mod_cast hle
    linarith
  · intro hlt
    have hle := hdouble.le_of_lt h hdigits hlt
    have hlt' : (n : ℚ) < 2 ^ digits * 10 ^ 9 := by linarith
    exact_mod_cast hlt'

/-- **The duration of a positive finite number of seconds** is the nearest one when the number is
less than `2 ^ 64`, and there is none otherwise. -/
theorem ofSeconds?_eq {x : Binary64} {q : ℚ} (hdouble : x.IsDouble) (h : x.positive? = some q) :
    (q < 2 ^ 64 ∧ ∃ d, ofSeconds? x = some d ∧ d.IsNearest q) ∨
      (2 ^ 64 ≤ q ∧ ofSeconds? x = none) := by
  have hnear : |(x.timesRounded (10 ^ 9) : ℚ) - q * 10 ^ 9| ≤ 1 / 2 := by
    have := Binary64.abs_timesRounded_sub_le h (10 ^ 9)
    push_cast at this
    exact this
  have hiff := nanoseconds_lt_iff hdouble h (by decide : 53 ≤ 64) hnear
  by_cases hq : q < 2 ^ 64
  · exact .inl ⟨hq, ⟨_⟩, if_pos (hiff.2 hq), hnear⟩
  · exact .inr ⟨not_lt.1 hq, if_neg fun hlt => hq (hiff.1 hlt)⟩

end Duration

end Dialogue
