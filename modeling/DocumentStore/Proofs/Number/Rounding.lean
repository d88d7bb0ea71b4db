import DocumentStore.Number.Double
import Mathlib.Data.Nat.Log
import Mathlib.Data.Rat.Floor
import Mathlib.Tactic.FieldSimp
import Mathlib.Tactic.Linarith
import Mathlib.Tactic.Ring

/-!
# Rounding of ratios

A ratio is rounded by writing it with an integral part of 53 bits (`Double.scaled_ratioExponent`)
and taking the nearest integer of that (`Double.roundQuotient_near`); a carry into another bit keeps
the value (`Double.toRat_carry`). From this follows what a quotient of integers rounds up to: as
long as neither is beyond `2 ^ 53`, the nearest double has the same ceiling as the exact quotient
(`Double.ceil?_ofRatio`).
-/

set_option autoImplicit false

namespace DocumentStore.Double

/-! ## The nearest integer -/

/-- The rounded quotient lies within a half of the exact one. -/
theorem roundQuotient_near (n : Nat) {d : Nat} (hd : 0 < d) :
    2 * (roundQuotient n d * d) ≤ 2 * n + d ∧ 2 * n ≤ 2 * (roundQuotient n d * d) + d := by
  have hdiv := Nat.div_add_mod n d
  have hmod := Nat.mod_lt n hd
  have hnext : (n / d + 1) * d = d * (n / d) + d := by ring
  have hsame : n / d * d = d * (n / d) := Nat.mul_comm _ _
  unfold roundQuotient
  dsimp only
  split
  · rw [hsame]
    omega
  split
  · rw [hnext]
    omega
  split
  · rw [hsame]
    omega
  · rw [hnext]
    omega

/-- What is at most an integer is rounded to at most that integer. -/
theorem roundQuotient_le {n d t : Nat} (hd : 0 < d) (h : n ≤ t * d) : roundQuotient n d ≤ t := by
  have hnear := (roundQuotient_near n hd).1
  by_contra hlt
  have hnext : (t + 1) * d ≤ roundQuotient n d * d := Nat.mul_le_mul_right d (by omega)
  have hsplit : (t + 1) * d = t * d + d := by ring
  omega

/-- What is rounded to at most an integer is above it by a half at most. -/
theorem le_of_roundQuotient_le {n d t : Nat} (hd : 0 < d) (h : roundQuotient n d ≤ t) :
    2 * n ≤ 2 * (t * d) + d := by
  have hnear := (roundQuotient_near n hd).2
  have hscaled : roundQuotient n d * d ≤ t * d := Nat.mul_le_mul_right d h
  omega

/-! ## The exponent of a ratio -/

/-- At the exponent that is tried first the integral part has 53 or 54 bits. -/
theorem scaled_log2 {n d : Nat} (hn : n ≠ 0) (hd : d ≠ 0) {e : Int}
    (he : e = (n.log2 : Int) - (d.log2 : Int) - 53) :
    2 ^ 52 * (scaled n d e).2 ≤ (scaled n d e).1 ∧
      (scaled n d e).1 < 2 ^ 54 * (scaled n d e).2 := by
  have hlow := Nat.log2_self_le hn
  have hhigh := @Nat.lt_log2_self n
  have hlow' := Nat.log2_self_le hd
  have hhigh' := @Nat.lt_log2_self d
  -- one of the two powers is one, and both sides have the same bits in all
  have hbits : n.log2 + (-e).toNat = d.log2 + 53 + e.toNat := by omega
  have hpowers : 2 ^ n.log2 * 2 ^ (-e).toNat = 2 ^ 53 * (2 ^ d.log2 * 2 ^ e.toNat) := by
    rw [← pow_add, ← pow_add, ← pow_add, hbits]
    congr 1
    omega
  have hp : 0 < 2 ^ (-e).toNat := Nat.two_pow_pos _
  have hq : 0 < 2 ^ e.toNat := Nat.two_pow_pos _
  show 2 ^ 52 * (d * 2 ^ e.toNat) ≤ n * 2 ^ (-e).toNat ∧
    n * 2 ^ (-e).toNat < 2 ^ 54 * (d * 2 ^ e.toNat)
  constructor
  · calc 2 ^ 52 * (d * 2 ^ e.toNat) ≤ 2 ^ 52 * (2 ^ (d.log2 + 1) * 2 ^ e.toNat) := by gcongr
      _ = 2 ^ n.log2 * 2 ^ (-e).toNat := by rw [hpowers]; ring
      _ ≤ n * 2 ^ (-e).toNat := by gcongr
  · calc n * 2 ^ (-e).toNat < 2 ^ (n.log2 + 1) * 2 ^ (-e).toNat := by gcongr
      _ = 2 ^ 54 * (2 ^ d.log2 * 2 ^ e.toNat) := by rw [pow_succ, mul_right_comm, hpowers]; ring
      _ ≤ 2 ^ 54 * (d * 2 ^ e.toNat) := by gcongr

/-- One exponent further the ratio is half as large. -/
theorem scaled_succ (n d : Nat) (e : Int) :
    (scaled n d e = (2 * (scaled n d (e + 1)).1, (scaled n d (e + 1)).2)) ∨
      scaled n d (e + 1) = ((scaled n d e).1, 2 * (scaled n d e).2) := by
  by_cases he : 0 ≤ e
  · right
    obtain ⟨k, rfl⟩ := Int.eq_ofNat_of_zero_le he
    have hneg : (-((k : Int) + 1)).toNat = (-(k : Int)).toNat := by omega
    have hpos : ((k : Int) + 1).toNat = (k : Int).toNat + 1 := by omega
    unfold scaled
    simp only [Nat.pow_eq]
    rw [hneg, hpos, pow_succ]
    simp only [Prod.mk.injEq, true_and]
    ring
  · left
    have hneg : (-e).toNat = (-(e + 1)).toNat + 1 := by omega
    have hpos : e.toNat = (e + 1).toNat := by omega
    unfold scaled
    simp only [Nat.pow_eq]
    rw [hneg, hpos, pow_succ]
    simp only [Prod.mk.injEq, and_true]
    ring

/-- At its exponent a positive ratio has an integral part of 53 bits. -/
theorem scaled_ratioExponent {n d : Nat} (hn : n ≠ 0) (hd : d ≠ 0) :
    2 ^ 52 * (scaled n d (ratioExponent n d)).2 ≤ (scaled n d (ratioExponent n d)).1 ∧
      (scaled n d (ratioExponent n d)).1 < 2 ^ 53 * (scaled n d (ratioExponent n d)).2 := by
  obtain ⟨hlow, hhigh⟩ := scaled_log2 hn hd rfl
  have hpos : 0 < (scaled n d ((n.log2 : Int) - (d.log2 : Int) - 53)).2 :=
    Nat.mul_pos (Nat.pos_of_ne_zero hd) (Nat.two_pow_pos _)
  unfold ratioExponent
  dsimp only
  simp only [Nat.pow_eq, Nat.le_div_iff_mul_le hpos]
  split
  · next hlarge =>
    rcases scaled_succ n d ((n.log2 : Int) - (d.log2 : Int) - 53) with hsucc | hsucc
    · rw [hsucc] at hlow hhigh hlarge
      dsimp only at hlow hhigh hlarge
      omega
    · rw [hsucc]
      dsimp only
      omega
  · next hsmall =>
    exact ⟨hlow, by omega⟩

/-! ## Exact values -/

/-- The exact value of a finite number. -/
def toRat : Double → ℚ
  | .finite negative m e => (if negative then -1 else 1) * m * 2 ^ e
  | _ => 0

/-- A power by its two natural exponents, of which one is zero. -/
theorem zpow_eq_div (b : ℚ) (e : Int) : b ^ e = b ^ e.toNat / b ^ (-e).toNat := by
  by_cases he : 0 ≤ e
  · obtain ⟨k, rfl⟩ := Int.eq_ofNat_of_zero_le he
    simp
  · obtain ⟨k, rfl⟩ : ∃ k : Nat, e = -(k : Int) := ⟨(-e).toNat, by omega⟩
    simp

/-- A finite number is the ratio that is given for it. -/
theorem ratio?_finite (negative : Bool) (m : Nat) (e : Int) :
    ∃ n : Int, ∃ d : Nat, (Double.finite negative m e).ratio? = some (n, d) ∧
      (n : ℚ) / d = (Double.finite negative m e).toRat := by
  refine ⟨_, _, rfl, ?_⟩
  rw [toRat, zpow_eq_div]
  cases negative <;> simp <;> ring

/-- The least integer that is not smaller. -/
theorem ceil?_finite (negative : Bool) (m : Nat) (e : Int) :
    (Double.finite negative m e).ceil? = some ⌈(Double.finite negative m e).toRat⌉ := by
  obtain ⟨n, d, hratio, hvalue⟩ := ratio?_finite negative m e
  have hfloor : Int.fdiv (-n) d = ⌊((-n : Int) : ℚ) / d⌋ := by
    rw [Rat.floor_intCast_div_natCast, Int.fdiv_eq_ediv_of_nonneg _ (Int.natCast_nonneg d)]
  rw [ceil?, hratio, Option.map_some, ← hvalue, hfloor, Int.cast_neg, neg_div, Int.floor_neg,
    neg_neg]

/-- A carry changes the form of a number and not its value. -/
theorem toRat_carry (negative : Bool) (m : Nat) {e : Int} (he : e + 1 ≤ maxExponent) :
    ∃ m' e', carry negative m e = .finite negative m' e' ∧ (m' : ℚ) * 2 ^ e' = m * 2 ^ e := by
  unfold carry
  by_cases hm : m = Nat.pow 2 53
  · rw [if_pos hm]
    dsimp only
    rw [if_neg (by omega)]
    refine ⟨_, _, rfl, ?_⟩
    rw [hm, zpow_add₀ (by norm_num)]
    norm_num
    ring
  · rw [if_neg hm]
    dsimp only
    rw [if_neg (by omega)]
    exact ⟨_, _, rfl, rfl⟩

/-! ## Quotients of integers -/

/-- A quotient that lies above an integer and not above the next one is rounded to between them,
when the dividend has at most 53 bits and the rounded quotient 53. It could reach down to the lower
integer only from half a unit above it, where the dividend would be odd and too large. -/
theorem roundQuotient_between {n d p k : Nat} (hd : 0 < d) (hn : n ≤ 2 ^ 53)
    (hbits : 2 ^ 52 * d ≤ n * p) (hlow : k * d < n) (hhigh : n ≤ (k + 1) * d) :
    k * p < roundQuotient (n * p) d ∧ roundQuotient (n * p) d ≤ (k + 1) * p := by
  constructor
  · by_contra hle
    have hnear := le_of_roundQuotient_le hd (Nat.le_of_not_lt hle)
    have hp : 0 < p := by
      rcases Nat.eq_zero_or_pos p with rfl | hp
      · omega
      · exact hp
    -- the distance to the lower integer is at least a unit of the divisor and at most a half of the
    -- last place
    have habove : (k * d + 1) * p ≤ n * p := Nat.mul_le_mul_right p hlow
    have hsplit : (k * d + 1) * p = k * p * d + p := by ring
    have hplace : 2 * p ≤ d := by omega
    have hscaled : n * p ≤ 2 ^ 53 * p := Nat.mul_le_mul_right p hn
    have hd : d = 2 * p := by omega
    subst hd
    have hodd : n = 2 * (k * p) + 1 := by
      have hupper : n * p ≤ (2 * (k * p) + 1) * p := by
        have hring : (2 * (k * p) + 1) * p = k * p * (2 * p) + p := by ring
        omega
      have hlower : 2 * (k * p) < n := by
        have hring : k * (2 * p) = 2 * (k * p) := by ring
        omega
      have hle := Nat.le_of_mul_le_mul_right hupper hp
      omega
    have hlarge : 2 ^ 53 * p ≤ n * p := by
      have hring : 2 ^ 52 * (2 * p) = 2 ^ 53 * p := by ring
      omega
    have hfull := Nat.le_of_mul_le_mul_right hlarge hp
    omega
  · apply roundQuotient_le hd
    calc n * p ≤ (k + 1) * d * p := Nat.mul_le_mul_right p hhigh
      _ = (k + 1) * p * d := by ring

/-- The exponent of a quotient of integers of at most 53 bits is not far below zero. -/
theorem minExponent_le_ratioExponent {n d : Nat} (hd : d ≠ 0) (hbound : d ≤ 2 ^ 53) :
    minExponent ≤ ratioExponent n d := by
  have hlog : d.log2 ≤ 53 := by
    have hle := Nat.log2_self_le hd
    exact (Nat.pow_le_pow_iff_right (by decide)).1 (hle.trans hbound)
  unfold ratioExponent minExponent
  dsimp only
  split <;> omega

/-- Nor is it above zero, but for the greatest of all quotients. -/
theorem ratioExponent_le {n d : Nat} (hn : n ≠ 0) (hd : d ≠ 0) (hbound : n ≤ 2 ^ 53)
    (hbelow : n < 2 ^ 53 ∨ 1 < d) : ratioExponent n d ≤ 0 := by
  by_contra hpos
  have hbits := (scaled_ratioExponent hn hd).1
  have hone : (-ratioExponent n d).toNat = 0 := by omega
  obtain ⟨k, hk⟩ : ∃ k, (ratioExponent n d).toNat = k + 1 :=
    ⟨(ratioExponent n d).toNat - 1, by omega⟩
  have hscaled : scaled n d (ratioExponent n d) = (n * 2 ^ 0, d * 2 ^ (k + 1)) := by
    rw [← hone, ← hk]
    rfl
  rw [hscaled] at hbits
  dsimp only at hbits
  have hpower : 1 ≤ 2 ^ k := Nat.one_le_two_pow
  have hproduct : d ≤ d * 2 ^ k := Nat.le_mul_of_pos_right d hpower
  have hring : d * 2 ^ (k + 1) = 2 * (d * 2 ^ k) := by ring
  omega

/-- A positive ratio is rounded to the significand at its exponent, unless that is out of range. -/
theorem ofRatio_eq {n d : Nat} (hn : n ≠ 0) (hlow : minExponent ≤ ratioExponent n d)
    (hhigh : ratioExponent n d + 1 ≤ maxExponent) :
    ∃ m' e', ofRatio n d = .finite false m' e' ∧ (Double.finite false m' e').toRat =
      roundQuotient (scaled n d (ratioExponent n d)).1 (scaled n d (ratioExponent n d)).2 *
        2 ^ ratioExponent n d := by
  obtain ⟨m', e', hcarry, hvalue⟩ := toRat_carry false
    (roundQuotient (scaled n d (ratioExponent n d)).1 (scaled n d (ratioExponent n d)).2) hhigh
  refine ⟨m', e', ?_, ?_⟩
  · have hpositive : ¬ ((n : Int) < 0) := by omega
    rw [ofRatio, round, Int.natAbs_natCast, if_neg hn, decide_eq_false hpositive]
    dsimp only
    rw [max_eq_right hlow]
    exact hcarry
  · rw [toRat, ← hvalue]
    simp

/-- The nearest double to a quotient of integers that are at most `2 ^ 53` has the ceiling of the
quotient. -/
theorem ceil?_ofRatio {n d t : Nat} (hd : 0 < d) (hd' : d ≤ 2 ^ 53) (hn : n ≤ 2 ^ 53)
    (ht : IsLeast {t | n ≤ t * d} t) : (ofRatio n d).ceil? = some (t : Int) := by
  cases t with
  | zero =>
    have hzero : n = 0 := by simpa using ht.1
    subst hzero
    rfl
  | succ k =>
    have hhigh : n ≤ (k + 1) * d := ht.1
    have hlow : k * d < n := by
      by_contra hle
      have hleast := ht.2 (Nat.le_of_not_lt hle)
      omega
    have hn0 : n ≠ 0 := by omega
    by_cases hbelow : n < 2 ^ 53 ∨ 1 < d
    · have hexponent := ratioExponent_le hn0 hd.ne' hn hbelow
      have hleast := minExponent_le_ratioExponent (n := n) hd.ne' hd'
      have hinRange : ratioExponent n d + 1 ≤ maxExponent := by
        unfold maxExponent
        omega
      obtain ⟨hbits, -⟩ := scaled_ratioExponent hn0 hd.ne'
      obtain ⟨m', e', hfinite, hvalue⟩ := ofRatio_eq hn0 hleast hinRange
      have hwhole : (ratioExponent n d).toNat = 0 := by omega
      have hscaled : scaled n d (ratioExponent n d) = (n * 2 ^ (-ratioExponent n d).toNat, d) := by
        unfold scaled
        simp [hwhole]
      rw [hscaled] at hbits hvalue
      obtain ⟨habove, hbelow⟩ := roundQuotient_between hd hn hbits hlow hhigh
      rw [hfinite, ceil?_finite, hvalue, zpow_eq_div, hwhole, pow_zero, mul_one_div]
      -- between the integers the rounded quotient keeps its ceiling
      have hpower : (0 : ℚ) < 2 ^ (-ratioExponent n d).toNat := by positivity
      congr 1
      rw [Int.ceil_eq_iff, lt_div_iff₀ hpower, div_le_iff₀ hpower]
      constructor
      · push_cast
        rw [add_sub_cancel_right]
        exact_mod_cast habove
      · exact_mod_cast hbelow
    · -- the greatest quotient is itself a double
      obtain rfl : d = 1 := by omega
      obtain rfl : n = 2 ^ 53 := by omega
      obtain rfl : k = 2 ^ 53 - 1 := by omega
      decide +kernel

end DocumentStore.Double
