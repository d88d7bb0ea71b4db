import DocumentStore.Number.Shortest
import DocumentStore.Proofs.Number.Rounding
import Mathlib.Algebra.Order.Field.Power
import Mathlib.Tactic.Positivity

/-!
# Shortest decimals

Which reals are rounded to a number is told by the midpoints to its neighbours (`Double.Nearest`):
every ratio between them is rounded to that number (`Double.round_of_nearest`), and so is every
decimal (`Double.ofDecimal_of_nearest`). A decimal is chosen as the shortest only when it lies there
(`Double.nearest_shortest`), so a number comes back from its shortest decimal.
-/

set_option autoImplicit false

namespace DocumentStore

/-- The value of a decimal. -/
def Decimal.toRat (d : Decimal) : ℚ := d.digits * 10 ^ d.exponent

namespace Double

variable {m : Nat} {e : Int} {v : ℚ}

/-- The significands and exponents of the finite numbers: a significand has 53 bits, and fewer only
at the least exponent. -/
structure Canonical (m : Nat) (e : Int) : Prop where
  bits : m < 2 ^ 53
  least : minExponent ≤ e
  greatest : e ≤ maxExponent
  normal : minExponent < e → 2 ^ 52 ≤ m

/-! ## Rounding to a number -/

/-- An integer is the nearest one to a ratio that is within a half of it, or at a half when it is
even. -/
theorem roundQuotient_eq {n d k : Nat} (hd : 0 < d)
    (hlow : (2 * k - 1 : ℚ) < 2 * (n / d) ∨ k % 2 = 0 ∧ 2 * (n / d) = (2 * k - 1 : ℚ))
    (hhigh : 2 * (n / d) < (2 * k + 1 : ℚ) ∨ k % 2 = 0 ∧ 2 * (n / d) = (2 * k + 1 : ℚ)) :
    roundQuotient n d = k := by
  -- the same in natural numbers
  have hd' : (0 : ℚ) < d := by exact_mod_cast hd
  rw [← mul_div_assoc, lt_div_iff₀ hd', div_eq_iff hd'.ne'] at hlow
  rw [← mul_div_assoc, div_lt_iff₀ hd', div_eq_iff hd'.ne'] at hhigh
  have hlow : 2 * (k * d) < 2 * n + d ∨ k % 2 = 0 ∧ 2 * n + d = 2 * (k * d) := by
    refine hlow.imp (fun h => ?_) (And.imp_right fun h => ?_)
    · have hcast : (2 * (k * d) : ℚ) < 2 * n + d := by linarith
      exact_mod_cast hcast
    · have hcast : (2 * n + d : ℚ) = 2 * (k * d) := by linarith
      exact_mod_cast hcast
  have hhigh : 2 * n < 2 * (k * d) + d ∨ k % 2 = 0 ∧ 2 * n = 2 * (k * d) + d := by
    refine hhigh.imp (fun h => ?_) (And.imp_right fun h => ?_)
    · have hcast : (2 * n : ℚ) < 2 * (k * d) + d := by linarith
      exact_mod_cast hcast
    · have hcast : (2 * n : ℚ) = 2 * (k * d) + d := by linarith
      exact_mod_cast hcast
  -- so it is the quotient rounded down or the next one
  have hdiv := Nat.div_add_mod n d
  have hmod := Nat.mod_lt n hd
  have hsame : n / d * d = d * (n / d) := Nat.mul_comm _ _
  have hnext : (n / d + 1) * d = d * (n / d) + d := by ring
  have hge : n / d ≤ k := by
    by_contra hlt
    have hle : (k + 1) * d ≤ n / d * d := Nat.mul_le_mul_right d (by omega)
    have hsplit : (k + 1) * d = k * d + d := by ring
    omega
  have hle : k ≤ n / d + 1 := by
    by_contra hlt
    have hle : (n / d + 2) * d ≤ k * d := Nat.mul_le_mul_right d (by omega)
    have hsplit : (n / d + 2) * d = d * (n / d) + 2 * d := by ring
    omega
  obtain rfl | rfl : k = n / d ∨ k = n / d + 1 := by omega
  · rw [hsame] at hlow hhigh
    unfold roundQuotient
    dsimp only
    split_ifs <;> omega
  · rw [hnext] at hlow hhigh
    unfold roundQuotient
    dsimp only
    split_ifs <;> omega

/-- A scaled ratio has the value of the ratio over the power. -/
theorem scaled_ratio (n : Nat) {d : Nat} (hd : d ≠ 0) (e : Int) :
    0 < (scaled n d e).2 ∧ ((scaled n d e).1 : ℚ) / (scaled n d e).2 = n / d / 2 ^ e := by
  have hpos : 0 < (scaled n d e).2 := Nat.mul_pos (Nat.pos_of_ne_zero hd) (Nat.two_pow_pos _)
  refine ⟨hpos, ?_⟩
  rw [zpow_eq_div]
  simp only [scaled, Nat.pow_eq, Nat.cast_mul, Nat.cast_pow, Nat.cast_ofNat]
  field_simp

/-- A ratio lies in the binade of its exponent. -/
theorem ratioExponent_bounds {n d : Nat} (hn : n ≠ 0) (hd : d ≠ 0) :
    (2 : ℚ) ^ (52 + ratioExponent n d) ≤ n / d ∧ (n : ℚ) / d < 2 ^ (53 + ratioExponent n d) := by
  obtain ⟨hpos, hvalue⟩ := scaled_ratio n hd (ratioExponent n d)
  obtain ⟨hlow, hhigh⟩ := scaled_ratioExponent hn hd
  have hpower : (0 : ℚ) < 2 ^ ratioExponent n d := by positivity
  have hpos' : (0 : ℚ) < (scaled n d (ratioExponent n d)).2 := by exact_mod_cast hpos
  rw [eq_div_iff hpower.ne'] at hvalue
  rw [← hvalue, zpow_add₀ two_ne_zero, zpow_add₀ two_ne_zero]
  constructor
  · apply mul_le_mul_of_nonneg_right _ hpower.le
    rw [le_div_iff₀ hpos']
    exact_mod_cast hlow
  · apply mul_lt_mul_of_pos_right _ hpower
    rw [div_lt_iff₀ hpos']
    exact_mod_cast hhigh

theorem ratioExponent_le_of_lt {n d : Nat} (hn : n ≠ 0) (hd : d ≠ 0)
    (h : (n : ℚ) / d < 2 ^ (53 + e)) : ratioExponent n d ≤ e := by
  have hlt := (ratioExponent_bounds hn hd).1.trans_lt h
  have hexponents := (zpow_lt_zpow_iff_right₀ one_lt_two).1 hlt
  omega

theorem le_ratioExponent_of_le {n d : Nat} (hn : n ≠ 0) (hd : d ≠ 0)
    (h : (2 : ℚ) ^ (52 + e) ≤ n / d) : e ≤ ratioExponent n d := by
  have hlt := h.trans_lt (ratioExponent_bounds hn hd).2
  have hexponents := (zpow_lt_zpow_iff_right₀ one_lt_two).1 hlt
  omega

/-- A ratio that has 53 bits at an exponent, or fewer at the least one, is rounded at that
exponent. -/
theorem round_at {n d k : Nat} (hn : n ≠ 0) (hd : d ≠ 0) (hleast : minExponent ≤ e)
    (hbits : e = minExponent ∨ (2 : ℚ) ^ (52 + e) ≤ n / d) (hsmall : (n : ℚ) / d < 2 ^ (53 + e))
    (hlow : (2 * k - 1 : ℚ) < 2 * (n / d / 2 ^ e) ∨
      k % 2 = 0 ∧ 2 * (n / d / 2 ^ e) = (2 * k - 1 : ℚ))
    (hhigh : 2 * (n / d / 2 ^ e) < (2 * k + 1 : ℚ) ∨
      k % 2 = 0 ∧ 2 * (n / d / 2 ^ e) = (2 * k + 1 : ℚ)) (negative : Bool) :
    round negative n d = carry negative k e := by
  have hexponent : max minExponent (ratioExponent n d) = e := by
    have hle := ratioExponent_le_of_lt hn hd hsmall
    rcases hbits with rfl | hbits
    · exact max_eq_left hle
    · rw [le_antisymm hle (le_ratioExponent_of_le hn hd hbits)]
      exact max_eq_right hleast
  obtain ⟨hpos, hvalue⟩ := scaled_ratio n hd e
  rw [← hvalue] at hlow hhigh
  rw [round, if_neg hn]
  dsimp only
  rw [hexponent, roundQuotient_eq hpos hlow hhigh]

/-! ## The reals that are rounded to a number -/

/-- The distance to the midpoint below in units of the last place. At the lower end of a binade the
number below is nearer. -/
def halfBelow (m : Nat) (e : Int) : ℚ := if m = 2 ^ 52 ∧ minExponent < e then 1 / 4 else 1 / 2

/-- The reals to which a number is the nearest. The midpoints are among them when its significand is
even. -/
structure Nearest (m : Nat) (e : Int) (v : ℚ) : Prop where
  above : m - halfBelow m e < v / 2 ^ e ∨ m % 2 = 0 ∧ v / 2 ^ e = m - halfBelow m e
  below : v / 2 ^ e < m + 1 / 2 ∨ m % 2 = 0 ∧ v / 2 ^ e = m + 1 / 2

theorem halfBelow_cases (m : Nat) (e : Int) :
    (m = 2 ^ 52 ∧ minExponent < e ∧ halfBelow m e = 1 / 4) ∨ halfBelow m e = 1 / 2 := by
  unfold halfBelow
  split
  · next h => exact .inl ⟨h.1, h.2, rfl⟩
  · exact .inr rfl

theorem Nearest.le_div (h : Nearest m e v) : (m : ℚ) - 1 / 2 ≤ v / 2 ^ e := by
  have habove : m - halfBelow m e ≤ v / 2 ^ e := h.above.elim le_of_lt fun h => h.2.ge
  rcases halfBelow_cases m e with ⟨-, -, hhalf⟩ | hhalf
  · rw [hhalf] at habove
    linarith
  · rwa [hhalf] at habove

theorem Nearest.div_le (h : Nearest m e v) : v / 2 ^ e ≤ m + 1 / 2 :=
  h.below.elim le_of_lt fun h => h.2.le

/-- A number is the nearest to itself. -/
theorem nearest_self (m : Nat) (e : Int) : Nearest m e (m * 2 ^ e) := by
  have hpower : (2 : ℚ) ^ e ≠ 0 := by positivity
  constructor
  · left
    rw [mul_div_cancel_right₀ _ hpower]
    rcases halfBelow_cases m e with ⟨-, -, hhalf⟩ | hhalf
    · rw [hhalf]
      linarith
    · rw [hhalf]
      linarith
  · left
    rw [mul_div_cancel_right₀ _ hpower]
    linarith

/-- What is nearest to a positive number is positive. -/
theorem Nearest.pos (h : Nearest m e v) (hm : m ≠ 0) : 0 < v := by
  have hone : (1 : ℚ) ≤ m := by exact_mod_cast Nat.one_le_iff_ne_zero.2 hm
  have hpower : (0 : ℚ) < 2 ^ e := by positivity
  have hdiv : 0 < v / 2 ^ e := by linarith [h.le_div]
  exact (div_pos_iff_of_pos_right hpower).1 hdiv

theorem Nearest.numerator_ne_zero {n d : Nat} (h : Nearest m e ((n : ℚ) / d)) (hm : m ≠ 0) :
    n ≠ 0 := by
  rintro rfl
  simpa using h.pos hm

/-- A ratio is below a binade when its number of units is. -/
theorem lt_zpow_iff (k : Int) : v < 2 ^ (k + e) ↔ v / 2 ^ e < 2 ^ k := by
  have hpower : (0 : ℚ) < 2 ^ e := by positivity
  rw [zpow_add₀ two_ne_zero, div_lt_iff₀ hpower]

section Rounded

variable {n d : Nat} (hd : d ≠ 0) (hc : Canonical m e) (hm : m ≠ 0) (h : Nearest m e ((n : ℚ) / d))

include hd hc hm h

/-- In the binade of a number the nearest integer is its significand. -/
theorem round_within (hbinade : e = minExponent ∨ (2 : ℚ) ^ (52 + e) ≤ n / d) (negative : Bool) :
    round negative n d = .finite negative m e := by
  have hbits : (m : ℚ) + 1 ≤ 2 ^ 53 := by exact_mod_cast hc.bits
  have hround : round negative n d = carry negative m e := by
    refine round_at (h.numerator_ne_zero hm) hd hc.least hbinade ?_ ?_ ?_ negative
    · have hbelow := h.div_le
      rw [lt_zpow_iff]
      norm_num at hbits ⊢
      linarith
    · rcases halfBelow_cases m e with ⟨-, -, hhalf⟩ | hhalf
      · left
        rcases h.above with h | ⟨-, h⟩ <;> rw [hhalf] at h <;> linarith
      · refine h.above.imp (fun h => ?_) (And.imp_right fun h => ?_) <;>
          rw [hhalf] at h <;> linarith
    · exact h.below.imp (fun h => by linarith) (And.imp_right fun h => by linarith)
  have hcarry : m ≠ Nat.pow 2 53 := hc.bits.ne
  have hgreatest := hc.greatest
  rw [hround, carry, if_neg hcarry]
  dsimp only
  rw [if_neg (by omega)]

/-- Below it there is only the midpoint to the number below. One exponent further down, where that
lies, the nearest integer carries into the binade of the number. -/
theorem round_beneath (hleast : minExponent < e) (hsmall : (n : ℚ) / d < 2 ^ (52 + e))
    (negative : Bool) : round negative n d = .finite negative m e := by
  rw [lt_zpow_iff] at hsmall
  norm_num at hsmall
  have habove := h.le_div
  have hfull : m = 2 ^ 52 := by
    by_contra hlarge
    have hnext : 2 ^ 52 + 1 ≤ m := by
      have hnormal := hc.normal hleast
      omega
    have hcast : (2 : ℚ) ^ 52 + 1 ≤ m := by exact_mod_cast hnext
    linarith
  have hhalf : halfBelow m e = 1 / 4 := if_pos ⟨hfull, hleast⟩
  have hsignificand : (m : ℚ) = 2 ^ 52 := by exact_mod_cast hfull
  have hdouble : (n : ℚ) / d / 2 ^ (e - 1) = 2 * (n / d / 2 ^ e) := by
    rw [zpow_sub₀ two_ne_zero, zpow_one]
    field_simp
  have hcarried : ((Nat.pow 2 53 : Nat) : ℚ) = 2 ^ 53 := by norm_num
  have hround : round negative n d = carry negative (Nat.pow 2 53) (e - 1) := by
    refine round_at (h.numerator_ne_zero hm) hd (by omega) (.inr ?_) ?_ ?_ ?_ negative
    · rw [← not_lt, lt_zpow_iff, hdouble, not_lt]
      norm_num
      linarith
    · rw [lt_zpow_iff, hdouble]
      norm_num
      linarith
    · rw [hdouble, hcarried]
      refine h.above.imp (fun h => ?_) fun h => ⟨by decide, ?_⟩
      · rw [hhalf] at h
        linarith
      · rw [hhalf] at h
        linarith
    · left
      rw [hdouble, hcarried]
      linarith
  have hgreatest := hc.greatest
  rw [hround, carry, if_pos rfl]
  dsimp only
  rw [Int.sub_add_cancel, if_neg (by omega), hfull]
  rfl

/-- Whatever is nearest to a number is rounded to it. -/
theorem round_of_nearest (negative : Bool) : round negative n d = .finite negative m e := by
  by_cases hbinade : e = minExponent ∨ (2 : ℚ) ^ (52 + e) ≤ n / d
  · exact round_within hd hc hm h hbinade negative
  · push Not at hbinade
    have hleast : minExponent < e := lt_of_le_of_ne hc.least (Ne.symm hbinade.1)
    exact round_beneath hd hc hm h hleast hbinade.2 negative

end Rounded

/-! ## Decimals -/

/-- A positive number lies between two powers of ten by the length of its numeral. -/
theorem length_ofNat_bounds {n : Nat} (hn : 0 < n) : ∃ k, (Text.Numeral.ofNat n).length = k + 1 ∧
    10 ^ k ≤ n ∧ n < 10 ^ (k + 1) := by
  induction n using Nat.strong_induction_on with
  | _ n ih =>
    by_cases hsmall : n < 10
    · refine ⟨0, ?_, by omega, by omega⟩
      rw [Text.Numeral.ofNat, Nat.toDigits_of_lt_base hsmall]
      rfl
    · obtain ⟨k, hlength, hlow, hhigh⟩ := ih (n / 10) (by omega) (by omega)
      refine ⟨k + 1, ?_, ?_, ?_⟩
      · rw [Text.Numeral.ofNat, Nat.toDigits_of_base_le (by decide) (by omega), List.length_append,
          ← Text.Numeral.ofNat, hlength]
        rfl
      · rw [pow_succ]
        omega
      · rw [pow_succ]
        omega

/-- The value of a decimal lies between the powers of ten of its magnitude. -/
theorem decimal_bounds {d : Decimal} (hd : d.digits ≠ 0) :
    (10 : ℚ) ^ ((Text.Numeral.ofNat d.digits).length + d.exponent - 1) ≤ d.toRat ∧
      d.toRat < 10 ^ ((Text.Numeral.ofNat d.digits).length + d.exponent) := by
  obtain ⟨k, hlength, hlow, hhigh⟩ := length_ofNat_bounds (Nat.pos_of_ne_zero hd)
  have hpower : (0 : ℚ) < 10 ^ d.exponent := by positivity
  have hbelow : ((k + 1 : Nat) : Int) + d.exponent - 1 = k + d.exponent := by omega
  rw [hlength, hbelow, Decimal.toRat, zpow_add₀ (by norm_num), zpow_add₀ (by norm_num),
    zpow_natCast, zpow_natCast]
  constructor
  · apply mul_le_mul_of_nonneg_right _ hpower.le
    exact_mod_cast hlow
  · apply mul_lt_mul_of_pos_right _ hpower
    exact_mod_cast hhigh

/-- No finite number reaches a power of ten with more than 309 digits. -/
theorem Nearest.lt_ten_pow (hc : Canonical m e) (h : Nearest m e v) : v < 10 ^ (309 : Int) := by
  have hbits : (m : ℚ) + 1 ≤ 2 ^ 53 := by exact_mod_cast hc.bits
  have hbelow := h.div_le
  have hpowers : (2 : Nat) ^ 1024 < 10 ^ 309 := by decide +kernel
  have hgreatest : 53 + e ≤ 1024 := by
    have hmax := hc.greatest
    unfold maxExponent at hmax
    omega
  calc v < 2 ^ (53 + e) := by
        rw [lt_zpow_iff]
        norm_num at hbits ⊢
        linarith
    _ ≤ 2 ^ (1024 : Int) := zpow_le_zpow_right₀ one_le_two hgreatest
    _ < 10 ^ (309 : Int) := by exact_mod_cast hpowers

/-- A positive number does not fall below a power of ten with more than 323 places. -/
theorem Nearest.ten_pow_lt (hc : Canonical m e) (hm : m ≠ 0) (h : Nearest m e v) :
    (10 : ℚ) ^ (-324 : Int) < v := by
  have hone : (1 : ℚ) ≤ m := by exact_mod_cast Nat.one_le_iff_ne_zero.2 hm
  have habove := h.le_div
  have hpowers : (2 : Nat) ^ 1075 < 10 ^ 324 := by decide +kernel
  have hleast : -1075 ≤ -1 + e := by
    have hmin := hc.least
    unfold minExponent at hmin
    omega
  calc (10 : ℚ) ^ (-324 : Int) < 2 ^ (-1075 : Int) := by
        rw [zpow_neg, zpow_neg]
        apply inv_strictAnti₀ (by positivity)
        exact_mod_cast hpowers
    _ ≤ 2 ^ (-1 + e) := zpow_le_zpow_right₀ one_le_two hleast
    _ ≤ v := by
        rw [← not_lt, lt_zpow_iff, not_lt]
        norm_num
        linarith

theorem Nearest.digits_ne_zero {d : Decimal} (h : Nearest m e d.toRat) (hm : m ≠ 0) :
    d.digits ≠ 0 := by
  intro hzero
  have hpos := h.pos hm
  rw [Decimal.toRat, hzero, Nat.cast_zero, zero_mul] at hpos
  exact lt_irrefl _ hpos

/-- A decimal that is nearest to a number is read as it. -/
theorem ofDecimal_of_nearest {d : Decimal} (hc : Canonical m e) (hm : m ≠ 0)
    (h : Nearest m e d.toRat) (negative : Bool) :
    ofDecimal negative d.digits d.exponent = .finite negative m e := by
  have hdigits := h.digits_ne_zero hm
  obtain ⟨hlow, hhigh⟩ := decimal_bounds hdigits
  have hbelow := (zpow_lt_zpow_iff_right₀ (by norm_num)).1 (hlow.trans_lt (h.lt_ten_pow hc))
  have habove := (zpow_lt_zpow_iff_right₀ (by norm_num)).1 ((h.ten_pow_lt hc hm).trans hhigh)
  unfold Text.Numeral.ofNat at hbelow habove
  have hratio : d.toRat = (d.digits * Nat.pow 10 d.exponent.toNat : Nat) /
      (Nat.pow 10 (-d.exponent).toNat : Nat) := by
    rw [Decimal.toRat, zpow_eq_div]
    simp only [Nat.pow_eq, Nat.cast_mul, Nat.cast_pow, Nat.cast_ofNat]
    ring
  rw [hratio] at h
  unfold ofDecimal
  dsimp only
  rw [if_neg hdigits, if_neg (by omega), if_neg (by omega)]
  exact round_of_nearest (Nat.pow_pos (by decide)).ne' hc hm h negative

/-! ## The choice of a decimal -/

/-- Scaled numbers are compared by their values. -/
theorem compareScaled_eq (a : Nat) (i : Int) (n : Nat) (j : Int) :
    compareScaled a i n j = compare ((a : ℚ) * 10 ^ i) (n * 2 ^ j) := by
  -- both sides are multiplied by the two denominators, of which each may be one
  have hscale : (0 : ℚ) < 10 ^ (-i).toNat * 2 ^ (-j).toNat := by positivity
  have hten : (a : ℚ) * 10 ^ i * (10 ^ (-i).toNat * 2 ^ (-j).toNat) =
      (a * 10 ^ i.toNat * 2 ^ (-j).toNat : Nat) := by
    rw [zpow_eq_div]
    push_cast
    field_simp
  have htwo : (n : ℚ) * 2 ^ j * (10 ^ (-i).toNat * 2 ^ (-j).toNat) =
      (n * 2 ^ j.toNat * 10 ^ (-i).toNat : Nat) := by
    rw [zpow_eq_div]
    push_cast
    field_simp
  rw [← cmp_eq_compare, ← cmp_mul_pos_right hscale, hten, htwo, Nat.strictMono_cast.cmp_map_eq,
    cmp_eq_compare]
  rfl

/-- The end of the interval below, in quarters of a unit. -/
theorem quarters_below (hm : m ≠ 0) (e : Int) :
    ((if m = Nat.pow 2 52 ∧ minExponent < e then 4 * m - 1 else 4 * m - 2 : Nat) : ℚ) *
        2 ^ (e - 2) =
      (m - halfBelow m e) * 2 ^ e := by
  rw [zpow_sub₀ two_ne_zero]
  split
  · next h =>
    have hhalf : halfBelow m e = 1 / 4 := if_pos h
    rw [hhalf, Nat.cast_sub (by omega)]
    push_cast
    ring
  · next h =>
    have hhalf : halfBelow m e = 1 / 2 := if_neg h
    rw [hhalf, Nat.cast_sub (by omega)]
    push_cast
    ring

theorem quarters_above (m : Nat) (e : Int) :
    ((4 * m + 2 : Nat) : ℚ) * 2 ^ (e - 2) = (m + 1 / 2) * 2 ^ e := by
  rw [zpow_sub₀ two_ne_zero]
  push_cast
  ring

/-- A decimal that reads back is nearest to the number. -/
theorem nearest_of_readsBack {d : Decimal} (hm : m ≠ 0) (h : readsBack m e d = true) :
    Nearest m e d.toRat := by
  have hpower : (0 : ℚ) < 2 ^ e := by positivity
  have hvalue : (d.digits : ℚ) * 10 ^ d.exponent = d.toRat := rfl
  simp only [readsBack, compareScaled_eq, quarters_below hm, quarters_above, hvalue,
    Bool.and_eq_true, Bool.or_eq_true, beq_iff_eq, compare_gt_iff_gt, compare_eq_iff_eq,
    compare_lt_iff_lt] at h
  constructor
  · rw [lt_div_iff₀ hpower, div_eq_iff hpower.ne']
    exact h.1
  · rw [div_lt_iff₀ hpower, div_eq_iff hpower.ne']
    exact h.2

theorem roundQuotient_cases (n d : Nat) :
    roundQuotient n d = n / d ∨ roundQuotient n d = n / d + 1 := by
  unfold roundQuotient
  dsimp only
  split_ifs <;> simp

/-- A decimal of a grid is taken only when it reads back. -/
theorem readsBack_of_onGrid? {unit : Int} {d : Decimal} (h : onGrid? m e unit = some d) :
    readsBack m e d = true := by
  unfold onGrid? at h
  dsimp only at h
  split at h
  · next hlow hhigh =>
    cases h
    rcases roundQuotient_cases (gridRatio m e unit).1 (gridRatio m e unit).2 with hq | hq
    · rw [hq]
      exact hlow
    · rw [hq]
      exact hhigh
  · next hlow _ =>
    cases h
    exact hlow
  · next _ hhigh =>
    cases h
    exact hhigh
  · cases h

/-- The exact decimal has the value of the number. -/
theorem toRat_exactDecimal (m : Nat) (e : Int) : (exactDecimal m e).toRat = m * 2 ^ e := by
  unfold exactDecimal Decimal.toRat
  simp only [Nat.pow_eq, Nat.cast_mul, Nat.cast_pow, Nat.cast_ofNat]
  by_cases he : 0 ≤ e
  · obtain ⟨k, rfl⟩ := Int.eq_ofNat_of_zero_le he
    simp
  · obtain ⟨k, rfl⟩ : ∃ k : Nat, e = -(k : Int) := ⟨(-e).toNat, by omega⟩
    have hmin : min (-(k : Int)) 0 = -k := by omega
    have hten : (10 : ℚ) ^ k = 2 ^ k * 5 ^ k := by
      rw [← mul_pow]
      norm_num
    rw [hmin, zpow_neg, zpow_neg, zpow_natCast, zpow_natCast, hten]
    simp
    field_simp

/-- Zeros at the end of the digits can go. -/
theorem toRat_dropZeros (fuel : Nat) (d : Decimal) : (dropZeros fuel d).toRat = d.toRat := by
  induction fuel generalizing d with
  | zero => rfl
  | succ fuel ih =>
    unfold dropZeros
    split
    · next h =>
      have hdigits : (d.digits : ℚ) = 10 * (d.digits / 10 : Nat) := by
        have hwhole : d.digits = 10 * (d.digits / 10) := by omega
        exact_mod_cast hwhole
      rw [ih, Decimal.toRat, Decimal.toRat, hdigits, zpow_add_one₀ (by norm_num)]
      ring
    · rfl

/-- The number is the nearest one to its shortest decimal. -/
theorem nearest_shortest (hm : m ≠ 0) (e : Int) : Nearest m e (shortest m e).toRat := by
  unfold shortest
  dsimp only
  rw [toRat_dropZeros]
  cases hfound : (List.range 17).findSome? fun (i : Nat) =>
      onGrid? m e (decimalMagnitude m e - (i + 1)) with
  | none =>
    rw [Option.getD_none, toRat_exactDecimal]
    exact nearest_self m e
  | some d =>
    obtain ⟨i, -, hgrid⟩ := List.exists_of_findSome?_eq_some hfound
    exact nearest_of_readsBack hm (readsBack_of_onGrid? hgrid)

end Double

end DocumentStore
