import DocumentStore.Proofs.Number.Shortest

/-!
# Accuracy of the arithmetic

Rounding moves a value by half a unit of the last place at most (`Double.near_round`), so a quotient
of integers, a difference and a product are near the exact ones (`Double.near_ofRatio`,
`Double.near_sub`, `Double.near_mul`). A ratio of less than `2 ^ 53` units is exact
(`Double.near_round_of_units`), so integers of at most 53 bits are (`Double.near_ofInt`).
-/

set_option autoImplicit false

namespace DocumentStore.Double

variable {x y : Double} {v ε : ℚ} {k : Int}

/-! ## Near values -/

/-- The factor of a sign. -/
def signFactor (negative : Bool) : ℚ := if negative then -1 else 1

theorem abs_signFactor (negative : Bool) : |signFactor negative| = 1 := by
  cases negative <;> simp [signFactor]

theorem signFactor_natAbs (n : Int) : signFactor (n < 0) * n.natAbs = n := by
  by_cases hn : n < 0
  · simp [signFactor, hn, Nat.cast_natAbs, abs_of_neg hn]
  · simp [signFactor, hn, Nat.cast_natAbs, abs_of_nonneg (Int.not_lt.1 hn)]

theorem toRat_finite (negative : Bool) (m : Nat) (e : Int) :
    (Double.finite negative m e).toRat = signFactor negative * (m * 2 ^ e) := mul_assoc _ _ _

/-- A finite number. -/
def IsFinite (x : Double) : Prop := ∃ negative m e, x = .finite negative m e

/-- A finite number within a distance of a value. -/
def Near (x : Double) (v ε : ℚ) : Prop := x.IsFinite ∧ |x.toRat - v| ≤ ε

/-! ## Rounding -/

/-- The nearest integer is within a half of a quotient. -/
theorem abs_roundQuotient_sub_le (n : Nat) {d : Nat} (hd : 0 < d) :
    |(roundQuotient n d : ℚ) - n / d| ≤ 1 / 2 := by
  obtain ⟨hlow, hhigh⟩ := roundQuotient_near n hd
  have hd' : (0 : ℚ) < d := by exact_mod_cast hd
  have hlow' : 2 * ((roundQuotient n d : ℚ) * d) ≤ 2 * n + d := by exact_mod_cast hlow
  have hhigh' : 2 * (n : ℚ) ≤ 2 * (roundQuotient n d * d) + d := by exact_mod_cast hhigh
  have hvalue : (n : ℚ) / d * d = n := div_mul_cancel₀ _ hd'.ne'
  rw [abs_le]
  constructor
  · by_contra hlt
    nlinarith
  · by_contra hlt
    nlinarith

/-- An integer less than a half away is the nearest one, whatever the sign is. -/
theorem roundQuotient_natAbs {n t : Int} {d : Nat} (hd : d ≠ 0) (h : |(n : ℚ) / d - t| < 1 / 2) :
    roundQuotient n.natAbs d = t.natAbs := by
  have hmagnitude : |((n.natAbs : Nat) : ℚ) / d - (t.natAbs : Nat)| < 1 / 2 := by
    have hquotient : ((n.natAbs : Nat) : ℚ) / d = |(n : ℚ) / d| := by
      rw [Nat.cast_natAbs, Int.cast_abs, abs_div, Nat.abs_cast]
    rw [hquotient, Nat.cast_natAbs, Int.cast_abs]
    exact (abs_abs_sub_abs_le _ _).trans_lt h
  obtain ⟨hlow, hhigh⟩ := abs_lt.1 hmagnitude
  apply roundQuotient_eq (Nat.pos_of_ne_zero hd)
  · left
    linarith
  · left
    linarith

/-- A ratio below a power of two is rounded with an error of half a unit of the last place at
most. -/
theorem near_round (negative : Bool) {n d : Nat} (hd : d ≠ 0) (hleast : minExponent ≤ k)
    (hgreatest : k + 1 ≤ maxExponent) (h : (n : ℚ) / d < 2 ^ (53 + k)) :
    (round negative n d).Near (signFactor negative * (n / d)) (2 ^ k / 2) := by
  by_cases hn : n = 0
  · have hzero : round negative n d = .finite negative 0 minExponent := if_pos hn
    rw [hzero, hn]
    refine ⟨⟨_, _, _, rfl⟩, ?_⟩
    rw [toRat_finite]
    simp only [Nat.cast_zero, zero_mul, zero_div, mul_zero, sub_self, abs_zero]
    positivity
  · obtain ⟨e, he⟩ : ∃ e, e = max minExponent (ratioExponent n d) := ⟨_, rfl⟩
    have hexponent : e ≤ k := he ▸ max_le hleast (ratioExponent_le_of_lt hn hd h)
    obtain ⟨m', e', hcarry, hsame⟩ := toRat_carry negative
      (roundQuotient (scaled n d e).1 (scaled n d e).2)
        ((Int.add_le_add_right hexponent 1).trans hgreatest)
    have hround : round negative n d = .finite negative m' e' := by
      rw [round, if_neg hn, ← hcarry, he]
    obtain ⟨hpos, hvalue⟩ := scaled_ratio n hd e
    have hpower : (0 : ℚ) < 2 ^ e := by positivity
    have herror := abs_roundQuotient_sub_le (scaled n d e).1 hpos
    rw [hvalue] at herror
    refine ⟨⟨_, _, _, hround⟩, ?_⟩
    rw [hround, toRat_finite, hsame, ← mul_sub, abs_mul, abs_signFactor, one_mul]
    calc |(roundQuotient (scaled n d e).1 (scaled n d e).2 : ℚ) * 2 ^ e - n / d|
        = |(roundQuotient (scaled n d e).1 (scaled n d e).2 : ℚ) - n / d / 2 ^ e| * 2 ^ e := by
          rw [← abs_of_pos hpower, ← abs_mul, abs_of_pos hpower, sub_mul,
            div_mul_cancel₀ _ hpower.ne']
      _ ≤ 1 / 2 * 2 ^ e := mul_le_mul_of_nonneg_right herror hpower.le
      _ ≤ 1 / 2 * 2 ^ k := by
          apply mul_le_mul_of_nonneg_left _ (by norm_num)
          exact zpow_le_zpow_right₀ one_le_two hexponent
      _ = 2 ^ k / 2 := by ring

/-- A ratio of less than `2 ^ 53` units is exact. -/
theorem near_round_of_units (negative : Bool) {n d m : Nat} (hd : d ≠ 0) (hleast : minExponent ≤ k)
    (hgreatest : k + 1 ≤ maxExponent) (hm : m < 2 ^ 53) (h : (n : ℚ) / d = m * 2 ^ k) :
    (round negative n d).Near (signFactor negative * (n / d)) 0 := by
  by_cases hn : n = 0
  · have hzero : round negative n d = .finite negative 0 minExponent := if_pos hn
    rw [hzero, hn]
    refine ⟨⟨_, _, _, rfl⟩, ?_⟩
    rw [toRat_finite]
    simp
  · have hsmall : (n : ℚ) / d < 2 ^ (53 + k) := by
      have hbits : (m : ℚ) < 2 ^ (53 : Int) := by exact_mod_cast hm
      rw [h, zpow_add₀ two_ne_zero]
      exact mul_lt_mul_of_pos_right hbits (by positivity)
    obtain ⟨e, he⟩ : ∃ e, e = max minExponent (ratioExponent n d) := ⟨_, rfl⟩
    have hexponent : e ≤ k := he ▸ max_le hleast (ratioExponent_le_of_lt hn hd hsmall)
    -- at its own exponent the ratio is an integer, which is left as it is
    have hunits : (m * 2 ^ (k - e).toNat : Nat) * (2 : ℚ) ^ e = n / d := by
      have hsplit : (2 : ℚ) ^ k = 2 ^ (k - e).toNat * 2 ^ e := by
        rw [← zpow_natCast, ← zpow_add₀ two_ne_zero]
        congr 1
        omega
      rw [h, hsplit]
      push_cast
      ring
    obtain ⟨hpos, hvalue⟩ := scaled_ratio n hd e
    have hpower : (0 : ℚ) < 2 ^ e := by positivity
    rw [← hunits, mul_div_cancel_right₀ _ hpower.ne'] at hvalue
    have hrounded : roundQuotient (scaled n d e).1 (scaled n d e).2 = m * 2 ^ (k - e).toNat := by
      apply roundQuotient_eq hpos
      · left
        rw [hvalue]
        linarith
      · left
        rw [hvalue]
        linarith
    obtain ⟨m', e', hcarry, hsame⟩ := toRat_carry negative (m * 2 ^ (k - e).toNat)
      ((Int.add_le_add_right hexponent 1).trans hgreatest)
    have hround : round negative n d = .finite negative m' e' := by
      rw [round, if_neg hn]
      dsimp only
      rw [← he, hrounded, hcarry]
    refine ⟨⟨_, _, _, hround⟩, ?_⟩
    rw [hround, toRat_finite, hsame, hunits, sub_self, abs_zero]

/-- The double of a ratio is near the ratio. -/
theorem near_ofRatio (n : Int) {d : Nat} (hd : d ≠ 0) (hleast : minExponent ≤ k)
    (hgreatest : k + 1 ≤ maxExponent) (h : |(n : ℚ) / d| < 2 ^ (53 + k)) :
    (ofRatio n d).Near (n / d) (2 ^ k / 2) := by
  have hmagnitude : (n.natAbs : ℚ) / d < 2 ^ (53 + k) := by
    rw [Nat.cast_natAbs, Int.cast_abs]
    rwa [abs_div, Nat.abs_cast] at h
  have hnear := near_round (n < 0) hd hleast hgreatest hmagnitude
  rwa [← mul_div_assoc, signFactor_natAbs] at hnear

/-- The double of a ratio is finite, or infinite where the ratio is too large. -/
theorem ofRatio_cases (n : Int) (d : Nat) :
    (∃ negative, ofRatio n d = .infinite negative) ∨ (ofRatio n d).IsFinite := by
  have hcarry (significand : Nat) (exponent : Int) :
      (∃ negative, carry (n < 0) significand exponent = .infinite negative) ∨
        (carry (n < 0) significand exponent).IsFinite := by
    rw [carry]
    generalize
      (if significand = Nat.pow 2 53 then (Nat.pow 2 52, exponent + 1) else
        (significand, exponent)) = p
    dsimp only
    split
    · exact .inl ⟨_, rfl⟩
    · exact .inr ⟨_, _, _, rfl⟩
  rw [ofRatio, round]
  split
  · exact .inr ⟨_, _, _, rfl⟩
  · exact hcarry _ _

/-! ## Integers -/

theorem natAbs_lt_iff {n : Int} {bound : Nat} : n.natAbs < bound ↔ |(n : ℚ)| < bound := by
  rw [← Int.cast_abs, Int.abs_eq_natAbs]
  exact_mod_cast Iff.rfl

/-- An integer of at most 53 bits is exact. -/
theorem near_ofInt {n : Int} (h : n.natAbs < 2 ^ 53) : (ofRatio n 1).Near n 0 := by
  have hnear :=
    near_round_of_units (n < 0) (n := n.natAbs) one_ne_zero (k := 0) (by decide) (by decide) h
    (by rw [zpow_zero, mul_one, Nat.cast_one, div_one])
  rwa [Nat.cast_one, div_one, signFactor_natAbs] at hnear

/-! ## Operations -/

/-- The ratio of a finite number. -/
theorem IsFinite.exists_ratio (h : x.IsFinite) :
    ∃ n : Int, ∃ d : Nat, x.ratio? = some (n, d) ∧ d ≠ 0 ∧ (n : ℚ) / d = x.toRat := by
  obtain ⟨negative, m, e, rfl⟩ := h
  obtain ⟨n, d, hratio, hvalue⟩ := ratio?_finite negative m e
  have hd : Nat.pow 2 (-e).toNat = d := (Prod.mk.inj (Option.some.inj hratio)).2
  exact ⟨n, d, hratio, hd ▸ (Nat.two_pow_pos _).ne', hvalue⟩

theorem IsFinite.neg (h : x.IsFinite) : x.neg.IsFinite := by
  obtain ⟨negative, m, e, rfl⟩ := h
  exact ⟨_, _, _, rfl⟩

theorem toRat_neg (x : Double) : x.neg.toRat = -x.toRat := by
  cases x with
  | finite negative m e => cases negative <;> simp [neg, toRat]
  | _ => simp [neg, toRat]

/-- A sum of finite numbers is near the exact one. -/
theorem near_add (hx : x.IsFinite) (hy : y.IsFinite) (hleast : minExponent ≤ k)
    (hgreatest : k + 1 ≤ maxExponent) (h : |x.toRat + y.toRat| < 2 ^ (53 + k)) :
    (add x y).Near (x.toRat + y.toRat) (2 ^ k / 2) := by
  obtain ⟨n, d, hratio, hd, hvalue⟩ := hx.exists_ratio
  obtain ⟨n', d', hratio', hd', hvalue'⟩ := hy.exists_ratio
  obtain ⟨a, m, e, rfl⟩ := hx
  obtain ⟨b, m', e', rfl⟩ := hy
  have hsum : ((n * d' + n' * d : Int) : ℚ) / (d * d' : Nat) =
      (Double.finite a m e).toRat + (Double.finite b m' e').toRat := by
    rw [← hvalue, ← hvalue']
    push_cast
    field_simp
  rw [← hsum] at h ⊢
  rw [add, hratio, hratio']
  dsimp only
  split
  · next hzero =>
    rw [hzero]
    refine ⟨⟨_, _, _, rfl⟩, ?_⟩
    rw [toRat_finite]
    simp only [Nat.cast_zero, Int.cast_zero, zero_mul, zero_div, mul_zero, sub_self, abs_zero]
    positivity
  · exact near_ofRatio _ (Nat.mul_ne_zero hd hd') hleast hgreatest h

/-- A difference of finite numbers is near the exact one. -/
theorem near_sub (hx : x.IsFinite) (hy : y.IsFinite) (hleast : minExponent ≤ k)
    (hgreatest : k + 1 ≤ maxExponent) (h : |x.toRat - y.toRat| < 2 ^ (53 + k)) :
    (sub x y).Near (x.toRat - y.toRat) (2 ^ k / 2) := by
  rw [sub_eq_add_neg, ← toRat_neg] at h ⊢
  exact near_add hx hy.neg hleast hgreatest h

/-- A finite number has the sign that it is written with. -/
theorem signFactor_mul_abs (negative : Bool) (m : Nat) (e : Int) :
    signFactor negative * |(Double.finite negative m e).toRat| =
      (Double.finite negative m e).toRat := by
  have hmagnitude : (0 : ℚ) ≤ m * 2 ^ e := by positivity
  rw [toRat_finite, abs_mul, abs_signFactor, one_mul, abs_of_nonneg hmagnitude]

theorem signFactor_bne (a b : Bool) : signFactor (a != b) = signFactor a * signFactor b := by
  cases a <;> cases b <;> simp [signFactor]

/-- A product of finite numbers is near the exact one. -/
theorem near_mul (hx : x.IsFinite) (hy : y.IsFinite) (hleast : minExponent ≤ k)
    (hgreatest : k + 1 ≤ maxExponent) (h : |x.toRat * y.toRat| < 2 ^ (53 + k)) :
    (mul x y).Near (x.toRat * y.toRat) (2 ^ k / 2) := by
  obtain ⟨n, d, hratio, hd, hvalue⟩ := hx.exists_ratio
  obtain ⟨n', d', hratio', hd', hvalue'⟩ := hy.exists_ratio
  have hmagnitude : (((n * n').natAbs : Nat) : ℚ) / (d * d' : Nat) = |x.toRat| * |y.toRat| := by
    rw [← hvalue, ← hvalue', abs_div, abs_div, Nat.abs_cast, Nat.abs_cast, div_mul_div_comm,
      Nat.cast_natAbs, Int.cast_abs, Int.cast_mul, abs_mul, Nat.cast_mul]
  rw [abs_mul, ← hmagnitude] at h
  have hnear (negative : Bool) := near_round negative (Nat.mul_ne_zero hd hd') hleast hgreatest h
  obtain ⟨a, m, e, rfl⟩ := hx
  obtain ⟨b, m', e', rfl⟩ := hy
  have hproduct :
      signFactor (a != b) * (|(Double.finite a m e).toRat| * |(Double.finite b m' e').toRat|) =
      (Double.finite a m e).toRat * (Double.finite b m' e').toRat := by
    rw [signFactor_bne, mul_mul_mul_comm, signFactor_mul_abs, signFactor_mul_abs]
  have hresult := hnear (a != b)
  rw [hmagnitude, hproduct] at hresult
  rw [mul, hratio, hratio']
  exact hresult

end DocumentStore.Double
