import DocumentStore.Proofs.Number.Accuracy
import DocumentStore.Proofs.Query.Timestamps
import DocumentStore.Query.Where

/-!
# Timestamps of milliseconds

A number of milliseconds is divided by 1000 with one rounding, its seconds are taken apart with two
more, and what comes out is rounded to a microsecond. The errors are less than half a microsecond
together (`Timestamp.microsOfSeconds_of_near`), so the moment is exact, and moments are ordered as
their milliseconds are (`milliseconds_are_exact`).
-/

set_option autoImplicit false

namespace DocumentStore

open Calendar (Clock InYears Moment)

namespace Double

/-- The integral part of a finite number is less than one away. -/
theorem IsFinite.exists_truncate {x : Double} (h : x.IsFinite) :
    ∃ whole : Int, x.truncate? = some whole ∧ |x.toRat - whole| < 1 := by
  obtain ⟨n, d, hratio, hd, hvalue⟩ := h.exists_ratio
  refine ⟨Int.tdiv n d, by rw [truncate?, hratio]; rfl, ?_⟩
  have hd' : (0 : ℚ) < d := by exact_mod_cast Nat.pos_of_ne_zero hd
  have hrest : |(Int.tmod n d : ℚ)| < d := by
    have hmod : (Int.tmod n d).natAbs < d := by
      rw [Int.natAbs_tmod]
      exact Nat.mod_lt _ (Nat.pos_of_ne_zero hd)
    rw [← Int.cast_abs, Int.abs_eq_natAbs]
    exact_mod_cast hmod
  have hsplit : (Int.tmod n d : ℚ) + d * Int.tdiv n d = n := by
    exact_mod_cast Int.tmod_add_mul_tdiv n d
  have hdifference : x.toRat - Int.tdiv n d = Int.tmod n d / d := by
    rw [← hvalue, ← hsplit]
    field_simp
    ring
  rw [hdifference, abs_div, Nat.abs_cast, div_lt_one hd']
  exact hrest

end Double

namespace Timestamp

/-- A fraction of a second has the microseconds that its product is nearest to. -/
theorem fractionMicros_eq {x : Double} {t : Int}
    (hfinite : (Double.mul x (.ofRatio 1000000 1)).IsFinite)
    (h : |(Double.mul x (.ofRatio 1000000 1)).toRat - t| < 1 / 2) : fractionMicros x = t := by
  obtain ⟨n, d, hratio, hd, hvalue⟩ := hfinite.exists_ratio
  rw [← hvalue] at h
  obtain ⟨hlow, hhigh⟩ := abs_lt.1 h
  rw [fractionMicros, hratio]
  dsimp only
  rw [Double.roundQuotient_natAbs hd h]
  by_cases hn : n < 0
  · have hquotient : (n : ℚ) / d ≤ 0 :=
      div_nonpos_of_nonpos_of_nonneg (by exact_mod_cast hn.le) (Nat.cast_nonneg d)
    have ht : (t : ℚ) < 1 := by linarith
    have ht : t < 1 := by exact_mod_cast ht
    rw [if_pos hn]
    omega
  · have hquotient : (0 : ℚ) ≤ n / d :=
      div_nonneg (by exact_mod_cast Int.not_lt.1 hn) (Nat.cast_nonneg d)
    have ht : (-1 : ℚ) < t := by linarith
    have ht : -1 < t := by exact_mod_cast ht
    rw [if_neg hn]
    omega

/-- A number is near its whole seconds and the microseconds behind them: the difference and the
product are rounded, and both errors are far below a microsecond. -/
theorem near_microseconds {x : Double} (hx : x.IsFinite) {whole : Int}
    (hbits : whole.natAbs < 2 ^ 53) (hwhole : |x.toRat - whole| < 1) :
    (Double.mul (Double.sub x (.ofRatio whole 1)) (.ofRatio 1000000 1)).Near
      ((x.toRat - whole) * 1000000) (1 / 1000) := by
  obtain ⟨hwholeFinite, hwholeExact⟩ := Double.near_ofInt hbits
  obtain ⟨hmillionFinite, hmillionExact⟩ := Double.near_ofInt (n := 1000000) (by decide)
  rw [abs_nonpos_iff, sub_eq_zero] at hwholeExact hmillionExact
  have hsmall : |x.toRat - (Double.ofRatio whole 1).toRat| < 2 ^ (53 + (-53) : Int) := by
    rw [hwholeExact]
    simpa using hwhole
  obtain ⟨hfractionFinite, hfraction⟩ :=
    Double.near_sub hx hwholeFinite (by decide) (by decide) hsmall
  rw [hwholeExact] at hfraction
  obtain ⟨fraction, hname⟩ : ∃ y, y = Double.sub x (.ofRatio whole 1) := ⟨_, rfl⟩
  rw [← hname] at hfractionFinite hfraction ⊢
  rw [abs_le] at hfraction
  rw [abs_lt] at hwhole
  have hproduct : |fraction.toRat * (Double.ofRatio 1000000 1).toRat| < 2 ^ (53 + (-33) : Int) := by
    rw [hmillionExact, abs_lt]
    norm_num at hfraction ⊢
    constructor <;> linarith
  obtain ⟨hfinite, herror⟩ :=
    Double.near_mul hfractionFinite hmillionFinite (by decide) (by decide) hproduct
  rw [hmillionExact, abs_le] at herror
  refine ⟨hfinite, ?_⟩
  rw [abs_le]
  norm_num at hfraction herror ⊢
  constructor <;> linarith

/-- Seconds that are near a number of milliseconds have its microseconds. -/
theorem microsOfSeconds_of_near {x : Double} {n : Int}
    (hx : x.Near (n / 1000) (2 ^ (-20 : Int) / 2)) (hn : n.natAbs < 2 ^ 33 * 1000) :
    microsOfSeconds x = .ok (1000 * n) := by
  obtain ⟨hfinite, herror⟩ := hx
  obtain ⟨whole, htruncate, hwhole⟩ := hfinite.exists_truncate
  rw [abs_le] at herror
  have hbits : whole.natAbs < 2 ^ 53 := by
    have hbound := Double.natAbs_lt_iff.1 hn
    rw [Double.natAbs_lt_iff]
    rw [abs_lt] at hbound hwhole ⊢
    norm_num at hbound herror ⊢
    constructor <;> linarith
  have hmicros : fractionMicros (Double.sub x (.ofRatio whole 1)) = 1000 * n - whole * 1000000 := by
    obtain ⟨hproduct, hnear⟩ := near_microseconds hfinite hbits hwhole
    apply fractionMicros_eq hproduct
    -- half a unit of the quotient is less than 0.48 of a microsecond
    rw [abs_le] at hnear
    rw [abs_lt]
    push_cast
    norm_num at herror ⊢
    constructor <;> linarith
  have hsum : whole * 1000000 + (1000 * n - whole * 1000000) = 1000 * n := by ring
  obtain ⟨negative, m, e, rfl⟩ := hfinite
  simp only [microsOfSeconds, htruncate, Option.getD_some, hmicros, hsum]
  rw [if_pos (by omega)]

/-- A number of milliseconds has its microseconds. -/
theorem ofMillis_eq {n : Int} (hn : n.natAbs < 2 ^ 33 * 1000) :
    ofMillis n = ofMicros (1000 * n) := by
  have hsmall : |(n : ℚ) / (1000 : Nat)| < 2 ^ (53 + (-20) : Int) := by
    have hbound := Double.natAbs_lt_iff.1 hn
    rw [abs_div, Nat.abs_cast]
    norm_num at hbound ⊢
    linarith
  have hnear := Double.near_ofRatio n (by decide) (by decide) (by decide) hsmall
  rw [Nat.cast_ofNat] at hnear
  have hmicros := microsOfSeconds_of_near hnear hn
  obtain ⟨negative, m, e, hfinite⟩ := hnear.1
  rw [hfinite] at hmicros
  simp only [ofMillis, hfinite, ofSeconds, hmicros, Except.bind]

end Timestamp

/-- A number of milliseconds becomes the moment without offset at its instant. -/
theorem exists_toTimestamp_int {n : Int} (hn : n.natAbs < 2 ^ 33 * 1000) :
    ∃ m : Moment, toTimestamp (.int n) = .ok (some m) ∧ m.offset = none ∧ m.instant = 1000 * n := by
  have hyears : InYears (1000 * n) := by
    apply Calendar.inYears_iff.2
    omega
  obtain ⟨m, hm⟩ := Moment.exists_ofInstant? hyears
  obtain ⟨hoffset, hinstant⟩ := Moment.ofInstant?_eq_some.1 hm
  have hmillis : Timestamp.ofMillis n = .ok m := by
    rw [Timestamp.ofMillis_eq hn, Timestamp.ofMicros_eq_ok]
    exact hm
  refine ⟨m, ?_, hoffset, hinstant⟩
  show (Timestamp.ofMillis n).map some = _
  rw [hmillis]
  rfl

/-- The moment from which milliseconds are counted. -/
def Calendar.Moment.epoch : Moment where
  date := (Date.ofParts? 1970 1 1).get (by decide)
  clock := Clock.midnight
  offset := none

/-- Milliseconds are exact from 1697 to 2242, although they go through binary seconds. A number of
milliseconds becomes the moment that many milliseconds from the epoch, in a filter on a column of
timestamps as well, and numbers of milliseconds are ordered as the years, months, days and times of
their moments are. -/
theorem milliseconds_are_exact {n : Int} (hn : n.natAbs < 2 ^ 33 * 1000) :
    ∃ m : Moment, toTimestamp (.int n) = .ok (some m) ∧ m.offset = none ∧
      m.instant = Moment.epoch.instant + 1000 * n ∧
      (∀ (s : FieldSchema) (column : Value), isNamed timestampFields column = true →
        filterValue s column (.int n) = .ok (.moment m)) ∧
      ∀ k : Int, k.natAbs < 2 ^ 33 * 1000 → ∃ r : Moment, toTimestamp (.int k) = .ok (some r) ∧
        (n < k ↔ m.parts < r.parts) ∧ (n = k ↔ m = r) := by
  obtain ⟨m, hm, hoffset, hinstant⟩ := exists_toTimestamp_int hn
  have hepoch : Moment.epoch.instant = 0 := by decide
  refine ⟨m, hm, hoffset, ?exact, ?filter, ?order⟩
  case exact =>
    rw [hinstant, hepoch, Int.zero_add]
  case filter =>
    intro s column hcolumn
    rw [filterValue, if_pos hcolumn, hm]
    rfl
  case order =>
    intro k hk
    obtain ⟨r, hr, hoffset', hinstant'⟩ := exists_toTimestamp_int hk
    refine ⟨r, hr, ?_, ?_⟩
    · rw [← Moment.instant_lt_iff hoffset hoffset', hinstant, hinstant']
      omega
    · constructor
      · rintro rfl
        exact Moment.eq_of_instant_eq hoffset hoffset' (hinstant.trans hinstant'.symm)
      · rintro rfl
        omega

theorem lastMillisecond_before_epoch :
    ((-1 : Int).natAbs < 2 ^ 33 * 1000 ∧ (8589934591999 : Int).natAbs < 2 ^ 33 * 1000) ∧
    ∃ m : Moment, toTimestamp (.int (-1)) = .ok (some m) ∧
      m.parts = [1969, 12, 31, 23, 59, 59, 999000] ∧
      ∃ r : Moment, toTimestamp (.int 8589934591999) = .ok (some r) ∧ m.parts < r.parts := by
  have hlow : (-1 : Int).natAbs < 2 ^ 33 * 1000 := by decide
  have hhigh : (8589934591999 : Int).natAbs < 2 ^ 33 * 1000 := by decide
  obtain ⟨m, hm, hoffset, hinstant, -, horder⟩ := milliseconds_are_exact hlow
  obtain ⟨r, hr, hlt, -⟩ := horder _ hhigh
  have hparts : m.parts = [1969, 12, 31, 23, 59, 59, 999000] := by
    have hfound := Moment.ofInstant?_instant hoffset
    rw [hinstant] at hfound
    have hevening : (Moment.ofInstant? (Moment.epoch.instant + 1000 * -1)).map Moment.parts =
        some [1969, 12, 31, 23, 59, 59, 999000] := by decide
    rw [hfound] at hevening
    exact Option.some.inj hevening
  exact ⟨⟨hlow, hhigh⟩, m, hm, hparts, r, hr, hlt.1 (by decide)⟩

end DocumentStore
