import DocumentStore.Proofs.Json.RoundTrip
import DocumentStore.Proofs.Number.Shortest

/-!
# JSON floats

However a decimal is laid out, with a point among its digits or with an exponent behind them, its
text is read as a decimal of the same value (`Json.number?_layout`). A float is laid out from its
shortest decimal, so it reads back from its text: it is a value that JSON holds
(`Json.IsJson.ofDouble`).
-/

set_option autoImplicit false

namespace DocumentStore.Json

open Text.Numeral (maxDigits ofNat padded takeSign value withSign)

/-! ## Digits -/

theorem digitValues_append (cs ds : List Char) :
    digitValues (cs ++ ds) = digitValues cs ++ digitValues ds := List.map_append

theorem digitValues_zeros (n : Nat) : digitValues (List.replicate n '0') = List.replicate n 0 :=
  List.map_replicate

theorem length_digitValues (cs : List Char) : (digitValues cs).length = cs.length :=
  List.length_map _

theorem value_concat (ds : List Nat) (d : Nat) : value (ds ++ [d]) = 10 * value ds + d := by
  simp [value]

/-- Zeros in front of digits do not count. -/
theorem value_zeros_append (n : Nat) (ds : List Nat) :
    value (List.replicate n 0 ++ ds) = value ds := by
  induction n with
  | zero => rfl
  | succ n ih =>
    rw [List.replicate_succ, List.cons_append, ← ih]
    rfl

/-- Each zero behind digits makes their number ten times as large. -/
theorem value_append_zeros (ds : List Nat) (n : Nat) :
    value (ds ++ List.replicate n 0) = value ds * 10 ^ n := by
  induction n with
  | zero => simp
  | succ n ih =>
    rw [List.replicate_succ', ← List.append_assoc, value_concat, ih]
    ring

theorem isDigit_of_mem_zeros {n : Nat} {c : Char} (h : c ∈ List.replicate n '0') :
    c.isDigit = true := by
  rw [List.eq_of_mem_replicate h]
  rfl

theorem isDigit_of_mem_padded {width n : Nat} {c : Char} (h : c ∈ padded width n) :
    c.isDigit = true := by
  rcases List.mem_append.1 h with h | h
  · exact isDigit_of_mem_zeros h
  · exact isDigit_of_mem_ofNat h

theorem value_padded (width n : Nat) : value (digitValues (padded width n)) = n := by
  rw [padded, digitValues_append, digitValues_zeros, value_zeros_append, value_ofNat]

/-! ## Fractions and exponents -/

/-- A fraction is read up to what is no digit. -/
theorem fraction_append {cs rest : List Char} (h : ∀ c ∈ cs, c.isDigit = true) (hne : cs ≠ [])
    (hrest : EndsDigits rest) :
    fraction ('.' :: (cs ++ rest)) = (some (digitValues cs), rest) := by
  obtain ⟨c, others, rfl⟩ := List.exists_cons_of_ne_nil hne
  simp only [fraction, spanDigits_append h hrest, digitValues, List.map_cons]

/-- An exponent reads back from its text. -/
theorem exponent_exponentText (k : Int) : exponent (Double.exponentText k) = (some k, []) := by
  have hspan : spanDigits (padded 2 k.natAbs) = (digitValues (padded 2 k.natAbs), []) := by
    simpa using spanDigits_append (fun _ => isDigit_of_mem_padded) endsDigits_nil
  have hvalue := value_padded 2 k.natAbs
  have hlength : 2 ≤ (digitValues (padded 2 k.natAbs)).length := by
    rw [length_digitValues, padded, List.length_append, List.length_replicate]
    omega
  obtain ⟨d, ds, hds⟩ : ∃ d ds, digitValues (padded 2 k.natAbs) = d :: ds := by
    apply List.exists_cons_of_length_pos
    omega
  rw [hds] at hspan hvalue
  unfold Double.exponentText
  by_cases hk : k < 0
  · have htake : takeSign ('-' :: padded 2 k.natAbs) = (true, padded 2 k.natAbs) := rfl
    have hsigned : withSign true k.natAbs = k := by
      rw [withSign, if_pos rfl]
      omega
    simp only [if_pos hk, exponent, true_or, if_true, htake, hspan, hvalue, hsigned]
  · have htake : takeSign ('+' :: padded 2 k.natAbs) = (false, padded 2 k.natAbs) := rfl
    have hsigned : withSign false k.natAbs = k := by
      rw [withSign, if_neg (by decide)]
      omega
    simp only [if_neg hk, exponent, true_or, if_true, htake, hspan, hvalue, hsigned]

theorem endsDigits_exponentText (k : Int) : EndsDigits (Double.exponentText k) := by
  intro c hc
  cases hc
  rfl

/-! ## Layouts -/

section Layouts

variable (limit : Nat) (negative : Bool)

/-- A number with a fraction or an exponent is a decimal of all its digits. -/
theorem number?_of_parts {cs rest rest' : List Char} {whole : List Nat} {frac : Option (List Nat)}
    {power : Option Int} (hwhole : integral? cs = some (whole, rest))
    (hfrac : fraction rest = (frac, rest')) (hpower : exponent rest' = (power, []))
    (hfloat : frac ≠ none ∨ power ≠ none) :
    number? limit negative cs = some (.float (Double.ofDecimal negative
      (value (whole ++ frac.getD [])) (power.getD 0 - (frac.getD []).length)), []) := by
  simp only [number?, hwhole, hfrac, hpower, bind, Option.bind_some]
  cases frac with
  | some places => rfl
  | none =>
    cases power with
    | some k => rfl
    | none => simp at hfloat

/-- Digits with a point among them. -/
theorem number?_point {whole frac rest : List Char} {power : Option Int} (hwhole : Integral whole)
    (hfrac : ∀ c ∈ frac, c.isDigit = true) (hne : frac ≠ []) (hrest : EndsDigits rest)
    (hpower : exponent rest = (power, [])) :
    number? limit negative (whole ++ '.' :: (frac ++ rest)) =
      some (.float (Double.ofDecimal negative (value (digitValues (whole ++ frac)))
        (power.getD 0 - frac.length)), []) := by
  have hpoint : EndsDigits ('.' :: (frac ++ rest)) := by
    intro c hc
    cases hc
    rfl
  rw [number?_of_parts limit negative (integral?_append hwhole hpoint)
    (fraction_append hfrac hne hrest) hpower (.inl (Option.some_ne_none _)), digitValues_append,
    Option.getD_some, length_digitValues]

/-- Digits with an exponent at once behind them. -/
theorem number?_power {whole : List Char} (hwhole : Integral whole) (k : Int) :
    number? limit negative (whole ++ Double.exponentText k) =
      some (.float (Double.ofDecimal negative (value (digitValues whole)) k), []) := by
  have hnone : fraction (Double.exponentText k) = (none, Double.exponentText k) := rfl
  rw [number?_of_parts limit negative (integral?_append hwhole (endsDigits_exponentText k)) hnone
    (exponent_exponentText k) (.inr (Option.some_ne_none _))]
  simp

/-- Digits behind a point and zeros. -/
theorem number?_belowOne (k n : Nat) :
    number? limit negative ('0' :: '.' :: List.replicate k '0' ++ ofNat n) =
      some (.float (Double.ofDecimal negative n (0 - (k + (ofNat n).length : Nat))), []) := by
  have hdigits : ∀ c ∈ List.replicate k '0' ++ ofNat n, c.isDigit = true := by
    intro c hc
    rcases List.mem_append.1 hc with hc | hc
    · exact isDigit_of_mem_zeros hc
    · exact isDigit_of_mem_ofNat hc
  have hne : List.replicate k '0' ++ ofNat n ≠ [] :=
    List.append_ne_nil_of_right_ne_nil _ Nat.toDigits_ne_nil
  have hvalue : value (digitValues (['0'] ++ (List.replicate k '0' ++ ofNat n))) = n := by
    rw [← List.append_assoc, digitValues_append]
    have hzeros : ['0'] ++ List.replicate k '0' = List.replicate (k + 1) '0' := rfl
    rw [hzeros, digitValues_zeros, value_zeros_append, value_ofNat]
  have hread := number?_point limit negative (.inl rfl) hdigits hne endsDigits_nil rfl
  rw [hvalue, List.append_nil, List.length_append, List.length_replicate] at hread
  exact hread

variable {n : Nat} (hn : 0 < n)

include hn

/-- Digits from the first one on can stand before the point. -/
theorem integral_take {k : Nat} (hk : 0 < k) : Integral ((ofNat n).take k) := by
  obtain ⟨c, others, hhead, hc⟩ := head_ofNat hn
  refine .inr ⟨fun d hd => isDigit_of_mem_ofNat (List.mem_of_mem_take hd), c,
    others.take (k - 1), ?_, hc⟩
  obtain ⟨k, rfl⟩ : ∃ j, k = j + 1 := ⟨k - 1, by omega⟩
  rw [hhead]
  rfl

/-- Digits around a point, with or without an exponent behind them. -/
theorem number?_around {k : Nat} (hk : 0 < k) (hlength : k < (ofNat n).length) {rest : List Char}
    {power : Option Int} (hrest : EndsDigits rest) (hpower : exponent rest = (power, [])) :
    number? limit negative ((ofNat n).take k ++ '.' :: ((ofNat n).drop k ++ rest)) =
      some (.float (Double.ofDecimal negative n
        (power.getD 0 - ((ofNat n).length - k : Nat))), []) := by
  have hdigits : ∀ c ∈ (ofNat n).drop k, c.isDigit = true := fun c hc =>
    isDigit_of_mem_ofNat (List.mem_of_mem_drop hc)
  have hne : (ofNat n).drop k ≠ [] := by
    intro h
    have hshort := List.drop_eq_nil_iff.1 h
    omega
  rw [number?_point limit negative (integral_take hn hk) hdigits hne hrest hpower,
    List.take_append_drop, value_ofNat, List.length_drop]

/-- Digits with zeros behind them, and one more behind the point. -/
theorem number?_whole (k : Nat) :
    number? limit negative (ofNat n ++ List.replicate k '0' ++ ['.', '0']) =
      some (.float (Double.ofDecimal negative (n * 10 ^ (k + 1)) (-1)), []) := by
  obtain ⟨c, others, hhead, hc⟩ := head_ofNat hn
  have hdigits : ∀ d ∈ ofNat n ++ List.replicate k '0', d.isDigit = true := by
    intro d hd
    rcases List.mem_append.1 hd with hd | hd
    · exact isDigit_of_mem_ofNat hd
    · exact isDigit_of_mem_zeros hd
  have hwhole : Integral (ofNat n ++ List.replicate k '0') :=
    .inr ⟨hdigits, c, others ++ List.replicate k '0', by rw [hhead, List.cons_append], hc⟩
  have hvalue : value (digitValues (ofNat n ++ List.replicate k '0' ++ ['0'])) =
      n * 10 ^ (k + 1) := by
    have hzeros : List.replicate k '0' ++ ['0'] = List.replicate (k + 1) '0' :=
      List.replicate_succ'.symm
    rw [List.append_assoc, hzeros, digitValues_append, digitValues_zeros, value_append_zeros,
      value_ofNat]
  have hzero : ∀ d ∈ ['0'], d.isDigit = true := by simp
  have hread := number?_point limit negative hwhole hzero (List.cons_ne_nil _ _) endsDigits_nil rfl
  rw [hvalue] at hread
  exact hread

end Layouts

/-- However it is laid out, a decimal is read as one of the same value. -/
theorem number?_layout (limit : Nat) (negative : Bool) {d : Decimal} (hd : 0 < d.digits) :
    ∃ d' : Decimal, d'.toRat = d.toRat ∧ number? limit negative (Double.layout d) =
      some (.float (Double.ofDecimal negative d'.digits d'.exponent), []) := by
  have hlength : 0 < (ofNat d.digits).length := Nat.length_toDigits_pos
  unfold Double.layout
  dsimp only
  split
  · split
    · next hbelow =>
      have hexponent : (0 : Int) - ((-((ofNat d.digits).length + d.exponent)).toNat +
          (ofNat d.digits).length : Nat) = d.exponent := by omega
      refine ⟨d, rfl, ?_⟩
      rw [number?_belowOne, hexponent]
    split
    · next hfraction =>
      have hread := number?_around limit negative hd
        (k := ((ofNat d.digits).length + d.exponent).toNat) (by omega) (by omega) endsDigits_nil rfl
      have hexponent : (0 : Int) - ((ofNat d.digits).length -
          ((ofNat d.digits).length + d.exponent).toNat : Nat) = d.exponent := by omega
      rw [List.append_nil, Option.getD_none, hexponent] at hread
      exact ⟨d, rfl, hread⟩
    · next hwhole =>
      refine ⟨⟨d.digits * 10 ^ (d.exponent.toNat + 1), -1⟩, ?_, number?_whole limit negative hd _⟩
      obtain ⟨k, hk⟩ := Int.eq_ofNat_of_zero_le (Int.not_lt.1 hwhole)
      rw [Decimal.toRat, Decimal.toRat, hk]
      simp only [Int.toNat_natCast, Nat.cast_mul, Nat.cast_pow, Nat.cast_ofNat, pow_succ,
        zpow_natCast, zpow_neg, zpow_one]
      field_simp
  · split
    · next c heq =>
      have hread := number?_power limit negative (integral_ofNat d.digits)
        ((ofNat d.digits).length + d.exponent - 1)
      have hone : (ofNat d.digits).length = 1 := by rw [heq]; rfl
      have hexponent : ((ofNat d.digits).length : Int) + d.exponent - 1 = d.exponent := by omega
      rw [value_ofNat, hexponent, heq] at hread
      rw [hexponent]
      exact ⟨d, rfl, hread⟩
    · next c rest hrest heq =>
      generalize hpower : ((ofNat d.digits).length : Int) + d.exponent - 1 = power
      have hlong : 1 < (ofNat d.digits).length := by
        rw [heq]
        cases rest with
        | nil => exact absurd rfl hrest
        | cons _ _ => simp
      have hread := number?_around limit negative hd (k := 1) (by decide) hlong
        (endsDigits_exponentText power) (exponent_exponentText power)
      have hexponent : (some power).getD 0 - ((ofNat d.digits).length - 1 : Nat) = d.exponent := by
        rw [Option.getD_some]
        omega
      rw [hexponent, heq] at hread
      exact ⟨d, rfl, hread⟩
    · next heq => exact absurd heq Nat.toDigits_ne_nil

/-! ## Floats -/

/-- A positive number reads back from the layout of its shortest decimal. -/
theorem number?_layout_shortest (limit : Nat) {m : Nat} {e : Int} (hc : Double.Canonical m e)
    (hm : m ≠ 0) (negative : Bool) :
    number? limit negative (Double.layout (Double.shortest m e)) =
      some (.float (.finite negative m e), []) := by
  have hnearest := Double.nearest_shortest hm e
  have hdigits := Nat.pos_of_ne_zero (hnearest.digits_ne_zero hm)
  obtain ⟨d, hvalue, hread⟩ := number?_layout limit negative hdigits
  rw [← hvalue] at hnearest
  rw [hread, Double.ofDecimal_of_nearest hc hm hnearest]

/-- A float reads back from its text. -/
theorem readsNumber_ofDouble {m : Nat} {e : Int} (hc : Double.Canonical m e) (negative : Bool) :
    ReadsNumber (Double.finite negative m e).text.toList (.float (.finite negative m e)) := by
  have hbody (sign : Bool) : number? maxDigits sign
      (if m = 0 then ['0', '.', '0'] else Double.layout (Double.shortest m e)) =
        some (.float (.finite sign m e), []) := by
    split
    · next hzero =>
      have hleast : e = Double.minExponent := by
        by_contra hne
        have hnormal := hc.normal (lt_of_le_of_ne hc.least (Ne.symm hne))
        omega
      rw [hzero, hleast]
      cases sign <;> rfl
    · next hm => exact number?_layout_shortest maxDigits hc hm sign
  rw [Double.text, String.toList_ofList]
  cases negative with
  | false => exact .inl (hbody false)
  | true => exact .inr ⟨_, rfl, hbody true⟩

/-- JSON holds every finite float. -/
theorem IsJson.ofDouble {m : Nat} {e : Int} (hc : Double.Canonical m e) (negative : Bool) :
    IsJson (.float (.finite negative m e)) :=
  .float negative m e (Reads.number (readsNumber_ofDouble hc negative)).read?

end DocumentStore.Json
