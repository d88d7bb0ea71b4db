import DocumentStore.Calendar.Reader
import DocumentStore.Calendar.Written
import DocumentStore.Proofs.Calendar.Days
import DocumentStore.Proofs.Json.Floats
import Mathlib.Data.List.GetD

/-!
# Reading of written dates and moments

A date reads back from its ISO form (`Date.read?_written`), and so does a moment
(`Moment.read?_written`), its offset apart when that is a fraction of a second: such an offset is
read as UTC (`Offset.asRead`, `Moment.KeepsOffset`).
-/

set_option autoImplicit false

namespace DocumentStore.Calendar

open Text.Numeral (padded ofNat value)

open Json (asciiDigit?_of_isDigit digitValues isDigit_of_mem_padded value_padded)

/-! ## Numbers of a fixed width -/

theorem length_padded {width n : Nat} (hwidth : 0 < width) (h : n < 10 ^ width) :
    (padded width n).length = width := by
  have hlength : (ofNat n).length ≤ width := by
    rcases Nat.eq_zero_or_pos n with rfl | hn
    · exact hwidth
    · obtain ⟨k, hk, hlow, -⟩ := Double.length_ofNat_bounds hn
      rw [hk]
      exact (Nat.pow_lt_pow_iff_right (by decide)).1 (hlow.trans_lt h)
  rw [padded, List.length_append, List.length_replicate]
  omega

/-- Digits are read as the number they denote. -/
theorem digitsValue?_of_digits {cs : List Char} (h : ∀ c ∈ cs, c.isDigit = true) (acc : Nat) :
    digitsValue? cs acc = some ((digitValues cs).foldl (fun acc d => 10 * acc + d) acc) := by
  induction cs generalizing acc with
  | nil => rfl
  | cons c cs ih =>
    obtain ⟨hc, hcs⟩ := List.forall_mem_cons.1 h
    rw [digitsValue?, asciiDigit?_of_isDigit hc, Option.bind_some, ih hcs]
    rfl

theorem digitsValue?_padded (width n : Nat) : digitsValue? (padded width n) 0 = some n := by
  rw [digitsValue?_of_digits fun _ => isDigit_of_mem_padded]
  exact congrArg some (value_padded width n)

/-- A number of a fixed width is read, whatever stands behind it. -/
theorem takeNumber?_padded {width n : Nat} (hwidth : 0 < width) (h : n < 10 ^ width)
    (rest : List Char) : takeNumber? width (padded width n ++ rest) = some (n, rest) := by
  have hlength := length_padded hwidth h
  have hlong : ¬ (padded width n ++ rest).length < width := by
    rw [List.length_append, hlength]
    omega
  rw [takeNumber?, if_neg hlong, List.take_left' hlength, List.drop_left' hlength,
    digitsValue?_padded]
  rfl

/-- A padded number begins with a digit. -/
theorem exists_padded {width n : Nat} (hwidth : 0 < width) (h : n < 10 ^ width) :
    ∃ c cs, padded width n = c :: cs ∧ c.isDigit = true := by
  obtain ⟨c, cs, hcs⟩ := List.exists_cons_of_length_pos ((length_padded hwidth h).symm ▸ hwidth)
  have hc : c ∈ padded width n := hcs ▸ List.mem_cons_self
  exact ⟨c, cs, hcs, isDigit_of_mem_padded hc⟩

/-- The microseconds are read back from a fraction. -/
theorem fraction?_padded {n : Nat} (h : n < 10 ^ 6) : fraction? (padded 6 n) = some n := by
  have hlength := length_padded (by decide) h
  have hdigits : (padded 6 n).all (fun c => (Text.asciiDigit? c).isSome) = true := by
    rw [List.all_eq_true]
    intro c hc
    rw [asciiDigit?_of_isDigit (isDigit_of_mem_padded hc)]
    rfl
  obtain ⟨c, cs, hcs, -⟩ := exists_padded (by decide) h
  have hsome : (padded 6 n).isEmpty = false := by rw [hcs]; rfl
  rw [fraction?, hdigits, hsome, List.take_left' hlength, digitsValue?_padded]
  rfl

/-! ## Dates -/

namespace Date

theorem parts_lt (d : Date) : d.year < 10 ^ 4 ∧ d.month < 10 ^ 2 ∧ d.day < 10 ^ 2 := by
  have hyear := d.year_range
  have hmonth := d.month_range
  have hlengths : ∀ leap, ∀ i < 12, (monthLengths leap).getD i 0 ≤ 31 := by decide
  have hlength := hlengths (isLeap d.year) (d.month - 1) (by omega)
  have hday := d.day_lt
  omega

theorem length_written (d : Date) : d.written.length = 10 := by
  obtain ⟨hyear, hmonth, hday⟩ := d.parts_lt
  rw [written]
  simp only [List.length_append, List.length_cons, length_padded (by decide) hyear,
    length_padded (by decide) hmonth, length_padded (by decide) hday]

/-- A month and a day behind a separated year are read as such when no week begins there. -/
theorem read?_month {cs rest : List Char} {year : Nat}
    (hyear : takeNumber? 4 cs = some (year, '-' :: rest)) (hweek : ∀ cs, rest ≠ 'W' :: cs) :
    read? cs = monthDate? year true rest := by
  simp only [read?, hyear, bind, Option.bind_some]

/-- A date reads back from its ISO form. -/
theorem read?_written (d : Date) : read? d.written = some d := by
  obtain ⟨hyear, hmonth, hday⟩ := d.parts_lt
  obtain ⟨c, cs, hcs, hc⟩ := exists_padded (by decide) hmonth
  have hshape : d.written =
      padded 4 d.year ++ '-' :: (padded 2 d.month ++ '-' :: padded 2 d.day) := by
    simp only [written, List.append_assoc, List.cons_append]
  have hdayOnly := takeNumber?_padded (by decide) hday []
  rw [List.append_nil] at hdayOnly
  rw [hshape, read?_month (takeNumber?_padded (by decide) hyear _) ?_, monthDate?]
  · simp only [takeNumber?_padded (by decide) hmonth, hdayOnly, bind, Option.bind_some]
    exact ofParts?_parts d
  · intro rest heq
    rw [hcs] at heq
    rw [(List.cons.inj heq).1] at hc
    cases hc

/-- A written date is taken for ten characters, whatever stands behind it. -/
theorem dateLength?_written (d : Date) (rest : List Char) :
    dateLength? (d.written ++ rest) = some 10 := by
  obtain ⟨hyear, hmonth, hday⟩ := d.parts_lt
  obtain ⟨c, cs, hcs, hc⟩ := exists_padded (by decide) hmonth
  have hlong : 10 ≤ (d.written ++ rest).length := by
    rw [List.length_append, d.length_written]
    omega
  have hshape : d.written ++ rest =
      padded 4 d.year ++ '-' :: c :: (cs ++ '-' :: (padded 2 d.day ++ rest)) := by
    simp only [written, hcs, List.append_assoc, List.cons_append]
  have hyearLength := length_padded (by decide) hyear
  have hdash : charAt (d.written ++ rest) 4 = '-' := by
    rw [charAt, hshape, List.getD_append_right _ _ _ _ (by omega), hyearLength]
    rfl
  have hmonthStart : charAt (d.written ++ rest) 5 = c := by
    rw [charAt, hshape, List.getD_append_right _ _ _ _ (by omega), hyearLength]
    rfl
  have hweek : c ≠ 'W' := by
    rintro rfl
    cases hc
  unfold dateLength?
  dsimp only
  rw [if_neg (by omega), if_neg (by omega), hdash, if_pos rfl, hmonthStart, if_neg hweek]

end Date

/-! ## Characters -/

/-- A text of digits and the given marks. -/
def Digital (marks cs : List Char) : Prop := ∀ c ∈ cs, c.isDigit = true ∨ c ∈ marks

namespace Digital

variable {marks cs ds : List Char}

theorem nil : Digital marks [] := List.forall_mem_nil _

theorem padded (width n : Nat) : Digital marks (padded width n) :=
  fun _ hc => .inl (isDigit_of_mem_padded hc)

theorem cons {c : Char} (hc : c ∈ marks) (hcs : Digital marks cs) : Digital marks (c :: cs) :=
  List.forall_mem_cons.2 ⟨.inr hc, hcs⟩

theorem append (hcs : Digital marks cs) (hds : Digital marks ds) : Digital marks (cs ++ ds) :=
  List.forall_mem_append.2 ⟨hcs, hds⟩

theorem mono {more : List Char} (h : Digital marks cs) (hmarks : marks ⊆ more) : Digital more cs :=
  fun c hc => (h c hc).imp_right (hmarks ·)

end Digital

theorem Date.digital_written (d : Date) : Digital ['-'] d.written :=
  ((Digital.padded 4 _).append (.cons (by decide) (.padded 2 _))).append
    (.cons (by decide) (.padded 2 _))

theorem digital_fractionWritten (micros : Nat) : Digital [':', '.'] (fractionWritten micros) := by
  unfold fractionWritten
  split
  · exact .nil
  · exact .cons (by decide) (.padded 6 _)

theorem Clock.digital_written (c : Clock) : Digital [':', '.'] c.written := by
  refine .append (.append (.append (.padded 2 _) (.cons ?_ (.padded 2 _))) (.cons ?_ (.padded 2 _)))
    (digital_fractionWritten _)
  all_goals decide

theorem Offset.digital_written (o : Offset) : Digital ['+', '-', ':', '.'] o.written := by
  have hfraction (n : Nat) := (digital_fractionWritten n).mono
    (show [':', '.'] ⊆ ['+', '-', ':', '.'] by decide)
  unfold written
  refine .append (.append (.cons ?_ (.padded 2 _)) (.cons (by decide) (.padded 2 _))) ?_
  · split <;> decide
  · split
    · exact .nil
    · exact .cons (by decide) ((Digital.padded 2 _).append (hfraction _))

/-! ## Times of day -/

theorem readSeconds?_written (hour minute : Nat) {second micros : Nat} (hsecond : second < 10 ^ 2)
    (hmicros : micros < 10 ^ 6) :
    readSeconds? hour minute (padded 2 second ++ fractionWritten micros) =
      some ⟨hour, minute, second, micros⟩ := by
  rw [readSeconds?, takeNumber?_padded (by decide) hsecond]
  by_cases hwhole : micros = 0
  · rw [fractionWritten, if_pos hwhole, hwhole]
    rfl
  · rw [fractionWritten, if_neg hwhole]
    show (if '.' = '.' ∨ '.' = ',' then (fraction? (padded 6 micros)).map _ else none) = _
    rw [if_pos (.inl rfl), fraction?_padded hmicros]
    rfl

namespace Reading

variable {hour minute second micros : Nat}

theorem read?_minutes (hhour : hour < 10 ^ 2) (hminute : minute < 10 ^ 2) :
    read? (padded 2 hour ++ ':' :: padded 2 minute) = some ⟨hour, minute, 0, 0⟩ := by
  have hlast := takeNumber?_padded (by decide) hminute []
  rw [List.append_nil] at hlast
  simp only [read?, takeNumber?_padded (by decide) hhour, hlast, bind, Option.bind_some]

theorem read?_seconds (hhour : hour < 10 ^ 2) (hminute : minute < 10 ^ 2)
    (hsecond : second < 10 ^ 2) (hmicros : micros < 10 ^ 6) :
    read? (padded 2 hour ++
        ':' :: (padded 2 minute ++ ':' :: (padded 2 second ++ fractionWritten micros))) =
      some ⟨hour, minute, second, micros⟩ := by
  simp only [read?, takeNumber?_padded (by decide) hhour,
    takeNumber?_padded (by decide) hminute, bind, Option.bind_some]
  exact readSeconds?_written hour minute hsecond hmicros

end Reading

/-- A time of day is read back from its parts. -/
theorem Clock.read?_written (c : Clock) :
    Reading.read? c.written = some ⟨c.hour, c.minute, c.second, c.microsecond⟩ := by
  have hhour := c.hour_lt
  have hminute := c.minute_lt
  have hsecond := c.second_lt
  have hshape : c.written = padded 2 c.hour ++ ':' :: (padded 2 c.minute ++
      ':' :: (padded 2 c.second ++ fractionWritten c.microsecond)) := by
    simp only [written, List.append_assoc, List.cons_append]
  rw [hshape, Reading.read?_seconds (by omega) (by omega) (by omega) c.microsecond_lt]

theorem Clock.ofParts?_parts (c : Clock) :
    ofParts? c.hour c.minute c.second c.microsecond = some c :=
  dif_pos ⟨c.hour_lt, c.minute_lt, c.second_lt, c.microsecond_lt⟩

/-! ## Offsets -/

namespace Offset

/-- The offset that is read from the text of an offset: without a whole second it is taken for
none. -/
def asRead (o : Offset) : Offset := if o.micros.natAbs < 1000000 then utc else o

/-- An offset is written as a sign, which tells whether it is negative, and a time that reads
back. -/
theorem exists_written (o : Offset) :
    ∃ sign body reading, o.written = sign :: body ∧ (sign = '+' ∨ sign = '-') ∧
      Reading.read? body = some reading ∧ reading.offset? (sign = '-') = some o.asRead := by
  have hrange := o.micros_range
  obtain ⟨n, hn⟩ : ∃ n, n = o.micros.natAbs := ⟨_, rfl⟩
  obtain ⟨sign, hsign, heither, hsigned⟩ :
      ∃ sign : Char, (if o.micros < 0 then '-' else '+') = sign ∧
        (sign = '+' ∨ sign = '-') ∧ (if decide (sign = '-') then -(n : Int) else n) = o.micros := by
    by_cases hneg : o.micros < 0
    · refine ⟨'-', if_pos hneg, .inr rfl, ?_⟩
      show -(n : Int) = o.micros
      omega
    · refine ⟨'+', if_neg hneg, .inl rfl, ?_⟩
      show (n : Int) = o.micros
      omega
  refine ⟨sign, padded 2 (n / 1000000 / 3600) ++ ':' :: (padded 2 (n / 1000000 / 60 % 60) ++
    (if n % 60000000 = 0 then []
      else ':' :: (padded 2 (n / 1000000 % 60) ++ fractionWritten (n % 1000000)))),
    ⟨n / 1000000 / 3600, n / 1000000 / 60 % 60, n / 1000000 % 60, n % 1000000⟩, ?_, heither, ?_, ?_⟩
  · simp only [written, ← hn, hsign, List.append_assoc, List.cons_append]
  · by_cases hminutes : n % 60000000 = 0
    · have hsecond : n / 1000000 % 60 = 0 := by omega
      have hmicros : n % 1000000 = 0 := by omega
      rw [if_pos hminutes, List.append_nil, Reading.read?_minutes (by omega) (by omega),
        hsecond, hmicros]
    · rw [if_neg hminutes, Reading.read?_seconds (by omega) (by omega) (by omega) (by omega)]
  · have hseconds : n / 1000000 / 3600 * 3600 + n / 1000000 / 60 % 60 * 60 + n / 1000000 % 60 =
        n / 1000000 := by omega
    have hwhole := Nat.div_add_mod' n 1000000
    unfold Reading.offset?
    dsimp only
    rw [hseconds, hwhole, asRead, ← hn]
    by_cases hsmall : n < 1000000
    · rw [if_pos hsmall, if_pos (Nat.div_eq_of_lt hsmall)]
    · have hlarge : n / 1000000 ≠ 0 := by omega
      rw [if_neg hsmall, if_neg hlarge, hsigned]
      exact dif_pos hrange

end Offset

/-! ## Moments -/

/-- The time of day is what stands before the mark of an offset. -/
theorem span_written (c : Clock) {tail : List Char}
    (htail : ∀ t ∈ tail.head?, beginsOffset t = true) :
    (c.written ++ tail).takeWhile (fun t => !beginsOffset t) = c.written ∧
      (c.written ++ tail).dropWhile (fun t => !beginsOffset t) = tail := by
  have hplain : ∀ t ∈ c.written, (!beginsOffset t) = true := by
    intro t ht
    have hdigital := c.digital_written t ht
    by_contra hoffset
    simp only [beginsOffset, Bool.not_eq_true', Bool.not_eq_false, Bool.or_eq_true,
      decide_eq_true_eq] at hoffset
    rcases hoffset with (rfl | rfl) | rfl <;> revert hdigital <;> decide
  rw [List.takeWhile_append_of_pos hplain, List.dropWhile_append_of_pos hplain]
  cases tail with
  | nil => exact ⟨List.append_nil _, rfl⟩
  | cons t tail =>
    have hmark : ¬(!beginsOffset t) = true := by simp [htail t rfl]
    rw [List.takeWhile_cons, List.dropWhile_cons, if_neg hmark, if_neg hmark]
    exact ⟨List.append_nil _, rfl⟩

/-- A time of day is read back. -/
theorem readTime?_clock (c : Clock) : readTime? c.written = some (c, none) := by
  have hnone : ∀ t ∈ ([] : List Char).head?, beginsOffset t = true := fun _ h => nomatch h
  obtain ⟨htime, hrest⟩ := span_written c hnone
  rw [List.append_nil] at htime hrest
  rw [readTime?, htime, hrest, c.read?_written]
  show (Clock.ofParts? c.hour c.minute c.second c.microsecond).bind _ = _
  rw [c.ofParts?_parts]
  rfl

/-- A time of day with an offset is read back. -/
theorem readTime?_offset (c : Clock) (o : Offset) :
    readTime? (c.written ++ o.written) = some (c, some o.asRead) := by
  obtain ⟨sign, body, reading, hbody, hsign, hreading, hoffset⟩ := o.exists_written
  have hmark : ∀ t ∈ (sign :: body).head?, beginsOffset t = true := by
    rintro t ⟨⟩
    rcases hsign with rfl | rfl <;> rfl
  obtain ⟨htime, hrest⟩ := span_written c hmark
  rw [hbody, readTime?, htime, hrest, c.read?_written]
  show (Clock.ofParts? c.hour c.minute c.second c.microsecond).bind _ = _
  rw [c.ofParts?_parts]
  have hread :
      ((Reading.read? body).bind fun reading => (reading.offset? (sign = '-')).bind fun offset =>
      some (c, some offset)) = some (c, some o.asRead) := by
    rw [hreading, Option.bind_some, hoffset, Option.bind_some]
  -- neither sign is the letter of an offset of zero
  rcases hsign with rfl | rfl <;> exact hread

namespace Moment

/-- A moment as it is read from its text. -/
def asRead (m : Moment) : Moment := { m with offset := m.offset.map Offset.asRead }

/-- A moment whose offset, if it has one, is zero or at least a second. -/
def KeepsOffset (m : Moment) : Prop := ∀ o ∈ m.offset, o.micros = 0 ∨ 1000000 ≤ o.micros.natAbs

instance (m : Moment) : Decidable m.KeepsOffset := inferInstanceAs (Decidable (∀ o ∈ m.offset, _))

/-- Such a moment is read as it is. -/
theorem KeepsOffset.asRead_eq {m : Moment} (h : m.KeepsOffset) : m.asRead = m := by
  obtain ⟨date, clock, offset⟩ := m
  cases offset with
  | none => rfl
  | some o =>
    have hkept : o.asRead = o := by
      obtain ⟨micros, hrange⟩ := o
      unfold Offset.asRead
      split
      · next hsmall =>
        rcases h _ rfl with hzero | hlarge
        · obtain rfl : micros = 0 := hzero
          rfl
        · exact absurd hlarge (Nat.not_le.2 hsmall)
      · rfl
    exact congrArg (fun o => Moment.mk date clock (some o)) hkept

/-- Behind a written date stands nothing, or a separator and a time. -/
theorem read?_date_append (d : Date) (rest : List Char) :
    read? (d.written ++ rest) =
      match rest with
      | [] => some (ofDate d)
      | _ :: time => (readTime? time).map fun p => ⟨d, p.1, p.2⟩ := by
  have hlength := d.length_written
  have hdate : Date.read? ((d.written ++ rest).take 10) = some d := by
    rw [List.take_left' hlength, d.read?_written]
  have hrest : (d.written ++ rest).drop 10 = rest := List.drop_left' hlength
  simp only [read?, d.dateLength?_written, hdate, hrest, bind, Option.bind_some]
  cases rest with
  | nil => rfl
  | cons separator time => exact Option.map_eq_bind.symm

/-- A date alone is read as its midnight. -/
theorem read?_date (d : Date) : read? d.written = some (ofDate d) := by
  have hread := read?_date_append d []
  rwa [List.append_nil] at hread

/-- A moment reads back from its ISO form, whatever character stands between its date and its
time. -/
theorem read?_written (m : Moment) (separator : Char) :
    read? (m.written separator) = some m.asRead := by
  obtain ⟨date, clock, offset⟩ := m
  cases offset with
  | none =>
    have hwritten : (Moment.mk date clock none).written separator =
        date.written ++ separator :: clock.written := by
      simp only [written, List.append_nil]
    rw [hwritten, read?_date_append]
    show (readTime? clock.written).map _ = _
    rw [readTime?_clock]
    rfl
  | some o =>
    have hwritten : (Moment.mk date clock (some o)).written separator =
        date.written ++ separator :: (clock.written ++ o.written) := by
      simp only [written, List.append_assoc, List.cons_append]
    rw [hwritten, read?_date_append]
    show (readTime? (clock.written ++ o.written)).map _ = _
    rw [readTime?_offset]
    rfl

/-- The marks of a written moment. -/
def marks : List Char := ['+', '-', ':', '.', 'T']

theorem digital_written (m : Moment) : Digital marks (m.written 'T') := by
  have hdate := m.date.digital_written.mono (show ['-'] ⊆ marks by decide)
  have hclock := m.clock.digital_written.mono (show [':', '.'] ⊆ marks by decide)
  unfold written
  refine .append (.append hdate (.cons (by decide) hclock)) ?_
  cases m.offset with
  | none => exact .nil
  | some o => exact o.digital_written.mono (show _ ⊆ marks by decide)

end Moment

end DocumentStore.Calendar
