import DocumentStore.Proofs.Fallible
import DocumentStore.Proofs.Json.Numbers
import DocumentStore.Proofs.Query.Timestamps
import DocumentStore.Query.Options

/-!
# Counts in query options

The limit, the skip and the page of a query are integers, written as integers or as texts. A text is
screened before it is read, and the screen accepts more than the reader does
(`QueryOptions.looksNumeric_iff`, `QueryOptions.integer_of_screened`): any number of minus signs,
digits without a place in decimal numerals, blanks that are no white space, and numerals of any
length. So options are read with counts that are absent or not negative, or refused as a query, or
they hold a text on which the two differ (`options_read_or_refused`).
-/

set_option autoImplicit false

namespace DocumentStore

open Fallible
open Text (decimalDigit? isBlank isDigit isSpace strip)
open Text.Numeral (digitRun maxDigits readInt takeSign)

/-! ## Characters of numerals -/

/-- A decimal digit of any script. -/
def isDecimal (c : Char) : Bool := (decimalDigit? c).isSome

theorem isDigit_of_isDecimal {c : Char} (h : isDecimal c = true) : isDigit c = true := by
  rw [isDecimal] at h
  rw [isDigit, h, Bool.true_or]

/-- A blank lies in a range of white space or among the information separators. -/
theorem exists_range_of_isBlank {c : Char} (h : isBlank c = true) :
    ∃ r ∈ (0x1C, 0x1F) :: Text.spaceRanges, r.1 ≤ c.toNat ∧ c.toNat ≤ r.2 := by
  simp only [isBlank, isSpace, Text.Ranges.contains, Bool.or_eq_true, List.any_eq_true,
    Bool.and_eq_true, decide_eq_true_eq] at h
  rcases h with ⟨r, hr, hrange⟩ | hrange
  · exact ⟨r, List.mem_cons_of_mem _ hr, hrange⟩
  · exact ⟨_, List.mem_cons_self, hrange⟩

/-- A digit lies in a run of ten decimal digits or in a range of other digits. -/
theorem exists_range_of_isDigit {c : Char} (h : isDigit c = true) :
    (∃ z ∈ Text.decimalZeros, z ≤ c.toNat ∧ c.toNat < z + 10) ∨
      ∃ r ∈ Text.otherDigitRanges, r.1 ≤ c.toNat ∧ c.toNat ≤ r.2 := by
  rw [isDigit, Bool.or_eq_true] at h
  rcases h with h | h
  · rw [decimalDigit?, Option.isSome_map, List.find?_isSome] at h
    obtain ⟨z, hz, hrange⟩ := h
    exact .inl ⟨z, hz, by simpa using hrange⟩
  · rw [Text.Ranges.contains, List.any_eq_true] at h
    obtain ⟨r, hr, hrange⟩ := h
    exact .inr ⟨r, hr, by simpa using hrange⟩

/-- No digit is a blank. -/
theorem not_isBlank_of_isDigit {c : Char} (h : isDigit c = true) : isBlank c = false := by
  have hruns : ∀ z ∈ Text.decimalZeros, ∀ r ∈ (0x1C, 0x1F) :: Text.spaceRanges,
      r.2 < z ∨ z + 10 ≤ r.1 := by decide
  have hranges : ∀ d ∈ Text.otherDigitRanges, ∀ r ∈ (0x1C, 0x1F) :: Text.spaceRanges,
      r.2 < d.1 ∨ d.2 < r.1 := by decide
  rw [Bool.eq_false_iff]
  intro hblank
  obtain ⟨r, hr, hlow, hhigh⟩ := exists_range_of_isBlank hblank
  rcases exists_range_of_isDigit h with ⟨z, hz, hlow', hhigh'⟩ | ⟨d, hd, hlow', hhigh'⟩
  · have hapart := hruns z hz r hr
    omega
  · have hapart := hranges d hd r hr
    omega

theorem not_isSpace_of_isDecimal {c : Char} (h : isDecimal c = true) : isSpace c = false := by
  have hblank := not_isBlank_of_isDigit (isDigit_of_isDecimal h)
  rw [isBlank, Bool.or_eq_false_iff] at hblank
  exact hblank.1

/-! ## Texts of signs and digits -/

/-- A text of minus signs and digits with blanks around it, for a class of blanks and a class of
digits, with the number of its signs and of its digits. -/
inductive Spelled (blank digit : Char → Bool) : Nat → Nat → List Char → Prop
  | mk (before after digits : List Char) (signs : Nat) (hbefore : ∀ c ∈ before, blank c = true)
      (hafter : ∀ c ∈ after, blank c = true) (hdigits : ∀ c ∈ digits, digit c = true)
      (hne : digits ≠ []) :
      Spelled blank digit signs digits.length
        (before ++ (List.replicate signs '-' ++ digits) ++ after)

/-- A text is its inner part with what is stripped at its two ends. -/
theorem exists_around_strip (p : Char → Bool) (cs : List Char) :
    ∃ before after, cs = before ++ strip p cs ++ after ∧ (∀ c ∈ before, p c = true) ∧
      ∀ c ∈ after, p c = true := by
  refine ⟨cs.takeWhile p, ((cs.dropWhile p).reverse.takeWhile p).reverse, ?_, ?_, ?_⟩
  · rw [strip, List.append_assoc, ← List.reverse_append, List.takeWhile_append_dropWhile,
      List.reverse_reverse, List.takeWhile_append_dropWhile]
  · intro c hc
    exact List.mem_takeWhile_imp hc
  · intro c hc
    exact List.mem_takeWhile_imp (List.mem_reverse.1 hc)

/-- The minus signs before a text are all the same. -/
theorem takeWhile_minus (cs : List Char) :
    cs.takeWhile (· = '-') = List.replicate (cs.takeWhile (· = '-')).length '-' := by
  rw [List.eq_replicate_iff]
  refine ⟨rfl, ?_⟩
  intro c hc
  simpa using List.mem_takeWhile_imp hc

namespace QueryOptions

/-- The screen takes for a numeral what has blanks, minus signs and digits of any kind in this
order. -/
theorem looksNumeric_iff {s : String} :
    looksNumeric s = true ↔ ∃ signs length, Spelled isBlank isDigit signs length s.toList := by
  rw [looksNumeric, Bool.and_eq_true, Bool.not_eq_true', List.isEmpty_eq_false_iff]
  constructor
  · rintro ⟨hne, hdigits⟩
    obtain ⟨before, after, hsplit, hbefore, hafter⟩ := exists_around_strip isBlank s.toList
    rw [← List.takeWhile_append_dropWhile (p := (· = '-')) (l := strip isBlank s.toList),
      takeWhile_minus] at hsplit
    rw [hsplit]
    exact ⟨_, _, .mk before after _ _ hbefore hafter (List.all_eq_true.1 hdigits) hne⟩
  · rintro ⟨signs, length, hspelled⟩
    generalize s.toList = cs at hspelled
    cases hspelled with
    | mk before after digits signs hbefore hafter hdigits hne =>
      have hinner : ∀ c ∈ List.replicate signs '-' ++ digits, isBlank c = false := by
        intro c hc
        rcases List.mem_append.1 hc with hsign | hdigit
        · rw [List.eq_of_mem_replicate hsign]
          decide
        · exact not_isBlank_of_isDigit (hdigits c hdigit)
      have hrest : digits.dropWhile (· = '-') = digits := by
        obtain ⟨c, others, rfl⟩ := List.exists_cons_of_ne_nil hne
        refine List.dropWhile_cons_of_neg ?_
        simp only [decide_eq_true_eq]
        rintro rfl
        exact absurd (hdigits '-' List.mem_cons_self) (by decide)
      rw [strip_around hbefore hinner hafter, List.dropWhile_append_of_pos (by simp), hrest]
      exact ⟨hne, List.all_eq_true.2 hdigits⟩

end QueryOptions

/-! ## Reading numerals -/

/-- Decimal digits are read, one for each character. -/
theorem exists_digitRun {cs : List Char} (hne : cs ≠ []) (h : ∀ c ∈ cs, isDecimal c = true) :
    ∃ ds, digitRun cs = some ds ∧ ds.length = cs.length := by
  induction cs with
  | nil => exact absurd rfl hne
  | cons c cs ih =>
    obtain ⟨hc, hcs⟩ := List.forall_mem_cons.1 h
    obtain ⟨d, hd⟩ := Option.isSome_iff_exists.1 hc
    cases cs with
    | nil =>
      refine ⟨[d], ?_, rfl⟩
      rw [digitRun, hd]
      rfl
    | cons c' cs =>
      obtain ⟨ds, hds, hlength⟩ := ih (List.cons_ne_nil c' cs) hcs
      have hunderscore : c' ≠ '_' := by
        rintro rfl
        exact absurd (hcs '_' List.mem_cons_self) (by decide)
      refine ⟨d :: ds, ?_, by rw [List.length_cons, List.length_cons, hlength]⟩
      rw [digitRun.eq_4 c (c' :: cs) (List.cons_ne_nil c' cs) fun rest heq =>
        hunderscore (List.cons.inj heq).1, hd, hds]
      rfl

/-- What is read as digits holds nothing but decimal digits and underscores. -/
theorem forall_mem_of_digitRun {cs : List Char} {ds : List Nat} (h : digitRun cs = some ds) :
    cs ≠ [] ∧ ∀ c ∈ cs, isDecimal c = true ∨ c = '_' := by
  have hdecimal : ∀ {c d}, decimalDigit? c = some d → isDecimal c = true := by
    intro c d hd
    rw [isDecimal, hd]
    rfl
  fun_induction digitRun cs generalizing ds with
  | case1 => cases h
  | case2 c =>
    obtain ⟨d, hd, -⟩ := Option.map_eq_some_iff.1 h
    exact ⟨List.cons_ne_nil c [], List.forall_mem_singleton.2 (.inl (hdecimal hd))⟩
  | case3 c rest ih =>
    obtain ⟨d, hd, h⟩ := Option.bind_eq_some_iff.1 h
    obtain ⟨ds, hds, -⟩ := Option.bind_eq_some_iff.1 h
    refine ⟨List.cons_ne_nil _ _, ?_⟩
    rw [List.forall_mem_cons, List.forall_mem_cons]
    exact ⟨.inl (hdecimal hd), .inr rfl, (ih hds).2⟩
  | case4 c rest hne hunderscore ih =>
    obtain ⟨d, hd, h⟩ := Option.bind_eq_some_iff.1 h
    obtain ⟨ds, hds, -⟩ := Option.bind_eq_some_iff.1 h
    refine ⟨List.cons_ne_nil _ _, ?_⟩
    rw [List.forall_mem_cons]
    exact ⟨.inl (hdecimal hd), (ih hds).2⟩

/-- At most one minus sign is taken off a text, or else a plus sign. -/
theorem takeSign_eq (cs : List Char) :
    (∃ signs ≤ 1, cs = List.replicate signs '-' ++ (takeSign cs).2) ∨ '+' ∈ cs := by
  cases cs with
  | nil => exact .inl ⟨0, Nat.zero_le 1, rfl⟩
  | cons c cs =>
    by_cases hminus : c = '-'
    · subst hminus
      exact .inl ⟨1, Nat.le_refl 1, rfl⟩
    by_cases hplus : c = '+'
    · subst hplus
      exact .inr List.mem_cons_self
    · refine .inl ⟨0, Nat.zero_le 1, ?_⟩
      rw [Json.takeSign_of_not_sign hminus hplus]
      rfl

/-- A numeral whose digits are read is an integer, or too long to be one. -/
theorem readInt_of_digitRun {cs : List Char} {ds : List Nat}
    (h : digitRun (takeSign (strip isSpace cs)).2 = some ds) :
    readInt cs = if ds.length > maxDigits then .error (.tooLong ds.length)
      else .ok (Text.Numeral.withSign (takeSign (strip isSpace cs)).1 (Text.Numeral.value ds)) := by
  rw [readInt]
  dsimp only
  rw [h]

/-- A numeral whose digits are not read is malformed. -/
theorem readInt_of_digitRun_eq_none {cs : List Char}
    (h : digitRun (takeSign (strip isSpace cs)).2 = none) :
    readInt cs = .error .malformed := by
  rw [readInt]
  dsimp only
  rw [h]

/-- An integer is read from digits behind a sign, when they are not too many. -/
theorem readInt_eq_ok {cs : List Char} {n : Int} (h : readInt cs = .ok n) :
    ∃ ds, digitRun (takeSign (strip isSpace cs)).2 = some ds ∧ ds.length ≤ maxDigits := by
  cases hrun : digitRun (takeSign (strip isSpace cs)).2 with
  | none =>
    rw [readInt_of_digitRun_eq_none hrun] at h
    cases h
  | some ds =>
    rw [readInt_of_digitRun hrun] at h
    split at h
    · cases h
    · next hshort => exact ⟨ds, rfl, Nat.le_of_not_lt hshort⟩

/-- A numeral is refused for its length when it has too many digits. -/
theorem lt_of_readInt_eq_tooLong {cs : List Char} {d : Nat} (h : readInt cs = .error (.tooLong d)) :
    maxDigits < d := by
  cases hrun : digitRun (takeSign (strip isSpace cs)).2 with
  | none =>
    rw [readInt_of_digitRun_eq_none hrun] at h
    cases h
  | some ds =>
    rw [readInt_of_digitRun hrun] at h
    split at h
    · next hlong =>
      cases h
      exact hlong
    · cases h

/-- A text that is read as an integer: white space around at most one minus sign and decimal digits,
not too many of them to be read. -/
def IsNumeral (s : String) : Prop :=
  ∃ signs length, signs ≤ 1 ∧ length ≤ maxDigits ∧ Spelled isSpace isDecimal signs length s.toList

/-- A numeral is read. -/
theorem IsNumeral.exists_readInt {s : String} (h : IsNumeral s) :
    ∃ n, readInt s.toList = .ok n := by
  obtain ⟨signs, length, hsigns, hlength, hspelled⟩ := h
  generalize s.toList = cs at hspelled
  cases hspelled with
  | mk before after digits signs hbefore hafter hdigits hne =>
    have hinner : ∀ c ∈ List.replicate signs '-' ++ digits, isSpace c = false := by
      intro c hc
      rcases List.mem_append.1 hc with hsign | hdigit
      · rw [List.eq_of_mem_replicate hsign]
        decide
      · exact not_isSpace_of_isDecimal (hdigits c hdigit)
    have htake : (takeSign (List.replicate signs '-' ++ digits)).2 = digits := by
      obtain rfl | rfl : signs = 0 ∨ signs = 1 := by omega
      · obtain ⟨c, others, rfl⟩ := List.exists_cons_of_ne_nil hne
        have hc := hdigits c List.mem_cons_self
        have hminus : c ≠ '-' := by
          rintro rfl
          exact absurd hc (by decide)
        have hplus : c ≠ '+' := by
          rintro rfl
          exact absurd hc (by decide)
        rw [List.replicate_zero, List.nil_append, Json.takeSign_of_not_sign hminus hplus]
      · rfl
    obtain ⟨ds, hds, hdigitCount⟩ := exists_digitRun hne hdigits
    have hrun :
        digitRun
          (takeSign (strip isSpace (before ++ (List.replicate signs '-' ++ digits) ++ after))).2 =
        some ds := by rw [strip_around hbefore hinner hafter, htake, hds]
    exact ⟨_, (readInt_of_digitRun hrun).trans (if_neg (by omega))⟩

/-- What is read without a plus sign or an underscore is a numeral. -/
theorem isNumeral_of_readInt {s : String} {n : Int} (h : readInt s.toList = .ok n)
    (hplus : '+' ∉ s.toList) (hunderscore : '_' ∉ s.toList) : IsNumeral s := by
  obtain ⟨ds, hrun, hlength⟩ := readInt_eq_ok h
  obtain ⟨before, after, hsplit, hbefore, hafter⟩ := exists_around_strip isSpace s.toList
  have hinner : ∀ c ∈ strip isSpace s.toList, c ∈ s.toList := by
    intro c hc
    rw [hsplit]
    exact List.mem_append_left _ (List.mem_append_right _ hc)
  rcases takeSign_eq (strip isSpace s.toList) with ⟨signs, hsigns, htake⟩ | hsign
  · generalize (takeSign (strip isSpace s.toList)).2 = digits at hrun htake
    rw [htake] at hsplit hinner
    obtain ⟨hne, hmem⟩ := forall_mem_of_digitRun hrun
    have hdigits : ∀ c ∈ digits, isDecimal c = true := by
      intro c hc
      refine (hmem c hc).resolve_right ?_
      rintro rfl
      exact hunderscore (hinner '_' (List.mem_append_right _ hc))
    obtain ⟨ds', hrun', hlength'⟩ := exists_digitRun hne hdigits
    obtain rfl : ds = ds' := Option.some.inj (hrun.symm.trans hrun')
    refine ⟨signs, digits.length, hsigns, by omega, ?_⟩
    rw [hsplit]
    exact .mk before after digits signs hbefore hafter hdigits hne
  · exact absurd (hinner '+' hsign) hplus

/-! ## Counts -/

namespace QueryOptions

/-- A text that passes the screen holds blanks, minus signs and digits only. -/
theorem not_mem_of_looksNumeric {s : String} (h : looksNumeric s = true) {c : Char}
    (hblank : isBlank c = false) (hminus : c ≠ '-') (hdigit : isDigit c = false) :
    c ∉ s.toList := by
  obtain ⟨signs, length, hspelled⟩ := looksNumeric_iff.1 h
  generalize s.toList = cs at hspelled
  cases hspelled with
  | mk before after digits signs hbefore hafter hdigits hne =>
    intro hc
    rcases List.mem_append.1 hc with hc | hc
    · rcases List.mem_append.1 hc with hc | hc
      · exact Bool.false_ne_true (hblank.symm.trans (hbefore c hc))
      · rcases List.mem_append.1 hc with hc | hc
        · exact hminus (List.eq_of_mem_replicate hc)
        · exact Bool.false_ne_true (hdigit.symm.trans (hdigits c hc))
    · exact Bool.false_ne_true (hblank.symm.trans (hafter c hc))

/-- Why a text that is no numeral is not read. -/
inductive Unread (s : String) : ValueProblem → Prop
  | malformed : Unread s (.numeral (.text s))
  | tooLong (digits : Nat) (h : maxDigits < digits) : Unread s (.numeralTooLong digits)

/-- A text that passes the screen is read when it is a numeral, and fails to be read when it is
none. -/
theorem integer_of_screened {s : String} (h : looksNumeric s = true) :
    (IsNumeral s ∧ ∃ n, Value.integer (.text s) = .ok n) ∨
      (¬IsNumeral s ∧ ∃ problem, Unread s problem ∧
        Value.integer (.text s) = .error (.value problem)) := by
  have hinteger : Value.integer (.text s) = Value.numeral (.text s) s.toList := rfl
  rw [hinteger, Value.numeral]
  cases hread : readInt s.toList with
  | ok n =>
    refine .inl ⟨isNumeral_of_readInt hread ?_ ?_, n, rfl⟩
    · exact not_mem_of_looksNumeric h (by decide) (by decide) (by decide)
    · exact not_mem_of_looksNumeric h (by decide) (by decide) (by decide)
  | error problem =>
    refine .inr ⟨?_, ?_⟩
    · intro hnumeral
      obtain ⟨n, hn⟩ := hnumeral.exists_readInt
      cases hread.symm.trans hn
    · cases problem with
      | malformed => exact ⟨_, .malformed, rfl⟩
      | tooLong d => exact ⟨_, .tooLong d (lt_of_readInt_eq_tooLong hread), rfl⟩

/-- A count of options: absent, or an integer that is not negative. -/
inductive IsCount : Value → Prop
  | absent : IsCount .null
  | given (n : Int) (h : 0 ≤ n) : IsCount (.int n)

/-- A count that is there is an integer. -/
theorem IsCount.exists_int {v : Value} (h : IsCount v) (hpresent : v ≠ .null) :
    ∃ n : Int, v = .int n := by
  cases h with
  | absent => exact absurd rfl hpresent
  | given n hn => exact ⟨n, rfl⟩

theorem isCount_keepNonNegative (n : Int) : IsCount (keepNonNegative n) := by
  rw [keepNonNegative]
  split
  · next h => exact .given n h
  · exact .absent

/-- The options that hold counts. -/
def countNames : List String := ["limit", "skip", "page"]

/-- What an option comes to as a count: a count, a refusal, or a failure to read a text that passes
the screen and is no numeral. -/
theorem countOf_cases (name : String) (v : Value) :
    (∃ c, countOf name v = .ok c ∧ IsCount c ∧ ∀ s, v = .text s → IsNumeral s) ∨
      countOf name v = .error (.invalidQuery (.notInteger name)) ∨
      ∃ s problem, v = .text s ∧ looksNumeric s = true ∧ ¬IsNumeral s ∧ Unread s problem ∧
        countOf name v = .error (.value problem) := by
  cases v with
  | null => exact .inl ⟨_, rfl, .absent, fun s hs => (nomatch hs)⟩
  | int n => exact .inl ⟨_, rfl, isCount_keepNonNegative n, fun s hs => (nomatch hs)⟩
  | text s =>
    by_cases hscreen : looksNumeric s = true
    · have hcount : countOf name (.text s) = (Value.integer (.text s)).map keepNonNegative :=
        if_pos hscreen
      rw [hcount]
      rcases integer_of_screened hscreen with ⟨hnumeral, n, hn⟩ | ⟨hnot, problem, hunread, herror⟩
      · rw [hn]
        refine .inl ⟨_, rfl, isCount_keepNonNegative n, ?_⟩
        rintro _ ⟨⟩
        exact hnumeral
      · rw [herror]
        exact .inr (.inr ⟨s, problem, rfl, hscreen, hnot, hunread, rfl⟩)
    · exact .inr (.inl (if_neg hscreen))
  | _ => exact .inr (.inl rfl)

/-- A sort option is read or refused as a query. -/
theorem sortOf_eq_error {v : Value} {f : Fault} (h : sortOf v = .error f) :
    f = .invalidQuery .sortNotMapping := by
  unfold sortOf at h
  split at h <;> cases h
  rfl

/-- A projection is read or refused as a query. -/
theorem fieldsOf_eq_error {v : Value} {f : Fault} (h : fieldsOf v = .error f) :
    f = .invalidQuery .fieldsNotNames := by
  unfold fieldsOf at h
  split at h
  · split at h <;> cases h
    rfl
  · cases h

/-- Options are read when each of their parts is. -/
theorem ofEntries_eq_ok {es : Entries} {o : QueryOptions} :
    ofEntries es = .ok o ↔
      sortOf (Entries.getD es "sort" .null) = .ok o.sort ∧
        fieldsOf (Entries.getD es "fields" .null) = .ok o.fields ∧
        countOf "limit" (Entries.getD es "limit" .null) = .ok o.limit ∧
        countOf "skip" (Entries.getD es "skip" .null) = .ok o.skip ∧
        countOf "page" (Entries.getD es "page" .null) = .ok o.page := by
  simp only [ofEntries, bind_eq_ok]
  constructor
  · rintro ⟨sort, hsort, fields, hfields, limit, hlimit, skip, hskip, page, hpage, ⟨⟩⟩
    exact ⟨hsort, hfields, hlimit, hskip, hpage⟩
  · rintro ⟨hsort, hfields, hlimit, hskip, hpage⟩
    exact ⟨_, hsort, _, hfields, _, hlimit, _, hskip, _, hpage, rfl⟩

/-- Options are not read because one of their parts is not. -/
theorem ofEntries_eq_error {es : Entries} {f : Fault} (h : ofEntries es = .error f) :
    sortOf (Entries.getD es "sort" .null) = .error f ∨
      fieldsOf (Entries.getD es "fields" .null) = .error f ∨
      ∃ name ∈ countNames, countOf name (Entries.getD es name .null) = .error f := by
  simp only [ofEntries, bind_eq_error] at h
  rcases h with h | ⟨_, -, h | ⟨_, -, h | ⟨_, -, h | ⟨_, -, h | ⟨_, -, h⟩⟩⟩⟩⟩
  · exact .inl h
  · exact .inr (.inl h)
  · exact .inr (.inr ⟨"limit", by decide, h⟩)
  · exact .inr (.inr ⟨"skip", by decide, h⟩)
  · exact .inr (.inr ⟨"page", by decide, h⟩)
  · cases h

/-- Options are refused as a query, or a count among them is a text that passes the screen and is
not read. -/
theorem ofEntries_error_cases {es : Entries} {f : Fault} (h : ofEntries es = .error f) :
    (∃ problem, f = .invalidQuery problem) ∨
      ∃ name ∈ countNames, ∃ s problem, Entries.getD es name .null = .text s ∧
        looksNumeric s = true ∧ ¬IsNumeral s ∧ Unread s problem ∧ f = .value problem := by
  rcases ofEntries_eq_error h with h | h | ⟨name, hname, h⟩
  · exact .inl ⟨_, sortOf_eq_error h⟩
  · exact .inl ⟨_, fieldsOf_eq_error h⟩
  · rcases countOf_cases name (Entries.getD es name .null) with
      ⟨_, hok, -⟩ | hrefused | ⟨s, problem, hs, hscreen, hnot, hunread, herror⟩
    · cases h.symm.trans hok
    · cases h.symm.trans hrefused
      exact .inl ⟨_, rfl⟩
    · cases h.symm.trans herror
      exact .inr ⟨name, hname, s, problem, hs, hscreen, hnot, hunread, rfl⟩

/-- A count that is read is absent or not negative, and comes from a numeral when it comes from a
text. -/
theorem isCount_of_countOf {name : String} {v c : Value} (h : countOf name v = .ok c) :
    IsCount c ∧ ∀ s, v = .text s → IsNumeral s := by
  rcases countOf_cases name v with ⟨c', hok, hcount, hnumeral⟩ | hrefused | ⟨_, _, -, -,
    -, -, herror⟩
  · cases h.symm.trans hok
    exact ⟨hcount, hnumeral⟩
  · cases h.symm.trans hrefused
  · cases h.symm.trans herror

/-- Options that are read from a value have counts. -/
theorem isCount_of_read {options : Value} {o : QueryOptions} (h : of (.value options) = .ok o) :
    IsCount o.limit ∧ IsCount o.skip ∧ IsCount o.page := by
  cases options with
  | null =>
    cases h
    exact ⟨.absent, .absent, .absent⟩
  | map es =>
    obtain ⟨-, -, hlimit, hskip, hpage⟩ := ofEntries_eq_ok.1 h
    exact ⟨(isCount_of_countOf hlimit).1, (isCount_of_countOf hskip).1,
      (isCount_of_countOf hpage).1⟩
  | _ => cases h

end QueryOptions

open QueryOptions in
/-- Options given as a mapping are read with counts that are absent or not negative, or refused as a
query, or one of their counts is a text that passes the screen and cannot be read: one that is no
numeral. They are never read when a count among them is a text and no numeral. -/
theorem options_read_or_refused (es : Entries) :
    (∃ o, QueryOptions.of (.value (.map es)) = .ok o ∧
        IsCount o.limit ∧ IsCount o.skip ∧ IsCount o.page ∧
        ∀ name ∈ countNames, ∀ s, Entries.getD es name .null = .text s → IsNumeral s) ∨
      (∃ problem, QueryOptions.of (.value (.map es)) = .error (.invalidQuery problem)) ∨
      ∃ name ∈ countNames, ∃ s problem, Entries.getD es name .null = .text s ∧
        looksNumeric s = true ∧ ¬IsNumeral s ∧ Unread s problem ∧
        QueryOptions.of (.value (.map es)) = .error (.value problem) := by
  have hof : QueryOptions.of (.value (.map es)) = ofEntries es := rfl
  rw [hof]
  cases hread : ofEntries es with
  | ok o =>
    obtain ⟨-, -, hlimit, hskip, hpage⟩ := ofEntries_eq_ok.1 hread
    obtain ⟨hlimit, hlimitText⟩ := isCount_of_countOf hlimit
    obtain ⟨hskip, hskipText⟩ := isCount_of_countOf hskip
    obtain ⟨hpage, hpageText⟩ := isCount_of_countOf hpage
    refine .inl ⟨o, rfl, hlimit, hskip, hpage, ?_⟩
    rw [countNames, List.forall_mem_cons, List.forall_mem_cons, List.forall_mem_singleton]
    exact ⟨hlimitText, hskipText, hpageText⟩
  | error f =>
    rcases ofEntries_error_cases hread with
      ⟨problem, rfl⟩ | ⟨name, hname, s, problem, hs, hscreen, hnot, hunread, rfl⟩
    · exact .inr (.inl ⟨problem, rfl⟩)
    · exact .inr (.inr ⟨name, hname, s, problem, hs, hscreen, hnot, hunread, rfl⟩)

/-- A superscript is a digit to the screen and none to the reader: as a limit it is neither read nor
refused. -/
theorem superscript_limit_unread :
    QueryOptions.of (.value (.map [(.text "limit", .text "²")])) =
        .error (.value (.numeral (.text "²"))) ∧
      Fault.category (.value (.numeral (.text "²"))) ≠ .refusal :=
  ⟨by with_unfolding_all rfl, by decide⟩

end DocumentStore
