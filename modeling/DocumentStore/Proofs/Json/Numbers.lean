import DocumentStore.Json.Reader
import DocumentStore.Number.Shortest
import DocumentStore.Proofs.TextKeys
import Mathlib.Data.List.Infix

/-!
# JSON numbers

The readers of a number take no more and no less of a text when something else stands behind it, as
long as that is a comma or a closing bracket (`Json.Local`). So an integer reads back from its
numeral (`Json.ReadsNumber.ofInt`), and a float from its text wherever that text stands, once it
does so alone (`Json.ReadsNumber.ofFloat`).
-/

set_option autoImplicit false

namespace DocumentStore.Json

open Text (asciiDigit?)

open Text.Numeral (maxDigits ofNat takeSign withSign)

variable {α β : Type}

/-! ## Local readers -/

/-- What may stand behind a value inside another one. -/
def Ends : List Char → Prop
  | [] => True
  | c :: _ => c = ',' ∨ c = ']' ∨ c = '\x7d'

theorem Ends.not_digit {c : Char} {rest : List Char} (h : Ends (c :: rest)) :
    asciiDigit? c = none := by
  rcases h with rfl | rfl | rfl <;> rfl

/-- A reader that leaves an end of its text and reads the same when more stands behind. -/
def Local (read : List Char → Option (α × List Char)) : Prop :=
  ∀ cs a r, read cs = some (a, r) →
    r <:+ cs ∧ ∀ rest, Ends rest → read (cs ++ rest) = some (a, r ++ rest)

/-- The same of a reader that always gives something. -/
def LocalSplit (read : List Char → α × List Char) : Prop :=
  ∀ cs a r, read cs = (a, r) → r <:+ cs ∧ ∀ rest, Ends rest → read (cs ++ rest) = (a, r ++ rest)

theorem LocalSplit.bind {f : List Char → α × List Char}
    {g : α → List Char → Option (β × List Char)} (hf : LocalSplit f) (hg : ∀ a, Local (g a)) :
    Local fun cs => g (f cs).1 (f cs).2 := by
  intro cs b r h
  obtain ⟨hmid, hfirst⟩ := hf cs _ _ rfl
  obtain ⟨hr, hsecond⟩ := hg (f cs).1 (f cs).2 b r h
  refine ⟨hr.trans hmid, fun rest hrest => ?_⟩
  dsimp only
  rw [hfirst rest hrest]
  exact hsecond rest hrest

/-- A reader of something that may be missing takes nothing unless the text begins with a mark,
which no end does. -/
theorem LocalSplit.optional {f : List Char → α × List Char} (a : α) (marks : List Char)
    (hends : ',' ∉ marks ∧ ']' ∉ marks ∧ '\x7d' ∉ marks) (hnil : f [] = (a, []))
    (hother : ∀ c ∉ marks, ∀ cs, f (c :: cs) = (a, c :: cs))
    (hmark : ∀ c ∈ marks, ∀ cs b r, f (c :: cs) = (b, r) →
      r <:+ c :: cs ∧ ∀ rest, Ends rest → f (c :: cs ++ rest) = (b, r ++ rest)) :
    LocalSplit f := by
  intro cs b r h
  cases cs with
  | nil =>
    rw [hnil] at h
    cases h
    refine ⟨List.suffix_refl [], fun rest hrest => ?_⟩
    -- now the end is what the reader sees first, and it is no mark
    cases rest with
    | nil => exact hnil
    | cons c rest =>
      refine hother c ?_ rest
      rcases hrest with rfl | rfl | rfl
      · exact hends.1
      · exact hends.2.1
      · exact hends.2.2
  | cons c cs =>
    by_cases hc : c ∈ marks
    · exact hmark c hc cs b r h
    · rw [hother c hc] at h
      cases h
      exact ⟨List.suffix_refl _, fun rest _ => hother c hc (cs ++ rest)⟩

/-- Local readers one after the other are local. -/
theorem Local.bind {f : List Char → Option (α × List Char)}
    {g : α → List Char → Option (β × List Char)} (hf : Local f) (hg : ∀ a, Local (g a)) :
    Local fun cs => (f cs).bind fun p => g p.1 p.2 := by
  intro cs b r h
  obtain ⟨⟨a, mid⟩, hfirst, hsecond⟩ := Option.bind_eq_some_iff.1 h
  obtain ⟨hmid, hfirst⟩ := hf cs a mid hfirst
  obtain ⟨hr, hsecond⟩ := hg a mid b r hsecond
  refine ⟨hr.trans hmid, fun rest hrest => ?_⟩
  exact Option.bind_eq_some_iff.2 ⟨(a, mid ++ rest), hfirst rest hrest, hsecond rest hrest⟩

/-- A result that is given, or not, whatever the text is. -/
theorem Local.const (a? : Option α) : Local fun cs => a?.map fun a => (a, cs) := by
  intro cs a r h
  obtain ⟨b, rfl, hb⟩ := Option.map_eq_some_iff.1 h
  cases hb
  exact ⟨List.suffix_refl cs, fun rest _ => rfl⟩

/-! ## The readers of a number -/

theorem local_spanDigits : LocalSplit spanDigits := by
  intro cs
  induction cs with
  | nil =>
    intro ds r h
    cases h
    refine ⟨List.suffix_refl [], fun rest hrest => ?_⟩
    -- digits that end with the text also end before what may stand behind it
    cases rest with
    | nil => rfl
    | cons c rest => simp only [List.nil_append, spanDigits, hrest.not_digit]
  | cons c cs ih =>
    intro ds r h
    cases hc : asciiDigit? c with
    | none =>
      simp only [spanDigits, hc] at h
      cases h
      exact ⟨List.suffix_refl _, fun rest _ => by simp only [List.cons_append, spanDigits, hc]⟩
    | some d =>
      simp only [spanDigits, hc] at h
      cases h
      obtain ⟨hsuffix, hmore⟩ := ih _ _ rfl
      refine ⟨hsuffix.trans (List.suffix_cons c cs), fun rest hrest => ?_⟩
      simp only [List.cons_append, spanDigits, hc, hmore rest hrest]

theorem takeSign_of_not_sign {c : Char} (hminus : c ≠ '-') (hplus : c ≠ '+') (cs : List Char) :
    takeSign (c :: cs) = (false, c :: cs) := by
  unfold takeSign
  split
  · next h => exact absurd (List.cons.inj h).1 hminus
  · next h => exact absurd (List.cons.inj h).1 hplus
  · rfl

theorem local_takeSign : LocalSplit takeSign := by
  refine .optional false ['-', '+'] (by decide) rfl (fun c hc cs => ?_) (fun c hc cs b r h => ?_)
  · simp only [List.mem_cons, List.not_mem_nil, or_false, not_or] at hc
    exact takeSign_of_not_sign hc.1 hc.2 cs
  · simp only [List.mem_cons, List.not_mem_nil, or_false] at hc
    rcases hc with rfl | rfl <;> cases h <;> exact ⟨List.suffix_cons _ _, fun rest _ => rfl⟩

theorem local_integral? : Local integral? := by
  intro cs ds r h
  cases cs with
  | nil => cases h
  | cons c cs =>
    -- a zero is read alone, whatever comes next
    by_cases hzero : c = '0'
    · subst hzero
      cases h
      exact ⟨List.suffix_cons _ _, fun rest _ => rfl⟩
    have hdigits (t : List Char) := integral?.eq_2 (c :: t) fun _ ht => hzero (List.cons.inj ht).1
    rw [hdigits] at h
    cases hspan : spanDigits (c :: cs) with
    | mk read left =>
      obtain ⟨hsuffix, hmore⟩ := local_spanDigits _ _ _ hspan
      rw [hspan] at h
      cases read with
      | nil => cases h
      | cons d read =>
        cases h
        refine ⟨hsuffix, fun rest hrest => ?_⟩
        rw [List.cons_append, hdigits, ← List.cons_append, hmore rest hrest]

theorem local_fraction : LocalSplit fraction := by
  refine .optional none ['.'] (by decide) rfl (fun c hc cs => ?_) (fun c hc cs places r h => ?_)
  · exact fraction.eq_2 (c :: cs) fun _ ht => hc (List.mem_singleton.2 (List.cons.inj ht).1)
  obtain rfl := List.mem_singleton.1 hc
  cases hspan : spanDigits cs with
  | mk read left =>
    obtain ⟨hsuffix, hmore⟩ := local_spanDigits _ _ _ hspan
    simp only [fraction, hspan] at h
    -- without digits behind it the point is left
    cases read with
    | nil =>
      cases h
      refine ⟨List.suffix_refl _, fun rest hrest => ?_⟩
      simp only [List.cons_append, fraction, hmore rest hrest]
    | cons d read =>
      cases h
      refine ⟨hsuffix.trans (List.suffix_cons _ cs), fun rest hrest => ?_⟩
      simp only [List.cons_append, fraction, hmore rest hrest]

theorem local_exponent : LocalSplit exponent := by
  have hmarks (c : Char) : c ∈ ['e', 'E'] ↔ c = 'e' ∨ c = 'E' := by simp
  refine .optional none ['e', 'E'] (by decide) rfl (fun c hc cs => ?_) (fun c hc cs power r h => ?_)
  · exact if_neg (mt (hmarks c).2 hc)
  have hmark := (hmarks c).1 hc
  cases htake : takeSign cs with
  | mk negative digits =>
    cases hspan : spanDigits digits with
    | mk read left =>
      obtain ⟨hsign, hsigns⟩ := local_takeSign _ _ _ htake
      obtain ⟨hsuffix, hmore⟩ := local_spanDigits _ _ _ hspan
      simp only [exponent, if_pos hmark, htake, hspan] at h
      -- without digits behind it the mark is left
      cases read with
      | nil =>
        cases h
        refine ⟨List.suffix_refl _, fun rest hrest => ?_⟩
        simp only [List.cons_append, exponent, if_pos hmark, hsigns rest hrest, hmore rest hrest]
      | cons d read =>
        cases h
        refine ⟨(hsuffix.trans hsign).trans (List.suffix_cons c cs), fun rest hrest => ?_⟩
        simp only [List.cons_append, exponent, if_pos hmark, hsigns rest hrest, hmore rest hrest]

/-- What digits with or without a fraction and an exponent denote. -/
def numberOf? (limit : Nat) (negative : Bool) (whole : List Nat) (frac : Option (List Nat))
    (exp : Option Int) : Option Value :=
  match frac, exp with
  | none, none =>
    if whole.length ≤ limit then some (.int (withSign negative (Text.Numeral.value whole)))
    else none
  | frac, exp =>
    some (.float (Double.ofDecimal negative (Text.Numeral.value (whole ++ frac.getD []))
      (exp.getD 0 - (frac.getD []).length)))

/-- A number is read the same whatever stands behind it. -/
theorem local_number? (limit : Nat) (negative : Bool) : Local (number? limit negative) := by
  -- the reader as a chain of readers, each of which is local
  have hnumber : number? limit negative = fun cs => (integral? cs).bind fun p =>
      (numberOf? limit negative p.1 (fraction p.2).1 (exponent (fraction p.2).2).1).map
        fun v => (v, (exponent (fraction p.2).2).2) := by
    funext cs
    rw [number?]
    congr 1
    funext p
    dsimp only
    cases (fraction p.2).1 with
    | some places => rfl
    | none =>
      cases (exponent (fraction p.2).2).1 with
      | some power => rfl
      | none =>
        show (if p.1.length ≤ limit then _ else none) = Option.map _ (if _ then _ else _)
        split <;> rfl
  rw [hnumber]
  exact local_integral?.bind fun whole => local_fraction.bind fun frac =>
    local_exponent.bind fun exp => Local.const (numberOf? limit negative whole frac exp)

/-! ## Numbers as values -/

/-- A text that is one number, with a minus sign or without. -/
def ReadsNumber (cs : List Char) (v : Value) : Prop :=
  number? maxDigits false cs = some (v, []) ∨
    ∃ ds, cs = '-' :: ds ∧ number? maxDigits true ds = some (v, [])

theorem digit_of_asciiDigit? {c : Char} (h : asciiDigit? c ≠ none) : '0' ≤ c ∧ c ≤ '9' := by
  unfold asciiDigit? at h
  split at h
  · assumption
  · exact absurd rfl h

/-- A number behind its sign begins with a digit. -/
theorem head_of_number? {limit : Nat} {negative : Bool} {cs : List Char} {p : Value × List Char}
    (h : number? limit negative cs = some p) : ∃ c rest, cs = c :: rest ∧ '0' ≤ c ∧ c ≤ '9' := by
  obtain ⟨⟨ds, rest⟩, hdigits, -⟩ := Option.bind_eq_some_iff.1 h
  cases cs with
  | nil => cases hdigits
  | cons c cs =>
    refine ⟨c, cs, rfl, ?_⟩
    by_cases hzero : c = '0'
    · subst hzero
      decide
    -- no digits are read from a text that does not begin with one
    refine digit_of_asciiDigit? fun hc => ?_
    rw [integral?.eq_2 (c :: cs) fun _ ht => hzero (List.cons.inj ht).1] at hdigits
    simp only [spanDigits, hc] at hdigits
    cases hdigits

/-- The characters with which something other than a digit begins. -/
def otherMarks : List Char :=
  ['"', '-', 'n', 't', 'f', 'N', 'I', '[', ']', '\x7b', '\x7d', ' ', '\t', '\n', '\r']

theorem cons_ne_of_digit {c d : Char} (hlow : '0' ≤ c) (hhigh : c ≤ '9') (hd : d ∈ otherMarks)
    (cs ds : List Char) : c :: cs ≠ d :: ds := by
  have hall : ∀ d ∈ otherMarks, ¬('0' ≤ d ∧ d ≤ '9') := by simp [otherMarks]
  intro h
  obtain rfl := (List.cons.inj h).1
  exact hall c hd ⟨hlow, hhigh⟩

theorem scalar?_of_number? {limit : Nat} {cs : List Char} {p : Value × List Char}
    (h : number? limit false cs = some p) : scalar? limit cs = some p := by
  obtain ⟨c, rest, rfl, hlow, hhigh⟩ := head_of_number? h
  -- every other case begins with one of the other marks
  have hne (d : Char) (hd : d ∈ otherMarks) (ds : List Char) :=
    cons_ne_of_digit hlow hhigh hd rest ds
  rw [scalar?.eq_9 limit (c :: rest) (hne '"' (by decide))
    (fun ds => hne '-' (by decide) ('I' :: ds))
    (hne '-' (by decide)) (hne 'n' (by decide)) (hne 't' (by decide)) (hne 'f' (by decide))
    (hne 'N' (by decide)) (hne 'I' (by decide)), h]

theorem scalar?_of_negative {limit : Nat} {cs : List Char} {p : Value × List Char}
    (h : number? limit true cs = some p) : scalar? limit ('-' :: cs) = some p := by
  obtain ⟨c, rest, rfl, hlow, hhigh⟩ := head_of_number? h
  rw [scalar?.eq_3 limit (c :: rest) fun ds hds =>
    cons_ne_of_digit hlow hhigh (d := 'I') (by decide) rest ds hds, h]

/-! ## Integers -/

theorem asciiDigit?_of_isDigit {c : Char} (h : c.isDigit = true) :
    asciiDigit? c = some (c.toNat - 48) := by
  have hrange : '0' ≤ c ∧ c ≤ '9' := by
    simpa [Char.isDigit, Char.le_def] using h
  exact if_pos hrange

/-- The values of digits. -/
def digitValues (cs : List Char) : List Nat := cs.map fun c => c.toNat - 48

/-- A text that does not begin with a digit. -/
def EndsDigits (cs : List Char) : Prop := ∀ c ∈ cs.head?, asciiDigit? c = none

theorem endsDigits_nil : EndsDigits [] := fun _ h => nomatch h

/-- Digits are read up to what is none. -/
theorem spanDigits_append {cs rest : List Char} (h : ∀ c ∈ cs, c.isDigit = true)
    (hrest : EndsDigits rest) :
    spanDigits (cs ++ rest) = (digitValues cs, rest) := by
  induction cs with
  | nil =>
    cases rest with
    | nil => rfl
    | cons c rest => simp only [List.nil_append, spanDigits, hrest c rfl, digitValues, List.map_nil]
  | cons c cs ih =>
    obtain ⟨hc, hcs⟩ := List.forall_mem_cons.1 h
    simp only [List.cons_append, spanDigits, asciiDigit?_of_isDigit hc, ih hcs, digitValues,
      List.map_cons]

/-- Digits that can stand before the point: a zero alone, or digits that do not begin with one. -/
def Integral (cs : List Char) : Prop :=
  cs = ['0'] ∨ (∀ c ∈ cs, c.isDigit = true) ∧ ∃ c rest, cs = c :: rest ∧ c ≠ '0'

/-- Such digits are read up to what is no digit. -/
theorem integral?_append {cs rest : List Char} (h : Integral cs) (hrest : EndsDigits rest) :
    integral? (cs ++ rest) = some (digitValues cs, rest) := by
  rcases h with rfl | ⟨hdigits, c, others, rfl, hc⟩
  · rfl
  · have hspan := spanDigits_append hdigits hrest
    rw [List.cons_append] at hspan ⊢
    rw [integral?.eq_2 (c :: (others ++ rest)) fun _ ht => hc (List.cons.inj ht).1, hspan]
    rfl

/-- The numeral of a positive number does not begin with a zero. -/
theorem head_ofNat {n : Nat} (hn : 0 < n) : ∃ c rest, ofNat n = c :: rest ∧ c ≠ '0' := by
  -- a numeral begins as that of the number without its last digit
  induction n using Nat.strong_induction_on with
  | _ n ih =>
    by_cases hsmall : n < 10
    · have hdigit : ∀ m < 10, 0 < m → m.digitChar ≠ '0' := by decide
      exact ⟨n.digitChar, [], Nat.toDigits_of_lt_base hsmall, hdigit n hsmall hn⟩
    · obtain ⟨c, rest, hhead, hc⟩ := ih (n / 10) (by omega) (by omega)
      refine ⟨c, rest ++ [(n % 10).digitChar], ?_, hc⟩
      rw [ofNat, Nat.toDigits_of_base_le (by decide) (by omega), ← ofNat, hhead]
      rfl

theorem isDigit_of_mem_ofNat {n : Nat} {c : Char} (h : c ∈ ofNat n) : c.isDigit = true :=
  Nat.isDigit_of_mem_toDigits (by decide) (by decide) h

theorem integral_ofNat (n : Nat) : Integral (ofNat n) := by
  rcases Nat.eq_zero_or_pos n with rfl | hn
  · exact .inl rfl
  · exact .inr ⟨fun _ h => isDigit_of_mem_ofNat h, head_ofNat hn⟩

theorem value_ofNat (n : Nat) : Text.Numeral.value (digitValues (ofNat n)) = n := by
  rw [Text.Numeral.value, digitValues, List.foldl_map]
  exact Nat.ofDigitChars_ten_toDigits

theorem number?_ofNat {limit n : Nat} (negative : Bool) (h : (ofNat n).length ≤ limit) :
    number? limit negative (ofNat n) = some (.int (withSign negative n), []) := by
  have hlength : (digitValues (ofNat n)).length ≤ limit := by rwa [digitValues, List.length_map]
  have hdigits : integral? (ofNat n) = some (digitValues (ofNat n), []) := by
    simpa using integral?_append (integral_ofNat n) endsDigits_nil
  simp only [number?, hdigits, bind, Option.bind_some, fraction, exponent]
  rw [if_pos hlength, value_ofNat]

/-- An integer reads back from its numeral. -/
theorem ReadsNumber.ofInt {n : Int} (h : (ofNat n.natAbs).length ≤ maxDigits) :
    ReadsNumber (Text.Numeral.ofInt n) (.int n) := by
  cases n with
  | ofNat n => exact .inl (number?_ofNat false h)
  | negSucc n => exact .inr ⟨ofNat (n + 1), rfl, number?_ofNat true h⟩

/-! ## Floats -/

/-- The characters of a number besides its digits. -/
def numeralMarks : List Char := ['.', 'e', '+', '-']

/-- A text of digits and the marks of a number. -/
def Numeric (cs : List Char) : Prop := ∀ c ∈ cs, (c.isDigit || numeralMarks.contains c) = true

theorem Numeric.nil : Numeric [] := List.forall_mem_nil _

theorem Numeric.cons {c : Char} {cs : List Char}
    (hc : (c.isDigit || numeralMarks.contains c) = true) (hcs : Numeric cs) : Numeric (c :: cs) :=
  List.forall_mem_cons.2 ⟨hc, hcs⟩

theorem Numeric.append {cs ds : List Char} (hcs : Numeric cs) (hds : Numeric ds) :
    Numeric (cs ++ ds) := List.forall_mem_append.2 ⟨hcs, hds⟩

theorem Numeric.sublist {cs ds : List Char} (hds : Numeric ds) (h : cs.Sublist ds) : Numeric cs :=
  fun c hc => hds c (h.subset hc)

theorem numeric_ofNat (n : Nat) : Numeric (ofNat n) := by
  intro c hc
  simp [isDigit_of_mem_ofNat hc]

theorem numeric_zeros (n : Nat) : Numeric (List.replicate n '0') := by
  intro c hc
  rw [List.eq_of_mem_replicate hc]
  rfl

theorem numeric_ofInt (n : Int) : Numeric (Text.Numeral.ofInt n) := by
  cases n with
  | ofNat n => exact numeric_ofNat n
  | negSucc n => exact .cons rfl (numeric_ofNat (n + 1))

theorem numeric_exponentText (e : Int) : Numeric (Double.exponentText e) := by
  refine .cons rfl (.cons ?_ ((numeric_zeros _).append (numeric_ofNat _)))
  split <;> rfl

theorem numeric_layout (d : Decimal) : Numeric (Double.layout d) := by
  have hdigits := numeric_ofNat d.digits
  have htail : Numeric ['.', '0'] := .cons rfl (.cons rfl .nil)
  unfold Double.layout
  dsimp only
  split
  · split
    · exact .cons rfl (.cons rfl ((numeric_zeros _).append hdigits))
    split
    · exact (hdigits.sublist (List.take_sublist _ _)).append
        (.cons rfl (hdigits.sublist (List.drop_sublist _ _)))
    · exact (hdigits.append (numeric_zeros _)).append htail
  · split
    · next c heq =>
      rw [heq] at hdigits
      exact hdigits.append (numeric_exponentText _)
    · next c rest _ heq =>
      rw [heq] at hdigits
      obtain ⟨hc, hrest⟩ := List.forall_mem_cons.1 hdigits
      exact (Numeric.cons hc (.cons rfl hrest)).append (numeric_exponentText _)
    · exact .nil

/-- The text of a finite number has only digits and marks. -/
theorem numeric_text (negative : Bool) (m : Nat) (e : Int) :
    Numeric (Double.finite negative m e).text.toList := by
  have hbody :
      Numeric (if m = 0 then ['0', '.', '0'] else Double.layout (Double.shortest m e)) := by
    split
    · exact .cons rfl (.cons rfl (.cons rfl .nil))
    · exact numeric_layout _
  rw [Double.text, String.toList_ofList]
  cases negative with
  | false => exact hbody
  | true => exact .cons rfl hbody

/-- A text without white space. -/
def Gapless (cs : List Char) : Prop := ∀ c ∈ cs, isGap c = false

theorem Gapless.sublist {cs ds : List Char} (hds : Gapless ds) (h : cs.Sublist ds) : Gapless cs :=
  fun c hc => hds c (h.subset hc)

/-- No digit and no mark of a number is white space. -/
theorem Numeric.gapless {cs : List Char} (h : Numeric cs) : Gapless cs := by
  intro c hc
  have hnumeric := h c hc
  by_contra hgap
  simp only [isGap, Bool.not_eq_false, Bool.or_eq_true, decide_eq_true_eq] at hgap
  rcases hgap with ((rfl | rfl) | rfl) | rfl <;> simp [numeralMarks] at hnumeric

theorem skip_of_gapless {cs : List Char} (h : Gapless cs) : skip cs = cs := by
  cases cs with
  | nil => rfl
  | cons c cs => exact List.dropWhile_cons_of_neg (by rw [h c List.mem_cons_self]; decide)

/-- What is neither a list nor a mapping is a number, a word or a string. -/
theorem scalar?_of_value? {limit fuel : Nat} {cs r : List Char} {v : Value}
    (h : value? limit fuel cs = some (v, r)) (hlist : v.kind ≠ .list) (hmap : v.kind ≠ .map) :
    scalar? limit cs = some (v, r) := by
  unfold value? at h
  split at h
  · cases h
  · split at h
    · cases h
      exact absurd rfl hlist
    · obtain ⟨p, -, hp⟩ := Option.map_eq_some_iff.1 h
      cases hp
      exact absurd rfl hlist
  · split at h
    · cases h
      exact absurd rfl hmap
    · obtain ⟨p, -, hp⟩ := Option.map_eq_some_iff.1 h
      cases hp
      exact absurd rfl hmap
  · exact h

/-- A finite float comes from a number, not from a word or a string. -/
theorem number?_of_scalar? {limit : Nat} {cs r : List Char} {negative : Bool} {m : Nat} {e : Int}
    (h : scalar? limit cs = some (.float (.finite negative m e), r)) :
    number? limit false cs = some (.float (.finite negative m e), r) ∨
      ∃ ds, cs = '-' :: ds ∧ number? limit true ds = some (.float (.finite negative m e), r) := by
  unfold scalar? at h
  split at h
  case h_1 =>
    obtain ⟨p, -, hp⟩ := Option.map_eq_some_iff.1 h
    have htext := Value.isText_ofPoints (joinUnits p.1)
    rw [(Prod.mk.inj hp).1] at htext
    exact absurd htext id
  case h_3 => exact .inr ⟨_, rfl, h⟩
  case h_9 => exact .inl h
  -- a word denotes a value of its own, which is no finite float
  all_goals
    obtain ⟨_, -, hword⟩ := Option.map_eq_some_iff.1 h
    cases hword

/-- A number that is left with white space behind it, in a text without any, is the whole text. -/
theorem rest_eq_nil {limit : Nat} {negative : Bool} {cs r : List Char} {v : Value}
    (h : number? limit negative cs = some (v, r)) (hcs : Gapless cs) (hr : skip r = []) :
    r = [] := by
  have hsuffix := (local_number? limit negative cs v r h).1
  rwa [skip_of_gapless (hcs.sublist hsuffix.sublist)] at hr

/-- A finite float whose text reads as that float is read as a number to the end of the text. -/
theorem ReadsNumber.ofFloat {negative : Bool} {m : Nat} {e : Int}
    (h : read? (Double.finite negative m e).text.toList = some (.float (.finite negative m e))) :
    ReadsNumber (Double.finite negative m e).text.toList (.float (.finite negative m e)) := by
  have hgapless := (numeric_text negative m e).gapless
  obtain ⟨⟨v, r⟩, hvalue, hrest⟩ := Option.bind_eq_some_iff.1 h
  rw [skip_of_gapless hgapless] at hvalue
  dsimp only at hrest
  split at hrest
  · next hempty =>
    cases hrest
    -- only white space may be left behind a value, and the text holds none
    have hr := List.isEmpty_iff.1 hempty
    have hscalar :=
      scalar?_of_value? hvalue (fun hkind => nomatch hkind) (fun hkind => nomatch hkind)
    rcases number?_of_scalar? hscalar with hnumber | ⟨ds, hds, hnumber⟩
    · rw [rest_eq_nil hnumber hgapless hr] at hnumber
      exact .inl hnumber
    · rw [hds] at hgapless
      rw [rest_eq_nil hnumber (hgapless.sublist (List.sublist_cons_self _ _)) hr] at hnumber
      exact .inr ⟨ds, hds, hnumber⟩
  · cases hrest

end DocumentStore.Json
