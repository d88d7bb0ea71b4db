import DocumentStore.Proofs.Calendar.Instants
import DocumentStore.Proofs.Calendar.Reading
import DocumentStore.Query.Operand
import Mathlib.Data.List.TakeWhile

/-!
# Timestamps of moments and texts

A moment becomes the moment without offset at its instant (`toTimestamp_moment`), and a text becomes
what the moment it spells becomes (`toTimestamp_text`). So all spellings of an instant agree
(`spellings_of_an_instant_agree`), but for offsets of a fraction of a second, which a text loses
(`fraction_of_offset_lost`).
-/

set_option autoImplicit false

namespace DocumentStore

open Calendar (Clock Date Digital InYears Moment Offset)

open Text (isBlank strip)

/-! ## Blanks around a text -/

/-- A text of blanks. -/
def Blank (s : String) : Prop := s.toList.all isBlank = true

instance (s : String) : Decidable (Blank s) := inferInstanceAs (Decidable (_ = true))

theorem Blank.forall_mem {s : String} (h : Blank s) : ∀ c ∈ s.toList, isBlank c = true :=
  List.all_eq_true.1 h

theorem dropWhile_around {p : Char → Bool} {before cs : List Char} (after : List Char)
    (hbefore : ∀ c ∈ before, p c = true) (hcs : ∀ c ∈ cs, p c = false) (hne : cs ≠ []) :
    (before ++ cs ++ after).dropWhile p = cs ++ after := by
  obtain ⟨c, others, rfl⟩ := List.exists_cons_of_ne_nil hne
  have hc := hcs c List.mem_cons_self
  rw [List.append_assoc, List.dropWhile_append_of_pos hbefore, List.cons_append,
    List.dropWhile_cons, hc, if_neg Bool.false_ne_true]

/-- What holds no blanks is left when the blanks around it are taken off. -/
theorem strip_around {p : Char → Bool} {before cs after : List Char}
    (hbefore : ∀ c ∈ before, p c = true) (hcs : ∀ c ∈ cs, p c = false)
    (hafter : ∀ c ∈ after, p c = true) :
    strip p (before ++ cs ++ after) = cs := by
  by_cases hne : cs = []
  · have hall : ∀ c ∈ before ++ cs ++ after, p c = true := by
      simp only [hne, List.append_nil]
      exact List.forall_mem_append.2 ⟨hbefore, hafter⟩
    rw [strip, List.dropWhile_eq_nil_iff.2 hall, hne]
    rfl
  have hback : (after.reverse ++ cs.reverse ++ []).dropWhile p = cs.reverse ++ [] :=
    dropWhile_around [] (by simpa using hafter) (by simpa using hcs) (by simpa using hne)
  rw [List.append_nil, List.append_nil] at hback
  rw [strip, dropWhile_around after hbefore hcs hne, List.reverse_append, hback,
    List.reverse_reverse]

/-- None of the marks of a moment is a blank. -/
theorem marks_not_blank : ∀ c ∈ 'Z' :: Moment.marks, isBlank c = false := by
  have hmarks : ('Z' :: Moment.marks).all (fun c => !isBlank c) = true := by decide
  simpa only [List.all_eq_true, Bool.not_eq_true'] using hmarks

theorem not_blank_of_digital {marks cs : List Char} (h : Digital marks cs)
    (hmarks : ∀ c ∈ marks, isBlank c = false) : ∀ c ∈ cs, isBlank c = false := by
  intro c hc
  rcases h c hc with hdigit | hmark
  · have hrange : 48 ≤ c.toNat ∧ c.toNat ≤ 57 := Char.isDigit_iff_toNat.1 hdigit
    rw [Bool.eq_false_iff]
    intro hblank
    simp [isBlank, Text.isSpace, Text.spaceRanges, Text.Ranges.contains] at hblank
    omega
  · exact hmarks c hmark

namespace Timestamp

variable {before cs after : List Char}

/-- A text of digits and the marks of a moment is read without the blanks around it. -/
theorem normalized_around (hbefore : ∀ c ∈ before, isBlank c = true)
    (hafter : ∀ c ∈ after, isBlank c = true) (hcs : Digital Moment.marks cs) :
    normalized (before ++ cs ++ after) = cs := by
  have hblank := not_blank_of_digital hcs (List.forall_mem_cons.1 marks_not_blank).2
  unfold normalized
  rw [strip_around hbefore hblank hafter]
  dsimp only
  split
  · next rest heq =>
    have hlast : 'Z' ∈ cs := by
      rw [← List.mem_reverse, heq]
      exact List.mem_cons_self
    exact absurd (hcs 'Z' hlast) (by decide)
  · rfl

/-- A letter of an offset of zero behind it is written out. -/
theorem normalized_letter (hbefore : ∀ c ∈ before, isBlank c = true)
    (hafter : ∀ c ∈ after, isBlank c = true) (hcs : Digital Moment.marks cs) :
    normalized (before ++ (cs ++ ['Z']) ++ after) = cs ++ "+00:00".toList := by
  have hletter : Digital ('Z' :: Moment.marks) (cs ++ ['Z']) :=
    (hcs.mono (List.subset_cons_self _ _)).append (.cons List.mem_cons_self .nil)
  have hblank := not_blank_of_digital hletter marks_not_blank
  unfold normalized
  rw [strip_around hbefore hblank hafter]
  simp

end Timestamp

/-! ## Moments as timestamps -/

/-- An instant that came from a number becomes the moment there. -/
theorem Timestamp.ofMicros_eq_ok {n : Int} {m : Moment} :
    ofMicros n = .ok m ↔ Moment.ofInstant? n = some m := by
  unfold ofMicros
  cases hinstant : Moment.ofInstant? n with
  | some r =>
    dsimp only
    rw [Except.ok.injEq, Option.some.injEq]
  | none =>
    dsimp only
    constructor
    · intro h
      split at h <;> cases h
    · intro h
      cases h

/-- A moment becomes the moment without offset at its instant. -/
theorem Timestamp.inUtc_eq (m : Moment) : inUtc m =
    match Moment.ofInstant? m.instant with
    | some r => .ok r
    | none => .error (.range .date) := by
  have hutc : m.toUtc? = Moment.ofInstant? m.instant := by
    unfold Moment.toUtc?
    cases hoffset : m.offset with
    | none => exact (Moment.ofInstant?_instant hoffset).symm
    | some o => rfl
  cases hinstant : Moment.ofInstant? m.instant with
  | none => simp only [inUtc, hutc, hinstant]
  | some r => simp only [inUtc, hutc, hinstant]

theorem toTimestamp_moment (m : Moment) : toTimestamp (.moment m) =
    match Moment.ofInstant? m.instant with
    | some r => .ok (some r)
    | none => .error (.range .date) := by
  rw [toTimestamp, Timestamp.inUtc_eq]
  cases Moment.ofInstant? m.instant with
  | none => rfl
  | some r => rfl

/-- A text becomes what the moment becomes that is read from it. -/
theorem toTimestamp_text {s : String} {m : Moment}
    (h : Moment.read? (Timestamp.normalized s.toList) = some m) :
    toTimestamp (.text s) = toTimestamp (.moment m) := by
  have hread : Timestamp.ofText s s.toList = .ok m := by
    unfold Timestamp.ofText
    rw [h]
  show (Timestamp.ofText s s.toList).bind (fun m => (Timestamp.inUtc m).map some) = _
  rw [hread]
  rfl

section Spellings

variable {before after : String} (hbefore : Blank before) (hafter : Blank after)

include hbefore hafter

/-- The ISO form of a moment. -/
theorem toTimestamp_iso (m : Moment) :
    toTimestamp (.text (before ++ m.iso ++ after)) = toTimestamp (.moment m.asRead) := by
  apply toTimestamp_text
  rw [String.toList_append, String.toList_append, Moment.iso, String.toList_ofList,
    Timestamp.normalized_around hbefore.forall_mem hafter.forall_mem m.digital_written]
  exact m.read?_written 'T'

/-- The ISO form of a moment without offset, with the letter of an offset of zero behind it. -/
theorem toTimestamp_letter {m : Moment} (hoffset : m.offset = some Offset.utc) :
    toTimestamp (.text (before ++ { m with offset := none }.iso ++ "Z" ++ after)) =
      toTimestamp (.moment m) := by
  obtain ⟨date, clock, offset⟩ := m
  obtain rfl : offset = some Offset.utc := hoffset
  have hletter : ("Z" : String).toList = ['Z'] := rfl
  have hwritten : (Moment.mk date clock none).written 'T' ++ "+00:00".toList =
      (Moment.mk date clock (some Offset.utc)).written 'T' := by
    simp only [Moment.written, List.append_nil]
    rfl
  apply toTimestamp_text
  simp only [String.toList_append, Moment.iso, String.toList_ofList, hletter]
  rw [List.append_assoc before.toList, Timestamp.normalized_letter hbefore.forall_mem
    hafter.forall_mem (Moment.digital_written _), hwritten]
  exact Moment.read?_written _ 'T'

/-- The ISO form of a date. -/
theorem toTimestamp_isoDate (d : Date) :
    toTimestamp (.text (before ++ d.iso ++ after)) = toTimestamp (.date d) := by
  show _ = toTimestamp (.moment (Moment.ofDate d))
  apply toTimestamp_text
  have hdigital : Digital Moment.marks d.written := d.digital_written.mono (by decide)
  rw [String.toList_append, String.toList_append, Date.iso, String.toList_ofList,
    Timestamp.normalized_around hbefore.forall_mem hafter.forall_mem hdigital]
  exact Moment.read?_date d

end Spellings

/-! ## Spellings of an instant -/

/-- All spellings of an instant become one timestamp. The ISO form of a moment, with blanks around
it or without, becomes what the moment becomes, unless its offset is a fraction of a second. So does
its form with the letter of an offset of zero, and the ISO form of a date becomes what the date
becomes. Moments at one instant become the same, which is the moment without offset at that instant
and is left as it is, or a fault when the instant lies outside the years 1 to 9999. -/
theorem spellings_of_an_instant_agree (m : Moment) {before after : String} (hbefore : Blank before)
    (hafter : Blank after) :
    (m.KeepsOffset → toTimestamp (.text (before ++ m.iso ++ after)) = toTimestamp (.moment m)) ∧
    (m.offset = some Offset.utc →
      toTimestamp (.text (before ++ { m with offset := none }.iso ++ "Z" ++ after)) =
        toTimestamp (.moment m)) ∧
    (∀ d : Date, toTimestamp (.text (before ++ d.iso ++ after)) = toTimestamp (.date d)) ∧
    (∀ other : Moment, other.instant = m.instant →
      toTimestamp (.moment other) = toTimestamp (.moment m)) ∧
    (InYears m.instant →
      ∃ r : Moment, toTimestamp (.moment m) = .ok (some r) ∧ r.offset = none ∧
        r.instant = m.instant ∧ toTimestamp (.moment r) = .ok (some r)) ∧
    (¬InYears m.instant → toTimestamp (.moment m) = .error (.range .date)) := by
  refine ⟨?iso, ?letter, ?date, ?same, ?inYears, ?beyond⟩
  case iso =>
    intro hoffset
    rw [toTimestamp_iso hbefore hafter, hoffset.asRead_eq]
  case letter =>
    intro hoffset
    exact toTimestamp_letter hbefore hafter hoffset
  case date =>
    intro d
    exact toTimestamp_isoDate hbefore hafter d
  case same =>
    intro other hinstant
    rw [toTimestamp_moment, toTimestamp_moment, hinstant]
  case inYears =>
    intro hyears
    obtain ⟨r, hr⟩ := Moment.exists_ofInstant? hyears
    obtain ⟨hoffset, hinstant⟩ := Moment.ofInstant?_eq_some.1 hr
    refine ⟨r, ?_, hoffset, hinstant, ?_⟩
    · rw [toTimestamp_moment, hr]
    · rw [toTimestamp_moment, hinstant, hr]
  case beyond =>
    intro hyears
    rw [toTimestamp_moment, Moment.ofInstant?_eq_none.2 hyears]

/-- The evening of a leap day, far in the east. -/
def leapEvening : Moment where
  date := (Date.ofParts? 2024 2 29).get (by decide)
  clock := (Clock.ofParts? 23 30 0 1).get (by decide)
  offset := Offset.ofMicros? 19815000001

/-- The same instant in UTC. -/
def leapAfternoon : Moment where
  date := (Date.ofParts? 2024 2 29).get (by decide)
  clock := (Clock.ofParts? 17 59 45 0).get (by decide)
  offset := some Offset.utc

/-- The first midnight of all, a minute east of UTC. -/
def firstMidnight : Moment where
  date := (Date.ofParts? 1 1 1).get (by decide)
  clock := Clock.midnight
  offset := Offset.ofMicros? 60000000

theorem spellings_of_leapEvening_agree :
    (leapEvening.iso = "2024-02-29T23:30:00.000001+05:30:15.000001" ∧ Blank " " ∧ Blank "\r\n" ∧
      leapEvening.KeepsOffset ∧ leapAfternoon.instant = leapEvening.instant ∧
      InYears leapEvening.instant ∧ ¬InYears firstMidnight.instant) ∧
    toTimestamp (.text (" " ++ leapEvening.iso ++ "\r\n")) = toTimestamp (.moment leapEvening) ∧
    toTimestamp (.text (" " ++ { leapAfternoon with offset := none }.iso ++ "Z" ++ "\r\n")) =
      toTimestamp (.moment leapEvening) ∧
    (∃ r : Moment, toTimestamp (.moment leapEvening) = .ok (some r) ∧ r.offset = none ∧
      r.instant = leapEvening.instant ∧ toTimestamp (.moment r) = .ok (some r)) ∧
    toTimestamp (.moment firstMidnight) = .error (.range .date) := by
  have hspace : Blank " " := by decide
  have hline : Blank "\r\n" := by decide
  have hkept : leapEvening.KeepsOffset := by decide
  have hsame : leapAfternoon.instant = leapEvening.instant := by decide
  have hin : InYears leapEvening.instant := by decide
  have hout : ¬InYears firstMidnight.instant := by decide
  obtain ⟨hiso, -, -, hequal, hmoment, -⟩ := spellings_of_an_instant_agree leapEvening hspace hline
  obtain ⟨-, hletter, -⟩ := spellings_of_an_instant_agree leapAfternoon hspace hline
  obtain ⟨-, -, -, -, -, hbeyond⟩ := spellings_of_an_instant_agree firstMidnight hspace hline
  exact ⟨⟨by decide, hspace, hline, hkept, hsame, hin, hout⟩, hiso hkept,
    (hletter rfl).trans (hequal leapAfternoon hsame), hmoment hin, hbeyond hout⟩

/-- A midnight half a second east of UTC. -/
def halfSecondEast : Moment where
  date := (Date.ofParts? 2024 1 1).get (by decide)
  clock := Clock.midnight
  offset := Offset.ofMicros? 500000

/-- An offset of a fraction of a second is lost in a text. -/
theorem fraction_of_offset_lost :
    halfSecondEast.iso = "2024-01-01T00:00:00+00:00:00.500000" ∧
    toTimestamp (.text halfSecondEast.iso) =
      .ok (some ⟨⟨2024, 1, 1, by decide, by decide, by decide⟩, Clock.midnight, none⟩) ∧
    toTimestamp (.moment halfSecondEast) =
      .ok (some ⟨⟨2023, 12, 31, by decide, by decide, by decide⟩,
        ⟨23, 59, 59, 500000, by decide, by decide, by decide, by decide⟩, none⟩) ∧
    toTimestamp (.text halfSecondEast.iso) ≠ toTimestamp (.moment halfSecondEast) := by
  have htext : toTimestamp (.text halfSecondEast.iso) =
      .ok (some ⟨⟨2024, 1, 1, by decide, by decide, by decide⟩, Clock.midnight, none⟩) := by
    have hempty : Blank "" := by decide
    have hread := toTimestamp_iso hempty hempty halfSecondEast
    simp only [String.empty_append, String.append_empty] at hread
    rw [hread]
    rfl
  have hmoment : toTimestamp (.moment halfSecondEast) =
      .ok (some ⟨⟨2023, 12, 31, by decide, by decide, by decide⟩,
        ⟨23, 59, 59, 500000, by decide, by decide, by decide, by decide⟩, none⟩) := rfl
  refine ⟨rfl, htext, hmoment, ?_⟩
  rw [htext, hmoment]
  simp

end DocumentStore
