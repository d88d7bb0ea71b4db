import DocumentStore.Proofs.TextKeys
import DocumentStore.Fault
import Mathlib.Algebra.Group.Nat.Defs
import Mathlib.Algebra.Order.Monoid.Unbundled.Basic

/-!
# What can be written

An integer has a numeral when its magnitude is below a power of ten (`Text.Numeral.isShort_iff`),
and so has every integer that was read from one (`Text.Numeral.isShort_of_readInt`). Texts that are
made of a value are there when it can be written, and a fault that names values is the one that is
meant when they can (`Fault.naming_cases`).
-/

set_option autoImplicit false

namespace DocumentStore

/-! ## Numerals -/

namespace Text.Numeral

/-- An integer has a numeral when its magnitude is below a power of ten. -/
theorem isShort_iff {n : Int} : isShort n = true ↔ n.natAbs < 10 ^ maxDigits := by
  have hpos : 0 < maxDigits := by decide
  rw [isShort, decide_eq_true_eq, ofNat, Nat.length_toDigits_le_iff (by decide) hpos]

/-- What digits denote is below the power of ten with as many zeros. -/
theorem value_lt {ds : List Nat} (h : ∀ d ∈ ds, d < 10) : value ds < 10 ^ ds.length := by
  induction ds using List.reverseRecOn with
  | nil => exact Nat.one_pos
  | append_singleton ds d ih =>
    obtain ⟨hds, hd⟩ := List.forall_mem_append.1 h
    have hvalue : value (ds ++ [d]) = 10 * value ds + d := List.foldl_append ..
    have hds := ih hds
    have hd := List.forall_mem_singleton.1 hd
    rw [hvalue, List.length_append, List.length_singleton, Nat.pow_succ]
    omega

/-- An integer that digits denote has a numeral when they are no more than one may have. -/
theorem isShort_withSign (negative : Bool) {ds : List Nat} (h : ∀ d ∈ ds, d < 10)
    (hlength : ds.length ≤ maxDigits) : isShort (withSign negative (value ds)) = true := by
  have hmagnitude : (withSign negative (value ds)).natAbs = value ds := by
    cases negative
    · rfl
    · exact Int.natAbs_neg _
  rw [isShort_iff, hmagnitude]
  exact (value_lt h).trans_le (Nat.pow_le_pow_right (by decide) hlength)

theorem decimalDigit?_lt {c : Char} {d : Nat} (h : decimalDigit? c = some d) : d < 10 := by
  obtain ⟨z, hz, rfl⟩ := Option.map_eq_some_iff.1 h
  have hrange := List.find?_some hz
  rw [Bool.and_eq_true, decide_eq_true_eq, decide_eq_true_eq] at hrange
  omega

theorem asciiDigit?_lt {c : Char} {d : Nat} (h : asciiDigit? c = some d) : d < 10 := by
  unfold asciiDigit? at h
  split at h
  · next hrange =>
    obtain rfl := Option.some.inj h
    have hhigh : c.toNat ≤ '9'.toNat := hrange.2
    have hnine : '9'.toNat = 57 := rfl
    omega
  · cases h

/-- The digits of a numeral are decimal digits. -/
theorem digitRun_lt {cs : List Char} {ds : List Nat} (h : digitRun cs = some ds) :
    ∀ d ∈ ds, d < 10 := by
  -- a digit is put in front of those of the rest, in each of the two ways to go on
  have hcons {c : Char} {rest : Option (List Nat)} {ds : List Nat}
      (hrest : ∀ es, rest = some es → ∀ d ∈ es, d < 10)
      (h : (do let d ← decimalDigit? c; let es ← rest; return d :: es) = some ds) :
      ∀ d ∈ ds, d < 10 := by
    obtain ⟨d, hd, h⟩ := Option.bind_eq_some_iff.1 h
    obtain ⟨es, hes, h⟩ := Option.bind_eq_some_iff.1 h
    cases h
    exact List.forall_mem_cons.2 ⟨decimalDigit?_lt hd, hrest es hes⟩
  fun_induction digitRun cs generalizing ds with
  | case1 => cases h
  | case2 c =>
    obtain ⟨d, hd, rfl⟩ := Option.map_eq_some_iff.1 h
    exact List.forall_mem_singleton.2 (decimalDigit?_lt hd)
  | case3 c rest ih => exact hcons (fun es hes => ih hes) h
  | case4 c rest _ _ ih => exact hcons (fun es hes => ih hes) h

/-- What is read from a numeral has one. -/
theorem isShort_of_readInt {cs : List Char} {n : Int} (h : readInt cs = .ok n) :
    isShort n = true := by
  unfold readInt at h
  dsimp only at h
  split at h
  · cases h
  · next ds hrun =>
    split at h
    · cases h
    · next hlength =>
      cases h
      exact isShort_withSign _ (digitRun_lt hrun) (Nat.le_of_not_lt hlength)

end Text.Numeral

/-! ## Texts of values -/

namespace Value

variable {α : Type} {v : Value}

theorem IsText.writable (h : v.IsText) : v.writable = true := by
  cases v with
  | text s => rfl
  | torn t => rfl
  | _ => exact absurd h id

theorem written_of_writable (h : v.writable = true) (text : α) :
    v.written text = .ok text := if_pos h

/-- A text that is made of a value is there when the value can be written. -/
theorem written_eq_ok {text text' : α} :
    v.written text = .ok text' ↔ v.writable = true ∧ text = text' := by
  cases h : v.writable <;> simp [written, h]

theorem map_written {β : Type} (f : α → β) (text : α) :
    (v.written text).map f = v.written (f text) := by
  unfold written
  split <;> rfl

/-- There is one reason why a text that is made of a value is not there. -/
theorem written_eq_error {text : α} {fault : Fault} :
    v.written text = .error fault ↔ v.writable = false ∧ fault = .value .unwritable := by
  cases h : v.writable <;> simp [written, h, eq_comm]

/-- Items can be written when each of them can. -/
theorem writableItems_iff {xs : List Value} :
    writableItems xs = true ↔ ∀ x ∈ xs, x.writable = true := by
  induction xs with
  | nil => simp [writableItems]
  | cons x xs ih => rw [writableItems, Bool.and_eq_true, ih, List.forall_mem_cons]

/-- Entries can be written when their keys and their values can. -/
theorem writableEntries_iff {es : List (Value × Value)} :
    writableEntries es = true ↔ ∀ e ∈ es, e.1.writable = true ∧ e.2.writable = true := by
  induction es with
  | nil => simp [writableEntries]
  | cons e es ih =>
    rw [writableEntries, Bool.and_eq_true, Bool.and_eq_true, ih, List.forall_mem_cons]

end Value

/-! ## Faults that name values -/

namespace Fault

variable {vs : List Value}

/-- A fault is the one that is meant when all that it names can be written. -/
theorem naming_of_writable (h : ∀ v ∈ vs, v.writable = true) (fault : Fault) :
    naming vs fault = fault := if_pos (List.all_eq_true.2 h)

/-- A fault that names what cannot be written is about that. -/
theorem naming_of_unwritable {v : Value} (hv : v ∈ vs) (h : v.writable = false) (fault : Fault) :
    naming vs fault = .value .unwritable := by
  refine if_neg fun hall => ?_
  rw [List.all_eq_true.1 hall v hv] at h
  cases h

theorem naming_cases (vs : List Value) (fault : Fault) :
    ((∀ v ∈ vs, v.writable = true) ∧ naming vs fault = fault) ∨
      (∃ v ∈ vs, v.writable = false) ∧ naming vs fault = .value .unwritable := by
  by_cases h : ∀ v ∈ vs, v.writable = true
  · exact .inl ⟨h, naming_of_writable h fault⟩
  · push Not at h
    obtain ⟨v, hv, hwritable⟩ := h
    have hfalse := Bool.eq_false_iff.2 hwritable
    exact .inr ⟨⟨v, hv, hfalse⟩, naming_of_unwritable hv hfalse fault⟩

end Fault

end DocumentStore
