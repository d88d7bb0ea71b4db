import DocumentStore.Json.Reader
import DocumentStore.Json.Writer
import DocumentStore.Proofs.TextKeys
import Mathlib.Data.List.Chain

/-!
# JSON strings

A text that is written as a JSON string reads back as that text (`Json.string?_quoted`), as long as
the two halves of a surrogate pair do not stand together in it: reading joins such halves to one
character (`Json.joinUnits_pair`).
-/

set_option autoImplicit false

namespace DocumentStore.Json

open Text (Point hexDigit hexValue?_hexDigit)

/-! ## Halves of surrogate pairs -/

/-- Whether two code points are the halves of a surrogate pair. -/
def areHalves : Point → Point → Bool
  | .lone a, .lone b => a.val < 0x400 && 0x400 ≤ b.val
  | _, _ => false

/-- Code points among which the halves of a pair never stand together. -/
def Settled (ps : List Point) : Prop := ps.IsChain fun p q => areHalves p q = false

/-- A text of characters has no halves at all. -/
theorem settled_points (s : String) : Settled (Text.points s) := by
  unfold Text.points
  induction s.toList with
  | nil => exact .nil
  | cons c cs ih => exact ih.cons fun _ _ => rfl

/-- Whether two units are the halves of a surrogate pair. -/
def AreHalfUnits (n m : Nat) : Prop := 0xD800 ≤ n ∧ n < 0xDC00 ∧ 0xDC00 ≤ m ∧ m < 0xE000

/-- The character of a pair of units. -/
def pairedChar (n m : Nat) : Char := Char.ofNat (0x10000 + (n - 0xD800) * 0x400 + (m - 0xDC00))

theorem joinUnits_pair {n m : Nat} (h : AreHalfUnits n m) (us : List Nat) :
    joinUnits (n :: m :: us) = .char (pairedChar n m) :: joinUnits us := by
  -- a pair denotes a code point above U+FFFF, so it is no surrogate
  have hlarge : ¬(0xD800 ≤ 0x10000 + (n - 0xD800) * 0x400 + (m - 0xDC00) ∧
      0x10000 + (n - 0xD800) * 0x400 + (m - 0xDC00) < 0xE000) := by omega
  have hcode : Point.ofCode (0x10000 + (n - 0xD800) * 0x400 + (m - 0xDC00)) =
      .char (pairedChar n m) := dif_neg hlarge
  rw [← hcode]
  exact if_pos h

/-- A unit stays alone when it makes no pair with the next one. -/
theorem joinUnits_cons {n : Nat} {us : List Nat} (h : ∀ m ∈ us.head?, ¬AreHalfUnits n m) :
    joinUnits (n :: us) = .ofCode n :: joinUnits us := by
  cases us with
  | nil => rfl
  | cons m us => exact if_neg (h m rfl)

/-! ## Code points and their units -/

/-- The units of a code point, a pair of surrogates for one above U+FFFF. -/
def unitsOf : Point → List Nat
  | .char c =>
    if c.toNat < 0x10000 then [c.toNat]
    else [0xD800 + (c.toNat - 0x10000) / 0x400, 0xDC00 + (c.toNat - 0x10000) % 0x400]
  | .lone offset => [0xD800 + offset]

/-- A character is no surrogate. -/
theorem toNat_of_char (c : Char) :
    c.toNat < 0xD800 ∨ 0xE000 ≤ c.toNat ∧ c.toNat < 0x110000 :=
  c.valid.imp_right fun h => ⟨h.1, h.2⟩

theorem ofCode_toNat (c : Char) : Point.ofCode c.toNat = .char c := by
  have hvalid := toNat_of_char c
  have hchar : ¬(0xD800 ≤ c.toNat ∧ c.toNat < 0xE000) := by omega
  rw [Point.ofCode, dif_neg hchar, Char.ofNat_toNat]

theorem ofCode_lone (offset : Fin 2048) : Point.ofCode (0xD800 + offset) = .lone offset := by
  have hlone : 0xD800 ≤ 0xD800 + offset.val ∧ 0xD800 + offset.val < 0xE000 := by omega
  rw [Point.ofCode, dif_pos hlone]
  exact congrArg Point.lone (Fin.ext (Nat.add_sub_cancel_left _ _))

/-- The pair of a character above U+FFFF. -/
theorem pair_of_char {c : Char} (h : ¬c.toNat < 0x10000) :
    ∃ n m, unitsOf (.char c) = [n, m] ∧ AreHalfUnits n m ∧ pairedChar n m = c := by
  have hvalid := toNat_of_char c
  refine ⟨_, _, if_neg h, ?_, ?_⟩
  · unfold AreHalfUnits
    omega
  · have hcode : 0x10000 + (0xD800 + (c.toNat - 0x10000) / 0x400 - 0xD800) * 0x400 +
        (0xDC00 + (c.toNat - 0x10000) % 0x400 - 0xDC00) = c.toNat := by omega
    rw [pairedChar, hcode, Char.ofNat_toNat]

/-- A code point whose first unit is the second half of a pair is that half. -/
theorem lone_of_head?_unitsOf {q : Point} {us : List Nat} {m : Nat}
    (hm : m ∈ (unitsOf q ++ us).head?) (hlow : 0xDC00 ≤ m) (hhigh : m < 0xE000) :
    ∃ offset : Fin 2048, q = .lone offset ∧ 0x400 ≤ offset.val := by
  cases q with
  | lone offset =>
    obtain rfl := Option.some.inj hm
    exact ⟨offset, rfl, by omega⟩
  | char c =>
    have hvalid := toNat_of_char c
    by_cases hsmall : c.toNat < 0x10000
    · rw [unitsOf, if_pos hsmall] at hm
      obtain rfl := Option.some.inj hm
      omega
    · -- a pair begins with a first half
      obtain ⟨n, k, hunits, ⟨-, hn, -⟩, -⟩ := pair_of_char hsmall
      rw [hunits] at hm
      obtain rfl := Option.some.inj hm
      omega

/-- The units of a code point that makes no pair with the next one are joined to it. -/
theorem joinUnits_unitsOf {p : Point} {ps : List Point}
    (h : ∀ q ∈ ps.head?, areHalves p q = false) :
    joinUnits (unitsOf p ++ ps.flatMap unitsOf) = p :: joinUnits (ps.flatMap unitsOf) := by
  cases p with
  | char c =>
    by_cases hsmall : c.toNat < 0x10000
    · have hvalid := toNat_of_char c
      -- a character is no half of a pair
      have halone : ∀ m ∈ (ps.flatMap unitsOf).head?, ¬AreHalfUnits c.toNat m := by
        rintro m - ⟨hlow, hhigh, -⟩
        omega
      rw [unitsOf, if_pos hsmall, List.singleton_append, joinUnits_cons halone, ofCode_toNat]
    · obtain ⟨n, m, hunits, hpair, hchar⟩ := pair_of_char hsmall
      rw [hunits, ← hchar]
      exact joinUnits_pair hpair _
  | lone offset =>
    -- only a second half could be joined to it, and that one would be the next code point
    have halone : ∀ m ∈ (ps.flatMap unitsOf).head?, ¬AreHalfUnits (0xD800 + offset) m := by
      cases ps with
      | nil => exact fun m hm => nomatch hm
      | cons q ps =>
        rintro m hm ⟨-, hfirst, hlow, hhigh⟩
        obtain ⟨b, rfl, hb⟩ := lone_of_head?_unitsOf hm hlow hhigh
        have hq := h (.lone b) rfl
        simp only [areHalves, Bool.and_eq_false_iff, decide_eq_false_iff_not] at hq
        omega
    rw [unitsOf, List.singleton_append, joinUnits_cons halone, ofCode_lone]

/-- The units of settled code points are joined to them. -/
theorem joinUnits_flatMap_unitsOf {ps : List Point} (h : Settled ps) :
    joinUnits (ps.flatMap unitsOf) = ps := by
  induction ps with
  | nil => rfl
  | cons p ps ih =>
    obtain ⟨hhead, htail⟩ := List.isChain_cons.1 h
    rw [List.flatMap_cons, joinUnits_unitsOf hhead, ih htail]

/-! ## Escapes -/

/-- Units put in front of what a reader gives. -/
def prependUnits (us : List Nat) (r : Option (List Nat × List Char)) :
    Option (List Nat × List Char) :=
  r.map fun p => (us ++ p.1, p.2)

theorem units?_unitEscape {n : Nat} (h : n < 0x10000) (cs : List Char) :
    units? (unitEscape n ++ cs) = consUnit n (units? cs) := by
  -- the four digits give the number back
  have hunit : unit? (hexDigit (n / 16 / 16 / 16 % 16)) (hexDigit (n / 16 / 16 % 16))
      (hexDigit (n / 16 % 16)) (hexDigit (n % 16)) = some n := by
    have hdigit (m : Nat) := hexValue?_hexDigit (Nat.mod_lt m (show 0 < 16 by decide))
    simp only [unit?, hdigit, bind, Option.bind, pure]
    congr 1
    omega
  show Option.bind (unit? _ _ _ _) _ = _
  rw [hunit]
  rfl

/-- A character that is neither a quote nor a backslash nor a control character stands for
itself. -/
theorem units?_plain {c : Char} (hquote : c ≠ '"') (hslash : c ≠ '\\') (hvisible : 0x20 ≤ c.toNat)
    (cs : List Char) : units? (c :: cs) = consUnit c.toNat (units? cs) := by
  have hplain : ¬(c.toNat < 0x20 ∨ c = '\\') := by
    rintro (hc | hc)
    · omega
    · exact hslash hc
  rw [units?.eq_5 c cs hquote (fun _ _ _ _ _ hc => absurd hc hslash)
    (fun _ _ hc => absurd hc hslash), if_neg hplain]

/-- The characters that have a short escape. -/
def shortlyEscaped : List Char := ['"', '\\', '\n', '\r', '\t', '\x08', '\x0c']

theorem units?_shortEscape {c : Char} (h : c ∈ shortlyEscaped) (cs : List Char) :
    units? (escapeChar c ++ cs) = prependUnits (unitsOf (.char c)) (units? cs) := by
  simp only [shortlyEscaped, List.mem_cons, List.not_mem_nil, or_false] at h
  rcases h with rfl | rfl | rfl | rfl | rfl | rfl | rfl <;> rfl

/-- The escape of a code point reads back as its units. -/
theorem units?_escapePoint (p : Point) (cs : List Char) :
    units? (escapePoint p ++ cs) = prependUnits (unitsOf p) (units? cs) := by
  cases p with
  | lone offset => exact units?_unitEscape (by omega) cs
  | char c =>
    by_cases hshort : c ∈ shortlyEscaped
    · exact units?_shortEscape hshort cs
    -- any other character stands for itself, or has one escape, or one for each half of its pair
    simp only [shortlyEscaped, List.mem_cons, List.not_mem_nil, or_false, not_or] at hshort
    obtain ⟨hquote, hslash, hfeed, hreturn, htab, hback, hform⟩ := hshort
    show units? (escapeChar c ++ cs) = prependUnits (unitsOf (.char c)) (units? cs)
    rw [escapeChar, if_neg hquote, if_neg hslash, if_neg hfeed, if_neg hreturn, if_neg htab,
      if_neg hback, if_neg hform]
    split
    · next hvisible =>
      have hsmall : c.toNat < 0x10000 := by omega
      rw [unitsOf, if_pos hsmall]
      exact units?_plain hquote hslash hvisible.1 cs
    split
    · next hsmall =>
      rw [unitsOf, if_pos hsmall]
      exact units?_unitEscape hsmall cs
    · next hlarge =>
      have hvalid := toNat_of_char c
      have hlow : 0xD800 + (c.toNat - 0x10000) / 0x400 < 0x10000 := by omega
      have hhigh : 0xDC00 + (c.toNat - 0x10000) % 0x400 < 0x10000 := by omega
      rw [List.append_assoc, units?_unitEscape hlow, units?_unitEscape hhigh, unitsOf,
        if_neg hlarge]
      cases units? cs <;> rfl

/-! ## Strings -/

/-- Code points between quotes. -/
def quoted (ps : List Point) : List Char := '"' :: ps.flatMap escapePoint ++ ['"']

theorem units?_flatMap_escapePoint (ps : List Point) (rest : List Char) :
    units? (ps.flatMap escapePoint ++ '"' :: rest) = some (ps.flatMap unitsOf, rest) := by
  induction ps with
  | nil => rfl
  | cons p ps ih =>
    rw [List.flatMap_cons, List.append_assoc, units?_escapePoint, ih]
    rfl

/-- A text reads back from between its quotes. -/
theorem string?_quoted {v : Value} (htext : v.IsText) (hsettled : Settled v.points)
    (rest : List Char) :
    string? (v.points.flatMap escapePoint ++ '"' :: rest) = some (v, rest) := by
  rw [string?, units?_flatMap_escapePoint, Option.map_some, joinUnits_flatMap_unitsOf hsettled,
    Value.ofPoints_points htext]

theorem string_eq_quoted (s : String) : string s.toList = quoted (Text.points s) := by
  rw [string, quoted, Text.points, List.flatMap_map]
  rfl

/-- A text is written between quotes. -/
theorem writeWith_of_isText (other : Value → Except Fault String) {v : Value} (h : v.IsText) :
    writeWith other v = .ok (quoted v.points) := by
  cases v with
  | text s =>
    rw [writeWith, string_eq_quoted]
    rfl
  | torn t => rfl
  | _ => exact absurd h id

/-- A text is written as a key between quotes. -/
theorem key_of_isText {v : Value} (h : v.IsText) : key v = .ok (quoted v.points) := by
  cases v with
  | text s => exact congrArg Except.ok (string_eq_quoted s)
  | torn t => rfl
  | _ => exact absurd h id

end DocumentStore.Json
