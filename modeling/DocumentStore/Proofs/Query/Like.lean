import DocumentStore.Proofs.Statement.Compiled
import Mathlib.Data.List.Infix

/-!
# Pattern filters and LIKE

`LIKE` reads a pattern item by item: a percent sign stands for any text, an underscore for any one
code point, a backslash takes the code point behind it as it is, and all else stands for itself. A
pattern that ends in a backslash with nothing to take is an error. The pattern of a filter is never
one: escaped, each code point of the text that is looked for stands for itself
(`Like.items?_escapeLike`), so between its two percent signs it matches exactly the texts that hold
that text (`Like.matches?_around`). Folding code points on both sides changes nothing about that as
long as the signs of patterns are left alone (`Like.map_escapeLike`).
-/

set_option autoImplicit false

namespace DocumentStore

open Sql Fallible
open Text (Point)

namespace Like

/-! ## Matching -/

/-- An item of a pattern: any text, any one code point, or a code point that stands for itself. -/
inductive Item where
  | anyText
  | anyPoint
  | point (p : Point)
deriving DecidableEq, Repr

/-- The item of a code point that no backslash takes. -/
def itemOf (p : Point) : Item :=
  if p = .char '%' then .anyText else if p = .char '_' then .anyPoint else .point p

/-- The items of a pattern, read behind a backslash or not; a backslash at the end has nothing to
take. -/
def items? (escaped : Bool) : List Point → Option (List Item)
  | [] => if escaped then none else some []
  | p :: ps =>
    if escaped then (items? false ps).map (.point p :: ·)
    else if p = .char '\\' then items? true ps
    else (items? false ps).map (itemOf p :: ·)

/-- Whether items stand for the whole of a text. Any text leaves some end of the text to the items
behind it. -/
def accepts : List Item → List Point → Bool
  | [], text => text.isEmpty
  | .anyText :: items, text => text.tails.any (accepts items)
  | .anyPoint :: items, text =>
    match text with
    | [] => false
    | _ :: rest => accepts items rest
  | .point p :: items, text =>
    match text with
    | [] => false
    | q :: rest => p = q && accepts items rest

/-- Whether a pattern matches a text; nothing when the pattern is an error. -/
def matches? (pattern text : List Point) : Option Bool :=
  (items? false pattern).map fun items => accepts items text

/-- The code points that have a meaning of their own in a pattern. -/
def signs : List Point := [.char '\\', .char '%', .char '_']

/-- A folding of code points that keeps the signs of patterns and makes no other code point one of
them. -/
structure Folds (fold : Point → Point) : Prop where
  keeps : ∀ p ∈ signs, fold p = p
  adds_none : ∀ p, fold p ∈ signs → p ∈ signs

/-! ## Escaped texts -/

/-- A text with a backslash put before each occurrence of a code point. -/
def guarded (sign : Point) (ps : List Point) : List Point :=
  ps.flatMap fun p => if p = sign then [.char '\\', p] else [p]

theorem escapePoint_of_mem {p : Point} (h : p ∈ signs) :
    Pattern.escapePoint p = [.char '\\', p] := by
  rw [Pattern.escapePoint, if_pos]
  simpa [signs] using h

theorem escapePoint_of_not_mem {p : Point} (h : p ∉ signs) : Pattern.escapePoint p = [p] := by
  rw [Pattern.escapePoint, if_neg]
  simpa [signs] using h

/-- The signs are escaped one kind after the other. The backslashes go first, since the ones that
are put before the other signs are not to be escaped again. -/
theorem escapeLike_eq_guarded (ps : List Point) :
    Pattern.escapeLike ps =
      guarded (.char '_') (guarded (.char '%') (guarded (.char '\\') ps)) := by
  induction ps with
  | nil => rfl
  | cons p ps ih =>
    have hguarded (sign : Point) (a b : List Point) :
        guarded sign (a ++ b) = guarded sign a ++ guarded sign b := List.flatMap_append
    have hpoint : Pattern.escapePoint p =
        guarded (.char '_') (guarded (.char '%') (guarded (.char '\\') [p])) := by
      by_cases hp : p ∈ signs
      · simp only [signs, List.mem_cons, List.not_mem_nil, or_false] at hp
        rcases hp with rfl | rfl | rfl <;> decide
      · rw [escapePoint_of_not_mem hp]
        simp only [signs, List.mem_cons, List.not_mem_nil, or_false, not_or] at hp
        simp [guarded, hp]
    have hcons : guarded (.char '\\') (p :: ps) =
        guarded (.char '\\') [p] ++ guarded (.char '\\') ps := hguarded _ [p] ps
    rw [hcons, hguarded, hguarded, ← hpoint, ← ih]
    rfl

/-- Each code point of an escaped text stands for itself. -/
theorem items?_escapeLike (ps rest : List Point) :
    items? false (Pattern.escapeLike ps ++ rest) =
      (items? false rest).map (ps.map Item.point ++ ·) := by
  induction ps with
  | nil => simp [Pattern.escapeLike]
  | cons p ps ih =>
    have hcons : Pattern.escapeLike (p :: ps) = Pattern.escapePoint p ++ Pattern.escapeLike ps :=
      rfl
    -- a sign is taken by the backslash before it, and what is no sign needs none
    have hpoint : items? false (Pattern.escapePoint p ++ (Pattern.escapeLike ps ++ rest)) =
        (items? false (Pattern.escapeLike ps ++ rest)).map (Item.point p :: ·) := by
      by_cases hp : p ∈ signs
      · rw [escapePoint_of_mem hp]
        rfl
      · rw [escapePoint_of_not_mem hp]
        simp only [signs, List.mem_cons, List.not_mem_nil, or_false, not_or] at hp
        simp [items?, itemOf, hp]
    rw [hcons, List.append_assoc, hpoint, ih, Option.map_map]
    rfl

/-! ## Texts that hold a text -/

/-- Code points that stand for themselves are the beginning of the text. -/
theorem accepts_points (ps : List Point) (items : List Item) (text : List Point) :
    accepts (ps.map Item.point ++ items) text = true ↔
      ∃ rest, text = ps ++ rest ∧ accepts items rest = true := by
  induction ps generalizing text with
  | nil => simp
  | cons p ps ih =>
    cases text with
    | nil => simp [accepts]
    | cons q text =>
      simp only [List.map_cons, List.cons_append, accepts, Bool.and_eq_true, decide_eq_true_eq, ih,
        List.cons.injEq]
      constructor
      · rintro ⟨rfl, rest, rfl, hrest⟩
        exact ⟨rest, ⟨rfl, rfl⟩, hrest⟩
      · rintro ⟨rest, ⟨rfl, rfl⟩, hrest⟩
        exact ⟨rfl, rest, rfl, hrest⟩

/-- With any text on either side, code points match the texts that hold them. -/
theorem accepts_around (ps text : List Point) :
    accepts (.anyText :: ps.map Item.point ++ [.anyText]) text = true ↔ ps <:+: text := by
  have hlast (rest : List Point) : accepts [.anyText] rest = true := by
    rw [accepts, List.any_eq_true]
    exact ⟨[], (List.mem_tails _ _).2 (List.nil_suffix), rfl⟩
  rw [List.cons_append, accepts, List.any_eq_true, List.infix_iff_prefix_suffix]
  constructor
  · rintro ⟨last, hlast, haccepts⟩
    obtain ⟨rest, rfl, -⟩ := (accepts_points ps _ last).1 haccepts
    exact ⟨ps ++ rest, List.prefix_append ps rest, (List.mem_tails _ _).1 hlast⟩
  · rintro ⟨last, ⟨rest, rfl⟩, hsuffix⟩
    exact ⟨ps ++ rest, (List.mem_tails _ _).2 hsuffix,
      (accepts_points ps _ _).2 ⟨rest, rfl, hlast rest⟩⟩

/-- An escaped text with any text on either side matches the texts that hold it, and is never an
error. -/
theorem matches?_around (ps text : List Point) :
    matches? (.char '%' :: Pattern.escapeLike ps ++ [.char '%']) text =
      some (decide (ps <:+: text)) := by
  have hopen (rest : List Point) :
      items? false (.char '%' :: rest) = (items? false rest).map (Item.anyText :: ·) := by
    simp [items?, itemOf]
  have hitems : items? false (.char '%' :: Pattern.escapeLike ps ++ [.char '%']) =
      some (.anyText :: ps.map Item.point ++ [.anyText]) := by
    rw [List.cons_append, hopen, items?_escapeLike, hopen]
    rfl
  rw [matches?, hitems, Option.map_some, Option.some_inj, Bool.eq_iff_iff, accepts_around,
    decide_eq_true_iff]

/-! ## Folding -/

/-- Folding an escaped text escapes the folded text. -/
theorem map_escapeLike {fold : Point → Point} (hfold : Folds fold) (ps : List Point) :
    (Pattern.escapeLike ps).map fold = Pattern.escapeLike (ps.map fold) := by
  have hpoint (p : Point) : (Pattern.escapePoint p).map fold = Pattern.escapePoint (fold p) := by
    by_cases hp : p ∈ signs
    · have hbackslash : fold (.char '\\') = .char '\\' := hfold.keeps _ (by decide)
      rw [hfold.keeps p hp, escapePoint_of_mem hp, List.map_cons, List.map_singleton, hbackslash,
        hfold.keeps p hp]
    · have hfolded : fold p ∉ signs := fun h => hp (hfold.adds_none p h)
      rw [escapePoint_of_not_mem hp, escapePoint_of_not_mem hfolded, List.map_singleton]
  rw [Pattern.escapeLike, Pattern.escapeLike, List.map_flatMap, List.flatMap_map]
  simp only [hpoint]

end Like

/-! ## Pattern filters -/

/-- A pattern filter on a field that can be written is an `ILIKE` with one parameter: the pattern
without its anchors, escaped sign by sign, between two percent signs. As a pattern of `LIKE` the
parameter is no error, and it matches exactly the texts in which the pattern without its anchors
occurs; and the same holds when the parameter and the text are folded. A pattern that is no text
stands for its plain text, and it is a fault when it has none. -/
theorem regex_matches_occurrences (s : FieldSchema) {field : Value} (hfield : IsName field)
    (operand : Value) (index : Int) :
    (operand.IsText → operand.writable = true) ∧
    (operand.writable = true →
      ∃ param, compileCondition s ⟨some .regex, field, operand⟩ index =
          .ok ([pieceOf field, .fixed " ILIKE ", .placeholder index], param) ∧
        param.IsText ∧
        param.points = .char '%' :: Like.guarded (.char '_') (Like.guarded (.char '%')
          (Like.guarded (.char '\\') (Pattern.stripAnchors operand.points))) ++ [.char '%'] ∧
        (∀ text : List Point, Like.matches? param.points text =
          some (decide (Pattern.stripAnchors operand.points <:+: text))) ∧
        ∀ fold, Like.Folds fold → ∀ text : List Point,
          Like.matches? (param.points.map fold) (text.map fold) =
            some (decide ((Pattern.stripAnchors operand.points).map fold <:+: text.map fold))) ∧
    (operand.writable = false →
      compileCondition s ⟨some .regex, field, operand⟩ index = .error (.value .unwritable)) := by
  have hpoints := Value.points_ofPoints (Pattern.contains operand.points)
  have hparameter : Condition.parameter s ⟨some .regex, field, operand⟩ =
      operand.written (Value.ofPoints (Pattern.contains operand.points)) := by
    rw [Condition.parameter, show Sql.nameOf field = .ok (pieceOf field) from hfield]
    rfl
  refine ⟨Value.IsText.writable, fun hwritable => ?_, fun hunwritable => ?_⟩
  · refine ⟨Value.ofPoints (Pattern.contains operand.points), ?_,
      Value.isText_ofPoints _, ?_, ?_, ?_⟩
    · rw [compileCondition_eq, hparameter, Value.written_of_writable hwritable]
      rfl
    · rw [hpoints, Pattern.contains, Like.escapeLike_eq_guarded]
    · intro text
      rw [hpoints]
      exact Like.matches?_around _ text
    · intro fold hfold text
      have hpercent : fold (.char '%') = .char '%' := hfold.keeps _ (by decide)
      rw [hpoints, Pattern.contains, List.map_append, List.map_cons, List.map_singleton, hpercent,
        Like.map_escapeLike hfold]
      exact Like.matches?_around _ (text.map fold)
  · rw [compileCondition_eq, hparameter, Value.written_eq_error.2 ⟨hunwritable, rfl⟩]
    rfl

/-- Small letters for the capitals of ASCII. -/
def smallLetter : Point → Point
  | .char c => .char c.toLower
  | p => p

theorem folds_smallLetter : Like.Folds smallLetter := by
  -- a capital becomes a small letter, and no sign is one
  have hletter (c : Char) : c.toLower = c ∨ 97 ≤ c.toLower.toNat ∧ c.toLower.toNat ≤ 122 := by
    unfold Char.toLower
    split
    · next hcapital =>
      obtain ⟨hlower, hupper⟩ := hcapital
      have hlower : 65 ≤ c.val.toNat := hlower
      have hupper : c.val.toNat ≤ 90 := hupper
      have hmoved : (c.val + ('a'.val - 'A'.val)).toNat = c.val.toNat + 32 := by
        have hstep : ('a'.val - 'A'.val).toNat = 32 := rfl
        rw [UInt32.toNat_add, hstep]
        omega
      right
      show 97 ≤ (c.val + ('a'.val - 'A'.val)).toNat ∧ (c.val + ('a'.val - 'A'.val)).toNat ≤ 122
      omega
    · exact .inl rfl
  constructor
  · decide
  · intro p hp
    cases p with
    | lone i => exact hp
    | char c =>
      have hsmall : ∀ q ∈ Like.signs, ∀ d, q = .char d → d.toNat < 97 := by
        intro q hq d hd
        simp only [Like.signs, List.mem_cons, List.not_mem_nil, or_false] at hq
        rcases hq with rfl | rfl | rfl <;> cases hd <;> decide
      rcases hletter c with hkept | ⟨hlower, -⟩
      · rwa [smallLetter, hkept] at hp
      · have hsign := hsmall _ hp c.toLower rfl
        omega

theorem matches_of_escapedPattern :
    ∃ param, IsName (.text "a\"b") ∧
      compileCondition .empty ⟨some .regex, .text "a\"b", .text "^50%_A\\$"⟩ 3 =
        .ok ([.name "a\"b", .fixed " ILIKE ", .placeholder 3], param) ∧
      Like.matches? param.points (Text.points "x50%_A\\$y") = some true ∧
      Like.matches? param.points (Text.points "50 A") = some false ∧
      Like.matches? (param.points.map smallLetter) ((Text.points "50%_a\\$").map smallLetter) =
        some true := by
  have hfield : IsName (.text "a\"b") := rfl
  obtain ⟨htext, hpattern, -⟩ := regex_matches_occurrences .empty hfield (.text "^50%_A\\$") 3
  obtain ⟨param, hcompiled, -, -, hmatches, hfolded⟩ := hpattern (htext trivial)
  refine ⟨param, hfield, hcompiled, ?_, ?_, ?_⟩
  · rw [hmatches]
    decide
  · rw [hmatches]
    decide
  · rw [hfolded smallLetter folds_smallLetter]
    decide

end DocumentStore
