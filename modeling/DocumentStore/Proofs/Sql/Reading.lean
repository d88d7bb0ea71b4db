import DocumentStore.Sql

/-!
# Reading SQL text

A reader of SQL text that takes one code point at a time. A double quote opens a name, a doubled
quote inside it stands for one quote, a single quote closes it; outside names a dollar sign opens
the number of a placeholder, which goes on as long as digits follow. `read` gives the tokens of a
text, or nothing when the text ends inside a name.

A text that is written from pieces reads back as the pieces (`read_points`), whatever the names
hold. It needs that nothing runs into what stands behind it: a name or a placeholder is followed
neither by a quote nor by a digit (`Bounded`), and fixed text holds neither quotes nor dollar signs
(`Plain`). `Spaced` says so of a list of pieces.
-/

set_option autoImplicit false

namespace DocumentStore.Sql

open Text (Point)

/-! ## The reader -/

/-- What a reader finds: a quoted name, a numbered placeholder, or a code point by itself. -/
inductive Token where
  | name (points : List Point)
  | placeholder (number : Int)
  | other (point : Point)
deriving DecidableEq, Repr

/-- Where a reader stands: outside names, inside a name, behind a quote inside a name, or in the
number of a placeholder, with what was read of the name or the number. -/
inductive Place where
  | plain
  | name (read : List Point)
  | quote (read : List Point)
  | number (read : List Char)

/-- The integer that a decimal numeral denotes. -/
def numeral? : List Char → Option Int
  | [] => none
  | ['-'] => none
  | '-' :: digits => some (-(Nat.ofDigitChars 10 digits 0 : Nat))
  | digits => some (Nat.ofDigitChars 10 digits 0 : Nat)

/-- The tokens of a dollar sign and the number behind it. -/
def numberTokens (read : List Char) : List Token :=
  match numeral? read with
  | some n => [.placeholder n]
  | none => .other (.char '$') :: read.map fun c => .other (.char c)

/-- The character by which a code point extends a number: a digit, or a minus sign at its front. -/
def nextDigit? (read : List Char) : Point → Option Char
  | .char c => if c.isDigit = true ∨ (c = '-' ∧ read = []) then some c else none
  | .lone _ => none

/-- Takes a code point outside names. -/
def enter (p : Point) : Place × List Token :=
  if p = .char '"' then (.name [], [])
  else if p = .char '$' then (.number [], [])
  else (.plain, [.other p])

/-- Takes one code point: where the reader stands next, and the tokens that are complete. -/
def step : Place → Point → Place × List Token
  | .plain, p => enter p
  | .name read, p => if p = .char '"' then (.quote read, []) else (.name (read ++ [p]), [])
  | .quote read, p =>
    if p = .char '"' then (.name (read ++ [p]), [])
    else ((enter p).1, .name read :: (enter p).2)
  | .number read, p =>
    match nextDigit? read p with
    | some c => (.number (read ++ [c]), [])
    | none => ((enter p).1, numberTokens read ++ (enter p).2)

/-- The tokens that are complete at the end of a text; a text does not end inside a name. -/
def Place.atEnd : Place → Option (List Token)
  | .plain => some []
  | .name _ => none
  | .quote read => some [.name read]
  | .number read => some (numberTokens read)

/-- The tokens of a text, read from a place. -/
def scan : Place → List Point → Option (List Token)
  | place, [] => place.atEnd
  | place, p :: ps => (scan (step place p).1 ps).map ((step place p).2 ++ ·)

/-- The tokens of a text. -/
def read (text : List Point) : Option (List Token) := scan .plain text

/-! ## What stands behind a name or a placeholder -/

/-- A code point that runs into a name or a placeholder before it. -/
def runsOn (p : Point) : Bool :=
  match p with
  | .char c => c = '"' || c.isDigit
  | .lone _ => false

/-- A text whose first code point does not run into what stands before it. -/
def Bounded (text : List Point) : Prop := ∀ p ∈ text.head?, runsOn p = false

theorem bounded_nil : Bounded [] := by
  intro p hp
  simp at hp

theorem bounded_append {a b : List Point} (ha : Bounded a) (hb : Bounded b) : Bounded (a ++ b) := by
  cases a with
  | nil => exact hb
  | cons p ps => exact ha

/-- Behind a quote inside a name, a text that does not run on closes the name. -/
theorem scan_quote (n : List Point) {rest : List Point} (h : Bounded rest) :
    scan (.quote n) rest = (scan .plain rest).map (Token.name n :: ·) := by
  cases rest with
  | nil => rfl
  | cons p ps =>
    -- a quote here would be the second of a doubled one
    have hp : p ≠ .char '"' := by
      rintro rfl
      exact absurd (h _ rfl) (by decide)
    simp only [scan, step, if_neg hp, Option.map_map]
    rfl

/-- A text that does not run on ends the number of a placeholder. -/
theorem scan_number {digits : List Char} (hne : digits ≠ []) {rest : List Point}
    (h : Bounded rest) :
    scan (.number digits) rest = (scan .plain rest).map (numberTokens digits ++ ·) := by
  cases rest with
  | nil => simp [scan, Place.atEnd]
  | cons p ps =>
    -- no digit follows, and a minus sign belongs to a number at its front only
    have hp : nextDigit? digits p = none := by
      have hrun := h p rfl
      cases p with
      | lone i => rfl
      | char c =>
        simp only [runsOn, Bool.or_eq_false_iff] at hrun
        simp [nextDigit?, hrun.2, hne]
    simp only [scan, step, hp, Option.map_map]
    congr 1
    funext tokens
    simp

/-! ## Names -/

/-- Inside a name, a doubled quote stands for a quote and anything else for itself. -/
theorem scan_flatMap_doubled (n got : List Point) (rest : List Point) :
    scan (.name got) (n.flatMap doubled ++ rest) = scan (.name (got ++ n)) rest := by
  induction n generalizing got with
  | nil => simp
  | cons p n ih =>
    -- a quote takes two steps, anything else takes one
    have key : scan (.name got) (doubled p ++ (n.flatMap doubled ++ rest)) =
        scan (.name (got ++ [p])) (n.flatMap doubled ++ rest) := by
      by_cases hp : p = .char '"'
      · subst hp
        simp [doubled, scan, step]
      · simp [doubled, hp, scan, step]
    rw [List.flatMap_cons, List.append_assoc, key, ih, List.append_assoc]
    rfl

/-- A quoted name reads back as the name, before any text that does not run on. -/
theorem scan_quoted (n : List Point) {rest : List Point} (h : Bounded rest) :
    scan .plain (quoted n ++ rest) = (scan .plain rest).map (Token.name n :: ·) := by
  have hopen : scan .plain (quoted n ++ rest) =
      scan (.name []) (n.flatMap doubled ++ (.char '"' :: rest)) := by
    simp [quoted, scan, step, enter]
  have hclose : scan (.name n) (.char '"' :: rest) = scan (.quote n) rest := by
    simp [scan, step]
  rw [hopen, scan_flatMap_doubled, List.nil_append, hclose, scan_quote n h]

/-! ## Placeholders -/

theorem isDigit_of_mem_ofNat {n : Nat} {c : Char} (h : c ∈ Text.Numeral.ofNat n) :
    c.isDigit = true :=
  Nat.isDigit_of_mem_toDigits (by decide) (by decide) h

/-- A numeral denotes the integer that it was written for. -/
theorem numeral?_ofInt (n : Int) : numeral? (Text.Numeral.ofInt n) = some n := by
  have hvalue (k : Nat) : Nat.ofDigitChars 10 (Text.Numeral.ofNat k) 0 = k :=
    Nat.ofDigitChars_ten_toDigits
  have hne (k : Nat) : Text.Numeral.ofNat k ≠ [] := Nat.toDigits_ne_nil
  cases n with
  | ofNat k =>
    show numeral? (Text.Numeral.ofNat k) = some (k : Int)
    have hminus : '-' ∉ Text.Numeral.ofNat k := fun h =>
      absurd (isDigit_of_mem_ofNat h) (by decide)
    unfold numeral?
    split
    · next heq => exact absurd heq (hne k)
    · next heq => exact absurd (by rw [heq]; simp) hminus
    · next digits hd heq => exact absurd (by rw [heq]; simp) hminus
    · rw [hvalue]
  | negSucc k =>
    -- behind the sign stands the numeral of the absolute value
    show numeral? ('-' :: Text.Numeral.ofNat (k + 1)) = some (Int.negSucc k)
    have hk := hvalue (k + 1)
    cases hd : Text.Numeral.ofNat (k + 1) with
    | nil => exact absurd hd (hne (k + 1))
    | cons d ds =>
      rw [hd] at hk
      simp only [numeral?, hk]
      rfl

theorem ofInt_ne_nil (n : Int) : Text.Numeral.ofInt n ≠ [] := by
  cases n with
  | ofNat k => exact Nat.toDigits_ne_nil
  | negSucc k => exact List.cons_ne_nil _ _

/-- A numeral has digits, and a minus sign at most. -/
theorem isDigit_or_eq_minus_of_mem_ofInt {n : Int} {c : Char} (h : c ∈ Text.Numeral.ofInt n) :
    c.isDigit = true ∨ c = '-' := by
  cases n with
  | ofNat k => exact .inl (isDigit_of_mem_ofNat h)
  | negSucc k =>
    rcases List.mem_cons.1 h with rfl | h
    · exact .inr rfl
    · exact .inl (isDigit_of_mem_ofNat h)

/-- Digits extend a number that is being read. -/
theorem scan_number_digits (digits got : List Char) (hd : ∀ c ∈ digits, c.isDigit = true)
    (rest : List Point) :
    scan (.number got) (digits.map .char ++ rest) = scan (.number (got ++ digits)) rest := by
  induction digits generalizing got with
  | nil => simp
  | cons c digits ih =>
    have hc : nextDigit? got (.char c) = some c := by
      simp [nextDigit?, hd c List.mem_cons_self]
    have hrest := ih (got ++ [c]) fun d h => hd d (List.mem_cons_of_mem c h)
    rw [List.append_assoc] at hrest
    simpa [scan, step, hc] using hrest

/-- A placeholder reads back as its number, before any text that does not run on. -/
theorem scan_placeholder (n : Int) {rest : List Point} (h : Bounded rest) :
    scan .plain (piecePoints (.placeholder n) ++ rest) =
      (scan .plain rest).map (Token.placeholder n :: ·) := by
  have hopen : scan .plain (piecePoints (.placeholder n) ++ rest) =
      scan (.number []) ((Text.Numeral.ofInt n).map .char ++ rest) := by
    simp [piecePoints, scan, step, enter]
  have hnumber : scan (.number []) ((Text.Numeral.ofInt n).map .char ++ rest) =
      scan (.number (Text.Numeral.ofInt n)) rest := by
    cases n with
    | ofNat k => exact scan_number_digits _ [] (fun c => isDigit_of_mem_ofNat) rest
    | negSucc k =>
      -- the sign is taken at the front, the digits go on behind it
      have hdigits := scan_number_digits (Text.Numeral.ofNat (k + 1)) ['-']
        (fun c => isDigit_of_mem_ofNat) rest
      simpa [Text.Numeral.ofInt, scan, step, nextDigit?] using hdigits
  rw [hopen, hnumber, scan_number (ofInt_ne_nil n) h]
  simp [numberTokens, numeral?_ofInt]

/-! ## Texts in pieces -/

/-- Fixed text without quotes and dollar signs. -/
def Plain (text : String) : Prop := ∀ c ∈ text.toList, c ≠ '"' ∧ c ≠ '$'

instance (text : String) : Decidable (Plain text) :=
  List.decidableBAll (fun c => c ≠ '"' ∧ c ≠ '$') text.toList

/-- Pieces that do not run into each other when they are written out. -/
def Spaced : Sql → Prop
  | [] => True
  | .fixed text :: rest => Plain text ∧ Spaced rest
  | _ :: rest => Bounded (points rest) ∧ Spaced rest

/-- The tokens of a piece. -/
def pieceTokens : Piece → List Token
  | .fixed text => (Text.points text).map .other
  | .name name => [.name (Text.points name)]
  | .tornName name => [.name name.points]
  | .placeholder number => [.placeholder number]

/-- The tokens of pieces. -/
def tokens (sql : Sql) : List Token := sql.flatMap pieceTokens

@[simp] theorem tokens_nil : tokens [] = [] := rfl

@[simp] theorem tokens_cons (p : Piece) (sql : Sql) :
    tokens (p :: sql) = pieceTokens p ++ tokens sql := rfl

@[simp] theorem tokens_append (a b : Sql) : tokens (a ++ b) = tokens a ++ tokens b := by
  simp [tokens, List.flatMap_append]

/-- Plain text reads back as its code points. -/
theorem scan_plain (cs : List Char) (h : ∀ c ∈ cs, c ≠ '"' ∧ c ≠ '$') (rest : List Point) :
    scan .plain (cs.map .char ++ rest) =
      (scan .plain rest).map (cs.map (fun c => Token.other (.char c)) ++ ·) := by
  induction cs with
  | nil => simp
  | cons c cs ih =>
    obtain ⟨hquote, hdollar⟩ := h c List.mem_cons_self
    have hrest := ih fun d hd => h d (List.mem_cons_of_mem c hd)
    have henter : enter (.char c) = (.plain, [.other (.char c)]) := by
      simp [enter, hquote, hdollar]
    simp only [List.map_cons, List.cons_append, scan, step, henter, hrest, Option.map_map]
    rfl

/-- A text that is written from spaced pieces reads back as their tokens. -/
theorem read_points {sql : Sql} (h : Spaced sql) : read (points sql) = some (tokens sql) := by
  rw [read]
  -- on the pieces; every piece but fixed text closes at what stands behind it
  induction sql with
  | nil => rfl
  | cons p sql ih =>
    cases p with
    | fixed text =>
      obtain ⟨hplain, hrest⟩ := h
      have hpoints : piecePoints (.fixed text) = text.toList.map .char := rfl
      rw [points_cons, hpoints, scan_plain _ hplain, ih hrest]
      simp [pieceTokens, Text.points]
    | name name =>
      obtain ⟨hbounded, hrest⟩ := h
      have hpoints : piecePoints (.name name) = quoted (Text.points name) := rfl
      rw [points_cons, hpoints, scan_quoted _ hbounded, ih hrest]
      rfl
    | tornName name =>
      obtain ⟨hbounded, hrest⟩ := h
      have hpoints : piecePoints (.tornName name) = quoted name.points := rfl
      rw [points_cons, hpoints, scan_quoted _ hbounded, ih hrest]
      rfl
    | placeholder n =>
      obtain ⟨hbounded, hrest⟩ := h
      rw [points_cons, scan_placeholder n hbounded, ih hrest]
      rfl

/-! ### Putting spaced pieces together -/

theorem bounded_points_append {a b : Sql} (ha : Bounded (points a)) (hb : Bounded (points b)) :
    Bounded (points (a ++ b)) := by
  rw [points_append]
  exact bounded_append ha hb

/-- A fixed text whose first character does not run into what stands before it. -/
def opens (text : String) : Bool :=
  match text.toList with
  | c :: _ => !runsOn (.char c)
  | [] => false

theorem bounded_fixed {text : String} (h : opens text = true) (rest : Sql) :
    Bounded (points (.fixed text :: rest)) := by
  intro p hp
  have hpoints : points (.fixed text :: rest) = text.toList.map .char ++ points rest := rfl
  rw [hpoints] at hp
  unfold opens at h
  cases hc : text.toList with
  | nil => simp [hc] at h
  | cons c cs =>
    rw [hc] at h hp
    simp only [List.map_cons, List.cons_append, List.head?_cons, Option.mem_def,
      Option.some.injEq] at hp
    subst hp
    simpa using h

theorem spaced_append {a b : Sql} (ha : Spaced a) (hb : Spaced b) (h : Bounded (points b)) :
    Spaced (a ++ b) := by
  induction a with
  | nil => exact hb
  | cons p a ih =>
    cases p with
    | fixed text => exact ⟨ha.1, ih ha.2⟩
    | _ =>
      -- what stands behind the piece is the rest of `a`, or `b` when there is none
      have hbounded : Bounded (points (a ++ b)) := bounded_points_append ha.1 h
      exact ⟨hbounded, ih ha.2⟩

/-- Spaced texts with a fixed separator between them are spaced. -/
theorem spaced_join {separator : String} (hplain : Plain separator)
    (hopens : opens separator = true) (sqls : List Sql) (h : ∀ sql ∈ sqls, Spaced sql) :
    Spaced (join separator sqls) := by
  fun_induction join separator sqls with
  | case1 => trivial
  | case2 sql => exact h sql List.mem_cons_self
  | case3 sql rest hne ih =>
    have hrest := ih fun q hq => h q (List.mem_cons_of_mem sql hq)
    exact spaced_append (h sql List.mem_cons_self) ⟨hplain, hrest⟩ (bounded_fixed hopens _)

/-! ## What a reader makes of tokens -/

/-- The name that a token is. -/
def Token.name? : Token → Option (List Point)
  | .name n => some n
  | _ => none

/-- The number of the placeholder that a token is. -/
def Token.number? : Token → Option Int
  | .placeholder n => some n
  | _ => none

/-- The names among tokens. -/
def names (ts : List Token) : List (List Point) := ts.filterMap Token.name?

/-- The numbers of the placeholders among tokens. -/
def numbers (ts : List Token) : List Int := ts.filterMap Token.number?

@[simp] theorem names_nil : names [] = [] := rfl

@[simp] theorem names_append (a b : List Token) : names (a ++ b) = names a ++ names b :=
  List.filterMap_append

@[simp] theorem numbers_nil : numbers [] = [] := rfl

@[simp] theorem numbers_append (a b : List Token) : numbers (a ++ b) = numbers a ++ numbers b :=
  List.filterMap_append

@[simp] theorem names_fixed (text : String) : names (pieceTokens (.fixed text)) = [] := by
  simp [names, pieceTokens, Text.points, Token.name?]

@[simp] theorem numbers_fixed (text : String) : numbers (pieceTokens (.fixed text)) = [] := by
  simp [numbers, pieceTokens, Text.points, Token.number?]

@[simp] theorem names_placeholder (n : Int) : names (pieceTokens (.placeholder n)) = [] := rfl

@[simp] theorem numbers_placeholder (n : Int) : numbers (pieceTokens (.placeholder n)) = [n] := rfl

/-- A separator adds no names. -/
theorem names_join (separator : String) (sqls : List Sql) :
    names (tokens (join separator sqls)) = sqls.flatMap fun sql => names (tokens sql) := by
  fun_induction join separator sqls with
  | case1 => rfl
  | case2 sql => simp
  | case3 sql rest hne ih => simp [ih]

/-- A separator adds no placeholders. -/
theorem numbers_join (separator : String) (sqls : List Sql) :
    numbers (tokens (join separator sqls)) = sqls.flatMap fun sql => numbers (tokens sql) := by
  fun_induction join separator sqls with
  | case1 => rfl
  | case2 sql => simp
  | case3 sql rest hne ih => simp [ih]

/-! ### Names replaced by marks -/

/-- What stands for a name where names are left out. -/
def mark : Piece := .fixed "□"

/-- A token as text, a name as a mark. -/
def Token.residue : Token → List Point
  | .name _ => piecePoints mark
  | .placeholder n => piecePoints (.placeholder n)
  | .other p => [p]

/-- The text that is left of tokens when every name is replaced by a mark. -/
def residue (ts : List Token) : List Point := ts.flatMap Token.residue

/-- A piece, a name as a mark. -/
def marked : Piece → Piece
  | .name _ => mark
  | .tornName _ => mark
  | p => p

/-- What is left of pieces are the pieces with marks for names. -/
theorem residue_tokens (sql : Sql) : residue (tokens sql) = points (sql.map marked) := by
  induction sql with
  | nil => rfl
  | cons p sql ih =>
    have happend : residue (tokens (p :: sql)) =
        residue (pieceTokens p) ++ residue (tokens sql) := by
      simp [residue, List.flatMap_append]
    have hpiece : residue (pieceTokens p) = piecePoints (marked p) := by
      cases p with
      | fixed text =>
        show residue ((Text.points text).map .other) = Text.points text
        simp [residue, List.flatMap_map, Token.residue]
      | _ => simp [residue, pieceTokens, Token.residue, marked]
    rw [happend, hpiece, ih, List.map_cons, points_cons]

/-- No quote is left when names are replaced by marks. -/
theorem quote_not_mem_residue {sql : Sql} (h : Spaced sql) :
    Point.char '"' ∉ residue (tokens sql) := by
  rw [residue_tokens]
  induction sql with
  | nil => exact List.not_mem_nil
  | cons p sql ih =>
    have hmark : Point.char '"' ∉ piecePoints mark := by decide
    rw [List.map_cons, points_cons, List.mem_append, not_or]
    cases p with
    | fixed text =>
      refine ⟨?_, ih h.2⟩
      show Point.char '"' ∉ text.toList.map Point.char
      intro hmem
      obtain ⟨c, hc, heq⟩ := List.mem_map.1 hmem
      exact (h.1 c hc).1 (Point.char.inj heq)
    | name name => exact ⟨hmark, ih h.2⟩
    | tornName name => exact ⟨hmark, ih h.2⟩
    | placeholder n =>
      refine ⟨?_, ih h.2⟩
      show Point.char '"' ∉ Point.char '$' :: (Text.Numeral.ofInt n).map Point.char
      intro hmem
      rcases List.mem_cons.1 hmem with hquote | hmem
      · exact absurd hquote (by decide)
      · obtain ⟨c, hc, heq⟩ := List.mem_map.1 hmem
        rw [Point.char.inj heq] at hc
        exact absurd (isDigit_or_eq_minus_of_mem_ofInt hc) (by decide)

/-- Pieces are replaced inside a joined text when the separator stays. -/
theorem map_join (f : Piece → Piece) (separator : String)
    (hf : f (.fixed separator) = .fixed separator) (sqls : List Sql) :
    (join separator sqls).map f = join separator (sqls.map fun sql => sql.map f) := by
  fun_induction join separator sqls with
  | case1 => rfl
  | case2 sql => rfl
  | case3 sql rest hne ih =>
    rw [List.map_append, List.map_cons, hf, ih]
    cases rest with
    | nil => exact absurd rfl hne
    | cons q rest => rfl

end DocumentStore.Sql
