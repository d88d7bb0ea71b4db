import DocumentStore.Proofs.Sql.Reading
import Mathlib.Data.List.Forall2

/-!
# How placeholders are written

A third reader goes over the tokens of a statement and tells, for each placeholder, how it is
written: the cast that stands behind it, and whether it is the argument of the conversion from
seconds. It needs what stands before a placeholder as well as what stands behind it, so a part of a
text is read (`Spells`) behind anything that does not open a conversion and before anything that
does not go on with a cast.
-/

set_option autoImplicit false

namespace DocumentStore.Sql

open Text (Point)

/-! ## The reader -/

/-- How a placeholder is written. -/
structure Spelling where
  seconds : Bool
  cast : List Point
deriving DecidableEq, Repr

namespace Spelling

/-- A placeholder by itself. -/
def bare : Spelling := ⟨false, []⟩

/-- A placeholder with a cast. -/
def withCast (cast : String) : Spelling := ⟨false, Text.points cast⟩

/-- A placeholder as the argument of the conversion from seconds. -/
def ofSeconds : Spelling := ⟨true, []⟩

end Spelling

/-- The code point that a token is. -/
def Token.point? : Token → Option Point
  | .other p => some p
  | _ => none

/-- Whether a token belongs to a cast. -/
def isCast : Token → Bool
  | .other (.char c) => c = ':' || c = '[' || c = ']' || c.isAlpha
  | _ => false

/-- What opens the conversion from seconds. -/
def opener : List Token := pieceTokens (.fixed "to_timestamp(")

/-- How a placeholder is written between two texts. -/
def spelling (before behind : List Token) : Spelling where
  seconds := opener.isSuffixOf before && (behind.dropWhile isCast).head? = some (.other (.char ')'))
  cast := (behind.takeWhile isCast).filterMap Token.point?

/-- How the placeholders of a text are written behind another. -/
def spellings (before : List Token) : List Token → List Spelling
  | [] => []
  | .placeholder i :: ts => spelling before ts :: spellings (before ++ [.placeholder i]) ts
  | t :: ts => spellings (before ++ [t]) ts

/-! ## One part after the other -/

/-- A text that opens no conversion. -/
def Shut (before : List Token) : Prop := opener.isSuffixOf before = false

/-- A text that does not go on with a cast. -/
def Uncast (behind : List Token) : Prop := ∀ t ∈ behind.head?, isCast t = false

theorem uncast_nil : Uncast [] := by
  intro t ht
  cases ht

theorem uncast_append {a b : List Token} (ha : Uncast a) (hb : Uncast b) : Uncast (a ++ b) := by
  cases a with
  | nil => exact hb
  | cons t ts => exact ha

/-- Whether some token at the end of a text is not what the opener of a conversion has there. -/
def unlike (ts : List Token) : Bool := (ts.reverse.zip opener.reverse).any fun p => p.1 ≠ p.2

/-- A text with an end of its own opens no conversion, whatever stands before it. -/
theorem shut_append (before : List Token) {ts : List Token} (h : unlike ts = true) :
    Shut (before ++ ts) := by
  have hprefix (a b c : List Token) (hab : (a.zip b).any (fun p => p.1 ≠ p.2) = true) :
      b.isPrefixOf (a ++ c) = false := by
    induction a generalizing b with
    | nil => cases hab
    | cons x a ih =>
      cases b with
      | nil => cases hab
      | cons y b =>
        rw [List.zip_cons_cons, List.any_cons, Bool.or_eq_true] at hab
        rw [List.cons_append, List.isPrefixOf_cons_cons, Bool.and_eq_false_iff]
        rcases hab with hxy | hab
        · exact .inl (beq_false_of_ne (Ne.symm (of_decide_eq_true hxy)))
        · exact .inr (ih b hab)
  rw [Shut, List.isSuffixOf, List.reverse_append]
  exact hprefix _ _ _ h

/-- A part of a text and how its placeholders are written, wherever the part stands. -/
structure Spells (ts : List Token) (ss : List Spelling) : Prop where
  uncast : Uncast ts
  shut : ∀ before, Shut before → Shut (before ++ ts)
  spelled : ∀ before rest, Shut before → Uncast rest →
    spellings before (ts ++ rest) = ss ++ spellings (before ++ ts) rest

theorem spells_nil : Spells [] [] where
  uncast := uncast_nil
  shut before h := by rwa [List.append_nil]
  spelled before rest _ _ := by rw [List.append_nil]; rfl

theorem Spells.append {a b : List Token} {ss us : List Spelling} (ha : Spells a ss)
    (hb : Spells b us) :
    Spells (a ++ b) (ss ++ us) where
  uncast := uncast_append ha.uncast hb.uncast
  shut before h := by
    rw [← List.append_assoc]
    exact hb.shut _ (ha.shut before h)
  spelled before rest h hrest := by
    rw [List.append_assoc, ha.spelled before _ h (uncast_append hb.uncast hrest),
      hb.spelled _ rest (ha.shut before h) hrest, List.append_assoc, List.append_assoc]

/-- Tokens other than placeholders are passed over. -/
theorem spellings_append {ts : List Token} (h : numbers ts = []) (before rest : List Token) :
    spellings before (ts ++ rest) = spellings (before ++ ts) rest := by
  induction ts generalizing before with
  | nil => rw [List.append_nil, List.nil_append]
  | cons t ts ih =>
    cases t with
    | placeholder i => cases h
    | name n =>
      show spellings (before ++ [.name n]) (ts ++ rest) = _
      rw [ih h, List.append_assoc, List.singleton_append]
    | other p =>
      show spellings (before ++ [.other p]) (ts ++ rest) = _
      rw [ih h, List.append_assoc, List.singleton_append]

/-- A text without placeholders, with an end of its own. -/
theorem spells_text {ts : List Token} (hnone : numbers ts = []) (huncast : Uncast ts)
    (hunlike : unlike ts = true) : Spells ts [] where
  uncast := huncast
  shut before _ := shut_append before hunlike
  spelled before rest _ _ := spellings_append hnone before rest

/-- Fixed text with an end of its own. -/
theorem spells_fixed {text : String}
    (huncast : ∀ t ∈ (pieceTokens (.fixed text)).head?, isCast t = false)
    (hunlike : unlike (pieceTokens (.fixed text)) = true) : Spells (pieceTokens (.fixed text)) [] :=
  spells_text (numbers_fixed text) huncast hunlike

theorem spells_name (n : List Point) : Spells [.name n] [] :=
  spells_text rfl (fun t ht => by cases ht; rfl) rfl

/-- A placeholder with its cast. -/
theorem spells_placeholder (i : Int) {cast : String}
    (hcast : (pieceTokens (.fixed cast)).all isCast = true)
    (hunlike : unlike (.placeholder i :: pieceTokens (.fixed cast)) = true) :
    Spells (.placeholder i :: pieceTokens (.fixed cast)) [.withCast cast] where
  uncast t ht := by cases ht; rfl
  shut before _ := shut_append before hunlike
  spelled before rest hbefore hrest := by
    have hrestCast : rest.takeWhile isCast = [] ∧ rest.dropWhile isCast = rest := by
      cases rest with
      | nil => exact ⟨rfl, rfl⟩
      | cons t ts =>
        have ht := hrest t rfl
        exact ⟨List.takeWhile_cons_of_neg (by simp [ht]), List.dropWhile_cons_of_neg (by simp [ht])⟩
    have hall : ∀ t ∈ pieceTokens (.fixed cast), isCast t = true := List.all_eq_true.1 hcast
    have hpoints : (pieceTokens (.fixed cast)).filterMap Token.point? = Text.points cast := by
      show ((Text.points cast).map Token.other).filterMap Token.point? = _
      rw [List.filterMap_map]
      exact List.filterMap_some
    have hspelling : spelling before (pieceTokens (.fixed cast) ++ rest) = .withCast cast := by
      rw [spelling, show opener.isSuffixOf before = false from hbefore,
        List.takeWhile_append_of_pos hall, hrestCast.1, List.append_nil, hpoints]
      rfl
    rw [List.cons_append, spellings, hspelling, spellings_append (numbers_fixed cast),
      List.append_assoc]
    rfl

/-- A placeholder as the argument of the conversion from seconds, behind a text. -/
theorem spells_seconds {ts : List Token} (hnone : numbers ts = []) (huncast : Uncast ts)
    (hne : ts ≠ []) (i : Int) :
    Spells (ts ++ (opener ++ [.placeholder i, .other (.char ')')])) [.ofSeconds] where
  uncast t ht := by
    obtain ⟨u, us, rfl⟩ := List.exists_cons_of_ne_nil hne
    exact huncast t ht
  shut before _ := by
    rw [← List.append_assoc]
    exact shut_append _ rfl
  spelled before rest _ _ := by
    have hopener : numbers (ts ++ opener) = [] := by rw [numbers_append, hnone]; rfl
    have hsuffix : opener.isSuffixOf (before ++ (ts ++ opener)) = true := by
      rw [← List.append_assoc, List.isSuffixOf_iff_suffix]
      exact List.suffix_append _ _
    have hspelling : spelling (before ++ (ts ++ opener)) (.other (.char ')') :: rest) =
        .ofSeconds := by
      rw [spelling, hsuffix]
      rfl
    have hsplit : ts ++ (opener ++ [.placeholder i, .other (.char ')')]) ++ rest =
        (ts ++ opener) ++ .placeholder i :: .other (.char ')') :: rest := by simp
    rw [hsplit, spellings_append hopener, spellings, hspelling]
    show _ :: spellings _ rest = _
    simp

/-- Texts with a fixed separator between them. -/
theorem spells_join {separator : String} (hseparator : Spells (pieceTokens (.fixed separator)) [])
    {sqls : List Sql} {sss : List (List Spelling)}
    (h : List.Forall₂ (fun sql ss => Spells (tokens sql) ss) sqls sss) :
    Spells (tokens (join separator sqls)) sss.flatten := by
  induction h with
  | nil => exact spells_nil
  | @cons sql ss sqls sss hsql hsqls ih =>
    -- a separator stands behind every text but the last
    cases hsqls with
    | nil => simpa [join] using hsql
    | @cons next us sqls sss _ _ =>
      have hjoin : tokens (join separator (sql :: next :: sqls)) = tokens sql ++
          (pieceTokens (.fixed separator) ++ tokens (join separator (next :: sqls))) := by
        simp [join]
      rw [hjoin, List.flatten_cons]
      exact hsql.append (hseparator.append ih)

end DocumentStore.Sql
