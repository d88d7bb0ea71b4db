import DocumentStore.Proofs.Query.Like
import Mathlib.Algebra.Group.Nat.Even

/-!
# Anchors of patterns

A pattern may begin with a caret and end with a dollar sign, which are its anchors. A dollar sign
that a backslash takes is no anchor: read from its start, a pattern is at each place behind a
backslash that takes what comes next or not (`Pattern.escapes`), and it is when an odd number of
backslashes stands there (`Pattern.escapes_eq_true_iff`). Taking the anchors off looks at the last
backslash only. So it leaves what stands between the anchors, except when a final anchor has
backslashes before it, which then are pairs that take each other: this anchor stays, and texts
without a dollar sign are never found by such a pattern (`anchors_stripped_unless_behind_pairs`).
-/

set_option autoImplicit false

namespace DocumentStore

open Text (Point)

namespace Pattern

/-! ## Escapes -/

/-- Whether a code point behind another one is taken by it: a backslash that is not itself taken
takes the next. -/
def takesNext (taken : Bool) (p : Point) : Bool := !taken && p = .char '\\'

/-- Whether what comes behind a text is taken by a backslash of that text, which is read from its
start. -/
def escapes (ps : List Point) : Bool := ps.foldl takesNext false

/-- The number of backslashes that a text ends in. -/
def finalBackslashes (ps : List Point) : Nat := (ps.reverse.takeWhile (· = .char '\\')).length

theorem escapes_concat (ps : List Point) (p : Point) :
    escapes (ps ++ [p]) = takesNext (escapes ps) p := by
  rw [escapes, List.foldl_append]
  rfl

theorem finalBackslashes_concat (ps : List Point) (p : Point) :
    finalBackslashes (ps ++ [p]) = if p = .char '\\' then finalBackslashes ps + 1 else 0 := by
  rw [finalBackslashes, List.reverse_append, List.reverse_singleton, List.singleton_append,
    List.takeWhile_cons]
  by_cases hp : p = .char '\\'
  · simp [hp, finalBackslashes]
  · simp [hp]

/-- What comes behind a text is taken when the text ends in an odd number of backslashes. -/
theorem escapes_eq_true_iff (ps : List Point) :
    escapes ps = true ↔ ¬Even (finalBackslashes ps) := by
  -- one more backslash takes what comes next exactly when it is not taken itself
  induction ps using List.reverseRecOn with
  | nil => decide
  | append_singleton ps p ih =>
    rw [escapes_concat, finalBackslashes_concat, takesNext]
    by_cases hp : p = .char '\\'
    · rw [if_pos hp, Nat.even_add_one, ← ih]
      simp [hp]
    · rw [if_neg hp]
      simp [hp]

/-! ## Anchors -/

/-- The anchor that a pattern begins with, nothing when it begins with none. -/
def leadingAnchor (ps : List Point) : List Point :=
  if ps.head? = some (.char '^') then [.char '^'] else []

/-- The anchor that a pattern ends in, nothing when it ends in none: a dollar sign that no backslash
takes. -/
def finalAnchor (ps : List Point) : List Point :=
  if ps.getLast? = some (.char '$') ∧ escapes ps.dropLast = false then [.char '$'] else []

/-- A pattern that ends in an anchor with pairs of backslashes before it, one pair at least. -/
def EndsBehindPairs (ps : List Point) : Prop :=
  ps.getLast? = some (.char '$') ∧ Even (finalBackslashes ps.dropLast) ∧
    finalBackslashes ps.dropLast ≠ 0

instance (ps : List Point) : Decidable (EndsBehindPairs ps) := inferInstanceAs (Decidable (_ ∧ _))

theorem endsBehindPairs_concat_dollar (front : List Point) :
    EndsBehindPairs (front ++ [.char '$']) ↔
      Even (finalBackslashes front) ∧ finalBackslashes front ≠ 0 := by
  simp only [EndsBehindPairs, List.getLast?_concat, List.dropLast_concat, true_and]

theorem EndsBehindPairs.exists_front {ps : List Point} (h : EndsBehindPairs ps) :
    ∃ front, ps = front ++ [.char '$'] ∧ Even (finalBackslashes front) ∧
      finalBackslashes front ≠ 0 := by
  obtain ⟨front, rfl⟩ := List.getLast?_eq_some_iff.1 h.1
  exact ⟨front, rfl, (endsBehindPairs_concat_dollar front).1 h⟩

/-- A final dollar sign is an anchor when an even number of backslashes stands before it. -/
theorem finalAnchor_concat_dollar (front : List Point) :
    finalAnchor (front ++ [.char '$']) =
      if Even (finalBackslashes front) then [.char '$'] else [] := by
  have hescapes : escapes front = false ↔ Even (finalBackslashes front) := by
    rw [← Bool.not_eq_true, escapes_eq_true_iff, not_not]
  simp only [finalAnchor, List.getLast?_concat, List.dropLast_concat, true_and, hescapes]

/-- Taking the leading anchor off takes off nothing else. -/
theorem leadingAnchor_append_dropLeading (ps : List Point) :
    leadingAnchor ps ++ dropLeading ps = ps := by
  unfold dropLeading
  split
  · rfl
  · next hhead =>
    cases ps with
    | nil => rfl
    | cons p ps =>
      have hp : p ≠ .char '^' := by
        rintro rfl
        exact hhead ps rfl
      simp [leadingAnchor, hp]

/-- Taking the final anchor off takes off a dollar sign, and only behind a text that does not end in
a backslash. -/
theorem dropFinal_concat_dollar (front : List Point) :
    dropFinal (front ++ [.char '$']) =
      if finalBackslashes front = 0 then front else front ++ [.char '$'] := by
  induction front using List.reverseRecOn with
  | nil => rfl
  | append_singleton front p _ =>
    rw [dropFinal, finalBackslashes_concat]
    by_cases hp : p = .char '\\'
    · subst hp
      simp
    · simp [hp]

theorem dropFinal_concat_of_ne (front : List Point) {p : Point} (hp : p ≠ .char '$') :
    dropFinal (front ++ [p]) = front ++ [p] := by
  rw [dropFinal, List.reverse_append, List.reverse_singleton, List.singleton_append]
  split
  · rfl
  · next heq => exact absurd (List.cons.inj heq).1 hp
  · rfl

/-! ## What is left of a pattern -/

/-- A caret at the beginning changes nothing about the backslashes at the end. -/
theorem finalBackslashes_caret (ps : List Point) :
    finalBackslashes (.char '^' :: ps) = finalBackslashes ps := by
  induction ps using List.reverseRecOn with
  | nil => rfl
  | append_singleton ps p ih =>
    rw [← List.cons_append, finalBackslashes_concat, finalBackslashes_concat, ih]

/-- A final dollar sign is taken off when no backslash stands before it, and else all but the
leading anchor is left. -/
theorem leadingAnchor_append_stripAnchors_concat (front : List Point) :
    leadingAnchor (front ++ [.char '$']) ++ stripAnchors (front ++ [.char '$']) =
      if finalBackslashes front = 0 then front else front ++ [.char '$'] := by
  cases front with
  | nil => rfl
  | cons p front =>
    by_cases hp : p = .char '^'
    · subst hp
      have hstrip : stripAnchors (.char '^' :: front ++ [.char '$']) =
          dropFinal (front ++ [.char '$']) := rfl
      have hlead : leadingAnchor (.char '^' :: front ++ [.char '$']) = [.char '^'] := rfl
      rw [hstrip, hlead, dropFinal_concat_dollar, finalBackslashes_caret]
      split <;> rfl
    · have hlead : leadingAnchor (p :: front ++ [.char '$']) = [] := by simp [leadingAnchor, hp]
      have hkept := leadingAnchor_append_dropLeading (p :: front ++ [.char '$'])
      rw [hlead, List.nil_append] at hkept
      rw [hlead, List.nil_append, stripAnchors, hkept, dropFinal_concat_dollar]

/-- Without a dollar sign at the end of a pattern all but the leading anchor is left. -/
theorem leadingAnchor_append_stripAnchors {ps : List Point} (h : ps.getLast? ≠ some (.char '$')) :
    leadingAnchor ps ++ stripAnchors ps = ps := by
  have hkept := leadingAnchor_append_dropLeading ps
  have hfinal : dropFinal (dropLeading ps) = dropLeading ps := by
    rcases List.eq_nil_or_concat' (dropLeading ps) with hnil | ⟨front, p, hrest⟩
    · rw [hnil]
      rfl
    · have hp : p ≠ .char '$' := by
        rintro rfl
        rw [hrest, ← List.append_assoc] at hkept
        exact h (hkept ▸ List.getLast?_concat)
      rw [hrest, dropFinal_concat_of_ne front hp]
  rw [stripAnchors, hfinal, hkept]

/-- A pattern that does not end behind pairs of backslashes is left without its anchors, and with
all else. -/
theorem between_anchors {ps : List Point} (h : ¬EndsBehindPairs ps) :
    leadingAnchor ps ++ stripAnchors ps ++ finalAnchor ps = ps := by
  by_cases hlast : ps.getLast? = some (.char '$')
  · obtain ⟨front, rfl⟩ := List.getLast?_eq_some_iff.1 hlast
    rw [leadingAnchor_append_stripAnchors_concat, finalAnchor_concat_dollar]
    by_cases heven : Even (finalBackslashes front)
    · have hnone : finalBackslashes front = 0 := by
        by_contra hsome
        exact h ((endsBehindPairs_concat_dollar front).2 ⟨heven, hsome⟩)
      rw [if_pos hnone, if_pos heven]
    · have hsome : finalBackslashes front ≠ 0 := by
        intro hnone
        exact heven (hnone ▸ Even.zero)
      rw [if_neg hsome, if_neg heven, List.append_nil]
  · have hfinal : finalAnchor ps = [] := by simp [finalAnchor, hlast]
    rw [hfinal, List.append_nil, leadingAnchor_append_stripAnchors hlast]

/-- A pattern that ends behind pairs of backslashes is left with its final anchor. -/
theorem EndsBehindPairs.anchor_kept {ps : List Point} (h : EndsBehindPairs ps) :
    finalAnchor ps = [.char '$'] ∧ leadingAnchor ps ++ stripAnchors ps = ps := by
  obtain ⟨front, rfl, heven, hsome⟩ := h.exists_front
  exact ⟨by rw [finalAnchor_concat_dollar, if_pos heven],
    by rw [leadingAnchor_append_stripAnchors_concat, if_neg hsome]⟩

theorem mem_leadingAnchor {ps : List Point} {p : Point} (h : p ∈ leadingAnchor ps) :
    p = .char '^' := by
  unfold leadingAnchor at h
  split at h
  · exact List.mem_singleton.1 h
  · exact absurd h List.not_mem_nil

/-- What is left of a pattern with an anchor that stays is found only where a dollar sign is. -/
theorem EndsBehindPairs.matches?_eq_false {ps : List Point} (h : EndsBehindPairs ps)
    {text : List Point} (htext : .char '$' ∉ text) :
    Like.matches? (contains ps) text = some false := by
  have hdollar : .char '$' ∈ stripAnchors ps := by
    have hmem : .char '$' ∈ leadingAnchor ps ++ stripAnchors ps := by
      rw [h.anchor_kept.2]
      exact List.mem_of_getLast? h.1
    refine (List.mem_append.1 hmem).resolve_left fun hlead => ?_
    exact absurd (mem_leadingAnchor hlead) (by decide)
  have hmissing : ¬stripAnchors ps <:+: text := fun hfound => htext (hfound.subset hdollar)
  rw [contains, Like.matches?_around, decide_eq_false hmissing]

/-- A pattern ends in an anchor when its last code point is a dollar sign with an even number of
backslashes before it. -/
theorem finalAnchor_eq_dollar_iff {ps : List Point} :
    finalAnchor ps = [.char '$'] ↔
      ∃ front, ps = front ++ [.char '$'] ∧ Even (finalBackslashes front) := by
  constructor
  · intro hanchor
    by_cases hlast : ps.getLast? = some (.char '$')
    · obtain ⟨front, rfl⟩ := List.getLast?_eq_some_iff.1 hlast
      refine ⟨front, rfl, ?_⟩
      by_contra hodd
      rw [finalAnchor_concat_dollar, if_neg hodd] at hanchor
      cases hanchor
    · simp [finalAnchor, hlast] at hanchor
  · rintro ⟨front, rfl, heven⟩
    rw [finalAnchor_concat_dollar, if_pos heven]

end Pattern

open Pattern

/-- Taking the anchors off a pattern leaves what stands between them, unless the pattern ends behind
pairs of backslashes: then the final anchor stays, and no text without a dollar sign matches. A
final anchor is a dollar sign with an even number of backslashes before it. -/
theorem anchors_stripped_unless_behind_pairs (ps : List Point) :
    (¬EndsBehindPairs ps → leadingAnchor ps ++ stripAnchors ps ++ finalAnchor ps = ps) ∧
      (EndsBehindPairs ps → finalAnchor ps = [.char '$'] ∧
        leadingAnchor ps ++ stripAnchors ps = ps ∧
        ∀ text : List Point, .char '$' ∉ text → Like.matches? (contains ps) text = some false) ∧
      (finalAnchor ps = [.char '$'] ↔
        ∃ front, ps = front ++ [.char '$'] ∧ Even (finalBackslashes front)) := by
  refine ⟨between_anchors, ?_, finalAnchor_eq_dollar_iff⟩
  intro h
  exact ⟨h.anchor_kept.1, h.anchor_kept.2, fun text htext => h.matches?_eq_false htext⟩

/-- A pattern with an escaped backslash before its final anchor. -/
def pairBeforeAnchor : List Point := Text.points "a\\\\$"

theorem anchors_of_escapedDollar :
    ¬EndsBehindPairs (Text.points "^a\\$") ∧
      leadingAnchor (Text.points "^a\\$") ++ Text.points "a\\$" ++
        finalAnchor (Text.points "^a\\$") = Text.points "^a\\$" ∧
      EndsBehindPairs pairBeforeAnchor ∧
      Like.matches? (contains pairBeforeAnchor) (Text.points "xa\\\\") = some false := by
  have hescaped : ¬EndsBehindPairs (Text.points "^a\\$") := by decide
  have hpair : EndsBehindPairs pairBeforeAnchor := by decide
  exact ⟨hescaped, (anchors_stripped_unless_behind_pairs _).1 hescaped, hpair,
    ((anchors_stripped_unless_behind_pairs _).2.1 hpair).2.2 _ (by decide)⟩

/-- The anchor behind an escaped backslash is not taken off, so what is left is not what stands
between the anchors. -/
theorem anchor_behind_pair_kept :
    stripAnchors pairBeforeAnchor = pairBeforeAnchor ∧
      leadingAnchor pairBeforeAnchor ++ stripAnchors pairBeforeAnchor ++
        finalAnchor pairBeforeAnchor ≠ pairBeforeAnchor ∧
      leadingAnchor pairBeforeAnchor ++ Text.points "a\\\\" ++ finalAnchor pairBeforeAnchor =
        pairBeforeAnchor := by
  decide

end DocumentStore
