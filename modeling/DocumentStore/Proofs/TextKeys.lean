import DocumentStore.Value.Display
import Mathlib.Data.List.Induction
import Mathlib.Data.List.Nodup

/-!
# Texts as keys

Texts, torn or not, are equal as values when their code points are (`Value.same_iff_points_eq`), so
a mapping that is built from pairs with texts for keys has each of them once, in order of first
appearance (`Entries.points_keys_ofList`).
-/

set_option autoImplicit false

namespace DocumentStore

open Text (Point)

/-! ## Texts and their code points -/

/-- A text, torn or not. -/
def Value.IsText : Value → Prop
  | .text _ => True
  | .torn _ => True
  | _ => False

/-- A text that is given by its code points has them. -/
theorem Value.points_ofPoints (ps : List Point) : (Value.ofPoints ps).points = ps := by
  rw [Value.ofPoints]
  split
  · rfl
  · next hlone =>
    show (String.ofList (ps.filterMap Point.char?)).toList.map Point.char = ps
    rw [String.toList_ofList]
    induction ps with
    | nil => rfl
    | cons p ps ih =>
      simp only [List.any_cons, Bool.or_eq_true, not_or] at hlone
      cases p with
      | lone i => exact absurd rfl hlone.1
      | char c => exact congrArg (Point.char c :: ·) (ih hlone.2)

/-- A text is given by its code points. -/
theorem Value.ofPoints_points {v : Value} (h : v.IsText) : Value.ofPoints v.points = v := by
  cases v with
  | text s =>
    have hlone : ¬((Text.points s).any Point.isLone = true) := by
      simp [Text.points, Point.isLone]
    have hchars : (Text.points s).filterMap Point.char? = s.toList := by
      rw [Text.points, List.filterMap_map]
      exact List.filterMap_some
    show Value.ofPoints (Text.points s) = .text s
    rw [Value.ofPoints, dif_neg hlone, hchars, String.ofList_toList]
  | torn t => exact dif_pos t.torn
  | _ => exact absurd h id

theorem Value.isText_ofPoints (ps : List Point) : (Value.ofPoints ps).IsText := by
  rw [Value.ofPoints]
  split <;> trivial

/-- Texts are equal when their code points are. -/
theorem Value.same_iff_points_eq {a b : Value} (ha : a.IsText) (hb : b.IsText) :
    a.same b = true ↔ a.points = b.points := by
  -- code points determine a text, so equality of values is what is left to compare
  have hpoints : a.points = b.points ↔ a = b := by
    constructor
    · intro h
      rw [← Value.ofPoints_points ha, ← Value.ofPoints_points hb, h]
    · rintro rfl
      rfl
  rw [hpoints]
  cases a with
  | text s =>
    cases b with
    | text s' => simp [Value.same, Value.sameScalar, Value.ratio?]
    | torn t' => simp [Value.same, Value.sameScalar, Value.ratio?]
    | _ => exact absurd hb id
  | torn t =>
    cases b with
    | text s' => simp [Value.same, Value.sameScalar, Value.ratio?]
    | torn t' => simp [Value.same, Value.sameScalar, Value.ratio?]
    | _ => exact absurd hb id
  | _ => exact absurd ha id

theorem Value.same_text (s s' : String) : (Value.text s).same (.text s') = (s == s') := by
  simp [Value.same, Value.sameScalar, Value.ratio?]

/-- What is equal to a text is that text. -/
theorem Value.eq_of_same {v t : Value} (ht : t.IsText) (h : v.same t = true) : v = t := by
  have htext : v.IsText := by
    cases t with
    | text s =>
      cases v with
      | text s' => trivial
      | float x =>
        -- a float with a ratio is a number, one without is equal to no text
        cases hratio : x.ratio? <;> simp [Value.same, Value.sameScalar, Value.ratio?, hratio] at h
      | _ => simp [Value.same, Value.sameScalar, Value.ratio?] at h
    | torn t =>
      cases v with
      | torn t' => trivial
      | float x =>
        cases hratio : x.ratio? <;> simp [Value.same, Value.sameScalar, Value.ratio?, hratio] at h
      | _ => simp [Value.same, Value.sameScalar, Value.ratio?] at h
    | _ => exact absurd ht id
  rw [← Value.ofPoints_points htext, (Value.same_iff_points_eq htext ht).1 h,
    Value.ofPoints_points ht]

theorem Value.eq_of_same_text {v : Value} {s : String} (h : v.same (.text s) = true) :
    v = .text s :=
  Value.eq_of_same (t := .text s) trivial h

/-! ## Lists without repetitions -/

theorem eraseDups_concat (ps : List (List Point)) (p : List Point) :
    (ps ++ [p]).eraseDups = if p ∈ ps then ps.eraseDups else ps.eraseDups ++ [p] := by
  rw [List.eraseDups_append, List.cons_removeAll]
  by_cases hp : p ∈ ps
  · simp [hp, List.removeAll]
  · simp [hp, List.removeAll, List.eraseDups_cons]

theorem nodup_eraseDups (ps : List (List Point)) : ps.eraseDups.Nodup := by
  induction ps using List.reverseRecOn with
  | nil => exact List.nodup_nil
  | append_singleton ps p ih =>
    rw [eraseDups_concat]
    split
    · exact ih
    · next hp =>
      refine List.nodup_append.2 ⟨ih, List.nodup_singleton p, ?_⟩
      rintro q hq r hr rfl
      rw [List.mem_singleton] at hr
      exact hp (hr ▸ List.mem_eraseDups.1 hq)

/-! ## Mappings with texts for keys -/

namespace Entries

/-- The code points of the keys of a mapping. -/
def keyPoints (es : Entries) : List (List Point) := (keys es).map Value.points

theorem exists_of_get? {es : Entries} {key v : Value} (h : get? es key = some v) :
    ∃ e ∈ es, e.1.same key = true ∧ e.2 = v := by
  obtain ⟨e, he, hv⟩ := Option.map_eq_some_iff.1 h
  have hsame := List.find?_some (p := fun f : Value × Value => f.1.same key) he
  exact ⟨e, List.mem_of_find?_eq_some he, hsame, hv⟩

/-- An entry is found by its key when the keys are different texts. -/
theorem get?_of_mem {es : Entries} (htexts : ∀ k ∈ keys es, k.IsText)
    (hnodup : (keyPoints es).Nodup) {e : Value × Value} (he : e ∈ es) : get? es e.1 = some e.2 := by
  have hpoints : (es.map fun e => e.1.points).Nodup := by
    rwa [keyPoints, keys, List.map_map] at hnodup
  have hkey := htexts e.1 (List.mem_map_of_mem he)
  cases hfind : es.find? fun f => f.1.same e.1 with
  | none =>
    have hsame := (Value.same_iff_points_eq hkey hkey).2 rfl
    exact absurd hsame (List.find?_eq_none.1 hfind e he)
  | some f =>
    have hf := List.mem_of_find?_eq_some hfind
    have hsame := List.find?_some hfind
    have heq := (Value.same_iff_points_eq (htexts f.1 (List.mem_map_of_mem hf)) hkey).1 hsame
    rw [get?, hfind, List.inj_on_of_nodup_map hpoints hf he heq]
    rfl

/-- Setting a key that is there keeps the keys, and another goes to the end. -/
theorem keyPoints_insert {es : Entries} (hes : ∀ k ∈ keys es, k.IsText) {key : Value}
    (hkey : key.IsText) (value : Value) :
    keyPoints (insert es key value) =
        (if key.points ∈ keyPoints es then keyPoints es else keyPoints es ++ [key.points]) ∧
      ∀ k ∈ keys (insert es key value), k.IsText := by
  induction es with
  | nil =>
    refine ⟨rfl, ?_⟩
    intro k hk
    rw [List.mem_singleton.1 hk]
    exact hkey
  | cons e es ih =>
    obtain ⟨he, hrest⟩ := List.forall_mem_cons.1 hes
    obtain ⟨hpoints, htexts⟩ := ih hrest
    rw [insert]
    by_cases hsame : e.1.same key = true
    · have heq := (Value.same_iff_points_eq he hkey).1 hsame
      have hmem : key.points ∈ keyPoints (e :: es) := List.mem_cons.2 (.inl heq.symm)
      -- the key is found here, and its place stays
      rw [if_pos hsame, if_pos hmem]
      exact ⟨rfl, hes⟩
    · have hne : key.points ≠ e.1.points := fun h =>
        hsame ((Value.same_iff_points_eq he hkey).2 h.symm)
      -- the key is further on or new, which is settled by the rest
      rw [if_neg hsame]
      refine ⟨?_, List.forall_mem_cons.2 ⟨he, htexts⟩⟩
      show e.1.points :: keyPoints (insert es key value) = _
      rw [hpoints]
      by_cases hmem : key.points ∈ keyPoints es
      · have hcons : key.points ∈ keyPoints (e :: es) := List.mem_cons_of_mem _ hmem
        rw [if_pos hmem, if_pos hcons]
        rfl
      · have hcons : key.points ∉ keyPoints (e :: es) := fun h =>
          (List.mem_cons.1 h).elim hne hmem
        rw [if_neg hmem, if_neg hcons]
        rfl

/-- A mapping that is built from pairs has each of their keys once, in order of first appearance. -/
theorem keyPoints_ofList {pairs : List (Value × Value)} (h : ∀ p ∈ pairs, p.1.IsText) :
    keyPoints (ofList pairs) = (pairs.map fun p => p.1.points).eraseDups := by
  -- what is built from the first pairs has their keys, and each further pair keeps it so
  have hrun (done rest : List (Value × Value)) (es : Entries) (hrest : ∀ p ∈ rest, p.1.IsText)
      (hes : ∀ k ∈ keys es, k.IsText)
      (hdone : keyPoints es = (done.map fun p => p.1.points).eraseDups) :
      keyPoints (rest.foldl (fun es p => insert es p.1 p.2) es) =
        ((done ++ rest).map fun p => p.1.points).eraseDups := by
    induction rest generalizing done es with
    | nil => simpa using hdone
    | cons p rest ih =>
      obtain ⟨hp, hrest⟩ := List.forall_mem_cons.1 hrest
      obtain ⟨hpoints, htexts⟩ := keyPoints_insert hes hp p.2
      have hstep : keyPoints (insert es p.1 p.2) =
          ((done ++ [p]).map fun p => p.1.points).eraseDups := by
        rw [hpoints, hdone, List.map_append, List.map_singleton, eraseDups_concat]
        simp only [List.mem_eraseDups]
      have hnext := ih (done ++ [p]) (insert es p.1 p.2) hrest htexts hstep
      rwa [List.append_assoc] at hnext
  exact hrun [] pairs [] h (fun k hk => absurd hk List.not_mem_nil) rfl

end Entries

end DocumentStore
