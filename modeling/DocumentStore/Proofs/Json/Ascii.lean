import DocumentStore.Proofs.Json.Floats

/-!
# JSON texts are ASCII

Strings are where other characters could come in, and their escapes hold backslashes, letters and
hexadecimal digits only (`Json.ascii_escapePoint`). So whatever a value is made of, the text that it
is written as is ASCII (`Json.ascii_writeWith`), and a value that JSON holds reads back from its
text (`decodeJson_undoes_encodeJson`).
-/

set_option autoImplicit false

namespace DocumentStore

open Fallible

namespace Json

/-- A text of ASCII characters. -/
def Ascii (cs : List Char) : Prop := ∀ c ∈ cs, c.toNat < 0x80

instance (cs : List Char) : Decidable (Ascii cs) := List.decidableBAll _ cs

theorem Ascii.cons {c : Char} {cs : List Char} (hc : c.toNat < 0x80) (hcs : Ascii cs) :
    Ascii (c :: cs) := List.forall_mem_cons.2 ⟨hc, hcs⟩

theorem Ascii.append {cs ds : List Char} (hcs : Ascii cs) (hds : Ascii ds) : Ascii (cs ++ ds) :=
  List.forall_mem_append.2 ⟨hcs, hds⟩

theorem Ascii.flatMap {α : Type} {f : α → List Char} (h : ∀ a, Ascii (f a)) (as : List α) :
    Ascii (as.flatMap f) := by
  intro c hc
  obtain ⟨a, -, hc⟩ := List.mem_flatMap.1 hc
  exact h a c hc

theorem Ascii.intercalate {css : List (List Char)} (h : ∀ cs ∈ css, Ascii cs) :
    Ascii (List.intercalate [',', ' '] css) := by
  cases css with
  | nil => exact fun c hc => nomatch hc
  | cons cs css =>
    induction css generalizing cs with
    | nil =>
      rw [List.intercalate_singleton]
      exact h cs List.mem_cons_self
    | cons ds css ih =>
      obtain ⟨hcs, hrest⟩ := List.forall_mem_cons.1 h
      have hseparator : Ascii [',', ' '] := by decide
      rw [List.intercalate_cons_cons]
      exact (hcs.append hseparator).append (ih ds hrest)

/-! ## Strings -/

theorem ascii_hex (width n : Nat) : Ascii (Text.hex width n) := by
  have hdigit : ∀ m < 16, (Text.hexDigit m).toNat < 0x80 := by decide
  induction width generalizing n with
  | zero => exact fun c hc => nomatch hc
  | succ width ih =>
    have hlast := hdigit (n % 16) (Nat.mod_lt n (by decide))
    exact (ih (n / 16)).append (List.forall_mem_singleton.2 hlast)

theorem ascii_unitEscape (n : Nat) : Ascii (unitEscape n) :=
  .cons (by decide) (.cons (by decide) (ascii_hex 4 n))

/-- What has neither a short escape nor a `\u` one is visible. -/
theorem ascii_escapeChar (c : Char) : Ascii (escapeChar c) := by
  by_cases hshort : c ∈ shortlyEscaped
  · simp only [shortlyEscaped, List.mem_cons, List.not_mem_nil, or_false] at hshort
    rcases hshort with rfl | rfl | rfl | rfl | rfl | rfl | rfl <;> decide
  simp only [shortlyEscaped, List.mem_cons, List.not_mem_nil, or_false, not_or] at hshort
  obtain ⟨hquote, hslash, hfeed, hreturn, htab, hback, hform⟩ := hshort
  rw [escapeChar, if_neg hquote, if_neg hslash, if_neg hfeed, if_neg hreturn, if_neg htab,
    if_neg hback, if_neg hform]
  split
  · next hvisible =>
    exact List.forall_mem_singleton.2 (by omega)
  split
  · exact ascii_unitEscape _
  · exact (ascii_unitEscape _).append (ascii_unitEscape _)

theorem ascii_escapePoint (p : Text.Point) : Ascii (escapePoint p) := by
  cases p with
  | char c => exact ascii_escapeChar c
  | lone offset => exact ascii_unitEscape _

theorem ascii_quoted (ps : List Text.Point) : Ascii (quoted ps) :=
  .append (.cons (by decide) (.flatMap ascii_escapePoint ps)) (by decide)

theorem ascii_string (cs : List Char) : Ascii (string cs) :=
  .append (.cons (by decide) (.flatMap ascii_escapeChar cs)) (by decide)

/-! ## Numbers and keys -/

theorem Numeric.ascii {cs : List Char} (h : Numeric cs) : Ascii cs := by
  intro c hc
  have hnumeric := h c hc
  rw [Bool.or_eq_true, List.contains_iff_mem] at hnumeric
  rcases hnumeric with hdigit | hmark
  · have hrange : '0' ≤ c ∧ c ≤ '9' := by simpa [Char.isDigit, Char.le_def] using hdigit
    exact lt_of_le_of_lt hrange.2 (by decide : '9'.toNat < 0x80)
  · simp only [numeralMarks, List.mem_cons, List.not_mem_nil, or_false] at hmark
    rcases hmark with rfl | rfl | rfl | rfl <;> decide

theorem ascii_number (x : Double) : Ascii (number x) := by
  cases x with
  | nan => decide
  | infinite negative => cases negative <;> decide
  | finite negative m e => exact (numeric_text negative m e).ascii

theorem ascii_key {v : Value} {cs : List Char} (h : key v = .ok cs) : Ascii cs := by
  unfold key at h
  split at h
  case h_2 => cases h; exact ascii_quoted _
  case h_6 =>
    obtain ⟨-, rfl⟩ := Value.written_eq_ok.1 h
    exact ascii_string _
  case h_7 => cases h
  all_goals cases h; exact ascii_string _

theorem ascii_bracketed {opening closing : Char} {css : List (List Char)}
    (hopening : opening.toNat < 0x80) (hclosing : closing.toNat < 0x80)
    (h : ∀ cs ∈ css, Ascii cs) : Ascii (bracketed opening closing css) :=
  .append (.cons hopening (.intercalate h)) (List.forall_mem_singleton.2 hclosing)

/-! ## Values -/

mutual

/-- Whatever a value is, its text is ASCII. -/
theorem ascii_writeWith {other : Value → Except Fault String} {v : Value} {cs : List Char}
    (h : writeWith other v = .ok cs) : Ascii cs := by
  cases v with
  | null => cases h; decide
  | bool b => cases h; cases b <;> decide
  | int n =>
    obtain ⟨-, rfl⟩ := Value.written_eq_ok.1 h
    exact (numeric_ofInt n).ascii
  | float x => cases h; exact ascii_number x
  | text s => cases h; exact ascii_string _
  | torn t => cases h; exact ascii_quoted _
  | list xs =>
    obtain ⟨css, hcss, rfl⟩ := map_eq_ok.1 h
    exact ascii_bracketed (by decide) (by decide) (ascii_writeItems hcss)
  | tuple xs =>
    obtain ⟨css, hcss, rfl⟩ := map_eq_ok.1 h
    exact ascii_bracketed (by decide) (by decide) (ascii_writeItems hcss)
  | map es =>
    obtain ⟨css, hcss, rfl⟩ := map_eq_ok.1 h
    exact ascii_bracketed (by decide) (by decide) (ascii_writeEntries hcss)
  | _ =>
    obtain ⟨text, -, rfl⟩ := map_eq_ok.1 h
    exact ascii_string _

theorem ascii_writeItems {other : Value → Except Fault String} {xs : List Value}
    {css : List (List Char)} (h : writeItems other xs = .ok css) : ∀ cs ∈ css, Ascii cs := by
  cases xs with
  | nil =>
    cases h
    exact List.forall_mem_nil _
  | cons x xs =>
    obtain ⟨head, hhead, h⟩ := bind_eq_ok.1 h
    obtain ⟨tail, htail, h⟩ := bind_eq_ok.1 h
    cases h
    exact List.forall_mem_cons.2 ⟨ascii_writeWith hhead, ascii_writeItems htail⟩

theorem ascii_writeEntries {other : Value → Except Fault String} {es : List (Value × Value)}
    {css : List (List Char)} (h : writeEntries other es = .ok css) : ∀ cs ∈ css, Ascii cs := by
  match es with
  | [] =>
    cases h
    exact List.forall_mem_nil _
  | (k, v) :: es =>
    obtain ⟨name, hname, h⟩ := bind_eq_ok.1 h
    obtain ⟨body, hbody, h⟩ := bind_eq_ok.1 h
    obtain ⟨tail, htail, h⟩ := bind_eq_ok.1 h
    cases h
    refine List.forall_mem_cons.2 ⟨(ascii_key hname).append ?_, ascii_writeEntries htail⟩
    exact .cons (by decide) (.cons (by decide) (ascii_writeWith hbody))

end

/-- Whatever is encoded, the text is ASCII. -/
theorem ascii_encodeJson {v : Value} {s : String} (h : encodeJson v = .ok (some s)) :
    Ascii s.toList := by
  unfold encodeJson at h
  split at h
  · cases h
  · obtain ⟨text, htext, hs⟩ := map_eq_ok.1 h
    cases hs
    obtain ⟨cs, hcs, rfl⟩ := map_eq_ok.1 htext
    rw [String.toList_ofList]
    exact ascii_writeWith hcs

end Json

/-- A value that JSON holds is encoded as an ASCII text, null as none, and decoding gives that value
back. Every finite float is among these values (`Json.IsJson.ofDouble`). -/
theorem decodeJson_undoes_encodeJson {v : Value} (h : Json.IsJson v) :
    ∃ t, encodeJson v = .ok t ∧ decodeJson (Value.ofText t) = v ∧ (t = none ↔ v = .null) ∧
      ∀ s, t = some s → Json.Ascii s.toList := by
  obtain ⟨t, hencode, hdecode⟩ := decodeJson_encodeJson h
  refine ⟨t, hencode, hdecode, ?_, ?_⟩
  · constructor
    · intro hnone
      subst hnone
      exact hdecode.symm
    · intro hnull
      subst hnull
      cases hencode
      rfl
  · intro s hs
    subst hs
    exact Json.ascii_encodeJson hencode

/-- Texts with quotes, controls and characters of two units, for keys and for values. -/
def awkwardValue : Value :=
  .map [(.text "\"\x00\\", .list [.text "[\"a\"]", .text "123", .int (-123), .text "é\n😀"]),
    (.text "",
      .map [(.text "😀", .null), (.text "b", .float (.finite true 6755399441055744 (-52)))])]

theorem isJson_awkwardValue : Json.IsJson awkwardValue := by
  have hkey (s : String) : (Value.text s).IsText ∧ Json.Settled (Value.text s).points :=
    ⟨trivial, Json.settled_points s⟩
  have hfloat : Json.IsJson (.float (.finite true 6755399441055744 (-52))) :=
    .ofDouble ⟨by decide, by decide, by decide, by decide⟩ true
  have hitems : ∀ v ∈ [Value.text "[\"a\"]", .text "123", .int (-123), .text "é\n😀"],
      Json.IsJson v := by
    simp only [List.forall_mem_cons]
    exact ⟨.ofText _, .ofText _, .int _ (by decide), .ofText _, List.forall_mem_nil _⟩
  have hinner : Json.IsJson (.map [(.text "😀", .null),
      (.text "b", .float (.finite true 6755399441055744 (-52)))]) := by
    refine .map _ ?_ ?_ ?_
    · simp only [Entries.keys, List.map_cons, List.map_nil, List.forall_mem_cons]
      exact ⟨hkey _, hkey _, List.forall_mem_nil _⟩
    · simp [Entries.Distinct, Entries.keys, Value.same_text]
    · simp only [List.forall_mem_cons]
      exact ⟨.null, hfloat, List.forall_mem_nil _⟩
  refine .map _ ?_ ?_ ?_
  · simp only [Entries.keys, List.map_cons, List.map_nil, List.forall_mem_cons]
    exact ⟨hkey _, hkey _, List.forall_mem_nil _⟩
  · simp [Entries.Distinct, Entries.keys, Value.same_text]
  · simp only [List.forall_mem_cons]
    exact ⟨.list _ hitems, hinner, List.forall_mem_nil _⟩

theorem awkwardValue_reads_back :
    ∃ t, encodeJson awkwardValue = .ok t ∧ decodeJson (Value.ofText t) = awkwardValue ∧
      (t = none ↔ awkwardValue = .null) ∧ ∀ s, t = some s → Json.Ascii s.toList :=
  decodeJson_undoes_encodeJson isJson_awkwardValue

end DocumentStore
