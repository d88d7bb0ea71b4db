import DocumentStore.Proofs.Json.Numbers
import DocumentStore.Proofs.Json.Strings
import DocumentStore.Proofs.Schema.Valid
import DocumentStore.Proofs.Writing
import DocumentStore.Query.Operand

/-!
# JSON values

What a value is written as reads back as that value, whatever follows it (`Json.Reads`), by
induction on the values that JSON holds (`Json.IsJson`). The fuel of the readers is never short: a
text as long as what it is given is enough for a value, and the items and entries of a text are
shorter than it.
-/

set_option autoImplicit false

namespace DocumentStore

open Fallible

namespace Json

open Text.Numeral (maxDigits)

/-- The values that JSON holds: integers that are not too long for a numeral, finite floats whose
text reads back, texts in which no surrogate stands before its partner (the reader joins the two, so
JSON has no others), and what lists and mappings with different texts for keys hold of them. -/
inductive IsJson : Value → Prop
  | null : IsJson .null
  | bool (b : Bool) : IsJson (.bool b)
  | int (n : Int) (h : (Nat.toDigits 10 n.natAbs).length ≤ maxDigits) : IsJson (.int n)
  | float (negative : Bool) (significand : Nat) (exponent : Int)
      (h : read? (Double.finite negative significand exponent).text.toList =
        some (.float (.finite negative significand exponent))) :
      IsJson (.float (.finite negative significand exponent))
  | text (v : Value) (htext : v.IsText) (hsettled : Settled v.points) : IsJson v
  | list (xs : List Value) (hitems : ∀ x ∈ xs, IsJson x) : IsJson (.list xs)
  | map (es : Entries) (hkeys : ∀ k ∈ Entries.keys es, k.IsText ∧ Settled k.points)
      (hdistinct : Entries.Distinct es) (hvalues : ∀ e ∈ es, IsJson e.2) : IsJson (.map es)

theorem IsJson.ofText (s : String) : IsJson (.text s) := .text _ trivial (settled_points s)

/-- Whether a value can begin with a character: white space and closing brackets are told apart from
it. -/
def Begins : List Char → Prop
  | [] => False
  | c :: _ => isGap c = false ∧ c ≠ ']' ∧ c ≠ '\x7d'

/-- A text that reads as a value, whatever follows it. -/
structure Reads (cs : List Char) (v : Value) : Prop where
  begins : Begins cs
  reads : ∀ fuel rest, cs.length ≤ fuel → Ends rest →
    value? maxDigits fuel (cs ++ rest) = some (v, rest)

theorem skip_of_begins {cs : List Char} (h : Begins cs) (ds : List Char) :
    skip (cs ++ ds) = cs ++ ds := by
  cases cs with
  | nil => exact absurd h id
  | cons c cs => exact List.dropWhile_cons_of_neg (by rw [h.1]; decide)

theorem begins_append {cs : List Char} (h : Begins cs) (ds : List Char) : Begins (cs ++ ds) := by
  cases cs with
  | nil => exact absurd h id
  | cons c cs => exact h

theorem begins_intercalate {cs : List Char} (h : Begins cs) (css : List (List Char)) :
    Begins (List.intercalate [',', ' '] (cs :: css)) := by
  cases css with
  | nil => rwa [List.intercalate_singleton]
  | cons ds css =>
    rw [List.intercalate_cons_cons, List.append_assoc]
    exact begins_append h _

/-! ## Scalars -/

/-- Brackets and white space. -/
def structural : List Char := ['[', ']', '\x7b', '\x7d', ' ', '\t', '\n', '\r']

/-- Numbers, words and strings take one step. -/
theorem Reads.ofScalar {c : Char} {cs : List Char} {v : Value} (hc : c ∉ structural)
    (h : ∀ rest, Ends rest → scalar? maxDigits (c :: (cs ++ rest)) = some (v, rest)) :
    Reads (c :: cs) v := by
  simp only [structural, List.mem_cons, List.not_mem_nil, or_false, not_or] at hc
  obtain ⟨hopen, hclose, hleft, hright, hspace, htab, hfeed, hreturn⟩ := hc
  have hgap : isGap c = false := by simp [isGap, hspace, htab, hfeed, hreturn]
  refine ⟨⟨hgap, hclose, hright⟩, fun fuel rest hfuel hrest => ?_⟩
  -- the text is not empty, so there is fuel for the one step
  obtain ⟨fuel, rfl⟩ : ∃ k, fuel = k + 1 := ⟨fuel - 1, by simp at hfuel; omega⟩
  rw [List.cons_append, value?.eq_4 maxDigits _ fuel (fun _ ht => hopen (List.cons.inj ht).1)
    (fun _ ht => hleft (List.cons.inj ht).1)]
  exact h rest hrest

theorem Reads.null : Reads "null".toList .null := .ofScalar (by decide) fun _ _ => rfl

theorem Reads.bool (b : Bool) : Reads (if b then "true".toList else "false".toList) (.bool b) := by
  cases b
  · exact .ofScalar (by decide) fun _ _ => rfl
  · exact .ofScalar (by decide) fun _ _ => rfl

theorem Reads.number {cs : List Char} {v : Value} (h : ReadsNumber cs v) : Reads cs v := by
  rcases h with h | ⟨ds, rfl, h⟩
  · -- it begins with a digit, which is neither a bracket nor white space
    obtain ⟨c, cs, rfl, hlow, hhigh⟩ := head_of_number? h
    have hmarks : structural ⊆ otherMarks := by decide
    have hc : c ∉ structural := fun hc => cons_ne_of_digit hlow hhigh (hmarks hc) cs cs rfl
    refine .ofScalar hc fun rest hrest => scalar?_of_number? ?_
    exact (local_number? _ _ _ _ _ h).2 rest hrest
  · refine .ofScalar (by decide) fun rest hrest => scalar?_of_negative ?_
    exact (local_number? _ _ _ _ _ h).2 rest hrest

theorem Reads.quoted {v : Value} (htext : v.IsText) (hsettled : Settled v.points) :
    Reads (quoted v.points) v := by
  refine .ofScalar (by decide) fun rest _ => ?_
  show string? (v.points.flatMap escapePoint ++ ['"'] ++ rest) = _
  rw [List.append_assoc]
  exact string?_quoted htext hsettled rest

/-! ## Lists and mappings -/

section Separated

variable {α : Type} {R : List Char → α → Prop}
  {many : Nat → List Char → Option (List α × List Char)} {closing : Char}

/-- Parts with a comma and a space between them are read up to the closing bracket, when a part is
read before each of the two. -/
theorem separated (hbegins : ∀ cs a, R cs a → Begins cs)
    (hlast : ∀ cs a, R cs a → ∀ fuel rest, cs.length ≤ fuel →
      many (fuel + 1) (cs ++ closing :: rest) = some ([a], rest))
    (hmore : ∀ cs a, R cs a → ∀ fuel ds as rest, cs.length ≤ fuel → skip ds = ds →
      many fuel ds = some (as, rest) →
      many (fuel + 1) (cs ++ ',' :: ' ' :: ds) = some (a :: as, rest))
    {css : List (List Char)} {as : List α} (h : List.Forall₂ R css as) (hne : css ≠ []) {fuel : Nat}
    (rest : List Char) (hfuel : (List.intercalate [',', ' '] css).length < fuel) :
    many fuel (List.intercalate [',', ' '] css ++ closing :: rest) = some (as, rest) := by
  -- by induction on the parts: each takes one unit of the fuel, and the text behind it has the rest
  induction h generalizing fuel with
  | nil => exact absurd rfl hne
  | @cons cs a css as ha htail ih =>
    obtain ⟨fuel, rfl⟩ : ∃ k, fuel = k + 1 := ⟨fuel - 1, by omega⟩
    cases htail with
    | nil =>
      rw [List.intercalate_singleton] at hfuel ⊢
      exact hlast cs a ha fuel rest (by omega)
    | @cons cs' a' css as ha' htail =>
      rw [List.intercalate_cons_cons] at hfuel ⊢
      simp only [List.length_append, List.length_cons] at hfuel
      have htext := @ih (List.cons_ne_nil cs' css) fuel (by omega)
      have hskip := skip_of_begins (begins_intercalate (hbegins cs' a' ha') css) (closing :: rest)
      rw [List.append_assoc, List.append_assoc]
      exact hmore cs a ha fuel _ _ rest (by omega) hskip htext

end Separated

/-- The items of a list are read up to its bracket. -/
theorem items?_intercalate {css : List (List Char)} {xs : List Value}
    (h : List.Forall₂ Reads css xs) (hne : css ≠ []) {fuel : Nat} (rest : List Char)
    (hfuel : (List.intercalate [',', ' '] css).length < fuel) :
    items? maxDigits fuel (List.intercalate [',', ' '] css ++ ']' :: rest) = some (xs, rest) := by
  refine separated (fun _ _ hx => hx.begins) (fun cs x hx fuel rest hlength => ?_)
    (fun cs x hx fuel ds xs rest hlength hskip hds => ?_) h hne rest hfuel
  · have hvalue := hx.reads fuel (']' :: rest) hlength (.inr (.inl rfl))
    simp only [items?, hvalue, bind, Option.bind_some]
    rfl
  · have hvalue := hx.reads fuel (',' :: ' ' :: ds) hlength (.inl rfl)
    have hspace : skip (' ' :: ds) = ds := hskip
    have hcomma : skip (',' :: ' ' :: ds) = ',' :: ' ' :: ds := rfl
    simp only [items?, hvalue, bind, Option.bind_some, hcomma, hspace, hds]

/-- A text that reads as an entry: a key, a colon and a value. -/
def ReadsEntry (cs : List Char) (e : Value × Value) : Prop :=
  e.1.IsText ∧ Settled e.1.points ∧
    ∃ body, cs = quoted e.1.points ++ ':' :: ' ' :: body ∧ Reads body e.2

theorem ReadsEntry.begins {cs : List Char} {e : Value × Value} (h : ReadsEntry cs e) :
    Begins cs := by
  obtain ⟨-, -, body, rfl, -⟩ := h
  exact ⟨rfl, by decide, by decide⟩

/-- An entry is its key in quotes and, behind a colon, the text of its value. -/
theorem ReadsEntry.parts {cs : List Char} {e : Value × Value} (h : ReadsEntry cs e) :
    ∃ body, Reads body e.2 ∧ body.length ≤ cs.length ∧
      ∀ ds, ∃ text, cs ++ ds = '"' :: text ∧
        string? text = some (e.1, ':' :: ' ' :: (body ++ ds)) := by
  obtain ⟨htext, hsettled, body, rfl, hbody⟩ := h
  refine ⟨body, hbody, ?_, fun ds => ⟨_, rfl, ?_⟩⟩
  · simp only [List.length_append, List.length_cons]
    omega
  · simpa using string?_quoted htext hsettled (':' :: ' ' :: (body ++ ds))

/-- The entries of a mapping are read up to its brace. -/
theorem entries?_intercalate {css : List (List Char)} {es : Entries}
    (h : List.Forall₂ ReadsEntry css es) (hne : css ≠ []) {fuel : Nat} (rest : List Char)
    (hfuel : (List.intercalate [',', ' '] css).length < fuel) :
    entries? maxDigits fuel (List.intercalate [',', ' '] css ++ '\x7d' :: rest) =
      some (es, rest) := by
  refine separated (fun _ _ he => he.begins) (fun cs e he fuel rest hlength => ?_)
    (fun cs e he fuel ds es rest hlength hskip hds => ?_) h hne rest hfuel
  · obtain ⟨body, hbody, hshort, hparts⟩ := he.parts
    obtain ⟨text, htext, hkey⟩ := hparts ('\x7d' :: rest)
    have hvalue := hbody.reads fuel ('\x7d' :: rest) (hshort.trans hlength) (.inr (.inr rfl))
    have hspace : skip (' ' :: (body ++ '\x7d' :: rest)) = body ++ '\x7d' :: rest :=
      skip_of_begins hbody.begins _
    have hcolon : skip (':' :: ' ' :: (body ++ '\x7d' :: rest)) =
        ':' :: ' ' :: (body ++ '\x7d' :: rest) := rfl
    rw [htext]
    simp only [entries?, hkey, hcolon, hspace, hvalue, bind, Option.bind_some]
    rfl
  · obtain ⟨body, hbody, hshort, hparts⟩ := he.parts
    obtain ⟨text, htext, hkey⟩ := hparts (',' :: ' ' :: ds)
    have hvalue := hbody.reads fuel (',' :: ' ' :: ds) (hshort.trans hlength) (.inl rfl)
    have hspace : skip (' ' :: (body ++ ',' :: ' ' :: ds)) = body ++ ',' :: ' ' :: ds :=
      skip_of_begins hbody.begins _
    have hcolon : skip (':' :: ' ' :: (body ++ ',' :: ' ' :: ds)) =
        ':' :: ' ' :: (body ++ ',' :: ' ' :: ds) := rfl
    have hcomma : skip (',' :: ' ' :: ds) = ',' :: ' ' :: ds := rfl
    have hnext : skip (' ' :: ds) = ds := hskip
    rw [htext]
    simp only [entries?, hkey, hcolon, hspace, hvalue, hcomma, hnext, hds, bind, Option.bind_some]

theorem bracketed_append (opening closing : Char) (css : List (List Char)) (rest : List Char) :
    bracketed opening closing css ++ rest =
      opening :: (List.intercalate [',', ' '] css ++ closing :: rest) := by
  simp [bracketed]

theorem length_bracketed (opening closing : Char) (css : List (List Char)) :
    (bracketed opening closing css).length = (List.intercalate [',', ' '] css).length + 2 := by
  simp [bracketed]

/-- A list that does not close at once has items. -/
theorem value?_list {cs : List Char} (h : Begins cs) (limit fuel : Nat) :
    value? limit (fuel + 1) ('[' :: cs) =
      (items? limit fuel cs).map fun p => (.list p.1, p.2) := by
  have hskip : skip cs = cs := by simpa using skip_of_begins h []
  rw [value?.eq_2, hskip]
  split
  · exact absurd rfl h.2.1
  · rfl

/-- A mapping that does not close at once has entries. -/
theorem value?_map {cs : List Char} (h : Begins cs) (limit fuel : Nat) :
    value? limit (fuel + 1) ('\x7b' :: cs) =
      (entries? limit fuel cs).map fun p => (.map (Entries.ofList p.1), p.2) := by
  have hskip : skip cs = cs := by simpa using skip_of_begins h []
  rw [value?.eq_3, hskip]
  split
  · exact absurd rfl h.2.2
  · rfl

theorem Reads.list {css : List (List Char)} {xs : List Value} (h : List.Forall₂ Reads css xs) :
    Reads (bracketed '[' ']' css) (.list xs) := by
  refine ⟨⟨rfl, by decide, by decide⟩, fun fuel rest hfuel _ => ?_⟩
  rw [length_bracketed] at hfuel
  obtain ⟨fuel, rfl⟩ : ∃ k, fuel = k + 1 := ⟨fuel - 1, by omega⟩
  rw [bracketed_append]
  -- an empty list closes at once; the items of another one are shorter than its text by the two
  -- brackets
  cases h with
  | nil => rfl
  | @cons cs x css xs hx hxs =>
    have hlength : (List.intercalate [',', ' '] (cs :: css)).length < fuel := by omega
    have hitems := items?_intercalate (.cons hx hxs) (List.cons_ne_nil cs css) rest hlength
    rw [value?_list (begins_append (begins_intercalate hx.begins css) _), hitems]
    rfl

theorem Reads.map {css : List (List Char)} {es : Entries} (h : List.Forall₂ ReadsEntry css es)
    (hdistinct : Entries.Distinct es) : Reads (bracketed '\x7b' '\x7d' css) (.map es) := by
  refine ⟨⟨rfl, by decide, by decide⟩, fun fuel rest hfuel _ => ?_⟩
  rw [length_bracketed] at hfuel
  obtain ⟨fuel, rfl⟩ : ∃ k, fuel = k + 1 := ⟨fuel - 1, by omega⟩
  rw [bracketed_append]
  cases h with
  | nil => rfl
  | @cons cs e css es he hes =>
    have hlength : (List.intercalate [',', ' '] (cs :: css)).length < fuel := by omega
    have hentries := entries?_intercalate (.cons he hes) (List.cons_ne_nil cs css) rest hlength
    rw [value?_map (begins_append (begins_intercalate he.begins css) _), hentries, Option.map_some,
      Entries.ofList_of_distinct hdistinct]

/-! ## All values -/

theorem writeItems_reads {other : Value → Except Fault String} {xs : List Value}
    (h : ∀ x ∈ xs, ∃ cs, writeWith other x = .ok cs ∧ Reads cs x) :
    ∃ css, writeItems other xs = .ok css ∧ List.Forall₂ Reads css xs := by
  induction xs with
  | nil => exact ⟨[], rfl, .nil⟩
  | cons x xs ih =>
    obtain ⟨⟨cs, hcs, hx⟩, hrest⟩ := List.forall_mem_cons.1 h
    obtain ⟨css, hcss, hxs⟩ := ih hrest
    exact ⟨cs :: css, bind_eq_ok.2 ⟨cs, hcs, bind_eq_ok.2 ⟨css, hcss, rfl⟩⟩, .cons hx hxs⟩

theorem writeEntries_reads {other : Value → Except Fault String} {es : Entries}
    (hkeys : ∀ k ∈ Entries.keys es, k.IsText ∧ Settled k.points)
    (h : ∀ e ∈ es, ∃ cs, writeWith other e.2 = .ok cs ∧ Reads cs e.2) :
    ∃ css, writeEntries other es = .ok css ∧ List.Forall₂ ReadsEntry css es := by
  induction es with
  | nil => exact ⟨[], rfl, .nil⟩
  | cons e es ih =>
    obtain ⟨⟨cs, hcs, he⟩, hrest⟩ := List.forall_mem_cons.1 h
    obtain ⟨⟨htext, hsettled⟩, hkeys⟩ := List.forall_mem_cons.1 hkeys
    obtain ⟨css, hcss, hes⟩ := ih hkeys hrest
    refine ⟨_, bind_eq_ok.2 ⟨_, key_of_isText htext, ?_⟩, .cons ⟨htext, hsettled, cs, rfl, he⟩ hes⟩
    exact bind_eq_ok.2 ⟨cs, hcs, bind_eq_ok.2 ⟨css, hcss, rfl⟩⟩

/-- What a value that JSON holds is written as reads as that value. -/
theorem IsJson.reads {v : Value} (h : IsJson v) (other : Value → Except Fault String) :
    ∃ cs, writeWith other v = .ok cs ∧ Reads cs v := by
  induction h with
  | null => exact ⟨_, rfl, .null⟩
  | bool b => exact ⟨_, rfl, .bool b⟩
  | int n hlength =>
    have hshort : (Value.int n).writable = true := decide_eq_true hlength
    exact ⟨_, Value.written_of_writable hshort _, .number (.ofInt hlength)⟩
  | float negative m e hread => exact ⟨_, rfl, .number (.ofFloat hread)⟩
  | text v htext hsettled => exact ⟨_, writeWith_of_isText other htext, .quoted htext hsettled⟩
  | list xs _ ih =>
    obtain ⟨css, hcss, hxs⟩ := writeItems_reads ih
    exact ⟨_, map_eq_ok.2 ⟨css, hcss, rfl⟩, .list hxs⟩
  | map es hkeys hdistinct _ ih =>
    obtain ⟨css, hcss, hes⟩ := writeEntries_reads hkeys ih
    exact ⟨_, map_eq_ok.2 ⟨css, hcss, rfl⟩, .map hes hdistinct⟩

/-- A text that reads as a value, whatever follows it, reads as that value alone. -/
theorem Reads.read? {cs : List Char} {v : Value} (h : Reads cs v) : read? cs = some v := by
  have hskip := skip_of_begins h.begins []
  have hvalue := h.reads (2 * cs.length + 2) [] (by omega) trivial
  rw [List.append_nil] at hskip hvalue
  simp only [Json.read?, readWithin?, hskip, hvalue, bind, Option.bind_some]
  rfl

end Json

/-- A value that JSON holds is written as a text, or as null, which reads back as that value. -/
theorem decodeJson_encodeJson {v : Value} (h : Json.IsJson v) :
    ∃ t, encodeJson v = .ok t ∧ decodeJson (Value.ofText t) = v := by
  cases hnull : v.isNull with
  | true =>
    cases v with
    | null => exact ⟨none, rfl, rfl⟩
    | _ => cases hnull
  | false =>
    obtain ⟨cs, hcs, hreads⟩ := h.reads Value.shown
    refine ⟨some (String.ofList cs), ?_, ?_⟩
    · have htext : Json.text v = .ok (String.ofList cs) := map_eq_ok.2 ⟨cs, hcs, rfl⟩
      unfold encodeJson
      split
      · cases hnull
      · rw [htext]
        rfl
    · show (Json.read? (String.ofList cs).toList).getD _ = v
      rw [String.toList_ofList, hreads.read?, Option.getD_some]

end DocumentStore
