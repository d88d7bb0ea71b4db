import DocumentStore.Json.Reader
import DocumentStore.Json.Writer
import DocumentStore.Proofs.Fallible
import DocumentStore.Proofs.Writing

/-!
# What is read can be written

A JSON text is read as a tree (`Json.tree_of_read?`): null, truth values, numbers and texts, and
lists and mappings of these, the keys of a mapping being texts and no integer being too long for a
numeral. A tree can be written, as JSON (`Json.Tree.exists_writeWith`) and as plain text
(`Json.Tree.writable`). Nothing is said about what it reads back as; the floats of a tree may be
infinite.
-/

set_option autoImplicit false

namespace DocumentStore

open Fallible

/-! ## Mappings -/

namespace Entries

variable {K V : Value → Prop}

/-- The keys and the values of a mapping, when an entry is set, are those that were there and those
of the entry. -/
theorem forall_insert {es : Entries} (hes : ∀ e ∈ es, K e.1 ∧ V e.2) {key value : Value}
    (hkey : K key) (hvalue : V value) : ∀ e ∈ insert es key value, K e.1 ∧ V e.2 := by
  induction es with
  | nil => exact List.forall_mem_singleton.2 ⟨hkey, hvalue⟩
  | cons e es ih =>
    obtain ⟨he, hes⟩ := List.forall_mem_cons.1 hes
    rw [insert]
    split
    · exact List.forall_mem_cons.2 ⟨⟨he.1, hvalue⟩, hes⟩
    · exact List.forall_mem_cons.2 ⟨he, ih hes⟩

/-- The keys and the values of a mapping that is built from pairs are those of the pairs. -/
theorem forall_ofList {pairs : List (Value × Value)} (h : ∀ p ∈ pairs, K p.1 ∧ V p.2) :
    ∀ e ∈ ofList pairs, K e.1 ∧ V e.2 := by
  -- by induction on the pairs, from the mapping that is built so far
  have hrun (es : Entries) (hes : ∀ e ∈ es, K e.1 ∧ V e.2) :
      ∀ e ∈ pairs.foldl (fun es p => insert es p.1 p.2) es, K e.1 ∧ V e.2 := by
    induction pairs generalizing es with
    | nil => exact hes
    | cons p pairs ih =>
      obtain ⟨hp, hpairs⟩ := List.forall_mem_cons.1 h
      exact ih hpairs (insert es p.1 p.2) (forall_insert hes hp.1 hp.2)
  exact hrun [] (List.forall_mem_nil _)

end Entries

namespace Json

open Text.Numeral (maxDigits)

/-- The values that JSON texts are read as. -/
inductive Tree : Value → Prop
  | null : Tree .null
  | bool (b : Bool) : Tree (.bool b)
  | int (n : Int) (hshort : Text.Numeral.isShort n = true) : Tree (.int n)
  | float (x : Double) : Tree (.float x)
  | text (v : Value) (htext : v.IsText) : Tree v
  | list (xs : List Value) (hitems : ∀ x ∈ xs, Tree x) : Tree (.list xs)
  | map (es : Entries) (hkeys : ∀ e ∈ es, e.1.IsText) (hvalues : ∀ e ∈ es, Tree e.2) :
    Tree (.map es)

/-- The items of a tree are trees. -/
theorem Tree.items {xs : List Value} (h : Tree (.list xs)) : ∀ x ∈ xs, Tree x := by
  cases h with
  | text _ htext => exact absurd htext id
  | list _ hitems => exact hitems

/-- The keys of a tree are texts. -/
theorem Tree.keys {es : Entries} (h : Tree (.map es)) : ∀ e ∈ es, e.1.IsText := by
  cases h with
  | text _ htext => exact absurd htext id
  | map _ hkeys _ => exact hkeys

/-- The values of a tree are trees. -/
theorem Tree.values {es : Entries} (h : Tree (.map es)) : ∀ e ∈ es, Tree e.2 := by
  cases h with
  | text _ htext => exact absurd htext id
  | map _ _ hvalues => exact hvalues

/-- A value that can be written as JSON. -/
def Writable (v : Value) : Prop := ∃ cs, write v = .ok cs

/-! ## Writing -/

/-- Items can be written when each of them can. -/
theorem exists_writeItems {xs : List Value} (h : ∀ x ∈ xs, Writable x) :
    ∃ css, writeItems Value.shown xs = .ok css := by
  induction xs with
  | nil => exact ⟨[], rfl⟩
  | cons x xs ih =>
    obtain ⟨hx, hxs⟩ := List.forall_mem_cons.1 h
    obtain ⟨cs, hcs⟩ := hx
    obtain ⟨css, hcss⟩ := ih hxs
    exact ⟨cs :: css, bind_eq_ok.2 ⟨cs, hcs, bind_eq_ok.2 ⟨css, hcss, rfl⟩⟩⟩

theorem exists_key {v : Value} (h : v.IsText) : ∃ cs, key v = .ok cs := by
  cases v with
  | text s => exact ⟨_, rfl⟩
  | torn t => exact ⟨_, rfl⟩
  | _ => exact absurd h id

/-- Entries can be written when their keys are texts and their values can be written. -/
theorem exists_writeEntries {es : List (Value × Value)} (hkeys : ∀ e ∈ es, e.1.IsText)
    (hvalues : ∀ e ∈ es, Writable e.2) : ∃ css, writeEntries Value.shown es = .ok css := by
  induction es with
  | nil => exact ⟨[], rfl⟩
  | cons e es ih =>
    obtain ⟨hkey, hkeys⟩ := List.forall_mem_cons.1 hkeys
    obtain ⟨hvalue, hvalues⟩ := List.forall_mem_cons.1 hvalues
    obtain ⟨name, hname⟩ := exists_key hkey
    obtain ⟨body, hbody⟩ := hvalue
    obtain ⟨css, hcss⟩ := ih hkeys hvalues
    exact ⟨_, bind_eq_ok.2 ⟨name, hname, bind_eq_ok.2 ⟨body, hbody, bind_eq_ok.2 ⟨css, hcss, rfl⟩⟩⟩⟩

theorem Writable.list {xs : List Value} (h : ∀ x ∈ xs, Writable x) : Writable (.list xs) := by
  obtain ⟨css, hcss⟩ := exists_writeItems h
  exact ⟨_, map_eq_ok.2 ⟨css, hcss, rfl⟩⟩

theorem Writable.ofText {v : Value} (h : v.IsText) : Writable v := by
  cases v with
  | text s => exact ⟨_, rfl⟩
  | torn t => exact ⟨_, rfl⟩
  | _ => exact absurd h id

theorem Writable.ofInt {n : Int} (h : Text.Numeral.isShort n = true) : Writable (.int n) :=
  ⟨_, Value.written_of_writable (v := .int n) h _⟩

/-- A tree can be written as JSON. -/
theorem Tree.exists_write {v : Value} (h : Tree v) : Writable v := by
  induction h with
  | null => exact ⟨_, rfl⟩
  | bool b => exact ⟨_, rfl⟩
  | int n hshort => exact .ofInt hshort
  | float x => exact ⟨_, rfl⟩
  | text v htext => exact .ofText htext
  | list xs hitems ih => exact .list ih
  | map es hkeys hvalues ih =>
    obtain ⟨css, hcss⟩ := exists_writeEntries hkeys ih
    exact ⟨_, map_eq_ok.2 ⟨css, hcss, rfl⟩⟩

/-- A tree has a plain text. -/
theorem Tree.writable {v : Value} (h : Tree v) : v.writable = true := by
  induction h with
  | null => rfl
  | bool b => rfl
  | int n hshort => exact hshort
  | float x => rfl
  | text v htext => exact htext.writable
  | list xs hitems ih => exact Value.writableItems_iff.2 ih
  | map es hkeys hvalues ih =>
    exact Value.writableEntries_iff.2 fun e he => ⟨(hkeys e he).writable, ih e he⟩

/-! ## Reading -/

/-- A string is read as a text. -/
theorem isText_of_string? {cs rest : List Char} {v : Value} (h : string? cs = some (v, rest)) :
    v.IsText := by
  obtain ⟨p, -, hp⟩ := Option.map_eq_some_iff.1 h
  cases hp
  exact Value.isText_ofPoints _

theorem spanDigits_lt (cs : List Char) : ∀ d ∈ (spanDigits cs).1, d < 10 := by
  induction cs with
  | nil => exact List.forall_mem_nil _
  | cons c cs ih =>
    rw [spanDigits]
    split
    · next d hd => exact List.forall_mem_cons.2 ⟨Text.Numeral.asciiDigit?_lt hd, ih⟩
    · exact List.forall_mem_nil _

theorem integral?_lt {cs rest : List Char} {ds : List Nat} (h : integral? cs = some (ds, rest)) :
    ∀ d ∈ ds, d < 10 := by
  unfold integral? at h
  split at h
  · cases h
    exact List.forall_mem_singleton.2 (by decide)
  · split at h
    · cases h
    · next hspan =>
      cases h
      have hdigits := spanDigits_lt cs
      rwa [hspan] at hdigits

/-- A number is read as an integer or as a float. -/
theorem tree_of_number? {negative : Bool} {cs rest : List Char} {v : Value}
    (h : number? maxDigits negative cs = some (v, rest)) : Tree v := by
  obtain ⟨⟨whole, behind⟩, hwhole, h⟩ := Option.bind_eq_some_iff.1 h
  dsimp only at h
  split at h
  · split at h
    · next hlength =>
      cases h
      exact .int _ (Text.Numeral.isShort_withSign negative (integral?_lt hwhole) hlength)
    · cases h
  · cases h
    exact .float _

/-- A number, a word or a string is a tree. -/
theorem tree_of_scalar? {cs rest : List Char} {v : Value}
    (h : scalar? maxDigits cs = some (v, rest)) : Tree v := by
  -- a word stands for one value, whatever follows it
  have hword {w cs : List Char} {u : Value} (hu : Tree u)
      (h : ((word? w cs).map fun rest => (u, rest)) = some (v, rest)) : Tree v := by
    obtain ⟨_, -, heq⟩ := Option.map_eq_some_iff.1 h
    cases heq
    exact hu
  unfold scalar? at h
  split at h
  · exact .text v (isText_of_string? h)
  · exact hword (.float _) h
  · exact tree_of_number? h
  · exact hword .null h
  · exact hword (.bool true) h
  · exact hword (.bool false) h
  · exact hword (.float _) h
  · exact hword (.float _) h
  · exact tree_of_number? h

mutual

/-- A value is a tree, by recursion on the fuel with which it is read. -/
theorem tree_of_value? : ∀ {fuel : Nat} {cs rest : List Char} {v : Value},
    value? maxDigits fuel cs = some (v, rest) → Tree v
  | 0, _, _, _, h => by
    rw [value?] at h
    cases h
  | fuel + 1, cs, rest, v, h => by
    unfold value? at h
    split at h
    · cases h
    · split at h
      · cases h
        exact .list [] (List.forall_mem_nil _)
      · obtain ⟨p, hp, heq⟩ := Option.map_eq_some_iff.1 h
        cases heq
        exact .list _ (tree_of_items? hp)
    · split at h
      · cases h
        exact .map [] (List.forall_mem_nil _) (List.forall_mem_nil _)
      · obtain ⟨p, hp, heq⟩ := Option.map_eq_some_iff.1 h
        cases heq
        have hes := Entries.forall_ofList (tree_of_entries? hp)
        exact .map _ (fun e he => (hes e he).1) fun e he => (hes e he).2
    · exact tree_of_scalar? h

/-- Items are trees. -/
theorem tree_of_items? : ∀ {fuel : Nat} {cs rest : List Char} {vs : List Value},
    items? maxDigits fuel cs = some (vs, rest) → ∀ v ∈ vs, Tree v
  | 0, _, _, _, h => by
    rw [items?] at h
    cases h
  | fuel + 1, cs, rest, vs, h => by
    rw [items?] at h
    obtain ⟨⟨v, behind⟩, hv, h⟩ := Option.bind_eq_some_iff.1 h
    dsimp only at h
    split at h
    · obtain ⟨⟨ws, last⟩, hws, heq⟩ := Option.bind_eq_some_iff.1 h
      cases heq
      exact List.forall_mem_cons.2 ⟨tree_of_value? hv, tree_of_items? hws⟩
    · cases h
      exact List.forall_mem_singleton.2 (tree_of_value? hv)
    · cases h

/-- Entries are trees behind texts. -/
theorem tree_of_entries? : ∀ {fuel : Nat} {cs rest : List Char} {es : List (Value × Value)},
    entries? maxDigits fuel cs = some (es, rest) → ∀ e ∈ es, e.1.IsText ∧ Tree e.2
  | 0, _, _, _, h => by
    rw [entries?] at h
    cases h
  | fuel + 1, cs, rest, es, h => by
    unfold entries? at h
    split at h
    · cases h
    · obtain ⟨⟨key, behindKey⟩, hkey, h⟩ := Option.bind_eq_some_iff.1 h
      dsimp only at h
      split at h
      · obtain ⟨⟨v, behind⟩, hv, h⟩ := Option.bind_eq_some_iff.1 h
        have hentry : Value.IsText key ∧ Tree v := ⟨isText_of_string? hkey, tree_of_value? hv⟩
        dsimp only at h
        split at h
        · obtain ⟨⟨others, last⟩, hothers, heq⟩ := Option.bind_eq_some_iff.1 h
          cases heq
          exact List.forall_mem_cons.2 ⟨hentry, tree_of_entries? hothers⟩
        · cases h
          exact List.forall_mem_singleton.2 hentry
        · cases h
      · cases h
    · cases h

end

/-- A JSON text is read as a tree. -/
theorem tree_of_read? {cs : List Char} {v : Value} (h : read? cs = some v) : Tree v := by
  obtain ⟨⟨w, rest⟩, hw, h⟩ := Option.bind_eq_some_iff.1 h
  dsimp only at h
  split at h
  · cases h
    exact tree_of_value? hw
  · cases h

end Json

end DocumentStore
