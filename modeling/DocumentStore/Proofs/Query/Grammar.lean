import DocumentStore.Proofs.Schema.Valid
import DocumentStore.Proofs.Writing
import DocumentStore.Query.Condition

/-!
# The grammar of filters

A raw condition is well formed when it is no mapping, or a mapping with one key, which spells an
operator (`Condition.WellFormed`), and `Condition.Means` tells which operator and operand each such
one stands for. Reading follows that relation (`Condition.ofRaw_eq_ok`) and refuses everything else
with the keys that it found (`Condition.ofRaw_of_not_wellFormed`). A filter is read entry by entry,
and the first one that is refused decides (`filter_reads_its_grammar`). The refusal is put into
words at once, so an integer without a numeral is a fault of its own (`Condition.Refusal`,
`longKeyFilter_not_refused`).
-/

set_option autoImplicit false

namespace DocumentStore

open Fallible

/-! ## Operators -/

namespace Operator

/-- The keys that spell an operator: its name, and its name behind a dollar sign. -/
def Spells (o : Operator) (key : Value) : Prop := key = .text o.name ∨ key = .text ("$" ++ o.name)

theorem name_of_ofName? {s : String} {o : Operator} (h : ofName? s = some o) : o.name = s := by
  simpa using List.find?_some h

theorem ofKey?_of_spells {o : Operator} {key : Value} (h : o.Spells key) : ofKey? key = some o := by
  rcases h with rfl | rfl
  · cases o <;> rfl
  · cases o <;> rfl

/-- A text is what is left of it without its dollar sign, if it has one. -/
theorem withoutDollar_cases (s : String) : s = withoutDollar s ∨ s = "$" ++ withoutDollar s := by
  unfold withoutDollar
  split
  · next rest hrest =>
    right
    apply String.toList_injective
    simp [hrest]
  · exact .inl rfl

/-- A key is read as the operator that it spells. -/
theorem ofKey?_eq_some {o : Operator} {key : Value} : ofKey? key = some o ↔ o.Spells key := by
  constructor
  · intro h
    cases key with
    | text s =>
      have hname : o.name = withoutDollar s := name_of_ofName? h
      rw [Spells, hname]
      exact (withoutDollar_cases s).imp (congrArg Value.text) (congrArg Value.text)
    | _ => cases h
  · exact ofKey?_of_spells

end Operator

/-! ## Raw conditions -/

namespace Condition

/-- The raw conditions of the grammar. -/
def WellFormed (raw : Value) : Prop :=
  raw.kind ≠ .map ∨ ∃ o key operand, Operator.Spells o key ∧ raw = .map [(key, operand)]

/-- The operator and the operand that a raw condition stands for. The source takes the place of a
pattern where a match is asked for, and only there. -/
inductive Means : Value → Operator → Value → Prop
  | bare (v : Value) (hmap : v.kind ≠ .map) (hregex : v.kind ≠ .regex) : Means v .eq v
  | barePattern (source : String) : Means (.regex source) .regex (.text source)
  | applied (o : Operator) (key operand : Value) (hkey : o.Spells key)
      (hoperand : o = .regex → operand.kind ≠ .regex) : Means (.map [(key, operand)]) o operand
  | appliedPattern (key : Value) (source : String) (hkey : Operator.regex.Spells key) :
      Means (.map [(key, .regex source)]) .regex (.text source)

/-- The keys of a refused mapping as they show. -/
def shownKeys (es : Entries) : String :=
  if es.isEmpty then "<empty>" else String.intercalate ", " ((Entries.keys es).map Value.display)

/-- What an entry is refused with for its keys: they are no operator on its field, in words that
hold the keys and the field; where one of these cannot be written, the fault is that. -/
inductive Refusal (field : Value) (keys : Entries) : Fault → Prop
  | unsupported (h : ∀ v ∈ Entries.keys keys ++ [field], v.writable = true) :
      Refusal field keys (.unsupportedOperator (shownKeys keys) field)
  | unwritable (v : Value) (hv : v ∈ Entries.keys keys ++ [field]) (h : v.writable = false) :
      Refusal field keys (.value .unwritable)

theorem exists_means {raw : Value} (h : WellFormed raw) : ∃ o operand, Means raw o operand := by
  rcases h with hkind | ⟨o, key, operand, hkey, rfl⟩
  · by_cases hregex : raw.kind = .regex
    · cases raw with
      | regex source => exact ⟨_, _, .barePattern source⟩
      | _ => cases hregex
    · exact ⟨_, _, .bare raw hkind hregex⟩
  · by_cases hpattern : o = .regex ∧ operand.kind = .regex
    · obtain ⟨rfl, hregex⟩ := hpattern
      cases operand with
      | regex source => exact ⟨_, _, .appliedPattern key source hkey⟩
      | _ => cases hregex
    · exact ⟨_, _, .applied o key operand hkey fun ho hregex => hpattern ⟨ho, hregex⟩⟩

theorem operandOf_eq_self {o : Operator} {operand : Value}
    (h : o = .regex → operand.kind ≠ .regex) :
    operandOf o operand = operand := by
  unfold operandOf
  split
  · exact absurd rfl (h rfl)
  · rfl

/-- A raw condition is read as what it stands for. -/
theorem ofRaw_of_means {raw : Value} {o : Operator} {operand : Value} (h : Means raw o operand)
    (field : Value) : ofRaw field raw = .ok ⟨some o, field, operand⟩ := by
  cases h with
  | bare _ hmap hregex =>
    cases raw with
    | map es => exact absurd rfl hmap
    | regex source => exact absurd rfl hregex
    | _ => rfl
  | barePattern source => rfl
  | applied _ key _ hkey hoperand =>
    simp only [ofRaw, Operator.ofKey?_of_spells hkey, operandOf_eq_self hoperand]
  | appliedPattern key source hkey =>
    simp only [ofRaw, Operator.ofKey?_of_spells hkey, operandOf]

/-- Only what is well formed stands for something. -/
theorem Means.wellFormed {raw : Value} {o : Operator} {operand : Value} (h : Means raw o operand) :
    WellFormed raw := by
  cases h with
  | bare _ hmap _ => exact .inl hmap
  | barePattern source => exact .inl (fun hkind => nomatch hkind)
  | applied _ key _ hkey _ => exact .inr ⟨o, key, operand, hkey, rfl⟩
  | appliedPattern key source hkey => exact .inr ⟨.regex, key, _, hkey, rfl⟩

theorem refusal_naming (field : Value) (keys : Entries) :
    Refusal field keys (.naming (Entries.keys keys ++ [field])
      (.unsupportedOperator (shownKeys keys) field)) := by
  rcases Fault.naming_cases (Entries.keys keys ++ [field])
      (.unsupportedOperator (shownKeys keys) field) with ⟨hall, hfault⟩ | ⟨⟨v, hv, hlong⟩, hfault⟩
  · rw [hfault]
    exact .unsupported hall
  · rw [hfault]
    exact .unwritable v hv hlong

/-- A raw condition that is not well formed is a mapping, and it is refused for its keys. -/
theorem ofRaw_of_not_wellFormed {raw : Value} (h : ¬WellFormed raw) (field : Value) :
    ∃ keys fault, raw = .map keys ∧ ofRaw field raw = .error fault ∧ Refusal field keys fault := by
  unfold WellFormed at h
  push Not at h
  obtain ⟨hmap, hkeys⟩ := h
  cases raw with
  | map es =>
    refine ⟨es, _, rfl, ?_, refusal_naming field es⟩
    match es with
    | [] => rfl
    | [(key, operand)] =>
      have hnone : Operator.ofKey? key = none := by
        cases hkey : Operator.ofKey? key with
        | none => rfl
        | some o => exact absurd rfl (hkeys o key operand (Operator.ofKey?_eq_some.1 hkey))
      simp only [ofRaw, hnone]
      rfl
    | first :: second :: rest =>
      have hshown : shownKeys (first :: second :: rest) =
          String.intercalate ", " ((first :: second :: rest).map fun e => e.1.display) := by
        rw [shownKeys, Entries.keys, List.map_map]
        rfl
      rw [hshown]
      rfl
  | _ => cases hmap

/-- Reading a raw condition succeeds with what it stands for, and only with that. -/
theorem ofRaw_eq_ok {field raw : Value} {c : Condition} :
    ofRaw field raw = .ok c ↔ ∃ o operand, Means raw o operand ∧ c = ⟨some o, field, operand⟩ := by
  constructor
  · intro h
    by_cases hraw : WellFormed raw
    · obtain ⟨o, operand, hmeans⟩ := exists_means hraw
      rw [ofRaw_of_means hmeans] at h
      exact ⟨o, operand, hmeans, (Except.ok.inj h).symm⟩
    · obtain ⟨keys, fault, -, hrefused, -⟩ := ofRaw_of_not_wellFormed hraw field
      rw [hrefused] at h
      cases h
  · rintro ⟨o, operand, hmeans, rfl⟩
    exact ofRaw_of_means hmeans field

/-- What is refused is not well formed, and it is refused for its keys. -/
theorem ofRaw_eq_error {field raw : Value} {fault : Fault} (h : ofRaw field raw = .error fault) :
    ¬WellFormed raw ∧ ∃ keys, raw = .map keys ∧ Refusal field keys fault := by
  have hnot : ¬WellFormed raw := by
    intro hraw
    obtain ⟨o, operand, hmeans⟩ := exists_means hraw
    rw [ofRaw_of_means hmeans] at h
    cases h
  obtain ⟨keys, refusal, hkeys, hrefused, hrefusal⟩ := ofRaw_of_not_wellFormed hnot field
  rw [hrefused] at h
  exact ⟨hnot, keys, hkeys, Except.error.inj h ▸ hrefusal⟩

/-! ## Filters -/

/-- A mapping is read entry by entry. -/
theorem ofFilter_map (es : Entries) :
    ofFilter (.map es) = es.mapM fun e => ofRaw e.1 e.2 := by
  cases es with
  | nil => rfl
  | cons e es => rfl

/-- A condition that an entry is read as. -/
def Reads (e : Value × Value) (c : Condition) : Prop :=
  ∃ o operand, Means e.2 o operand ∧ c = ⟨some o, e.1, operand⟩

/-- A filter is read as one condition for each of its entries, in order. -/
theorem ofFilter_eq_ok {es : Entries} {cs : List Condition} :
    ofFilter (.map es) = .ok cs ↔ List.Forall₂ Reads es cs := by
  have hreads : (fun (e : Value × Value) c => ofRaw e.1 e.2 = .ok c) = Reads := by
    funext e c
    exact propext ofRaw_eq_ok
  rw [ofFilter_map, mapM_eq_ok, hreads]

/-- A filter is read when all its entries are in the grammar. -/
theorem exists_ofFilter_iff {es : Entries} :
    (∃ cs, ofFilter (.map es) = .ok cs) ↔ ∀ e ∈ es, WellFormed e.2 := by
  constructor
  · rintro ⟨cs, hcs⟩ e he
    rw [ofFilter_map] at hcs
    obtain ⟨c, -, hc⟩ := exists_of_mapM hcs he
    obtain ⟨o, operand, hmeans, -⟩ := ofRaw_eq_ok.1 hc
    exact hmeans.wellFormed
  · intro h
    rw [ofFilter_map]
    apply exists_mapM
    intro e he
    obtain ⟨o, operand, hmeans⟩ := exists_means (h e he)
    exact ⟨_, ofRaw_of_means hmeans e.1⟩

/-- A filter is refused for its first entry that is not in the grammar. -/
theorem ofFilter_refused {es : Entries} (h : ∃ e ∈ es, ¬WellFormed e.2) :
    ∃ earlier field keys later fault, es = earlier ++ (field, .map keys) :: later ∧
      (∀ e ∈ earlier, WellFormed e.2) ∧ ¬WellFormed (.map keys) ∧
      ofFilter (.map es) = .error fault ∧ Refusal field keys fault := by
  cases hresult : ofFilter (.map es) with
  | ok cs =>
    obtain ⟨e, he, hnot⟩ := h
    exact absurd (exists_ofFilter_iff.1 ⟨cs, hresult⟩ e he) hnot
  | error fault =>
    rw [ofFilter_map] at hresult
    obtain ⟨earlier, ⟨field, raw⟩, later, rfl, hearlier, hrefused⟩ := split_of_mapM_eq_error hresult
    obtain ⟨hnot, keys, rfl, hrefusal⟩ := ofRaw_eq_error hrefused
    refine ⟨earlier, field, keys, later, fault, rfl, ?_, hnot, rfl, hrefusal⟩
    intro e he
    obtain ⟨c, hc⟩ := hearlier e he
    obtain ⟨o, operand, hmeans, -⟩ := ofRaw_eq_ok.1 hc
    exact hmeans.wellFormed

/-- Entries of one field that differ in the spelling of the operator at most. -/
def Respelled (e e' : Value × Value) : Prop :=
  e = e' ∨ e.1 = e'.1 ∧ ∃ o key key' operand, Operator.Spells o key ∧ Operator.Spells o key' ∧
    e.2 = .map [(key, operand)] ∧ e'.2 = .map [(key', operand)]

theorem ofRaw_respelled {e e' : Value × Value} (h : Respelled e e') :
    ofRaw e'.1 e'.2 = ofRaw e.1 e.2 := by
  rcases h with rfl | ⟨hfield, o, key, key', operand, hkey, hkey', hraw, hraw'⟩
  · rfl
  · rw [hfield, hraw, hraw']
    simp only [ofRaw, Operator.ofKey?_of_spells hkey, Operator.ofKey?_of_spells hkey']

theorem ofFilter_respelled {es es' : Entries} (h : List.Forall₂ Respelled es es') :
    ofFilter (.map es') = ofFilter (.map es) := by
  rw [ofFilter_map, ofFilter_map]
  induction h with
  | nil => rfl
  | cons he _ ih => rw [List.mapM_cons, List.mapM_cons, ofRaw_respelled he, ih]

/-- The mapping of each field to its operator and operand. -/
def filterOf (cs : List Condition) : Entries :=
  Entries.ofList (cs.map fun c =>
    (c.field, .map (c.operator.toList.map fun o => (.text o.name, c.operand))))

/-- A condition with an operator. Only a text is matched against, never a pattern. -/
def IsNode (c : Condition) : Prop :=
  ∃ o, c.operator = some o ∧ (o = .regex → c.operand.kind ≠ .regex)

/-- Conditions on different fields are read from the mapping of these fields to them. -/
theorem ofFilter_filterOf {cs : List Condition} (hnodes : ∀ c ∈ cs, c.IsNode)
    (hdistinct : (cs.map Condition.field).Pairwise fun a b => a.same b = false) :
    ofFilter (.map (filterOf cs)) = .ok cs := by
  have hfilter : filterOf cs = cs.map fun c =>
      (c.field, .map (c.operator.toList.map fun o => (.text o.name, c.operand))) := by
    apply Entries.ofList_of_distinct
    rw [Entries.Distinct, Entries.keys, List.map_map]
    exact hdistinct
  rw [ofFilter_map, hfilter, mapM_eq_ok, List.forall₂_map_left_iff, List.forall₂_same]
  intro c hc
  obtain ⟨o, ho, hoperand⟩ := hnodes c hc
  have hmeans : Means (.map [(.text o.name, c.operand)]) o c.operand :=
    .applied o _ _ (.inl rfl) hoperand
  show ofRaw c.field (.map (c.operator.toList.map _)) = .ok c
  rw [ho]
  refine (ofRaw_of_means hmeans c.field).trans ?_
  rw [← ho]

end Condition

open Condition in
/-- A filter is read when each of its entries is in the grammar, as a condition for each in its
order, however the operators are spelled. Otherwise the first entry that is not in the grammar is
refused: its keys are no operator on its field, unless one of the keys or the field cannot be
written, which is then the fault. Conditions on different fields have a filter that is read as
them. -/
theorem filter_reads_its_grammar (es : Entries) :
    ((∃ cs, ofFilter (.map es) = .ok cs) ↔ ∀ e ∈ es, WellFormed e.2) ∧
    (∀ cs, ofFilter (.map es) = .ok cs ↔ List.Forall₂ Reads es cs) ∧
    (∀ es', List.Forall₂ Respelled es es' → ofFilter (.map es') = ofFilter (.map es)) ∧
    ((∃ e ∈ es, ¬WellFormed e.2) →
      ∃ earlier field keys later fault, es = earlier ++ (field, .map keys) :: later ∧
        (∀ e ∈ earlier, WellFormed e.2) ∧ ¬WellFormed (.map keys) ∧
        ofFilter (.map es) = .error fault ∧ Refusal field keys fault) ∧
    ∀ cs : List Condition, (∀ c ∈ cs, c.IsNode) →
      ((cs.map Condition.field).Pairwise fun a b => a.same b = false) →
      ofFilter (.map (filterOf cs)) = .ok cs := by
  refine ⟨exists_ofFilter_iff, ?_, ?_, ofFilter_refused, ?_⟩
  · intro cs
    exact ofFilter_eq_ok
  · intro es' hes'
    exact ofFilter_respelled hes'
  · intro cs hnodes hdistinct
    exact ofFilter_filterOf hnodes hdistinct

/-- A filter of which the last two entries are refused: a second dollar sign makes no operator. -/
def doubledDollarFilter : Entries :=
  [(.text "a", .int 5), (.text "b", .map [(.text "$in", .list [.null])]), (.text "c", .regex "x.*"),
    (.text "d", .map [(.text "$$eq", .int 1)]), (.text "e", .map [])]

/-- A match and a comparison, of which only the second has a pattern for its operand. -/
def patternNodes : List Condition :=
  [⟨some .regex, .text "a", .text "x"⟩, ⟨some .ne, .text "b", .regex "x"⟩]

open Condition in
theorem doubledDollarFilter_refused :
    (∃ e ∈ doubledDollarFilter, ¬WellFormed e.2) ∧
    (∃ earlier field keys later fault,
      doubledDollarFilter = earlier ++ (field, .map keys) :: later ∧
      (∀ e ∈ earlier, WellFormed e.2) ∧ ¬WellFormed (.map keys) ∧
      ofFilter (.map doubledDollarFilter) = .error fault ∧ Refusal field keys fault) ∧
    ofFilter (.map (filterOf patternNodes)) = .ok patternNodes := by
  have hdollars : ¬WellFormed (.map [(.text "$$eq", .int 1)]) :=
    (ofRaw_eq_error (show ofRaw (.text "d") _ = _ from rfl)).1
  have hoffence : ∃ e ∈ doubledDollarFilter, ¬WellFormed e.2 :=
    ⟨(.text "d", _), by simp [doubledDollarFilter], hdollars⟩
  have hnodes : ∀ c ∈ patternNodes, c.IsNode := by
    simp [patternNodes, IsNode, Value.kind]
  have hfields : (patternNodes.map Condition.field).Pairwise fun a b => a.same b = false := by
    simp [patternNodes, Value.same_text]
  obtain ⟨-, -, -, hrefused, hback⟩ := filter_reads_its_grammar doubledDollarFilter
  exact ⟨hoffence, hrefused hoffence, hback patternNodes hnodes hfields⟩

/-- The least integer without a numeral. -/
def longInteger : Value := .int (10 ^ Text.Numeral.maxDigits : Nat)

theorem longInteger_unwritable : longInteger.writable = false := by
  rw [longInteger, Value.writable, Bool.eq_false_iff, Ne, Text.Numeral.isShort_iff,
    Int.natAbs_natCast]
  exact Nat.lt_irrefl _

/-- A filter whose one entry has a long integer where an operator belongs. -/
def longKeyFilter : Entries := [(.text "a", .map [(longInteger, .int 1)])]

/-- A filter whose one entry is refused on a field that is null. -/
def namelessFilter : Entries := [(.null, .map [])]

open Condition in
/-- A long integer is no operator, and the filter is not refused for it but for the words that it
has not. Nor is a field named that is null: the refusal takes it for none. -/
theorem longKeyFilter_not_refused :
    (∀ e ∈ longKeyFilter, ¬WellFormed e.2) ∧
    ofFilter (.map longKeyFilter) = .error (.value .unwritable) ∧
    (∀ operator field,
      ofFilter (.map longKeyFilter) ≠ .error (.unsupportedOperator operator field)) ∧
    (∀ e ∈ namelessFilter, ¬WellFormed e.2) ∧
    ∃ fault, ofFilter (.map namelessFilter) = .error fault ∧
      fault.message = "Unsupported operator '<empty>'" := by
  have hlong : ofRaw (.text "a") (.map [(longInteger, .int 1)]) = .error (.value .unwritable) :=
    congrArg Except.error
      (Fault.naming_of_unwritable List.mem_cons_self longInteger_unwritable _)
  have hfilter : ofFilter (.map longKeyFilter) = .error (.value .unwritable) := by
    rw [ofFilter_map, longKeyFilter, List.mapM_cons, hlong]
    rfl
  have hnameless : ofRaw .null (.map []) = .error (.unsupportedOperator "<empty>" .null) := rfl
  refine ⟨?_, hfilter, fun operator field h => ?_, ?_, _, rfl, rfl⟩
  · exact List.forall_mem_singleton.2 (ofRaw_eq_error hlong).1
  · rw [hfilter] at h
    cases h
  · exact List.forall_mem_singleton.2 (ofRaw_eq_error hnameless).1

end DocumentStore
