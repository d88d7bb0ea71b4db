import DocumentStore.Proofs.Document.JsonColumns
import DocumentStore.Proofs.Query.Timestamps
import DocumentStore.Proofs.Statement.Compiled
import DocumentStore.Proofs.Statement.FormSpelling

/-!
# Coerced values of columns

The values of a column are coerced for its kind, by one function when they are compared, by others
when they are inserted or set. `Agrees` says what the placeholder of a column and its parameter must
be to each other, and `Use.Takes` what a parameter must be for a kind. Each of the coercing
functions gives what its use takes (`takes_of_filterValue`, `takes_of_columnValue`,
`takes_of_setParameter`), and a placeholder that is written for the kind agrees with it
(`agrees_of_takes`).
-/

set_option autoImplicit false

namespace DocumentStore

open Sql Fallible
open Text (Point)
open Calendar (Moment)

/-! ## What a placeholder and its parameter must be -/

/-- What a placeholder of a column stands for: an operand, the operands of a membership test, a
value that is inserted, or one that is set. -/
inductive Use where
  | compared
  | member
  | inserted
  | set
deriving DecidableEq

/-- A column that is declared with a type and not reserved. -/
def FieldSchema.Declares (s : FieldSchema) (column : List Point) (t : FieldType) : Prop :=
  isInternal (.ofPoints column) = false ∧
    ∃ d ∈ s.fields, d.name = .ofPoints column ∧ d.fieldType = some t

/-- The two columns of timestamps. -/
def IsTimestamp (column : List Point) : Prop :=
  column = Text.points "_createdAt" ∨ column = Text.points "_lastModifiedAt"

/-- A text, or null. -/
def TextOrNull (v : Value) : Prop := v = .null ∨ ∃ t, v = .text t

/-- A moment without offset, or null. -/
def NaiveOrNull (v : Value) : Prop := v = .null ∨ ∃ m : Moment, v = .moment m ∧ m.offset = none

/-- A float, or null. -/
def FloatOrNull (v : Value) : Prop := v = .null ∨ ∃ x, v = .float x

/-- The JSON text of a value, or null. -/
def JsonOrNull (v : Value) : Prop :=
  v = .null ∨ ∃ given text, Json.text given = .ok text ∧ v = .text text

/-- A list of values. -/
def ListOf (P : Value → Prop) (v : Value) : Prop := ∃ vs, v = .list vs ∧ ∀ x ∈ vs, P x

/-- How the placeholder of a column is written, beside its parameter. -/
structure Agrees (s : FieldSchema) (column : List Point) (use : Use) (spelling : Spelling)
    (param : Value) : Prop where
  dateTime : s.Declares column .dateTime →
    if use = .member then
      spelling = .withCast "::text[]::timestamp[]" ∧ ListOf TextOrNull param
    else spelling = .withCast "::text::timestamp" ∧ TextOrNull param
  timestamp : IsTimestamp column →
    match use with
    | .member => spelling = .withCast "::timestamp[]" ∧ ListOf NaiveOrNull param
    | .set => spelling = .ofSeconds ∧ FloatOrNull param
    | _ => spelling = .bare ∧ NaiveOrNull param
  other : ¬s.Declares column .dateTime → ¬IsTimestamp column →
    spelling = .bare ∧ (use = .member → ∃ vs, param = .list vs) ∧
      (use = .inserted ∨ use = .set →
        column = Text.points historyField ∨ s.Declares column .mixed ∨ s.Declares column .object →
        JsonOrNull param)

/-! ## Kinds of columns -/

theorem isTimestamp_iff (column : List Point) :
    IsTimestamp column ↔ isNamed timestampFields (.ofPoints column) = true := by
  have hstamps : ∀ n ∈ timestampFields, Text.points n = Text.points "_createdAt" ∨
      Text.points n = Text.points "_lastModifiedAt" := by decide
  constructor
  · rintro (rfl | rfl) <;> decide
  · intro h
    obtain ⟨n, hn, heq⟩ := exists_of_isNamed h
    have hpoints : column = Text.points n := by rw [← Value.points_ofPoints column, heq]; rfl
    rw [hpoints]
    exact hstamps n hn

/-- A declared column has the type of its declaration, for a schema of a mapping declares it
once. -/
theorem FieldSchema.declares_iff {s : FieldSchema} (hdistinct : s.Distinct) (column : List Point)
    (t : FieldType) : s.Declares column t ↔ s.columnType (.ofPoints column) = some t := by
  have htext := Value.isText_ofPoints column
  rw [FieldSchema.columnType]
  constructor
  · rintro ⟨hinternal, d, hd, hname, htype⟩
    have hget := FieldSchema.get?_of_mem hdistinct hd (by rw [hname]; exact htext)
    rw [hname] at hget
    rw [hinternal, if_neg Bool.false_ne_true, hget]
    exact htype
  · intro h
    split at h
    · cases h
    · next hinternal =>
      obtain ⟨d, hget, htype⟩ := Option.bind_eq_some_iff.1 h
      have hsame := List.find?_some hget
      exact ⟨by simpa using hinternal, d, List.mem_of_find?_eq_some hget,
        Value.eq_of_same htext hsame, htype⟩

/-- The columns whose values are bound as JSON. -/
theorem FieldSchema.isEncoded_iff {s : FieldSchema} (hdistinct : s.Distinct) (column : List Point) :
    s.isEncoded (.ofPoints column) = true ↔
      column = Text.points historyField ∨ s.Declares column .mixed ∨ s.Declares column .object := by
  have hhistory := Value.same_iff_points_eq (b := .text historyField) (Value.isText_ofPoints column)
    trivial
  rw [Value.points_ofPoints] at hhistory
  rw [FieldSchema.isEncoded, Bool.or_eq_true, FieldSchema.holdsJson,
    FieldSchema.declares_iff hdistinct, FieldSchema.declares_iff hdistinct, hhistory]
  refine or_congr_right ?_
  cases s.columnType (.ofPoints column) with
  | none => simp
  | some t => cases t <;> simp [FieldType.isJson]

/-- How the placeholder of a column of a kind is written. -/
def Use.spelling (kind : ColumnKind) : Use → Spelling
  | .member => kind.many
  | .set => kind.toSet
  | _ => kind.one

/-- What the parameter of a column of a kind is. -/
def Use.Takes (kind : ColumnKind) (encoded : Bool) (param : Value) : Use → Prop
  | .compared =>
    match kind with
    | .timestamp => NaiveOrNull param
    | .dateTime => TextOrNull param
    | .plain => True
  | .member =>
    match kind with
    | .timestamp => ListOf NaiveOrNull param
    | .dateTime => ListOf TextOrNull param
    | .plain => ∃ vs, param = .list vs
  | .inserted =>
    match kind with
    | .timestamp => NaiveOrNull param
    | .dateTime => TextOrNull param
    | .plain => encoded = true → JsonOrNull param
  | .set =>
    match kind with
    | .timestamp => FloatOrNull param
    | .dateTime => TextOrNull param
    | .plain => encoded = true → JsonOrNull param

/-- A placeholder that is written for the kind of its column agrees with a parameter for that
kind. -/
theorem agrees_of_takes {s : FieldSchema} (hdistinct : s.Distinct) {column : List Point} {use : Use}
    {param : Value}
    (h : use.Takes (s.kindOf (.ofPoints column)) (s.isEncoded (.ofPoints column)) param) :
    Agrees s column use (use.spelling (s.kindOf (.ofPoints column))) param := by
  have hdate : s.Declares column .dateTime ↔ s.isDateTime (.ofPoints column) = true := by
    rw [FieldSchema.declares_iff hdistinct, FieldSchema.isDateTime, beq_iff_eq]
  rcases s.kindOf_cases (.ofPoints column) with ⟨hnamed, hdateTime, hkind⟩ |
    ⟨hnamed, hdateTime, hkind⟩ | ⟨hnamed, hdateTime, hkind⟩
  · rw [hkind] at h ⊢
    refine ⟨fun hdeclared => ?_, fun _ => ?_, fun _ hother => ?_⟩
    · rw [hdate, hdateTime] at hdeclared
      cases hdeclared
    · cases use <;> exact ⟨rfl, h⟩
    · exact absurd ((isTimestamp_iff column).2 hnamed) hother
  · rw [hkind] at h ⊢
    refine ⟨fun _ => ?_, fun hstamp => ?_, fun hother => ?_⟩
    · cases use <;> exact ⟨rfl, h⟩
    · rw [isTimestamp_iff, hnamed] at hstamp
      cases hstamp
    · exact absurd (hdate.2 hdateTime) hother
  · rw [hkind] at h ⊢
    refine ⟨fun hdeclared => ?_, fun hstamp => ?_, fun _ _ => ⟨?_, ?_, ?_⟩⟩
    · rw [hdate, hdateTime] at hdeclared
      cases hdeclared
    · rw [isTimestamp_iff, hnamed] at hstamp
      cases hstamp
    · cases use <;> rfl
    · rintro rfl
      exact h
    · rintro (rfl | rfl) hjson
      · exact h ((FieldSchema.isEncoded_iff hdistinct column).2 hjson)
      · exact h ((FieldSchema.isEncoded_iff hdistinct column).2 hjson)

/-! ## Coerced values -/

theorem textOrNull_ofText (t : Option String) : TextOrNull (.ofText t) := by
  cases t with
  | none => exact .inl rfl
  | some t => exact .inr ⟨t, rfl⟩

theorem naive_of_ofSeconds {x : Double} {m : Moment} (h : Timestamp.ofSeconds x = .ok m) :
    m.offset = none := by
  obtain ⟨micros, -, h⟩ := bind_eq_ok.1 h
  exact (Moment.ofInstant?_eq_some.1 (Timestamp.ofMicros_eq_ok.1 h)).1

theorem naive_of_inUtc {m m' : Moment} (h : Timestamp.inUtc m = .ok m') : m'.offset = none := by
  rw [Timestamp.inUtc_eq] at h
  cases hinstant : Moment.ofInstant? m.instant with
  | some m'' =>
    rw [hinstant] at h
    cases h
    exact (Moment.ofInstant?_eq_some.1 hinstant).1
  | none =>
    rw [hinstant] at h
    cases h

/-- What is read as a timestamp has no offset. -/
theorem naive_of_toTimestamp {v : Value} {m : Moment} (h : toTimestamp v = .ok (some m)) :
    m.offset = none := by
  have hread {x : Except Fault Moment} (hx : ∀ m, x = .ok m → m.offset = none)
      (h : x.map some = .ok (some m)) : m.offset = none := by
    obtain ⟨m', hm', heq⟩ := map_eq_ok.1 h
    exact hx m (Option.some.inj heq ▸ hm')
  cases v with
  | int n =>
    refine hread (fun m hm => ?_) h
    rw [Timestamp.ofMillis] at hm
    split at hm
    · cases hm
    · exact naive_of_ofSeconds hm
  | float x => exact hread (fun m hm => naive_of_ofSeconds hm) h
  | moment m' => exact hread (fun m hm => naive_of_inUtc hm) h
  | date d =>
    cases h
    rfl
  | text t =>
    obtain ⟨m', -, h⟩ := bind_eq_ok.1 h
    exact hread (fun m hm => naive_of_inUtc hm) h
  | torn t =>
    obtain ⟨m', -, h⟩ := bind_eq_ok.1 h
    exact hread (fun m hm => naive_of_inUtc hm) h
  | _ => cases h

theorem naiveOrNull_ofMoment {v param : Value}
    (h : (toTimestamp v).map Value.ofMoment = .ok param) :
    NaiveOrNull param := by
  obtain ⟨m, hm, rfl⟩ := map_eq_ok.1 h
  cases m with
  | none => exact .inl rfl
  | some m => exact .inr ⟨m, rfl, naive_of_toTimestamp hm⟩

theorem jsonOrNull_encodeJson {v param : Value} (h : (encodeJson v).map Value.ofText = .ok param) :
    JsonOrNull param := by
  obtain ⟨t, ht, rfl⟩ := map_eq_ok.1 h
  unfold encodeJson at ht
  split at ht
  · cases ht
    exact .inl rfl
  · obtain ⟨text, htext, rfl⟩ := map_eq_ok.1 ht
    exact .inr ⟨_, text, htext, rfl⟩

/-- An operand is coerced for the kind of its column. -/
theorem takes_of_filterValue {s : FieldSchema} {column operand param : Value} (encoded : Bool)
    (h : filterValue s column operand = .ok param) :
    Use.compared.Takes (s.kindOf column) encoded param := by
  rw [filterValue] at h
  rcases s.kindOf_cases column with ⟨hnamed, -, hkind⟩ | ⟨hnamed, hdate, hkind⟩ | ⟨-, -, hkind⟩
  · rw [hnamed, if_pos rfl] at h
    rw [hkind]
    exact naiveOrNull_ofMoment h
  · rw [hnamed, hdate, if_neg Bool.false_ne_true, if_pos rfl] at h
    obtain ⟨t, -, rfl⟩ := map_eq_ok.1 h
    rw [hkind]
    exact textOrNull_ofText t
  · rw [hkind]
    trivial

/-- The operands of a membership test are coerced one by one. -/
theorem takes_of_members {s : FieldSchema} {column param : Value} {operands : List Value}
    (encoded : Bool) (h : (operands.mapM (filterValue s column)).map .list = .ok param) :
    Use.member.Takes (s.kindOf column) encoded param := by
  obtain ⟨vs, hvs, rfl⟩ := map_eq_ok.1 h
  have heach : ∀ v ∈ vs, Use.compared.Takes (s.kindOf column) encoded v := fun v hv =>
    (exists_of_mem_mapM hvs hv).elim fun operand hoperand => takes_of_filterValue encoded hoperand.2
  cases hkind : s.kindOf column with
  | timestamp =>
    rw [hkind] at heach
    exact ⟨vs, rfl, heach⟩
  | dateTime =>
    rw [hkind] at heach
    exact ⟨vs, rfl, heach⟩
  | plain => exact ⟨vs, rfl⟩

/-- A value that is written is coerced for the kind of its column, timestamps apart. -/
theorem takes_of_columnValue {s : FieldSchema} {column v param : Value}
    (h : columnValue s column v = .ok param)
    (hstamp : isNamed timestampFields column = true → NaiveOrNull v) :
    Use.inserted.Takes (s.kindOf column) (s.isEncoded column) param := by
  rw [columnValue_eq] at h
  rcases s.kindOf_cases column with ⟨hnamed, hdate, hkind⟩ | ⟨-, hdate, hkind⟩ | ⟨-, hdate, hkind⟩
  · rw [s.isEncoded_of_timestamp hnamed, hdate, if_neg Bool.false_ne_true] at h
    cases h
    rw [hkind]
    exact hstamp hnamed
  · have hplain : s.isEncoded column = false := by
      cases hencoded : s.isEncoded column with
      | false => rfl
      | true => rw [FieldSchema.isDateTime_of_isEncoded hencoded] at hdate; cases hdate
    rw [hplain, hdate, if_neg Bool.false_ne_true] at h
    obtain ⟨-, rfl⟩ := Value.written_eq_ok.1 h
    rw [hkind]
    exact textOrNull_ofText _
  · rw [hkind]
    intro hencoded
    rw [hencoded, if_pos rfl] at h
    exact jsonOrNull_encodeJson h

/-- A value that is set is coerced for the kind of its column. -/
theorem takes_of_setParameter {s : FieldSchema} {column v param : Value}
    (h : setParameter s column v = .ok param) :
    Use.set.Takes (s.kindOf column) (s.isEncoded column) param := by
  rw [setParameter] at h
  cases hnamed : isNamed timestampFields column with
  | true =>
    rw [hnamed, if_pos rfl] at h
    obtain ⟨x, -, rfl⟩ := map_eq_ok.1 h
    rw [FieldSchema.kindOf, if_pos hnamed]
    cases x with
    | none => exact .inl rfl
    | some x => exact .inr ⟨x, rfl⟩
  | false =>
    rw [hnamed, if_neg Bool.false_ne_true] at h
    have hwritten := takes_of_columnValue h fun hstamp => by rw [hnamed] at hstamp; cases hstamp
    -- but for timestamps a value is set as it is inserted
    rcases s.kindOf_cases column with ⟨hstamp, -, -⟩ | ⟨-, -, hkind⟩ | ⟨-, -, hkind⟩
    · rw [hnamed] at hstamp
      cases hstamp
    · rw [hkind] at hwritten ⊢
      exact hwritten
    · rw [hkind] at hwritten ⊢
      exact hwritten

end DocumentStore
