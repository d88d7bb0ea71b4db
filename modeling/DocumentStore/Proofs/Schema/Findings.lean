import DocumentStore.Proofs.Schema.Valid
import DocumentStore.Proofs.Writing
import Mathlib.Data.List.Basic

/-!
# The findings of a validation

A schema is looked through twice: once for a list of all its problems, and once to be refused with
the first of them. `ensureDefinitions_of_findings` says that the two agree: a schema is accepted
when its list is empty, and otherwise refused with the fault that reports the first finding
(`Finding.Reports`). There is a list as long as every name can be encoded and every type that does
not exist can be written; a name that holds a surrogate without a partner stops both, and so does a
type with an integer too long for a numeral (`ofDefinitions_of_obstacle`).
-/

set_option autoImplicit false

namespace DocumentStore

open Fallible

/-- A definition whose problems can be put into words: the name is a text that can be encoded, and
the type can be written if it does not exist. -/
def FieldDefinition.Reportable (d : FieldDefinition) : Prop :=
  (∃ n : String, d.name = .text n) ∧ (d.fieldType = none → d.type.writable = true)

/-- A schema whose problems can be put into words. -/
def FieldSchema.Reportable (s : FieldSchema) : Prop := ∀ d ∈ s.fields, d.Reportable

/-- Why the problems of a definition cannot be put into words. -/
inductive FieldDefinition.Obstacle (d : FieldDefinition) : Fault → Prop
  | name (t : Text.Torn) (h : d.name = .torn t) : Obstacle d (.unencodable t)
  | type (htype : d.fieldType = none) (h : d.type.writable = false) :
    Obstacle d (.value .unwritable)

/-- The fault that reports a finding among numbered definitions: a problem of a name by the number
of the field, a type that does not exist by the name of the field and the type. -/
inductive Finding.Reports (numbered : List (FieldDefinition × Nat)) : Finding → Fault → Prop
  | name {d : FieldDefinition} {index : Nat} {problem : NameProblem} {problems : List NameProblem}
    (hfield : (d, index) ∈ numbered) (hproblems : nameProblems d.name = .ok problems)
    (hproblem : problem ∈ problems) :
    Reports numbered (.name index problem) (.invalidName index problem)
  | type {d : FieldDefinition} {index : Nat} (hfield : (d, index) ∈ numbered)
    (htype : d.fieldType = none) :
    Reports numbered (.type index d.type) (.unsupportedType d.name d.type)

namespace Finding.Reports

variable {numbered : List (FieldDefinition × Nat)} {f : Finding} {fault : Fault}

theorem cons (h : f.Reports numbered fault) (d : FieldDefinition × Nat) :
    f.Reports (d :: numbered) fault := by
  cases h with
  | name hfield hproblems hproblem => exact .name (List.mem_cons_of_mem _ hfield) hproblems hproblem
  | type hfield htype => exact .type (List.mem_cons_of_mem _ hfield) htype

/-- A problem of a name is reported with its place and its words. -/
theorem message_eq {index : Nat} {problem : NameProblem}
    (h : (Finding.name index problem).Reports numbered fault) :
    fault.message = (Finding.name index problem).path ++ ": " ++
      (Finding.name index problem).message := by
  cases h
  have hfault : (Fault.invalidName index problem).message =
      "fields[" ++ Text.Numeral.text index ++ "].name: " ++ problem.message := rfl
  have hpath : (Finding.name index problem).path =
      "fields[" ++ Text.Numeral.text index ++ "].name" := rfl
  have hcolon : "].name: " = "].name" ++ ": " := rfl
  rw [hfault, hpath, hcolon, ← String.append_assoc]
  rfl

end Finding.Reports

/-! ## The two traversals -/

/-- The problems of a name that can be encoded are found. -/
theorem exists_nameProblems (n : String) : ∃ problems, nameProblems (.text n) = .ok problems := by
  unfold nameProblems
  dsimp only
  split
  · exact ⟨_, rfl⟩
  · split
    · exact ⟨_, rfl⟩
    · exact ⟨_, rfl⟩

/-- A name without problems is a text. -/
theorem exists_of_nameProblems_nil {name : Value} (h : nameProblems name = .ok []) :
    ∃ n : String, name = .text n := by
  unfold nameProblems at h
  split at h
  · cases h
  · split at h
    · exact ⟨_, rfl⟩
    · cases h
    · split at h <;> cases h
    · cases h

theorem Finding.ofType_of_reportable {d : FieldDefinition} (h : d.Reportable) (index : Nat) :
    Finding.ofType index d = .ok (if d.fieldType = none then [.type index d.type] else []) := by
  rw [Finding.ofType]
  split
  · next htype => exact Value.written_of_writable (h.2 htype) _
  · rfl

theorem exists_findings (first : Nat) {ds : List FieldDefinition} (h : ∀ d ∈ ds, d.Reportable) :
    ∃ findings, Finding.ofDefinitions first ds = .ok findings := by
  induction ds generalizing first with
  | nil => exact ⟨[], rfl⟩
  | cons d ds ih =>
    obtain ⟨hd, hds⟩ := List.forall_mem_cons.1 h
    obtain ⟨n, hn⟩ := hd.1
    obtain ⟨problems, hproblems⟩ := exists_nameProblems n
    obtain ⟨rest, hrest⟩ := ih (first + 1) hds
    rw [← hn] at hproblems
    have hhere : Finding.ofDefinition first d = .ok (problems.map (.name first) ++ _) :=
      bind_eq_ok.2
        ⟨problems, hproblems, bind_eq_ok.2 ⟨_, Finding.ofType_of_reportable hd first, rfl⟩⟩
    exact ⟨_, bind_eq_ok.2 ⟨_, hhere, bind_eq_ok.2 ⟨rest, hrest, rfl⟩⟩⟩

section Stops

variable {first : Nat} {d : FieldDefinition} {ds : List FieldDefinition}

theorem ensureDefinitions_of_problem {problem : NameProblem} {problems : List NameProblem}
    (h : nameProblems d.name = .ok (problem :: problems)) :
    ensureDefinitions first (d :: ds) = .error (.invalidName first problem) := by
  rw [ensureDefinitions, h]
  rfl

theorem ensureDefinitions_of_untyped (h : nameProblems d.name = .ok [])
    (htype : d.fieldType = none) :
    ensureDefinitions first (d :: ds) =
      .error (.naming [d.name, d.type] (.unsupportedType d.name d.type)) := by
  simp only [ensureDefinitions, h, htype]
  rfl

theorem ensureDefinitions_of_sound (h : nameProblems d.name = .ok []) (htype : d.fieldType ≠ none) :
    ensureDefinitions first (d :: ds) = ensureDefinitions (first + 1) ds := by
  simp only [ensureDefinitions, h, htype]
  rfl

/-- The second traversal stops at a name with problems, at a type that does not exist, or further
on. -/
theorem exists_ensureDefinitions_error {problems : List NameProblem}
    (h : nameProblems d.name = .ok problems)
    (hstops : d.fieldType = none ∨ ∃ fault, ensureDefinitions (first + 1) ds = .error fault) :
    ∃ fault, ensureDefinitions first (d :: ds) = .error fault := by
  cases problems with
  | cons problem problems => exact ⟨_, ensureDefinitions_of_problem h⟩
  | nil =>
    by_cases htype : d.fieldType = none
    · exact ⟨_, ensureDefinitions_of_untyped h htype⟩
    · rw [ensureDefinitions_of_sound h htype]
      exact hstops.resolve_left htype

end Stops

/-- Definitions are accepted when there is nothing to be found in them, and otherwise refused with
the fault that reports the first finding. -/
theorem ensureDefinitions_of_findings {first : Nat} {ds : List FieldDefinition}
    {findings : List Finding} (h : Finding.ofDefinitions first ds = .ok findings) :
    (findings = [] ∧ ensureDefinitions first ds = .ok ()) ∨
      ∃ f rest fault, findings = f :: rest ∧ ensureDefinitions first ds = .error fault ∧
        f.Reports (ds.zipIdx first) fault := by
  induction ds generalizing first findings with
  | nil =>
    cases h
    exact .inl ⟨rfl, rfl⟩
  | cons d ds ih =>
    obtain ⟨here, hhere, h⟩ := bind_eq_ok.1 h
    obtain ⟨rest, hrest, h⟩ := bind_eq_ok.1 h
    cases h
    obtain ⟨problems, hproblems, hhere⟩ := bind_eq_ok.1 hhere
    obtain ⟨untyped, huntyped, hhere⟩ := bind_eq_ok.1 hhere
    cases hhere
    have hfield : (d, first) ∈ (d :: ds).zipIdx first := List.mem_cons_self
    -- the first problem of the name comes first, then the type, then what the others have
    cases problems with
    | cons problem problems =>
      exact .inr ⟨_, _, _, rfl, ensureDefinitions_of_problem hproblems,
        .name hfield hproblems List.mem_cons_self⟩
    | nil =>
      rw [Finding.ofType] at huntyped
      by_cases htype : d.fieldType = none
      · rw [if_pos htype] at huntyped
        obtain ⟨htypeWritable, rfl⟩ := Value.written_eq_ok.1 huntyped
        -- both the name and the type can be written, so the fault is the one that is meant
        have hwritable : ∀ v ∈ [d.name, d.type], v.writable = true := by
          obtain ⟨n, hn⟩ := exists_of_nameProblems_nil hproblems
          rw [List.forall_mem_cons, List.forall_mem_singleton, hn]
          exact ⟨rfl, htypeWritable⟩
        have herror : ensureDefinitions first (d :: ds) = _ :=
          ensureDefinitions_of_untyped hproblems htype
        rw [Fault.naming_of_writable hwritable] at herror
        exact .inr ⟨_, _, _, rfl, herror, .type hfield htype⟩
      · rw [if_neg htype] at huntyped
        cases huntyped
        rw [ensureDefinitions_of_sound hproblems htype]
        rcases ih hrest with ⟨rfl, hok⟩ | ⟨f, later, fault, rfl, herror, hreports⟩
        · exact .inl ⟨rfl, hok⟩
        · exact .inr ⟨f, later, fault, rfl, herror, hreports.cons _⟩

/-- What cannot be put into words stops both traversals, unless an earlier problem stops the second
one. -/
theorem ofDefinitions_of_obstacle (first : Nat) {ds : List FieldDefinition}
    (hnames : ∀ d ∈ ds, d.name.IsText) (hobstacle : ¬∀ d ∈ ds, d.Reportable) :
    (∃ d ∈ ds, ∃ cause, d.Obstacle cause ∧ Finding.ofDefinitions first ds = .error cause) ∧
      ∃ fault, ensureDefinitions first ds = .error fault := by
  induction ds generalizing first with
  | nil => exact absurd (List.forall_mem_nil _) hobstacle
  | cons d ds ih =>
    obtain ⟨hname, hnames⟩ := List.forall_mem_cons.1 hnames
    cases hd : d.name with
    | torn t =>
      refine ⟨⟨d, List.mem_cons_self, .unencodable t, .name t hd, ?_⟩, .unencodable t, ?_⟩
      · rw [Finding.ofDefinitions, Finding.ofDefinition, hd]
        rfl
      · rw [ensureDefinitions, hd]
        rfl
    | text n =>
      obtain ⟨problems, hproblems⟩ := exists_nameProblems n
      rw [← hd] at hproblems
      by_cases hhere : d.Reportable
      · -- this definition has its problems, and a later one stops the first traversal
        rw [List.forall_mem_cons, not_and] at hobstacle
        obtain ⟨⟨e, he, cause, hcause, hlist⟩, hlater⟩ := ih (first + 1) hnames (hobstacle hhere)
        refine ⟨⟨e, List.mem_cons_of_mem d he, cause, hcause, ?_⟩,
          exists_ensureDefinitions_error hproblems (.inr hlater)⟩
        rw [Finding.ofDefinitions, Finding.ofDefinition, hproblems,
          Finding.ofType_of_reportable hhere, hlist]
        rfl
      · -- the name is a text, so it is the type that has no words
        obtain ⟨htype, hlong⟩ : d.fieldType = none ∧ d.type.writable = false := by
          unfold FieldDefinition.Reportable at hhere
          push Not at hhere
          obtain ⟨htype, hlong⟩ := hhere ⟨n, hd⟩
          exact ⟨htype, Bool.eq_false_iff.2 hlong⟩
        refine ⟨⟨d, List.mem_cons_self, _, .type htype hlong, ?_⟩,
          exists_ensureDefinitions_error hproblems (.inl htype)⟩
        rw [Finding.ofDefinitions, Finding.ofDefinition, hproblems, Finding.ofType, if_pos htype,
          Value.written_eq_error.2 ⟨hlong, rfl⟩]
        rfl
    | _ =>
      rw [hd] at hname
      exact absurd hname id

end DocumentStore
