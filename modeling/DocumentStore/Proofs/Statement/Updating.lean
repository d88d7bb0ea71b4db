import DocumentStore.Proofs.Statement.Bindings
import DocumentStore.Proofs.Statement.SetList
import Mathlib.Algebra.Group.Int.Defs

/-!
# What an UPDATE makes of a row

An UPDATE assigns sums of columns and parameters, and `Statement.updatedRow?` evaluates its text
over a row, with any values that can be added. What comes of it is told by the document alone: a
column has the last value that the document sets, coerced for the column, or else what it had, and
to that is added all that the document adds (`Assignment.newValue?`). Neither depends on how the
operators that set and those that add stand among each other.
-/

set_option autoImplicit false

namespace DocumentStore

open Sql Fallible SetList
open Text (Point)

/-! ## Documents that updates take -/

/-- The key of an operator with a mapping of columns to operands. -/
def IsOperator (e : Value × Value) : Prop :=
  (∃ o, UpdateOperator.ofKey e.1 = .ok o) ∧ ∃ fs, e.2 = .map fs ∧ ∀ k ∈ Entries.keys fs, k.IsText

/-- A document of operators. -/
def IsUpdate (update : Value) : Prop := ∃ es, update = .map es ∧ ∀ e ∈ es, IsOperator e

/-- The names that an update document has operands for, in its order. -/
def mentioned : Value → List (List Point)
  | .map es => es.flatMap fun e =>
    match e.2 with
    | .map fs => Entries.keyPoints fs
    | _ => []
  | _ => []

/-- Whether updates pass over a name: that of the identifier, or of a resolved reference. -/
def isPassedOver (name : List Point) : Bool :=
  name = Text.points idField || (Text.points "_ref").isPrefixOf name

/-- A text is a key of references when it begins like one. -/
theorem isReferenceKey_of_isText {column : Value} (h : column.IsText) :
    isReferenceKey column = .ok ((Text.points "_ref").isPrefixOf column.points) := by
  cases column with
  | text t =>
    have hchar : Function.Injective Point.char := fun c d hcd => Point.char.inj hcd
    have hprefix : "_ref".toList.isPrefixOf t.toList =
        (Text.points "_ref").isPrefixOf (Text.points t) := by
      rw [Bool.eq_iff_iff, List.isPrefixOf_iff_prefix, List.isPrefixOf_iff_prefix]
      exact (List.prefix_map_iff_of_injective hchar).symm
    exact congrArg Except.ok hprefix
  | torn t => rfl
  | _ => exact absurd h id

theorem isWritten_eq {column : Value} (h : column.IsText) :
    isWritten column = !isPassedOver column.points := by
  have hid : column.same (.text idField) = decide (column.points = Text.points idField) := by
    rw [Bool.eq_iff_iff, decide_eq_true_iff]
    exact Value.same_iff_points_eq (b := .text idField) h trivial
  rw [isWritten, isReferenceKey_of_isText h]
  dsimp only
  rw [hid, isPassedOver, Bool.or_comm]

theorem addOperands_isOk {o : UpdateOperator} {es : Entries} {as : Assignments} :
    (∃ as', Assignments.addOperands o es as = .ok as') ↔ ∀ k ∈ Entries.keys es, k.IsText := by
  induction es generalizing as with
  | nil => exact ⟨fun _ k hk => absurd hk List.not_mem_nil, fun _ => ⟨as, rfl⟩⟩
  | cons e es ih =>
    rw [Entries.keys, List.map_cons, List.forall_mem_cons]
    constructor
    · rintro ⟨as', h⟩
      obtain ⟨isReference, hreference, hrest⟩ := bind_eq_ok.1 h
      exact ⟨isText_of_isReferenceKey hreference, ih.1 ⟨as', hrest⟩⟩
    · rintro ⟨htext, htexts⟩
      obtain ⟨as', hrest⟩ := ih.2 htexts
      exact ⟨as', bind_eq_ok.2 ⟨_, isReferenceKey_of_isText htext, hrest⟩⟩

theorem addOperators_isOk {es : Entries} {as : Assignments} :
    (∃ as', Assignments.addOperators es as = .ok as') ↔ ∀ e ∈ es, IsOperator e := by
  induction es generalizing as with
  | nil => exact ⟨fun _ e he => absurd he List.not_mem_nil, fun _ => ⟨as, rfl⟩⟩
  | cons e es ih =>
    obtain ⟨key, operands⟩ := e
    rw [List.forall_mem_cons]
    constructor
    · rintro ⟨as', h⟩
      obtain ⟨o, ho, h⟩ := bind_eq_ok.1 h
      cases operands with
      | map fs =>
        obtain ⟨next, hnext, hrest⟩ := bind_eq_ok.1 h
        exact ⟨⟨⟨o, ho⟩, fs, rfl, addOperands_isOk.1 ⟨next, hnext⟩⟩, ih.1 ⟨as', hrest⟩⟩
      | _ => cases h
    · rintro ⟨⟨⟨o, ho⟩, fs, hfs, htexts⟩, hes⟩
      obtain rfl : operands = .map fs := hfs
      obtain ⟨next, hnext⟩ := addOperands_isOk.2 htexts
      obtain ⟨as', hrest⟩ := ih.2 hes
      exact ⟨as', bind_eq_ok.2 ⟨o, ho, bind_eq_ok.2 ⟨next, hnext, hrest⟩⟩⟩

/-- The assignments of an update document are there when it is one, and are what its changes come
to. -/
theorem Assignments.ofUpdate_eq_ok {update : Value} {as : Assignments} :
    Assignments.ofUpdate update = .ok as ↔
      IsUpdate update ∧ as = gathered (Change.ofUpdate update) := by
  constructor
  · intro h
    refine ⟨?_, Assignments.ofUpdate_eq_gathered h⟩
    cases update with
    | map es => exact ⟨es, rfl, addOperators_isOk.1 ⟨as, h⟩⟩
    | _ => cases h
  · rintro ⟨⟨es, rfl, hes⟩, rfl⟩
    obtain ⟨as, has⟩ := addOperators_isOk.2 hes
    have hupdate : Assignments.ofUpdate (.map es) = .ok as := has
    rwa [Assignments.ofUpdate_eq_gathered hupdate] at hupdate

/-- An update document changes the columns that it mentions and does not pass over. -/
theorem targets_ofUpdate {update : Value} (h : IsUpdate update) :
    Change.targets (Change.ofUpdate update) =
      ((mentioned update).filter fun name => !isPassedOver name).eraseDups := by
  obtain ⟨es, rfl, hes⟩ := h
  rw [Change.targets]
  congr 1
  induction es with
  | nil => rfl
  | cons e es ih =>
    obtain ⟨⟨⟨o, ho⟩, fs, hfs, htexts⟩, hes⟩ := List.forall_mem_cons.1 hes
    have hoperator : (Change.ofOperator e.1 e.2).map (fun c => c.column.points) =
        (Entries.keyPoints fs).filter fun name => !isPassedOver name := by
      have hwritten : ∀ f ∈ fs, isWritten f.1 = !isPassedOver f.1.points := fun f hf =>
        isWritten_eq (htexts f.1 (List.mem_map_of_mem hf))
      simp only [Change.ofOperator, ho, hfs]
      rw [Change.ofOperands, List.map_map, List.filter_congr hwritten, Entries.keyPoints,
        Entries.keys, List.map_map, List.filter_map]
      rfl
    have hmentioned : mentioned (.map (e :: es)) = Entries.keyPoints fs ++ mentioned (.map es) := by
      simp only [mentioned, List.flatMap_cons, hfs]
    rw [hmentioned, List.filter_append, ← hoperator, ← ih hes, Change.ofUpdate, List.flatMap_cons,
      List.map_append]
    rfl

/-! ## Values of terms -/

/-- The parameter of a number, counted from one. -/
def parameter? (params : List Value) (number : Int) : Option Value :=
  if 1 ≤ number then params[(number - 1).toNat]? else none

/-- The parameter behind some others has the next number. -/
theorem parameter?_append {before : List Value} {i : Int} (hi : i = before.length + 1) (v : Value)
    (behind : List Value) : parameter? (before ++ v :: behind) i = some v := by
  have hpositive : 1 ≤ i := by omega
  have hindex : (i - 1).toNat = before.length := by omega
  rw [parameter?, if_pos hpositive, hindex, List.getElem?_append_right le_rfl, Nat.sub_self]
  rfl

section Evaluation

variable {V : Type} (bound : ColumnKind → Value → V)

/-- The value of a term. -/
def SetList.Term.value? (params : List Value) (row : List Point → V) : Term → Option V
  | .column name => some (row name)
  | .parameter kind i => (parameter? params i).map (bound kind)

/-- Terms of values that are added have these values. -/
theorem mapM_value?_added (row : List Point → V) (vs : List Value) {before : List Value} {i : Int}
    (hi : i = before.length + 1) (behind : List Value) :
    (addedTerms vs.length i).mapM (Term.value? bound (before ++ vs ++ behind) row) =
      some (vs.map (bound .plain)) := by
  induction vs generalizing before i with
  | nil => rfl
  | cons v vs ih =>
    have hadded : addedTerms (v :: vs).length i =
        .parameter .plain i :: addedTerms vs.length (i + 1) := by
      rw [addedTerms, List.length_cons, upFrom_succ]
      rfl
    have hfirst : Term.value? bound (before ++ v :: (vs ++ behind)) row (.parameter .plain i) =
        some (bound .plain v) := by
      rw [Term.value?, parameter?_append hi]
      rfl
    -- the value before counts among the parameters that stand before the rest
    have hbehind : before ++ v :: (vs ++ behind) = before ++ [v] ++ vs ++ behind := by simp
    have hnext : i + 1 = (before ++ [v]).length + 1 := by
      rw [List.length_append, List.length_singleton]
      omega
    have hrest := ih hnext
    rw [hadded, List.mapM_cons, List.append_assoc, List.cons_append, hfirst, hbehind, hrest]
    rfl

variable [Add V]

/-- The sum of values, added from the left. -/
def sum? : List V → Option V
  | [] => none
  | v :: vs => some (vs.foldl (· + ·) v)

/-- The value that an item assigns. -/
def SetList.Item.value? (params : List Value) (row : List Point → V) (item : Item) : Option V :=
  (item.terms.mapM (Term.value? bound params row)).bind sum?

/-- A row behind an UPDATE: every column that is assigned has the value of its sum over the row
before, and every other keeps what it has. -/
def Statement.updatedRow? (st : Statement) (row : List Point → V) : Option (List Point → V) := do
  let ts ← Sql.read st.points
  let items ← SetList.read? ts
  let values ← items.mapM fun item =>
    (item.value? bound st.params row).map fun v => (item.target, v)
  return fun name => (values.lookup name).getD (row name)

/-- A value with the sum of others added to it. -/
def plusAll (base : V) : List V → V
  | [] => base
  | v :: vs => base + vs.foldl (· + ·) v

/-- The value that an assignment makes of a column: the one it sets, coerced for the column, or what
the row has when it sets none, and the sum of what it adds. -/
def Assignment.newValue? (s : FieldSchema) (row : List Point → V) (column : Value)
    (a : Assignment) :
    Option V :=
  let base :=
    match a.setValue with
    | some v => (setParameter s column v).toOption.map (bound (s.kindOf column))
    | none => some (row column.points)
  base.map fun base => plusAll base (a.deltas.map (bound .plain))

end Evaluation

/-! ## Values of assignments -/

/-- Values that are found for names are looked up under them. -/
theorem exists_values {V : Type} {f : List Point → Option V} {names : List (List Point)}
    (h : ∀ name ∈ names, (f name).isSome) :
    ∃ values, names.mapM (fun name => (f name).map fun v => (name, v)) = some values ∧
      ∀ name, values.lookup name = if name ∈ names then f name else none := by
  induction names with
  | nil => exact ⟨[], rfl, fun name => rfl⟩
  | cons first names ih =>
    obtain ⟨hfirst, hnames⟩ := List.forall_mem_cons.1 h
    obtain ⟨values, hvalues, hlookup⟩ := ih hnames
    obtain ⟨v, hv⟩ := Option.isSome_iff_exists.1 hfirst
    refine ⟨(first, v) :: values, ?_, fun name => ?_⟩
    · rw [List.mapM_cons, hv, hvalues]
      rfl
    · rw [List.lookup_cons, hlookup]
      by_cases hname : name = first
      · simp [hname, hv]
      · simp [beq_false_of_ne hname, hname]

section Assigning

variable {V : Type} [AddSemigroup V] (bound : ColumnKind → Value → V) {s : FieldSchema}

/-- A sum from the left is the sum of the rest added to its first value. -/
theorem value?_of_terms {params : List Value} {row : List Point → V}
    {target : List Point} {t : Term} {ts : List Term} {v : V} {vs : List V}
    (ht : t.value? bound params row = some v)
    (hts : ts.mapM (Term.value? bound params row) = some vs) :
    Item.value? bound params row ⟨target, t :: ts⟩ = some (plusAll v vs) := by
  have hterms : (t :: ts).mapM (Term.value? bound params row) = some (v :: vs) := by
    rw [List.mapM_cons, ht, hts]
    rfl
  rw [Item.value?, hterms, Option.bind_some]
  cases vs with
  | nil => rfl
  | cons w vs =>
    have hassoc : Std.Associative (fun a b : V => a + b) := ⟨add_assoc⟩
    exact congrArg some List.foldl_assoc

/-- How the columns of a schema are read. -/
def readName (v : Value) : List Point := nameOfPiece (pieceOf v)

/-- The sum of an assignment comes to its value, when its parameters stand behind others. -/
theorem value?_item {column : Value} (hname : IsName column) {a : Assignment} {ps : List Value}
    (hps : a.parameters s column = .ok ps) (row : List Point → V) (before : List Value) {i : Int}
    (hi : i = before.length + 1) (behind : List Value) :
    ((a.form column).item readName s.naming i).value? bound (before ++ ps ++ behind) row =
        a.newValue? bound s row column ∧ (a.newValue? bound s row column).isSome := by
  obtain ⟨setValue, deltas⟩ := a
  cases setValue with
  | none =>
    obtain rfl : deltas = ps := Except.ok.inj hps
    have hvalue : Term.value? bound (before ++ deltas ++ behind) row (.column (readName column)) =
        some (row column.points) :=
      congrArg (fun n => some (row n)) (nameOfPiece_pieceOf hname.isText)
    exact ⟨value?_of_terms bound hvalue (mapM_value?_added bound row deltas hi behind), rfl⟩
  | some v =>
    obtain ⟨param, hparam, rfl⟩ := map_eq_ok.1 hps
    have hvalue : Term.value? bound (before ++ param :: deltas ++ behind) row
        (.parameter (s.kindOf column) i) = some (bound (s.kindOf column) param) := by
      rw [Term.value?, List.append_assoc, List.cons_append, parameter?_append hi]
      rfl
    have hnext : i + 1 = (before ++ [param]).length + 1 := by
      rw [List.length_append, List.length_singleton]
      omega
    have hadded := mapM_value?_added bound row deltas hnext behind
    have hbehind : before ++ [param] ++ deltas ++ behind = before ++ param :: deltas ++ behind := by
      simp
    have hnew : Assignment.newValue? bound s row column ⟨some v, deltas⟩ =
        some (plusAll (bound (s.kindOf column) param) (deltas.map (bound .plain))) := by
      simp only [Assignment.newValue?, hparam]
      rfl
    rw [hbehind] at hadded
    rw [hnew]
    exact ⟨value?_of_terms bound hvalue hadded, rfl⟩

/-- The items of assignments come to their values, each under the name of its column. -/
theorem mapM_value?_items {as : Assignments} (hnames : ∀ e ∈ as, IsName e.1) {ps : List Value}
    (hps : as.parameters s = .ok ps) (row : List Point → V) (before : List Value) {i : Int}
    (hi : i = before.length + 1) (behind : List Value) :
    (itemsFrom readName s.naming as.forms i).mapM (fun item =>
        (item.value? bound (before ++ ps ++ behind) row).map fun v => (item.target, v)) =
      as.mapM fun e => (e.2.newValue? bound s row e.1).map fun v => (e.1.points, v) := by
  induction as generalizing ps before i with
  | nil => rfl
  | cons e as ih =>
    obtain ⟨hname, hnames⟩ := List.forall_mem_cons.1 hnames
    obtain ⟨head, tail, hhead, htail, rfl⟩ := Assignments.parameters_cons_eq_ok.1 hps
    have hitem := (value?_item bound hname hhead row before hi (tail ++ behind)).1
    have hnext : i + (e.2.form e.1).arity = (before ++ head).length + 1 := by
      rw [List.length_append, Assignment.length_parameters hhead]
      omega
    have hrest := ih hnames htail (before ++ head) hnext
    have htarget : readName e.1 = e.1.points := nameOfPiece_pieceOf hname.isText
    have hbehind : before ++ (head ++ tail) ++ behind = before ++ head ++ (tail ++ behind) := by
      simp
    have hbehind' : before ++ (head ++ tail) ++ behind = before ++ head ++ tail ++ behind := by simp
    show List.mapM _ ((e.2.form e.1).item readName s.naming i :: itemsFrom readName s.naming
      (Assignments.forms as)
      (i + (e.2.form e.1).arity)) = _
    rw [List.mapM_cons, List.mapM_cons, hbehind, hitem, ← hbehind, hbehind', hrest]
    show (Option.map (fun v => (readName e.1, v)) _ >>= _) = _
    rw [htarget]

/-- Changes make nothing of a column that is not among their targets. -/
theorem newValue?_of_not_target (row : List Point → V) {cs : List Change} {name : List Point}
    (h : name ∉ Change.targets cs) :
    (assigned cs name).newValue? bound s row (.ofPoints name) = some (row name) := by
  have hnone : assigned cs name = ⟨none, []⟩ := by
    simp [assigned, Change.lastSet?, Change.increments, Change.filter_eq_nil h]
  have hpoints := Value.points_ofPoints name
  rw [hnone]
  exact congrArg (fun n => some (row n)) hpoints

/-- The assignments that changes come to give every column its value, and other columns keep what
they have. -/
theorem exists_newValues {cs : List Change} (hnames : ∀ e ∈ gathered cs, IsName e.1)
    {ps : List Value} (hps : (gathered cs).parameters s = .ok ps) (row : List Point → V) :
    ∃ values, (gathered cs).mapM (fun e =>
        (e.2.newValue? bound s row e.1).map fun v => (e.1.points, v)) = some values ∧
      ∀ name, (assigned cs name).newValue? bound s row (.ofPoints name) =
        some ((values.lookup name).getD (row name)) := by
  let f : List Point → Option V :=
    fun name => (assigned cs name).newValue? bound s row (.ofPoints name)
  obtain ⟨pss, hpss, -⟩ := map_eq_ok.1 hps
  have hsome : ∀ name ∈ Change.targets cs, (f name).isSome := by
    intro name hname
    have hmem : (Value.ofPoints name, assigned cs name) ∈ gathered cs := List.mem_map_of_mem hname
    obtain ⟨qs, -, hqs⟩ := exists_of_mapM hpss hmem
    exact (value?_item bound (hnames _ hmem) hqs row [] rfl []).2
  obtain ⟨values, hvalues, hlookup⟩ := exists_values hsome
  refine ⟨values, ?_, fun name => ?_⟩
  · rw [gathered, List.mapM_map, ← hvalues]
    congr 1
    funext name
    exact congrArg (fun n => Option.map (fun v => (n, v)) (f name)) (Value.points_ofPoints name)
  · rw [hlookup]
    split
    · next hname =>
      obtain ⟨v, hv⟩ := Option.isSome_iff_exists.1 (hsome name hname)
      rw [hv]
      exact hv
    · next hname => exact newValue?_of_not_target bound row hname

/-- The text of an UPDATE evaluates to the values of its items. -/
theorem updatedRow?_eq {st : Statement} {ts : List Token} {items : List Item}
    {values : List (List Point × V)} {row : List Point → V} (hread : Sql.read st.points = some ts)
    (hitems : SetList.read? ts = some items)
    (hvalues : items.mapM (fun item =>
      (item.value? bound st.params row).map fun v => (item.target, v)) = some values) :
    st.updatedRow? bound row = some fun name => (values.lookup name).getD (row name) := by
  rw [Statement.updatedRow?, hread]
  show Option.bind (SetList.read? ts) _ = _
  rw [hitems]
  show Option.bind (items.mapM _) _ = _
  rw [hvalues]
  rfl

end Assigning

/-- Items have the columns of their assignments for targets. -/
theorem targets_itemsFrom (s : FieldSchema) (as : List (AssignmentForm Value)) (i : Int) :
    (itemsFrom readName s.naming as i).map Item.target = as.map fun a => readName a.column := by
  induction as generalizing i with
  | nil => rfl
  | cons a as ih =>
    rw [itemsFrom, List.map_cons, ih]
    rfl

theorem readName_ofPoints (name : List Point) : readName (.ofPoints name) = name := by
  rw [readName, nameOfPiece_pieceOf (Value.isText_ofPoints name), Value.points_ofPoints]

/-- The text of an UPDATE assigns the targets of its document in order, and evaluates to what its
changes make of every column. -/
theorem updatedRow?_of_compileUpdate {s : FieldSchema} {collection filter update : Value}
    {st : Statement} (h : compileUpdate s collection filter update = .ok st) :
    ∃ ts items, Sql.read st.points = some ts ∧ SetList.read? ts = some items ∧
      items.map Item.target = Change.targets (Change.ofUpdate update) ∧
      ∀ (V : Type) [AddSemigroup V] (bound : ColumnKind → Value → V) (row : List Point → V),
        ∃ updated, st.updatedRow? bound row = some updated ∧
          ∀ name, (assigned (Change.ofUpdate update) name).newValue? bound s row (.ofPoints name) =
            some (updated name) := by
  obtain ⟨as, params, cs, vs, has, hne, hnames, hparams, -, -, -, -, rfl⟩ := compileUpdate_eq_ok.1 h
  obtain rfl := Assignments.ofUpdate_eq_gathered has
  have hforms : (gathered (Change.ofUpdate update)).forms ≠ [] :=
    fun hnil => hne (List.map_eq_nil_iff.1 hnil)
  have hread := read_points (Form.spaced_sql s.tidy_naming (s.tidy_naming collection)
    (.update (gathered (Change.ofUpdate update)).forms (cs.map Condition.form)))
  have htokens (v : Value) : pieceTokens (s.naming.piece v) = [.name (readName v)] :=
    s.tokens_naming v
  have hitems := read?_update htokens collection hforms (cs.map Condition.form)
  refine ⟨_, _, hread, hitems, ?_, ?_⟩
  · rw [targets_itemsFrom, Assignments.forms, gathered, List.map_map, List.map_map]
    exact (List.map_congr_left fun name _ => readName_ofPoints name).trans (List.map_id _)
  · intro V _ bound row
    obtain ⟨values, hvalues, hnew⟩ := exists_newValues bound hnames hparams row
    -- the parameters of the filter stand behind those of the assignments
    rw [← mapM_value?_items bound hnames hparams row [] rfl vs] at hvalues
    exact ⟨_, updatedRow?_eq bound hread hitems hvalues, hnew⟩

/-! ## The order of operators -/

/-- Whether an entry of an update document has a key of an operator. -/
def hasOperator (o : UpdateOperator) (e : Value × Value) : Bool :=
  (UpdateOperator.ofKey e.1).toOption = some o

/-- The operator of a change is that of its key. -/
theorem ofKey_of_mem_ofOperator {key operands : Value} {c : Change}
    (h : c ∈ Change.ofOperator key operands) : UpdateOperator.ofKey key = .ok c.operator := by
  unfold Change.ofOperator at h
  split at h
  · next o fs ho =>
    obtain ⟨f, -, rfl⟩ := List.mem_map.1 h
    exact ho
  · exact absurd h List.not_mem_nil

/-- The changes of an operator are those of its keys. -/
theorem filter_ofUpdate (o : UpdateOperator) (name : List Point) (es : Entries) :
    (Change.ofUpdate (.map es)).filter (Change.isOf o name) =
      (Change.ofUpdate (.map (es.filter (hasOperator o)))).filter (Change.isOf o name) := by
  have hcons (e : Value × Value) (es : Entries) : Change.ofUpdate (.map (e :: es)) =
      Change.ofOperator e.1 e.2 ++ Change.ofUpdate (.map es) := List.flatMap_cons
  induction es with
  | nil => rfl
  | cons e es ih =>
    cases hkey : hasOperator o e with
    | true =>
      rw [List.filter_cons, if_pos hkey, hcons, hcons, List.filter_append, List.filter_append, ih]
    | false =>
      have hnone : (Change.ofOperator e.1 e.2).filter (Change.isOf o name) = [] := by
        rw [List.filter_eq_nil_iff]
        intro c hc hof
        have hoperator : c.operator = o := (of_decide_eq_true hof).1
        have hfound := ofKey_of_mem_ofOperator hc
        rw [hoperator] at hfound
        rw [hasOperator, hfound] at hkey
        exact absurd hkey (by simp [Except.toOption])
      rw [List.filter_cons, hkey, if_neg Bool.false_ne_true, hcons, List.filter_append, hnone, ih]
      rfl

/-- Changes that come in another order, but those of one operator in the same, make the same
assignments. -/
theorem assigned_reordered {es es' : Entries}
    (h : ∀ o, es'.filter (hasOperator o) = es.filter (hasOperator o)) (name : List Point) :
    assigned (Change.ofUpdate (.map es')) name = assigned (Change.ofUpdate (.map es)) name := by
  have hfilter (o : UpdateOperator) : (Change.ofUpdate (.map es')).filter (Change.isOf o name) =
      (Change.ofUpdate (.map es)).filter (Change.isOf o name) := by
    rw [filter_ofUpdate, h, ← filter_ofUpdate]
  simp only [assigned, Change.lastSet?, Change.increments, hfilter]

/-- A document whose operators come in another order assigns to the same columns the same. -/
theorem mem_gathered_reordered {es es' : Entries} (hperm : es'.Perm es)
    (h : ∀ o, es'.filter (hasOperator o) = es.filter (hasOperator o)) (e : Value × Assignment) :
    e ∈ gathered (Change.ofUpdate (.map es')) ↔ e ∈ gathered (Change.ofUpdate (.map es)) := by
  have htargets (name : List Point) : name ∈ Change.targets (Change.ofUpdate (.map es')) ↔
      name ∈ Change.targets (Change.ofUpdate (.map es)) := by
    have hchanges := (hperm.flatMap_right fun e => Change.ofOperator e.1 e.2).map
      fun c => c.column.points
    rw [Change.targets, Change.targets, List.mem_eraseDups, List.mem_eraseDups]
    exact hchanges.mem_iff
  simp only [gathered, List.mem_map, htargets, assigned_reordered h]

/-- A document whose operators come in another order is compiled when the document is. -/
theorem compileUpdate_reordered {s : FieldSchema} {collection filter : Value} {es es' : Entries}
    {st : Statement} (hcompiled : compileUpdate s collection filter (.map es) = .ok st)
    (hperm : es'.Perm es) (h : ∀ o, es'.filter (hasOperator o) = es.filter (hasOperator o)) :
    ∃ st', compileUpdate s collection filter (.map es') = .ok st' := by
  obtain ⟨as, params, cs, vs, has, hne, hnames, hparams, hcs, hequalities, hvs, hcollection, -⟩ :=
    compileUpdate_eq_ok.1 hcompiled
  obtain ⟨⟨es₀, hes₀, hes⟩, rfl⟩ := Assignments.ofUpdate_eq_ok.1 has
  cases hes₀
  have hmem := mem_gathered_reordered hperm h
  have hupdate : IsUpdate (.map es') := ⟨es', rfl, fun e he => hes e (hperm.mem_iff.1 he)⟩
  obtain ⟨pss, hpss, -⟩ := map_eq_ok.1 hparams
  obtain ⟨pss', hpss'⟩ := exists_mapM fun e he =>
    (exists_of_mapM hpss ((hmem e).1 he)).imp fun _ hps => hps.2
  refine ⟨_, compileUpdate_eq_ok.2 ⟨_, pss'.flatten, cs, vs,
    Assignments.ofUpdate_eq_ok.2 ⟨hupdate, rfl⟩, fun hnil => ?_,
    fun e he => hnames e ((hmem e).1 he), map_eq_ok.2 ⟨pss', hpss', rfl⟩, hcs, hequalities, hvs,
    hcollection, rfl⟩⟩
  obtain ⟨e, he⟩ := List.exists_mem_of_ne_nil _ hne
  exact List.not_mem_nil (hnil ▸ (hmem e).2 he)

/-- A document whose operators come in another order does the same to every row. -/
theorem updatedRow?_reordered {s : FieldSchema} {collection filter : Value} {es es' : Entries}
    {st st' : Statement} (hcompiled : compileUpdate s collection filter (.map es) = .ok st)
    (hcompiled' : compileUpdate s collection filter (.map es') = .ok st')
    (h : ∀ o, es'.filter (hasOperator o) = es.filter (hasOperator o)) (V : Type) [AddSemigroup V]
    (bound : ColumnKind → Value → V) (row : List Point → V) :
    st'.updatedRow? bound row = st.updatedRow? bound row := by
  obtain ⟨-, -, -, -, -, hvalues⟩ := updatedRow?_of_compileUpdate hcompiled
  obtain ⟨-, -, -, -, -, hvalues'⟩ := updatedRow?_of_compileUpdate hcompiled'
  obtain ⟨updated, hupdated, hnew⟩ := hvalues V bound row
  obtain ⟨updated', hupdated', hnew'⟩ := hvalues' V bound row
  rw [hupdated, hupdated']
  congr 1
  funext name
  have hname := hnew' name
  rw [assigned_reordered h, hnew name] at hname
  exact (Option.some.inj hname).symm

/-! ## Updates -/

/-- A document that mentions nothing but what updates pass over is refused. -/
theorem compileUpdate_of_passedOver (s : FieldSchema) (collection filter : Value) {update : Value}
    (hupdate : IsUpdate update) (hnone : ∀ name ∈ mentioned update, isPassedOver name = true) :
    compileUpdate s collection filter update = .error (.invalidQuery .nothingToUpdate) := by
  have hempty : gathered (Change.ofUpdate update) = [] := by
    rw [gathered, targets_ofUpdate hupdate, List.filter_eq_nil_iff.2 fun name hname => ?_]
    · rfl
    · rw [hnone name hname]
      decide
  have has := Assignments.ofUpdate_eq_ok.2 ⟨hupdate, rfl⟩
  rw [hempty] at has
  rw [compileUpdate, has]
  rfl

/-- An update that compiles assigns every column that its document mentions, but neither the
identifier nor references, once and in order of first appearance. Evaluated over a row, with values
that are added associatively, every column has the last value set, coerced, or what it had, and the
sum of what is added. Where the operators that set and those that add stand among each other does
not matter for that. A document that assigns nothing is refused. -/
theorem meaning_of_compileUpdate (s : FieldSchema) (collection filter : Value) :
    (∀ (update : Value) (st : Statement), compileUpdate s collection filter update = .ok st →
      ∃ ts items, Sql.read st.points = some ts ∧ SetList.read? ts = some items ∧
        items.map Item.target =
          ((mentioned update).filter fun name => !isPassedOver name).eraseDups ∧
        (items.map Item.target).Nodup ∧ (∀ item ∈ items, isPassedOver item.target = false) ∧
        ∀ (V : Type) [AddSemigroup V] (bound : ColumnKind → Value → V) (row : List Point → V),
          ∃ updated, st.updatedRow? bound row = some updated ∧
            ∀ name,
              (assigned (Change.ofUpdate update) name).newValue? bound s row (.ofPoints name) =
                some (updated name)) ∧
    (∀ (es es' : Entries) (st : Statement), compileUpdate s collection filter (.map es) = .ok st →
      es'.Perm es → (∀ o, es'.filter (hasOperator o) = es.filter (hasOperator o)) →
      ∃ st', compileUpdate s collection filter (.map es') = .ok st' ∧
        ∀ (V : Type) [AddSemigroup V] (bound : ColumnKind → Value → V) (row : List Point → V),
          st'.updatedRow? bound row = st.updatedRow? bound row) ∧
    ∀ update, IsUpdate update → (∀ name ∈ mentioned update, isPassedOver name = true) →
      compileUpdate s collection filter update = .error (.invalidQuery .nothingToUpdate) := by
  refine ⟨?_, ?_, fun update => compileUpdate_of_passedOver s collection filter⟩
  · intro update st h
    obtain ⟨ts, items, hread, hitems, htargets, hvalues⟩ := updatedRow?_of_compileUpdate h
    obtain ⟨as, -, -, -, has, -⟩ := compileUpdate_eq_ok.1 h
    rw [targets_ofUpdate (Assignments.ofUpdate_eq_ok.1 has).1] at htargets
    refine ⟨ts, items, hread, hitems, htargets, htargets ▸ nodup_eraseDups _, fun item hitem => ?_,
      hvalues⟩
    have hmem : item.target ∈ items.map Item.target := List.mem_map_of_mem hitem
    rw [htargets, List.mem_eraseDups, List.mem_filter, Bool.not_eq_true'] at hmem
    exact hmem.2
  · intro es es' st h hperm horder
    obtain ⟨st', h'⟩ := compileUpdate_reordered h hperm horder
    exact ⟨st', h', updatedRow?_reordered h h' horder⟩

/-- Integers as they are bound, and one for whatever is none. -/
def boundInt (_ : ColumnKind) : Value → Int
  | .int i => i
  | _ => 1

/-- Operators that add to a column before and behind a set of it. -/
def addingFirst : Entries :=
  [(.text "$inc", .map [(.text "n", .int 2), (.text "_ref1", .int 9)]),
    (.text "set", .map [(.text "m", .text "a"), (.text "n", .int 7), (.text "_id", .int 9)]),
    (.text "inc", .map [(.text "n", .int 3), (.text "k", .int 4)])]

/-- The same operators, the set first. -/
def settingFirst : Entries :=
  [(.text "set", .map [(.text "m", .text "a"), (.text "n", .int 7), (.text "_id", .int 9)]),
    (.text "$inc", .map [(.text "n", .int 2), (.text "_ref1", .int 9)]),
    (.text "inc", .map [(.text "n", .int 3), (.text "k", .int 4)])]

theorem meaning_of_addingFirst :
    ∃ st ts items updated, compileUpdate .empty (.text "t") (.map []) (.map addingFirst) = .ok st ∧
      Sql.read st.points = some ts ∧ SetList.read? ts = some items ∧
      items.map Item.target = [Text.points "n", Text.points "m", Text.points "k"] ∧
      st.updatedRow? boundInt (fun _ => 10) = some updated ∧
      ["n", "m", "k", "_id", "_ref1"].map (fun name => updated (Text.points name)) =
        [12, 1, 14, 10, 10] ∧
      (∃ st', compileUpdate .empty (.text "t") (.map []) (.map settingFirst) = .ok st' ∧
        st'.updatedRow? boundInt (fun _ => 10) = some updated) ∧
      compileUpdate .empty (.text "t") (.map [])
          (.map [(.text "set", .map [(.text "_id", .int 1)]),
            (.text "$inc", .map [(.text "_refx", .int 1)])]) =
        .error (.invalidQuery .nothingToUpdate) := by
  obtain ⟨hmeaning, horder, hnothing⟩ := meaning_of_compileUpdate .empty (.text "t") (.map [])
  have hcompiled : (compileUpdate .empty (.text "t") (.map []) (.map addingFirst)).toOption.any
      (fun _ => true) = true := by decide +kernel
  obtain ⟨st, hst, -⟩ := exists_of_check hcompiled
  obtain ⟨ts, items, hread, hitems, htargets, -, -, hvalues⟩ := hmeaning _ st hst
  obtain ⟨updated, hupdated, hnew⟩ := hvalues Int boundInt fun _ => 10
  obtain ⟨st', hst', hsame⟩ := horder addingFirst settingFirst st hst (.swap _ _ _)
    (fun o => by cases o <;> rfl)
  refine ⟨st, ts, items, updated, hst, hread, hitems, ?_, hupdated, ?_, ?_, ?_⟩
  · rw [htargets]
    decide +kernel
  · have hcolumns : ["n", "m", "k", "_id", "_ref1"].map (fun name =>
        (assigned (Change.ofUpdate (.map addingFirst)) (Text.points name)).newValue? boundInt .empty
          (fun _ => 10) (.ofPoints (Text.points name))) =
        [some 12, some 1, some 14, some 10, some 10] := by
      decide +kernel
    simp only [hnew, List.map_cons, List.map_nil, List.cons.injEq, Option.some.injEq,
      and_true] at hcolumns
    simpa using hcolumns
  · exact ⟨st', hst', (hsame Int boundInt _).trans hupdated⟩
  · refine hnothing _ ⟨_, rfl, ?_⟩ (by decide +kernel)
    intro e he
    rcases List.mem_cons.1 he with rfl | he
    · exact ⟨⟨.set, rfl⟩, _, rfl, fun k hk => by simp_all [Entries.keys, Value.IsText]⟩
    · rw [List.mem_singleton.1 he]
      exact ⟨⟨.inc, rfl⟩, _, rfl, fun k hk => by simp_all [Entries.keys, Value.IsText]⟩

end DocumentStore
