import DocumentStore.Command.Run
import DocumentStore.Proofs.Statement.Failures
import DocumentStore.Session.Rehearsal

/-!
# Compiling on the command line

A run of `compile` on JSON texts touches nothing, and it ends in one of four ways
(`compile_answers_or_escapes`). It prints the statement and its parameters, which can always be
written, or reports a refusal (`Answered`); a text with an integer too long to be read is taken for
no JSON (`TooLong`); or a fault escapes that nothing reports (`Escaped`): the query counts as true
and is no mapping, an operand of a timestamp column is beyond the moments, or a name cannot be
encoded.
-/

set_option autoImplicit false

namespace DocumentStore

namespace Command

open Text.Numeral (maxDigits)

/-! ## JSON arguments -/

/-- A JSON text. Its integers may be longer than those that are read. -/
def IsJsonText (text : String) : Prop :=
  ∃ digits, maxDigits ≤ digits ∧ ∃ v, Json.readWithin? digits text.toList = some v

/-- A JSON text that is not read because of an integer that is too long. -/
def TooLong (text : String) : Prop :=
  Json.read? text.toList = none ∧ ∃ digits, maxDigits < digits ∧
    ∃ v, Json.readWithin? digits text.toList = some v

/-- What a JSON option is read as. One that is empty counts as absent. -/
inductive Loads : Option String → Value → Prop
  | absent : Loads none .null
  | empty : Loads (some "") .null
  | given (text : String) (v : Value) (h : Json.read? text.toList = some v) : Loads (some text) v

/-- The misuse of an argument that is taken for no JSON. -/
def notJson (what : String) : Ending := .misuse (some (what ++ " is not valid JSON"))

/-- A JSON text is read, or it is too long to be. -/
theorem loadJson_cases (what : String) {text : String} (h : IsJsonText text) :
    (∃ v, loadJson what text = .ok v ∧ Json.read? text.toList = some v) ∨
      TooLong text ∧ loadJson what text = .error (notJson what) := by
  rw [loadJson]
  cases hread : Json.read? text.toList with
  | some v => exact .inl ⟨v, rfl, rfl⟩
  | none =>
    obtain ⟨digits, hdigits, v, hv⟩ := h
    have hne : maxDigits ≠ digits := by
      rintro rfl
      cases hread.symm.trans hv
    exact .inr ⟨⟨hread, digits, Nat.lt_of_le_of_ne hdigits hne, v, hv⟩, rfl⟩

theorem loadOption_cases (what : String) {given : Option String}
    (h : ∀ text, given = some text → text = "" ∨ IsJsonText text) :
    (∃ v, loadOption what given = .ok v ∧ Loads given v) ∨
      ∃ text, given = some text ∧ TooLong text ∧ loadOption what given = .error (notJson what) := by
  cases given with
  | none => exact .inl ⟨.null, rfl, .absent⟩
  | some text =>
    by_cases hempty : text = ""
    · subst hempty
      exact .inl ⟨.null, rfl, .empty⟩
    · have hload : loadOption what (some text) = loadJson what text := if_neg hempty
      rw [hload]
      rcases loadJson_cases what ((h text rfl).resolve_left hempty) with
        ⟨v, hv, hread⟩ | ⟨hlong, hmisuse⟩
      · exact .inl ⟨v, hv, .given text v hread⟩
      · exact .inr ⟨text, rfl, hlong, hmisuse⟩

/-- The options of a query. -/
def optionsOf (sort fields : Value) (limit skip : Option Int) : Entries :=
  [(.text "sort", sort), (.text "fields", fields), (.text "limit", ofInteger limit),
    (.text "skip", ofInteger skip)]

theorem getD_limit_optionsOf (sort fields : Value) (limit skip : Option Int) :
    Entries.getD (optionsOf sort fields limit skip) "limit" .null = ofInteger limit := by
  simp [optionsOf, Entries.getD_cons, Value.same_text]

theorem getD_skip_optionsOf (sort fields : Value) (limit skip : Option Int) :
    Entries.getD (optionsOf sort fields limit skip) "skip" .null = ofInteger skip := by
  simp [optionsOf, Entries.getD_cons, Value.same_text]

/-- Options whose counts are integers are read or refused. -/
theorem isRefusal_of_optionsOf {sort fields : Value} {limit skip : Option Int} {f : Fault}
    (h : QueryOptions.of (.value (.map (optionsOf sort fields limit skip))) = .error f) :
    f.isRefusal = true := by
  have hinteger (n : Option Int) (s : String) : ofInteger n ≠ .text s := by
    cases n with
    | none => exact nofun
    | some n => exact nofun
  have hcount : ∀ name ∈ QueryOptions.countNames, ∀ s,
      Entries.getD (optionsOf sort fields limit skip) name .null ≠ .text s := by
    simp [QueryOptions.countNames, optionsOf, Entries.getD, Entries.getText?, Entries.get?,
      Value.same_text, hinteger]
  rcases QueryOptions.ofEntries_error_cases h with ⟨problem, rfl⟩ | ⟨name, hname, s, _, hs, -⟩
  · rfl
  · exact absurd hs (hcount name hname s)

theorem writable_of_integerOption? {given : Option String} {n : Option Int}
    (h : integerOption? given = some n) : (ofInteger n).writable = true := by
  unfold integerOption? at h
  split at h
  · cases h
    rfl
  · split at h
    · next hread =>
      cases h
      exact Text.Numeral.isShort_of_readInt hread
    · cases h

/-- The counts of a command can be written, for they are read from its arguments. -/
theorem writable_of_task {rest : List String} {collection query : String}
    {sort fields : Option String} {limit skip : Option Int}
    (h : Task.read? .compile rest = some (.compile collection query sort fields limit skip)) :
    (ofInteger limit).writable = true ∧ (ofInteger skip).writable = true := by
  obtain ⟨⟨given, places⟩, -, h⟩ := Option.bind_eq_some_iff.1 h
  dsimp only at h
  split at h
  · cases h
  obtain ⟨_, -, h⟩ := Option.bind_eq_some_iff.1 h
  obtain ⟨_, hlimit, h⟩ := Option.bind_eq_some_iff.1 h
  obtain ⟨_, hskip, h⟩ := Option.map_eq_some_iff.1 h
  cases h
  exact ⟨writable_of_integerOption? hlimit, writable_of_integerOption? hskip⟩

/-! ## How a run ends -/

/-- A run that prints the statement of a query and its parameters, or reports why there is none. -/
inductive Answered (collection : String) (filter : Value) (options : Entries) : Outcome → Prop
  | printed (st : Statement)
    (hst : compileFind .empty (.text collection) filter (.value (.map options)) = .ok st)
      (params : String) (hparams : Json.text (.list st.params) = .ok params) :
      Answered collection filter options (.print (st.text ++ "\n" ++ params ++ "\n"))
  | refused (f : Fault)
    (hst : compileFind .empty (.text collection) filter (.value (.map options)) = .error f)
      (hrefusal : f.isRefusal = true) : Answered collection filter options (.report f.message)

/-- A run that a fault escapes from: one of the filter, or a name that cannot be printed. -/
inductive Escaped (collection : String) (filter : Value) (options : Entries) : Outcome → Prop
  | fault (f : Fault)
    (hst : compileFind .empty (.text collection) filter (.value (.map options)) = .error f)
      (hfault : FindFault filter f) : Escaped collection filter options (.silent (.fault f))
  | torn (st : Statement)
    (hst : compileFind .empty (.text collection) filter (.value (.map options)) = .ok st)
      (t : Text.Torn) (htorn : st.sql.firstTorn? = some t) :
      Escaped collection filter options (.silent (.fault (.unencodable t)))

section

variable {collection query : String} {sort fields : Option String} {limit skip : Option Int}
  {filter sortValue fieldsValue : Value}

/-- The statement of a query that is read is what its filter and its options compile to. -/
theorem statementOf_eq (hquery : Json.read? query.toList = some filter)
    (hsort : loadOption "--sort" sort = .ok sortValue)
    (hfields : loadOption "--fields" fields = .ok fieldsValue) :
    statementOf collection query sort fields limit skip =
      (compileFind .empty (.text collection) filter
        (.value (.map (optionsOf sortValue fieldsValue limit skip)))).mapError ofCompileFault := by
  have hload : loadJson "query" query = .ok filter := by
    rw [loadJson, hquery]
  rw [statementOf, hsort, hfields, hload, optionsOf]
  dsimp only [bind, Except.bind]
  split
  · next hst => rw [hst, Except.mapError]
  · next hst => rw [hst, Except.mapError]

/-- A fault of a query that is read ends the run. -/
theorem runCompile_of_error {f : Fault} (hquery : Json.read? query.toList = some filter)
    (hsort : loadOption "--sort" sort = .ok sortValue)
    (hfields : loadOption "--fields" fields = .ok fieldsValue)
    (hst : compileFind .empty (.text collection) filter
      (.value (.map (optionsOf sortValue fieldsValue limit skip))) = .error f) :
    runCompile collection query sort fields limit skip = .silent (ofCompileFault f) := by
  rw [runCompile, statementOf_eq hquery hsort hfields, hst, Except.mapError]

/-- A query that is read is answered, or a fault escapes. -/
theorem answered_or_escaped (hlimit : (ofInteger limit).writable = true)
    (hskip : (ofInteger skip).writable = true) (hquery : Json.read? query.toList = some filter)
    (hsort : loadOption "--sort" sort = .ok sortValue)
    (hfields : loadOption "--fields" fields = .ok fieldsValue) :
    Answered collection filter (optionsOf sortValue fieldsValue limit skip)
        (runCompile collection query sort fields limit skip) ∨
      Escaped collection filter (optionsOf sortValue fieldsValue limit skip)
        (runCompile collection query sort fields limit skip) := by
  cases hst : compileFind .empty (.text collection) filter
      (.value (.map (optionsOf sortValue fieldsValue limit skip))) with
  | ok st =>
    have hwritable := writable_of_compileFind (Json.tree_of_read? hquery)
      (by rwa [getD_limit_optionsOf]) (by rwa [getD_skip_optionsOf]) hst
    obtain ⟨params, hparams⟩ := Json.Writable.list hwritable
    have htext : Json.text (.list st.params) = .ok (String.ofList params) := by
      rw [Json.text, hparams]
      rfl
    rw [runCompile, statementOf_eq hquery hsort hfields, hst, Except.mapError]
    dsimp only
    rw [printStatement, htext]
    cases htorn : st.sql.firstTorn? with
    | none => exact .inl (.printed st hst _ htext)
    | some t => exact .inr (.torn st hst t htorn)
  | error f =>
    rw [runCompile_of_error hquery hsort hfields hst, ofCompileFault]
    split
    · next hrefusal => exact .inl (.refused f hst hrefusal)
    · next hfault =>
      rcases compileFind_eq_error (Json.tree_of_read? hquery) hst with h | h | h
      · exact absurd (isRefusal_of_optionsOf h) hfault
      · exact absurd h hfault
      · exact .inr (.fault f hst h)

end

/-! ## Arguments -/

/-- The name of the command may stand first, and everything behind it belongs to the command. -/
theorem invocation_compile (args : List String) :
    Invocation.read? ("compile" :: args) = some (.command none .compile args) := by
  have hscan : scanOwn? ("compile" :: args) = some ([], "compile" :: args) := by
    rw [scanOwn?, scan?, if_neg (by decide), if_neg (by decide), if_neg Bool.false_ne_true]
  rw [Invocation.read?, hscan]
  rfl

/-- A collection and a query that do not look like options are the arguments of `compile`. -/
theorem task_compile {collection query : String} (hcollection : isOption collection = false)
    (hquery : isOption query = false) :
    Task.read? .compile [collection, query] =
      some (.compile collection query none none none none) := by
  have hplace (arg : String) (harg : isOption arg = false) (rest : List String) :
      scan? (known (valuedOptions .compile) ["--help"]) true (arg :: rest) =
        (scan? (known (valuedOptions .compile) ["--help"]) true rest).map fun r =>
          (r.1, arg :: r.2) := by
    have hhyphens : arg ≠ "--" := by
      rintro rfl
      cases harg
    rw [scan?, if_neg hhyphens, harg, if_neg Bool.false_ne_true, if_pos rfl]
  have hscan : scan? (known (valuedOptions .compile) ["--help"]) true [collection, query] =
      some ([], [collection, query]) := by
    rw [hplace collection hcollection, hplace query hquery]
    rfl
  rw [Task.read?, hscan]
  rfl

section

variable {σ : Type} {urls : UrlLibrary} {env : Variables} {driver : Driver σ} {files : Files}
  {args rest : List String} {w : World σ Empty Unit} {level : Option Level} {settings : Settings}
  {collection query : String}
  {sort fields : Option String} {limit skip : Option Int}

/-- A run of `compile` is what its arguments compile to, once the settings are read. -/
theorem run_compile (hinvocation : Invocation.read? args = some (.command level .compile rest))
    (hsettings : Settings.read env [] = .ok settings)
    (htask : Task.read? .compile rest = some (.compile collection query sort fields limit skip)) :
    run urls env driver files args w = (runCompile collection query sort fields limit skip, w) := by
  rw [run, hinvocation]
  dsimp only
  rw [hsettings]
  dsimp only
  rw [htask]
  rfl

end

/-- The JSON arguments of `compile` and what they are called. -/
def jsonArguments (query : String) (sort fields : Option String) : List (String × String) :=
  (sort.toList.map fun text => ("--sort", text)) ++
    (fields.toList.map fun text => ("--fields", text)) ++
    [("query", query)]

end Command

open Command in
/-- A run of `compile` on JSON texts, of any shape and for any collection, limit and skip, leaves
the world as it is. Either one of the texts holds an integer that is too long, and it is taken for
no JSON. Or the query is answered: with its statement and the parameters, or with a refusal that is
reported. Or a fault escapes, in the ways that `Escaped` lists and in no other. -/
theorem compile_answers_or_escapes {σ : Type} {urls : UrlLibrary} {env : Variables}
    {driver : Driver σ} {files : Files} {args rest : List String} {w : World σ Empty Unit}
    {level : Option Level} {settings : Settings} {collection query : String}
    {sort fields : Option String} {limit skip : Option Int}
    (hinvocation : Invocation.read? args = some (.command level .compile rest))
    (hsettings : Settings.read env [] = .ok settings)
    (htask : Task.read? .compile rest = some (.compile collection query sort fields limit skip))
    (hquery : IsJsonText query) (hsort : ∀ text, sort = some text → text = "" ∨ IsJsonText text)
    (hfields : ∀ text, fields = some text → text = "" ∨ IsJsonText text) :
    (run urls env driver files args w).2 = w ∧
      ((∃ e ∈ jsonArguments query sort fields, TooLong e.2 ∧
          (run urls env driver files args w).1 = .silent (notJson e.1)) ∨
        ∃ filter sortValue fieldsValue, Json.read? query.toList = some filter ∧
          Loads sort sortValue ∧ Loads fields fieldsValue ∧
          (Answered collection filter (optionsOf sortValue fieldsValue limit skip)
              (run urls env driver files args w).1 ∨
            Escaped collection filter (optionsOf sortValue fieldsValue limit skip)
              (run urls env driver files args w).1)) := by
  obtain ⟨hlimit, hskip⟩ := writable_of_task htask
  rw [run_compile hinvocation hsettings htask]
  refine ⟨rfl, ?_⟩
  rcases loadOption_cases "--sort" hsort with ⟨sortValue, hsortValue, hsortLoads⟩ | ⟨text, htext,
    hlong, hmisuse⟩
  · rcases loadOption_cases "--fields" hfields with
      ⟨fieldsValue, hfieldsValue, hfieldsLoads⟩ | ⟨text, htext, hlong, hmisuse⟩
    · rcases loadJson_cases "query" hquery with ⟨filter, -, hread⟩ | ⟨hlong, hmisuse⟩
      · exact .inr ⟨filter, sortValue, fieldsValue, hread, hsortLoads, hfieldsLoads,
          answered_or_escaped hlimit hskip hread hsortValue hfieldsValue⟩
      · refine .inl ⟨("query", query), by simp [jsonArguments], hlong, ?_⟩
        rw [runCompile, statementOf, hsortValue, hfieldsValue, hmisuse]
        rfl
    · refine .inl ⟨("--fields", text), by simp [jsonArguments, htext], hlong, ?_⟩
      rw [runCompile, statementOf, hsortValue, hmisuse]
      rfl
  · refine .inl ⟨("--sort", text), by simp [jsonArguments, htext], hlong, ?_⟩
    rw [runCompile, statementOf, hmisuse]
    rfl

/-- A query for one value of a field. -/
def bareQuery : String := "\x7b\"a\": 1\x7d"

open Command in
theorem bareQuery_answered :
    IsJsonText bareQuery ∧
      Answered "book" (.map [(.text "a", .int 1)]) (optionsOf .null .null none none)
        (run .percentEncoding [] Script.driver [] ["compile", "book", bareQuery]
          (World.start .empty ())).1 := by
  have hchars : bareQuery.toList = ['\x7b', '"', 'a', '"', ':', ' ', '1', '\x7d'] := rfl
  have hread : Json.read? bareQuery.toList = some (.map [(.text "a", .int 1)]) := by
    rw [hchars]
    with_unfolding_all rfl
  have hquery : IsJsonText bareQuery := ⟨_, Nat.le_refl _, _, hread⟩
  have hcompiled : (compileFind .empty (.text "book") (.map [(.text "a", .int 1)])
      (.value (.map (optionsOf .null .null none none)))).toOption.any
        (fun st => st.sql.firstTorn?.isNone) = true := by decide +kernel
  obtain ⟨st, hst, hwhole⟩ := Fallible.exists_of_check hcompiled
  refine ⟨hquery, ?_⟩
  have htask : Task.read? .compile ["book", bareQuery] =
      some (.compile "book" bareQuery none none none none) :=
    task_compile (by decide) (by decide)
  have hsettings : Settings.read [] [] = .ok .standard := rfl
  have habsent : ∀ text, (none : Option String) = some text → text = "" ∨ IsJsonText text := by
    intro text h
    cases h
  obtain ⟨-, ⟨e, he, ⟨hlong, -⟩, -⟩ | ⟨filter, sort, fields, hfilter, hsort, hfields, hend⟩⟩ :=
    @compile_answers_or_escapes _ .percentEncoding [] Script.driver [] _ _ (World.start .empty ()) _
      _ _ _ _ _ _ _
      (invocation_compile _) hsettings htask hquery habsent habsent
  · rw [List.mem_singleton.1 he, hread] at hlong
    cases hlong
  · cases hread.symm.trans hfilter
    cases hsort
    cases hfields
    refine hend.resolve_right ?_
    generalize (run .percentEncoding [] Script.driver [] ["compile", "book", bareQuery]
      (World.start .empty ())).1 = o
    intro hescaped
    cases hescaped with
    | fault f hst' => cases hst.symm.trans hst'
    | torn st' hst' t htorn =>
      cases hst.symm.trans hst'
      rw [htorn] at hwhole
      cases hwhole

open Command in
/-- A list is JSON, and as a query it is neither answered nor reported. -/
theorem list_query_escapes :
    IsJsonText "[1]" ∧
      (run .percentEncoding [] Script.driver [] ["compile", "book", "[1]"]
          (World.start .empty ())).1 =
        .silent (.fault (.noMember .list "items")) ∧
      Fault.category (.noMember .list "items") ≠ .refusal := by
  have hread : Json.read? "[1]".toList = some (.list [.int 1]) := by
    with_unfolding_all rfl
  have hfault : compileFind .empty (.text "book") (.list [.int 1])
      (.value (.map (optionsOf .null .null none none))) = .error (.noMember .list "items") := by
    with_unfolding_all rfl
  have hsettings : Settings.read [] [] = .ok .standard := rfl
  refine ⟨⟨_, Nat.le_refl _, _, hread⟩, ?_, by decide⟩
  rw [run_compile (invocation_compile _) hsettings (task_compile (by decide) (by decide)),
    runCompile_of_error hread rfl rfl hfault]
  rfl

end DocumentStore
