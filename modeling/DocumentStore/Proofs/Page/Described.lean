import DocumentStore.Page
import DocumentStore.Proofs.Number.Accuracy
import DocumentStore.Proofs.Query.Counts
import DocumentStore.Proofs.Statement.Bindings

/-!
# The page that was fetched

The same options are read twice: when a find is compiled, where a limit or a skip is bound unless it
is absent, and when its page is described, where a number counts as given unless it is zero.
`Statement.BindsAt` reads off a statement what it binds behind LIMIT and OFFSET; these are the
counts of the options (`exists_options_of_compileFind`), and the metadata reports them
(`metadata_describes_fetched_page`), except for a limit of zero, in whose place the default page
size is reported.
-/

set_option autoImplicit false

namespace DocumentStore

open Sql Fallible
open QueryOptions (IsCount)

/-! ## What a find binds -/

/-- A statement binds a value at a placeholder that stands for something: it reads back as tokens
whose placeholders stand one for each parameter. -/
def Statement.BindsAt (st : Statement) (role : Role) (v : Value) : Prop :=
  ∃ ts, Sql.read st.points = some ts ∧ (role, v) ∈ (Sql.roles ts).zip st.params

/-- A call that compiles binds the values of the call, each where it belongs. -/
theorem Call.bindsAt_iff {s : FieldSchema} {collection : Value} {call : Call} {st : Statement}
    (h : call.compile s collection = .ok st) :
    ∃ bs, call.bindings s = .ok bs ∧ ∀ role v, st.BindsAt role v ↔ (role, v) ∈ bs := by
  obtain ⟨form, bs, hsql, hbs, hroles, hparams⟩ := exists_bindings h
  have hread : Sql.read st.points = some (Sql.tokens (form.sql s.naming (pieceOf collection))) := by
    rw [Statement.points, hsql]
    exact Sql.read_points (Form.spaced_sql s.tidy_naming (s.tidy_naming collection) form)
  have htold : Sql.roles (Sql.tokens (form.sql s.naming (pieceOf collection))) = bs.map Prod.fst :=
    (Form.roles_sql s.tokens_naming collection form).trans hroles.symm
  have hpaired : (bs.map Prod.fst).zip st.params = bs := by
    rw [← hparams, List.zip_map']
    exact List.map_id bs
  refine ⟨bs, hbs, fun role v => ?_⟩
  constructor
  · rintro ⟨ts, hts, hmem⟩
    obtain rfl := Option.some.inj (hread.symm.trans hts)
    rwa [htold, hpaired] at hmem
  · intro hmem
    refine ⟨_, hread, ?_⟩
    rwa [htold, hpaired]

/-- The operands of conditions stand for nothing but operands. -/
theorem operand_of_conditionBindings {s : FieldSchema} {cs : List Condition}
    {bs : List (Role × Value)} (h : conditionBindings s cs = .ok bs) {role : Role} {v : Value}
    (hmem : (role, v) ∈ bs) :
    ∃ column comparison, role = .operand column comparison := by
  obtain ⟨c, -, hc⟩ := exists_of_mem_mapM h hmem
  obtain ⟨w, -, hw⟩ := map_eq_ok.1 hc
  cases hw
  exact ⟨_, _, rfl⟩

theorem mem_presentBinding {role role' : Role} {v w : Value} :
    (role', w) ∈ presentBinding role v ↔ role' = role ∧ w = v ∧ v ≠ .null := by
  cases v <;> simp [presentBinding, presentValue, Value.isNull]

section Find

variable {s : FieldSchema} {collection filter options : Value} {st : Statement}

/-- A find that compiles has read its options, and binds their limit and their skip when they are
there. -/
theorem exists_options_of_compileFind
    (h : compileFind s collection filter (.value options) = .ok st) :
    ∃ o, QueryOptions.of (.value options) = .ok o ∧
      (∀ v, st.BindsAt .limit v ↔ v = o.limit ∧ o.limit ≠ .null) ∧
      ∀ v, st.BindsAt .skip v ↔ v = o.skip ∧ o.skip ≠ .null := by
  have hcall : (Call.find filter (.value options)).compile s collection = .ok st := h
  obtain ⟨bs, hbs, hbinds⟩ := Call.bindsAt_iff hcall
  obtain ⟨o, ho, hbs⟩ := bind_eq_ok.1 hbs
  obtain ⟨cs, -, hbs⟩ := bind_eq_ok.1 hbs
  obtain ⟨operands, hoperands, hbs⟩ := bind_eq_ok.1 hbs
  cases hbs
  have hother (role : Role) (hrole : ∀ column comparison, role ≠ .operand column comparison)
      (v : Value) :
      (role, v) ∉ operands := by
    intro hmem
    obtain ⟨column, comparison, heq⟩ := operand_of_conditionBindings hoperands hmem
    exact hrole column comparison heq
  refine ⟨o, ho, fun v => ?_, fun v => ?_⟩
  · have hlimit : (Role.limit, v) ∉ operands := hother .limit (fun _ _ h => (nomatch h)) v
    simp [hbinds, mem_presentBinding, hlimit]
  · have hskip : (Role.skip, v) ∉ operands := hother .skip (fun _ _ h => (nomatch h)) v
    simp [hbinds, mem_presentBinding, hskip]

/-- A value that is not bound where it would be is absent. -/
theorem eq_null_of_not_bindsAt {role : Role} {u : Value}
    (h : ∀ v, st.BindsAt role v ↔ v = u ∧ u ≠ .null) (hunbound : ∀ v, ¬st.BindsAt role v) :
    u = .null := by
  by_contra hpresent
  exact hunbound u ((h u).2 ⟨rfl, hpresent⟩)

end Find

/-! ## What the metadata reports -/

namespace Page

/-- The page size that is taken when no limit is given: the one that the caller gives, or the
configured one when the caller gives none, at least one in both cases. -/
inductive DefaultSize : Value → Except Fault Int → Int → Prop
  | given (size : Int) (hsize : 1 ≤ size) (pageSize : Except Fault Int) :
    DefaultSize (.int size) pageSize size
  | configured (size : Int) (hsize : 1 ≤ size) (none : Value) (hnone : none.truthy = false) :
      DefaultSize none (.ok size) size

theorem DefaultSize.one_le {defaultLimit : Value} {pageSize : Except Fault Int} {size : Int}
    (h : DefaultSize defaultLimit pageSize size) : 1 ≤ size := by
  cases h with
  | given _ hsize => exact hsize
  | configured _ hsize => exact hsize

theorem truthy_int {n : Int} : (Value.int n).truthy = true ↔ n ≠ 0 := by
  simp [Value.truthy]

/-- A limit is taken when it is a number other than zero, and else the default page size. -/
theorem exists_limitOf {limit defaultLimit : Value} {pageSize : Except Fault Int} {size : Int}
    (hlimit : IsCount limit) (hdefault : DefaultSize defaultLimit pageSize size) :
    ∃ l : Int, 1 ≤ l ∧ limitOf limit defaultLimit pageSize = .ok (.int l) ∧
      (limit = .null → l = size) ∧ ∀ n : Int, limit = .int n → l = if n = 0 then size else n := by
  have hfallback (hfalse : limit.truthy = false) :
      limitOf limit defaultLimit pageSize = .ok (.int size) := by
    rw [limitOf, hfalse, if_neg Bool.false_ne_true]
    cases hdefault with
    | given _ hsize => exact if_pos (truthy_int.2 (by omega))
    | configured _ hsize _ hnone =>
      rw [hnone]
      rfl
  cases hlimit with
  | absent =>
    refine ⟨size, hdefault.one_le, hfallback rfl, fun _ => rfl, ?_⟩
    rintro n ⟨⟩
  | given n hn =>
    by_cases hzero : n = 0
    · subst hzero
      refine ⟨size, hdefault.one_le, hfallback rfl, fun h => (nomatch h), ?_⟩
      rintro m ⟨⟩
      rfl
    · refine ⟨n, by omega, if_pos (truthy_int.2 hzero), fun h => (nomatch h), ?_⟩
      rintro m ⟨⟩
      exact (if_neg hzero).symm

/-- The offset is the skip, and zero when there is none. -/
theorem exists_offset {skip : Value} (h : IsCount skip) :
    ∃ n : Int, skip.orElse (.int 0) = .int n ∧ (skip = .null → n = 0) ∧
      ∀ m : Int, skip = .int m → n = m := by
  cases h with
  | absent => exact ⟨0, rfl, fun _ => rfl, fun m h => (nomatch h)⟩
  | given n hn =>
    have hoffset : (Value.int n).orElse (.int 0) = .int n := by
      rw [Value.orElse]
      split
      · rfl
      · next hfalse =>
        rw [truthy_int, not_not] at hfalse
        rw [hfalse]
    refine ⟨n, hoffset, fun h => (nomatch h), ?_⟩
    rintro m ⟨⟩
    rfl

/-- The pages are counted, unless there are too many results to divide them. -/
theorem pagesOf_cases (count : Int) {limit : Int} (hlimit : 1 ≤ limit) :
    (∃ pages, pagesOf (.int count) (.int limit) = .ok pages) ∨
      2 ^ 1023 ≤ count.natAbs ∧ pagesOf (.int count) (.int limit) = .error (.range .quotient) := by
  have hnegative : ¬limit < 0 := by omega
  have hpages : pagesOf (.int count) (.int limit) =
      Number.divide (.int count) (.int limit) >>= Double.ceiling := rfl
  rw [hpages, Number.divide, if_neg hnegative]
  rcases Double.ofRatio_cases count limit.natAbs with
    ⟨negative, hinfinite⟩ | ⟨negative, m, e, hfinite⟩
  · right
    refine ⟨?_, by rw [hinfinite]; rfl⟩
    by_contra hsmall
    have hpower : ((2 ^ 1023 : Nat) : ℚ) = 2 ^ (53 + 970 : Int) :=
      (Nat.cast_pow 2 1023).trans (zpow_natCast 2 1023).symm
    have hmagnitude : |(count : ℚ) / limit.natAbs| < 2 ^ (53 + 970 : Int) := by
      have hcount : |(count : ℚ)| < (2 ^ 1023 : Nat) :=
        Double.natAbs_lt_iff.1 (Nat.lt_of_not_le hsmall)
      have hdivisor : (1 : ℚ) ≤ limit.natAbs := by
        have hnat : 1 ≤ limit.natAbs := by omega
        exact_mod_cast hnat
      calc |(count : ℚ) / limit.natAbs|
          = |(count : ℚ)| / limit.natAbs := by rw [abs_div, Nat.abs_cast]
        _ ≤ |(count : ℚ)| := div_le_self (abs_nonneg _) hdivisor
        _ < 2 ^ (53 + 970 : Int) := hpower ▸ hcount
    obtain ⟨⟨_, _, _, hfinite⟩, -⟩ :=
      Double.near_ofRatio count (by omega) (by decide) (by decide) hmagnitude
    cases hinfinite.symm.trans hfinite
  · left
    have hceiling : (Double.finite negative m e).ceiling =
        .ok ⌈(Double.finite negative m e).toRat⌉ := by
      rw [Double.ceiling, Double.ceil?_finite]
    rw [hfinite]
    exact ⟨_, hceiling⟩

/-- The report of a page from its numbers. -/
def report (count limit offset page : Int) : Except Fault Entries := do
  let pages ← pagesOf (.int count) (.int limit)
  let around ← neighbours (.int page) pages
  return [(.text "limit", .int limit), (.text "page", .int page), (.text "offset", .int offset),
    (.text "totalCount", .int count), (.text "totalPages", .int pages)] ++ around

/-- The metadata of options that hold counts is the report of a page: the one that is asked for, or
the one that the offset lies on. -/
theorem exists_page {o : QueryOptions} {limit offset : Int} (count : Int) {defaultLimit : Value}
    {pageSize : Except Fault Int}
    (hlimit : limitOf o.limit defaultLimit pageSize = .ok (.int limit))
    (hoffset : o.skip.orElse (.int 0) = .int offset) (hpage : IsCount o.page) :
    ∃ page, metadataWith o (.int count) defaultLimit pageSize = report count limit offset page := by
  obtain ⟨sort, fields, limit', skip, page⟩ := o
  rw [metadataWith, hlimit, hoffset]
  cases hpage with
  | absent => exact ⟨_, rfl⟩
  | given page hgiven =>
    by_cases htrue : (Value.int page).truthy = true
    · exact ⟨page, if_pos htrue⟩
    · exact ⟨_, if_neg htrue⟩

/-- A report names its limit and its offset. It fails when there are too many results to count their
pages. -/
theorem report_cases (count : Int) {limit : Int} (hlimit : 1 ≤ limit) (offset page : Int) :
    (2 ^ 1023 ≤ count.natAbs ∧ report count limit offset page = .error (.range .quotient)) ∨
      ∃ es, report count limit offset page = .ok es ∧
        Entries.getText? es "limit" = some (.int limit) ∧
        Entries.getText? es "offset" = some (.int offset) := by
  rw [report]
  rcases pagesOf_cases count hlimit with ⟨pages, hpages⟩ | ⟨hlarge, hpages⟩
  · rw [hpages]
    refine .inr ⟨_, rfl, ?_, ?_⟩
    · simp [Entries.getText?, Entries.get?, Value.same_text]
    · simp [Entries.getText?, Entries.get?, Value.same_text]
  · rw [hpages]
    exact .inl ⟨hlarge, rfl⟩

/-- A report describes the page that a statement fetches, for a default page size: it names the
limit that is bound, the default page size in place of a limit of zero and where none is bound, and
the offset that is bound, zero where none is. -/
structure Describes (st : Statement) (size : Int) (report : Entries) : Prop where
  limit : ∀ v, st.BindsAt .limit v →
    ∃ l : Int, v = .int l ∧
      Entries.getText? report "limit" = some (.int (if l = 0 then size else l))
  noLimit : (∀ v, ¬st.BindsAt .limit v) → Entries.getText? report "limit" = some (.int size)
  offset : ∀ v, st.BindsAt .skip v → Entries.getText? report "offset" = some v
  noOffset : (∀ v, ¬st.BindsAt .skip v) → Entries.getText? report "offset" = some (.int 0)

end Page

/-- When a find compiles, the metadata that is built from the same options describes the page that
its statement fetches, for every number of results and every default page size. Nothing else can go
wrong than that there are more results than a double can count. -/
theorem metadata_describes_fetched_page {s : FieldSchema} {collection filter options : Value}
    {st : Statement} (hst : compileFind s collection filter (.value options) = .ok st) (count : Int)
    {defaultLimit : Value} {pageSize : Except Fault Int} {size : Int}
    (hdefault : Page.DefaultSize defaultLimit pageSize size) :
    (2 ^ 1023 ≤ count.natAbs ∧
        Page.metadata (.value options) (.int count) defaultLimit pageSize =
          .error (.range .quotient)) ∨
      ∃ report, Page.metadata (.value options) (.int count) defaultLimit pageSize = .ok report ∧
        Page.Describes st size report := by
  obtain ⟨o, ho, hlimitBound, hskipBound⟩ := exists_options_of_compileFind hst
  obtain ⟨hlimit, hskip, hpage⟩ := QueryOptions.isCount_of_read ho
  obtain ⟨l, hl, htaken, habsent, hgiven⟩ := Page.exists_limitOf hlimit hdefault
  obtain ⟨n, hoffset, hnone, hsome⟩ := Page.exists_offset hskip
  obtain ⟨page, hpage⟩ := Page.exists_page count htaken hoffset hpage
  have hmetadata : Page.metadata (.value options) (.int count) defaultLimit pageSize =
      Page.report count l n page := by
    rw [Page.metadata, ho]
    exact hpage
  rw [hmetadata]
  rcases Page.report_cases count hl n page with hfault | ⟨report, hreport, hlimitAt, hoffsetAt⟩
  · exact .inl hfault
  refine .inr ⟨report, hreport, ?_, ?_, ?_, ?_⟩
  · intro v hv
    obtain ⟨rfl, hpresent⟩ := (hlimitBound v).1 hv
    obtain ⟨m, hm⟩ := hlimit.exists_int hpresent
    exact ⟨m, hm, by rw [hlimitAt, hgiven m hm]⟩
  · intro hunbound
    rw [hlimitAt, habsent (eq_null_of_not_bindsAt hlimitBound hunbound)]
  · intro v hv
    obtain ⟨rfl, hpresent⟩ := (hskipBound v).1 hv
    obtain ⟨m, hm⟩ := hskip.exists_int hpresent
    rw [hoffsetAt, hsome m hm, hm]
  · intro hunbound
    rw [hoffsetAt, hnone (eq_null_of_not_bindsAt hskipBound hunbound)]

/-- A page of ten results behind the first five, with counts that are given as texts. -/
def tenBehindFive : Value := .map [(.text "limit", .text " 10"), (.text "skip", .text "5 ")]

theorem described_tenBehindFive :
    ∃ st report,
      compileFind .empty (.text "books") (.map [(.text "title", .text "A")])
        (.value tenBehindFive) = .ok st ∧
      st.BindsAt .limit (.int 10) ∧ st.BindsAt .skip (.int 5) ∧
      Page.metadata (.value tenBehindFive) (.int 45) .null (.ok 20) = .ok report ∧
      Page.Describes st 20 report := by
  have hcompiled : (compileFind .empty (.text "books") (.map [(.text "title", .text "A")])
      (.value tenBehindFive)).toOption.any (fun _ => true) = true := by decide +kernel
  obtain ⟨st, hst, -⟩ := exists_of_check hcompiled
  obtain ⟨o, ho, hlimit, hskip⟩ := exists_options_of_compileFind hst
  have hread : QueryOptions.of (.value tenBehindFive) =
      .ok ⟨.null, .null, .int 10, .int 5, .null⟩ := by
    with_unfolding_all rfl
  cases ho.symm.trans hread
  rcases metadata_describes_fetched_page hst 45 (.configured 20 (by decide) .null rfl) with
    ⟨hlarge, -⟩ | ⟨report, hreport, hdescribes⟩
  · have hpower : 2 ^ 6 ≤ 2 ^ 1023 := pow_le_pow_right₀ one_le_two (by decide)
    exact absurd (hpower.trans hlarge) (by decide)
  · exact ⟨st, report, hst, (hlimit _).2 ⟨rfl, Value.noConfusion⟩,
      (hskip _).2 ⟨rfl, Value.noConfusion⟩, hreport, hdescribes⟩

/-- The first page of no results. -/
def firstOfNone : Value := .map [(.text "limit", .int 0), (.text "page", .int 1)]

/-- A limit of zero is bound, and the metadata reports the default page size in its place. -/
theorem zero_limit_misreported :
    ∃ st, compileFind .empty (.text "books") (.map []) (.value firstOfNone) = .ok st ∧
      st.BindsAt .limit (.int 0) ∧
      Page.metadata (.value firstOfNone) (.int 0) (.int 20) (.ok 50) =
        .ok [(.text "limit", .int 20), (.text "page", .int 1), (.text "offset", .int 0),
          (.text "totalCount", .int 0), (.text "totalPages", .int 0)] := by
  have hcompiled : (compileFind .empty (.text "books") (.map [])
      (.value firstOfNone)).toOption.any (fun _ => true) = true := by decide +kernel
  obtain ⟨st, hst, -⟩ := exists_of_check hcompiled
  obtain ⟨o, ho, hlimit, -⟩ := exists_options_of_compileFind hst
  have hread : QueryOptions.of (.value firstOfNone) =
      .ok ⟨.null, .null, .int 0, .null, .int 1⟩ := by
    with_unfolding_all rfl
  cases ho.symm.trans hread
  refine ⟨st, hst, (hlimit _).2 ⟨rfl, Value.noConfusion⟩, ?_⟩
  rw [Page.metadata, hread]
  rfl

end DocumentStore
