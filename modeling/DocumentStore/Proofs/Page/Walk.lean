import DocumentStore.Page
import DocumentStore.Proofs.Number.Rounding
import DocumentStore.Proofs.TextKeys
import Mathlib.Order.Bounds.Basic

/-!
# Walking through the pages

A caller sees all results by asking for the first page and following the number of the next page as
long as the metadata names one (`Page.Walk`). The number of pages is the least that hold all
results, although it is computed from a rounded quotient, and the walk ends on the last of them; the
windows that are fetched on the way are the results, each once and in order
(`following_pages_sees_every_row`).
-/

set_option autoImplicit false

namespace DocumentStore

namespace Page

/-- What a caller asks for to see a page of a size: that many results, behind those of the pages
before it. -/
def request (size page : Nat) : OptionsSource :=
  .value (.map [(.text "limit", .int size), (.text "skip", .int ((page - 1) * size : Nat))])

/-- What there is to say about a page among all results: the next page is named when results are
left behind this one, the previous one when there are pages before it. -/
def description (size count pages page : Nat) : Entries :=
  [(.text "limit", .int size), (.text "page", .int page),
    (.text "offset", .int ((page - 1) * size : Nat)), (.text "totalCount", .int count),
    (.text "totalPages", .int pages)] ++
    (if page * size < count then [(.text "nextPage", .int (page + 1 : Nat))] else []) ++
    (if 1 < page then [(.text "prevPage", .int (page - 1 : Nat))] else [])

/-- The pages that are seen from one on by following the next page as long as one is named. -/
inductive Walk (metadata : Nat → Except Fault Entries) : Nat → List Nat → Prop
  | stop {page : Nat} {es : Entries} (hpage : metadata page = .ok es)
      (hlast : Entries.getText? es "nextPage" = none) : Walk metadata page [page]
  | follow {page next : Nat} {es : Entries} {seen : List Nat} (hpage : metadata page = .ok es)
      (hnext : Entries.getText? es "nextPage" = some (.int next))
      (hrest : Walk metadata next seen) :
      Walk metadata page (page :: seen)

/-- The results on a page: those behind its offset, as many as its limit. -/
def window {α : Type} (size page : Nat) (rows : List α) : List α :=
  (rows.drop ((page - 1) * size)).take size

/-! ## The metadata of a page -/

section Metadata

variable {size count pages : Nat}

/-- A page has a next one when it is not the last. -/
theorem lt_pages_iff (hpages : IsLeast {t | count ≤ t * size} pages) (page : Nat) :
    page < pages ↔ page * size < count := by
  constructor
  · intro hlt
    by_contra hle
    have hleast : pages ≤ page := hpages.2 (Nat.le_of_not_lt hle)
    omega
  · intro hlt
    by_contra hle
    have hscaled : pages * size ≤ page * size := Nat.mul_le_mul_right size (Nat.le_of_not_lt hle)
    have henough : count ≤ pages * size := hpages.1
    omega

/-- The number of pages is the least that holds all results. -/
theorem pagesOf_eq (hsize : 0 < size) (hsize' : size ≤ 2 ^ 53) (hcount : count ≤ 2 ^ 53)
    (hpages : IsLeast {t | count ≤ t * size} pages) :
    pagesOf (.int count) (.int size) = .ok pages := by
  have hceil := Double.ceil?_ofRatio hsize hsize' hcount hpages
  have hpositive : ¬ ((size : Int) < 0) := by omega
  have hdivide : Number.divide (.int count) (.int size) = .ok (Double.ofRatio count size) := by
    rw [Number.divide, if_neg hpositive, Int.natAbs_natCast]
    split
    · next hinfinite =>
      -- an infinite number would have no ceiling
      rw [hinfinite] at hceil
      cases hceil
    · rfl
  show (Number.divide (.int count) (.int size) >>= fun x => x.ceiling) = _
  rw [hdivide]
  show (Double.ofRatio count size).ceiling = _
  rw [Double.ceiling, hceil]

/-- The number of a page is found from its offset. -/
theorem numberAt_eq (hsize : 0 < size) {page : Nat} (hpage : 1 ≤ page) :
    numberAt (.int ((page - 1) * size : Nat)) (.int size) = .ok (.int page) := by
  have hquotient : Int.fdiv ((page - 1) * size : Nat) size = (page - 1 : Nat) := by
    rw [Int.fdiv_eq_ediv_of_nonneg _ (Int.natCast_nonneg size), ← Int.natCast_ediv,
      Nat.mul_div_cancel _ hsize]
  show Except.ok (Value.int (Int.fdiv ((page - 1) * size : Nat) size + 1)) = _
  rw [hquotient]
  congr 2
  omega

/-- The options of a request are its limit and its offset. -/
theorem of_request (size page : Nat) : QueryOptions.of (request size page) =
    .ok ⟨.null, .null, .int size, .int ((page - 1) * size : Nat), .null⟩ := by
  have hkept (n : Nat) : QueryOptions.keepNonNegative n = .int n := if_pos (Int.natCast_nonneg n)
  unfold request
  generalize (page - 1) * size = skip
  simp [QueryOptions.of, QueryOptions.ofEntries, Entries.getD, Entries.getText?, Entries.get?,
    Value.same_text, QueryOptions.sortOf, QueryOptions.fieldsOf, QueryOptions.countOf, hkept,
    Value.truthy, bind, Except.bind, pure, Except.pure]

/-- A limit that is not zero is taken. -/
theorem limitOf_eq (hsize : 0 < size) (defaultLimit : Value) (pageSize : Except Fault Int) :
    limitOf (.int size) defaultLimit pageSize = .ok (.int size) := by
  have htrue : (Value.int size).truthy = true := by
    simp [Value.truthy]
    omega
  rw [limitOf, if_pos htrue]

/-- The neighbours of a page are named when they are there. -/
theorem neighbours_eq {page : Nat} (hpage : 1 ≤ page) : neighbours (.int page) pages =
    .ok ((if page < pages then [(.text "nextPage", .int (page + 1 : Nat))] else []) ++
      (if 1 < page then [(.text "prevPage", .int (page - 1 : Nat))] else [])) := by
  have hprev : (page : Int) + -1 = (page - 1 : Nat) := by omega
  simp [neighbours, Value.comparand, Value.number?, Number.lessThan,
    Number.greaterThan, Number.plus, Number.toValue, hprev, bind, Except.bind, pure, Except.pure]

/-- The metadata of a page says what there is to say about it. -/
theorem metadata_request (hsize : 0 < size) (hsize' : size ≤ 2 ^ 53) (hcount : count ≤ 2 ^ 53)
    (hpages : IsLeast {t | count ≤ t * size} pages) (defaultLimit : Value)
    (pageSize : Except Fault Int) {page : Nat} (hpage : 1 ≤ page) :
    metadata (request size page) (.int count) defaultLimit pageSize =
      .ok (description size count pages page) := by
  have hoffset (n : Nat) : (Value.int n).orElse (.int 0) = .int n := by
    cases n with
    | zero => rfl
    | succ n => rfl
  rw [metadata, of_request]
  simp only [metadataWith, bind, Except.bind, pure, Except.pure, limitOf_eq hsize, hoffset,
    numberAt_eq hsize hpage, pagesOf_eq hsize hsize' hcount hpages, neighbours_eq hpage,
    lt_pages_iff hpages, description, Value.truthy, List.append_assoc]
  rfl

end Metadata

/-! ## The walk -/

section Walking

variable {size count pages : Nat} {metadata : Nat → Except Fault Entries}

/-- The next page is named when results are left. -/
theorem nextPage_description (size count pages page : Nat) :
    Entries.getText? (description size count pages page) "nextPage" =
      if page * size < count then some (.int (page + 1 : Nat)) else none := by
  unfold description
  by_cases hnext : page * size < count <;> by_cases hprev : 1 < page <;>
    simp [Entries.getText?, Entries.get?, Value.same_text, hnext, hprev]

/-- From a page on the walk sees it and all that follow. -/
theorem walk_iff (hpages : IsLeast {t | count ≤ t * size} pages)
    (hmetadata : ∀ page, 1 ≤ page → metadata page = .ok (description size count pages page))
    (further : Nat) {page : Nat} (hpage : 1 ≤ page) (hfurther : page + further = max page pages)
    (seen : List Nat) : Walk metadata page seen ↔ seen = List.range' page (further + 1) := by
  -- by induction on the pages that are left
  induction further generalizing page seen with
  | zero =>
    have hlast : ¬ page * size < count := by
      rw [← lt_pages_iff hpages]
      omega
    have hnone := nextPage_description size count pages page
    rw [if_neg hlast] at hnone
    constructor
    · intro hwalk
      cases hwalk with
      | stop => rfl
      | follow hes hnext =>
        rw [hmetadata page hpage] at hes
        cases hes
        rw [hnone] at hnext
        cases hnext
    · rintro rfl
      exact .stop (hmetadata page hpage) hnone
  | succ further ih =>
    have hmore : page * size < count := by
      rw [← lt_pages_iff hpages]
      omega
    have hsome := nextPage_description size count pages page
    rw [if_pos hmore] at hsome
    have hrest (others : List Nat) : Walk metadata (page + 1) others ↔
        others = List.range' (page + 1) (further + 1) := ih (by omega) (by omega) others
    rw [List.range'_succ]
    constructor
    · intro hwalk
      cases hwalk with
      | stop hes hlast =>
        rw [hmetadata page hpage] at hes
        cases hes
        rw [hsome] at hlast
        cases hlast
      | @follow _ next _ others hes hnext hwalk =>
        rw [hmetadata page hpage] at hes
        cases hes
        rw [hsome] at hnext
        obtain rfl : page + 1 = next := by
          simp at hnext
          omega
        rw [(hrest others).1 hwalk]
    · rintro rfl
      exact .follow (hmetadata page hpage) hsome ((hrest _).2 rfl)

end Walking

/-! ## What is seen -/

/-- The windows of the first pages are the first results. -/
theorem flatMap_window {α : Type} (size : Nat) (rows : List α) (pages : Nat) :
    (List.range' 1 pages).flatMap (fun page => window size page rows) =
      rows.take (pages * size) := by
  induction pages with
  | zero => simp
  | succ pages ih =>
    rw [List.range'_1_concat, List.flatMap_append, ih, List.flatMap_singleton, window,
      Nat.add_sub_cancel_left, Nat.succ_mul, List.take_add]

end Page

/-- Results are shown in pages of a size. Then the number of pages is the least that hold all
results, and the metadata of every page is its description. Following the next page from the first
one on sees all pages, one when there are no results, and stops. Every row index lies in the window
of one of these pages and no other, so the windows one behind the other are all results in their
order. -/
theorem following_pages_sees_every_row (size count : Nat) (hsize : 1 ≤ size)
    (hsize' : size ≤ 2 ^ 53) (hcount : count ≤ 2 ^ 53) (defaultLimit : Value)
    (pageSize : Except Fault Int) :
    ∃ pages, IsLeast {t | count ≤ t * size} pages ∧
      (∀ page, 1 ≤ page →
        Page.metadata (Page.request size page) (.int count) defaultLimit pageSize =
          .ok (Page.description size count pages page)) ∧
      (∀ seen, Page.Walk (fun page =>
          Page.metadata (Page.request size page) (.int count) defaultLimit pageSize) 1 seen ↔
        seen = List.range' 1 (max 1 pages)) ∧
      (∀ row < count, ∃! page, page ∈ List.range' 1 (max 1 pages) ∧
        (page - 1) * size ≤ row ∧ row < (page - 1) * size + size) ∧
      ∀ {α : Type} (rows : List α), rows.length = count →
        (List.range' 1 (max 1 pages)).flatMap (fun page => Page.window size page rows) = rows := by
  have henough : ∃ t, count ≤ t * size := ⟨count, Nat.le_mul_of_pos_right count hsize⟩
  obtain ⟨pages, hpages⟩ : ∃ pages, IsLeast {t | count ≤ t * size} pages :=
    ⟨Nat.find henough, Nat.find_spec henough, fun t ht => Nat.find_min' henough ht⟩
  have hmetadata (page : Nat) (hpage : 1 ≤ page) :=
    Page.metadata_request hsize hsize' hcount hpages defaultLimit pageSize hpage
  refine ⟨pages, hpages, hmetadata, fun seen => ?_, fun row hrow => ?_, fun rows hrows => ?_⟩
  · have hwalk := Page.walk_iff hpages hmetadata (max 1 pages - 1) (Nat.le_refl 1) (by omega) seen
    rwa [Nat.sub_add_cancel (Nat.le_max_left 1 pages)] at hwalk
  · have hbelow : row / size * size ≤ row := Nat.div_mul_le_self row size
    have habove : row < row / size * size + size := Nat.lt_div_mul_add hsize
    have hpage : row / size < pages :=
      (Page.lt_pages_iff hpages _).2 (Nat.lt_of_le_of_lt hbelow hrow)
    refine ⟨row / size + 1, ⟨?_, hbelow, habove⟩, ?_⟩
    · rw [List.mem_range'_1]
      generalize row / size = quotient at hpage
      omega
    · -- a window that holds the row is that of its quotient
      rintro page ⟨hmem, hlow, hhigh⟩
      rw [List.mem_range'_1] at hmem
      have hnext : (page - 1) * size + size = (page - 1 + 1) * size := by ring
      rw [hnext] at hhigh
      have hquotient : row / size = page - 1 := Nat.div_eq_of_lt_le hlow hhigh
      omega
  · rw [Page.flatMap_window, List.take_of_length_le]
    calc rows.length ≤ pages * size := hrows ▸ hpages.1
      _ ≤ max 1 pages * size := Nat.mul_le_mul_right size (Nat.le_max_right 1 pages)

/-- Three results to a page, and as many results as a double counts exactly: the quotient lies
between two integers and is no double. -/
theorem following_pages_of_third :
    1 ≤ 3 ∧ 3 ≤ 2 ^ 53 ∧ 2 ^ 53 ≤ 2 ^ 53 ∧
      Page.pagesOf (.int (2 ^ 53 : Nat)) (.int (3 : Nat)) = .ok 3002399751580331 ∧
      ∃ pages, IsLeast {t | 2 ^ 53 ≤ t * 3} pages ∧
        (∀ page, 1 ≤ page →
          Page.metadata (Page.request 3 page) (.int (2 ^ 53 : Nat)) .null (.ok 20) =
            .ok (Page.description 3 (2 ^ 53) pages page)) ∧
        (∀ seen, Page.Walk (fun page =>
            Page.metadata (Page.request 3 page) (.int (2 ^ 53 : Nat)) .null (.ok 20)) 1 seen ↔
          seen = List.range' 1 (max 1 pages)) ∧
        (∀ row < 2 ^ 53, ∃! page, page ∈ List.range' 1 (max 1 pages) ∧
          (page - 1) * 3 ≤ row ∧ row < (page - 1) * 3 + 3) ∧
        ∀ {α : Type} (rows : List α), rows.length = 2 ^ 53 →
          (List.range' 1 (max 1 pages)).flatMap (fun page => Page.window 3 page rows) = rows :=
  ⟨by decide, by decide, Nat.le_refl _, rfl,
    following_pages_sees_every_row 3 (2 ^ 53) (by decide) (by decide) (Nat.le_refl _)
      .null (.ok 20)⟩

end DocumentStore
