import DocumentStore.Query.Options
import DocumentStore.Value.Arithmetic

/-!
# Page metadata

Where a page of results sits within all results: its limit, number and offset, how many documents
and pages there are, and the numbers of the next and the previous page where they exist. A limit
that is absent or zero stands for the default page size.
-/

set_option autoImplicit false

namespace DocumentStore

namespace Page

/-- The first of the given limits that counts as true, else the configured page size, which is asked
for only then. -/
def limitOf (limit defaultLimit : Value) (pageSize : Except Fault Int) : Except Fault Value :=
  if limit.truthy then .ok limit
  else if defaultLimit.truthy then .ok defaultLimit
  else pageSize.map .int

/-- The number of the page that an offset lies on. -/
def numberAt (offset limit : Value) : Except Fault Value := do
  let (x, y) ← Value.operands "//" offset limit
  let q ← Number.floorDivide x y
  return (q.plus 1).toValue

/-- The number of pages. -/
def pagesOf (count limit : Value) : Except Fault Int := do
  let (x, y) ← Value.operands "/" count limit
  (← Number.divide x y).ceiling

/-- The entries that name the neighbouring pages. -/
def neighbours (page : Value) (pages : Int) : Except Fault Entries := do
  let p ← Value.comparand "<" page
  return (if p.lessThan pages then [(.text "nextPage", (p.plus 1).toValue)] else []) ++
    (if p.greaterThan 1 then [(.text "prevPage", (p.plus (-1)).toValue)] else [])

/-- The metadata of a page of results, for options that are built. -/
def metadataWith (o : QueryOptions) (count defaultLimit : Value) (pageSize : Except Fault Int) :
    Except Fault Entries := do
  let limit ← limitOf o.limit defaultLimit pageSize
  let offset := o.skip.orElse (.int 0)
  let page ← if o.page.truthy then .ok o.page else numberAt offset limit
  let pages ← pagesOf count limit
  let around ← neighbours page pages
  return [(.text "limit", limit), (.text "page", page), (.text "offset", offset),
    (.text "totalCount", count), (.text "totalPages", .int pages)] ++ around

/-- The metadata of a page of results as a value, where nothing but the options gives a limit. -/
def provider (pageSize : Except Fault Int) (o : QueryOptions) (count : Value) :
    Except Fault Value :=
  (metadataWith o count .null pageSize).map .map

/-- The metadata of a page of results. -/
def metadata (options : OptionsSource) (count defaultLimit : Value) (pageSize : Except Fault Int) :
    Except Fault Entries := do
  let o ← QueryOptions.of options
  metadataWith o count defaultLimit pageSize

end Page

end DocumentStore
