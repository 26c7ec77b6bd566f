import VoltFleet.Platform

/-!
# `generatePagination`

The pagination block of every list endpoint.  `page` and `perPage` come from the
query string, where they are text, or are the defaults `1` and `10`.
-/

namespace VoltFleet

/-- The parts of an Express request a handler reads. -/
structure Request where
  protocol : String
  host : String
  originalUrl : String
  query : List (String × String)
  deriving DecidableEq

/-- A parameter that is used both as a number and as text. -/
structure NumericParam where
  text : String
  value : JsNumber
  deriving DecidableEq

/-- `param = default` in a parameter list. -/
def Platform.param (P : Platform) (text : Option String) (default : Nat) : NumericParam :=
  match text with
  | none => ⟨P.numberText (.finite default), .finite default⟩
  | some t => ⟨t, P.number t⟩

/-- The block of a page; a link that does not exist is `null`. -/
structure Pagination where
  currentPage : NumericParam
  totalPages : JsNumber
  totalItems : Nat
  itemsPerPage : NumericParam
  currUrl : String
  prevUrl : Option String
  nextUrl : Option String
  deriving DecidableEq

/-- The rows of a page with its block. -/
structure PaginationResult (α : Type) where
  data : List α
  pagination : Pagination
  deriving DecidableEq

/-- `URLSearchParams.set`: the first value of the name is replaced and the others
are dropped, or the pair is appended. -/
def setParam (name value : String) : List (String × String) → List (String × String)
  | [] => [(name, value)]
  | (n, v) :: rest =>
      if n = name then (name, value) :: rest.filter (·.1 ≠ name)
      else (n, v) :: setParam name value rest

/-- `text.split('?')[0]`. -/
def beforeQuery (text : String) : String := String.ofList (text.toList.takeWhile (· ≠ '?'))

/-- Checks the parameters, computes the block and links the pages before and after. -/
def generatePagination {α : Type} (P : Platform) (page perPage : NumericParam)
    (totalItems : Nat) (req : Option Request) (items : List α) :
    Except Thrown (PaginationResult α) :=
  let totalPages := (JsNumber.div totalItems perPage.value).ceil
  let prevPage := if (JsNumber.finite 1).lt page.value then some (page.value.sub 1) else none
  let nextPage := if page.value.lt totalPages then some (page.value.sub (-1)) else none
  if page.value.lt (.finite 1) || perPage.value.lt (.finite 1) then
    .error (.badRequest "Invalid pagination parameters")
  else
    match req with
    | none => .error (.error "Cannot read properties of undefined (reading 'query')")
    | some req =>
        let pageText := fun n : Option JsNumber => (n.map P.numberText).getD "null"
        let prevParams := setParam "perPage" perPage.text
          (setParam "page" (pageText prevPage) req.query)
        let baseUrl := req.protocol ++ "://" ++ req.host ++ req.originalUrl
        let link := fun params => beforeQuery baseUrl ++ "?" ++ P.urlEncode params
        .ok
          { data := items
            pagination :=
              { currentPage := page
                totalPages := totalPages
                totalItems := totalItems
                itemsPerPage := perPage
                currUrl := baseUrl
                prevUrl := prevPage.map fun _ => link prevParams
                nextUrl := nextPage.map fun _ =>
                  link (setParam "page" (pageText nextPage) prevParams) } }

/-- The items of a block are the ones it was built from. -/
theorem generatePagination_data {α : Type} {P : Platform} {page perPage : NumericParam}
    {totalItems : Nat} {req : Option Request} {items : List α} {r : PaginationResult α}
    (h : generatePagination P page perPage totalItems req items = .ok r) : r.data = items := by
  unfold generatePagination at h
  dsimp only at h
  split at h
  · cases h
  · split at h
    · cases h
    · cases h
      rfl

end VoltFleet
