import VoltFleet.Common.Query

/-!
# Requests

What a list endpoint takes from `express`, `class-validator` and ECMAScript
beside `Platform`: the router, the query parser, the check and the reading of a
date, and the `RegExp` constructor.
-/

namespace VoltFleet

/-- The routes that page through a list with the request at hand. -/
inductive Endpoint where
  | getAllUsers
  | getAllRoles
  | getAllPrivileges
  | history (vehicleId : String)
  | getAuditLogs
  deriving DecidableEq

/-- The `parameterLimit` of the query parser. -/
def parameterLimit : Nat := 1000

/-- The functions of the list endpoints beside those of `Platform`. -/
structure Web extends Platform where
  /-- The router, on a path. -/
  route : String → Option Endpoint
  /-- The query parser, on what follows the question mark. -/
  parseQuery : String → List (String × String)
  /-- The check of `@IsDateString()`. -/
  isDateString : String → Bool
  /-- `new Date(text)`, in seconds; `none` is the invalid date. -/
  date : String → Option Nat
  /-- `new RegExp(pattern, 'i')`, as the texts it matches; `none` where it throws or the driver
  cannot send it, as with a U+0000. -/
  regExp : String → Option (String → Bool)
  /-- A text is read as a number of ECMAScript. -/
  number_held : ∀ {text : String} {q : ℚ}, number text = .finite q → JsNumber.Held q
  /-- A number is written so that it is read back; stated where its digits reach to the units. -/
  number_numberText : ∀ {q : ℚ}, JsNumber.Held q → 1 ≤ q → q ≤ 2 ^ 53 →
    number (numberText (.finite q)) = .finite q
  /-- So is every number that has been read. -/
  number_converted : ∀ text, number (numberText (number text)) = number text
  number_trim : ∀ text, number (trim text) = number text
  parseQuery_nodup : ∀ text, ((parseQuery text).map Prod.fst).Nodup
  parseQuery_length : ∀ text, (parseQuery text).length ≤ parameterLimit
  /-- The parser reads what `URLSearchParams` writes, as far as its limit goes.  (A name in
  brackets stands for a part of a parameter, so that the names are ones it has read.) -/
  parseQuery_urlEncode : ∀ {params : List (String × String)}, (params.map Prod.fst).Nodup →
    (∀ name ∈ params.map Prod.fst, name = "page" ∨ name = "perPage" ∨
      ∃ text, name ∈ (parseQuery text).map Prod.fst) →
    ∀ name, (parseQuery (urlEncode params)).lookup name =
      (params.take parameterLimit).lookup name

/-- The page numbers that are counted exactly are written and read back. -/
theorem Web.number_numberText_natCast (W : Web) {n : Nat} (hn : 1 ≤ n) (hsafe : n ≤ 2 ^ 53) :
    W.number (W.numberText (.finite n)) = .finite n :=
  W.number_numberText (JsNumber.held_natCast hsafe) (by exact_mod_cast hn)
    (by exact_mod_cast hsafe)

/-- What follows the first question mark. -/
def afterQuery (text : String) : String :=
  String.ofList ((text.toList.dropWhile (· ≠ '?')).drop 1)

/-- The URL a request was made with. -/
def Request.baseUrl (req : Request) : String := req.protocol ++ "://" ++ req.host ++ req.originalUrl

/-- A character of a protocol. -/
def inProtocol (c : Char) : Bool := c ≠ ':' ∧ c ≠ '?'

/-- A character of a host with its port. -/
def inHost (c : Char) : Bool := c ≠ '/' ∧ c ≠ '?'

/-- The request a client makes to a URL. -/
def Web.requestTo (W : Web) (url : String) : Option Request :=
  match url.toList.dropWhile inProtocol with
  | ':' :: '/' :: '/' :: rest =>
      let originalUrl := String.ofList (rest.dropWhile inHost)
      some
        { protocol := String.ofList (url.toList.takeWhile inProtocol)
          host := String.ofList (rest.takeWhile inHost)
          originalUrl := originalUrl
          query := W.parseQuery (afterQuery originalUrl) }
  | _ => none

/-! ## The URL of a link -/

theorem takeWhile_append_cons {α : Type} {p : α → Bool} {l r : List α} {a : α}
    (hl : ∀ b ∈ l, p b = true) (ha : p a = false) : (l ++ a :: r).takeWhile p = l := by
  rw [List.takeWhile_append_of_pos hl, List.takeWhile_cons_of_neg (by simp [ha]), List.append_nil]

theorem dropWhile_append_cons {α : Type} {p : α → Bool} {l r : List α} {a : α}
    (hl : ∀ b ∈ l, p b = true) (ha : p a = false) : (l ++ a :: r).dropWhile p = a :: r := by
  rw [List.dropWhile_append_of_pos hl, List.dropWhile_cons_of_neg (by simp [ha])]

theorem toList_beforeQuery (text : String) :
    (beforeQuery text).toList = text.toList.takeWhile (· ≠ '?') := by
  rw [beforeQuery, String.toList_ofList]

/-- There is no question mark in front of the first one. -/
theorem mem_beforeQuery {text : String} :
    ∀ c ∈ (beforeQuery text).toList, (decide (c ≠ '?')) = true := by
  intro c hc
  rw [toList_beforeQuery] at hc
  exact List.mem_takeWhile_imp (p := (· ≠ '?')) hc

@[simp] theorem beforeQuery_append (text query : String) :
    beforeQuery (beforeQuery text ++ "?" ++ query) = beforeQuery text := by
  rw [← String.toList_inj, toList_beforeQuery, String.toList_append, String.toList_append,
    List.append_assoc]
  exact takeWhile_append_cons mem_beforeQuery rfl

@[simp] theorem afterQuery_append (text query : String) :
    afterQuery (beforeQuery text ++ "?" ++ query) = query := by
  rw [afterQuery, String.toList_append, String.toList_append, List.append_assoc]
  have hdrop : ((beforeQuery text).toList ++ ("?".toList ++ query.toList)).dropWhile (· ≠ '?') =
      '?' :: query.toList := dropWhile_append_cons mem_beforeQuery rfl
  rw [hdrop, List.drop_one, List.tail_cons, String.ofList_toList]

/-- The URL of a request is cut into what it is made of. -/
structure Request.Cut (req : Request) : Prop where
  protocol : ∀ c ∈ req.protocol.toList, inProtocol c = true
  host : ∀ c ∈ req.host.toList, inHost c = true
  originalUrl : req.originalUrl.toList.takeWhile inHost = []

theorem requestTo_baseUrl {W : Web} {req : Request} (h : req.Cut) :
    W.requestTo req.baseUrl =
      some { req with query := W.parseQuery (afterQuery req.originalUrl) } := by
  have hurl : req.baseUrl.toList =
      req.protocol.toList ++ ':' :: '/' :: '/' :: (req.host.toList ++ req.originalUrl.toList) := by
    simp [Request.baseUrl]
  have hhost : (req.host.toList ++ req.originalUrl.toList).takeWhile inHost = req.host.toList := by
    rw [List.takeWhile_append_of_pos h.host, h.originalUrl, List.append_nil]
  have horiginal : (req.host.toList ++ req.originalUrl.toList).dropWhile inHost =
      req.originalUrl.toList := by
    have hdrop := List.takeWhile_append_dropWhile (p := inHost) (l := req.originalUrl.toList)
    rw [h.originalUrl, List.nil_append] at hdrop
    rw [List.dropWhile_append_of_pos h.host, hdrop]
  unfold Web.requestTo
  rw [hurl, dropWhile_append_cons h.protocol rfl, takeWhile_append_cons h.protocol rfl]
  simp only [hhost, horiginal, String.ofList_toList]

theorem Web.requestTo_cut {W : Web} {url : String} {req : Request}
    (h : W.requestTo url = some req) :
    req.Cut ∧ req.query = W.parseQuery (afterQuery req.originalUrl) := by
  unfold Web.requestTo at h
  split at h
  next rest heq =>
    cases h
    refine ⟨⟨?_, ?_, ?_⟩, rfl⟩
    · intro c hc
      rw [String.toList_ofList] at hc
      exact List.mem_takeWhile_imp hc
    · intro c hc
      rw [String.toList_ofList] at hc
      exact List.mem_takeWhile_imp hc
    · rw [String.toList_ofList, List.takeWhile_eq_nil_iff]
      exact List.dropWhile_get_zero_not inHost rest
  next => cases h

/-- The URL of a request is cut at the question mark of its path. -/
theorem beforeQuery_baseUrl {req : Request} (hprotocol : '?' ∉ req.protocol.toList)
    (hhost : '?' ∉ req.host.toList) :
    beforeQuery req.baseUrl = req.protocol ++ "://" ++ req.host ++ req.path := by
  have unmarked : ∀ {l : List Char}, '?' ∉ l → ∀ c ∈ l, decide (c ≠ '?') = true :=
    fun hl c hc => decide_eq_true (ne_of_mem_of_not_mem hc hl)
  have hseparator : '?' ∉ "://".toList := by decide
  rw [← String.toList_inj, toList_beforeQuery]
  simp only [Request.baseUrl, Request.path, String.toList_append, toList_beforeQuery,
    List.append_assoc]
  rw [List.takeWhile_append_of_pos (unmarked hprotocol),
    List.takeWhile_append_of_pos (unmarked hseparator),
    List.takeWhile_append_of_pos (unmarked hhost)]

theorem Request.Cut.beforeQuery_baseUrl {req : Request} (h : req.Cut) :
    beforeQuery req.baseUrl = req.protocol ++ "://" ++ req.host ++ req.path := by
  refine VoltFleet.beforeQuery_baseUrl (fun hc => ?_) fun hc => ?_
  · exact absurd (h.protocol _ hc) (by decide)
  · exact absurd (h.host _ hc) (by decide)

/-- Following a link leads to the path of the request it was sent for, with the query of the
link. -/
theorem requestTo_link {W : Web} {url : String} {req : Request}
    (h : W.requestTo url = some req) (query : String) :
    W.requestTo (beforeQuery req.baseUrl ++ "?" ++ query) =
      some { req with originalUrl := req.path ++ "?" ++ query, query := W.parseQuery query } := by
  obtain ⟨hcut, -⟩ := W.requestTo_cut h
  have hpath : (req.path ++ "?" ++ query).toList.takeWhile inHost = [] := by
    rw [String.toList_append, String.toList_append, Request.path, toList_beforeQuery]
    have horiginal := hcut.originalUrl
    cases hl : req.originalUrl.toList with
    | nil => rfl
    | cons c l =>
      rw [hl] at horiginal
      have hc : inHost c ≠ true := by
        intro hc
        rw [List.takeWhile_cons_of_pos hc] at horiginal
        cases horiginal
      by_cases hmark : c = '?'
      · subst hmark
        rfl
      · rw [List.takeWhile_cons_of_pos (by simpa using hmark)]
        exact List.takeWhile_cons_of_neg hc
  have hcut' : Request.Cut { req with originalUrl := req.path ++ "?" ++ query } :=
    ⟨hcut.protocol, hcut.host, hpath⟩
  have hurl : beforeQuery req.baseUrl ++ "?" ++ query =
      Request.baseUrl { req with originalUrl := req.path ++ "?" ++ query } := by
    rw [hcut.beforeQuery_baseUrl]
    simp only [Request.baseUrl, String.append_assoc]
  rw [hurl, requestTo_baseUrl hcut']
  simp only [Request.path, afterQuery_append]

end VoltFleet
