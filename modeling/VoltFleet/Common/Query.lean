import Mathlib.Data.List.DropRight
import VoltFleet.Common.Pagination

/-!
# Query strings

The parameters of a request by name, `String.prototype.trim`, and what the links
of `generatePagination` carry.  A parameter that is given several times or with
brackets is an array or an object in `req.query`; it is kept by its text, which
is what `URLSearchParams`, `Number` and a template literal make of it.
-/

namespace VoltFleet

/-- `req.query[name]`. -/
def Request.param (req : Request) (name : String) : Option String := req.query.lookup name

/-- The path of the URL. -/
def Request.path (req : Request) : String := beforeQuery req.originalUrl

/-! ## `trim` -/

/-- The white space and the line terminators of ECMAScript. -/
def isBlank (c : Char) : Bool :=
  let n := c.toNat
  (9 ≤ n ∧ n ≤ 13) ∨ (0x2000 ≤ n ∧ n ≤ 0x200A) ∨
    n ∈ [0x20, 0xA0, 0x1680, 0x2028, 0x2029, 0x202F, 0x205F, 0x3000, 0xFEFF]

/-- `text.trim()`. -/
def trim (text : String) : String :=
  String.ofList ((text.toList.dropWhile isBlank).rdropWhile isBlank)

/-- What is cut at both ends has nothing left to cut in front. -/
theorem dropWhile_rdropWhile {α : Type} (p : α → Bool) (l : List α) :
    ((l.dropWhile p).rdropWhile p).dropWhile p = (l.dropWhile p).rdropWhile p := by
  rw [List.dropWhile_eq_self_iff]
  intro hl
  have hprefix : (l.dropWhile p).rdropWhile p <+: l.dropWhile p := List.rdropWhile_prefix p _
  have hpos : 0 < (l.dropWhile p).length := Nat.lt_of_lt_of_le hl hprefix.length_le
  rw [List.IsPrefix.getElem hprefix hl]
  exact List.dropWhile_get_zero_not p l hpos

@[simp] theorem trim_trim (text : String) : trim (trim text) = trim text := by
  unfold trim
  rw [String.toList_ofList, dropWhile_rdropWhile, List.rdropWhile_idempotent]

/-- A text with no white space at its ends. -/
def Bare (text : String) : Prop :=
  (∀ c ∈ text.toList.head?, isBlank c = false) ∧ ∀ c ∈ text.toList.getLast?, isBlank c = false

theorem bare_trim (text : String) : Bare (trim text) := by
  unfold trim
  constructor
  · rw [String.toList_ofList, ← dropWhile_rdropWhile]
    intro c hc
    have hhead := List.head?_dropWhile_not isBlank
      ((text.toList.dropWhile isBlank).rdropWhile isBlank)
    rw [Option.mem_def.mp hc] at hhead
    exact hhead
  · rw [String.toList_ofList]
    intro c hc
    obtain ⟨hne, hlast⟩ := List.mem_getLast?_eq_getLast hc
    rw [hlast]
    exact Bool.eq_false_iff.mpr (List.rdropWhile_last_not isBlank _ hne)

/-! ## `URLSearchParams.set` -/

section

variable {name other value value' : String} {params : List (String × String)}

theorem setParam_cons_self :
    setParam name value ((name, value') :: params) =
      (name, value) :: params.filter (·.1 ≠ name) := by
  rw [setParam, if_pos rfl]

theorem setParam_cons_of_ne (hne : other ≠ name) :
    setParam name value ((other, value') :: params) =
      (other, value') :: setParam name value params := by
  rw [setParam, if_neg hne]

theorem lookup_cons_of_ne (hne : name ≠ other) :
    ((other, value) :: params).lookup name = params.lookup name := by
  rw [List.lookup_cons, beq_false_of_ne hne]

/-- A parameter that is there once is read. -/
theorem lookup_of_filter (h : params.filter (·.1 = name) = [(name, value)]) :
    params.lookup name = some value := by
  induction params with
  | nil => cases h
  | cons p params ih =>
    obtain ⟨n, v⟩ := p
    by_cases hn : n = name
    · subst hn
      rw [List.filter_cons_of_pos (by simp), List.cons.injEq, Prod.mk.injEq] at h
      rw [List.lookup_cons_self, h.1.2]
    · rw [List.filter_cons_of_neg (by simp [hn])] at h
      rw [lookup_cons_of_ne (Ne.symm hn), ih h]

@[simp] theorem mem_names_setParam :
    other ∈ (setParam name value params).map Prod.fst ↔
      other = name ∨ other ∈ params.map Prod.fst := by
  induction params with
  | nil => simp [setParam]
  | cons p params ih =>
    rw [setParam]
    split
    next heq => by_cases hother : other = name <;> simp [heq, hother]
    next hne =>
      rw [List.map_cons, List.map_cons, List.mem_cons, List.mem_cons, ih]
      exact or_left_comm

theorem length_setParam_le : (setParam name value params).length ≤ params.length + 1 := by
  induction params with
  | nil => exact le_rfl
  | cons p params ih =>
    rw [setParam]
    split
    · exact Nat.succ_le_succ (Nat.le_succ_of_le (List.length_filter_le _ _))
    · exact Nat.succ_le_succ ih

theorem nodup_setParam (h : (params.map Prod.fst).Nodup) :
    ((setParam name value params).map Prod.fst).Nodup := by
  induction params with
  | nil => simp [setParam]
  | cons p params ih =>
    obtain ⟨hp, hparams⟩ := List.nodup_cons.mp h
    rw [setParam]
    split
    next heq =>
      refine List.nodup_cons.mpr ⟨by simp, ?_⟩
      exact hparams.sublist (List.filter_sublist.map _)
    next hne =>
      refine List.nodup_cons.mpr ⟨?_, ih hparams⟩
      rw [mem_names_setParam, not_or]
      exact ⟨hne, hp⟩

/-- A parameter that is set twice has its last value. -/
theorem setParam_setParam :
    setParam name value' (setParam name value params) = setParam name value' params := by
  induction params with
  | nil => simp [setParam]
  | cons p params ih =>
    by_cases hp : p.1 = name
    · simp [setParam, hp, List.filter_filter]
    · simp only [setParam, if_neg hp, ih]

theorem filter_setParam (hne : name ≠ other) :
    (setParam name value params).filter (·.1 ≠ other) =
      setParam name value (params.filter (·.1 ≠ other)) := by
  induction params with
  | nil => simp [setParam, hne]
  | cons p params ih =>
    obtain ⟨n, v⟩ := p
    by_cases hn : n = name
    · subst hn
      simp [setParam, hne, List.filter_filter, Bool.and_comm]
    · rw [setParam_cons_of_ne hn]
      by_cases ho : n = other
      · rw [List.filter_cons_of_neg (by simp [ho]), List.filter_cons_of_neg (by simp [ho]), ih]
      · rw [List.filter_cons_of_pos (by simp [ho]), List.filter_cons_of_pos (by simp [ho]), ih,
          setParam_cons_of_ne hn]

/-- What is read of the other parameters only is the same as before. -/
theorem filter_setParam_of_not {p : String → Bool} (h : p name = false) :
    (setParam name value params).filter (fun q => p q.1) = params.filter fun q => p q.1 := by
  induction params with
  | nil => simp [setParam, h]
  | cons q params ih =>
    obtain ⟨n, v⟩ := q
    by_cases hn : n = name
    · subst hn
      rw [setParam_cons_self, List.filter_cons_of_neg (by simp [h]),
        List.filter_cons_of_neg (by simp [h]), List.filter_filter]
      refine List.filter_congr fun q _ => ?_
      by_cases hq : q.1 = n <;> simp [hq, h]
    · rw [setParam_cons_of_ne hn, List.filter_cons, List.filter_cons, ih]

/-- The parameter that is set is there once. -/
theorem filter_setParam_self :
    (setParam name value params).filter (·.1 = name) = [(name, value)] := by
  induction params with
  | nil => simp [setParam]
  | cons q params ih =>
    obtain ⟨n, v⟩ := q
    by_cases hn : n = name
    · subst hn
      simp [setParam_cons_self, List.filter_filter]
    · rw [setParam_cons_of_ne hn, List.filter_cons_of_neg (by simp [hn]), ih]

/-- A parameter that is there keeps its place, so that it can be set before another
one. -/
theorem setParam_comm (hne : name ≠ other) (hmem : name ∈ params.map Prod.fst) :
    setParam name value (setParam other value' params) =
      setParam other value' (setParam name value params) := by
  induction params with
  | nil => cases hmem
  | cons p params ih =>
    obtain ⟨n, v⟩ := p
    by_cases hn : n = name
    · subst hn
      have hfilter : (setParam other value' params).filter (·.1 ≠ n) =
          setParam other value' (params.filter (·.1 ≠ n)) := filter_setParam (Ne.symm hne)
      simpa [setParam, hne] using hfilter
    · have hmem' : name ∈ params.map Prod.fst :=
        (List.mem_cons.mp hmem).resolve_left (Ne.symm hn)
      by_cases ho : n = other
      · subst ho
        have hfilter : (setParam name value params).filter (·.1 ≠ n) =
            setParam name value (params.filter (·.1 ≠ n)) := filter_setParam hne
        simpa [setParam, hn, Ne.symm hne] using hfilter.symm
      · simpa [setParam, hn, ho] using ih hmem'

/-! The parser reads only so many parameters. -/

variable {limit : Nat}

theorem lookup_take_setParam_of_ne (h : (params.map Prod.fst).Nodup) (hne : other ≠ name) :
    ((setParam name value params).take limit).lookup other =
      (params.take limit).lookup other := by
  induction params generalizing limit with
  | nil =>
    cases limit with
    | zero => rfl
    | succ limit => simp [setParam, hne]
  | cons p params ih =>
    obtain ⟨n, v⟩ := p
    obtain ⟨hn, hparams⟩ := List.nodup_cons.mp h
    cases limit with
    | zero => simp
    | succ limit =>
      by_cases heq : n = name
      · subst heq
        have hfilter : params.filter (·.1 ≠ n) = params := by
          refine List.filter_eq_self.mpr fun q hq => decide_eq_true ?_
          intro hqn
          exact hn (List.mem_map.mpr ⟨q, hq, hqn⟩)
        rw [setParam_cons_self, hfilter, List.take_succ_cons, List.take_succ_cons,
          lookup_cons_of_ne hne, lookup_cons_of_ne hne]
      · rw [setParam_cons_of_ne heq, List.take_succ_cons, List.take_succ_cons, List.lookup_cons,
          List.lookup_cons, ih hparams]

/-- The value that is set is read unless the parameter is beyond the limit. -/
theorem lookup_take_setParam_self :
    ((setParam name value params).take limit).lookup name =
      if (params.take limit).lookup name ≠ none ∨
          (params.lookup name = none ∧ params.length < limit) then some value else none := by
  induction params generalizing limit with
  | nil => cases limit <;> simp [setParam]
  | cons p params ih =>
    obtain ⟨n, v⟩ := p
    cases limit with
    | zero => simp
    | succ limit =>
      by_cases heq : n = name
      · simp [setParam, heq]
      · rw [setParam_cons_of_ne heq, List.take_succ_cons, List.take_succ_cons,
          lookup_cons_of_ne (Ne.symm heq), lookup_cons_of_ne (Ne.symm heq),
          lookup_cons_of_ne (Ne.symm heq), ih]
        simp only [List.length_cons, Nat.add_lt_add_iff_right]

end

/-- The parameters of a link to a page. -/
def linkParams (page perPage : String) (query : List (String × String)) :
    List (String × String) :=
  setParam "perPage" perPage (setParam "page" page query)

section

variable {page perPage page' : String} {query : List (String × String)}

/-- The link to the next page is built from the one to the page before. -/
theorem setParam_linkParams :
    setParam "page" page' (linkParams page perPage query) = linkParams page' perPage query := by
  have hmem : "page" ∈ (setParam "page" page query).map Prod.fst :=
    mem_names_setParam.mpr (.inl rfl)
  unfold linkParams
  rw [setParam_comm (by decide) hmem, setParam_setParam]

/-- Of a link to a page the links are those of the request. -/
theorem linkParams_linkParams {perPage' : String} :
    linkParams page' perPage' (linkParams page perPage query) =
      linkParams page' perPage' query := by
  rw [linkParams, setParam_linkParams, linkParams, setParam_setParam, ← linkParams]

theorem nodup_linkParams (h : (query.map Prod.fst).Nodup) :
    ((linkParams page perPage query).map Prod.fst).Nodup :=
  nodup_setParam (nodup_setParam h)

theorem mem_names_linkParams {name : String} :
    name ∈ (linkParams page perPage query).map Prod.fst ↔
      name = "perPage" ∨ name = "page" ∨ name ∈ query.map Prod.fst := by
  rw [linkParams, mem_names_setParam, mem_names_setParam]

variable {limit : Nat}

/-- Every parameter but the two is carried over. -/
theorem lookup_linkParams_of_ne (h : (query.map Prod.fst).Nodup) (hlimit : query.length ≤ limit)
    {name : String} (hpage : name ≠ "page") (hperPage : name ≠ "perPage") :
    ((linkParams page perPage query).take limit).lookup name = query.lookup name := by
  rw [linkParams, lookup_take_setParam_of_ne (nodup_setParam h) hperPage,
    lookup_take_setParam_of_ne h hpage, List.take_of_length_le hlimit]

/-- The page of a link is read unless it is one parameter too many. -/
theorem lookup_linkParams_page (h : (query.map Prod.fst).Nodup) (hlimit : query.length ≤ limit) :
    ((linkParams page perPage query).take limit).lookup "page" =
      if query.lookup "page" ≠ none ∨ query.length < limit then some page else none := by
  rw [linkParams, lookup_take_setParam_of_ne (nodup_setParam h) (by decide),
    lookup_take_setParam_self, List.take_of_length_le hlimit]
  by_cases hquery : query.lookup "page" = none <;> simp [hquery]

/-- The page size of a link is read unless it is one parameter too many. -/
theorem lookup_linkParams_perPage (h : (query.map Prod.fst).Nodup)
    (hlimit : query.length ≤ limit) :
    ((linkParams page perPage query).take limit).lookup "perPage" =
      if query.lookup "perPage" ≠ none ∨ (setParam "page" page query).length < limit then
        some perPage else none := by
  have hlookup : (setParam "page" page query).lookup "perPage" = query.lookup "perPage" := by
    have hne : ((setParam "page" page query).take (query.length + 1)).lookup "perPage" =
        (query.take (query.length + 1)).lookup "perPage" :=
      lookup_take_setParam_of_ne h (by decide)
    rwa [List.take_of_length_le length_setParam_le,
      List.take_of_length_le (Nat.le_succ _)] at hne
  rw [linkParams, lookup_take_setParam_self, lookup_take_setParam_of_ne h (by decide),
    List.take_of_length_le hlimit, hlookup]
  by_cases hquery : query.lookup "perPage" = none <;> simp [hquery]

end

end VoltFleet
