import VoltFleet.Auth.Proofs.Partition
import VoltFleet.Misc.Like

/-!
# What a search finds

The search text is put between percent signs as it is, so that its own percent
signs, underscores and backslashes are read as parts of the pattern.
-/

namespace VoltFleet

open Awaiting

/-- `ILIKE` compares the lower-case forms of the characters, in texts that the database takes; what
it refuses is never compared. -/
structure Platform.Ilike (P : Platform) (fold : Char → Char) : Prop where
  keeps : Like.KeepsSpecial fold
  ilike : ∀ pattern text, P.ilike pattern text =
    Like.like (pattern.toList.map fold) (text.toList.map fold)

/-- The text contains the search text, ignoring case. -/
def containsFolded (fold : Char → Char) (search text : String) : Bool :=
  search.toList.map fold <:+: text.toList.map fold

theorem ilike_iff {P : Platform} {fold : Char → Char} (h : P.Ilike fold) (search text : String) :
    P.ilike ("%" ++ search ++ "%") text = true ↔
      Like.like (('%' :: search.toList ++ ['%']).map fold) (text.toList.map fold) = true := by
  have hpattern : ("%" ++ search ++ "%").toList = '%' :: search.toList ++ ['%'] := by
    rw [String.toList_append, String.toList_append]
    rfl
  rw [h.ilike, hpattern]

namespace AuthList

/-- What is sent of the rows that contain the search text. -/
def containing (fold : Char → Char) (s : Store) (search : String) (list : AuthList) :
    List list.Row :=
  ((list.rows s).filter fun row => containsFolded fold search (list.column row)).map list.sent

section

variable (P : Platform) (s : Store) (requests : PageRequests P) (perPage search : Option String)
  (list : AuthList)

/-- The first page and those up to `totalPages` count and list these rows. -/
def Lists (rows : List list.Row) : Prop :=
  ∃ (n m : Nat) (r : Nat → PaginationResult list.Row),
    (∀ p, 1 ≤ p → p ≤ max m 1 → list.answer P s requests perPage search p = .ok (r p) ∧
      (r p).pagination.totalItems = n ∧ (r p).pagination.totalPages = .finite (m : ℚ)) ∧
    n = rows.length ∧ ((List.range m).flatMap fun i => (r (i + 1)).data).Perm rows

end

variable {P : Platform} {s : Store} {requests : PageRequests P} {perPage search : Option String}
  {list : AuthList}

/-- What the answers count and list are the rows that match. -/
theorem lists_matching {k : Nat} (hk : 1 ≤ k) (hperPage : (P.param perPage 10).value = .finite k)
    (htakes : P.takesCount k = true) (hsearch : P.TakesSearch search)
    (hrows : (list.matching P s search).length ≤ JsNumber.maxSafeInteger) :
    list.Lists P s requests perPage search (list.matching P s search) ∧
      ∀ rows, list.Lists P s requests perPage search rows →
        (list.matching P s search).Perm rows := by
  rw [← length_sorted] at hrows
  have hanswer : ∀ p, 1 ≤ p → p ≤ max (Pages.count k (list.sorted P s search).length) 1 →
      ∃ r, list.answer P s requests perPage search p = .ok r ∧
        IsPage k p (list.sorted P s search) r := by
    intro p hp hlast
    have hsafe : p ≤ JsNumber.maxSafeInteger :=
      hlast.trans (max_le (count_le_safe hk hrows) (by decide))
    obtain ⟨r, hr, hpage⟩ : ∃ r, listing P (P.param (requests.page p) 1) (P.param perPage 10)
        (requests.req p) (list.sorted P s search) = .ok r ∧ _ :=
      exists_page (requests.reads p (requests.asks p hp hsafe)) hperPage hp hk hrows
        (takesCount_skipped hp hk hrows hlast) htakes
    exact ⟨r, answer_eq_ok.mpr ⟨hsearch, hr⟩, hpage⟩
  obtain ⟨r₁, -⟩ := hanswer 1 le_rfl (Nat.le_max_right _ _)
  have hresult : Nonempty (PaginationResult list.Row) := ⟨r₁⟩
  choose! r hr using hanswer
  have hlisted : ∀ p, 1 ≤ p → p ≤ Pages.count k (list.sorted P s search).length →
      IsPage k p (list.sorted P s search) (r p) :=
    fun p hp hlast => (hr p hp (hlast.trans (Nat.le_max_left _ _))).2
  constructor
  · refine ⟨(list.sorted P s search).length, _, r, fun p hp hlast => ⟨(hr p hp hlast).1,
      (hr p hp hlast).2.totalItems, (hr p hp hlast).2.totalPages⟩, length_sorted, ?_⟩
    rw [flatMap_isPage hk hlisted]
    exact sorted_perm
  · intro rows hlists
    obtain ⟨n, m, r', hanswers, -, hperm⟩ := hlists
    have hsame : ∀ p, 1 ≤ p → p ≤ max m 1 →
        p ≤ max (Pages.count k (list.sorted P s search).length) 1 → r' p = r p := by
      intro p hp hlast' hlast
      have hok := (hanswers p hp hlast').1
      rw [(hr p hp hlast).1] at hok
      exact (Except.ok.inj hok).symm
    have hm : m = Pages.count k (list.sorted P s search).length := by
      have htotal := (hanswers 1 le_rfl (Nat.le_max_right _ _)).2.2
      rw [hsame 1 le_rfl (Nat.le_max_right _ _) (Nat.le_max_right _ _),
        (hr 1 le_rfl (Nat.le_max_right _ _)).2.totalPages] at htotal
      exact_mod_cast (JsNumber.finite.inj htotal).symm
    have hdata : ∀ i ∈ List.range m, (r' (i + 1)).data = (r (i + 1)).data := by
      intro i hi
      have hlast : i + 1 ≤ max m 1 := (List.mem_range.mp hi).trans_le (Nat.le_max_left _ _)
      rw [hsame (i + 1) (Nat.le_add_left 1 i) hlast (hm ▸ hlast)]
    rw [List.flatMap_congr hdata, hm, flatMap_isPage hk hlisted] at hperm
    exact sorted_perm.symm.trans hperm

/-- The table with one row, which has this text in the unique column. -/
def oneRow (text : String) : AuthList → Store
  | .getAllUsers =>
      { Store.empty with users := .single (.ofNat 1) ⟨"", "", text, ⟨""⟩, .ACTIVE, true, none⟩ }
  | .getAllRoles => { Store.empty with roles := .single (.ofNat 1) ⟨text, none, []⟩ }
  | .getAllPrivileges => { Store.empty with privileges := .single (.ofNat 1) ⟨text, none⟩ }

theorem rows_oneRow (text : String) (list : AuthList) :
    ∃ row, list.rows (list.oneRow text) = [row] ∧ list.column row = text := by
  cases list with
  | getAllUsers => exact ⟨_, rfl, rfl⟩
  | getAllRoles => exact ⟨_, rfl, rfl⟩
  | getAllPrivileges => exact ⟨_, rfl, rfl⟩

/-- A list of one row that is kept under two conditions. -/
theorem filter_singleton_perm_iff {α β : Type} {p q : α → Bool} {f : α → β} {a : α} :
    (([a].filter p).map f).Perm (([a].filter q).map f) ↔ (p a = true ↔ q a = true) := by
  cases hp : p a <;> cases hq : q a <;> simp [hp, hq]

theorem matching_eq {search : String} (hsearch : search ≠ "") :
    list.matching P s (some search) = ((list.rows s).filter fun row =>
      P.ilike ("%" ++ search ++ "%") (list.column row)).map list.sent := by
  rw [matching, searchBy, if_neg hsearch]

theorem length_matching_le : (list.matching P s search).length ≤ (list.rows s).length := by
  rw [matching, List.length_map]
  cases search with
  | none => exact le_rfl
  | some text =>
    by_cases htext : text = ""
    · rw [searchBy, if_pos htext]
    · rw [searchBy, if_neg htext]
      exact List.length_filter_le _ _

/-- A search finds the rows that contain its text, for every content of the table, exactly if the
database takes the text and it has no percent sign, no underscore and no backslash in it. -/
theorem search_iff {fold : Char → Char} (hilike : P.Ilike fold) {k : Nat} (hk : 1 ≤ k)
    (hperPage : (P.param perPage 10).value = .finite k) (htakes : P.takesCount k = true)
    {search : String} (hsearch : search ≠ "") :
    (∀ s, (list.rows s).length ≤ JsNumber.maxSafeInteger →
        list.Lists P s requests perPage (some search) (list.containing fold s search)) ↔
      P.takesText search = true ∧ ∀ c ∈ search.toList, Like.isSpecial c = false := by
  have htaken : P.TakesSearch (some search) ↔ P.takesText search = true := by
    constructor
    · exact fun h => h search rfl hsearch
    · rintro h text htext -
      cases htext
      exact h
  have hlists : P.takesText search = true → ∀ s, (list.rows s).length ≤ JsNumber.maxSafeInteger →
      (list.Lists P s requests perPage (some search) (list.containing fold s search) ↔
        (list.matching P s (some search)).Perm (list.containing fold s search)) := by
    intro htext s hrows
    have hmatching : list.Lists P s requests perPage (some search)
        (list.matching P s (some search)) ∧ ∀ rows,
          list.Lists P s requests perPage (some search) rows →
            (list.matching P s (some search)).Perm rows :=
      lists_matching hk hperPage htakes (htaken.mpr htext) (length_matching_le.trans hrows)
    constructor
    · exact hmatching.2 _
    · intro hperm
      obtain ⟨n, m, r, hanswers, hn, hdata⟩ := hmatching.1
      exact ⟨n, m, r, hanswers, hn.trans hperm.length_eq, hdata.trans hperm⟩
  have hone : ∀ text, (list.rows (list.oneRow text)).length ≤ JsNumber.maxSafeInteger := by
    intro text
    obtain ⟨row, hrows, -⟩ := rows_oneRow text list
    rw [hrows]
    exact show 1 ≤ JsNumber.maxSafeInteger by decide
  have hfiller : 'x' ≠ '_' := by decide
  rw [← Like.like_fold_iff hilike.keeps hfiller]
  constructor
  · intro h
    have htext : P.takesText search = true := by
      obtain ⟨n, m, r, hanswers, -⟩ := h _ (hone search)
      have hfirst := (hanswers 1 le_rfl (Nat.le_max_right _ _)).1
      exact htaken.mp (answer_eq_ok.mp hfirst).1
    refine ⟨htext, fun t => ?_⟩
    obtain ⟨row, hrows, hcolumn⟩ := rows_oneRow (String.ofList t) list
    have hperm := (hlists htext _ (hone _)).mp (h (list.oneRow (String.ofList t)) (hone _))
    rw [matching_eq hsearch, containing, hrows, filter_singleton_perm_iff, hcolumn,
      ilike_iff hilike, String.toList_ofList] at hperm
    simpa [containsFolded] using hperm
  · intro h s hrows
    obtain ⟨htext, h⟩ := h
    refine (hlists htext s hrows).mpr ?_
    rw [matching_eq hsearch, containing]
    have hsame : ∀ row, P.ilike ("%" ++ search ++ "%") (list.column row) =
        containsFolded fold search (list.column row) := by
      intro row
      rw [Bool.eq_iff_iff, ilike_iff hilike, h]
      simp [containsFolded]
    simp only [hsame]
    exact .rfl

theorem not_special_of_toLower {c : Char} (h : Like.isSpecial c.toLower = true) :
    Like.isSpecial c = true := by
  by_cases hupper : c.val ≥ 'A'.val ∧ c.val ≤ 'Z'.val
  · exfalso
    have hval : c.toLower.val = c.val + ('a'.val - 'A'.val) := toLower_of_upper hupper
    simp only [Like.isSpecial, Bool.or_eq_true, decide_eq_true_eq] at h
    rcases h with (h | h) | h <;> rw [h] at hval <;> revert hupper hval <;> grind
  · rwa [toLower_of_not_upper hupper] at h

theorem ilike_plainWeb : Platform.plainWeb.Ilike Char.toLower where
  keeps :=
    { fixes := by
        intro c hc
        simp only [Like.isSpecial, Bool.or_eq_true, decide_eq_true_eq] at hc
        rcases hc with (rfl | rfl) | rfl <;> rfl
      only := fun _ => not_special_of_toLower }
  ilike _ _ := rfl

theorem search_iff_view :
    (∀ s, (AuthList.getAllPrivileges.rows s).length ≤ JsNumber.maxSafeInteger →
        AuthList.getAllPrivileges.Lists Platform.plainWeb s Web.plain.pageRequests none
          (some "view") (AuthList.getAllPrivileges.containing Char.toLower s "view")) ↔
      Platform.plainWeb.takesText "view" = true ∧
        ∀ c ∈ "view".toList, Like.isSpecial c = false :=
  search_iff ilike_plainWeb (show 1 ≤ 10 by decide) rfl (by decide) (by decide)

/-- The only privilege has no underscore in its name. -/
theorem search_underscore_not_found :
    ¬AuthList.getAllPrivileges.Lists Platform.plainWeb
      (AuthList.getAllPrivileges.oneRow "CREATE") Web.plain.pageRequests none (some "_")
      (AuthList.getAllPrivileges.containing Char.toLower
        (AuthList.getAllPrivileges.oneRow "CREATE") "_") := by
  intro h
  have hvalue : (Platform.plainWeb.param none 10).value = .finite ((10 : Nat) : ℚ) := rfl
  have htext : Platform.plainWeb.TakesSearch (some "_") := by
    rintro text htext -
    cases htext
    decide
  have hperm := (lists_matching (by decide) hvalue (by decide) htext (by decide +kernel)).2 _ h
  have hlength := hperm.length_eq
  revert hlength
  decide +kernel

end AuthList

end VoltFleet
