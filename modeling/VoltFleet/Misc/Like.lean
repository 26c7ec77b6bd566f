import Mathlib.Data.List.Infix

/-!
# Patterns of `LIKE`

A pattern is read as tokens: `%` stands for any text, `_` for any character, and a
backslash takes the next character as it is.  A text matches as a whole.
-/

namespace Like

/-- What a pattern is read as. -/
inductive Token where
  | many
  | one
  | char (c : Char)
  deriving DecidableEq

/-- Read a pattern.  (A backslash at the very end, which a database refuses, is a
character here.) -/
def tokens : List Char → List Token
  | [] => []
  | c :: p =>
      if c = '\\' then
        match p with
        | [] => [.char c]
        | d :: p => .char d :: tokens p
      else (if c = '%' then .many else if c = '_' then .one else .char c) :: tokens p

/-- The text matches the tokens. -/
def matchesTokens : List Token → List Char → Bool
  | [], t => t.isEmpty
  | .many :: p, t => t.tails.any (matchesTokens p)
  | .one :: p, t =>
      match t with
      | [] => false
      | _ :: t => matchesTokens p t
  | .char c :: p, t =>
      match t with
      | [] => false
      | d :: t => c = d && matchesTokens p t

/-- `text LIKE pattern`, the pattern first. -/
def like (pattern text : List Char) : Bool := matchesTokens (tokens pattern) text

/-- The characters with a meaning of their own. -/
def isSpecial (c : Char) : Bool := c = '%' || c = '_' || c = '\\'

section

variable {p : List Token} {t : List Char} {c : Char}

theorem matchesTokens_many : matchesTokens (.many :: p) t = true ↔
    ∃ u, u <:+ t ∧ matchesTokens p u = true := by
  simp [matchesTokens]

theorem matchesTokens_one : matchesTokens (.one :: p) t = true ↔
    ∃ d u, t = d :: u ∧ matchesTokens p u = true := by
  cases t with
  | nil => simp [matchesTokens]
  | cons d t => simp [matchesTokens]

theorem matchesTokens_char : matchesTokens (.char c :: p) t = true ↔
    ∃ u, t = c :: u ∧ matchesTokens p u = true := by
  cases t with
  | nil => simp [matchesTokens]
  | cons d t =>
    rw [matchesTokens, Bool.and_eq_true, decide_eq_true_eq]
    constructor
    · rintro ⟨rfl, h⟩
      exact ⟨t, rfl, h⟩
    · rintro ⟨u, heq, h⟩
      cases heq
      exact ⟨rfl, h⟩

end

/-! ## A text between percent signs -/

theorem tokens_percent (p : List Char) : tokens ('%' :: p) = .many :: tokens p := by
  rw [tokens.eq_def]
  rfl

theorem tokens_underscore (p : List Char) : tokens ('_' :: p) = .one :: tokens p := by
  rw [tokens.eq_def]
  rfl

theorem tokens_backslash (c : Char) (p : List Char) :
    tokens ('\\' :: c :: p) = .char c :: tokens p := by
  rw [tokens.eq_def]
  rfl

theorem tokens_of_not_special {c : Char} (h : isSpecial c = false) (p : List Char) :
    tokens (c :: p) = .char c :: tokens p := by
  simp only [isSpecial, Bool.or_eq_false_iff, decide_eq_false_iff_not] at h
  obtain ⟨⟨hpercent, hunderscore⟩, hbackslash⟩ := h
  rw [tokens.eq_def]
  dsimp only
  rw [if_neg hbackslash, if_neg hpercent, if_neg hunderscore]

/-- A pattern without special characters in front matches that text in front. -/
theorem matchesTokens_append {s q t : List Char} (h : ∀ c ∈ s, isSpecial c = false) :
    matchesTokens (tokens (s ++ q)) t = true ↔
      ∃ u, t = s ++ u ∧ matchesTokens (tokens q) u = true := by
  induction s generalizing t with
  | nil => simp
  | cons c s ih =>
    have hc : isSpecial c = false := h c List.mem_cons_self
    have hs : ∀ c ∈ s, isSpecial c = false := fun c hc => h c (List.mem_cons_of_mem _ hc)
    rw [List.cons_append, tokens_of_not_special hc, matchesTokens_char]
    constructor
    · rintro ⟨u, rfl, hu⟩
      obtain ⟨v, rfl, hv⟩ := (ih hs).mp hu
      exact ⟨v, rfl, hv⟩
    · rintro ⟨u, rfl, hu⟩
      exact ⟨s ++ u, rfl, (ih hs).mpr ⟨u, rfl, hu⟩⟩

theorem matchesTokens_tail (t : List Char) : matchesTokens (tokens ['%']) t = true := by
  rw [tokens_percent, matchesTokens_many]
  exact ⟨[], List.nil_suffix, rfl⟩

/-- Between percent signs, a text without special characters matches the texts it is a part of. -/
theorem like_infix {s t : List Char} (h : ∀ c ∈ s, isSpecial c = false) :
    like ('%' :: s ++ ['%']) t = true ↔ s <:+: t := by
  rw [like, List.cons_append, tokens_percent, matchesTokens_many]
  constructor
  · rintro ⟨u, ⟨front, rfl⟩, hu⟩
    obtain ⟨back, rfl, -⟩ := (matchesTokens_append h).mp hu
    exact ⟨front, back, List.append_assoc _ _ _⟩
  · rintro ⟨front, back, rfl⟩
    refine ⟨s ++ back, ⟨front, (List.append_assoc _ _ _).symm⟩, ?_⟩
    exact (matchesTokens_append h).mpr ⟨back, rfl, matchesTokens_tail back⟩

/-! ## A text that matches -/

/-- A text the tokens match, with a character to stand for any. -/
def sample (filler : Char) : List Token → List Char
  | [] => []
  | .many :: p => sample filler p
  | .one :: p => filler :: sample filler p
  | .char c :: p => c :: sample filler p

theorem matchesTokens_sample (filler : Char) (p : List Token) :
    matchesTokens p (sample filler p) = true := by
  induction p with
  | nil => rfl
  | cons token p ih =>
    cases token with
    | many => exact matchesTokens_many.mpr ⟨_, List.suffix_rfl, ih⟩
    | one => exact matchesTokens_one.mpr ⟨_, _, rfl, ih⟩
    | char c => exact matchesTokens_char.mpr ⟨_, rfl, ih⟩

/-- The four kinds of text a pattern can begin with. -/
theorem special_cases {motive : List Char → Prop} (nil : motive [])
    (percent : ∀ p, motive p → motive ('%' :: p)) (underscore : ∀ p, motive p → motive ('_' :: p))
    (backslash : motive ['\\']) (escaped : ∀ c p, motive p → motive ('\\' :: c :: p))
    (plain : ∀ c p, isSpecial c = false → motive p → motive (c :: p)) (p : List Char) :
    motive p := by
  induction hn : p.length using Nat.strong_induction_on generalizing p with
  | _ n ih =>
    subst hn
    cases p with
    | nil => exact nil
    | cons c p =>
      have hp : motive p := ih p.length (Nat.lt_succ_self _) p rfl
      cases hspecial : isSpecial c with
      | false => exact plain c p hspecial hp
      | true =>
        simp only [isSpecial, Bool.or_eq_true, decide_eq_true_eq] at hspecial
        rcases hspecial with (rfl | rfl) | rfl
        · exact percent p hp
        · exact underscore p hp
        · cases p with
          | nil => exact backslash
          | cons d p =>
            have hlt : p.length < ('\\' :: d :: p).length := by
              rw [List.length_cons, List.length_cons]
              omega
            exact escaped d p (ih p.length hlt p rfl)

/-- The sample of a text followed by a percent sign is no longer than the text. -/
theorem length_sample_le (filler : Char) (s : List Char) :
    (sample filler (tokens (s ++ ['%']))).length ≤ s.length := by
  induction s using special_cases with
  | nil => simp [tokens_percent, tokens, sample]
  | percent p ih =>
    rw [List.cons_append, tokens_percent, sample]
    exact Nat.le_succ_of_le ih
  | underscore p ih =>
    rw [List.cons_append, tokens_underscore, sample]
    exact Nat.succ_le_succ ih
  | backslash => simp [tokens_backslash, tokens, sample]
  | escaped c p ih =>
    rw [List.cons_append, List.cons_append, tokens_backslash, sample]
    exact Nat.le_succ_of_le (Nat.succ_le_succ ih)
  | plain c p hc ih =>
    rw [List.cons_append, tokens_of_not_special hc, sample]
    exact Nat.succ_le_succ ih

/-- It is the text itself only if there is nothing special in it. -/
theorem not_special_of_sample_eq {filler : Char} (hfiller : filler ≠ '_') {s : List Char}
    (h : sample filler (tokens (s ++ ['%'])) = s) : ∀ c ∈ s, isSpecial c = false := by
  induction s using special_cases with
  | nil => exact fun c hc => absurd hc List.not_mem_nil
  | percent p ih =>
    rw [List.cons_append, tokens_percent, sample] at h
    have hlength := length_sample_le filler p
    rw [h, List.length_cons] at hlength
    omega
  | underscore p ih =>
    rw [List.cons_append, tokens_underscore, sample] at h
    exact absurd (List.cons.inj h).1 hfiller
  | backslash =>
    rw [List.cons_append, List.nil_append, tokens_backslash] at h
    cases h
  | escaped c p ih =>
    rw [List.cons_append, List.cons_append, tokens_backslash, sample] at h
    have hlength := length_sample_le filler p
    rw [(List.cons.inj h).2, List.length_cons] at hlength
    omega
  | plain c p hc ih =>
    rw [List.cons_append, tokens_of_not_special hc, sample] at h
    intro d hd
    rcases List.mem_cons.mp hd with rfl | hd
    · exact hc
    · exact ih (List.cons.inj h).2 d hd

/-- A text with special characters in it is not a part of every text that it matches between
percent signs. -/
theorem exists_like_not_infix {filler : Char} (hfiller : filler ≠ '_') {s : List Char}
    (h : ∃ c ∈ s, isSpecial c = true) :
    like ('%' :: s ++ ['%']) (sample filler (tokens (s ++ ['%']))) = true ∧
      ¬s <:+: sample filler (tokens (s ++ ['%'])) := by
  constructor
  · rw [like, List.cons_append, tokens_percent]
    exact matchesTokens_many.mpr ⟨_, List.suffix_rfl, matchesTokens_sample filler _⟩
  · intro hinfix
    have hlength := length_sample_le filler s
    have heq : s = sample filler (tokens (s ++ ['%'])) := hinfix.eq_of_length_le hlength
    obtain ⟨c, hc, hspecial⟩ := h
    rw [not_special_of_sample_eq hfiller heq.symm c hc] at hspecial
    cases hspecial

/-! ## Texts compared by a form of their characters -/

/-- A form, such as lower case, that is that of a special character for these alone. -/
structure KeepsSpecial (fold : Char → Char) : Prop where
  fixes : ∀ c, isSpecial c = true → fold c = c
  only : ∀ c, isSpecial (fold c) = true → isSpecial c = true

section

variable {fold : Char → Char}

theorem KeepsSpecial.eq_iff (h : KeepsSpecial fold) {c : Char} :
    isSpecial (fold c) = isSpecial c := by
  cases hc : isSpecial c with
  | true => rw [h.fixes c hc, hc]
  | false => exact Bool.eq_false_iff.mpr fun hfold => by simp [h.only c hfold] at hc

theorem map_sample (h : KeepsSpecial fold) (filler : Char) (p : List Char) :
    (sample filler (tokens p)).map fold = sample (fold filler) (tokens (p.map fold)) := by
  have hpercent : fold '%' = '%' := h.fixes _ rfl
  have hunderscore : fold '_' = '_' := h.fixes _ rfl
  have hbackslash : fold '\\' = '\\' := h.fixes _ rfl
  induction p using special_cases with
  | nil => rfl
  | percent p ih => rw [List.map_cons, hpercent, tokens_percent, tokens_percent, sample, sample, ih]
  | underscore p ih =>
    rw [List.map_cons, hunderscore, tokens_underscore, tokens_underscore, sample, sample,
      List.map_cons, ih]
  | backslash =>
    rw [List.map_cons, hbackslash]
    show [fold '\\'] = ['\\']
    rw [hbackslash]
  | escaped c p ih =>
    rw [List.map_cons, List.map_cons, hbackslash, tokens_backslash, tokens_backslash, sample,
      sample, List.map_cons, ih]
  | plain c p hc ih =>
    rw [List.map_cons, tokens_of_not_special hc, tokens_of_not_special (h.eq_iff.trans hc), sample,
      sample, List.map_cons, ih]

/-- Without special characters, a pattern between percent signs finds the texts that contain it
in this form; with them, there is a text that it wrongly finds. -/
theorem like_fold_iff (h : KeepsSpecial fold) {filler : Char} (hfiller : filler ≠ '_')
    {s : List Char} :
    (∀ t : List Char, like (('%' :: s ++ ['%']).map fold) (t.map fold) = true ↔
        s.map fold <:+: t.map fold) ↔
      ∀ c ∈ s, isSpecial c = false := by
  have hpattern : ('%' :: s ++ ['%']).map fold = '%' :: s.map fold ++ ['%'] := by
    simp [h.fixes '%' rfl]
  rw [hpattern]
  constructor
  · intro hlike
    by_contra hspecial
    have hspecial' : ∃ c ∈ s.map fold, isSpecial c = true := by
      push Not at hspecial
      obtain ⟨c, hc, hcs⟩ := hspecial
      exact ⟨fold c, List.mem_map.mpr ⟨c, hc, rfl⟩, h.eq_iff.trans (by simpa using hcs)⟩
    have hfiller' : fold filler ≠ '_' := by
      intro hfold
      have hs : isSpecial filler = true := h.only filler (by rw [hfold]; rfl)
      exact hfiller ((h.fixes filler hs).symm.trans hfold)
    obtain ⟨hmatch, hnot⟩ := exists_like_not_infix hfiller' hspecial'
    have hmap : (sample filler (tokens (s ++ ['%']))).map fold =
        sample (fold filler) (tokens (s.map fold ++ ['%'])) := by
      rw [map_sample h, List.map_append, List.map_singleton, h.fixes '%' rfl]
    rw [← hmap] at hmatch hnot
    exact hnot ((hlike _).mp hmatch)
  · intro hplain t
    apply like_infix
    intro c hc
    obtain ⟨d, hd, rfl⟩ := List.mem_map.mp hc
    exact h.eq_iff.trans (hplain d hd)

end

end Like
