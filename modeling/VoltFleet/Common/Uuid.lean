import Mathlib.Data.List.Basic

/-!
# Primary keys

`BaseEntity.id` is a generated `uuid` column.  A value of the column is kept as
the text the driver returns, in lower case; a string from a request is read as
PostgreSQL reads a `uuid` literal: in either case, in braces or not, and with a
hyphen or none after each four digits.
-/

namespace VoltFleet

/-- The lower-case form of the ASCII letters of a text. -/
def asciiLower (s : String) : String := String.ofList (s.toList.map Char.toLower)

theorem toLower_of_upper {c : Char} (h : c.val ≥ 'A'.val ∧ c.val ≤ 'Z'.val) :
    c.toLower.val = c.val + ('a'.val - 'A'.val) :=
  congrArg Char.val (dif_pos h)

theorem toLower_of_not_upper {c : Char} (h : ¬(c.val ≥ 'A'.val ∧ c.val ≤ 'Z'.val)) :
    c.toLower = c :=
  dif_neg h

theorem toLower_toLower (c : Char) : c.toLower.toLower = c.toLower := by
  by_cases h : c.val ≥ 'A'.val ∧ c.val ≤ 'Z'.val
  · apply toLower_of_not_upper
    rw [toLower_of_upper h]
    grind
  · rw [toLower_of_not_upper h, toLower_of_not_upper h]

theorem asciiLower_asciiLower (s : String) : asciiLower (asciiLower s) = asciiLower s := by
  unfold asciiLower
  rw [String.toList_ofList, List.map_map]
  exact congrArg String.ofList (List.map_congr_left fun c _ => toLower_toLower c)

/-- A hexadecimal digit, in lower case. -/
def isHexDigit (c : Char) : Bool := c.isDigit || ('a' ≤ c && c ≤ 'f')

/-- `xxxxxxxx-xxxx-xxxx-xxxx-xxxxxxxxxxxx`, in lower case. -/
def isUuidText (s : String) : Bool :=
  s.toList.length = 36 &&
    s.toList.zipIdx.all fun (c, i) =>
      if i = 8 ∨ i = 13 ∨ i = 18 ∨ i = 23 then c = '-' else isHexDigit c

/-- A primary key. -/
structure Uuid where
  text : String
  valid : isUuidText text = true
  deriving DecidableEq

namespace Uuid

/-- Four hexadecimal digits. -/
def isGroup (l : List Char) : Bool := l.length = 4 && l.all isHexDigit

/-- Read `n` groups to the end, with a hyphen or none between two of them. -/
def readGroups : Nat → List Char → Option (List (List Char))
  | 0, l => if l = [] then some [] else none
  | n + 1, l =>
      let rest := l.drop 4
      if isGroup (l.take 4) then
        (readGroups n (if n ≠ 0 ∧ rest.head? = some '-' then rest.tail else rest)).map
          (l.take 4 :: ·)
      else none

/-- The text the driver returns for these eight groups. -/
def hyphenated : List (List Char) → List Char
  | [a, b, c, d, e, f, g, h] =>
      a ++ (b ++ '-' :: (c ++ '-' :: (d ++ '-' :: (e ++ '-' :: (f ++ (g ++ h))))))
  | _ => []

/-- What stands between the braces, where there are any. -/
def unbraced (l : List Char) : List Char :=
  if l.head? = some '{' ∧ l.getLast? = some '}' then l.tail.dropLast else l

/-- Read a `uuid` literal. -/
def ofString? (s : String) : Option Uuid :=
  match readGroups 8 (unbraced (s.toList.map Char.toLower)) with
  | none => none
  | some groups =>
      if h : isUuidText (String.ofList (hyphenated groups)) = true then
        some ⟨String.ofList (hyphenated groups), h⟩
      else none

theorem text_length (u : Uuid) : u.text.toList.length = 36 := by
  have h := u.valid
  simp only [isUuidText, Bool.and_eq_true, decide_eq_true_eq] at h
  exact h.1

theorem toLower_of_uuidChar {c : Char} (h : c = '-' ∨ isHexDigit c = true) : c.toLower = c := by
  rcases h with rfl | h
  · decide
  · simp only [isHexDigit, Char.isDigit, Bool.or_eq_true, Bool.and_eq_true, decide_eq_true_eq,
      Char.le_def, ge_iff_le, UInt32.le_iff_toNat_le] at h
    change (48 ≤ c.val.toNat ∧ c.val.toNat ≤ 57) ∨ (97 ≤ c.val.toNat ∧ c.val.toNat ≤ 102) at h
    apply toLower_of_not_upper
    rintro ⟨hlo, hhi⟩
    simp only [ge_iff_le, UInt32.le_iff_toNat_le] at hlo hhi
    change 65 ≤ c.val.toNat at hlo
    change c.val.toNat ≤ 90 at hhi
    omega

theorem toLower_of_uuidText {s : String} (h : isUuidText s = true) {c : Char}
    (hc : c ∈ s.toList) : c.toLower = c := by
  simp only [isUuidText, Bool.and_eq_true, List.all_eq_true] at h
  obtain ⟨i, hi, rfl⟩ := List.getElem_of_mem hc
  have hat := h.2 (s.toList[i], i) (List.mem_zipIdx_iff_getElem?.mpr (List.getElem?_eq_getElem hi))
  apply toLower_of_uuidChar
  dsimp only at hat
  split at hat
  · exact .inl (by simpa using hat)
  · exact .inr hat

theorem map_toLower_text (u : Uuid) : u.text.toList.map Char.toLower = u.text.toList := by
  conv_rhs => rw [← List.map_id u.text.toList]
  exact List.map_congr_left fun c hc => toLower_of_uuidText u.valid hc

/-! ## The text of a key is a literal -/

section

variable {g rest : List Char} {n : Nat}

theorem isGroup_iff : isGroup g = true ↔ g.length = 4 ∧ ∀ c ∈ g, isHexDigit c = true := by
  simp [isGroup]

/-- What begins with a group begins with a digit. -/
theorem head_group (hg : isGroup g = true) : ∃ c, (g ++ rest).head? = some c ∧
    isHexDigit c = true := by
  obtain ⟨hlength, hdigits⟩ := isGroup_iff.mp hg
  cases g with
  | nil => cases hlength
  | cons c g => exact ⟨c, rfl, hdigits c List.mem_cons_self⟩

theorem head_group_ne (hg : isGroup g = true) : (g ++ rest).head? ≠ some '-' := by
  obtain ⟨c, hc, hdigit⟩ : ∃ c, (g ++ rest).head? = some c ∧ isHexDigit c = true := head_group hg
  rintro h
  rw [hc, Option.some.injEq] at h
  subst h
  exact absurd hdigit (by decide)

theorem readGroups_group (hg : isGroup g = true) (hrest : rest.head? ≠ some '-') :
    readGroups (n + 1) (g ++ rest) = (readGroups n rest).map (g :: ·) := by
  have hlength : g.length = 4 := (isGroup_iff.mp hg).1
  simp only [readGroups, List.take_left' hlength, List.drop_left' hlength, hg, if_true, hrest,
    and_false, if_false]

theorem readGroups_hyphen (hg : isGroup g = true) :
    readGroups (n + 2) (g ++ '-' :: rest) = (readGroups (n + 1) rest).map (g :: ·) := by
  have hlength : g.length = 4 := (isGroup_iff.mp hg).1
  rw [readGroups]
  simp only [List.take_left' hlength, List.drop_left' hlength, hg, if_true]
  simp

/-- Eight groups are read from their text. -/
theorem readGroups_hyphenated {a b c d e f g h : List Char} (ha : isGroup a = true)
    (hb : isGroup b = true) (hc : isGroup c = true) (hd : isGroup d = true)
    (he : isGroup e = true) (hf : isGroup f = true) (hg : isGroup g = true)
    (hh : isGroup h = true) :
    readGroups 8 (hyphenated [a, b, c, d, e, f, g, h]) = some [a, b, c, d, e, f, g, h] := by
  have hlast : readGroups 1 h = some [h] := by
    have hread : readGroups 1 (h ++ []) = (readGroups 0 []).map (h :: ·) :=
      readGroups_group hh (by simp)
    simpa [readGroups] using hread
  rw [hyphenated, readGroups_group ha (head_group_ne hb), readGroups_hyphen hb,
    readGroups_hyphen hc, readGroups_hyphen hd, readGroups_hyphen he,
    readGroups_group hf (head_group_ne hg), readGroups_group hg, hlast]
  · rfl
  · rw [← List.append_nil h]
    exact head_group_ne hh

end

/-- At a place of a key's text there is a digit, except at the four hyphens. -/
theorem getElem?_text (u : Uuid) {i : Nat} (hi : i < 36) :
    ∃ c, u.text.toList[i]? = some c ∧
      if i = 8 ∨ i = 13 ∨ i = 18 ∨ i = 23 then c = '-' else isHexDigit c = true := by
  have h := u.valid
  simp only [isUuidText, Bool.and_eq_true, List.all_eq_true] at h
  have hlt : i < u.text.toList.length := by rw [text_length]; exact hi
  refine ⟨u.text.toList[i], List.getElem?_eq_getElem hlt, ?_⟩
  have hat := h.2 (u.text.toList[i], i)
    (List.mem_zipIdx_iff_getElem?.mpr (List.getElem?_eq_getElem hlt))
  dsimp only at hat
  split at hat
  next hyphen => simpa [hyphen] using hat
  next digit => simpa [digit] using hat

/-- Four digits in a row of a key's text. -/
theorem isGroup_text (u : Uuid) {k : Nat} (hk : k + 4 ≤ 36)
    (hdigits : ∀ i, k ≤ i → i < k + 4 → i ≠ 8 ∧ i ≠ 13 ∧ i ≠ 18 ∧ i ≠ 23) :
    isGroup ((u.text.toList.drop k).take 4) = true := by
  have hlength := u.text_length
  rw [isGroup_iff]
  constructor
  · rw [List.length_take, List.length_drop]
    omega
  · intro c hc
    obtain ⟨j, hj⟩ := List.mem_iff_getElem?.mp hc
    have hlt : j < 4 := by
      have hbound := (List.getElem?_eq_some_iff.mp hj).1
      rw [List.length_take] at hbound
      omega
    rw [List.getElem?_take_of_lt hlt, List.getElem?_drop] at hj
    obtain ⟨d, hd, hdigit⟩ := u.getElem?_text (i := k + j) (by omega)
    rw [hd] at hj
    cases hj
    have hplace := hdigits (k + j) (by omega) (by omega)
    rw [if_neg (by omega)] at hdigit
    exact hdigit

theorem drop_text_group (u : Uuid) (k : Nat) :
    u.text.toList.drop k = (u.text.toList.drop k).take 4 ++ u.text.toList.drop (k + 4) := by
  rw [← List.drop_drop, List.take_append_drop]

theorem drop_text_hyphen (u : Uuid) {k : Nat} (hk : k = 8 ∨ k = 13 ∨ k = 18 ∨ k = 23) :
    u.text.toList.drop k = '-' :: u.text.toList.drop (k + 1) := by
  obtain ⟨c, hc, hhyphen⟩ := u.getElem?_text (i := k) (by omega)
  rw [if_pos hk] at hhyphen
  obtain ⟨hlt, hget⟩ := List.getElem?_eq_some_iff.mp hc
  rw [List.drop_eq_getElem_cons hlt, hget, hhyphen]

/-- The groups of a key's text. -/
def groups (u : Uuid) : List (List Char) :=
  [0, 4, 9, 14, 19, 24, 28, 32].map fun k => (u.text.toList.drop k).take 4

theorem hyphenated_groups (u : Uuid) : hyphenated u.groups = u.text.toList := by
  have hend : u.text.toList.drop 36 = [] := List.drop_of_length_le (Nat.le_of_eq u.text_length)
  conv_rhs =>
    rw [← List.drop_zero (l := u.text.toList), u.drop_text_group 0, u.drop_text_group 4,
      u.drop_text_hyphen (k := 8) (by simp), u.drop_text_group 9,
      u.drop_text_hyphen (k := 13) (by simp), u.drop_text_group 14,
      u.drop_text_hyphen (k := 18) (by simp), u.drop_text_group 19,
      u.drop_text_hyphen (k := 23) (by simp), u.drop_text_group 24, u.drop_text_group 28,
      u.drop_text_group 32, hend]
  simp [hyphenated, groups]

theorem readGroups_text (u : Uuid) : readGroups 8 u.text.toList = some u.groups := by
  rw [← hyphenated_groups]
  apply readGroups_hyphenated <;> apply u.isGroup_text <;> omega

/-- A key's text has no braces. -/
theorem unbraced_text (u : Uuid) : unbraced u.text.toList = u.text.toList := by
  refine if_neg fun hbraces => ?_
  obtain ⟨c, hc, hdigit⟩ := u.getElem?_text (i := 0) (by decide)
  rw [List.head?_eq_getElem?, hc, Option.some.injEq] at hbraces
  rw [hbraces.1, if_neg (by decide)] at hdigit
  exact absurd hdigit (by decide)

/-- The text of a key is read back as that key. -/
@[simp] theorem ofString?_text (u : Uuid) : ofString? u.text = some u := by
  unfold ofString?
  simp only [map_toLower_text, unbraced_text, readGroups_text, hyphenated_groups,
    String.ofList_toList, u.valid, dite_true]

/-- A literal in braces with one hyphen is read. -/
example : (ofString? "{00000000000040008000-00000000000A}").map text =
    some "00000000-0000-4000-8000-00000000000a" := by decide +kernel

theorem text_inj {u v : Uuid} : u.text = v.text ↔ u = v := by
  cases u; cases v; simp

end Uuid

end VoltFleet
