import Mathlib.Data.List.Basic

/-!
# Parameters in a query string

A parameter is written as `name=value`, and parameters are joined by `&`.  Only
the characters that have a meaning of their own are escaped; a space is written
as `+`.
-/

namespace UrlEncoded

/-- A character as it stands in a query: itself, or escaped. -/
def encodeChar (c : Char) : List Char :=
  if c = ' ' then ['+']
  else if c = '%' then ['%', '2', '5']
  else if c = '&' then ['%', '2', '6']
  else if c = '+' then ['%', '2', 'B']
  else if c = '=' then ['%', '3', 'D']
  else [c]

/-- The value of a hexadecimal digit in upper case. -/
def hexValue (c : Char) : Nat := if c.toNat < 65 then c.toNat - 48 else c.toNat - 55

/-- What escaped characters stand for. -/
def decode : List Char → List Char
  | '%' :: a :: b :: l => Char.ofNat (16 * hexValue a + hexValue b) :: decode l
  | '+' :: l => ' ' :: decode l
  | c :: l => c :: decode l
  | [] => []
termination_by structural l => l

theorem decode_encodeChar (c : Char) (l : List Char) :
    decode (encodeChar c ++ l) = c :: decode l := by
  unfold encodeChar
  split_ifs with hspace hpercent hand hplus heq
  · subst hspace
    rfl
  · subst hpercent
    rfl
  · subst hand
    rfl
  · subst hplus
    rfl
  · subst heq
    rfl
  · rw [List.singleton_append, decode]
    · intro a b rest hc _
      exact hpercent hc
    · exact hplus

theorem decode_encode (l : List Char) : decode (l.flatMap encodeChar) = l := by
  induction l with
  | nil => rfl
  | cons c l ih => rw [List.flatMap_cons, decode_encodeChar, ih]

/-- The characters between which a query string is cut are escaped. -/
theorem not_mem_encode {d : Char} (hd : d = '&' ∨ d = '=') (l : List Char) :
    d ∉ l.flatMap encodeChar := by
  intro hmem
  obtain ⟨c, -, hc⟩ := List.mem_flatMap.mp hmem
  unfold encodeChar at hc
  split_ifs at hc with hspace hpercent hand hplus heq
  all_goals rcases hd with rfl | rfl
  all_goals simp at hc
  · exact hand hc.symm
  · exact heq hc.symm

/-- A parameter as text. -/
def part (p : String × String) : List Char :=
  p.1.toList.flatMap encodeChar ++ '=' :: p.2.toList.flatMap encodeChar

/-- A part of a query string as a parameter, cut at the first `=`. -/
def parsePart (l : List Char) : Option (String × String) :=
  if l = [] then none
  else
    some (String.ofList (decode (l.takeWhile (· ≠ '='))),
      String.ofList (decode ((l.dropWhile (· ≠ '=')).drop 1)))

/-- Parameters as a query. -/
def encode (params : List (String × String)) : String :=
  String.ofList (['&'].intercalate (params.map part))

/-- A query as parameters. -/
def parse (text : String) : List (String × String) :=
  (text.toList.splitOn '&').filterMap parsePart

theorem parsePart_part (p : String × String) : parsePart (part p) = some p := by
  have hname : ∀ c ∈ p.1.toList.flatMap encodeChar, decide (c ≠ '=') = true := by
    intro c hc
    refine decide_eq_true ?_
    rintro rfl
    exact not_mem_encode (.inr rfl) _ hc
  have hne : part p ≠ [] := by simp [part]
  rw [parsePart, if_neg hne, part, List.takeWhile_append_of_pos hname,
    List.dropWhile_append_of_pos hname, List.takeWhile_cons_of_neg (by simp),
    List.dropWhile_cons_of_neg (by simp), List.append_nil, List.drop_one, List.tail_cons,
    decode_encode, decode_encode, String.ofList_toList, String.ofList_toList]

theorem not_mem_part (p : String × String) : '&' ∉ part p := by
  intro hmem
  rcases List.mem_append.mp hmem with hname | hvalue
  · exact not_mem_encode (.inl rfl) _ hname
  · rcases List.mem_cons.mp hvalue with heq | hvalue
    · exact absurd heq (by decide)
    · exact not_mem_encode (.inl rfl) _ hvalue

/-- A written list of parameters is read back. -/
theorem parse_encode (params : List (String × String)) : parse (encode params) = params := by
  by_cases hnil : params = []
  · subst hnil
    rfl
  · have hparts : ∀ l ∈ params.map part, '&' ∉ l := by
      intro l hl
      obtain ⟨p, -, rfl⟩ := List.mem_map.mp hl
      exact not_mem_part p
    have hne : params.map part ≠ [] := fun h => hnil (List.map_eq_nil_iff.mp h)
    rw [parse, encode, String.toList_ofList, List.splitOn_intercalate _ hparts hne,
      List.filterMap_map]
    have hparse : parsePart ∘ part = some := funext parsePart_part
    rw [hparse, List.filterMap_some]

end UrlEncoded
