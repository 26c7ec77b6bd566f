import Mathlib.Data.List.Basic

/-!
# Prefix codes

An encoding of values as lists of characters that can be read back from the
front of a longer list.  Codes compose: a pair is one code after the other, a
list is its length and then its elements.
-/

/-- A type whose values are written as characters and read back. -/
class PrefixCode (α : Type) where
  enc : α → List Char
  dec : List Char → Option (α × List Char)
  dec_enc : ∀ (a : α) (rest : List Char), dec (enc a ++ rest) = some (a, rest)

namespace PrefixCode

variable {α β : Type}

/-- Read a value that takes up the whole list. -/
def decAll [PrefixCode α] (l : List Char) : Option α :=
  match dec (α := α) l with
  | none => none
  | some (a, _) => if enc a = l then some a else none

theorem decAll_eq_some [PrefixCode α] {l : List Char} {a : α} :
    decAll l = some a ↔ enc a = l := by
  constructor
  · intro h
    unfold decAll at h
    split at h
    · cases h
    · split at h
      · rename_i heq
        cases h
        exact heq
      · cases h
  · rintro rfl
    have h := dec_enc a []
    rw [List.append_nil] at h
    simp [decAll, h]

/-- A code for the values that `f` writes in an encoded type and `g` reads back. -/
@[reducible] def ofPartialInv [PrefixCode β] (f : α → β) (g : β → Option α)
    (hg : ∀ a, g (f a) = some a) :
    PrefixCode α where
  enc a := enc (f a)
  dec l := (dec l).bind fun (b, rest) => (g b).map (·, rest)
  dec_enc a rest := by simp [dec_enc, hg]

instance : PrefixCode Char where
  enc c := [c]
  dec
    | [] => none
    | c :: rest => some (c, rest)
  dec_enc _ _ := rfl

/-- The number of leading strokes, up to the first other character. -/
def decNat : List Char → Option (Nat × List Char)
  | [] => none
  | c :: rest =>
      if c = '|' then (decNat rest).map fun (n, rest) => (n + 1, rest) else some (0, rest)

instance : PrefixCode Nat where
  enc n := List.replicate n '|' ++ ['.']
  dec := decNat
  dec_enc n rest := by
    induction n with
    | zero => rfl
    | succ n ih =>
      rw [List.replicate_succ, List.cons_append, List.cons_append, decNat, if_pos rfl, ih]
      rfl

instance [PrefixCode α] [PrefixCode β] : PrefixCode (α × β) where
  enc p := enc p.1 ++ enc p.2
  dec l := (dec l).bind fun (a, rest) => (dec rest).map fun (b, rest) => ((a, b), rest)
  dec_enc p rest := by simp [dec_enc]

instance [PrefixCode α] : PrefixCode (Option α) where
  enc
    | none => ['-']
    | some a => '+' :: enc a
  dec
    | [] => none
    | c :: rest =>
        if c = '-' then some (none, rest) else (dec rest).map fun (a, rest) => (some a, rest)
  dec_enc o rest := by
    cases o with
    | none => rfl
    | some a => simp [dec_enc]

/-- Read `n` values, one after the other. -/
def decMany [PrefixCode α] : Nat → List Char → Option (List α × List Char)
  | 0, l => some ([], l)
  | n + 1, l => (dec l).bind fun (a, rest) => (decMany n rest).map fun (as, rest) => (a :: as, rest)

theorem decMany_flatMap [PrefixCode α] (l : List α) (rest : List Char) :
    decMany l.length (l.flatMap enc ++ rest) = some (l, rest) := by
  induction l with
  | nil => rfl
  | cons a l ih =>
    rw [List.length_cons, decMany, List.flatMap_cons, List.append_assoc, dec_enc, Option.bind_some]
    show (decMany l.length (l.flatMap enc ++ rest)).map _ = _
    rw [ih]
    rfl

instance [PrefixCode α] : PrefixCode (List α) where
  enc l := enc l.length ++ l.flatMap enc
  dec l := (dec (α := Nat) l).bind fun (n, rest) => decMany n rest
  dec_enc l rest := by
    rw [List.append_assoc, dec_enc, Option.bind_some]
    exact decMany_flatMap l rest

instance : PrefixCode String :=
  ofPartialInv String.toList (fun l => some (String.ofList l)) (by simp)

end PrefixCode
