import VoltFleet.Common.Query
import VoltFleet.Misc.Json

/-!
# `TrimInputPipe`

The pipe that every body, query and parameter goes through before it is
validated.  It walks a value and writes the trimmed texts into it in place; as a
parsed value shares no parts, the value it leaves is a function of the one it is
given.  The kind of number is left open.
-/

namespace VoltFleet

variable {N : Type}

namespace TrimInputPipe

mutual

/-- Trims every text of a value, at any depth. -/
def transform : Json N → Json N
  | .array items => .array (transformItems items)
  | .object fields => .object (transformFields fields)
  | value => value

/-- `value.forEach`. -/
def transformItems : List (Json N) → List (Json N)
  | [] => []
  | item :: items => transform item :: transformItems items

/-- `Object.keys(value).forEach`. -/
def transformFields : List (String × Json N) → List (String × Json N)
  | [] => []
  | field :: fields => transformField field :: transformFields fields

/-- The value of a field, trimmed. -/
def transformField : String × Json N → String × Json N
  | (key, .string text) => (key, .string (trim text))
  | (key, value) => (key, if value.isContainer then transform value else value)

end

/-- What becomes of the value behind a step. -/
def settle : Json.Step → Json N → Json N
  | .key _, .string text => .string (trim text)
  | _, value => transform value

theorem transform_of_leaf {value : Json N} (h : value.isContainer = false) :
    transform value = value := by
  cases value with
  | array _ => cases h
  | object _ => cases h
  | _ => rw [transform] <;> simp

theorem transformItems_eq (items : List (Json N)) :
    transformItems items = items.map transform := by
  induction items with
  | nil => rw [transformItems, List.map_nil]
  | cons item items ih => rw [transformItems, ih, List.map_cons]

theorem transformField_eq (field : String × Json N) :
    transformField field = (field.1, settle (.key field.1) field.2) := by
  obtain ⟨key, value⟩ := field
  cases value with
  | string text => rw [transformField, settle]
  | array items => simp [transformField, settle, Json.isContainer]
  | object fields => simp [transformField, settle, Json.isContainer]
  | _ => simp [transformField, settle, Json.isContainer, transform]

theorem transformFields_eq (fields : List (String × Json N)) :
    transformFields fields = fields.map fun field => (field.1, settle (.key field.1) field.2) := by
  induction fields with
  | nil => rw [transformFields, List.map_nil]
  | cons field fields ih => rw [transformFields, ih, transformField_eq, List.map_cons]

theorem lookup_transformFields (key : String) (fields : List (String × Json N)) :
    (transformFields fields).lookup key = (fields.lookup key).map (settle (.key key)) := by
  induction fields with
  | nil => rw [transformFields]; rfl
  | cons field fields ih =>
    obtain ⟨name, value⟩ := field
    rw [transformFields, transformField_eq, List.lookup_cons, List.lookup_cons, ih]
    cases h : key == name with
    | false => rfl
    | true => rw [eq_of_beq h]; rfl

/-- One step down: what is there is settled, and nothing else is there. -/
theorem child_transform (value : Json N) (step : Json.Step) :
    (transform value).child step = (value.child step).map (settle step) := by
  cases value with
  | array items =>
    rw [transform, transformItems_eq]
    cases step with
    | key _ => rfl
    | index i => exact List.getElem?_map
  | object fields =>
    rw [transform]
    cases step with
    | key name => exact lookup_transformFields name fields
    | index _ => rfl
  | _ =>
    rw [transform_of_leaf rfl, Json.child_eq_none rfl]
    rfl

/-- A text has nothing below it, so that only the last step of a path tells the texts
that are trimmed from those that are not. -/
theorem child_settle (above : Json.Step) (value : Json N) (step : Json.Step) :
    (settle above value).child step = (transform value).child step := by
  cases value with
  | string text =>
    rw [transform_of_leaf rfl]
    cases above <;> cases step <;> simp [settle, transform, Json.child]
  | _ => cases above <;> rfl

/-- What is at a place of the value the pipe leaves. -/
theorem get?_transform (value : Json N) (path : List Json.Step) (step : Json.Step) :
    (transform value).get? (path ++ [step]) = (value.get? (path ++ [step])).map (settle step) := by
  induction path generalizing value with
  | nil =>
    rw [List.nil_append, Json.get?_cons, Json.get?_cons, child_transform]
    cases value.child step <;> rfl
  | cons above path ih =>
    rw [List.cons_append, Json.get?_cons, Json.get?_cons, child_transform]
    cases value.child above with
    | none => rfl
    | some inner =>
      have hsettle : (settle above inner).get? (path ++ [step]) =
          (transform inner).get? (path ++ [step]) := by
        cases path with
        | nil => rw [List.nil_append, Json.get?_cons, Json.get?_cons, child_settle]
        | cons next path =>
          rw [List.cons_append, Json.get?_cons, Json.get?_cons, child_settle]
      exact hsettle.trans (ih inner)

/-- The same for a text: it is trimmed behind a name and only there. -/
theorem get?_transform_eq_string {value : Json N} {path : List Json.Step} {step : Json.Step}
    {text : String} (h : (transform value).get? (path ++ [step]) = some (.string text)) :
    ∃ old, value.get? (path ++ [step]) = some (.string old) ∧
      settle step (.string old : Json N) = .string text := by
  rw [get?_transform] at h
  obtain ⟨inner, hinner, hsettle⟩ := Option.map_eq_some_iff.mp h
  cases inner with
  | string old => exact ⟨old, hinner, hsettle⟩
  | _ => cases step <;> simp [settle, transform] at hsettle

/-- What the pipe leaves at a place. -/
structure Keeps (value trimmed : Json N) : Prop where
  kind : trimmed.kind = value.kind
  keys : trimmed.keys = value.keys
  length : trimmed.length = value.length
  plain : value.isPlain → trimmed = value
  text : ∀ text, value = .string text → trimmed = .string text ∨ trimmed = .string (trim text)

theorem keeps_transform (value : Json N) : Keeps value (transform value) := by
  cases value with
  | array items =>
    rw [transform, transformItems_eq]
    refine ⟨rfl, rfl, List.length_map _, ?_, ?_⟩
    · intro h
      cases h
    · intro text h
      cases h
  | object fields =>
    rw [transform, transformFields_eq]
    refine ⟨rfl, ?_, rfl, ?_, ?_⟩
    · simp [Json.keys]
    · intro h
      cases h
    · intro text h
      cases h
  | _ =>
    rw [transform_of_leaf rfl]
    exact ⟨rfl, rfl, rfl, fun _ => rfl, fun _ => .inl⟩

theorem keeps_settle (step : Json.Step) (value : Json N) : Keeps value (settle step value) := by
  cases value with
  | string old =>
    cases step with
    | key _ =>
      refine ⟨rfl, rfl, rfl, ?_, ?_⟩
      · intro h
        cases h
      · intro text h
        cases h
        exact .inr rfl
    | index _ => exact keeps_transform (.string old)
  | _ => cases step <;> exact keeps_transform _

theorem settle_of_ne {value : Json N} (h : value.kind ≠ .string) (step : Json.Step) :
    settle step value = transform value := by
  cases value with
  | string _ => exact absurd rfl h
  | _ => cases step <;> rfl

theorem settle_settle {value : Json N} (h : transform (transform value) = transform value)
    (step : Json.Step) : settle step (settle step value) = settle step value := by
  by_cases hkind : value.kind = .string
  · cases value with
    | string old => cases step <;> simp [settle, transform]
    | _ => cases hkind
  · have hkind' : (transform value).kind ≠ .string := by
      rw [(keeps_transform value).kind]
      exact hkind
    rw [settle_of_ne hkind, settle_of_ne hkind', h]

theorem transform_transform (value : Json N) : transform (transform value) = transform value := by
  induction value using Json.induction with
  | leaf value h => rw [transform_of_leaf h, transform_of_leaf h]
  | array items ih =>
    simp only [transform, transformItems_eq, List.map_map]
    exact congrArg Json.array (List.map_congr_left ih)
  | object fields ih =>
    simp only [transform, transformFields_eq, List.map_map]
    refine congrArg Json.object (List.map_congr_left ?_)
    intro field hfield
    exact congrArg (Prod.mk field.1) (settle_settle (ih field hfield) (.key field.1))

/-- The pipe keeps the shape of what it is given, changes texts only, and has nothing left
to do after it has run. -/
theorem transform_keeps (value : Json N) :
    (∀ path, Option.Rel Keeps (value.get? path) ((transform value).get? path)) ∧
      transform (transform value) = transform value := by
  refine ⟨?_, transform_transform value⟩
  intro path
  rcases List.eq_nil_or_concat path with rfl | ⟨path, step, rfl⟩
  · exact .some (keeps_transform value)
  · rw [List.concat_eq_append, get?_transform]
    cases value.get? (path ++ [step]) with
    | none => exact .none
    | some inner => exact .some (keeps_settle step inner)

/-- Every text inside what the pipe leaves is trimmed if and only if the texts that are
items of arrays were trimmed before. -/
theorem transform_bare_iff (value : Json N) :
    (∀ path step text,
        (transform value).get? (path ++ [step]) = some (.string text) → Bare text) ↔
      ∀ path i text, value.get? (path ++ [.index i]) = some (.string text) → Bare text := by
  constructor
  · intro h path i text htext
    refine h path (.index i) text ?_
    rw [get?_transform, htext]
    rfl
  · intro h path step text htext
    obtain ⟨old, hold, hsettle⟩ := get?_transform_eq_string htext
    cases step with
    | key _ =>
      cases hsettle
      exact bare_trim old
    | index i =>
      cases hsettle
      exact h path i text hold

/-- A text in an array is left as it is. -/
theorem transform_item : ¬∀ (value : Json JsNumber) (path : List Json.Step) (text : String),
    value.isContainer → (transform value).get? path = some (.string text) → Bare text := by
  intro h
  have hbare := h (.array [.string " tag"]) [.index 0] " tag" rfl rfl
  have hblank : isBlank ' ' = false := hbare.1 ' ' rfl
  cases hblank

end TrimInputPipe

end VoltFleet
