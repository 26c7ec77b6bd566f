import VoltFleet.Common.TrimInputPipe
import VoltFleet.Common.Validation
import VoltFleet.Misc.Pattern

/-!
# Bodies

What the global pipes make of the body of a request.  `TrimInputPipe` trims its
texts; the `ValidationPipe` with `whitelist` and `forbidNonWhitelisted` then compares
its properties with those of a DTO.  The validators of `class-validator` accept no
value that is missing, and most of them no value that is not a text.
-/

namespace VoltFleet

open Matching

/-- The checks of `class-validator`, with the length that `@MinLength()` and `@MaxLength()`
look at. -/
structure Checks extends Platform where
  length : String → Nat

/-- The properties of a parsed body. -/
abbrev Body : Type := List (String × Json JsNumber)

/-- A property of a DTO, with the messages of its validators and their tests, in the order in
which they are reported; `optional` stands for `@IsOptional()`. -/
structure BodyField where
  name : String
  optional : Bool
  validators : List (String × (Json JsNumber → Bool))

/-- The code units of a text. -/
def codeUnits (text : String) : List Nat :=
  text.toList.flatMap fun c =>
    if c.toNat < 0x10000 then [c.toNat]
    else [0xD800 + (c.toNat - 0x10000) / 0x400, 0xDC00 + (c.toNat - 0x10000) % 0x400]

namespace BodyField

/-- A test that only a text can pass. -/
def onText (test : String → Bool) : Json JsNumber → Bool
  | .string text => test text
  | _ => false

/-- `@IsString`. -/
def isString (name : String) : String × (Json JsNumber → Bool) :=
  (name ++ " must be a string", onText fun _ => true)

/-- `@IsNotEmpty`. -/
def isNotEmpty (name : String) : String × (Json JsNumber → Bool) :=
  (name ++ " should not be empty", fun value => value.kind ≠ .null ∧ !onText (· = "") value)

/-- `@MinLength`. -/
def minLength (K : Checks) (name : String) (min : Nat) : String × (Json JsNumber → Bool) :=
  (name ++ " must be longer than or equal to " ++ toString min ++ " characters",
    onText fun text => min ≤ K.length text)

/-- `@MaxLength`. -/
def maxLength (K : Checks) (name : String) (max : Nat) : String × (Json JsNumber → Bool) :=
  (name ++ " must be shorter than or equal to " ++ toString max ++ " characters",
    onText fun text => K.length text ≤ max)

/-- `@IsEmail`. -/
def isEmail (K : Checks) (name : String) : String × (Json JsNumber → Bool) :=
  (name ++ " must be an email", onText K.isEmail)

/-- `@IsEnum`. -/
def isEnum (name : String) (values : List String) : String × (Json JsNumber → Bool) :=
  (name ++ " must be one of the following values: " ++ ", ".intercalate values,
    onText (· ∈ values))

/-- `@Matches(pattern, { message })`. -/
def matchesPattern (pattern : Pattern Nat) (message : String) :
    String × (Json JsNumber → Bool) :=
  (message, onText fun text => pattern.test (codeUnits text))

/-- The messages of the validators that fail. -/
def messages (f : BodyField) (body : Body) : List String :=
  match body.lookup f.name with
  | none => if f.optional then [] else f.validators.map Prod.fst
  | some value =>
      if f.optional ∧ value.kind = .null then []
      else (f.validators.filter fun v => !v.2 value).map Prod.fst

end BodyField

namespace Body

/-- The messages of the pipe: the properties that are not declared, then what fails. -/
def messages (fields : List BodyField) (body : Body) : List String :=
  ((body.map Prod.fst).filter (· ∉ fields.map BodyField.name)).map
      (fun name => "property " ++ name ++ " should not exist") ++
    fields.flatMap fun f => f.messages body

/-- The text of a property. -/
def text? (body : Body) (name : String) : Option String :=
  match body.lookup name with
  | some (.string text) => some text
  | _ => none

/-- A property that may be missing or `null`. -/
def property {α : Type} (body : Body) (name : String) (read : String → Option α) : Property α :=
  match body.lookup name with
  | some .null => .null
  | _ => ((body.text? name).bind read).elim .undefined .value

/-- The pipes in front of a handler with a DTO that `read` reads from a body. -/
def receive {α : Type} (fields : List BodyField) (read : Body → Option α) (body : Body) :
    Except Refusal α :=
  let trimmed := TrimInputPipe.transformFields body
  match messages fields trimmed with
  | [] => ((read trimmed).elim (.error (.invalid [])) .ok)
  | refused => .error (.invalid refused)

/-! ## What passes -/

variable {fields : List BodyField} {body : Body} {name : String}

theorem receive_eq_ok {α : Type} {read : Body → Option α} {dto : α} :
    receive fields read body = .ok dto ↔
      messages fields (TrimInputPipe.transformFields body) = [] ∧
        read (TrimInputPipe.transformFields body) = some dto := by
  unfold receive
  dsimp only
  cases messages fields (TrimInputPipe.transformFields body) with
  | nil => cases read (TrimInputPipe.transformFields body) <;> simp
  | cons message refused => simp

theorem messages_eq_nil : messages fields body = [] ↔
    (∀ name ∈ body.map Prod.fst, name ∈ fields.map BodyField.name) ∧
      ∀ f ∈ fields, f.messages body = [] := by
  unfold messages
  rw [List.append_eq_nil_iff, List.map_eq_nil_iff, List.filter_eq_nil_iff,
    List.flatMap_eq_nil_iff]
  refine and_congr_left fun _ => forall₂_congr fun name _ => ?_
  rw [decide_eq_true_eq, not_not]

/-- A property that is not optional passes with a value that all its validators accept. -/
theorem required_eq_nil {f : BodyField} (hrequired : f.optional = false)
    (hsome : f.validators ≠ []) : f.messages body = [] ↔
      ∃ value, body.lookup f.name = some value ∧ ∀ v ∈ f.validators, v.2 value = true := by
  unfold BodyField.messages
  cases body.lookup f.name with
  | none => simp [hrequired, hsome]
  | some value => simp [hrequired]

theorem text?_eq_some {text : String} :
    body.text? name = some text ↔ body.lookup name = some (.string text) := by
  unfold text?
  split
  · rename_i t h
    rw [h]
    simp
  · rename_i h
    constructor
    · intro he
      cases he
    · intro he
      exact absurd he (h text)

/-- A text that has passed the pipes is trimmed. -/
theorem trim_text? {text : String}
    (h : (text? (TrimInputPipe.transformFields body) name) = some text) : trim text = text := by
  rw [text?_eq_some, TrimInputPipe.lookup_transformFields, Option.map_eq_some_iff] at h
  obtain ⟨value, -, hvalue⟩ := h
  cases value with
  | string t =>
    cases hvalue
    exact trim_trim t
  | _ => simp [TrimInputPipe.settle, TrimInputPipe.transform] at hvalue

end Body

end VoltFleet
