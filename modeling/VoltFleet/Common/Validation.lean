import VoltFleet.Web

/-!
# The global pipes

What `TrimInputPipe` and the `ValidationPipe` with `whitelist` and
`forbidNonWhitelisted` make of the query of a request.  Every validated property
of a query is optional, and a parameter that is an array fails its validators
before its text is looked at.
-/

namespace VoltFleet

/-- A property of a DTO, with the messages of its validators and their tests, in the order in
which they are reported. -/
structure DtoField where
  name : String
  validators : List (String × (String → Bool))

/-- Why a request is not answered with a list: the messages of the pipe, or what the handler
has thrown. -/
inductive Refusal where
  | invalid (messages : List String)
  | thrown (e : Thrown)
  deriving DecidableEq

namespace JsNumber

/-- `Number.isInteger(x)`. -/
def isInteger : JsNumber → Bool
  | .finite q => q.den = 1
  | _ => false

/-- `x <= y`, which is false if one of them is `NaN`. -/
def le (x y : JsNumber) : Bool := x ≠ .nan ∧ y ≠ .nan ∧ y.lt x = false

@[simp] theorem le_finite {q r : ℚ} : (finite q).le (.finite r) = true ↔ q ≤ r := by
  simp only [le, lt, ne_eq, reduceCtorEq, not_false_eq_true, true_and, decide_eq_true_eq,
    decide_eq_false_iff_not]
  exact Rat.not_lt

end JsNumber

namespace DtoField

/-- `@IsOptional() @IsString()`. -/
def string (name : String) : DtoField := ⟨name, [(name ++ " must be a string", fun _ => true)]⟩

/-- `@IsOptional() @IsDateString()`. -/
def dateString (W : Web) (name : String) : DtoField :=
  ⟨name, [(name ++ " must be a valid ISO 8601 date string", W.isDateString)]⟩

/-- `@IsOptional() @Type(() => Number) @IsInt() @Min(1)`; the last decorator is the first to be
applied. -/
def positiveInt (W : Web) (name isInt min : String) : DtoField :=
  ⟨name,
    [(name ++ min, fun text => (JsNumber.finite 1).le (W.number text)),
      (name ++ isInt, fun text => (W.number text).isInteger)]⟩

/-- `@IsOptional() @Type(() => Object)`. -/
def object (name : String) : DtoField := ⟨name, []⟩

/-- The messages of the validators that fail. -/
def messages (f : DtoField) (query : List (String × String)) : List String :=
  match query.lookup f.name with
  | none => []
  | some text => (f.validators.filter fun v => !v.2 text).map Prod.fst

end DtoField

/-- The messages of the pipe: the parameters that are not declared, then what fails. -/
def validate (fields : List DtoField) (query : List (String × String)) : List String :=
  ((query.map Prod.fst).filter (· ∉ fields.map DtoField.name)).map
      (fun name => "property " ++ name ++ " should not exist") ++
    fields.flatMap fun f => f.messages query

/-- `TrimInputPipe`, which trims the object it is given in place. -/
def Request.trimmed (req : Request) : Request :=
  { req with query := req.query.map fun p => (p.1, trim p.2) }

/-- The pipes in front of a handler with a query DTO. -/
def pipes (fields : List DtoField) (req : Request) : Except Refusal Request :=
  match validate fields req.trimmed.query with
  | [] => .ok req.trimmed
  | messages => .error (.invalid messages)

/-- A number as the pipe passes it on: `classToPlain` of the converted value. -/
def Web.converted (W : Web) (text : String) : String := W.numberText (W.number text)

@[simp] theorem names_trimmed (req : Request) :
    req.trimmed.query.map Prod.fst = req.query.map Prod.fst := by
  simp [Request.trimmed, Function.comp_def]

@[simp] theorem param_trimmed (req : Request) (name : String) :
    req.trimmed.param name = (req.param name).map trim := by
  unfold Request.param Request.trimmed
  induction req.query with
  | nil => rfl
  | cons p query ih =>
    obtain ⟨n, v⟩ := p
    by_cases hn : name = n
    · simp [hn]
    · rw [List.map_cons, lookup_cons_of_ne hn, lookup_cons_of_ne hn, ih]

theorem DtoField.messages_eq_nil {f : DtoField} {query : List (String × String)} :
    f.messages query = [] ↔
      ∀ text, query.lookup f.name = some text → ∀ v ∈ f.validators, v.2 text = true := by
  unfold DtoField.messages
  cases query.lookup f.name <;> simp

/-- A request passes exactly if all its parameters are declared and valid. -/
theorem pipes_eq_ok {fields : List DtoField} {req req' : Request} :
    pipes fields req = .ok req' ↔
      req' = req.trimmed ∧
        (∀ name ∈ req.query.map Prod.fst, name ∈ fields.map DtoField.name) ∧
        ∀ f ∈ fields, ∀ text, req.trimmed.param f.name = some text →
          ∀ v ∈ f.validators, v.2 text = true := by
  have hvalid : validate fields req.trimmed.query = [] ↔
      (∀ name ∈ req.query.map Prod.fst, name ∈ fields.map DtoField.name) ∧
        ∀ f ∈ fields, ∀ text, req.trimmed.param f.name = some text →
          ∀ v ∈ f.validators, v.2 text = true := by
    unfold validate
    rw [names_trimmed, List.append_eq_nil_iff, List.map_eq_nil_iff, List.filter_eq_nil_iff,
      List.flatMap_eq_nil_iff]
    refine and_congr ?_ ?_
    · refine forall₂_congr fun name _ => ?_
      rw [decide_eq_true_eq, not_not]
    · exact forall₂_congr fun f _ => DtoField.messages_eq_nil
  unfold pipes
  split
  next hnil =>
    constructor
    · intro h
      cases h
      exact ⟨rfl, hvalid.mp hnil⟩
    · rintro ⟨rfl, -⟩
      rfl
  next hne =>
    constructor
    · intro h
      cases h
    · intro h
      exact absurd (hvalid.mpr h.2) hne

end VoltFleet
