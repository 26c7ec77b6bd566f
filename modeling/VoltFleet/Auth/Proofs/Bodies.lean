import VoltFleet.Auth.Bodies

/-!
# Which bodies are received

A body of a sign-up or of a reset is received exactly as the DTOs that are well formed:
trimmed texts of the declared lengths, an email, and a password of eight to thirty-two
code units on one line with a character of each kind.
-/

namespace VoltFleet

open Matching Pattern BodyField

/-! ## Passwords -/

/-- What the pattern asks of a password. -/
structure MeetsPolicy (password : String) : Prop where
  short : 8 ≤ (codeUnits password).length
  long : (codeUnits password).length ≤ 32
  oneLine : ∀ unit ∈ codeUnits password, isDot unit = true
  lower : ∃ unit ∈ codeUnits password, isLower unit = true
  upper : ∃ unit ∈ codeUnits password, isUpper unit = true
  digit : ∃ unit ∈ codeUnits password, isDigit unit = true
  special : ∃ unit ∈ codeUnits password, isSpecial unit = true

theorem test_passwordPattern {password : String} :
    passwordPattern.test (codeUnits password) = true ↔ MeetsPolicy password := by
  rw [passwordPattern, test_start]
  simp only [lookFor]
  rw [exists_ends_ahead, exists_ends_ahead, exists_ends_ahead, exists_ends_ahead, mem_ends_all]
  constructor
  · intro ⟨hlower, hupper, hdigit, hspecial, hshort, hlong, hall⟩
    exact ⟨hshort, hlong, hall, (mem_ends_find_of_all hall).mp hlower,
      (mem_ends_find_of_all hall).mp hupper, (mem_ends_find_of_all hall).mp hdigit,
      (mem_ends_find_of_all hall).mp hspecial⟩
  · intro h
    exact ⟨(mem_ends_find_of_all h.oneLine).mpr h.lower,
      (mem_ends_find_of_all h.oneLine).mpr h.upper, (mem_ends_find_of_all h.oneLine).mpr h.digit,
      (mem_ends_find_of_all h.oneLine).mpr h.special, h.short, h.long, h.oneLine⟩

example : passwordPattern.test (codeUnits "P@ssw0rd") = true := by decide

/-! ## Well-formed DTOs -/

/-- A trimmed text with at least `min` and at most `max` characters. -/
structure Sized (K : Checks) (min max : Nat) (text : String) : Prop where
  trimmed : trim text = text
  short : min ≤ K.length text
  long : K.length text ≤ max

/-- What the decorators of `CreateUserDto` demand. -/
structure CreateUserDto.WellFormed (K : Checks) (dto : CreateUserDto) : Prop where
  firstName : Sized K 2 30 dto.firstName
  lastName : Sized K 2 30 dto.lastName
  email : trim dto.email = dto.email ∧ K.isEmail dto.email = true
  password : Sized K 8 32 dto.password ∧ MeetsPolicy dto.password

/-- What the decorators of `NewPasswordDto` demand. -/
structure NewPasswordDto.WellFormed (K : Checks) (dto : NewPasswordDto) : Prop where
  newPassword : Sized K 8 32 dto.newPassword ∧ MeetsPolicy dto.newPassword

section

variable {K : Checks} {fields : List BodyField} {body : Body} {text : String}

/-- The validators of a property accept the text that is read. -/
theorem accepts_text {f : BodyField} (hpass : f.messages body = []) (hrequired : f.optional = false)
    (hsome : f.validators ≠ []) (htext : body.text? f.name = some text) :
    ∀ v ∈ f.validators, v.2 (.string text) = true := by
  obtain ⟨value, hvalue, hall⟩ := (Body.required_eq_nil hrequired hsome).mp hpass
  rw [Body.text?_eq_some.mp htext] at hvalue
  cases hvalue
  exact hall

theorem accepts_password {name : String} {rest : List (String × (Json JsNumber → Bool))}
    (hpass : BodyField.messages ⟨name, false, matchesPattern passwordPattern passwordMessage ::
      maxLength K name 32 :: minLength K name 8 :: rest⟩ (TrimInputPipe.transformFields body) = [])
    (htext : Body.text? (TrimInputPipe.transformFields body) name = some text) :
    Sized K 8 32 text ∧ MeetsPolicy text := by
  have hall := accepts_text hpass rfl (by simp) htext
  simp only [List.forall_mem_cons] at hall
  obtain ⟨hpattern, hlong, hshort, -⟩ := hall
  exact ⟨⟨Body.trim_text? htext, of_decide_eq_true hshort, of_decide_eq_true hlong⟩,
    test_passwordPattern.mp hpattern⟩

theorem CreateUserDto.wellFormed {dto : CreateUserDto} (h : receive K body = .ok dto) :
    dto.WellFormed K := by
  obtain ⟨hpass, hread⟩ := Body.receive_eq_ok.mp h
  obtain ⟨-, hpass⟩ := Body.messages_eq_nil.mp hpass
  simp only [fields, List.forall_mem_cons] at hpass
  obtain ⟨hfirst, hlast, hemail, -, -, hpassword, -⟩ := hpass
  simp only [read, Option.bind_eq_bind, Option.bind_eq_some_iff, Option.pure_def,
    Option.some.injEq] at hread
  obtain ⟨firstName, hfirstName, lastName, hlastName, email, hemailText, password, hpasswordText,
    rfl⟩ := hread
  have hfirstAll := accepts_text hfirst rfl (by simp) hfirstName
  have hlastAll := accepts_text hlast rfl (by simp) hlastName
  have hemailAll := accepts_text hemail rfl (by simp) hemailText
  simp only [List.forall_mem_cons] at hfirstAll hlastAll hemailAll
  refine ⟨⟨Body.trim_text? hfirstName, ?_, ?_⟩, ⟨Body.trim_text? hlastName, ?_, ?_⟩,
    ⟨Body.trim_text? hemailText, hemailAll.1⟩, accepts_password hpassword hpasswordText⟩
  · exact of_decide_eq_true hfirstAll.2.1
  · exact of_decide_eq_true hfirstAll.1
  · exact of_decide_eq_true hlastAll.2.1
  · exact of_decide_eq_true hlastAll.1

theorem NewPasswordDto.wellFormed {dto : NewPasswordDto} (h : receive K body = .ok dto) :
    dto.WellFormed K := by
  obtain ⟨hpass, hread⟩ := Body.receive_eq_ok.mp h
  obtain ⟨-, hpass⟩ := Body.messages_eq_nil.mp hpass
  simp only [fields, List.forall_mem_cons] at hpass
  simp only [read, Option.bind_eq_bind, Option.bind_eq_some_iff, Option.pure_def,
    Option.some.injEq] at hread
  obtain ⟨newPassword, htext, rfl⟩ := hread
  exact ⟨accepts_password hpass.1 htext⟩

/-! ## Bodies that are written from DTOs -/

/-- The property of a body that stands for one of a DTO. -/
def written {α : Type} (name : String) (toText : α → String) : Property α → Body
  | .undefined => []
  | .null => [(name, .null)]
  | .value a => [(name, .string (toText a))]

/-- The body a DTO is received from. -/
def CreateUserDto.toBody (dto : CreateUserDto) : Body :=
  ("firstName", .string dto.firstName) :: ("lastName", .string dto.lastName) ::
    ("email", .string dto.email) :: ("password", .string dto.password) ::
      (written "accountStatus" AccountStatus.text dto.accountStatus ++
        written "role" RolesConstant.text dto.role)

theorem transform_text (name : String) (h : trim text = text) (rest : Body) :
    TrimInputPipe.transformFields ((name, .string text) :: rest) =
      (name, .string text) :: TrimInputPipe.transformFields rest := by
  rw [TrimInputPipe.transformFields, TrimInputPipe.transformField, h]

theorem trim_statusText (status : AccountStatus) : trim status.text = status.text := by
  cases status <;> decide +kernel

theorem trim_roleText (role : RolesConstant) : trim role.text = role.text := by
  cases role <;> decide +kernel

theorem transform_written {α : Type} (name : String) {toText : α → String}
    (htrim : ∀ a, trim (toText a) = toText a) (p : Property α) (rest : Body) :
    TrimInputPipe.transformFields (written name toText p ++ rest) =
      written name toText p ++ TrimInputPipe.transformFields rest := by
  cases p with
  | undefined => rfl
  | null => rw [written, List.singleton_append, TrimInputPipe.transformFields]; rfl
  | value a => exact transform_text name (htrim a) rest

theorem CreateUserDto.transform_toBody {dto : CreateUserDto} (h : dto.WellFormed K) :
    TrimInputPipe.transformFields dto.toBody = dto.toBody := by
  have hnil : TrimInputPipe.transformFields ([] : Body) = [] := by
    rw [TrimInputPipe.transformFields]
  have hrole := transform_written "role" trim_roleText dto.role []
  rw [List.append_nil, hnil, List.append_nil] at hrole
  rw [toBody, transform_text _ h.firstName.trimmed, transform_text _ h.lastName.trimmed,
    transform_text _ h.email.1, transform_text _ h.password.1.trimmed,
    transform_written _ trim_statusText, hrole]

theorem accountStatus_ofText? (status : AccountStatus) :
    AccountStatus.ofText? status.text = some status := by
  cases status <;> rfl

theorem role_ofText? (role : RolesConstant) : RolesConstant.ofText? role.text = some role := by
  cases role <;> rfl

theorem lookup_written_ne {α : Type} {name other : String} (hne : (other == name) = false)
    (toText : α → String) (p : Property α) (rest : Body) :
    (written name toText p ++ rest).lookup other = rest.lookup other := by
  cases p with
  | undefined => rfl
  | null => rw [written, List.singleton_append, List.lookup_cons, hne]
  | value a => rw [written, List.singleton_append, List.lookup_cons, hne]

/-- A property is read as it was written. -/
theorem property_written {α : Type} {name : String} {toText : α → String}
    {ofText? : String → Option α} (hread : ∀ a, ofText? (toText a) = some a) (p : Property α)
    {body rest : Body} (hlookup : body.lookup name = (written name toText p ++ rest).lookup name)
    (hrest : rest.lookup name = none) : body.property name ofText? = p := by
  unfold Body.property Body.text?
  cases p with
  | undefined => simp [hlookup, written, hrest]
  | null => simp [hlookup, written]
  | value a => simp [hlookup, written, hread]

theorem CreateUserDto.lookup_status (dto : CreateUserDto) : dto.toBody.lookup "accountStatus" =
    (written "accountStatus" AccountStatus.text dto.accountStatus ++
      written "role" RolesConstant.text dto.role).lookup "accountStatus" := rfl

theorem CreateUserDto.lookup_role (dto : CreateUserDto) : dto.toBody.lookup "role" =
    (written "role" RolesConstant.text dto.role ++ []).lookup "role" := by
  rw [List.append_nil]
  exact lookup_written_ne (by decide) AccountStatus.text dto.accountStatus _

theorem lookup_none_role (dto : CreateUserDto) :
    (written "role" RolesConstant.text dto.role).lookup "accountStatus" = none := by
  rw [← List.append_nil (written _ _ _), lookup_written_ne (by decide)]
  rfl

theorem CreateUserDto.read_toBody (dto : CreateUserDto) : read dto.toBody = some dto := by
  have hstatus : dto.toBody.property "accountStatus" AccountStatus.ofText? = dto.accountStatus :=
    property_written accountStatus_ofText? dto.accountStatus dto.lookup_status
      (lookup_none_role dto)
  have hrole : dto.toBody.property "role" RolesConstant.ofText? = dto.role :=
    property_written role_ofText? dto.role dto.lookup_role rfl
  unfold read
  rw [hstatus, hrole]
  rfl

/-- An optional enumeration passes as it was written. -/
theorem messages_written {α : Type} {name : String} {toText : α → String} {values : List String}
    (hvalues : ∀ a, toText a ∈ values) (p : Property α) {body rest : Body}
    (hlookup : body.lookup name = (written name toText p ++ rest).lookup name)
    (hrest : rest.lookup name = none) :
    BodyField.messages ⟨name, true, [isEnum name values]⟩ body = [] := by
  unfold BodyField.messages
  cases p with
  | undefined => simp [hlookup, written, hrest]
  | null => simp [hlookup, written, Json.kind]
  | value a => simp [hlookup, written, isEnum, onText, hvalues]

theorem statusText_mem (status : AccountStatus) :
    status.text ∈ AccountStatus.all.map AccountStatus.text := by
  cases status <;> decide

theorem roleText_mem (role : RolesConstant) :
    role.text ∈ RolesConstant.all.map RolesConstant.text := by
  cases role <;> decide

theorem CreateUserDto.receive_toBody {dto : CreateUserDto} (h : dto.WellFormed K) :
    receive K dto.toBody = .ok dto := by
  refine Body.receive_eq_ok.mpr ?_
  rw [transform_toBody h]
  refine ⟨Body.messages_eq_nil.mpr ⟨?_, ?_⟩, read_toBody dto⟩
  · have hnames : ∀ {α : Type} (name : String) (toText : α → String) (p : Property α),
        ∀ n ∈ (written name toText p).map Prod.fst, n = name := by
      intro α name toText p
      cases p <;> simp [written]
    intro name hname
    simp only [toBody, List.map_cons, List.map_append, List.mem_cons, List.mem_append] at hname
    rcases hname with rfl | rfl | rfl | rfl | hname | hname
    · simp [fields]
    · simp [fields]
    · simp [fields]
    · simp [fields]
    · simp [fields, hnames _ _ _ name hname]
    · simp [fields, hnames _ _ _ name hname]
  · simp only [fields, List.forall_mem_cons]
    refine ⟨?_, ?_, ?_, messages_written statusText_mem _ dto.lookup_status (lookup_none_role dto),
      messages_written roleText_mem _ dto.lookup_role rfl, ?_, fun _ h => absurd h List.not_mem_nil⟩
    · exact (Body.required_eq_nil rfl (by simp)).mpr ⟨_, rfl, by
        simp [maxLength, minLength, onText, h.firstName.short, h.firstName.long]⟩
    · exact (Body.required_eq_nil rfl (by simp)).mpr ⟨_, rfl, by
        simp [maxLength, minLength, onText, h.lastName.short, h.lastName.long]⟩
    · exact (Body.required_eq_nil rfl (by simp)).mpr ⟨_, rfl, by simp [isEmail, onText, h.email.2]⟩
    · exact (Body.required_eq_nil rfl (by simp)).mpr ⟨_, rfl, by
        simp [matchesPattern, maxLength, minLength, onText, h.password.1.short, h.password.1.long,
          test_passwordPattern.mpr h.password.2]⟩

end

/-- The bodies of sign-ups that are received are those of well-formed DTOs, and all of these are
received. -/
theorem CreateUserDto.receivable (K : Checks) (dto : CreateUserDto) :
    (∃ body, receive K body = .ok dto) ↔ dto.WellFormed K :=
  ⟨fun ⟨_, h⟩ => wellFormed h, fun h => ⟨dto.toBody, receive_toBody h⟩⟩

end VoltFleet
