import VoltFleet.Store

/-!
# Statements

What the statements TypeORM issues have in common: a write either is committed
or leaves the store as it was, an insert takes a key that no row has, and a list
query sorts, skips and takes.
-/

namespace VoltFleet

/-- The outcome of a statement: a failed one changes nothing. -/
def commit {β : Type} (s : Store) : Except Thrown (β × Store) → Except Thrown β × Store
  | .ok (b, s') => (.ok b, s')
  | .error e => (.error e, s)

@[simp] theorem commit_ok {β : Type} (s : Store) (b : β) (s' : Store) :
    commit s (.ok (b, s')) = (.ok b, s') := rfl

@[simp] theorem commit_error {β : Type} (s : Store) (e : Thrown) :
    commit s (.error e : Except Thrown (β × Store)) = (.error e, s) := rfl

/-- What holds of the old store and of the store a successful write leaves, holds
of the store any write leaves. -/
theorem commit_snd {β : Type} {s : Store} {r : Except Thrown (β × Store)} {p : Store → Prop}
    (same : p s) (written : ∀ b s', r = .ok (b, s') → p s') : p (commit s r).2 := by
  cases r with
  | error e => exact same
  | ok r => exact written r.1 r.2 rfl

/-- A statement that answers has been committed. -/
theorem commit_fst_eq_ok {β : Type} {s : Store} {r : Except Thrown (β × Store)} {b : β}
    (h : (commit s r).1 = .ok b) : ∃ s', r = .ok (b, s') ∧ (commit s r).2 = s' := by
  cases r with
  | error e => cases h
  | ok r =>
    cases h
    exact ⟨r.2, rfl, rfl⟩

theorem bind_eq_ok {ε α β : Type} {x : Except ε α} {f : α → Except ε β} {b : β} :
    (x >>= f) = .ok b ↔ ∃ a, x = .ok a ∧ f a = .ok b := by
  cases x <;> simp [bind, Except.bind]

theorem bind_eq_error {α β : Type} {x : Except Thrown α} {f : α → Except Thrown β} {e : Thrown} :
    (x >>= f) = .error e ↔ x = .error e ∨ ∃ a, x = .ok a ∧ f a = .error e := by
  cases x <;> simp [bind, Except.bind]

section

variable {R : Type} {u : R → String}

/-- Write a row; the unique index may refuse it. -/
def putRow (t : Keyed.Table Uuid R u) (id : Uuid) (r : R) :
    Except Thrown (Keyed.Table Uuid R u) :=
  match t.put id r with
  | none => .error .duplicateKey
  | some t' => .ok t'

/-- Insert a row under a key that is not taken. -/
def insertRow (t : Keyed.Table Uuid R u) (id : Uuid) (r : R) :
    Except Thrown (Keyed.Table Uuid R u) :=
  match t.find? id with
  | some _ => .error .duplicateKey
  | none => putRow t id r

theorem putRow_eq_ok {t t' : Keyed.Table Uuid R u} {id : Uuid} {r : R} :
    putRow t id r = .ok t' ↔ t.put id r = some t' := by
  unfold putRow
  split <;> simp_all

theorem insertRow_eq_ok {t t' : Keyed.Table Uuid R u} {id : Uuid} {r : R} :
    insertRow t id r = .ok t' ↔ t.find? id = none ∧ t.put id r = some t' := by
  unfold insertRow
  split <;> simp_all [putRow_eq_ok]

/-- What a refused insert throws. -/
theorem insertRow_error {t : Keyed.Table Uuid R u} {id : Uuid} {r : R} {e : Thrown}
    (h : insertRow t id r = .error e) : e = .duplicateKey := by
  unfold insertRow putRow at h
  split at h
  · exact (Except.error.inj h).symm
  · split at h
    · exact (Except.error.inj h).symm
    · cases h

/-- An insert is accepted exactly when its key and its unique column are new. -/
theorem exists_insertRow {t : Keyed.Table Uuid R u} {id : Uuid} {r : R} :
    (∃ t', insertRow t id r = .ok t') ↔ t.find? id = none ∧ t.findBy? (u r) = none := by
  simp only [insertRow_eq_ok, exists_and_left]
  refine and_congr_right fun hkey => ?_
  rw [← Option.ne_none_iff_exists', ne_eq, Keyed.Table.put_eq_none,
    Keyed.Table.taken_iff_of_new hkey, not_not]

end

/-- A reference to a row that has to be there. -/
def checkReference {R : Type} {u : R → String} (t : Keyed.Table Uuid R u) :
    Option Uuid → Except Thrown Unit
  | none => .ok ()
  | some id =>
      match t.find? id with
      | none => .error .foreignKey
      | some _ => .ok ()

theorem checkReference_eq_ok {R : Type} {u : R → String} {t : Keyed.Table Uuid R u}
    {ref : Option Uuid} :
    checkReference t ref = .ok () ↔ ∀ id, ref = some id → ∃ r, t.find? id = some r := by
  cases ref with
  | none => simp [checkReference]
  | some id => cases h : t.find? id <;> simp [checkReference, h]

/-- A parameter that is compared with a `uuid` column. -/
def uuidParam (id : String) : Except Thrown Uuid :=
  match Uuid.ofString? id with
  | none => .error .invalidText
  | some id => .ok id

theorem uuidParam_eq_ok {id : String} {u : Uuid} :
    uuidParam id = .ok u ↔ Uuid.ofString? id = some u := by
  unfold uuidParam
  split <;> simp_all

@[simp] theorem uuidParam_text (id : Uuid) : uuidParam id.text = .ok id :=
  uuidParam_eq_ok.mpr (Uuid.ofString?_text id)

/-- A row count that the database takes. -/
def takeCount (P : Platform) (n : Nat) : Except Thrown Nat :=
  if P.takesCount n then .ok n else .error (.queryFailed "22003" "bigint out of range")

theorem takeCount_eq_ok {P : Platform} {m n : Nat} :
    takeCount P m = .ok n ↔ m = n ∧ P.takesCount m = true := by
  unfold takeCount
  split <;> simp_all

/-- The row count of a `LIMIT` or an `OFFSET`. -/
def rowCount (P : Platform) (n : JsNumber) : Except Thrown Nat :=
  match n with
  | .nan => .error (.error "Provided value is not a number. Please provide a numeric value.")
  | n =>
      match n.toCount with
      | none => .error (.queryFailed "2201W" "LIMIT or OFFSET must not be negative")
      | some k => takeCount P k

/-- The rows of one page.  TypeORM leaves out a `LIMIT` of zero. -/
def slice {α : Type} (P : Platform) (skip take : JsNumber) (rows : List α) :
    Except Thrown (List α) := do
  let offset ← rowCount P skip
  let limit ← rowCount P take
  let rest := rows.drop offset
  return if take = .finite 0 then rest else rest.take limit

/-- One page of the rows and the number of all of them. -/
def findAndCount {α : Type} (P : Platform) (skip take : JsNumber) (rows : List α) :
    Except Thrown (List α × Nat) := do
  let page ← slice P skip take rows
  return (page, rows.length)

/-- Texts that are sent as the parameters of a query: the database refuses one that it cannot
hold. -/
def sendTexts (P : Platform) (texts : List String) : Except Thrown Unit :=
  if texts.all P.takesText then .ok ()
  else .error (.queryFailed "22021" "invalid byte sequence for encoding \"UTF8\": 0x00")

theorem sendTexts_eq_ok {P : Platform} {texts : List String} {u : Unit} :
    sendTexts P texts = .ok u ↔ ∀ t ∈ texts, P.takesText t = true := by
  unfold sendTexts
  split <;> simp_all

/-- An integer that is written to a column, if there is one. -/
def sendInteger (P : Platform) (n : Option Int) : Except Thrown Unit :=
  if n.all P.takesInteger then .ok () else .error (.queryFailed "22003" "integer out of range")

/-- The search text of a list query: an empty one is not sent. -/
def sendSearch (P : Platform) (search : Option String) : Except Thrown Unit :=
  sendTexts P (search.filter (· ≠ "")).toList

/-- The database takes a search text, unless it is not sent. -/
def Platform.TakesSearch (P : Platform) (search : Option String) : Prop :=
  ∀ text, search = some text → text ≠ "" → P.takesText text = true

theorem sendSearch_eq_ok {P : Platform} {search : Option String} {u : Unit} :
    sendSearch P search = .ok u ↔ P.TakesSearch search := by
  rw [sendSearch, sendTexts_eq_ok]
  cases search with
  | none => simp [Platform.TakesSearch]
  | some text =>
    by_cases htext : text = ""
    · simp [Platform.TakesSearch, htext]
    · simp [Platform.TakesSearch, htext]

/-- The rows whose text contains the search text as an `ILIKE` pattern. -/
def searchBy {α : Type} (P : Platform) (text : α → String) (search : Option String)
    (rows : List α) : List α :=
  match search with
  | none => rows
  | some t => if t = "" then rows else rows.filter fun a => P.ilike ("%" ++ t ++ "%") (text a)

end VoltFleet
