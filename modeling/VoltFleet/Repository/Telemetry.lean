import VoltFleet.Repository.Rows

/-!
# The `telemetry` repository

`vehicleId` is both a column and the join column of the relation `vehicle`, so
that a row refers to a stored vehicle.
-/

namespace VoltFleet

/-- What `create` is given for a reading. -/
structure NewTelemetry where
  vehicleId : String
  latitude : ℚ
  longitude : ℚ
  speed : ℚ
  soc : ℚ
  temperature : ℚ
  fleetId : String
  deriving DecidableEq

/-- The calls of the telemetry repository. -/
inductive TelemetryCmd where
  | findLatest (vehicleId : String)
  | getManyAndCount (vehicleId : String) (from? to? : Option String) (skip take : JsNumber)
  | insert (rec : NewTelemetry)

/-- What a call returns. -/
abbrev TelemetryCmd.Answer : TelemetryCmd → Type
  | .findLatest _ => Option TelemetryRow
  | .getManyAndCount .. => List TelemetryRow × Nat
  | .insert _ => TelemetryRow

/-- Insert a reading of a stored vehicle. -/
def insertTelemetry (P : Platform) (s : Store) (rec : NewTelemetry) :
    Except Thrown (TelemetryRow × Store) := do
  sendTexts P [rec.fleetId]
  let vehicleId ← uuidParam rec.vehicleId
  checkReference s.vehicles (some vehicleId)
  let row : TelemetryRow :=
    { id := P.uuid s.draws
      vehicleId := vehicleId
      latitude := rec.latitude
      longitude := rec.longitude
      speed := rec.speed
      soc := rec.soc
      temperature := rec.temperature
      fleetId := some rec.fleetId
      createdAt := s.clock }
  match s.telemetry.insert? row with
  | none => throw .duplicateKey
  | some telemetry => return (row, { s with telemetry := telemetry, draws := s.draws + 1 })

/-- What a reading is stored as. -/
theorem insertTelemetry_ok {P : Platform} {s s' : Store} {rec : NewTelemetry} {row : TelemetryRow}
    (h : insertTelemetry P s rec = .ok (row, s')) :
    Uuid.ofString? rec.vehicleId = some row.vehicleId ∧ row.fleetId = some rec.fleetId ∧
      row.createdAt = s.clock ∧ ∃ telemetry, telemetry.rows = row :: s.telemetry.rows ∧
        s' = { s with telemetry := telemetry, draws := s.draws + 1 } := by
  obtain ⟨_, -, h⟩ := bind_eq_ok.mp h
  obtain ⟨u, hu, h⟩ := bind_eq_ok.mp h
  obtain ⟨_, -, h⟩ := bind_eq_ok.mp h
  dsimp only at h
  split at h
  next => cases h
  next telemetry hinsert =>
    cases h
    exact ⟨uuidParam_eq_ok.mp hu, rfl, rfl, telemetry, Keyed.Records.insert?_eq_some hinsert, rfl⟩

/-- A date that is compared with a `timestamp` column. -/
def dateParam (P : Platform) (text : String) : Except Thrown Nat :=
  match P.timestamp text with
  | none => .error (.queryFailed "22007" "invalid input syntax for type timestamp")
  | some t => .ok t

/-- The readings of a vehicle, the latest first. -/
def history (P : Platform) (s : Store) (vehicleId : Uuid) (keep : TelemetryRow → Bool) :
    List TelemetryRow :=
  ((P.scan s.draws s.telemetry.rows).filter fun r => r.vehicleId = vehicleId ∧ keep r).mergeSort
    fun a b => b.createdAt ≤ a.createdAt

/-- What a call does to the store. -/
def TelemetryCmd.exec (P : Platform) (s : Store) :
    (c : TelemetryCmd) → Except Thrown c.Answer × Store
  | .findLatest vehicleId =>
      (do return (history P s (← uuidParam vehicleId) fun _ => true).head?,
        { s with draws := s.draws + 1 })
  | .getManyAndCount vehicleId from? to? skip take =>
      (do
        let vehicleId ← uuidParam vehicleId
        let from? ← from?.mapM (dateParam P)
        let to? ← to?.mapM (dateParam P)
        findAndCount P skip take (history P s vehicleId fun r =>
          from?.all (· ≤ r.createdAt) ∧ to?.all (r.createdAt ≤ ·)),
        { s with draws := s.draws + 1 })
  | .insert rec => commit s (insertTelemetry P s rec)

end VoltFleet
