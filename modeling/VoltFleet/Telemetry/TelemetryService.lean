import VoltFleet.Auth.Repositories

/-!
# `TelemetryService`
-/

namespace VoltFleet

/-- `CreateTelemetryDto`; `fleetId` is `none` where it is missing or `null`. -/
structure CreateTelemetryDto where
  vehicleId : String
  latitude : ℚ
  longitude : ℚ
  speed : ℚ
  soc : ℚ
  temperature : ℚ
  fleetId : Option String
  deriving DecidableEq

/-- The query of `getHistory`. -/
structure GetHistoryDto where
  from? : Option String
  to? : Option String
  page : Option String
  perPage : Option String
  deriving DecidableEq

/-- `dto.fleetId ?? 'unknown'`. -/
def CreateTelemetryDto.room (dto : CreateTelemetryDto) : String := dto.fleetId.getD "unknown"

namespace TelemetryService

/-- Returns the `payload` of the response. -/
def ingestTelemetry (dto : CreateTelemetryDto) : Service TelemetryPayload := do
  match ← Service.await (.vehicles (.findOne dto.vehicleId)) with
  | none => throw (.notFound "Vehicle not found")
  | some _ =>
      let receivedAt ← Service.await (.process .now)
      let payload : TelemetryPayload :=
        { vehicleId := dto.vehicleId
          fleetId := dto.room
          latitude := dto.latitude
          longitude := dto.longitude
          speed := dto.speed
          soc := dto.soc
          temperature := dto.temperature
          receivedAt := receivedAt }
      if payload.fleetId ≠ "" then
        try Service.await (.process (.broadcast payload.fleetId payload))
        catch _ => pure ()
      try
        let _ ← Service.await (.telemetry (.insert
          { vehicleId := dto.vehicleId
            latitude := dto.latitude
            longitude := dto.longitude
            speed := dto.speed
            soc := dto.soc
            temperature := dto.temperature
            fleetId := dto.room }))
      catch _ => pure ()
      return payload

/-- The latest reading of a vehicle. -/
def getLatest (vehicleId : String) : Service (Option TelemetryRow) :=
  Service.await (.telemetry (.findLatest vehicleId))

/-- A page of the readings of a vehicle between two dates, latest first. -/
def getHistory (P : Platform) (vehicleId : String) (getHistoryDto : GetHistoryDto)
    (req : Option Request) : Service (PaginationResult TelemetryRow) := do
  let page := P.param getHistoryDto.page 1
  let perPage := P.param getHistoryDto.perPage 10
  let (data, total) ←
    Service.await (.telemetry (.getManyAndCount vehicleId (getHistoryDto.from?.filter (· ≠ ""))
      (getHistoryDto.to?.filter (· ≠ "")) (skipOf page perPage) perPage.value))
  Service.lift (generatePagination P page perPage total req data)

end TelemetryService

end VoltFleet
