import VoltFleet.Common.JsNumber
import VoltFleet.Common.Enums
import VoltFleet.Misc.Json

/-!
# `NotificationService`

A push notification is put on the queue; the strategies of the other channels serve
theirs at once.
-/

namespace VoltFleet

/-- The channels a notification can go by. -/
inductive NotificationChannel where
  | EMAIL
  | SMS
  | PUSH
  deriving DecidableEq

/-- `NotificationMetadataDto`, as far as a push notification has it. -/
structure NotificationMetadata where
  priority : Option JsNumber
  title : Option String
  data : Option (List (String × Json JsNumber))

/-- A `SendNotificationDto` that has passed the pipes. -/
structure SendNotificationDto where
  channel : NotificationChannel
  recipient : String
  message : String
  metadata : Option NotificationMetadata
  recipient_ne : recipient ≠ ""
  message_ne : message ≠ ""

/-! ## The push strategy -/

/-- `admin.messaging.Message`. -/
structure PushMessage where
  token : String
  title : String
  body : String
  data : List (String × Json JsNumber)

namespace PushNotificationStrategy

/-- The message that is sent to a device, with its defaults. -/
def payload (recipient message : String) (metadata : Option NotificationMetadata) :
    PushMessage where
  token := recipient
  title := ((metadata.bind NotificationMetadata.title).filter (· ≠ "")).getD "Notification"
  body := message
  data := (metadata.bind NotificationMetadata.data).getD []

/-- `send`, where `messaging` tells which messages the provider takes. -/
def send (messaging : PushMessage → Bool) (recipient message : String)
    (metadata : Option NotificationMetadata) : Except Thrown Unit :=
  if messaging (payload recipient message metadata) then .ok ()
  else .error (.internalServerError "Failed to send push notification")

end PushNotificationStrategy

/-! ## The queue's jobs -/

/-- The data and the options of a job; the delays between its attempts are left out. -/
structure Job where
  recipient : String
  message : String
  metadata : Option NotificationMetadata
  priority : JsNumber
  attempts : Nat

/-- `sendNotification`: the job it adds to the queue, if it adds one. -/
def NotificationService.sendNotification (dto : SendNotificationDto) : Option Job :=
  if dto.channel = .PUSH then
    some
      { recipient := dto.recipient
        message := dto.message
        metadata := dto.metadata
        priority := (dto.metadata.bind NotificationMetadata.priority).getD (.finite 5)
        attempts := 3 }
  else none

end VoltFleet
