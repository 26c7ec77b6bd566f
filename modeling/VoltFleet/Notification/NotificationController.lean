import VoltFleet.Auth.JwtStrategy
import VoltFleet.Misc.Extension
import VoltFleet.Notification.PushNotificationProcessor

/-!
# `NotificationController`

A request is authorized and handed over: a push notification to the queue, a mail to the
mail server, a text to the console.  The jobs on the queue are attempted some time later,
in any order.  Which messages are taken is up to the providers.
-/

namespace VoltFleet

open Awaiting

/-- What a mail has of `NotificationMetadataDto`. -/
structure MailMetadata where
  subject : Option String
  html : Option String

/-- The body of a request that has passed the pipes, and its bearer token. -/
structure NotificationRequest where
  bearer : Option String
  dto : SendNotificationDto
  mail : MailMetadata

/-- The options of `sendMail`. -/
structure MailOptions where
  /-- `from`. -/
  sender : String
  /-- `to`. -/
  recipient : String
  subject : String
  text : String
  html : String
  deriving DecidableEq

/-- What the notification service awaits beside the commands of the others. -/
inductive NotificationCmd where
  | add (job : Job)
  | sendMail (options : MailOptions)
  | sendPush (message : PushMessage)
  | print (line : String)

/-- None of them returns anything that is used. -/
abbrev NotificationCmd.Answer : NotificationCmd → Type := fun _ => Unit

/-- What the providers do with the messages they are given. -/
structure Providers where
  /-- The error the mail server answers the `n`-th mail with, if it does not take it. -/
  mailer : Nat → MailOptions → Option String
  /-- Whether the push provider takes the message of the `m`-th attempt at the `n`-th job. -/
  messaging : Nat → Nat → PushMessage → Bool
  /-- Whether it takes a message that no job has sent. -/
  direct : PushMessage → Bool

/-- The queue, and what the providers have taken. -/
structure Outbox where
  jobs : List QueuedJob
  /-- The messages taken from jobs, each with the number of its job. -/
  pushed : List (Nat × PushMessage)
  pushedDirectly : List PushMessage
  mailed : List MailOptions
  /-- The number of mails the server has been given. -/
  mails : Nat
  console : List String

/-- Nothing has been sent. -/
def Outbox.empty : Outbox := ⟨[], [], [], [], 0, []⟩

/-- What a command does to the queue and at the providers. -/
def NotificationCmd.exec (V : Providers) (o : Outbox) :
    (c : NotificationCmd) → Except Thrown c.Answer × Outbox
  | .add job => (.ok (), { o with jobs := o.jobs ++ [⟨job, 0, .waiting⟩] })
  | .sendMail options =>
      match V.mailer o.mails options with
      | none => (.ok (), { o with mails := o.mails + 1, mailed := o.mailed ++ [options] })
      | some message => (.error (.error message), { o with mails := o.mails + 1 })
  | .sendPush message =>
      if V.direct message then
        (.ok (), { o with pushedDirectly := o.pushedDirectly ++ [message] })
      else (.error (.error "Requested entity was not found."), o)
  | .print line => (.ok (), { o with console := o.console ++ [line] })

/-- The message of a job. -/
def Job.payload (job : Job) : PushMessage :=
  PushNotificationStrategy.payload job.recipient job.message job.metadata

/-- The queue lets the processor attempt its `n`-th job. -/
def Outbox.attempt (V : Providers) (o : Outbox) (n : Nat) : Outbox :=
  match o.jobs[n]? with
  | none => o
  | some q =>
      match q.status with
      | .waiting =>
          let event := QueuedJob.outcome (V.messaging n q.attemptsMade) q.job
          { o with
            jobs := o.jobs.set n (q.settle event)
            pushed := if event = .completed then o.pushed ++ [(n, q.job.payload)] else o.pushed }
      | _ => o

/-- All commands of a request. -/
abbrev SendingCmd : Type := Cmd ⊕ NotificationCmd

/-- What a command returns. -/
abbrev SendingCmd.Answer : SendingCmd → Type := Sum.elim Cmd.Answer NotificationCmd.Answer

/-- An `async` method that may send notifications. -/
abbrev NotificationMethod (α : Type) : Type := Prog SendingCmd SendingCmd.Answer Thrown α

/-! ## The strategies -/

/-- `value || default`. -/
def textOr (value : Option String) (default : String) : String :=
  (value.filter (· ≠ "")).getD default

namespace EmailNotificationStrategy

/-- The mail of a notification, with its defaults. -/
def mailOptions (emailUser recipient message : String) (metadata : MailMetadata) :
    MailOptions where
  sender := "\"Fastr\" <" ++ emailUser ++ ">"
  recipient := recipient
  subject := textOr metadata.subject "Notification"
  text := message
  html := textOr metadata.html ("<p>" ++ message ++ "</p>")

/-- Sends the mail; a refusal is the fault of the request. -/
def send (emailUser recipient message : String) (metadata : MailMetadata) :
    NotificationMethod Unit := do
  try Prog.await (Sum.inr (.sendMail (mailOptions emailUser recipient message metadata)))
  catch error =>
    throw (.badRequest ("Failed to send email: " ++ textOr (some error.message) "Unknown error"))

end EmailNotificationStrategy

namespace SmsNotificationStrategy

/-- The line a text message is printed as. -/
def line (recipient message : String) : String := "Sending SMS to " ++ recipient ++ ": " ++ message

/-- Prints the message. -/
def send (recipient message : String) : NotificationMethod Unit :=
  Prog.await (Sum.inr (.print (line recipient message)))

end SmsNotificationStrategy

/-- `PushNotificationStrategy.send` in a request. -/
def PushNotificationStrategy.sendNow (recipient message : String)
    (metadata : Option NotificationMetadata) : NotificationMethod Unit := do
  try Prog.await (Sum.inr (.sendPush (payload recipient message metadata)))
  catch _ => throw (.internalServerError "Failed to send push notification")

/-- `getStrategy`, and `send` of the strategy for a request. -/
def NotificationFactory.sendBy (emailUser : String) (request : NotificationRequest) :
    NotificationChannel → NotificationMethod Unit
  | .EMAIL =>
      EmailNotificationStrategy.send emailUser request.dto.recipient request.dto.message
        request.mail
  | .SMS => SmsNotificationStrategy.send request.dto.recipient request.dto.message
  | .PUSH =>
      PushNotificationStrategy.sendNow request.dto.recipient request.dto.message
        request.dto.metadata

/-- `sendNotification`, with the job or the strategy that it awaits. -/
def NotificationService.dispatch (emailUser : String) (request : NotificationRequest) :
    NotificationMethod Unit :=
  match NotificationService.sendNotification request.dto with
  | some job => Prog.await (Sum.inr (.add job))
  | none => NotificationFactory.sendBy emailUser request request.dto.channel

/-- What a request that is served returns. -/
def NotificationController.sent : String := "Notification sent successfully"

/-- `send`, behind `AuthGuard()`. -/
def NotificationController.send (P : Platform) (emailUser : String)
    (request : NotificationRequest) : NotificationMethod String := do
  let _ ← (authGuard P request.bearer).extend
  NotificationService.dispatch emailUser request
  return sent

/-! ## Requests and attempts -/

/-- What happens beside the requests: time passes, and jobs are attempted. -/
inductive SendingMove where
  | elapse (d : Nat)
  | attempt (n : Nat)
  deriving DecidableEq

/-- What a command does to the store and the outbox. -/
def sendingExec (P : Platform) (V : Providers) :
    Handler SendingCmd SendingCmd.Answer Thrown (Store × Outbox)
  | .inl c, s => ((exec P c s.1).1, (exec P c s.1).2, s.2)
  | .inr c, s => ((c.exec V s.2).1, s.1, (c.exec V s.2).2)

/-- The queue can fail; the providers answer, and the console takes every line. -/
def sendingFault : SendingCmd → Option Thrown
  | .inl c => canFail c
  | .inr (.add _) => some .storeFailed
  | .inr _ => none

/-- The services, the queue and the providers, beside which time passes and jobs are attempted. -/
def sendingSystem (P : Platform) (V : Providers) :
    System SendingCmd SendingCmd.Answer Thrown (Store × Outbox) SendingMove where
  handler := sendingExec P V
  fault := sendingFault
  env
    | .elapse d, s => (elapse d s.1, s.2)
    | .attempt n, s => (s.1, s.2.attempt V n)

/-- Requests that are being served, by their numbers. -/
abbrev Sending (ι : Type) : Type :=
  Config ι SendingCmd SendingCmd.Answer Thrown String (Store × Outbox)

namespace Sending

variable {ι : Type} [DecidableEq ι]

/-- The requests are about to be served, and nothing has been sent. -/
def started (P : Platform) (emailUser : String) (s : Store) (requests : ι → NotificationRequest) :
    Sending ι :=
  .start (s, .empty) fun i => NotificationController.send P emailUser (requests i)

end Sending

end VoltFleet
