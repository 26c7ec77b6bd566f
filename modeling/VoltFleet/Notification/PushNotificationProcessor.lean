import VoltFleet.Audit.AuditService
import VoltFleet.Notification.NotificationService

/-!
# `PushNotificationProcessor`

The consumer of the queue.  An attempt at a job runs `handleSendPush`; the queue
emits an event after every attempt and retries a job as often as its options allow.
The handlers of the events run some time later, in any order, and write the audit
log.
-/

namespace VoltFleet

/-- What the queue emits after an attempt. -/
inductive QueueEvent where
  | completed
  | failed (error : Thrown)
  deriving DecidableEq

/-- The event of the log that is written for it. -/
def QueueEvent.logged : QueueEvent → String
  | completed => "PushNotificationSent"
  | failed _ => "PushNotificationFailed"

namespace PushNotificationProcessor

/-- An attempt at a job; what it throws makes Bull retry it. -/
def handleSendPush (messaging : PushMessage → Bool) (job : Job) : Except Thrown Unit :=
  PushNotificationStrategy.send messaging job.recipient job.message job.metadata

/-- Logs that the notification was sent. -/
def onCompleted (job : Job) : AuditMethod Unit :=
  AuditService.log "PushNotificationSent" job.recipient job.message

/-- Logs why the attempt failed. -/
def onFailed (job : Job) (error : Thrown) : AuditMethod Unit :=
  AuditService.log "PushNotificationFailed" job.recipient error.message

/-- The handler of an event. -/
def on (job : Job) : QueueEvent → AuditMethod Unit
  | .completed => onCompleted job
  | .failed error => onFailed job error

end PushNotificationProcessor

/-- Whether a job is to be attempted, or how it has ended. -/
inductive JobStatus where
  | waiting
  | completed
  | failed
  deriving DecidableEq

/-- A job on the queue. -/
structure QueuedJob where
  job : Job
  attemptsMade : Nat
  status : JobStatus

namespace QueuedJob

/-- The event an attempt ends with. -/
def outcome (messaging : PushMessage → Bool) (job : Job) : QueueEvent :=
  match PushNotificationProcessor.handleSendPush messaging job with
  | .ok () => .completed
  | .error error => .failed error

/-- The job after an attempt that ended with this event. -/
def settle (q : QueuedJob) : QueueEvent → QueuedJob
  | .completed => { q with attemptsMade := q.attemptsMade + 1, status := .completed }
  | .failed _ =>
      { q with
        attemptsMade := q.attemptsMade + 1
        status := if q.attemptsMade + 1 < q.job.attempts then .waiting else .failed }

end QueuedJob

/-- The logs a step has added. -/
def AuditStore.added (before after : AuditStore) : List AuditLog :=
  after.logs.rows.filter (· ∉ before.logs.rows)

/-- The queue, the events whose handlers have not run, and the audit log. -/
structure PushQueue (ι : Type) where
  jobs : ι → QueuedJob
  emitted : List (ι × QueueEvent)
  audit : AuditStore
  /-- The logs saved so far, each with the job it has been written for. -/
  records : List (ι × AuditLog)

namespace PushQueue

variable {ι : Type} [DecidableEq ι]

/-- What can happen next. -/
inductive Move (ι : Type) where
  /-- An attempt at a job comes to its end. -/
  | attempt (i : ι)
  /-- The handler of one of the emitted events runs. -/
  | handle (n : Nat)
  deriving DecidableEq

/-- Jobs that have just been added. -/
def start (jobs : ι → Job) (audit : AuditStore) : PushQueue ι where
  jobs := fun i => ⟨jobs i, 0, .waiting⟩
  emitted := []
  audit := audit
  records := []

/-- The provider's answers are those to the `n`-th attempt at each job. -/
def attempt (messaging : ι → Nat → PushMessage → Bool) (q : PushQueue ι) (i : ι) : PushQueue ι :=
  match (q.jobs i).status with
  | .waiting =>
      let event := QueuedJob.outcome (messaging i (q.jobs i).attemptsMade) (q.jobs i).job
      { q with
        jobs := Function.update q.jobs i ((q.jobs i).settle event)
        emitted := q.emitted ++ [(i, event)] }
  | _ => q

/-- The handler of the `n`-th emitted event runs. -/
def handle (P : Platform) (q : PushQueue ι) (n : Nat) : PushQueue ι :=
  match q.emitted[n]? with
  | none => q
  | some (i, event) =>
      let audit :=
        ((PushNotificationProcessor.on (q.jobs i).job event).run (AuditCmd.exec P) q.audit).2
      { q with
        emitted := q.emitted.eraseIdx n
        audit := audit
        records := q.records ++ (q.audit.added audit).map fun log => (i, log) }

/-- One move of the queue. -/
def move (P : Platform) (messaging : ι → Nat → PushMessage → Bool) (q : PushQueue ι) :
    Move ι → PushQueue ι
  | .attempt i => q.attempt messaging i
  | .handle n => q.handle P n

/-- The queue after a list of moves. -/
def run (P : Platform) (messaging : ι → Nat → PushMessage → Bool) (q : PushQueue ι)
    (ms : List (Move ι)) : PushQueue ι :=
  ms.foldl (move P messaging) q

/-- The events of a job whose handlers have not run. -/
def emittedOf (q : PushQueue ι) (i : ι) : List QueueEvent :=
  (q.emitted.filter (·.1 = i)).map Prod.snd

/-- The logs of a job. -/
def recordsOf (q : PushQueue ι) (i : ι) : List AuditLog :=
  (q.records.filter (·.1 = i)).map Prod.snd

/-- No attempt follows and every event has been handled. -/
def Finished (q : PushQueue ι) (i : ι) : Prop :=
  (q.jobs i).status ≠ .waiting ∧ q.emittedOf i = []

/-- The job has one log, which tells how it ended. -/
def OneOutcome (q : PushQueue ι) (i : ι) : Prop :=
  ∃ log, q.recordsOf i = [log] ∧
    log.event = if (q.jobs i).status = .completed then "PushNotificationSent"
      else "PushNotificationFailed"

end PushQueue

end VoltFleet
