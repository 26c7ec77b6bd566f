import VoltFleet.Notification.PushNotificationProcessor
import VoltFleet.PlainPlatform
import Mathlib.Data.List.Range
import Mathlib.Data.List.Perm.Basic

/-!
# What the audit log says of a push notification

Every attempt at a job has one event, and the handler of an event writes one log.
-/

namespace VoltFleet

open Awaiting

/-! ## The audit log -/

namespace AuditStore

/-- The next `_id` is new. -/
def Fresh (s : AuditStore) : Prop := ∀ log ∈ s.logs.rows, log.id < s.draws

variable {P : Platform} {s : AuditStore} {event target message : String}

/-- A log with a message is saved in front of the others. -/
theorem logs_log (hfresh : s.Fresh) (hmessage : message ≠ "") :
    ((AuditService.log event target message).run (AuditCmd.exec P) s).2.logs.rows =
        ⟨s.draws, event, target, message, s.clock⟩ :: s.logs.rows ∧
      ((AuditService.log event target message).run (AuditCmd.exec P) s).2.Fresh := by
  have hnew : s.draws ∉ s.logs.rows.map AuditLog.id := by
    intro hmem
    obtain ⟨log, hlog, hid⟩ := List.mem_map.mp hmem
    have := hfresh log hlog
    omega
  rw [AuditService.run_log hmessage hnew]
  refine ⟨rfl, ?_⟩
  intro log hlog
  rcases List.mem_cons.mp hlog with rfl | hold
  · exact Nat.lt_succ_self _
  · exact Nat.lt_succ_of_lt (hfresh log hold)

/-- What is in front of the old logs has been added. -/
theorem added_cons {after : AuditStore} {log : AuditLog}
    (h : after.logs.rows = log :: s.logs.rows) : s.added after = [log] := by
  have hnodup := after.logs.rows_nodup
  rw [h] at hnodup
  have hold : s.logs.rows.filter (· ∉ s.logs.rows) = [] := by simp
  rw [added, h, List.filter_cons_of_pos (by simpa using (List.nodup_cons.mp hnodup).1), hold]

end AuditStore

/-! ## A single job -/

namespace QueuedJob

variable {answers : Nat → PushMessage → Bool} {q : QueuedJob}

theorem outcome_eq_completed {messaging : PushMessage → Bool} {job : Job} :
    outcome messaging job = .completed ↔
      messaging (PushNotificationStrategy.payload job.recipient job.message job.metadata) =
        true := by
  unfold outcome PushNotificationProcessor.handleSendPush PushNotificationStrategy.send
  cases messaging (PushNotificationStrategy.payload job.recipient job.message job.metadata) <;>
    simp

theorem message_ne {messaging : PushMessage → Bool} {job : Job} {error : Thrown}
    (h : outcome messaging job = .failed error) : error.message ≠ "" := by
  unfold outcome PushNotificationProcessor.handleSendPush PushNotificationStrategy.send at h
  cases hsent : messaging
      (PushNotificationStrategy.payload job.recipient job.message job.metadata) with
  | true =>
    rw [hsent] at h
    cases h
  | false =>
    rw [hsent] at h
    cases h
    decide

/-- The attempts that have been made have ended as the status says. -/
def Attempted (answers : Nat → PushMessage → Bool) (q : QueuedJob) : Prop :=
  match q.status with
  | .waiting => q.attemptsMade < q.job.attempts ∧
      ∀ n < q.attemptsMade, outcome (answers n) q.job ≠ .completed
  | .completed => ∃ m, q.attemptsMade = m + 1 ∧ outcome (answers m) q.job = .completed ∧
      ∀ n < m, outcome (answers n) q.job ≠ .completed
  | .failed => q.attemptsMade = q.job.attempts ∧
      ∀ n < q.attemptsMade, outcome (answers n) q.job ≠ .completed

/-- One more attempt. -/
theorem Attempted.settle (h : q.Attempted answers) (hwaiting : q.status = .waiting) :
    (q.settle (outcome (answers q.attemptsMade) q.job)).Attempted answers := by
  rw [Attempted, hwaiting] at h
  obtain ⟨hlimit, hfailed⟩ := h
  cases hevent : outcome (answers q.attemptsMade) q.job with
  | completed => exact ⟨q.attemptsMade, rfl, hevent, hfailed⟩
  | failed error =>
    have hfailed' : ∀ n < q.attemptsMade + 1, outcome (answers n) q.job ≠ .completed := by
      intro n hn
      rcases Nat.lt_succ_iff_lt_or_eq.mp hn with hlt | rfl
      · exact hfailed n hlt
      · rw [hevent]
        exact QueueEvent.noConfusion
    by_cases hmore : q.attemptsMade + 1 < q.job.attempts
    · simp only [QueuedJob.settle, Attempted, if_pos hmore]
      exact ⟨hmore, hfailed'⟩
    · simp only [QueuedJob.settle, Attempted, if_neg hmore]
      exact ⟨by omega, hfailed'⟩

/-- A job that may be attempted more than once has been attempted once in the end if and only
if the first attempt was a success. -/
theorem Attempted.once_iff (h : q.Attempted answers) (hdone : q.status ≠ .waiting)
    (hlimit : 1 < q.job.attempts) :
    q.attemptsMade = 1 ↔ outcome (answers 0) q.job = .completed := by
  unfold Attempted at h
  split at h
  next hstatus => exact absurd hstatus hdone
  next hstatus =>
    obtain ⟨m, hm, hcompleted, hfailed⟩ := h
    constructor
    · intro hone
      obtain rfl : m = 0 := by omega
      exact hcompleted
    · intro hfirst
      by_contra hne
      exact hfailed 0 (by omega) hfirst
  next hstatus =>
    obtain ⟨hm, hfailed⟩ := h
    constructor
    · intro hone
      omega
    · intro hfirst
      exact absurd hfirst (hfailed 0 (by omega))

@[simp] theorem settle_job (event : QueueEvent) : (q.settle event).job = q.job := by
  cases event <;> rfl

@[simp] theorem settle_attemptsMade (event : QueueEvent) :
    (q.settle event).attemptsMade = q.attemptsMade + 1 := by
  cases event <;> rfl

end QueuedJob

/-! ## Runs of the queue -/

namespace PushQueue

variable {ι : Type} [DecidableEq ι] {P : Platform}
  {messaging : ι → Nat → PushMessage → Bool} {jobs : ι → Job} {audit : AuditStore}
  {q : PushQueue ι}

/-- What the attempts at a job that have been made are to be logged as. -/
def due (messaging : ι → Nat → PushMessage → Bool) (q : PushQueue ι) (i : ι) : List String :=
  (List.range (q.jobs i).attemptsMade).map fun n =>
    (QueuedJob.outcome (messaging i n) (q.jobs i).job).logged

/-- The jobs are as they were added, and every attempt is logged once or about to be. -/
structure Inv (messaging : ι → Nat → PushMessage → Bool) (jobs : ι → Job) (audit : AuditStore)
    (q : PushQueue ι) : Prop where
  job : ∀ i, (q.jobs i).job = jobs i
  attempted : ∀ i, (q.jobs i).Attempted (messaging i)
  messages : ∀ e ∈ q.emitted, ∀ error, e.2 = .failed error → error.message ≠ ""
  /-- Every attempt has been logged or is still to be. -/
  accounted : ∀ i, List.Perm
    ((q.recordsOf i).map AuditLog.event ++ (q.emittedOf i).map QueueEvent.logged)
    (q.due messaging i)
  logs : q.audit.logs.rows = (q.records.map Prod.snd).reverse ++ audit.logs.rows
  fresh : q.audit.Fresh

theorem inv_start (hlimit : ∀ i, 0 < (jobs i).attempts) (hfresh : audit.Fresh) :
    Inv messaging jobs audit (start jobs audit) where
  job := fun _ => rfl
  attempted := fun i => ⟨hlimit i, fun _ hn => absurd hn (Nat.not_lt_zero _)⟩
  messages := fun _ he => absurd he List.not_mem_nil
  accounted := fun _ => .refl _
  logs := rfl
  fresh := hfresh

theorem inv_attempt (h : Inv messaging jobs audit q) (i : ι) :
    Inv messaging jobs audit (q.attempt messaging i) := by
  unfold attempt
  split
  next hwaiting =>
    generalize hevent :
      QueuedJob.outcome (messaging i (q.jobs i).attemptsMade) (q.jobs i).job = event
    refine ⟨?job, ?attempted, ?messages, ?accounted, h.logs, h.fresh⟩
    case job =>
      intro j
      by_cases hj : j = i
      · subst hj
        simpa using h.job j
      · simpa [hj] using h.job j
    case attempted =>
      intro j
      by_cases hj : j = i
      · subst hj
        simpa [← hevent] using (h.attempted j).settle hwaiting
      · simpa [hj] using h.attempted j
    case messages =>
      intro e he error herror
      rcases List.mem_append.mp he with hold | hnew
      · exact h.messages e hold error herror
      · obtain rfl := List.mem_singleton.mp hnew
        obtain rfl : event = .failed error := herror
        exact QueuedJob.message_ne hevent
    case accounted =>
      intro j
      by_cases hj : j = i
      · subst hj
        have hdue : due messaging { q with
            jobs := Function.update q.jobs j ((q.jobs j).settle event)
            emitted := q.emitted ++ [(j, event)] } j = q.due messaging j ++ [event.logged] := by
          simp [due, List.range_succ, hevent]
        rw [hdue]
        have hold := (h.accounted j).append_right [event.logged]
        simpa [recordsOf, emittedOf] using hold
      · have hdue : due messaging { q with
            jobs := Function.update q.jobs i ((q.jobs i).settle event)
            emitted := q.emitted ++ [(i, event)] } j = q.due messaging j := by
          simp [due, hj]
        rw [hdue]
        simpa [recordsOf, emittedOf, Ne.symm hj] using h.accounted j
  next => exact h

/-- The handler of an event saves one log, with the event's name. -/
theorem logs_on {job : Job} {event : QueueEvent} {s : AuditStore} (hfresh : s.Fresh)
    (hjob : job.message ≠ "") (hevent : ∀ error, event = .failed error → error.message ≠ "") :
    ∃ log : AuditLog, log.event = event.logged ∧
      ((PushNotificationProcessor.on job event).run (AuditCmd.exec P) s).2.logs.rows =
        log :: s.logs.rows ∧
      ((PushNotificationProcessor.on job event).run (AuditCmd.exec P) s).2.Fresh := by
  cases event with
  | completed => exact ⟨_, rfl, AuditStore.logs_log hfresh hjob⟩
  | failed error => exact ⟨_, rfl, AuditStore.logs_log hfresh (hevent error rfl)⟩

theorem inv_handle (h : Inv messaging jobs audit q) (hjobs : ∀ i, (jobs i).message ≠ "") (n : Nat) :
    Inv messaging jobs audit (q.handle P n) := by
  unfold handle
  split
  next => exact h
  next i event hget =>
    obtain ⟨hn, hevent⟩ := List.getElem?_eq_some_iff.mp hget
    have hmem : (i, event) ∈ q.emitted := by
      rw [← hevent]
      exact List.getElem_mem hn
    have hperm : q.emitted.Perm ((i, event) :: q.emitted.eraseIdx n) := by
      rw [← hevent]
      exact (List.getElem_cons_eraseIdx_perm hn).symm
    have hmessage : (q.jobs i).job.message ≠ "" := by
      rw [h.job i]
      exact hjobs i
    obtain ⟨log, hlog, hrows, hfresh⟩ := logs_on (P := P) h.fresh hmessage (h.messages _ hmem)
    simp only [AuditStore.added_cons hrows]
    refine ⟨h.job, h.attempted, ?messages, ?accounted, ?logs, hfresh⟩
    case messages =>
      intro e he
      exact h.messages e (List.mem_of_mem_eraseIdx he)
    case accounted =>
      intro j
      refine List.Perm.trans ?_ (h.accounted j)
      by_cases hj : i = j
      · subst hj
        have hemitted : (q.emittedOf i).Perm
            (event :: ((q.emitted.eraseIdx n).filter (·.1 = i)).map Prod.snd) := by
          simpa [emittedOf] using (hperm.filter (·.1 = i)).map Prod.snd
        have hrest := (hemitted.map QueueEvent.logged).append_left
          ((q.recordsOf i).map AuditLog.event)
        simpa [recordsOf, emittedOf, hlog] using hrest.symm
      · have hemitted : (q.emittedOf j).Perm
            (((q.emitted.eraseIdx n).filter (·.1 = j)).map Prod.snd) := by
          simpa [emittedOf, hj] using (hperm.filter (·.1 = j)).map Prod.snd
        have hrest := (hemitted.map QueueEvent.logged).append_left
          ((q.recordsOf j).map AuditLog.event)
        simpa [recordsOf, emittedOf, hj] using hrest.symm
    case logs =>
      rw [hrows, h.logs]
      simp

theorem inv_run (hlimit : ∀ i, 0 < (jobs i).attempts) (hjobs : ∀ i, (jobs i).message ≠ "")
    (hfresh : audit.Fresh) (ms : List (Move ι)) :
    Inv messaging jobs audit ((start jobs audit).run P messaging ms) := by
  have step : ∀ (q : PushQueue ι), Inv messaging jobs audit q → ∀ ms : List (Move ι),
      Inv messaging jobs audit (q.run P messaging ms) := by
    intro q h ms
    induction ms generalizing q with
    | nil => exact h
    | cons m ms ih =>
      refine ih (q.move P messaging m) ?_
      cases m with
      | attempt i => exact inv_attempt h i
      | handle n => exact inv_handle h hjobs n
  exact step _ (inv_start hlimit hfresh) ms

/-- A job has one log that tells how it ended if and only if it has been attempted once. -/
theorem oneOutcome_iff_once {i : ι} (h : Inv messaging jobs audit q) (hdone : q.Finished i)
    (hlimit : 1 < (jobs i).attempts) : q.OneOutcome i ↔ (q.jobs i).attemptsMade = 1 := by
  have hperm := h.accounted i
  rw [hdone.2, List.map_nil, List.append_nil] at hperm
  constructor
  · rintro ⟨log, hlog, -⟩
    have hlength := hperm.length_eq
    rw [hlog] at hlength
    simpa [due] using hlength.symm
  · intro hone
    have hattempted := h.attempted i
    rw [← h.job i] at hlimit
    have hcompleted := (hattempted.once_iff hdone.1 hlimit).mp hone
    have hstatus : (q.jobs i).status = .completed := by
      unfold QueuedJob.Attempted at hattempted
      split at hattempted
      next hstatus => exact absurd hstatus hdone.1
      next hstatus => exact hstatus
      next hstatus => exact absurd hcompleted (hattempted.2 0 (by omega))
    have hdue : q.due messaging i = ["PushNotificationSent"] := by
      simp [due, hone, hcompleted, QueueEvent.logged]
    rw [hdue, List.perm_singleton] at hperm
    obtain ⟨log, hlog, hevent⟩ := List.map_eq_singleton_iff.mp hperm
    refine ⟨log, hlog, ?_⟩
    rw [hevent, if_pos hstatus]

/-- However the events are interleaved, a push notification that is done with has exactly one
log, of the right kind, if and only if its first attempt has been a success. -/
theorem oneOutcome_iff (P : Platform) (messaging : ι → Nat → PushMessage → Bool)
    (dtos : ι → SendNotificationDto) (jobs : ι → Job)
    (hjobs : ∀ i, NotificationService.sendNotification (dtos i) = some (jobs i))
    (audit : AuditStore) (hfresh : audit.Fresh) (ms : List (Move ι)) (i : ι)
    (hdone : ((start jobs audit).run P messaging ms).Finished i) :
    ((start jobs audit).run P messaging ms).audit.logs.rows =
        (((start jobs audit).run P messaging ms).records.map Prod.snd).reverse ++ audit.logs.rows ∧
      (((start jobs audit).run P messaging ms).OneOutcome i ↔
        messaging i 0 (PushNotificationStrategy.payload (dtos i).recipient (dtos i).message
          (dtos i).metadata) = true) := by
  have hqueued : ∀ i, (jobs i).attempts = 3 ∧ (jobs i).recipient = (dtos i).recipient ∧
      (jobs i).message = (dtos i).message ∧ (jobs i).metadata = (dtos i).metadata := by
    intro i
    have hjob := hjobs i
    unfold NotificationService.sendNotification at hjob
    split at hjob
    · rw [← Option.some.inj hjob]
      exact ⟨rfl, rfl, rfl, rfl⟩
    · cases hjob
  have hinv : Inv messaging jobs audit ((start jobs audit).run P messaging ms) := by
    refine inv_run ?_ ?_ hfresh ms
    · intro i
      rw [(hqueued i).1]
      exact Nat.succ_pos 2
    · intro i
      rw [(hqueued i).2.2.1]
      exact (dtos i).message_ne
  have hlimit : 1 < (jobs i).attempts := by
    rw [(hqueued i).1]
    exact Nat.one_lt_succ_succ 1
  refine ⟨hinv.logs, ?_⟩
  rw [oneOutcome_iff_once hinv hdone hlimit,
    (hinv.attempted i).once_iff hdone.1 (by rw [hinv.job i]; exact hlimit), hinv.job i,
    QueuedJob.outcome_eq_completed, (hqueued i).2.1, (hqueued i).2.2.1, (hqueued i).2.2.2]

/-- A message to one phone. -/
def greeting : SendNotificationDto where
  channel := .PUSH
  recipient := "phone"
  message := "hello"
  metadata := none
  recipient_ne := by decide
  message_ne := by decide

/-- A job to greet a phone. -/
def greetingJob : Job := ⟨"phone", "hello", none, .finite 5, 3⟩

/-- An empty audit log. -/
def noLogs : AuditStore := ⟨∅, 0, 0⟩

/-- The provider takes the message at the first attempt. -/
theorem oneOutcome_iff_greeting :
    ((start (fun _ : Unit => greetingJob) noLogs).run .plain (fun _ _ _ => true)
        [.attempt (), .handle 0]).audit.logs.rows =
        (((start (fun _ : Unit => greetingJob) noLogs).run .plain (fun _ _ _ => true)
          [.attempt (), .handle 0]).records.map Prod.snd).reverse ++ noLogs.logs.rows ∧
      (((start (fun _ : Unit => greetingJob) noLogs).run .plain (fun _ _ _ => true)
        [.attempt (), .handle 0]).OneOutcome () ↔ true = true) :=
  oneOutcome_iff .plain (fun _ _ _ => true) (fun _ => greeting) (fun _ => greetingJob)
    (fun _ => rfl) noLogs (fun _ h => absurd h List.not_mem_nil) [.attempt (), .handle 0] ()
    ⟨by decide, by decide⟩

/-- The provider takes the message at the second attempt: it has been logged as failed too. -/
theorem two_outcomes :
    NotificationService.sendNotification greeting = some greetingJob ∧
      ((start (fun _ : Unit => greetingJob) noLogs).run .plain (fun _ n _ => n = 1)
        [.attempt (), .attempt (), .handle 0, .handle 0]).Finished () ∧
      ¬((start (fun _ : Unit => greetingJob) noLogs).run .plain (fun _ n _ => n = 1)
        [.attempt (), .attempt (), .handle 0, .handle 0]).OneOutcome () := by
  refine ⟨rfl, ⟨by decide, by decide⟩, ?_⟩
  rintro ⟨log, hlog, -⟩
  have hlength : (((start (fun _ : Unit => greetingJob) noLogs).run .plain (fun _ n _ => n = 1)
      [.attempt (), .attempt (), .handle 0, .handle 0]).recordsOf ()).length = 2 := by
    decide +kernel
  rw [hlog] at hlength
  cases hlength

end PushQueue

end VoltFleet
