import VoltFleet.Auth.Proofs.Accounts
import VoltFleet.Misc.Notes
import VoltFleet.Notification.NotificationController
import VoltFleet.Notification.Proofs.Outcomes
import VoltFleet.PlainPlatform

/-!
# What becomes of a notification

A request that has been served has handed its notification over once, and one that has
failed has not.  A job on the queue is attempted until the provider takes its message or
three attempts have failed, so that no message is taken twice.
-/

namespace VoltFleet

open Awaiting

/-! ## What a request hands over -/

/-- What is handed over: a job, a mail, a line or a push message. -/
inductive Handed where
  | job (job : Job)
  | mail (options : MailOptions)
  | line (line : String)
  | push (message : PushMessage)

namespace Handed

/-- What a completed command has handed over. -/
def ofCmd : (c : SendingCmd) → Except Thrown (SendingCmd.Answer c) → Option Handed
  | .inr (.add j), .ok _ => some (.job j)
  | .inr (.sendMail options), .ok _ => some (.mail options)
  | .inr (.print text), .ok _ => some (.line text)
  | .inr (.sendPush message), .ok _ => some (.push message)
  | _, _ => none

/-- The job, if it is one. -/
@[simp] def job? : Handed → Option Job
  | job j => some j
  | _ => none

/-- The mail, if it is one. -/
@[simp] def mail? : Handed → Option MailOptions
  | mail options => some options
  | _ => none

/-- The line, if it is one. -/
@[simp] def line? : Handed → Option String
  | line text => some text
  | _ => none

/-- The push message, if it is one. -/
@[simp] def push? : Handed → Option PushMessage
  | push message => some message
  | _ => none

theorem ofCmd_error (c : SendingCmd) (e : Thrown) : ofCmd c (.error e) = none := by
  cases c with
  | inl c => rfl
  | inr c => cases c <;> rfl

end Handed

/-- Nothing has been handed over, and `a` is not returned; or `h` has, and it is. -/
inductive HandsOver {α : Type} (h : Handed) (a : α) :
    List Handed → Option (Except Thrown α) → Prop
  | nothing {o : Option (Except Thrown α)} (ho : ∀ b, o ≠ some (.ok b)) : HandsOver h a [] o
  | handed : HandsOver h a [h] (some (.ok a))

section

variable {α β : Type} {h : Handed}

theorem HandsOver.elim {a : α} {l : List Handed} {o : Option (Except Thrown α)}
    (hl : HandsOver h a l o) : (l = [] ∧ ∀ b, o ≠ some (.ok b)) ∨ (l = [h] ∧ o = some (.ok a)) := by
  cases hl with
  | nothing ho => exact .inl ⟨rfl, ho⟩
  | handed => exact .inr ⟨rfl, rfl⟩

theorem handsOver_await {c : NotificationCmd} (hc : Handed.ofCmd (.inr c) (.ok ()) = some h) :
    (Prog.await (Sum.inr c) : NotificationMethod Unit).Tells Handed.ofCmd (HandsOver h ()) := by
  refine ⟨.nothing nofun, fun r => ?_⟩
  cases r with
  | error e =>
    rw [Handed.ofCmd_error]
    exact .nothing nofun
  | ok u =>
    have hok : Handed.ofCmd (.inr c) (.ok u) = some h := hc
    rw [hok]
    exact .handed

/-- An error is passed on as another. -/
theorem handsOver_rethrow {p : NotificationMethod α} {a : α} {f : Thrown → Thrown}
    (hp : p.Tells Handed.ofCmd (HandsOver h a)) :
    (MonadExcept.tryCatch p fun e => throw (f e)).Tells Handed.ofCmd (HandsOver h a) := by
  refine hp.tryCatch (fun _ _ hl => hl) (fun l e hl => ?_) fun _ hl => hl
  cases hl with
  | nothing _ => exact .nothing nofun

/-- Something else is returned. -/
theorem handsOver_return {p : NotificationMethod α} {a : α}
    (hp : p.Tells Handed.ofCmd (HandsOver h a)) (b : β) :
    (p >>= fun _ => pure b).Tells Handed.ofCmd (HandsOver h b) := by
  refine hp.bind (fun l a hl => ?_) (fun l e hl => ?_) fun l hl => ?_
  · cases hl with
    | nothing ho => exact absurd rfl (ho a)
    | handed => exact .handed
  · cases hl with
    | nothing _ => exact .nothing nofun
  · cases hl with
    | nothing _ => exact .nothing nofun

end

namespace NotificationRequest

/-- The job of a push notification. -/
def job (request : NotificationRequest) : Job where
  recipient := request.dto.recipient
  message := request.dto.message
  metadata := request.dto.metadata
  priority := (request.dto.metadata.bind NotificationMetadata.priority).getD (.finite 5)
  attempts := 3

/-- The mail of a request. -/
def options (emailUser : String) (request : NotificationRequest) : MailOptions :=
  EmailNotificationStrategy.mailOptions emailUser request.dto.recipient request.dto.message
    request.mail

/-- The printed line of a request. -/
def line (request : NotificationRequest) : String :=
  SmsNotificationStrategy.line request.dto.recipient request.dto.message

/-- What a request hands over on its channel. -/
def handedOver (emailUser : String) (request : NotificationRequest) : Handed :=
  match request.dto.channel with
  | .EMAIL => .mail (request.options emailUser)
  | .SMS => .line request.line
  | .PUSH => .job request.job

variable {emailUser : String} {request : NotificationRequest}

theorem dispatch_handsOver :
    (NotificationService.dispatch emailUser request).Tells Handed.ofCmd
      (HandsOver (request.handedOver emailUser) ()) := by
  unfold NotificationService.dispatch NotificationService.sendNotification handedOver
  cases request.dto.channel with
  | EMAIL => exact handsOver_rethrow (handsOver_await rfl)
  | SMS => exact handsOver_await rfl
  | PUSH => exact handsOver_await rfl

/-- A request hands over its notification, once it is authorized. -/
theorem send_handsOver (P : Platform) :
    (NotificationController.send P emailUser request).Tells Handed.ofCmd
      (HandsOver (request.handedOver emailUser) NotificationController.sent) := by
  have hguard : ((authGuard P request.bearer).extend : NotificationMethod User).Issues
      fun c => c.isLeft = true :=
    .extend ((authGuard_issues request.bearer).mono fun _ _ => rfl)
  have hsilent : ((authGuard P request.bearer).extend : NotificationMethod User).Tells
      Handed.ofCmd fun l _ => l = [] := by
    refine hguard.tells fun c r hc => ?_
    cases c with
    | inl c => rfl
    | inr c => cases hc
  refine hsilent.bind (fun l user hl => ?_) (fun l e hl => ?_) fun l hl => ?_
  · subst hl
    exact handsOver_return dispatch_handsOver _
  · subst hl
    exact .nothing nofun
  · subst hl
    exact .nothing nofun

end NotificationRequest

/-! ## The outbox -/

namespace Outbox

/-- The messages of the `n`-th job that have been taken. -/
def taken (o : Outbox) (n : Nat) : List PushMessage :=
  (o.pushed.filter (·.1 = n)).map Prod.snd

/-- The messages of the `n`-th job that are to have been taken. -/
def due (o : Outbox) (n : Nat) : List PushMessage :=
  match o.jobs[n]? with
  | none => []
  | some q => if q.status = .completed then [q.job.payload] else []

/-- The outbox holds what has been handed over, and every job has been attempted as its status
says; the message of a completed job has been taken once, and no other message. -/
structure Holds (V : Providers) (l : List Handed) (o : Outbox) : Prop where
  jobs : o.jobs.map QueuedJob.job = l.filterMap Handed.job?
  mailed : o.mailed = l.filterMap Handed.mail?
  console : o.console = l.filterMap Handed.line?
  direct : o.pushedDirectly = l.filterMap Handed.push?
  attempted : ∀ n (q : QueuedJob), o.jobs[n]? = some q → q.Attempted (V.messaging n)
  taken : ∀ n, o.taken n = o.due n

variable {V : Providers} {l : List Handed} {o : Outbox}

theorem holds_empty (V : Providers) : Holds V [] .empty := by
  refine ⟨rfl, rfl, rfl, rfl, ?_, fun _ => rfl⟩
  intro n q hq
  simp [Outbox.empty] at hq

/-- The commands whose jobs may be attempted. -/
def Attemptable (c : SendingCmd) : Prop := ∀ job, c = .inr (.add job) → 0 < job.attempts

theorem Holds.add (h : Holds V l o) {job : Job} (hjob : 0 < job.attempts) :
    Holds V (l ++ [.job job]) { o with jobs := o.jobs ++ [⟨job, 0, .waiting⟩] } := by
  have hget : ∀ n, (o.jobs ++ [⟨job, 0, .waiting⟩])[n]? =
      if n = o.jobs.length then some ⟨job, 0, .waiting⟩ else o.jobs[n]? := by
    intro n
    by_cases hn : n = o.jobs.length
    · simp [hn]
    · rcases Nat.lt_or_gt_of_ne hn with hlt | hgt
      · rw [List.getElem?_append_left hlt, if_neg hn]
      · rw [if_neg hn, List.getElem?_eq_none_iff.mpr (Nat.le_of_lt hgt)]
        simp only [List.getElem?_eq_none_iff, List.length_append, List.length_singleton]
        omega
  constructor
  case jobs => simp [h.jobs, Handed.job?]
  case mailed => simp [h.mailed, Handed.mail?]
  case console => simp [h.console, Handed.line?]
  case direct => simp [h.direct, Handed.push?]
  case attempted =>
    intro n q hq
    simp only [hget] at hq
    split at hq
    · cases hq
      exact ⟨hjob, fun n hn => absurd hn (Nat.not_lt_zero n)⟩
    · exact h.attempted n q hq
  case taken =>
    intro n
    have hn := h.taken n
    simp only [Outbox.taken, due, hget] at hn ⊢
    rw [hn]
    by_cases hlast : n = o.jobs.length
    · simp [hlast]
    · rw [if_neg hlast]

/-- The other commands leave the jobs and what has been taken of them. -/
theorem Holds.of_jobs (h : Holds V l o) {l' : List Handed} {o' : Outbox}
    (hjobs : o'.jobs = o.jobs) (hpushed : o'.pushed = o.pushed)
    (hl : l'.filterMap Handed.job? = l.filterMap Handed.job?)
    (hmailed : o'.mailed = l'.filterMap Handed.mail?)
    (hconsole : o'.console = l'.filterMap Handed.line?)
    (hdirect : o'.pushedDirectly = l'.filterMap Handed.push?) : Holds V l' o' := by
  refine ⟨?_, hmailed, hconsole, hdirect, ?_, ?_⟩
  · rw [hjobs, hl]
    exact h.jobs
  · rw [hjobs]
    exact h.attempted
  · intro n
    rw [Outbox.taken, due, hjobs, hpushed]
    exact h.taken n

/-- A command that fails hands nothing over. -/
theorem Holds.error (h : Holds V l o) (c : SendingCmd) (e : Thrown) :
    Holds V (l ++ (Handed.ofCmd c (.error e)).toList) o := by
  rw [Handed.ofCmd_error]
  simpa using h

/-- A command adds to the outbox what it hands over. -/
theorem Holds.exec (h : Holds V l o) {c : NotificationCmd} (hc : Attemptable (.inr c)) :
    Holds V (l ++ (Handed.ofCmd (.inr c) (c.exec V o).1).toList) (c.exec V o).2 := by
  cases c with
  | add job => exact h.add (hc job rfl)
  | sendMail options =>
    simp only [NotificationCmd.exec]
    cases V.mailer o.mails options with
    | none =>
      exact h.of_jobs rfl rfl (by simp [Handed.ofCmd]) (by simp [Handed.ofCmd, h.mailed])
        (by simp [Handed.ofCmd, h.console]) (by simp [Handed.ofCmd, h.direct])
    | some message =>
      have hgiven : Holds V l { o with mails := o.mails + 1 } :=
        h.of_jobs rfl rfl rfl h.mailed h.console h.direct
      exact hgiven.error _ _
  | sendPush message =>
    simp only [NotificationCmd.exec]
    split
    · exact h.of_jobs rfl rfl (by simp [Handed.ofCmd]) (by simp [Handed.ofCmd, h.mailed])
        (by simp [Handed.ofCmd, h.console]) (by simp [Handed.ofCmd, h.direct])
    · exact h.error _ _
  | print text =>
    exact h.of_jobs rfl rfl (by simp [Handed.ofCmd, NotificationCmd.exec])
      (by simp [Handed.ofCmd, NotificationCmd.exec, h.mailed])
      (by simp [Handed.ofCmd, NotificationCmd.exec, h.console])
      (by simp [Handed.ofCmd, NotificationCmd.exec, h.direct])

/-- An attempt keeps what the outbox holds. -/
theorem Holds.attempt (h : Holds V l o) (n : Nat) : Holds V l (o.attempt V n) := by
  unfold Outbox.attempt
  cases hq : o.jobs[n]? with
  | none => exact h
  | some q =>
    dsimp only
    split
    case h_2 => exact h
    case h_1 hwaiting =>
      have hn : n < o.jobs.length := (List.getElem?_eq_some_iff.mp hq).1
      have hget : ∀ m (q' : QueuedJob), (o.jobs.set n q')[m]? =
          if m = n then some q' else o.jobs[m]? := by
        intro m q'
        rw [List.getElem?_set]
        by_cases hm : n = m
        · subst hm
          simp [hn]
        · rw [if_neg hm, if_neg (Ne.symm hm)]
      constructor
      case jobs =>
        rw [← h.jobs]
        apply List.ext_getElem?
        intro m
        simp only [List.getElem?_map, hget]
        split
        next hm => simp [hm, hq]
        next => rfl
      case mailed => exact h.mailed
      case console => exact h.console
      case direct => exact h.direct
      case attempted =>
        intro m q' hq'
        simp only [hget] at hq'
        split at hq'
        next hm =>
          cases hq'
          subst hm
          exact (h.attempted m q hq).settle hwaiting
        next => exact h.attempted m q' hq'
      case taken =>
        intro m
        have hm := h.taken m
        simp only [Outbox.taken, due, hget] at hm ⊢
        by_cases hmn : m = n
        · subst hmn
          simp only [hq, hwaiting] at hm
          cases QueuedJob.outcome (V.messaging m q.attemptsMade) q.job with
          | completed => simpa [QueuedJob.settle] using hm
          | failed error =>
            by_cases hmore : q.attemptsMade + 1 < q.job.attempts
            · simpa [QueuedJob.settle, hmore] using hm
            · simpa [QueuedJob.settle, hmore] using hm
        · rw [if_neg hmn, ← hm]
          split
          next => simp [Ne.symm hmn]
          next => rfl

end Outbox

/-! ## Runs -/

theorem NotificationRequest.send_attemptable (P : Platform) (emailUser : String)
    (request : NotificationRequest) :
    (NotificationController.send P emailUser request).Issues Outbox.Attemptable := by
  have hguard : ((authGuard P request.bearer).extend : NotificationMethod User).Issues
      Outbox.Attemptable := .extend ((authGuard_issues request.bearer).mono fun _ _ => nofun)
  have hdispatch : (NotificationService.dispatch emailUser request).Issues
      Outbox.Attemptable := by
    unfold NotificationService.dispatch NotificationService.sendNotification
    cases request.dto.channel with
    | EMAIL => exact .tryCatch (.await nofun) fun _ => trivial
    | SMS => exact .await nofun
    | PUSH =>
      refine .await fun job hjob => ?_
      cases hjob
      exact Nat.zero_lt_succ 2
  exact .bind hguard fun _ => .bind hdispatch fun _ => trivial

namespace Sending

variable {ι : Type} [DecidableEq ι] {P : Platform} {V : Providers} {cfg : Sending ι}

/-- What the requests have handed over, oldest first. -/
def handed (cfg : Sending ι) : List (ι × Handed) := (cfg.notes Handed.ofCmd).reverse

/-- The requests that have handed something over, in this order. -/
def owners (cfg : Sending ι) : List ι := cfg.handed.map Prod.fst

theorem handed_deliver (i : ι) (c : SendingCmd)
    (k : Except Thrown (SendingCmd.Answer c) → NotificationMethod String)
    (r : Except Thrown (SendingCmd.Answer c)) (s : Store × Outbox) :
    (handed (cfg.deliver i c k r s)).map Prod.snd =
      cfg.handed.map Prod.snd ++ (Handed.ofCmd c r).toList := by
  unfold handed
  rw [Config.notes_deliver]
  cases Handed.ofCmd c r <;> simp

/-- A move keeps what the outbox holds. -/
theorem holds_move (hcfg : cfg.Issuing Outbox.Attemptable)
    (h : Outbox.Holds V (cfg.handed.map Prod.snd) cfg.store.2) (m : Move ι SendingMove) :
    Outbox.Holds V ((handed (cfg.move (sendingSystem P V) m)).map Prod.snd)
      (cfg.move (sendingSystem P V) m).store.2 := by
  refine Config.move_cases
    (motive := fun cfg : Sending ι => Outbox.Holds V (cfg.handed.map Prod.snd) cfg.store.2) cfg m h
    ?stepped ?faulted ?outside
  case stepped =>
    intro i c k _ hc
    have hi := hcfg i
    rw [hc] at hi
    rw [handed_deliver]
    cases c with
    | inl c =>
      simp only [Handed.ofCmd, Option.toList_none, List.append_nil]
      exact h
    | inr c => exact h.exec hi.1
  case faulted =>
    intro i c k e _ _ _
    rw [handed_deliver]
    exact h.error c e
  case outside =>
    intro x _
    cases x with
    | elapse d => exact h
    | attempt n => exact h.attempt n

theorem holds_exec (P : Platform) (V : Providers) (emailUser : String) (s₀ : Store)
    (requests : ι → NotificationRequest) (ms : List (Move ι SendingMove)) :
    Outbox.Holds V
      ((handed ((started P emailUser s₀ requests).exec (sendingSystem P V) ms)).map Prod.snd)
      ((started P emailUser s₀ requests).exec (sendingSystem P V) ms).store.2 := by
  have step : ∀ (cfg : Sending ι) (m : Move ι SendingMove),
      cfg.Issuing Outbox.Attemptable ∧ Outbox.Holds V (cfg.handed.map Prod.snd) cfg.store.2 →
      (cfg.move (sendingSystem P V) m).Issuing Outbox.Attemptable ∧
        Outbox.Holds V ((handed (cfg.move (sendingSystem P V) m)).map Prod.snd)
          (cfg.move (sendingSystem P V) m).store.2 :=
    fun _ m h => ⟨h.1.move m, holds_move h.1 h.2 m⟩
  have hstart : (started P emailUser s₀ requests).Issuing Outbox.Attemptable :=
    fun i => (requests i).send_attemptable P emailUser
  exact (Config.exec_inv_all step ⟨hstart, Outbox.holds_empty V⟩ ms).2

/-! ## Acknowledgements -/

/-- The requests of a channel. -/
def ofChannel (requests : ι → NotificationRequest) (channel : NotificationChannel)
    (owners : List ι) : List ι :=
  owners.filter fun i => (requests i).dto.channel = channel

variable {requests : ι → NotificationRequest} {emailUser : String}

/-- Every request hands over its own notification when it is served. -/
def Served (emailUser : String) (requests : ι → NotificationRequest) (cfg : Sending ι) : Prop :=
  ∀ i, HandsOver ((requests i).handedOver emailUser) NotificationController.sent
    (cfg.notesOf Handed.ofCmd i) (cfg.threads i).outcome

theorem Served.owners_nodup (h : Served emailUser requests cfg) : cfg.owners.Nodup := by
  have hlength : ∀ i, ((cfg.notesOf Handed.ofCmd i).filterMap some).length ≤ 1 := by
    intro i
    rcases (h i).elim with ⟨hl, _⟩ | ⟨hl, _⟩
    · simp [hl]
    · simp [hl]
  have hnodup := Config.nodup_picked some hlength
  have hmap : (cfg.notes Handed.ofCmd).filterMap (fun n => (some n.2).map (Prod.mk n.1)) =
      cfg.notes Handed.ofCmd := by
    simp
  rw [hmap] at hnodup
  rw [owners, handed, List.map_reverse]
  exact List.nodup_reverse.mpr hnodup

theorem mem_owners {i : ι} : i ∈ cfg.owners ↔ cfg.notesOf Handed.ofCmd i ≠ [] := by
  constructor
  · intro hi
    obtain ⟨n, hn, rfl⟩ := List.mem_map.mp hi
    exact List.ne_nil_of_mem (Config.mem_notesOf.mpr (List.mem_reverse.mp hn))
  · intro hl
    obtain ⟨n, hn⟩ := List.exists_mem_of_ne_nil _ hl
    exact List.mem_map.mpr ⟨(i, n), List.mem_reverse.mpr (Config.mem_notesOf.mp hn), rfl⟩

/-- The requests that have handed something over are those that have been served. -/
theorem Served.mem_owners (h : Served emailUser requests cfg) (i : ι) :
    i ∈ cfg.owners ↔ cfg.threads i = .ret NotificationController.sent := by
  have hreturned : cfg.threads i = .ret NotificationController.sent ↔
      (cfg.threads i).outcome = some (.ok NotificationController.sent) := by
    cases cfg.threads i <;> simp [Prog.outcome]
  rw [Sending.mem_owners, hreturned]
  rcases (h i).elim with ⟨hl, ho⟩ | ⟨hl, ho⟩
  · simp [hl, ho]
  · simp [hl, ho]

theorem Served.handed_eq (h : Served emailUser requests cfg) :
    cfg.handed = cfg.owners.map fun i => (i, (requests i).handedOver emailUser) := by
  have hself : cfg.handed.map id =
      cfg.handed.map fun n => (n.1, (requests n.1).handedOver emailUser) := by
    refine List.map_congr_left fun n hn => ?_
    have hmem : n.2 ∈ cfg.notesOf Handed.ofCmd n.1 :=
      Config.mem_notesOf.mpr (List.mem_reverse.mp hn)
    rcases (h n.1).elim with ⟨hl, _⟩ | ⟨hl, _⟩
    · rw [hl] at hmem
      cases hmem
    · rw [hl, List.mem_singleton] at hmem
      rw [id, ← hmem]
  rw [owners, List.map_map]
  rw [List.map_id] at hself
  exact hself

omit [DecidableEq ι] in
/-- What is picked of the notifications, if it is what the requests of one channel send. -/
theorem filterMap_handedOver {β : Type} {pick : Handed → Option β} {f : ι → β}
    {channel : NotificationChannel}
    (h : ∀ i, pick ((requests i).handedOver emailUser) =
      if (requests i).dto.channel = channel then some (f i) else none) (l : List ι) :
    (l.map fun i => (requests i).handedOver emailUser).filterMap pick =
      (ofChannel requests channel l).map f := by
  induction l with
  | nil => rfl
  | cons i l ih =>
    rw [List.map_cons, List.filterMap_cons, h i, ih, ofChannel, ofChannel, List.filter_cons]
    by_cases hi : (requests i).dto.channel = channel
    · simp [hi]
    · simp [hi]

/-- The owners are the requests that have been served.  What the mail server, the console and the
queue have taken are their notifications, each once and in this order; a job is attempted until
the provider takes its message or three attempts have failed, and is taken at most once. -/
structure Delivered (V : Providers) (emailUser : String) (requests : ι → NotificationRequest)
    (cfg : Sending ι) (owners : List ι) : Prop where
  once : owners.Nodup
  served : ∀ i, i ∈ owners ↔ cfg.threads i = .ret NotificationController.sent
  mailed : cfg.store.2.mailed =
    (ofChannel requests .EMAIL owners).map fun i => (requests i).options emailUser
  console : cfg.store.2.console = (ofChannel requests .SMS owners).map fun i => (requests i).line
  jobs : cfg.store.2.jobs.map QueuedJob.job =
    (ofChannel requests .PUSH owners).map fun i => (requests i).job
  direct : cfg.store.2.pushedDirectly = []
  attempted : ∀ n (q : QueuedJob), cfg.store.2.jobs[n]? = some q → q.Attempted (V.messaging n)
  taken : ∀ n, cfg.store.2.taken n = cfg.store.2.due n

theorem Served.delivered (h : Served emailUser requests cfg)
    (hholds : Outbox.Holds V (cfg.handed.map Prod.snd) cfg.store.2) :
    Delivered V emailUser requests cfg cfg.owners := by
  have hsnd : cfg.handed.map Prod.snd =
      cfg.owners.map fun i => (requests i).handedOver emailUser := by
    rw [h.handed_eq, List.map_map]
    rfl
  rw [hsnd] at hholds
  refine ⟨h.owners_nodup, h.mem_owners, hholds.mailed.trans (filterMap_handedOver ?_ _),
    hholds.console.trans (filterMap_handedOver ?_ _),
    hholds.jobs.trans (filterMap_handedOver ?_ _), hholds.direct.trans ?_, hholds.attempted,
    hholds.taken⟩
  · intro i
    unfold NotificationRequest.handedOver
    cases (requests i).dto.channel <;> rfl
  · intro i
    unfold NotificationRequest.handedOver
    cases (requests i).dto.channel <;> rfl
  · intro i
    unfold NotificationRequest.handedOver
    cases (requests i).dto.channel <;> rfl
  · apply List.filterMap_eq_nil_iff.mpr
    intro handed hmem
    obtain ⟨i, _, rfl⟩ := List.mem_map.mp hmem
    unfold NotificationRequest.handedOver
    cases (requests i).dto.channel <;> rfl

end Sending

/-- In every run of requests and attempts, whichever commands fail, every request that has been
served has handed its notification over once and no other request has; the provider takes the
message of a push notification at most once, and it is attempted three times at most. -/
theorem NotificationController.notifications_delivered {ι : Type} [DecidableEq ι] (P : Platform)
    (V : Providers) (emailUser : String) (s₀ : Store) (requests : ι → NotificationRequest)
    (ms : List (Move ι SendingMove)) :
    ∃ owners, Sending.Delivered V emailUser requests
      ((Sending.started P emailUser s₀ requests).exec (sendingSystem P V) ms) owners := by
  have hserved : Sending.Served emailUser requests
      ((Sending.started P emailUser s₀ requests).exec (sendingSystem P V) ms) :=
    Config.exec_tells (Φ := fun i => HandsOver ((requests i).handedOver emailUser) sent)
      (fun i => (requests i).send_handsOver P) ms
  exact ⟨_, hserved.delivered (Sending.holds_exec P V emailUser s₀ requests ms)⟩

end VoltFleet
