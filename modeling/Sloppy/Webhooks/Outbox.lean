import Sloppy.Lib.Places
import Sloppy.Lib.Run
import Mathlib.Data.List.Sort

/-! # Delivery of the webhook outbox

`deliverPending` of `webhooks.js` over a list of rows, with atomic statements. A worker goes on by one statement or
request at a time and may stop at any of them. A row is offered again as long as every worker finishes with a row
that it holds before its lease ends.
-/

namespace Sloppy.Webhooks

open Lib Lib.Run List

section

inductive OutboxStatus
  | pending
  | delivering
  | delivered
  | failed
  | deadLetter
  deriving DecidableEq

structure OutboxRow where
  eventName : String
  availableAt : Nat
  status : OutboxStatus
  attemptCount : Nat
  maxAttempts : Nat
  nextAttemptAt : Option Nat
  lockedBy : Option String
  lockedUntil : Option Nat
  deriving DecidableEq

structure Subscription where
  id : Nat
  eventName : String
  enabled : Bool
  deriving DecidableEq

/-- What became of a request: the status of its response, or an error. -/
inductive Reply
  | response (status : Nat)
  | error
  deriving DecidableEq

structure Attempt where
  outboxId : Nat
  subscriptionId : Nat
  attemptNumber : Nat
  reply : Reply
  deriving DecidableEq

def Reply.delivered : Reply → Bool
  | .response status => decide (200 ≤ status ∧ status < 300)
  | .error => false

/-- `shouldRetryStatus`; an error is always retried. -/
def Reply.retryable (retryOnStatus : List Nat) : Reply → Bool
  | .response status => retryOnStatus.contains status
  | .error => true

def OutboxRow.waiting (row : OutboxRow) : Bool := row.status == .pending || row.status == .failed

def OutboxRow.unlocked (time : Nat) (row : OutboxRow) : Bool := row.lockedUntil.all (· ≤ time)

/-- The condition of `selectPendingOutbox`. -/
def OutboxRow.selectable (time : Nat) (row : OutboxRow) : Bool :=
  row.waiting && decide (row.availableAt ≤ time) && row.nextAttemptAt.all (· ≤ time) && row.unlocked time

/-- The condition of `claimOutbox`. -/
def OutboxRow.claimable (time : Nat) (row : OutboxRow) : Bool := row.waiting && row.unlocked time

def selectPendingOutbox (rows : List OutboxRow) (time batchSize : Nat) : List Nat :=
  (((rows.zipIdx.filter (·.1.selectable time)).insertionSort
    fun a b => a.1.availableAt < b.1.availableAt ∨ (a.1.availableAt = b.1.availableAt ∧ a.2 ≤ b.2)).take
      batchSize).map Prod.snd

def claimOutbox (worker : String) (lockedUntil time : Nat) (row : OutboxRow) : OutboxRow :=
  if row.claimable time then
    { row with status := .delivering, lockedBy := some worker, lockedUntil := some lockedUntil }
  else row

def OutboxRow.claimedBy (worker : String) (row : OutboxRow) : Bool :=
  row.lockedBy == some worker && row.status == .delivering

def subscriptionsForEvent (subscriptions : List Subscription) (eventName : String) : List Subscription :=
  subscriptions.filter fun subscription => subscription.eventName == eventName && subscription.enabled

def deliveredSubscriptionsForOutbox (attempts : List Attempt) (outboxId : Nat) : List Nat :=
  (attempts.filter fun attempt => attempt.outboxId == outboxId && attempt.reply.delivered).map Attempt.subscriptionId

inductive Outcome
  | delivered
  | failed
  | deadLetter
  deriving DecidableEq

def Outcome.status : Outcome → OutboxStatus
  | .delivered => .delivered
  | .failed => .failed
  | .deadLetter => .deadLetter

def updateOutboxDelivered (outcome : Outcome) (attemptCount : Nat) (nextAttemptAt : Option Nat) (row : OutboxRow) :
    OutboxRow :=
  { row with
    status := outcome.status
    attemptCount := attemptCount
    lockedBy := none
    lockedUntil := none
    nextAttemptAt := nextAttemptAt }

/-- The variables of a pass over a claimed row, with the subscriptions it has still to serve. -/
structure Job where
  outboxId : Nat
  row : OutboxRow
  todo : List Subscription
  rowDelivered : Bool
  rowDeadLetter : Bool
  retryAfterMs : Nat
  deriving DecidableEq

inductive Phase
  | claim
  | selectClaimed (outboxId : Nat)
  | selectSubscriptions (outboxId : Nat) (row : OutboxRow)
  | selectDelivered (outboxId : Nat) (row : OutboxRow) (enabled : List Subscription)
  | send (job : Job)
  | record (job : Job) (reply : Reply) (delay : Nat)
  | update (outboxId : Nat) (outcome : Outcome) (attemptCount retryAfterMs : Nat)
  | done
  deriving DecidableEq

structure Worker where
  id : String
  time : Nat
  lockedUntil : Nat
  rows : List Nat
  phase : Phase
  deriving DecidableEq

structure World where
  rows : List OutboxRow
  subscriptions : List Subscription
  attempts : List Attempt
  clock : Nat
  workers : List Worker
  deriving DecidableEq

def Job.nextAttempt (job : Job) : Nat := job.row.attemptCount + 1

def Job.outcome (job : Job) : Outcome :=
  if job.rowDelivered then .delivered else if job.rowDeadLetter then .deadLetter else .failed

def Job.proceed (job : Job) : Phase :=
  if job.todo = [] then .update job.outboxId job.outcome job.nextAttempt job.retryAfterMs else .send job

variable (retryOnStatus : List Nat)

/-- The pass after the attempt of its first subscription; `delay` is what `retryDelayMs` gives. -/
def Job.reply (job : Job) (reply : Reply) (delay : Nat) : Job :=
  if reply.delivered then { job with todo := job.todo.tail }
  else if reply.retryable retryOnStatus = false ∨ job.nextAttempt ≥ job.row.maxAttempts then
    { job with todo := job.todo.tail, rowDelivered := false, rowDeadLetter := true }
  else { job with todo := job.todo.tail, rowDelivered := false, retryAfterMs := max job.retryAfterMs delay }

/-- One step of a worker; `reply` and `delay` are what a request comes to. -/
def advance (s : World) (worker : Worker) (reply : Reply) (delay : Nat) : List OutboxRow × List Attempt × Worker :=
  match worker.phase with
  | .claim =>
    match worker.rows with
    | [] => (s.rows, s.attempts, { worker with phase := .done })
    | outboxId :: rest =>
      (s.rows.modify outboxId (claimOutbox worker.id worker.lockedUntil worker.time), s.attempts,
        { worker with rows := rest, phase := .selectClaimed outboxId })
  | .selectClaimed outboxId =>
    match s.rows[outboxId]?.filter (·.claimedBy worker.id) with
    | none => (s.rows, s.attempts, { worker with phase := .claim })
    | some row => (s.rows, s.attempts, { worker with phase := .selectSubscriptions outboxId row })
  | .selectSubscriptions outboxId row =>
    match subscriptionsForEvent s.subscriptions row.eventName with
    | [] => (s.rows, s.attempts, { worker with phase := .update outboxId .delivered row.attemptCount 0 })
    | enabled => (s.rows, s.attempts, { worker with phase := .selectDelivered outboxId row enabled })
  | .selectDelivered outboxId row enabled =>
    let served := deliveredSubscriptionsForOutbox s.attempts outboxId
    let job : Job := ⟨outboxId, row, enabled.filter (!served.contains ·.id), true, false, 0⟩
    (s.rows, s.attempts, { worker with phase := job.proceed })
  | .send job => (s.rows, s.attempts, { worker with phase := .record job reply delay })
  | .record job reply delay =>
    (s.rows, s.attempts ++ job.todo.head?.toList.map fun subscription =>
        ⟨job.outboxId, subscription.id, job.nextAttempt, reply⟩,
      { worker with phase := (job.reply retryOnStatus reply delay).proceed })
  | .update outboxId outcome attemptCount retryAfterMs =>
    (s.rows.modify outboxId (updateOutboxDelivered outcome attemptCount
        (if outcome = .failed then some (s.clock + retryAfterMs) else none)), s.attempts,
      { worker with phase := .claim })
  | .done => (s.rows, s.attempts, worker)

inductive Event
  | publish (eventName : String) (availableAt maxAttempts : Nat)
  | subscribe (subscriptions : List Subscription)
  | start (id : String) (leaseMs batchSize : Nat)
  | step (worker : Nat) (reply : Reply) (delay : Nat)
  | stop (worker : Nat)
  | tick (elapsed : Nat)
  deriving DecidableEq

def step (s : World) : Event → World
  | .publish eventName availableAt maxAttempts =>
    { s with rows := s.rows ++ [⟨eventName, availableAt, .pending, 0, maxAttempts, none, none, none⟩] }
  | .subscribe subscriptions => { s with subscriptions := subscriptions }
  | .start id leaseMs batchSize =>
    { s with workers := s.workers ++
      [⟨id, s.clock, s.clock + leaseMs, selectPendingOutbox s.rows s.clock batchSize, .claim⟩] }
  | .step index reply delay =>
    match s.workers[index]? with
    | none => s
    | some worker =>
      match advance retryOnStatus s worker reply delay with
      | (rows, attempts, next) => { s with rows := rows, attempts := attempts, workers := s.workers.set index next }
  | .stop index => { s with workers := s.workers.modify index fun worker => { worker with phase := .done } }
  | .tick elapsed => { s with clock := s.clock + elapsed }

def Phase.outboxId : Phase → Option Nat
  | .claim | .done => none
  | .selectClaimed outboxId | .selectSubscriptions outboxId _ | .selectDelivered outboxId _ _
  | .update outboxId _ _ _ => some outboxId
  | .send job | .record job _ _ => some job.outboxId

lemma proceed_outboxId (job : Job) : job.proceed.outboxId = some job.outboxId := by
  rw [Job.proceed]
  split <;> rfl

lemma reply_row (job : Job) (reply : Reply) (delay : Nat) :
    (job.reply retryOnStatus reply delay).outboxId = job.outboxId ∧
      (job.reply retryOnStatus reply delay).row = job.row ∧
      (job.reply retryOnStatus reply delay).todo = job.todo.tail := by
  rw [Job.reply]
  split
  · exact ⟨rfl, rfl, rfl⟩
  · split
    · exact ⟨rfl, rfl, rfl⟩
    · exact ⟨rfl, rfl, rfl⟩

lemma modify_cases {rows : List OutboxRow} {f : OutboxRow → OutboxRow} {updated outboxId : Nat} {row : OutboxRow}
    (h : (rows.modify updated f)[outboxId]? = some row) :
    (updated = outboxId ∧ ∃ before, rows[outboxId]? = some before ∧ row = f before) ∨
      (updated ≠ outboxId ∧ rows[outboxId]? = some row) := by
  rw [List.getElem?_modify] at h
  split at h
  next hUpdated =>
    cases hBefore : rows[outboxId]? with
    | none =>
      rw [hBefore] at h
      cases h
    | some before =>
      rw [hBefore] at h
      cases h
      exact .inl ⟨hUpdated, before, rfl, rfl⟩
  next hOther =>
    rw [id_map'] at h
    exact .inr ⟨hOther, h⟩

def World.initial : World := ⟨[], [], [], 0, []⟩

end

/-- The worker is at a row that is claimed under its name. -/
def World.leased (s : World) (worker : Worker) : Bool :=
  (worker.phase.outboxId.bind (s.rows[·]?)).any (·.claimedBy worker.id)

/-- No worker stops with a row that it has claimed, keeps one for longer than its lease, or claims one when the lease
has already ended. -/
def World.Diligent (s : World) : Event → Prop
  | .stop index => ∀ worker ∈ s.workers[index]?, s.leased worker = false
  | .tick elapsed => ∀ worker ∈ s.workers, s.leased worker = true → s.clock + elapsed ≤ worker.lockedUntil
  | .step index _ _ => ∀ worker ∈ s.workers[index]?, worker.phase = .claim → worker.rows ≠ [] →
    s.clock ≤ worker.lockedUntil
  | _ => True

instance (s : World) : (event : Event) → Decidable (s.Diligent event)
  | .stop index => inferInstanceAs (Decidable (∀ worker ∈ s.workers[index]?, _))
  | .tick _ => inferInstanceAs (Decidable (∀ worker ∈ s.workers, _ → _))
  | .step index _ _ => inferInstanceAs (Decidable (∀ worker ∈ s.workers[index]?, _ → _ → _))
  | .publish _ _ _ | .subscribe _ | .start _ _ _ => inferInstanceAs (Decidable True)

def Holds (workers : List Worker) (clock outboxId : Nat) (row : OutboxRow) : Prop :=
  ∃ (index : Nat) (worker : Worker), workers[index]? = some worker ∧ worker.phase.outboxId = some outboxId ∧
    row.lockedBy = some worker.id ∧ row.lockedUntil = some worker.lockedUntil ∧ clock ≤ worker.lockedUntil

def Held (s : World) : Prop :=
  ∀ outboxId row, s.rows[outboxId]? = some row → row.status = .delivering → Holds s.workers s.clock outboxId row

section Steps

variable {retryOn : List Nat} {s : World} {index outboxId : Nat} {worker : Worker} {row : OutboxRow}
  {phase : Phase} {rest : List Nat} {attempts : List Attempt}

lemma Holds.set (h : Holds s.workers s.clock outboxId row) (hWorker : s.workers[index]? = some worker)
    (hStays : worker.phase.outboxId = some outboxId → row.lockedBy = some worker.id → phase.outboxId = some outboxId) :
    Holds (s.workers.set index { worker with rows := rest, phase := phase }) s.clock outboxId row := by
  obtain ⟨place, holder, hHolder, hAt, hBy, hUntil, hClock⟩ := h
  refine ⟨place, exists_getElem?_set hWorker hHolder ?_ fun _ => ⟨hAt, hBy, hUntil, hClock⟩⟩
  rintro rfl rfl
  exact ⟨hStays hAt hBy, hBy, hUntil, hClock⟩

section

variable (h : Held s) (hWorker : s.workers[index]? = some worker)
include h hWorker

lemma Held.set (hStays : ∀ outboxId row, s.rows[outboxId]? = some row → row.claimedBy worker.id = true →
      worker.phase.outboxId = some outboxId → phase.outboxId = some outboxId) :
    Held { s with
      attempts := attempts
      workers := s.workers.set index { worker with rows := rest, phase := phase } } := by
  intro outboxId row hRow hStatus
  refine (h outboxId row hRow hStatus).set hWorker ?_
  intro hAt hBy
  exact hStays outboxId row hRow (by simp [OutboxRow.claimedBy, hBy, hStatus]) hAt

lemma Held.stays (hAt : phase.outboxId = worker.phase.outboxId) : Held { s with
      attempts := attempts
      workers := s.workers.set index { worker with rows := rest, phase := phase } } :=
  h.set hWorker fun _ _ _ _ hStays => hAt.trans hStays

lemma Held.claim (hPhase : worker.phase = .claim)
    (hLease : s.clock ≤ worker.lockedUntil) (claimed : Nat) (rest : List Nat) :
    Held { s with
      rows := s.rows.modify claimed (claimOutbox worker.id worker.lockedUntil worker.time)
      workers := s.workers.set index { worker with rows := rest, phase := .selectClaimed claimed } } := by
  intro outboxId row hRow hStatus
  have hElsewhere (hSame : s.rows[outboxId]? = some row) :
      Holds (s.workers.set index { worker with rows := rest, phase := .selectClaimed claimed })
        s.clock outboxId row := by
    refine (h outboxId row hSame hStatus).set hWorker ?_
    intro hAt
    rw [hPhase] at hAt
    cases hAt
  obtain ⟨rfl, before, hBefore, rfl⟩ | ⟨-, hSame⟩ := modify_cases hRow
  · rw [claimOutbox] at hStatus hElsewhere ⊢
    split at hStatus
    next hClaimable =>
      rw [if_pos hClaimable]
      exact ⟨index, _, getElem?_set_self (List.getElem_of_getElem? hWorker).1, rfl, rfl, rfl, hLease⟩
    next hClaimable =>
      rw [if_neg hClaimable] at hElsewhere ⊢
      exact hElsewhere hBefore
  · exact hElsewhere hSame

lemma Held.update {updated : Nat} {outcome : Outcome}
    {attemptCount retryAfterMs : Nat} (hPhase : worker.phase = .update updated outcome attemptCount retryAfterMs)
    (nextAttemptAt : Option Nat) :
    Held { s with
      rows := s.rows.modify updated (updateOutboxDelivered outcome attemptCount nextAttemptAt)
      workers := s.workers.set index { worker with phase := .claim } } := by
  intro outboxId row hRow hStatus
  obtain ⟨rfl, before, hBefore, rfl⟩ | ⟨hOther, hSame⟩ := modify_cases hRow
  · -- the row is not being delivered any more
    cases outcome <;> cases hStatus
  · refine (h outboxId row hSame hStatus).set hWorker ?_
    intro hAt
    rw [hPhase] at hAt
    exact absurd (Option.some.inj hAt) hOther

lemma Held.advance (hLease : worker.phase = .claim → worker.rows ≠ [] → s.clock ≤ worker.lockedUntil) (reply : Reply)
    (delay : Nat) :
    Held { s with
      rows := (advance retryOn s worker reply delay).1
      attempts := (advance retryOn s worker reply delay).2.1
      workers := s.workers.set index (advance retryOn s worker reply delay).2.2 } := by
  unfold Webhooks.advance
  split
  next hPhase =>
    split
    · apply h.stays hWorker
      rw [hPhase]
      rfl
    next claimed rest hRows =>
      exact h.claim hWorker hPhase (hLease hPhase (hRows ▸ cons_ne_nil _ _)) claimed rest
  next hPhase =>
    split
    next hNone =>
      apply h.set hWorker
      intro outboxId row hRow hClaimed hAt
      rw [hPhase] at hAt
      cases hAt
      rw [hRow, Option.filter_some, if_pos hClaimed] at hNone
      cases hNone
    · apply h.stays hWorker
      rw [hPhase]
      rfl
  next hPhase =>
    split
    · apply h.stays hWorker
      rw [hPhase]
      rfl
    · apply h.stays hWorker
      rw [hPhase]
      rfl
  next hPhase =>
    apply h.stays hWorker
    rw [hPhase, proceed_outboxId]
    rfl
  next hPhase =>
    apply h.stays hWorker
    rw [hPhase]
    rfl
  next hPhase =>
    apply h.stays hWorker
    rw [hPhase, proceed_outboxId, (reply_row retryOn _ _ _).1]
    rfl
  next hPhase =>
    exact h.update hWorker hPhase _
  · exact h.stays hWorker rfl

end

lemma Held.step (h : Held s) (event : Event) (hDiligent : s.Diligent event) : Held (step retryOn s event) := by
  cases event with
  | publish =>
    intro outboxId row hRow hStatus
    rw [Webhooks.step] at hRow
    rw [getElem?_append] at hRow
    split at hRow
    · exact h outboxId row hRow hStatus
    rw [getElem?_singleton] at hRow
    split at hRow
    · cases hRow
      cases hStatus
    · cases hRow
  | subscribe => exact h
  | start =>
    intro outboxId row hRow hStatus
    obtain ⟨place, holder, hHolder, hHolds⟩ := h outboxId row hRow hStatus
    exact ⟨place, holder, getElem?_append_some hHolder _, hHolds⟩
  | step index reply delay =>
    rw [Webhooks.step]
    split
    · exact h
    next worker hWorker =>
      exact h.advance hWorker (hDiligent worker hWorker) reply delay
  | stop index =>
    intro outboxId row hRow hStatus
    obtain ⟨place, holder, hHolder, hAt, hBy, hRest⟩ := h outboxId row hRow hStatus
    refine ⟨place, holder, ?_, hAt, hBy, hRest⟩
    -- the holder is not the one that stops, since that has claimed no row
    have hOther : index ≠ place := by
      rintro rfl
      have hFree := hDiligent holder hHolder
      rw [World.leased, hAt, Option.bind_some, show s.rows[outboxId]? = some row from hRow, Option.any_some,
        OutboxRow.claimedBy, hBy, hStatus] at hFree
      simp at hFree
    exact (getElem?_modify_ne _ _ hOther).trans hHolder
  | tick =>
    intro outboxId row hRow hStatus
    obtain ⟨place, holder, hHolder, hAt, hBy, hUntil, -⟩ := h outboxId row hRow hStatus
    refine ⟨place, holder, hHolder, hAt, hBy, hUntil, ?_⟩
    apply hDiligent holder (mem_of_getElem? hHolder)
    rw [World.leased, hAt, Option.bind_some, show s.rows[outboxId]? = some row from hRow, Option.any_some,
      OutboxRow.claimedBy, hBy, hStatus]
    simp

end Steps

/-- No row that is not final is passed over once it is due and its lease has ended. -/
def NeverStuck (s : World) : Prop :=
  ∀ row ∈ s.rows, row.status ≠ .delivered → row.status ≠ .deadLetter → row.availableAt < s.clock →
    (∀ time ∈ row.nextAttemptAt, time < s.clock) → (∀ time ∈ row.lockedUntil, time < s.clock) →
    row.selectable s.clock = true ∧ row.claimable s.clock = true

lemma Held.neverStuck {s : World} (h : Held s) : NeverStuck s := by
  intro row hMem hDelivered hDead hAvailable hNext hLocked
  have hWaiting : row.waiting = true := by
    cases hStatus : row.status with
    | pending | failed => simp [OutboxRow.waiting, hStatus]
    | delivered => exact absurd hStatus hDelivered
    | deadLetter => exact absurd hStatus hDead
    | delivering =>
      obtain ⟨outboxId, hRow⟩ := getElem?_of_mem hMem
      obtain ⟨index, worker, -, -, -, hUntil, hClock⟩ := h outboxId row hRow hStatus
      exact absurd (hLocked _ hUntil) (Nat.not_lt_of_le hClock)
  have hUnlocked : row.unlocked s.clock = true := by
    rw [OutboxRow.unlocked, Option.all_eq_true]
    intro time hTime
    exact decide_eq_true (Nat.le_of_lt (hLocked time hTime))
  have hDue : row.nextAttemptAt.all (· ≤ s.clock) = true := by
    rw [Option.all_eq_true]
    intro time hTime
    exact decide_eq_true (Nat.le_of_lt (hNext time hTime))
  rw [OutboxRow.selectable, OutboxRow.claimable, hWaiting, hUnlocked, hDue, decide_eq_true (Nat.le_of_lt hAvailable)]
  exact ⟨rfl, rfl⟩

theorem outbox_never_stuck (retryOnStatus : List Nat) (events : List Event)
    (hDiligent : Admits World.Diligent (step retryOnStatus) .initial events) :
    NeverStuck (events.foldl (step retryOnStatus) .initial) := by
  refine (foldl_invariant (P := Held) ?_ ?_ hDiligent).neverStuck
  · intro s event h hOk
    exact h.step event hOk
  · intro outboxId row hRow
    cases hRow

def claimedRow : List Event :=
  [.publish "a" 0 3, .subscribe [⟨0, "a", true⟩], .start "w" 10 5, .step 0 .error 0, .step 0 .error 0, .step 0 .error 0,
    .step 0 .error 0]

def updatedRow : List Event := [.step 0 (.response 503) 5, .step 0 .error 0, .step 0 .error 0, .tick 20]

theorem outbox_never_stuck_retried : NeverStuck ((claimedRow ++ updatedRow).foldl (step [503]) .initial) :=
  outbox_never_stuck [503] (claimedRow ++ updatedRow) (by decide +kernel)

/-- A worker stops at its request; long after the lease has ended the row is offered to nobody. -/
theorem stopped_worker_keeps_row :
    let s := (claimedRow ++ [Event.stop 0, .tick 1000]).foldl (step [503]) .initial
    s.rows.map (fun row => (row.status, row.lockedUntil, row.selectable s.clock, row.claimable s.clock)) =
      [(.delivering, some 10, false, false)] := by
  decide +kernel

end Sloppy.Webhooks
