import Sloppy.Webhooks.Outbox

/-! # Fan-out of an outbox row

One status and one attempt counter stand for the histories of all subscriptions of a row. Runs of `deliverPending`
keep them in step, unless one pass meets both a failure that is to be retried and an answer that is not.
-/

namespace Sloppy.Webhooks

open Lib Lib.Run List

section Histories

def Attempt.concerns (outboxId subscriptionId : Nat) (attempt : Attempt) : Bool :=
  attempt.outboxId == outboxId && attempt.subscriptionId == subscriptionId

def served (attempts : List Attempt) (outboxId subscriptionId : Nat) : Bool :=
  attempts.any fun attempt => attempt.concerns outboxId subscriptionId && attempt.reply.delivered

def refused (retryOnStatus : List Nat) (attempts : List Attempt) (outboxId subscriptionId : Nat) : Bool :=
  attempts.any fun attempt => attempt.concerns outboxId subscriptionId && !attempt.reply.delivered &&
    !attempt.reply.retryable retryOnStatus

def tries (attempts : List Attempt) (outboxId subscriptionId : Nat) : Nat :=
  attempts.countP (·.concerns outboxId subscriptionId)

def Settled (retryOnStatus : List Nat) (attempts : List Attempt) (outboxId subscriptionId maxAttempts : Nat) : Prop :=
  served attempts outboxId subscriptionId = true ∨ refused retryOnStatus attempts outboxId subscriptionId = true ∨
    maxAttempts ≤ tries attempts outboxId subscriptionId

/-- The subscription has been served, or attempted as often as the row counts. -/
def Tracked (attempts : List Attempt) (outboxId subscriptionId attemptCount : Nat) : Prop :=
  served attempts outboxId subscriptionId = true ∨ tries attempts outboxId subscriptionId = attemptCount

variable {retryOn : List Nat} {attempts : List Attempt} {outboxId subId : Nat} {attempt : Attempt}

lemma served_append : served (attempts ++ [attempt]) outboxId subId =
    (served attempts outboxId subId || (attempt.concerns outboxId subId && attempt.reply.delivered)) := by
  simp [served]

lemma refused_append : refused retryOn (attempts ++ [attempt]) outboxId subId =
    (refused retryOn attempts outboxId subId || (attempt.concerns outboxId subId &&
      !attempt.reply.delivered && !attempt.reply.retryable retryOn)) := by
  simp [refused]

lemma tries_append : tries (attempts ++ [attempt]) outboxId subId =
    tries attempts outboxId subId + if attempt.concerns outboxId subId then 1 else 0 := by
  simp [tries, countP_singleton]

lemma append_other (hOther : attempt.concerns outboxId subId = false) :
    served (attempts ++ [attempt]) outboxId subId = served attempts outboxId subId ∧
      refused retryOn (attempts ++ [attempt]) outboxId subId = refused retryOn attempts outboxId subId ∧
      tries (attempts ++ [attempt]) outboxId subId = tries attempts outboxId subId := by
  rw [served_append, refused_append, tries_append, hOther]
  simp

end Histories

/-- No pass with attempts left meets both a failure that is retried and an answer that is not. -/
def Job.Even (retryOnStatus : List Nat) (job : Job) (reply : Reply) : Prop :=
  reply.delivered = false → job.nextAttempt < job.row.maxAttempts →
    job.rowDelivered = true ∨ job.rowDeadLetter = !reply.retryable retryOnStatus

instance (retryOnStatus : List Nat) (job : Job) (reply : Reply) : Decidable (job.Even retryOnStatus reply) :=
  inferInstanceAs (Decidable (_ → _ → _))

def Phase.Even (retryOnStatus : List Nat) (reply : Reply) : Phase → Prop
  | .send job => job.Even retryOnStatus reply
  | _ => True

instance (retryOnStatus : List Nat) (reply : Reply) : (phase : Phase) → Decidable (phase.Even retryOnStatus reply)
  | .send job => inferInstanceAs (Decidable (job.Even retryOnStatus reply))
  | .claim | .selectClaimed _ | .selectSubscriptions _ _ | .selectDelivered _ _ _ | .record _ _ _ | .update _ _ _ _
  | .done => inferInstanceAs (Decidable True)

/-- A run starts when the last one has ended, none stops on its way, the subscription stays enabled, and every pass is
even. -/
def World.Orderly (retryOnStatus : List Nat) (subscription : Subscription) (s : World) : Event → Prop
  | .start _ _ _ => ∀ worker ∈ s.workers, worker.phase = .done
  | .stop _ => False
  | .subscribe subscriptions => subscription ∈ subscriptions ∧ (subscriptions.map Subscription.id).Nodup
  | .step index reply _ => ∀ worker ∈ s.workers[index]?, worker.phase.Even retryOnStatus reply
  | .publish _ _ _ | .tick _ => True

instance (retryOnStatus : List Nat) (subscription : Subscription) (s : World) :
    (event : Event) → Decidable (s.Orderly retryOnStatus subscription event)
  | .start _ _ _ => inferInstanceAs (Decidable (∀ worker ∈ s.workers, _))
  | .stop _ => inferInstanceAs (Decidable False)
  | .subscribe _ => inferInstanceAs (Decidable (_ ∧ _))
  | .step index _ _ => inferInstanceAs (Decidable (∀ worker ∈ s.workers[index]?, _))
  | .publish _ _ _ | .tick _ => inferInstanceAs (Decidable True)

section Invariant

variable (retryOnStatus : List Nat) (subscription : Subscription)

def Job.Done (attempts : List Attempt) (job : Job) : Prop :=
  served attempts job.outboxId subscription.id = true ∨
    (tries attempts job.outboxId subscription.id = job.nextAttempt ∧ job.rowDelivered = false ∧
      (job.rowDeadLetter = true → refused retryOnStatus attempts job.outboxId subscription.id = true ∨
        job.row.maxAttempts ≤ job.nextAttempt))

/-- What a pass has done for the subscriptions of its row. -/
structure Job.Fair (attempts : List Attempt) (job : Job) : Prop where
  distinct : (job.todo.map Subscription.id).Nodup
  same : ∀ other ∈ job.todo, other.id = subscription.id → other = subscription
  unserved : ∀ other ∈ job.todo, served attempts job.outboxId other.id = false
  dead : job.rowDeadLetter = true → job.rowDelivered = false
  ahead : job.row.eventName = subscription.eventName → subscription ∈ job.todo →
    tries attempts job.outboxId subscription.id = job.row.attemptCount
  behind : job.row.eventName = subscription.eventName → subscription ∉ job.todo →
    job.Done retryOnStatus subscription attempts

/-- What a worker has found out agrees with the row, which only it changes. -/
def Worker.Fair (rows : List OutboxRow) (attempts : List Attempt) (worker : Worker) : Prop :=
  match worker.phase with
  | .claim | .done => True
  | .selectClaimed outboxId => ∀ row, rows[outboxId]? = some row → row.status = .delivering →
    row.lockedBy = some worker.id ∧
      (row.eventName = subscription.eventName → Tracked attempts outboxId subscription.id row.attemptCount)
  | .selectSubscriptions outboxId row => rows[outboxId]? = some row ∧ row.status = .delivering ∧
    (row.eventName = subscription.eventName → Tracked attempts outboxId subscription.id row.attemptCount)
  | .selectDelivered outboxId row enabled => rows[outboxId]? = some row ∧ row.status = .delivering ∧
    (enabled.map Subscription.id).Nodup ∧ (∀ other ∈ enabled, other.id = subscription.id → other = subscription) ∧
    (row.eventName = subscription.eventName →
      subscription ∈ enabled ∧ Tracked attempts outboxId subscription.id row.attemptCount)
  | .send job => rows[job.outboxId]? = some job.row ∧ job.row.status = .delivering ∧ job.todo ≠ [] ∧
    job.Fair retryOnStatus subscription attempts
  | .record job reply _ => rows[job.outboxId]? = some job.row ∧ job.row.status = .delivering ∧ job.todo ≠ [] ∧
    job.Fair retryOnStatus subscription attempts ∧ job.Even retryOnStatus reply
  | .update outboxId outcome attemptCount _ => ∃ row, rows[outboxId]? = some row ∧ row.status = .delivering ∧
    (row.eventName = subscription.eventName →
      (outcome = .failed → Tracked attempts outboxId subscription.id attemptCount) ∧
        (outcome ≠ .failed → Settled retryOnStatus attempts outboxId subscription.id row.maxAttempts))

def RowsFair (rows : List OutboxRow) (attempts : List Attempt) : Prop :=
  ∀ outboxId row, rows[outboxId]? = some row → row.eventName = subscription.eventName →
    (row.waiting = true → Tracked attempts outboxId subscription.id row.attemptCount) ∧
      (row.status = .delivered ∨ row.status = .deadLetter →
        Settled retryOnStatus attempts outboxId subscription.id row.maxAttempts)

structure Fair (s : World) : Prop where
  subscribed : subscription ∈ s.subscriptions
  distinct : (s.subscriptions.map Subscription.id).Nodup
  alone : ∀ index worker, s.workers[index]? = some worker → worker.phase ≠ .done → index + 1 = s.workers.length
  workers : ∀ worker ∈ s.workers, worker.Fair retryOnStatus subscription s.rows s.attempts
  attended : ∀ outboxId row, s.rows[outboxId]? = some row → row.status = .delivering →
    ∃ worker ∈ s.workers, worker.phase.outboxId = some outboxId
  rows : RowsFair retryOnStatus subscription s.rows s.attempts
  known : ∀ attempt ∈ s.attempts, attempt.outboxId < s.rows.length
  once : s.attempts.Pairwise fun earlier later =>
    later.concerns earlier.outboxId earlier.subscriptionId = true → earlier.reply.delivered = false

end Invariant

section Passes

variable {retryOn : List Nat} {sub : Subscription} {attempts : List Attempt} {job : Job}

lemma mem_deliveredSubscriptions (attempts : List Attempt) (outboxId subId : Nat) :
    (deliveredSubscriptionsForOutbox attempts outboxId).contains subId = served attempts outboxId subId := by
  rw [Bool.eq_iff_iff, contains_iff_mem, deliveredSubscriptionsForOutbox, served, any_eq_true]
  simp only [mem_map, mem_filter, Attempt.concerns, Bool.and_eq_true, beq_iff_eq]
  constructor
  · rintro ⟨attempt, ⟨hMem, hRow, hDelivered⟩, hSub⟩
    exact ⟨attempt, hMem, ⟨hRow, hSub⟩, hDelivered⟩
  · rintro ⟨attempt, hMem, ⟨hRow, hSub⟩, hDelivered⟩
    exact ⟨attempt, ⟨hMem, hRow, hDelivered⟩, hSub⟩

lemma Job.Fair.initial {outboxId : Nat} {row : OutboxRow} {enabled : List Subscription}
    (hDistinct : (enabled.map Subscription.id).Nodup)
    (hSame : ∀ other ∈ enabled, other.id = sub.id → other = sub)
    (hTracked : row.eventName = sub.eventName → sub ∈ enabled ∧ Tracked attempts outboxId sub.id row.attemptCount) :
    Job.Fair retryOn sub attempts ⟨outboxId, row,
      enabled.filter (!(deliveredSubscriptionsForOutbox attempts outboxId).contains ·.id), true, false, 0⟩ := by
  simp only [mem_deliveredSubscriptions]
  refine ⟨(filter_sublist.map _).nodup hDistinct, ?_, ?_, nofun, ?_, ?_⟩
  · intro other hOther
    exact hSame other (mem_filter.mp hOther).1
  · intro other hOther
    exact Bool.not_eq_true' _ ▸ (mem_filter.mp hOther).2
  · intro hEvent hAhead
    have hUnserved := (mem_filter.mp hAhead).2
    rw [Bool.not_eq_true'] at hUnserved
    exact (hTracked hEvent).2.resolve_left (by rw [hUnserved]; exact nofun)
  · intro hEvent hBehind
    rw [mem_filter, not_and, Bool.not_eq_true', Bool.not_eq_false] at hBehind
    exact .inl (hBehind (hTracked hEvent).1)

lemma Job.Fair.reply_first {reply : Reply} {delay : Nat} (h : job.Fair retryOn sub attempts)
    (hEven : job.Even retryOn reply) (hTries : tries attempts job.outboxId sub.id = job.row.attemptCount) :
    (job.reply retryOn reply delay).Done retryOn sub
      (attempts ++ [⟨job.outboxId, sub.id, job.nextAttempt, reply⟩]) := by
  have hConcerns : (Attempt.mk job.outboxId sub.id job.nextAttempt reply).concerns job.outboxId sub.id = true := by
    simp [Attempt.concerns]
  rw [Job.Done, (reply_row retryOn job reply delay).1, served_append, refused_append, tries_append, hConcerns,
    hTries, if_pos rfl, Job.reply]
  split
  next hDelivered =>
    simp [hDelivered]
  next hFailed =>
    right
    rw [Bool.not_eq_true] at hFailed
    split
    next hEnds =>
      refine ⟨rfl, rfl, fun _ => ?_⟩
      rcases hEnds with hRefused | hExhausted
      · simp [hFailed, hRefused]
      · exact .inr hExhausted
    next hRetried =>
      rw [not_or, Bool.not_eq_false, ge_iff_le, Nat.not_le] at hRetried
      refine ⟨rfl, rfl, ?_⟩
      intro hDead
      rcases hEven hFailed hRetried.2 with hDelivered | hSame
      · exact absurd (hDelivered.symm.trans (h.dead hDead)) (by decide)
      · rw [hRetried.1] at hSame
        exact absurd (hDead.symm.trans hSame) (by decide)

lemma Job.Done.reply {reply : Reply} {delay : Nat} {first : Subscription}
    (h : job.Done retryOn sub attempts) (hEven : job.Even retryOn reply)
    (hOther : first.id ≠ sub.id) :
    (job.reply retryOn reply delay).Done retryOn sub
      (attempts ++ [⟨job.outboxId, first.id, job.nextAttempt, reply⟩]) := by
  have hConcerns : (Attempt.mk job.outboxId first.id job.nextAttempt reply).concerns job.outboxId sub.id =
      false := by
    simp [Attempt.concerns, hOther]
  obtain ⟨hServed, hRefused, hTries⟩ := @append_other retryOn attempts _ _ _ hConcerns
  rw [Job.Done, (reply_row retryOn job reply delay).1, hServed, hRefused, hTries, Job.reply]
  rcases h with h | ⟨hCount, hFailed, hDead⟩
  · exact .inl h
  right
  split
  · exact ⟨hCount, hFailed, hDead⟩
  rename_i hReply
  rw [Bool.not_eq_true] at hReply
  split
  next hEnds =>
    refine ⟨hCount, rfl, fun _ => ?_⟩
    by_cases hLeft : job.nextAttempt < job.row.maxAttempts
    · rcases hEven hReply hLeft with hDelivered | hSame
      · exact absurd (hDelivered.symm.trans hFailed) (by decide)
      · rw [hEnds.resolve_right (Nat.not_le_of_lt hLeft)] at hSame
        exact hDead hSame
    · exact .inr (Nat.le_of_not_lt hLeft)
  · exact ⟨hCount, rfl, hDead⟩

lemma Job.Fair.reply {reply : Reply} {delay : Nat} {first : Subscription} {rest : List Subscription}
    (h : job.Fair retryOn sub attempts) (hEven : job.Even retryOn reply)
    (hTodo : job.todo = first :: rest) :
    (job.reply retryOn reply delay).Fair retryOn sub
      (attempts ++ [⟨job.outboxId, first.id, job.nextAttempt, reply⟩]) := by
  obtain ⟨hOutbox, hRow, hRest⟩ := reply_row retryOn job reply delay
  rw [hTodo, tail_cons] at hRest
  have hDistinct := h.distinct
  rw [hTodo, map_cons, nodup_cons] at hDistinct
  have hApart : ∀ other ∈ rest, first.id ≠ other.id := by
    intro other hOther hEq
    exact hDistinct.1 (hEq ▸ mem_map_of_mem hOther)
  have hConcerns (other : Nat) (hOther : first.id ≠ other) :
      (Attempt.mk job.outboxId first.id job.nextAttempt reply).concerns job.outboxId other = false := by
    simp [Attempt.concerns, hOther]
  have hMem {other : Subscription} (hOther : other ∈ rest) : other ∈ job.todo := by
    rw [hTodo]
    exact mem_cons_of_mem _ hOther
  refine ⟨?_, ?_, ?_, ?_, ?_, ?_⟩
  · rw [hRest]
    exact hDistinct.2
  · rw [hRest]
    intro other hOther
    exact h.same other (hMem hOther)
  · rw [hRest, hOutbox]
    intro other hOther
    rw [(@append_other retryOn _ _ _ _ (hConcerns _ (hApart other hOther))).1]
    exact h.unserved other (hMem hOther)
  · rw [Job.reply]
    split
    · exact h.dead
    · split
      · exact fun _ => rfl
      · exact fun _ => rfl
  · rw [hRest, hRow, hOutbox]
    intro hEvent hAhead
    rw [(@append_other retryOn _ _ _ _ (hConcerns _ (hApart _ hAhead))).2.2]
    exact h.ahead hEvent (hMem hAhead)
  · rw [hRest, hRow]
    intro hEvent hBehind
    by_cases hFirst : first = sub
    · subst hFirst
      exact h.reply_first hEven (h.ahead hEvent (hTodo ▸ mem_cons_self))
    refine Job.Done.reply (h.behind hEvent ?_) hEven ?_
    · rw [hTodo, mem_cons, not_or]
      exact ⟨Ne.symm hFirst, hBehind⟩
    · intro hSame
      exact hFirst (h.same first (hTodo ▸ mem_cons_self) hSame)

lemma Job.Fair.outcome (h : job.Fair retryOn sub attempts) (hTodo : job.todo = [])
    (hEvent : job.row.eventName = sub.eventName) :
    (job.outcome = .failed → Tracked attempts job.outboxId sub.id job.nextAttempt) ∧
      (job.outcome ≠ .failed → Settled retryOn attempts job.outboxId sub.id job.row.maxAttempts) := by
  obtain hServed | ⟨hTries, hFailed, hDead⟩ := h.behind hEvent (hTodo ▸ not_mem_nil)
  · exact ⟨fun _ => .inl hServed, fun _ => .inl hServed⟩
  refine ⟨fun _ => .inr hTries, ?_⟩
  intro hOutcome
  rw [Job.outcome, hFailed, if_neg nofun] at hOutcome
  split at hOutcome
  next hDeadLetter =>
    rcases hDead hDeadLetter with hRefused | hExhausted
    · exact .inr (.inl hRefused)
    · exact .inr (.inr (hTries ▸ hExhausted))
  · exact absurd rfl hOutcome

end Passes

section Steps

variable {retryOn : List Nat} {sub : Subscription} {s : World} {index : Nat} {worker next : Worker}
  {rows : List OutboxRow} {attempts : List Attempt}

section

variable (h : Fair retryOn sub s) (hWorker : s.workers[index]? = some worker)
include h hWorker

lemma Fair.at_row (hActive : worker.phase ≠ .done) {outboxId : Nat} {row : OutboxRow}
    (hRow : s.rows[outboxId]? = some row) (hStatus : row.status = .delivering) :
    worker.phase.outboxId = some outboxId := by
  obtain ⟨other, hMem, hAt⟩ := h.attended outboxId row hRow hStatus
  obtain ⟨place, hPlace⟩ := getElem?_of_mem hMem
  have hLast := h.alone place other hPlace (by rintro hDone; rw [hDone] at hAt; cases hAt)
  have hIndex := h.alone index worker hWorker hActive
  obtain rfl : place = index := by omega
  rw [hWorker] at hPlace
  cases hPlace
  exact hAt

lemma Fair.moves (hActive : worker.phase ≠ .done) (hNext : next.Fair retryOn sub rows attempts)
    (hLen : rows.length = s.rows.length)
    (hAttended : ∀ outboxId row, rows[outboxId]? = some row → row.status = .delivering →
      next.phase.outboxId = some outboxId) (hRows : RowsFair retryOn sub rows attempts)
    (hKnown : ∀ attempt ∈ attempts, attempt.outboxId < s.rows.length) (hOnce : attempts.Pairwise fun earlier later =>
      later.concerns earlier.outboxId earlier.subscriptionId = true → earlier.reply.delivered = false) :
    Fair retryOn sub { s with rows := rows, attempts := attempts, workers := s.workers.set index next } := by
  have hIndex := h.alone index worker hWorker hActive
  have hBound : index < s.workers.length := (List.getElem_of_getElem? hWorker).1
  refine ⟨h.subscribed, h.distinct, ?_, ?_, ?_, hRows, hLen ▸ hKnown, hOnce⟩
  · intro place other hPlace hOther
    rw [length_set]
    obtain ⟨rfl, -⟩ | ⟨-, hOld⟩ := getElem?_set_cases hPlace
    · exact hIndex
    · exact h.alone place other hOld hOther
  · intro other hMem
    obtain ⟨place, hPlace⟩ := getElem?_of_mem hMem
    obtain ⟨-, rfl⟩ | ⟨hDiffer, hOld⟩ := getElem?_set_cases hPlace
    · exact hNext
    · -- every other worker is done
      have hDone : other.phase = .done := by
        by_contra hOther
        have hPlaceLast := h.alone place other hOld hOther
        omega
      rw [Worker.Fair, hDone]
      trivial
  · intro outboxId row hRow hStatus
    exact ⟨next, List.mem_set hBound _, hAttended outboxId row hRow hStatus⟩

lemma Fair.reads (hActive : worker.phase ≠ .done) (hNext : next.Fair retryOn sub s.rows s.attempts)
    (hAt : ∀ outboxId row, s.rows[outboxId]? = some row → row.status = .delivering →
      worker.phase.outboxId = some outboxId → next.phase.outboxId = some outboxId) :
    Fair retryOn sub { s with workers := s.workers.set index next } := by
  refine h.moves hWorker hActive hNext rfl ?_ h.rows h.known h.once
  intro outboxId row hRow hStatus
  exact hAt outboxId row hRow hStatus (h.at_row hWorker hActive hRow hStatus)

lemma Fair.stays (hActive : worker.phase ≠ .done) (hNext : next.Fair retryOn sub s.rows s.attempts)
    (hAt : next.phase.outboxId = worker.phase.outboxId) :
    Fair retryOn sub { s with workers := s.workers.set index next } :=
  h.reads hWorker hActive hNext fun _ _ _ _ hStays => hAt.trans hStays

lemma Fair.claim (hPhase : worker.phase = .claim) (claimed : Nat) (rest : List Nat) : Fair retryOn sub { s with
      rows := s.rows.modify claimed (claimOutbox worker.id worker.lockedUntil worker.time)
      workers := s.workers.set index { worker with rows := rest, phase := .selectClaimed claimed } } := by
  have hActive : worker.phase ≠ .done := hPhase ▸ nofun
  -- no row is being delivered between two passes
  have hIdle : ∀ (outboxId : Nat) (row : OutboxRow), s.rows[outboxId]? = some row → row.status ≠ .delivering := by
    intro outboxId row hRow hStatus
    have hAt := h.at_row hWorker hActive hRow hStatus
    rw [hPhase] at hAt
    cases hAt
  have hClaim : ∀ {before : OutboxRow}, before.claimable worker.time = true →
      claimOutbox worker.id worker.lockedUntil worker.time before =
        { before with status := .delivering, lockedBy := some worker.id, lockedUntil := some worker.lockedUntil } :=
    fun hClaimable => if_pos hClaimable
  have hSkip : ∀ {before : OutboxRow}, ¬before.claimable worker.time = true →
      claimOutbox worker.id worker.lockedUntil worker.time before = before :=
    fun hClaimable => if_neg hClaimable
  refine h.moves hWorker hActive ?_ (length_modify ..) ?_ ?_ h.known h.once
  · intro row hRow hStatus
    obtain ⟨-, before, hBefore, rfl⟩ | ⟨hOther, -⟩ := modify_cases hRow
    · by_cases hClaimable : before.claimable worker.time = true
      · rw [hClaim hClaimable]
        refine ⟨rfl, fun hEvent => ?_⟩
        rw [OutboxRow.claimable, Bool.and_eq_true] at hClaimable
        exact (h.rows claimed before hBefore hEvent).1 hClaimable.1
      · rw [hSkip hClaimable] at hStatus
        exact absurd hStatus (hIdle claimed before hBefore)
    · exact absurd rfl hOther
  · intro outboxId row hRow hStatus
    obtain ⟨rfl, -⟩ | ⟨-, hSame⟩ := modify_cases hRow
    · rfl
    · exact absurd hStatus (hIdle outboxId row hSame)
  · intro outboxId row hRow
    obtain ⟨rfl, before, hBefore, rfl⟩ | ⟨-, hSame⟩ := modify_cases hRow
    · by_cases hClaimable : before.claimable worker.time = true
      · rw [hClaim hClaimable]
        intro _
        exact ⟨by simp [OutboxRow.waiting], by rintro (hStatus | hStatus) <;> cases hStatus⟩
      · rw [hSkip hClaimable]
        exact h.rows claimed before hBefore
    · exact h.rows outboxId row hSame

lemma Fair.update {updated attemptCount retryAfterMs : Nat} {outcome : Outcome}
    (hPhase : worker.phase = .update updated outcome attemptCount retryAfterMs) (nextAttemptAt : Option Nat) :
    Fair retryOn sub { s with
      rows := s.rows.modify updated (updateOutboxDelivered outcome attemptCount nextAttemptAt)
      workers := s.workers.set index { worker with phase := .claim } } := by
  have hActive : worker.phase ≠ .done := hPhase ▸ nofun
  have hFair := h.workers worker (mem_of_getElem? hWorker)
  rw [Worker.Fair, hPhase] at hFair
  obtain ⟨cur, hCur, -, hHistory⟩ := hFair
  refine h.moves hWorker hActive trivial (length_modify ..) ?_ ?_ h.known h.once
  · intro outboxId row hRow hStatus
    obtain ⟨-, before, -, rfl⟩ | ⟨hOther, hSame⟩ := modify_cases hRow
    · cases outcome <;> cases hStatus
    · have hAt := h.at_row hWorker hActive hSame hStatus
      rw [hPhase] at hAt
      exact absurd (Option.some.inj hAt) hOther
  · intro outboxId row hRow hEvent
    obtain ⟨rfl, before, hBefore, rfl⟩ | ⟨-, hSame⟩ := modify_cases hRow
    · rw [hCur] at hBefore
      cases hBefore
      obtain ⟨hFailed, hFinal⟩ := hHistory hEvent
      cases outcome with
      | failed => exact ⟨fun _ => hFailed rfl, by rintro (hStatus | hStatus) <;> cases hStatus⟩
      | delivered | deadLetter => exact ⟨nofun, fun _ => hFinal nofun⟩
    · exact h.rows outboxId row hSame hEvent

end

lemma Job.Fair.proceed {job : Job} (h : job.Fair retryOn sub attempts)
    (hRow : rows[job.outboxId]? = some job.row) (hStatus : job.row.status = .delivering) :
    Worker.Fair retryOn sub rows attempts { worker with phase := job.proceed } := by
  by_cases hTodo : job.todo = []
  · rw [Job.proceed, if_pos hTodo]
    exact ⟨job.row, hRow, hStatus, h.outcome hTodo⟩
  · rw [Job.proceed, if_neg hTodo]
    exact ⟨hRow, hStatus, hTodo, h⟩

lemma RowsFair.append {attempt : Attempt} {cur : OutboxRow} (h : RowsFair retryOn sub rows attempts)
    (hCur : rows[attempt.outboxId]? = some cur) (hStatus : cur.status = .delivering) :
    RowsFair retryOn sub rows (attempts ++ [attempt]) := by
  intro outboxId row hRow hEvent
  by_cases hSame : attempt.outboxId = outboxId
  · subst hSame
    rw [hCur] at hRow
    cases hRow
    constructor
    · intro hWaiting
      simp [OutboxRow.waiting, hStatus] at hWaiting
    · rw [hStatus]
      rintro (hFinal | hFinal) <;> cases hFinal
  · have hConcerns : attempt.concerns outboxId sub.id = false := by
      simp [Attempt.concerns, hSame]
    obtain ⟨hServed, hRefused, hTries⟩ := @append_other retryOn attempts _ _ _ hConcerns
    rw [Tracked, Settled, hServed, hRefused, hTries]
    exact h outboxId row hRow hEvent

lemma Fair.record (h : Fair retryOn sub s) (hWorker : s.workers[index]? = some worker) {job : Job}
    {reply : Reply} {delay : Nat} (hPhase : worker.phase = .record job reply delay) :
    Fair retryOn sub { s with
      attempts := s.attempts ++ job.todo.head?.toList.map fun first => ⟨job.outboxId, first.id, job.nextAttempt, reply⟩
      workers := s.workers.set index { worker with phase := (job.reply retryOn reply delay).proceed } } := by
  have hFair := h.workers worker (mem_of_getElem? hWorker)
  rw [Worker.Fair, hPhase] at hFair
  obtain ⟨hRow, hStatus, hTodo, hJob, hEven⟩ := hFair
  have hActive : worker.phase ≠ .done := hPhase ▸ nofun
  obtain ⟨first, rest, hTodo⟩ := exists_cons_of_ne_nil hTodo
  obtain ⟨hOutbox, hSame, -⟩ := reply_row retryOn job reply delay
  rw [hTodo, head?_cons, Option.toList_some, map_singleton]
  refine h.moves hWorker hActive ?_ rfl ?_ (h.rows.append hRow hStatus) ?_ ?_
  · apply (hJob.reply hEven hTodo).proceed
    · rw [hOutbox, hSame]
      exact hRow
    · rw [hSame]
      exact hStatus
  · intro outboxId row hOther hDelivering
    have hAt := h.at_row hWorker hActive hOther hDelivering
    rw [hPhase] at hAt
    rw [proceed_outboxId, hOutbox]
    exact hAt
  · exact forall_mem_append.mpr ⟨h.known, forall_mem_singleton.mpr ((List.getElem_of_getElem? hRow).1)⟩
  · rw [pairwise_append]
    refine ⟨h.once, pairwise_singleton _ _, ?_⟩
    intro earlier hEarlier later hLater
    rw [mem_singleton.mp hLater]
    intro hConcerns
    -- the subscription would not be among those to serve
    have hUnserved := hJob.unserved first (hTodo ▸ mem_cons_self)
    rw [served, any_eq_false] at hUnserved
    have hNot := hUnserved earlier hEarlier
    simp only [Attempt.concerns, Bool.and_eq_true, beq_iff_eq] at hConcerns hNot
    rw [← Bool.not_eq_true]
    intro hDelivered
    exact hNot ⟨⟨hConcerns.1.symm, hConcerns.2.symm⟩, hDelivered⟩

lemma Fair.advance (h : Fair retryOn sub s) (hEnabled : sub.enabled = true)
    (hWorker : s.workers[index]? = some worker) {reply : Reply}
    (hEven : worker.phase.Even retryOn reply) (delay : Nat) :
    Fair retryOn sub { s with
      rows := (advance retryOn s worker reply delay).1
      attempts := (advance retryOn s worker reply delay).2.1
      workers := s.workers.set index (advance retryOn s worker reply delay).2.2 } := by
  have hFair := h.workers worker (mem_of_getElem? hWorker)
  obtain ⟨id, time, lockedUntil, remaining, phase⟩ := worker
  unfold Webhooks.advance
  cases phase with
  | claim =>
    dsimp only
    split
    · exact h.stays hWorker (by simp) trivial rfl
    · exact h.claim hWorker rfl _ _
  | selectClaimed =>
    dsimp only
    split
    next hNone =>
      refine h.reads hWorker (by simp) trivial ?_
      intro outboxId row hRow hStatus hAt
      cases hAt
      rw [hRow, Option.filter_some,
        if_pos (by simp [OutboxRow.claimedBy, hStatus, (hFair row hRow hStatus).1])] at hNone
      cases hNone
    next row hSome =>
      rw [Option.filter_eq_some_iff, OutboxRow.claimedBy, Bool.and_eq_true, beq_iff_eq, beq_iff_eq] at hSome
      exact h.stays hWorker (by simp) ⟨hSome.1, hSome.2.2, (hFair row hSome.1 hSome.2.2).2⟩ rfl
  | selectSubscriptions outboxId row =>
    obtain ⟨hRow, hStatus, hTracked⟩ := hFair
    have hMem : row.eventName = sub.eventName → sub ∈ subscriptionsForEvent s.subscriptions row.eventName := by
      intro hEvent
      simp [subscriptionsForEvent, h.subscribed, hEvent, hEnabled]
    dsimp only
    split
    next hNone =>
      refine h.stays hWorker (by simp) ⟨row, hRow, hStatus, fun hEvent => ?_⟩ rfl
      have hAbsurd := hMem hEvent
      rw [hNone] at hAbsurd
      cases hAbsurd
    · refine h.stays hWorker (by simp) ⟨hRow, hStatus, ?_, ?_, fun hEvent => ⟨hMem hEvent, hTracked hEvent⟩⟩ rfl
      · exact (filter_sublist.map _).nodup h.distinct
      · intro other hOther hSame
        exact inj_on_of_nodup_map h.distinct (mem_filter.mp hOther).1 h.subscribed hSame
  | selectDelivered =>
    obtain ⟨hRow, hStatus, hDistinct, hSame, hTracked⟩ := hFair
    exact h.stays hWorker (by simp)
      ((Job.Fair.initial hDistinct hSame hTracked).proceed hRow hStatus) (proceed_outboxId _)
  | send =>
    obtain ⟨hRow, hStatus, hTodo, hJob⟩ := hFair
    exact h.stays hWorker (by simp) ⟨hRow, hStatus, hTodo, hJob, hEven⟩ rfl
  | record => exact h.record hWorker rfl
  | update => exact h.update hWorker rfl _
  | done =>
    rw [set_of_getElem? hWorker]
    exact h

lemma Worker.Fair.mono {rows' : List OutboxRow} (h : worker.Fair retryOn sub rows attempts)
    (hKeeps : ∀ {outboxId : Nat} {row : OutboxRow}, rows[outboxId]? = some row → rows'[outboxId]? = some row)
    (hOld : ∀ {outboxId : Nat} {row : OutboxRow}, rows'[outboxId]? = some row → row.status = .delivering →
      rows[outboxId]? = some row) :
    worker.Fair retryOn sub rows' attempts := by
  obtain ⟨id, time, lockedUntil, remaining, phase⟩ := worker
  cases phase with
  | claim => trivial
  | selectClaimed outboxId => exact fun row hRow hStatus => h row (hOld hRow hStatus) hStatus
  | selectSubscriptions | selectDelivered | send | record => exact ⟨hKeeps h.1, h.2⟩
  | update =>
    obtain ⟨row, hRow, hRest⟩ := h
    exact ⟨row, hKeeps hRow, hRest⟩
  | done => trivial

lemma Fair.publish (h : Fair retryOn sub s) (eventName : String) (availableAt maxAttempts : Nat) :
    Fair retryOn sub (step retryOn s (.publish eventName availableAt maxAttempts)) := by
  have hKeeps {outboxId : Nat} {row : OutboxRow} (hRow : s.rows[outboxId]? = some row) :
      (step retryOn s (.publish eventName availableAt maxAttempts)).rows[outboxId]? = some row :=
    getElem?_append_some hRow _
  have hCases {outboxId : Nat} {row : OutboxRow}
      (hRow : (step retryOn s (.publish eventName availableAt maxAttempts)).rows[outboxId]? = some row) :
      s.rows[outboxId]? = some row ∨
        (outboxId = s.rows.length ∧ row = ⟨eventName, availableAt, .pending, 0, maxAttempts, none, none, none⟩) :=
    getElem?_concat hRow
  refine ⟨h.subscribed, h.distinct, h.alone, ?_, ?_, ?_, ?_, h.once⟩
  · intro worker hMem
    refine (h.workers worker hMem).mono hKeeps ?_
    intro outboxId row hRow hStatus
    rcases hCases hRow with hOld | ⟨-, rfl⟩
    · exact hOld
    · cases hStatus
  · intro outboxId row hRow hStatus
    rcases hCases hRow with hOld | ⟨-, rfl⟩
    · exact h.attended outboxId row hOld hStatus
    · cases hStatus
  · intro outboxId row hRow hEvent
    rcases hCases hRow with hOld | ⟨rfl, rfl⟩
    · exact h.rows outboxId row hOld hEvent
    constructor
    · intro _
      right
      rw [tries, countP_eq_zero]
      intro attempt hMem hConcerns
      have hBefore := h.known attempt hMem
      simp only [Attempt.concerns, Bool.and_eq_true, beq_iff_eq] at hConcerns
      omega
    · rintro (hStatus | hStatus) <;> cases hStatus
  · intro attempt hMem
    have hBefore := h.known attempt hMem
    rw [step, length_append]
    omega

lemma Fair.step (h : Fair retryOn sub s) (hEnabled : sub.enabled = true) (event : Event)
    (hOrderly : s.Orderly retryOn sub event) :
    Fair retryOn sub (step retryOn s event) := by
  cases event with
  | publish eventName availableAt maxAttempts => exact h.publish eventName availableAt maxAttempts
  | subscribe =>
    exact ⟨hOrderly.1, hOrderly.2, h.alone, h.workers, h.attended, h.rows, h.known, h.once⟩
  | start =>
    refine ⟨h.subscribed, h.distinct, ?_, ?_, ?_, h.rows, h.known, h.once⟩
    · intro index worker hWorker hActive
      rw [Webhooks.step, length_append, length_singleton]
      obtain hOld | ⟨rfl, -⟩ := getElem?_concat hWorker
      · exact absurd (hOrderly worker (mem_of_getElem? hOld)) hActive
      · rfl
    · exact forall_mem_append.mpr ⟨h.workers, forall_mem_singleton.mpr trivial⟩
    · intro outboxId row hRow hStatus
      obtain ⟨worker, hMem, hAt⟩ := h.attended outboxId row hRow hStatus
      exact ⟨worker, mem_append_left _ hMem, hAt⟩
  | step index reply delay =>
    rw [Webhooks.step]
    split
    · exact h
    next worker hWorker =>
      exact h.advance hEnabled hWorker (hOrderly worker hWorker) delay
  | stop => exact hOrderly.elim
  | tick => exact ⟨h.subscribed, h.distinct, h.alone, h.workers, h.attended, h.rows, h.known, h.once⟩

end Steps

/-- A row ends only when the subscription needs no further attempt, and no subscription with a recorded 2xx is sent the
event again. -/
structure FanOutIsolated (retryOnStatus : List Nat) (subscription : Subscription) (s : World) : Prop where
  terminal : ∀ outboxId row, s.rows[outboxId]? = some row → row.eventName = subscription.eventName →
    row.status = .delivered ∨ row.status = .deadLetter →
    Settled retryOnStatus s.attempts outboxId subscription.id row.maxAttempts
  sends : ∀ worker ∈ s.workers, ∀ job, worker.phase = .send job → ∀ other ∈ job.todo,
    served s.attempts job.outboxId other.id = false
  once : s.attempts.Pairwise fun earlier later =>
    later.concerns earlier.outboxId earlier.subscriptionId = true → earlier.reply.delivered = false

theorem fan_out_isolated (retryOnStatus : List Nat) (subscriptions : List Subscription) (subscription : Subscription)
    (events : List Event) (hSubscribed : subscription ∈ subscriptions) (hEnabled : subscription.enabled = true)
    (hDistinct : (subscriptions.map Subscription.id).Nodup)
    (hOrderly : Admits (World.Orderly retryOnStatus subscription) (step retryOnStatus)
      { World.initial with subscriptions := subscriptions } events) :
    FanOutIsolated retryOnStatus subscription
      (events.foldl (step retryOnStatus) { World.initial with subscriptions := subscriptions }) := by
  have hFair : Fair retryOnStatus subscription
      (events.foldl (step retryOnStatus) { World.initial with subscriptions := subscriptions }) := by
    refine foldl_invariant (P := Fair retryOnStatus subscription) ?_ ?_ hOrderly
    · intro s event h hOk
      exact h.step hEnabled event hOk
    · exact ⟨hSubscribed, hDistinct, nofun, forall_mem_nil _, nofun, nofun,
        forall_mem_nil _, .nil⟩
  refine ⟨?_, ?_, hFair.once⟩
  · intro outboxId row hRow hEvent
    exact (hFair.rows outboxId row hRow hEvent).2
  · intro worker hMem job hPhase
    have hWorker := hFair.workers worker hMem
    rw [Worker.Fair, hPhase] at hWorker
    exact hWorker.2.2.2.unserved

def twoSubscriptions : List Subscription := [⟨0, "a", true⟩, ⟨1, "a", true⟩]

def pass (worker : Nat) : List Event :=
  [.start "w" 10 5, .step worker .error 0, .step worker .error 0, .step worker .error 0, .step worker .error 0]

def servedInTurn : List Event :=
  [.publish "a" 0 3] ++ pass 0 ++ [.step 0 (.response 200) 0, .step 0 .error 0, .step 0 (.response 503) 5,
    .step 0 .error 0, .step 0 .error 0, .step 0 .error 0, .tick 10] ++ pass 1 ++
  [.step 1 (.response 200) 0, .step 1 .error 0, .step 1 .error 0]

theorem fan_out_isolated_servedInTurn : FanOutIsolated [503] ⟨1, "a", true⟩
      (servedInTurn.foldl (step [503]) { World.initial with subscriptions := twoSubscriptions }) :=
  fan_out_isolated [503] twoSubscriptions ⟨1, "a", true⟩ servedInTurn (by decide) rfl (by decide) (by decide +kernel)

def refusedOnce : List Event :=
  [.publish "a" 0 3] ++ pass 0 ++
    [.step 0 (.response 400) 0, .step 0 .error 0, .step 0 (.response 503) 5, .step 0 .error 0, .step 0 .error 0]

/-- The row is final after one of three attempts. -/
theorem refusal_ends_other_retries :
    let s := refusedOnce.foldl (step [503]) { World.initial with subscriptions := twoSubscriptions }
    s.rows.map (fun row => (row.status, row.attemptCount)) = [(.deadLetter, 1)] ∧ served s.attempts 0 1 = false ∧
      refused [503] s.attempts 0 1 = false ∧ tries s.attempts 0 1 = 1 := by
  decide +kernel

end Sloppy.Webhooks
