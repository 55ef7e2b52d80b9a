import Sloppy.Lib.Places
import Sloppy.Lib.Run
import Mathlib.Algebra.Group.Nat.Defs

/-! # The managed client: circuit breaker and retries

`CircuitState` and `execute` of `http.js`. The calls of one client share its circuit; each event lets one of them go on
from one await to the next. An abort that arrives before a delay, or between it and the next attempt, goes unnoticed.
-/

namespace Sloppy.ManagedClient

open Lib Lib.Run List

section

structure CircuitPolicy where
  failureRatio : Rat
  minimumThroughput : Nat
  samplingWindowMs : Nat
  breakDurationMs : Nat
  halfOpenMaxCalls : Nat
  positive : 0 < halfOpenMaxCalls

inductive CircuitPhase
  | closed
  | opened
  | halfOpen
  deriving DecidableEq

structure Sample where
  time : Nat
  successful : Bool
  deriving DecidableEq

/-- `period` counts how often the circuit has become half-open. -/
structure CircuitState where
  state : CircuitPhase
  openedAt : Nat
  halfOpenCalls : Nat
  samples : List Sample
  period : Nat
  deriving DecidableEq

def CircuitState.initial : CircuitState := ⟨.closed, 0, 0, [], 0⟩

variable (policy : CircuitPolicy)

def halfOpenRequest (circuit : CircuitState) : CircuitState × Bool :=
  if circuit.halfOpenCalls ≥ policy.halfOpenMaxCalls then (circuit, false)
  else ({ circuit with halfOpenCalls := circuit.halfOpenCalls + 1 }, true)

def beforeRequest (now : Nat) (circuit : CircuitState) : CircuitState × Bool :=
  match circuit.state with
  | .closed => (circuit, true)
  | .halfOpen => halfOpenRequest policy circuit
  | .opened =>
    if now - circuit.openedAt < policy.breakDurationMs then (circuit, false)
    else halfOpenRequest policy { circuit with state := .halfOpen, halfOpenCalls := 0, period := circuit.period + 1 }

def sampled (now : Nat) (circuit : CircuitState) : CircuitState :=
  if circuit.samples.length < policy.minimumThroughput then circuit
  else if ((circuit.samples.filter (!·.successful)).length : Rat) / circuit.samples.length ≥ policy.failureRatio then
    { circuit with state := .opened, openedAt := now }
  else circuit

def afterRequest (now : Nat) (successful : Bool) (circuit : CircuitState) : CircuitState :=
  match circuit.state with
  | .halfOpen =>
    if successful then { circuit with state := .closed, samples := [] }
    else { circuit with state := .opened, openedAt := now }
  | _ =>
    sampled policy now { circuit with
      samples := (circuit.samples ++ [Sample.mk now successful]).filter (now - ·.time ≤ policy.samplingWindowMs) }

section Retry

inductive RetryKind
  | none
  | fixed (delayMs : Nat)
  | exponential (initialDelayMs maxDelayMs : Nat)
  deriving DecidableEq

structure RetryPolicy where
  kind : RetryKind
  maxAttempts : Nat
  positive : 0 < maxAttempts
  retryOnStatus : List Nat
  retryOnMethods : List String
  jitter : Bool
  allowPostWithIdempotencyKey : Bool

def retryNone : RetryPolicy := ⟨.none, 1, Nat.one_pos, [], [], false, false⟩

/-- A call of `execute`, with the names of its headers and the policy that is in effect for it. -/
structure Request where
  retry : RetryPolicy
  method : String
  headers : List String
  stream : Bool

def canRetryMethod (policy : RetryPolicy) (method : String) (headers : List String) : Bool :=
  policy.retryOnMethods.contains method ||
    (method == "POST" && policy.allowPostWithIdempotencyKey &&
      headers.any fun name => name.toLower == "idempotency-key")

def randomInteger (random exclusiveMax : Nat) : Nat := if exclusiveMax ≤ 1 then 0 else random % exclusiveMax

def jittered (policy : RetryPolicy) (random delay : Nat) : Nat :=
  if policy.jitter then randomInteger random (delay + 1) else delay

/-- The delay in milliseconds; `retryAfter` is that of the response, if it has a number of seconds there. -/
def retryDelay (policy : RetryPolicy) (attempt : Nat) (retryAfter : Option Nat) (random : Nat) : Nat :=
  match retryAfter, policy.kind with
  | some delay, _ => delay
  | none, .none => 0
  | none, .fixed delayMs => jittered policy random delayMs
  | none, .exponential initialDelayMs maxDelayMs =>
    jittered policy random (min maxDelayMs (initialDelayMs * 2 ^ (attempt - 1)))

/-- Where a call awaits. It is `pending` after a status that is retried: the circuit has not been told. -/
inductive CallPhase
  | entering
  | due (pending : Bool)
  | requesting
  | sleeping (pending : Bool)
  | cancelled (pending : Bool)
  | finished
  deriving DecidableEq

/-- `requests` counts the requests made of the transport, `late` says that one was made after an earlier one although
the signal was aborted; `entries` and `leaves` are those of the bulkhead. -/
structure Call where
  request : Request
  phase : CallPhase
  attempt : Nat
  aborted : Bool
  requests : Nat
  late : Bool
  entries : Nat
  leaves : Nat

inductive Act
  | entered
  | refused
  | attempt
  | response (status : Nat) (retryAfter : Option Nat) (random : Nat)
  | failure (code : String) (random : Nat)
  | wake
  | abort
  | cancelled
  deriving DecidableEq

def cancelledCode : String := "SLOPPY_E_HTTP_CANCELLED"

def requestCancelledCode : String := "SLOPPY_E_HTTP_CLIENT_REQUEST_CANCELLED"

def Request.retryable (request : Request) : Bool :=
  canRetryMethod request.retry request.method request.headers && !request.stream

def Call.retries (call : Call) : Bool :=
  decide (call.attempt < call.request.retry.maxAttempts) && call.request.retryable

def Call.finish (call : Call) : Call := { call with phase := .finished, leaves := call.leaves + 1 }

def Call.sleep (call : Call) (pending : Bool) (delay : Nat) : Call :=
  { call with phase := if delay = 0 then .due pending else .sleeping pending }

def Call.invoke (call : Call) : Call :=
  { call with
    phase := .requesting
    attempt := call.attempt + 1
    requests := call.requests + 1
    late := call.late || (decide (0 < call.requests) && call.aborted) }

variable (breaker : Option CircuitPolicy)

def admission (now : Nat) (circuit : CircuitState) : CircuitState × Bool :=
  match breaker with
  | none => (circuit, true)
  | some policy => beforeRequest policy now circuit

def report (now : Nat) (successful : Bool) (circuit : CircuitState) : CircuitState :=
  match breaker with
  | none => circuit
  | some policy => afterRequest policy now successful circuit

def Call.attemptNext (now : Nat) (circuit : CircuitState) (call : Call) : CircuitState × Call :=
  if call.attempt < call.request.retry.maxAttempts then
    match admission breaker now circuit with
    | (circuit, true) => (circuit, call.invoke)
    | (circuit, false) => (circuit, ({ call with attempt := call.attempt + 1 } : Call).finish)
  else (circuit, call.finish)

def Call.respond (now : Nat) (circuit : CircuitState) (call : Call) (status : Nat) (retryAfter : Option Nat)
    (random : Nat) : CircuitState × Call :=
  if call.request.retry.retryOnStatus.contains status && call.retries then
    (circuit, call.sleep true (retryDelay call.request.retry call.attempt retryAfter random))
  else (report breaker now (decide (status < 500)) circuit, call.finish)

def Call.fail (now : Nat) (circuit : CircuitState) (call : Call) (code : String) (random : Nat) :
    CircuitState × Call :=
  if call.retries && code != cancelledCode then
    (report breaker now false circuit, call.sleep false (retryDelay call.request.retry call.attempt none random))
  else (report breaker now false circuit, call.finish)

/-- An abort is noticed by a delay that listens when it arrives. -/
def Call.abort (call : Call) : Call :=
  match call.aborted, call.phase with
  | true, _ => call
  | false, .sleeping pending => { call with aborted := true, phase := .cancelled pending }
  | false, _ => { call with aborted := true }

/-- A cancelled delay after a status is caught and reported; one after an error is thrown on. -/
def Call.cancel (now : Nat) (circuit : CircuitState) (call : Call) (pending : Bool) : CircuitState × Call :=
  if pending then call.fail breaker now circuit cancelledCode 0 else (circuit, call.finish)

def Call.act (now : Nat) (circuit : CircuitState) (call : Call) (act : Act) : CircuitState × Call :=
  match act, call.phase with
  | .entered, .entering => (circuit, { call with phase := .due false, entries := call.entries + 1 })
  | .refused, .entering => (circuit, { call with phase := .finished })
  | .attempt, .due _ => call.attemptNext breaker now circuit
  | .response status retryAfter random, .requesting => call.respond breaker now circuit status retryAfter random
  | .failure code random, .requesting => call.fail breaker now circuit code random
  | .wake, .sleeping pending => (circuit, { call with phase := .due pending })
  | .cancelled, .cancelled pending => call.cancel breaker now circuit pending
  | .abort, _ => (circuit, call.abort)
  | _, _ => (circuit, call)

/-- What an act does to a call and the circuit. -/
inductive CallStep (now : Nat) (circuit : CircuitState) (call : Call) : Act → CircuitState → Call → Prop
  | stays (act : Act) : CallStep now circuit call act circuit call
  | entered (h : call.phase = .entering) :
      CallStep now circuit call .entered circuit { call with phase := .due false, entries := call.entries + 1 }
  | refused (h : call.phase = .entering) : CallStep now circuit call .refused circuit { call with phase := .finished }
  | admitted {pending : Bool} {circuit' : CircuitState} (h : call.phase = .due pending)
      (hLeft : call.attempt < call.request.retry.maxAttempts)
      (hAdmission : admission breaker now circuit = (circuit', true)) :
      CallStep now circuit call .attempt circuit' call.invoke
  | rejected {pending : Bool} {circuit' : CircuitState} (h : call.phase = .due pending)
      (hLeft : call.attempt < call.request.retry.maxAttempts)
      (hAdmission : admission breaker now circuit = (circuit', false)) :
      CallStep now circuit call .attempt circuit' ({ call with attempt := call.attempt + 1 } : Call).finish
  | exhausted {pending : Bool} (h : call.phase = .due pending)
      (hLeft : ¬call.attempt < call.request.retry.maxAttempts) :
      CallStep now circuit call .attempt circuit call.finish
  | retriedStatus {status random : Nat} {retryAfter : Option Nat} {delay : Nat} (h : call.phase = .requesting)
      (hStatus : call.request.retry.retryOnStatus.contains status = true) (hRetries : call.retries = true) :
      CallStep now circuit call (.response status retryAfter random) circuit (call.sleep true delay)
  | retriedError {code : String} {random delay : Nat} (h : call.phase = .requesting) (hCode : code ≠ cancelledCode)
      (hRetries : call.retries = true) :
      CallStep now circuit call (.failure code random) (report breaker now false circuit) (call.sleep false delay)
  | reported {act : Act} (successful : Bool) (h : call.phase = .requesting ∨ call.phase = .cancelled true) :
      CallStep now circuit call act (report breaker now successful circuit) call.finish
  | woken {pending : Bool} (h : call.phase = .sleeping pending) :
      CallStep now circuit call .wake circuit { call with phase := .due pending }
  | aborted (hFirst : call.aborted = false) (h : ∀ pending, call.phase ≠ .sleeping pending) :
      CallStep now circuit call .abort circuit { call with aborted := true }
  | delayAborted {pending : Bool} (h : call.phase = .sleeping pending) :
      CallStep now circuit call .abort circuit { call with aborted := true, phase := .cancelled pending }
  | thrown (h : call.phase = .cancelled false) : CallStep now circuit call .cancelled circuit call.finish

variable {breaker} {now : Nat} {circuit : CircuitState} {call : Call}

lemma Call.fail_step {code : String} {random : Nat} (h : call.phase = .requesting) :
    CallStep breaker now circuit call (.failure code random) (call.fail breaker now circuit code random).1
      (call.fail breaker now circuit code random).2 := by
  rw [Call.fail]
  split
  next hRetried =>
    rw [Bool.and_eq_true, bne_iff_ne] at hRetried
    exact .retriedError h hRetried.2 hRetried.1
  · exact .reported false (.inl h)

lemma Call.abort_step : CallStep breaker now circuit call .abort circuit call.abort := by
  unfold Call.abort
  split
  · exact .stays .abort
  next hPhase =>
    exact .delayAborted hPhase
  next hFirst hOther =>
    exact .aborted hFirst hOther

lemma Call.act_step (act : Act) :
    CallStep breaker now circuit call act
      (call.act breaker now circuit act).1 (call.act breaker now circuit act).2 := by
  unfold Call.act
  split
  next h =>
    exact .entered h
  next h =>
    exact .refused h
  next h =>
    rw [Call.attemptNext]
    split
    next hLeft =>
      split
      next hAdmission =>
        exact .admitted h hLeft hAdmission
      next hAdmission =>
        exact .rejected h hLeft hAdmission
    next hLeft =>
      exact .exhausted h hLeft
  next h =>
    rw [Call.respond]
    split
    next hRetried =>
      rw [Bool.and_eq_true] at hRetried
      exact .retriedStatus h hRetried.1 hRetried.2
    · exact .reported _ (.inl h)
  next h =>
    exact Call.fail_step h
  next h =>
    exact .woken h
  next h =>
    rw [Call.cancel]
    split
    next hPending =>
      rw [hPending] at h
      rw [Call.fail, bne_self_eq_false, Bool.and_false, if_neg nofun]
      exact .reported false (.inr h)
    next hPending =>
      rw [Bool.eq_false_iff.mpr hPending] at h
      exact .thrown h
  · exact Call.abort_step
  · exact .stays _

end Retry

/-- A request that was let through while the circuit was half-open. -/
structure Probe where
  call : Nat
  period : Nat
  deriving DecidableEq

/-- `probes` are those whose call is still running. -/
structure Client where
  circuit : CircuitState
  clock : Nat
  calls : List Call
  probes : List Probe

def Client.initial : Client := ⟨.initial, 0, [], []⟩

inductive Event
  | execute (request : Request) (aborted : Bool)
  | act (elapsed call : Nat) (act : Act)

def probesAfter (probes : List Probe) (index : Nat) (before after : Call) (circuit : CircuitState) : List Probe :=
  if after.phase = .finished then probes.filter (·.call != index)
  else if before.requests < after.requests ∧ circuit.state = .halfOpen then probes ++ [⟨index, circuit.period⟩]
  else probes

def step (breaker : Option CircuitPolicy) (s : Client) : Event → Client
  | .execute request aborted =>
    { s with calls := s.calls ++ [⟨request, .entering, 0, aborted, 0, false, 0, 0⟩] }
  | .act elapsed index act =>
    match s.calls[index]? with
    | none => { s with clock := s.clock + elapsed }
    | some call =>
      match call.act breaker (s.clock + elapsed) s.circuit act with
      | (circuit, next) =>
        { circuit := circuit
          clock := s.clock + elapsed
          calls := s.calls.set index next
          probes := probesAfter s.probes index call next circuit }

end

section Bounds

structure Call.Bounded (call : Call) : Prop where
  requests : call.requests ≤ call.attempt
  attempts : call.attempt ≤ call.request.retry.maxAttempts
  once : call.request.retryable = false → call.requests ≤ 1
  entering : call.phase = .entering → call.attempt = 0 ∧ call.entries = 0 ∧ call.leaves = 0
  waiting : ∀ pending, call.phase = .due pending ∨ call.phase = .sleeping pending →
    call.attempt = 0 ∨ call.retries = true
  inside : call.phase ≠ .entering → call.phase ≠ .finished → call.entries = 1 ∧ call.leaves = 0
  finished : call.phase = .finished → call.entries ≤ 1 ∧ call.leaves = call.entries

variable {breaker : Option CircuitPolicy} {now : Nat} {circuit circuit' : CircuitState} {call next : Call} {act : Act}

lemma Call.Bounded.finish (h : call.Bounded) (hInside : call.phase ≠ .entering ∧ call.phase ≠ .finished) :
    call.finish.Bounded := by
  obtain ⟨hEntries, hLeaves⟩ := h.inside hInside.1 hInside.2
  refine ⟨h.requests, h.attempts, h.once, nofun, ?_, ?_, ?_⟩
  · rintro pending (hPhase | hPhase) <;> cases hPhase
  · intro _ hPhase
    exact absurd rfl hPhase
  · intro _
    rw [Call.finish, hEntries, hLeaves]
    exact ⟨Nat.le_refl _, rfl⟩

lemma Call.Bounded.sleep (h : call.Bounded) (hPhase : call.phase = .requesting) (hRetries : call.retries = true)
    (pending : Bool) (delay : Nat) : (call.sleep pending delay).Bounded := by
  have hInside := h.inside (hPhase ▸ nofun) (hPhase ▸ nofun)
  rw [Call.sleep]
  split
  · exact ⟨h.requests, h.attempts, h.once, nofun, fun _ _ => .inr hRetries, fun _ _ => hInside, nofun⟩
  · exact ⟨h.requests, h.attempts, h.once, nofun, fun _ _ => .inr hRetries, fun _ _ => hInside, nofun⟩

lemma Call.Bounded.invoke (h : call.Bounded) {pending : Bool} (hPhase : call.phase = .due pending)
    (hLeft : call.attempt < call.request.retry.maxAttempts) : call.invoke.Bounded := by
  have hInside := h.inside (hPhase ▸ nofun) (hPhase ▸ nofun)
  refine ⟨Nat.succ_le_succ h.requests, hLeft, ?_, nofun, ?_, fun _ _ => hInside, nofun⟩
  · intro hOnce
    obtain hFirst | hRetries := h.waiting pending (.inl hPhase)
    · have hReqs := h.requests
      rw [hFirst] at hReqs
      exact Nat.succ_le_succ hReqs
    · rw [Call.retries, Bool.and_eq_true] at hRetries
      exact absurd (hOnce.symm.trans hRetries.2) nofun
  · rintro _ (hOther | hOther) <;> cases hOther

lemma Call.Bounded.step (h : call.Bounded) (hStep : CallStep breaker now circuit call act circuit' next) :
    next.Bounded := by
  cases hStep with
  | stays => exact h
  | entered hPhase =>
    obtain ⟨hAttempt, hEntries, hLeaves⟩ := h.entering hPhase
    refine ⟨h.requests, h.attempts, h.once, nofun, fun _ _ => .inl hAttempt, ?_, nofun⟩
    intro _ _
    rw [hEntries]
    exact ⟨rfl, hLeaves⟩
  | refused hPhase =>
    obtain ⟨-, hEntries, hLeaves⟩ := h.entering hPhase
    refine ⟨h.requests, h.attempts, h.once, nofun, ?_, ?_, ?_⟩
    · rintro pending (hOther | hOther) <;> cases hOther
    · intro _ hOther
      exact absurd rfl hOther
    · intro _
      rw [hEntries, hLeaves]
      exact ⟨Nat.zero_le _, rfl⟩
  | admitted hPhase hLeft => exact h.invoke hPhase hLeft
  | rejected hPhase hLeft =>
    have hFinished := h.finish (hPhase ▸ ⟨nofun, nofun⟩)
    exact ⟨Nat.le_succ_of_le h.requests, hLeft, h.once, nofun, fun _ hOther => by simp [Call.finish] at hOther,
      fun _ hOther => absurd rfl hOther, hFinished.finished⟩
  | exhausted hPhase => exact h.finish (hPhase ▸ ⟨nofun, nofun⟩)
  | retriedStatus hPhase _ hRetries | retriedError hPhase _ hRetries => exact h.sleep hPhase hRetries _ _
  | reported _ hPhase =>
    rcases hPhase with hPhase | hPhase
    · exact h.finish (hPhase ▸ ⟨nofun, nofun⟩)
    · exact h.finish (hPhase ▸ ⟨nofun, nofun⟩)
  | woken hPhase =>
    refine ⟨h.requests, h.attempts, h.once, nofun, ?_, ?_, nofun⟩
    · intro _ _
      exact h.waiting _ (.inr hPhase)
    · intro _ _
      exact h.inside (hPhase ▸ nofun) (hPhase ▸ nofun)
  | aborted => exact ⟨h.requests, h.attempts, h.once, h.entering, h.waiting, h.inside, h.finished⟩
  | delayAborted hPhase =>
    refine ⟨h.requests, h.attempts, h.once, nofun, ?_, ?_, nofun⟩
    · rintro pending (hOther | hOther) <;> cases hOther
    · intro _ _
      exact h.inside (hPhase ▸ nofun) (hPhase ▸ nofun)
  | thrown hPhase => exact h.finish (hPhase ▸ ⟨nofun, nofun⟩)

end Bounds

section Aborts

/-- No request has followed an abort, and no attempt is due or awaited after one. -/
structure Call.Punctual (call : Call) : Prop where
  bounded : call.Bounded
  late : call.late = false
  waiting : ∀ pending, call.phase = .due pending ∨ call.phase = .sleeping pending → 0 < call.attempt →
    call.aborted = false

/-- An attempt that is retried has not been aborted when it ends, and no abort arrives between the delay and the next
attempt. -/
def Call.Timely (call : Call) : Act → Prop
  | .response status _ _ => call.phase = .requesting → call.request.retry.retryOnStatus.contains status = true →
    call.retries = true → call.aborted = false
  | .failure code _ => call.phase = .requesting → code ≠ cancelledCode → call.retries = true → call.aborted = false
  | .abort => call.phase = .due true ∨ call.phase = .due false → call.attempt = 0
  | _ => True

instance (call : Call) : (act : Act) → Decidable (call.Timely act)
  | .response _ _ _ | .failure _ _ => inferInstanceAs (Decidable (_ → _ → _ → _))
  | .abort => inferInstanceAs (Decidable (_ → _))
  | .entered | .refused | .attempt | .wake | .cancelled => inferInstanceAs (Decidable True)

variable {breaker : Option CircuitPolicy} {now : Nat} {circuit circuit' : CircuitState} {call next : Call} {act : Act}

lemma Call.Punctual.finish (h : call.Punctual) (hBounded : call.finish.Bounded) : call.finish.Punctual := by
  refine ⟨hBounded, h.late, ?_⟩
  rintro pending (hPhase | hPhase) <;> cases hPhase

lemma Call.Punctual.sleep (h : call.Punctual) (hTimely : call.aborted = false) {pending : Bool} {delay : Nat}
    (hBounded : (call.sleep pending delay).Bounded) : (call.sleep pending delay).Punctual :=
  ⟨hBounded, h.late, fun _ _ _ => hTimely⟩

lemma Call.Punctual.step (h : call.Punctual) (hTimely : call.Timely act)
    (hStep : CallStep breaker now circuit call act circuit' next) : next.Punctual := by
  have hBounded := h.bounded.step hStep
  cases hStep with
  | stays => exact h
  | entered hPhase =>
    refine ⟨hBounded, h.late, ?_⟩
    intro _ _ hAttempt
    exact absurd (h.bounded.entering hPhase).1 (Nat.ne_of_gt hAttempt)
  | refused =>
    refine ⟨hBounded, h.late, ?_⟩
    rintro pending (hPhase | hPhase) <;> cases hPhase
  | admitted hPhase =>
    refine ⟨hBounded, ?_, ?_⟩
    · rw [Call.invoke, h.late, Bool.false_or, Bool.and_eq_false_imp, decide_eq_true_eq]
      intro hAgain
      exact h.waiting _ (.inl hPhase) (Nat.lt_of_lt_of_le hAgain h.bounded.requests)
    · rintro pending (hOther | hOther) <;> cases hOther
  | rejected =>
    refine ⟨hBounded, h.late, ?_⟩
    rintro pending (hPhase | hPhase) <;> cases hPhase
  | exhausted => exact h.finish hBounded
  | retriedStatus hPhase hStatus hRetries => exact h.sleep (hTimely hPhase hStatus hRetries) hBounded
  | retriedError hPhase hCode hRetries => exact h.sleep (hTimely hPhase hCode hRetries) hBounded
  | reported => exact h.finish hBounded
  | woken hPhase => exact ⟨hBounded, h.late, fun _ _ => h.waiting _ (.inr hPhase)⟩
  | aborted _ hAwake =>
    refine ⟨hBounded, h.late, ?_⟩
    rintro pending (hPhase | hPhase) hAttempt
    · refine absurd (hTimely ?_) (Nat.ne_of_gt hAttempt)
      cases pending with
      | true => exact .inl hPhase
      | false => exact .inr hPhase
    · exact absurd hPhase (hAwake pending)
  | delayAborted =>
    refine ⟨hBounded, h.late, ?_⟩
    rintro pending (hPhase | hPhase) <;> cases hPhase
  | thrown => exact h.finish hBounded

end Aborts

section Runs

variable {breaker : Option CircuitPolicy} {s : Client} {P : Call → Prop}

lemma step_calls (hNew : ∀ req aborted, P ⟨req, .entering, 0, aborted, 0, false, 0, 0⟩)
    (h : ∀ call ∈ s.calls, P call) (event : Event)
    (hAct : ∀ elapsed index act call, event = .act elapsed index act → s.calls[index]? = some call →
      P (call.act breaker (s.clock + elapsed) s.circuit act).2) :
    ∀ call ∈ (step breaker s event).calls, P call := by
  cases event with
  | execute req aborted =>
    exact forall_mem_append.mpr ⟨h, forall_mem_singleton.mpr (hNew req aborted)⟩
  | act elapsed index act =>
    rw [step]
    split
    · exact h
    rename_i call hCall
    exact forall_mem_set h (hAct elapsed index act call rfl hCall)

lemma Call.Bounded.entered (req : Request) (aborted : Bool) :
    Call.Bounded ⟨req, .entering, 0, aborted, 0, false, 0, 0⟩ := by
  refine ⟨Nat.le_refl _, Nat.zero_le _, fun _ => Nat.zero_le _, fun _ => ⟨rfl, rfl, rfl⟩, ?_, ?_, nofun⟩
  · intro _ _
    exact .inl rfl
  · intro hPhase
    exact absurd rfl hPhase

lemma bounded_step (h : ∀ call ∈ s.calls, call.Bounded) (event : Event) :
    ∀ call ∈ (step breaker s event).calls, call.Bounded := by
  apply step_calls Call.Bounded.entered h event
  intro elapsed index act call _ hCall
  exact (h call (mem_of_getElem? hCall)).step (Call.act_step act)

def Client.Timely (s : Client) : Event → Prop
  | .execute _ _ => True
  | .act _ index act => ∀ call ∈ s.calls[index]?, call.Timely act

instance (s : Client) : (event : Event) → Decidable (s.Timely event)
  | .execute _ _ => inferInstanceAs (Decidable True)
  | .act _ index act => inferInstanceAs (Decidable (∀ call ∈ s.calls[index]?, call.Timely act))

/-- What one call of `execute` does with the transport and the bulkhead. -/
structure RetryDiscipline (call : Call) : Prop where
  attempts : call.requests ≤ call.request.retry.maxAttempts
  once : canRetryMethod call.request.retry call.request.method call.request.headers = false ∨
    call.request.stream = true → call.requests ≤ 1
  aborted : call.late = false
  entries : call.entries ≤ 1
  leaves : call.leaves = if call.phase = .finished then call.entries else 0

lemma Call.Punctual.discipline {call : Call} (h : call.Punctual) : RetryDiscipline call := by
  have hBounded := h.bounded
  refine ⟨Nat.le_trans hBounded.requests hBounded.attempts, ?_, h.late, ?_, ?_⟩
  · intro hOnce
    apply hBounded.once
    rw [Request.retryable, Bool.and_eq_false_iff, Bool.not_eq_false']
    exact hOnce
  · by_cases hEntering : call.phase = .entering
    · rw [(hBounded.entering hEntering).2.1]
      exact Nat.zero_le _
    · by_cases hFinished : call.phase = .finished
      · exact (hBounded.finished hFinished).1
      · exact Nat.le_of_eq (hBounded.inside hEntering hFinished).1
  · split
    next hFinished =>
      exact (hBounded.finished hFinished).2
    rename_i hRunning
    by_cases hEntering : call.phase = .entering
    · exact (hBounded.entering hEntering).2.2
    · exact (hBounded.inside hEntering hRunning).2

theorem retry_discipline (breaker : Option CircuitPolicy) (events : List Event)
    (hTimely : Admits Client.Timely (step breaker) .initial events) :
    ∀ call ∈ (events.foldl (step breaker) .initial).calls, RetryDiscipline call := by
  have hPunctual : ∀ call ∈ (events.foldl (step breaker) .initial).calls, call.Punctual := by
    refine foldl_invariant (P := fun s : Client => ∀ call ∈ s.calls, call.Punctual) ?_ ?_ hTimely
    · intro s event h hOk
      apply step_calls (fun request aborted => ⟨.entered request aborted, rfl, by simp⟩) h event
      rintro elapsed index act call rfl hCall
      exact (h call (mem_of_getElem? hCall)).step (hOk call hCall) (Call.act_step act)
    · intro call hNone
      exact absurd hNone not_mem_nil
  intro call hCall
  exact (hPunctual call hCall).discipline

def retryTwice : RetryPolicy := ⟨.fixed 100, 2, Nat.two_pos, [503], ["GET"], false, false⟩

def abortedDelay : List Event :=
  [.execute ⟨retryTwice, "GET", [], false⟩ false, .act 0 0 .entered, .act 0 0 .attempt, .act 1 0 (.failure "E" 0),
    .act 1 0 .abort, .act 0 0 .cancelled]

theorem retry_discipline_abortedDelay : Admits Client.Timely (step none) .initial abortedDelay ∧
      ∀ call ∈ (abortedDelay.foldl (step none) .initial).calls, RetryDiscipline call := by
  have hTimely : Admits Client.Timely (step none) .initial abortedDelay := by decide +kernel
  exact ⟨hTimely, retry_discipline none abortedDelay hTimely⟩

/-- The signal is aborted during the first attempt, which fails with the code of the low-level client, is retried after
the whole delay and makes a second request. -/
theorem aborted_attempt_retried :
    ([Event.execute ⟨retryTwice, "GET", [], false⟩ false, .act 0 0 .entered, .act 0 0 .attempt, .act 1 0 .abort,
      .act 0 0 (.failure requestCancelledCode 0), .act 100 0 .wake, .act 0 0 .attempt].foldl (step none)
        .initial).calls.map (fun call => (call.aborted, call.requests, call.late)) = [(true, 2, true)] := by
  decide +kernel

end Runs

end Sloppy.ManagedClient
