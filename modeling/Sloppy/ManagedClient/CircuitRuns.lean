import Sloppy.ManagedClient.Execute

/-! # Probes of a half-open circuit

Every path through `execute` tells the circuit how an attempt ended, except a status that is retried. A call that is
then turned away by a half-open circuit leaves its probe counted for good.
-/

namespace Sloppy.ManagedClient

open Lib.Run List

section Circuit

variable {policy : CircuitPolicy} {now : Nat} {circuit circuit' : CircuitState}

lemma sampled_not_halfOpen (h : circuit.state ≠ .halfOpen) : (sampled policy now circuit).state ≠ .halfOpen := by
  rw [sampled]
  split
  · exact h
  · split
    · exact nofun
    · exact h

lemma sampled_period : (sampled policy now circuit).period = circuit.period := by
  rw [sampled]
  split
  · rfl
  · split <;> rfl

lemma afterRequest_not_halfOpen (successful : Bool) :
    (afterRequest policy now successful circuit).state ≠ .halfOpen ∧
      (afterRequest policy now successful circuit).period = circuit.period := by
  rw [afterRequest]
  split
  · split
    · exact ⟨nofun, rfl⟩
    · exact ⟨nofun, rfl⟩
  next hOther =>
    exact ⟨sampled_not_halfOpen hOther, sampled_period⟩

lemma beforeRequest_admitted (h : beforeRequest policy now circuit = (circuit', true)) :
    (circuit.state = .closed ∧ circuit' = circuit) ∨
      (circuit.state = .halfOpen ∧ circuit' = { circuit with halfOpenCalls := circuit.halfOpenCalls + 1 }) ∨
      circuit' = { circuit with state := .halfOpen, halfOpenCalls := 1, period := circuit.period + 1 } := by
  rw [beforeRequest] at h
  split at h
  next hClosed =>
    cases h
    exact .inl ⟨hClosed, rfl⟩
  next hHalfOpen =>
    rw [halfOpenRequest] at h
    split at h
    · cases h
    · cases h
      exact .inr (.inl ⟨hHalfOpen, rfl⟩)
  · split at h
    · cases h
    · rw [halfOpenRequest, if_neg (Nat.not_le_of_gt policy.positive)] at h
      cases h
      exact .inr (.inr rfl)

lemma beforeRequest_rejected (h : beforeRequest policy now circuit = (circuit', false)) :
    circuit' = circuit ∧ (circuit.state = .opened ∨
      circuit.state = .halfOpen ∧ policy.halfOpenMaxCalls ≤ circuit.halfOpenCalls) := by
  rw [beforeRequest] at h
  split at h
  · cases h
  next hHalfOpen =>
    rw [halfOpenRequest] at h
    split at h
    next hFull =>
      cases h
      exact ⟨rfl, .inr ⟨hHalfOpen, hFull⟩⟩
    · cases h
  next hOpened =>
    split at h
    · cases h
      exact ⟨rfl, .inl hOpened⟩
    · rw [halfOpenRequest, if_neg (Nat.not_le_of_gt policy.positive)] at h
      cases h

end Circuit

section Probes

def CallPhase.holding : CallPhase → Bool
  | .requesting => true
  | .due pending | .sleeping pending | .cancelled pending => pending
  | .entering | .finished => false

/-- The probes of the current period are counted and belong to calls whose attempt is not reported. -/
structure Probing (s : Client) : Prop where
  periods : ∀ probe ∈ s.probes, probe.period ≤ s.circuit.period
  counted : s.circuit.state = .halfOpen → s.circuit.halfOpenCalls ≤ s.probes.countP (·.period == s.circuit.period)
  held : s.circuit.state = .halfOpen → ∀ probe ∈ s.probes, probe.period = s.circuit.period →
    ∃ call, s.calls[probe.call]? = some call ∧ call.phase.holding = true

def Client.after (s : Client) (now index : Nat) (call next : Call) (circuit : CircuitState) : Client :=
  { circuit := circuit
    clock := now
    calls := s.calls.set index next
    probes := probesAfter s.probes index call next circuit }

variable {policy : CircuitPolicy} {s : Client} {index now : Nat} {call next : Call} {circuit : CircuitState}

variable {probe : Probe}

lemma probesAfter_subset {probes : List Probe} (h : probe ∈ probesAfter probes index call next circuit) :
    probe ∈ probes ∨ probe = ⟨index, circuit.period⟩ := by
  rw [probesAfter] at h
  split at h
  · exact .inl (mem_filter.mp h).1
  split at h
  · rw [mem_append, mem_singleton] at h
    exact h
  · exact .inl h

lemma after_periods (h : Probing s) (hPeriod : s.circuit.period ≤ circuit.period) :
    ∀ probe ∈ (s.after now index call next circuit).probes, probe.period ≤ circuit.period := by
  intro probe hProbe
  rcases probesAfter_subset hProbe with hOld | rfl
  · exact Nat.le_trans (h.periods probe hOld) hPeriod
  · exact Nat.le_refl _

lemma after_held (hCall : s.calls[index]? = some call)
    (hHeld : ∃ holder, s.calls[probe.call]? = some holder ∧ holder.phase.holding = true)
    (hNext : probe.call = index → next.phase.holding = true) :
    ∃ holder, (s.calls.set index next)[probe.call]? = some holder ∧ holder.phase.holding = true := by
  by_cases hIndex : probe.call = index
  · rw [hIndex, getElem?_set_self (List.getElem_of_getElem? hCall).1]
    exact ⟨next, rfl, hNext hIndex⟩
  · rw [getElem?_set_ne (Ne.symm hIndex)]
    exact hHeld

lemma Probing.apart (h : Probing s) (hState : circuit.state ≠ .halfOpen)
    (hPeriod : circuit.period = s.circuit.period) : Probing (s.after now index call next circuit) :=
  ⟨after_periods h (Nat.le_of_eq hPeriod.symm), fun hHalfOpen => absurd hHalfOpen hState,
    fun hHalfOpen => absurd hHalfOpen hState⟩

section

variable (h : Probing s) (hCall : s.calls[index]? = some call)
include h hCall

lemma Probing.goes_on (hRunning : next.phase ≠ .finished)
    (hReqs : next.requests = call.requests) (hHolding : next.phase.holding = call.phase.holding) :
    Probing (s.after now index call next s.circuit) := by
  have hProbes : (s.after now index call next s.circuit).probes = s.probes := by
    rw [Client.after, probesAfter, if_neg hRunning, if_neg]
    rw [hReqs]
    exact fun hMore => Nat.lt_irrefl _ hMore.1
  refine ⟨after_periods h (Nat.le_refl _), ?_, ?_⟩
  · rw [hProbes]
    exact h.counted
  · rw [hProbes]
    intro hHalfOpen probe hProbe hPeriod
    have hHeld := h.held hHalfOpen probe hProbe hPeriod
    apply after_held hCall hHeld
    intro hIndex
    obtain ⟨holder, hHolder, hHolds⟩ := hHeld
    rw [hIndex, hCall] at hHolder
    cases hHolder
    exact hHolding.trans hHolds

lemma Probing.ends (hFinished : next.phase = .finished)
    (hHolding : s.circuit.state = .halfOpen → call.phase.holding = false) :
    Probing (s.after now index call next s.circuit) := by
  have hProbes : (s.after now index call next s.circuit).probes = s.probes.filter (·.call != index) := by
    rw [Client.after, probesAfter, if_pos hFinished]
  have hOther : s.circuit.state = .halfOpen → ∀ probe ∈ s.probes, probe.period = s.circuit.period →
      probe.call ≠ index := by
    rintro hHalfOpen probe hProbe hPeriod rfl
    obtain ⟨holder, hHolder, hHolds⟩ := h.held hHalfOpen probe hProbe hPeriod
    rw [hCall] at hHolder
    cases hHolder
    exact absurd (hHolds.symm.trans (hHolding hHalfOpen)) nofun
  refine ⟨after_periods h (Nat.le_refl _), ?_, ?_⟩
  · intro hHalfOpen
    have hCounted := h.counted hHalfOpen
    rw [hProbes, countP_filter]
    refine Nat.le_trans hCounted (countP_mono_left ?_)
    intro probe hProbe hPeriod
    rw [Bool.and_eq_true, bne_iff_ne]
    exact ⟨hPeriod, hOther hHalfOpen probe hProbe (beq_iff_eq.mp hPeriod)⟩
  · rw [hProbes]
    intro hHalfOpen probe hProbe hPeriod
    have hOld := (mem_filter.mp hProbe).1
    apply after_held hCall (h.held hHalfOpen probe hOld hPeriod)
    intro hIndex
    exact absurd hIndex (hOther hHalfOpen probe hOld hPeriod)

lemma Probing.joins (hHalfOpen : circuit.state = .halfOpen) (hPeriod : s.circuit.period ≤ circuit.period)
    (hOld : ∀ probe ∈ s.probes, probe.period = circuit.period →
      s.circuit.state = .halfOpen ∧ s.circuit.period = circuit.period)
    (hCount : circuit.halfOpenCalls ≤ s.probes.countP (·.period == circuit.period) + 1) :
    Probing (s.after now index call call.invoke circuit) := by
  have hProbes : (s.after now index call call.invoke circuit).probes = s.probes ++ [⟨index, circuit.period⟩] := by
    rw [Client.after, probesAfter, if_neg (by exact nofun), if_pos ⟨Nat.lt_succ_self _, hHalfOpen⟩]
  refine ⟨after_periods h hPeriod, ?_, ?_⟩
  · intro _
    rw [hProbes, countP_append]
    simpa [Client.after] using hCount
  · rw [hProbes]
    intro _ probe hProbe hCur
    rcases mem_append.mp hProbe with hProbe | hNew
    · obtain ⟨hState, hSame⟩ := hOld probe hProbe hCur
      exact after_held hCall (h.held hState probe hProbe (hCur.trans hSame.symm)) fun _ => rfl
    · rw [mem_singleton.mp hNew]
      exact ⟨call.invoke, getElem?_set_self (List.getElem_of_getElem? hCall).1, rfl⟩

lemma Probing.admitted (hAdmission : beforeRequest policy now s.circuit = (circuit, true)) :
    Probing (s.after now index call call.invoke circuit) := by
  obtain ⟨hClosed, rfl⟩ | ⟨hHalfOpen, rfl⟩ | rfl := beforeRequest_admitted hAdmission
  · exact h.apart (hClosed ▸ nofun) rfl
  · exact h.joins hCall hHalfOpen (Nat.le_refl _) (fun _ _ _ => ⟨hHalfOpen, rfl⟩)
      (Nat.succ_le_succ (h.counted hHalfOpen))
  · refine h.joins hCall rfl (Nat.le_succ _) ?_ (Nat.le_add_left _ _)
    intro probe hProbe hNew
    have hEarlier := h.periods probe hProbe
    rw [hNew] at hEarlier
    exact absurd hEarlier (Nat.not_succ_le_self _)

end

/-- A call that comes back after a status that is retried does not meet a half-open circuit that has all its probes. -/
def Call.FindsRoom (policy : CircuitPolicy) (circuit : CircuitState) (call : Call) : Act → Prop
  | .attempt => call.phase = .due true →
    ¬(circuit.state = .halfOpen ∧ policy.halfOpenMaxCalls ≤ circuit.halfOpenCalls)
  | _ => True

instance (policy : CircuitPolicy) (circuit : CircuitState) (call : Call) :
    (act : Act) → Decidable (call.FindsRoom policy circuit act)
  | .attempt => inferInstanceAs (Decidable (_ → ¬_))
  | .entered | .refused | .response _ _ _ | .failure _ _ | .wake | .abort | .cancelled =>
    inferInstanceAs (Decidable True)

lemma Probing.act {act : Act} (h : Probing s) (hCall : s.calls[index]? = some call) (hBounded : call.Bounded)
    (hRoom : call.FindsRoom policy s.circuit act)
    (hStep : CallStep (some policy) now s.circuit call act circuit next) :
    Probing (s.after now index call next circuit) := by
  cases hStep with
  | stays =>
    by_cases hFinished : call.phase = .finished
    · exact h.ends hCall hFinished (fun _ => hFinished ▸ rfl)
    · exact h.goes_on hCall hFinished rfl rfl
  | entered hPhase => exact h.goes_on hCall (by rintro ⟨⟩) rfl (hPhase ▸ rfl)
  | refused hPhase => exact h.ends hCall rfl (fun _ => hPhase ▸ rfl)
  | admitted _ _ hAdmission => exact h.admitted hCall hAdmission
  | rejected hPhase _ hAdmission =>
    obtain ⟨rfl, hOpened | hFull⟩ := beforeRequest_rejected hAdmission
    · exact h.apart (by rw [hOpened]; rintro ⟨⟩) rfl
    apply h.ends hCall rfl
    intro _
    rw [hPhase, CallPhase.holding, ← Bool.not_eq_true]
    rintro rfl
    exact hRoom hPhase hFull
  | exhausted hPhase hLeft =>
    -- no attempt is due when none are left
    exfalso
    rcases hBounded.waiting _ (.inl hPhase) with hFirst | hRetries
    · exact hLeft (hFirst ▸ call.request.retry.positive)
    · rw [Call.retries, Bool.and_eq_true, decide_eq_true_eq] at hRetries
      exact hLeft hRetries.1
  | retriedStatus hPhase =>
    rw [Call.sleep]
    split
    · exact h.goes_on hCall (by rintro ⟨⟩) rfl (hPhase ▸ rfl)
    · exact h.goes_on hCall (by rintro ⟨⟩) rfl (hPhase ▸ rfl)
  | retriedError | reported => exact h.apart (afterRequest_not_halfOpen _).1 (afterRequest_not_halfOpen _).2
  | woken hPhase => exact h.goes_on hCall (by rintro ⟨⟩) rfl (hPhase ▸ rfl)
  | aborted =>
    by_cases hFinished : call.phase = .finished
    · exact h.ends hCall hFinished (fun _ => hFinished ▸ rfl)
    · exact h.goes_on hCall hFinished rfl rfl
  | delayAborted hPhase => exact h.goes_on hCall (by rintro ⟨⟩) rfl (hPhase ▸ rfl)
  | thrown hPhase => exact h.ends hCall rfl (fun _ => hPhase ▸ rfl)

end Probes

def Client.FindsRoom (policy : CircuitPolicy) (s : Client) : Event → Prop
  | .execute _ _ => True
  | .act _ index act => ∀ call ∈ s.calls[index]?, call.FindsRoom policy s.circuit act

instance (policy : CircuitPolicy) (s : Client) : (event : Event) → Decidable (s.FindsRoom policy event)
  | .execute _ _ => inferInstanceAs (Decidable True)
  | .act _ index act => inferInstanceAs (Decidable (∀ call ∈ s.calls[index]?, call.FindsRoom policy s.circuit act))

lemma Probing.step {policy : CircuitPolicy} {s : Client} (h : Probing s) (hBounded : ∀ call ∈ s.calls, call.Bounded)
    (event : Event) (hRoom : s.FindsRoom policy event) : Probing (step (some policy) s event) := by
  cases event with
  | execute =>
    refine ⟨h.periods, h.counted, ?_⟩
    intro hHalfOpen probe hProbe hPeriod
    obtain ⟨call, hCall, hHolds⟩ := h.held hHalfOpen probe hProbe hPeriod
    exact ⟨call, getElem?_append_left (List.getElem_of_getElem? hCall).1 ▸ hCall, hHolds⟩
  | act elapsed index act =>
    rw [ManagedClient.step]
    split
    · exact ⟨h.periods, h.counted, h.held⟩
    next call hCall =>
      exact h.act hCall (hBounded call (mem_of_getElem? hCall)) (hRoom call hCall) (Call.act_step act)

/-- The half-open state counts no more probes than are running, and a circuit with no call in progress lets the next
request through once the break is over. -/
structure NeverWedged (policy : CircuitPolicy) (s : Client) : Prop where
  probes : s.circuit.state = .halfOpen → s.circuit.halfOpenCalls ≤ s.probes.length
  admits : (∀ call ∈ s.calls, call.phase = .finished) → ∀ now, s.clock ≤ now →
    s.circuit.openedAt + policy.breakDurationMs ≤ now → (beforeRequest policy now s.circuit).2 = true

lemma Probing.neverWedged {policy : CircuitPolicy} {s : Client} (h : Probing s) : NeverWedged policy s := by
  constructor
  · intro hHalfOpen
    exact Nat.le_trans (h.counted hHalfOpen) countP_le_length
  · intro hFinished now _ hBreak
    rw [beforeRequest]
    split
    · rfl
    next hHalfOpen =>
      -- a counted probe would belong to a call in progress
      have hNone : s.probes.countP (·.period == s.circuit.period) = 0 := by
        rw [countP_eq_zero]
        intro probe hProbe hPeriod
        obtain ⟨call, hCall, hHolds⟩ := h.held hHalfOpen probe hProbe (beq_iff_eq.mp hPeriod)
        rw [hFinished call (mem_of_getElem? hCall)] at hHolds
        cases hHolds
      have hCalls := h.counted hHalfOpen
      rw [hNone, Nat.le_zero] at hCalls
      rw [halfOpenRequest, hCalls, if_neg (Nat.not_le_of_gt policy.positive)]
    · rw [if_neg (by omega), halfOpenRequest, if_neg (Nat.not_le_of_gt policy.positive)]

theorem circuit_never_wedges (policy : CircuitPolicy) (events : List Event)
    (hRoom : Admits (Client.FindsRoom policy) (step (some policy)) .initial events) :
    NeverWedged policy (events.foldl (step (some policy)) .initial) := by
  apply Probing.neverWedged
  refine (foldl_invariant (P := fun s : Client => (∀ call ∈ s.calls, call.Bounded) ∧ Probing s) ?_ ?_ hRoom).2
  · rintro s event ⟨hBounded, h⟩ hOk
    exact ⟨bounded_step hBounded event, h.step hBounded event hOk⟩
  · exact ⟨forall_mem_nil _, forall_mem_nil _, nofun, nofun⟩

def oneProbe : CircuitPolicy := ⟨1, 1, 1000, 10, 1, Nat.one_pos⟩

def probed : List Event :=
  [.execute ⟨retryNone, "GET", [], false⟩ false, .act 0 0 .entered, .act 0 0 .attempt, .act 1 0 (.response 500 none 0),
    .execute ⟨retryTwice, "GET", [], false⟩ false, .act 10 1 .entered, .act 0 1 .attempt]

theorem circuit_never_wedges_probed :
    NeverWedged oneProbe ((probed ++ [Event.act 1 1 (.response 200 none 0)]).foldl (step (some oneProbe)) .initial) :=
  circuit_never_wedges oneProbe (probed ++ [Event.act 1 1 (.response 200 none 0)]) (by decide +kernel)

/-- The probe gets a status that is retried, and its second attempt is turned away by the circuit that its first one
fills: no call is left, and a request long after is turned away too. -/
theorem retried_probe_wedges :
    let s := (probed ++ [Event.act 1 1 (.response 503 none 0), .act 100 1 .wake, .act 0 1 .attempt]).foldl
      (step (some oneProbe)) .initial
    s.calls.map Call.phase = [.finished, .finished] ∧ s.circuit.state = .halfOpen ∧ s.circuit.halfOpenCalls = 1 ∧
      s.probes = [] ∧ (beforeRequest oneProbe 1000000 s.circuit).2 = false := by
  decide +kernel

end Sloppy.ManagedClient
