import Sloppy.Lib.Run

/-! # The bulkhead of a managed client

`BulkheadState` of `http.js`. Calls are named by their order of arrival; `settlements` is what became of each call,
and `left` the calls whose permit has been given back.
-/

namespace Sloppy.ManagedClient

open Lib List

structure BulkheadPolicy where
  maxConcurrent : Nat
  positive : 0 < maxConcurrent
  maxQueue : Nat

inductive Settlement
  | granted
  | refused
  | timedOut
  | aborted
  deriving DecidableEq

structure BulkheadState where
  active : Nat
  queue : List Nat
  rejected : Nat
  entered : Nat
  settlements : List (Nat × Settlement)
  left : List Nat
  deriving DecidableEq

def BulkheadState.initial : BulkheadState := ⟨0, [], 0, 0, [], []⟩

def BulkheadState.settled (s : BulkheadState) (call : Nat) : Bool := (s.settlements.map Prod.fst).contains call

def BulkheadState.granted (s : BulkheadState) : List Nat :=
  (s.settlements.filter (·.2 == .granted)).map Prod.fst

/-- The permits granted and not yet left. -/
def BulkheadState.permits (s : BulkheadState) : List Nat := s.granted.filter (· ∉ s.left)

/-- The callback of a queued record, which runs once. -/
def settle (s : BulkheadState) (call : Nat) (settlement : Settlement) : BulkheadState :=
  if s.settled call then s
  else if settlement = .granted then
    { s with active := s.active + 1, settlements := s.settlements ++ [(call, settlement)] }
  else { s with settlements := s.settlements ++ [(call, settlement)] }

def enter (policy : BulkheadPolicy) (s : BulkheadState) : BulkheadState :=
  if s.active < policy.maxConcurrent then
    { s with
      entered := s.entered + 1
      active := s.active + 1
      settlements := s.settlements ++ [(s.entered, .granted)] }
  else if s.queue.length ≥ policy.maxQueue then
    { s with
      entered := s.entered + 1
      rejected := s.rejected + 1
      settlements := s.settlements ++ [(s.entered, .refused)] }
  else { s with entered := s.entered + 1, queue := s.queue ++ [s.entered] }

def leave (s : BulkheadState) : BulkheadState :=
  match s.queue with
  | [] => { s with active := s.active - 1 }
  | next :: rest => settle { s with active := s.active - 1, queue := rest } next .granted

def queueTimeout (s : BulkheadState) (call : Nat) : BulkheadState :=
  settle { s with queue := s.queue.erase call, rejected := s.rejected + 1 } call .timedOut

def queueAbort (s : BulkheadState) (call : Nat) : BulkheadState :=
  settle { s with queue := s.queue.erase call } call .aborted

inductive BulkheadEvent
  | enter
  | leave (call : Nat)
  | timeout (call : Nat)
  | abort (call : Nat)
  deriving DecidableEq

/-- A permit is left once; a timer is cleared when its call is settled; a listener may stay. -/
def bulkheadStep (policy : BulkheadPolicy) (s : BulkheadState) : BulkheadEvent → BulkheadState
  | .enter => enter policy s
  | .leave call => if call ∈ s.permits then { leave s with left := call :: s.left } else s
  | .timeout call => if call < s.entered ∧ s.settled call = false then queueTimeout s call else s
  | .abort call => if call < s.entered then queueAbort s call else s

/-- The accounting of permits and waiters: the permits not yet left are active, the oldest waiter is served first,
and every call that has entered waits or has been settled, once. -/
structure Accounted (policy : BulkheadPolicy) (s : BulkheadState) : Prop where
  active : s.active = s.permits.length
  limit : s.active ≤ policy.maxConcurrent
  room : s.queue.length ≤ policy.maxQueue
  full : s.queue ≠ [] → s.active = policy.maxConcurrent
  arrival : (s.granted ++ s.queue).Pairwise (· < ·)
  left : s.left ⊆ s.granted
  settled : (s.queue ++ s.settlements.map Prod.fst).Perm (List.range s.entered)

section Steps

variable {policy : BulkheadPolicy} {s : BulkheadState} {call : Nat} {settlement : Settlement}

lemma settled_eq_false_iff : s.settled call = false ↔ call ∉ s.settlements.map Prod.fst := by
  rw [BulkheadState.settled, Bool.eq_false_iff, ne_eq, contains_iff_mem]

lemma settle_granted (h : s.settled call = false) : settle s call .granted =
    { s with active := s.active + 1, settlements := s.settlements ++ [(call, .granted)] } := by
  rw [settle, h, if_neg nofun, if_pos rfl]

lemma settle_failed (h : s.settled call = false) (hFailed : settlement ≠ .granted) :
    settle s call settlement = { s with settlements := s.settlements ++ [(call, settlement)] } := by
  rw [settle, h, if_neg nofun, if_neg hFailed]

lemma granted_append_granted (settlements : List (Nat × Settlement)) (call : Nat) :
    ((settlements ++ [(call, Settlement.granted)]).filter (·.2 == .granted)).map Prod.fst =
      (settlements.filter (·.2 == .granted)).map Prod.fst ++ [call] := by
  simp

lemma granted_append_failed (settlements : List (Nat × Settlement)) (call : Nat) (hFailed : settlement ≠ .granted) :
    ((settlements ++ [(call, settlement)]).filter (·.2 == .granted)).map Prod.fst =
      (settlements.filter (·.2 == .granted)).map Prod.fst := by
  simp [hFailed]

lemma granted_settled (h : call ∈ s.granted) : call ∈ s.settlements.map Prod.fst :=
  (filter_sublist.map _).subset h

lemma Accounted.entered_of_settled (h : Accounted policy s) (hSettled : call ∈ s.settlements.map Prod.fst) :
    call < s.entered := by
  rw [← mem_range, ← h.settled.mem_iff]
  exact mem_append_right _ hSettled

lemma Accounted.granted_nodup (h : Accounted policy s) : s.granted.Nodup :=
  (h.arrival.imp Nat.ne_of_lt).sublist (sublist_append_left _ _)

lemma Accounted.permits_left (h : Accounted policy s) (hPermit : call ∈ s.permits) :
    (s.granted.filter (· ∉ call :: s.left)).length + 1 = s.active := by
  have hFilter : s.granted.filter (· ∉ call :: s.left) = s.permits.erase call := by
    rw [BulkheadState.permits, Nodup.erase_eq_filter (h.granted_nodup.filter _), filter_filter]
    refine filter_congr fun other _ => ?_
    rw [Bool.eq_iff_iff]
    simp
  rw [hFilter, h.active]
  exact length_erase_add_one hPermit

/-- A call that has not been granted before has not left. -/
lemma permits_granted (hNew : call ∉ s.granted) {left : List Nat} (hLeft : left ⊆ s.granted) :
    ((s.granted ++ [call]).filter (· ∉ left)).length = (s.granted.filter (· ∉ left)).length + 1 := by
  have hStays : call ∉ left := fun hMem => hNew (hLeft hMem)
  rw [filter_append, length_append, filter_cons_of_pos (by simpa using hStays)]
  rfl

lemma Accounted.waiting (h : Accounted policy s) (hWaiting : call ∈ s.queue) : s.settled call = false := by
  have hNodup := h.settled.nodup_iff.mpr nodup_range
  rw [settled_eq_false_iff]
  intro hSettled
  exact (nodup_append.mp hNodup).2.2 call hWaiting call hSettled rfl

lemma Accounted.waiting_of_unsettled (h : Accounted policy s) (hEntered : call < s.entered)
    (hUnsettled : s.settled call = false) : call ∈ s.queue := by
  have hMem : call ∈ s.queue ++ s.settlements.map Prod.fst := h.settled.mem_iff.mpr (mem_range.mpr hEntered)
  exact (mem_append.mp hMem).resolve_right (settled_eq_false_iff.mp hUnsettled)

variable {queue : List Nat} {settlements : List (Nat × Settlement)} {entered : Nat}

lemma settled_enter (h : (queue ++ settlements.map Prod.fst).Perm (List.range entered)) (settlement : Settlement) :
    (queue ++ (settlements ++ [(entered, settlement)]).map Prod.fst).Perm (List.range (entered + 1)) := by
  rw [range_succ, map_append, ← append_assoc]
  exact h.append_right _

lemma settled_waiter (h : (queue ++ settlements.map Prod.fst).Perm (List.range entered)) (hWaiting : call ∈ queue)
    (settlement : Settlement) :
    (queue.erase call ++ (settlements ++ [(call, settlement)]).map Prod.fst).Perm (List.range entered) := by
  refine List.Perm.trans ?_ h
  rw [map_append, map_singleton, ← append_assoc]
  refine List.Perm.trans (perm_append_singleton _ _) ?_
  exact (perm_cons_erase hWaiting).symm.append_right _

section

variable (h : Accounted policy s)
include h

lemma Accounted.enter : Accounted policy (enter policy s) := by
  rw [ManagedClient.enter]
  split
  next hRoom =>
    -- a waiter would mean that the bulkhead is full
    have hQueue : s.queue = [] := by
      by_contra hWaiting
      exact Nat.ne_of_lt hRoom (h.full hWaiting)
    have hArrival := h.arrival
    rw [hQueue, append_nil] at hArrival
    have hNew : s.entered ∉ s.granted := by
      intro hGranted
      exact Nat.lt_irrefl _ (h.entered_of_settled (granted_settled hGranted))
    refine ⟨?_, hRoom, h.room, fun hWaiting => absurd hQueue hWaiting, ?_, ?_, settled_enter h.settled _⟩
    · rw [BulkheadState.permits, BulkheadState.granted, granted_append_granted]
      exact (congrArg (· + 1) h.active).trans (permits_granted hNew h.left).symm
    · rw [BulkheadState.granted, granted_append_granted, hQueue, append_nil, pairwise_append]
      refine ⟨hArrival, pairwise_singleton _ _, ?_⟩
      intro earlier hEarlier later hLater
      rw [mem_singleton.mp hLater]
      exact h.entered_of_settled (granted_settled hEarlier)
    · rw [BulkheadState.granted, granted_append_granted]
      exact subset_append_of_subset_left _ h.left
  next hFull =>
    split
    · have hGranted := granted_append_failed s.settlements s.entered (by decide : Settlement.refused ≠ .granted)
      refine ⟨?_, h.limit, h.room, h.full, ?_, ?_, settled_enter h.settled _⟩
      · rw [BulkheadState.permits, BulkheadState.granted, hGranted]
        exact h.active
      · rw [BulkheadState.granted, hGranted]
        exact h.arrival
      · rw [BulkheadState.granted, hGranted]
        exact h.left
    next hQueue =>
      refine ⟨h.active, h.limit, ?_, ?_, ?_, h.left, ?_⟩
      · rw [length_append]
        exact Nat.lt_of_not_ge hQueue
      · intro _
        exact Nat.le_antisymm h.limit (Nat.le_of_not_lt hFull)
      · rw [← append_assoc, pairwise_append]
        refine ⟨h.arrival, pairwise_singleton _ _, ?_⟩
        intro earlier hEarlier later hLater
        rw [mem_singleton.mp hLater, ← mem_range, ← h.settled.mem_iff]
        rcases mem_append.mp hEarlier with hGranted | hWaiting
        · exact mem_append_right _ (granted_settled hGranted)
        · exact mem_append_left _ hWaiting
      · rw [range_succ, append_assoc]
        refine List.Perm.trans ?_ (h.settled.append_right _)
        rw [append_assoc]
        exact perm_append_comm.append_left _

lemma Accounted.leave (hPermit : call ∈ s.permits) :
    Accounted policy { leave s with left := call :: s.left } := by
  have hPermits := h.permits_left hPermit
  have hLimit := h.limit
  have hLeft : call :: s.left ⊆ s.granted := cons_subset.mpr ⟨mem_of_mem_filter hPermit, h.left⟩
  rw [ManagedClient.leave]
  split
  next hQueue =>
    refine ⟨?_, ?_, h.room, fun hWaiting => absurd hQueue hWaiting, h.arrival, hLeft, h.settled⟩
    · exact (Nat.eq_sub_of_add_eq hPermits).symm
    · exact Nat.le_trans (Nat.sub_le _ _) h.limit
  next next rest hQueue =>
    have hNext : next ∈ s.queue := hQueue ▸ mem_cons_self
    have hFull : s.active = policy.maxConcurrent := h.full (hQueue ▸ cons_ne_nil _ _)
    have hRoom := h.room
    rw [hQueue, length_cons] at hRoom
    have hNew : next ∉ s.granted := fun hGranted =>
      settled_eq_false_iff.mp (h.waiting hNext) (granted_settled hGranted)
    rw [settle_granted (by exact h.waiting hNext)]
    refine ⟨?_, ?_, ?_, ?_, ?_, ?_, ?_⟩
    · rw [BulkheadState.permits, BulkheadState.granted, granted_append_granted]
      refine Eq.trans ?_ (permits_granted hNew hLeft).symm
      dsimp only
      omega
    · dsimp only
      omega
    · exact Nat.le_of_succ_le hRoom
    · intro _
      dsimp only
      omega
    · have hArrival := h.arrival
      rw [hQueue] at hArrival
      rw [BulkheadState.granted, granted_append_granted, append_assoc]
      exact hArrival
    · rw [BulkheadState.granted, granted_append_granted]
      exact subset_append_of_subset_left _ hLeft
    · have hSettled := settled_waiter h.settled hNext .granted
      rw [hQueue, erase_cons_head] at hSettled
      exact hSettled

lemma Accounted.withdraw (hWaiting : call ∈ s.queue) (hFailed : settlement ≠ .granted) (rejected : Nat) :
    Accounted policy (settle { s with queue := s.queue.erase call, rejected := rejected } call settlement) := by
  have hGranted := granted_append_failed s.settlements call hFailed
  rw [settle_failed (by exact h.waiting hWaiting) hFailed]
  refine ⟨?_, h.limit, ?_, ?_, ?_, ?_, settled_waiter h.settled hWaiting _⟩
  · rw [BulkheadState.permits, BulkheadState.granted, hGranted]
    exact h.active
  · exact Nat.le_trans length_erase_le h.room
  · intro _
    exact h.full (ne_nil_of_mem hWaiting)
  · rw [BulkheadState.granted, hGranted]
    exact h.arrival.sublist (List.Sublist.append (List.Sublist.refl _) erase_sublist)
  · rw [BulkheadState.granted, hGranted]
    exact h.left

lemma Accounted.queueAbort (hEntered : call < s.entered) : Accounted policy (queueAbort s call) := by
  rw [ManagedClient.queueAbort]
  cases hSettled : s.settled call with
  | false => exact h.withdraw (h.waiting_of_unsettled hEntered hSettled) (by decide) s.rejected
  | true =>
    have hGone : call ∉ s.queue := by
      intro hWaiting
      exact absurd (hSettled.symm.trans (h.waiting hWaiting)) nofun
    rw [erase_of_not_mem hGone, settle, if_pos (by exact hSettled)]
    exact h

lemma Accounted.step (event : BulkheadEvent) : Accounted policy (bulkheadStep policy s event) := by
  cases event with
  | enter => exact h.enter
  | leave =>
    rw [bulkheadStep]
    split
    next hPermit =>
      exact h.leave hPermit
    · exact h
  | timeout =>
    rw [bulkheadStep]
    split
    next hRunning =>
      exact h.withdraw (h.waiting_of_unsettled hRunning.1 hRunning.2) (by decide) _
    · exact h
  | abort =>
    rw [bulkheadStep]
    split
    next hEntered =>
      exact h.queueAbort hEntered
    · exact h

end

end Steps

lemma Accounted.initial (policy : BulkheadPolicy) : Accounted policy .initial :=
  ⟨rfl, Nat.zero_le _, Nat.zero_le _, fun hWaiting => absurd rfl hWaiting, .nil, nil_subset _, .nil⟩

theorem bulkhead_accounted (policy : BulkheadPolicy) (events : List BulkheadEvent) :
    Accounted policy (events.foldl (bulkheadStep policy) .initial) := by
  apply foldlRecOn
  · exact Accounted.initial policy
  · intro s h event _
    exact h.step event

/-- Three calls for one permit and one place in the queue, and the first one leaves. -/
theorem bulkhead_accounted_handed_on :
    let reached := [.enter, .enter, .enter, .leave 0].foldl (bulkheadStep ⟨1, Nat.one_pos, 1⟩) .initial
    reached.settlements = [(0, .granted), (2, .refused), (1, .granted)] ∧ reached.permits = [1] ∧
      Accounted ⟨1, Nat.one_pos, 1⟩ reached :=
  ⟨by decide, by decide, bulkhead_accounted _ _⟩

end Sloppy.ManagedClient
