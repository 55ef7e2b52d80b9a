import Sloppy.Core.RingQueue
import Mathlib.Data.List.Nodup
import Mathlib.Data.List.Count

/-! # The completion loop

The deterministic backend of `async_backend.c` with the code that uses it. Callbacks may call back into the loop, so
a state holds the stack of what is being executed. A step is a call or a return of the code on top, or one round.
-/

namespace Sloppy.Async

open List

inductive CompletionKind
  | none
  | test
  | native
  | v8Continuation
  deriving DecidableEq

structure ScopeRef where
  scope : Nat
  retain : Bool
  release : Bool
  deriving DecidableEq

structure Completion where
  kind : CompletionKind
  dispatch : Bool
  terminalCheck : Bool
  late : Bool
  cleanup : Bool
  scope : Option ScopeRef
  deriving DecidableEq

def Completion.valid (completion : Completion) : Bool := completion.kind != .none && completion.dispatch

abbrev Ticket := Nat × Completion

structure Loop where
  queue : RingQueue Ticket
  disposed : Bool
  draining : Bool
  deriving DecidableEq

inductive Outcome
  | dispatched
  | reportedLate
  | discarded
  deriving DecidableEq

/-- What a status is: `none` is success. -/
abbrev Status := Option StatusCode

inductive Frame
  | dispatching (ticket : Ticket)
  | reportingLate (ticket : Ticket)
  /-- Before the cleanup, with the status to return after it. -/
  | finishing (ticket : Ticket) (status : Status)
  | cleaning (ticket : Ticket) (status : Status)
  /-- The loop of a drain, with the status of the round before. -/
  | draining (maxCount ran : Nat) (status : Status)
  | discarding
  deriving DecidableEq

/-- The loop, the stack, how often each scope is retained, and what has happened so far. -/
structure System where
  loop : Loop
  stack : List Frame
  retains : Nat → Int
  accepted : List Ticket
  taken : List (Ticket × Outcome)
  cleaned : List Ticket
  released : List Ticket

def init (capacity : Nat) : System := ⟨⟨RingQueue.init capacity, false, false⟩, [], fun _ => 0, [], [], [], []⟩

namespace System

def adjust (scope : Nat) (change : Int) (system : System) : System :=
  { system with retains := fun other => if other = scope then system.retains other + change else system.retains other }

def retainScope (completion : Completion) (answer : Status) (system : System) : Except StatusCode System :=
  match completion.scope with
  | some ⟨scope, true, _⟩ =>
    match answer with
    | some code => .error code
    | none => .ok (system.adjust scope 1)
  | _ => .ok system

def releaseScope (completion : Completion) (system : System) : System :=
  match completion.scope with
  | some ⟨scope, _, true⟩ => system.adjust scope (-1)
  | _ => system

/-- `sl_async_loop_enqueue_owned`. -/
def post (completion : Completion) (answer : Status) (system : System) : System × Status :=
  if completion.valid = false then (system, some .invalidArgument)
  else if system.loop.disposed then (system, some .invalidState)
  else if system.loop.queue.isFull then (system, some .capacityExceeded)
  else
    match retainScope completion answer system with
    | .error code => (system, some code)
    | .ok retained =>
      match system.loop.queue.push (system.accepted.length, completion) with
      | .error code => (releaseScope completion retained, some code)
      | .ok queue =>
        ({ retained with
            loop := { system.loop with queue := queue }
            accepted := system.accepted ++ [(system.accepted.length, completion)] }, none)

def push (frame : Frame) (system : System) : System := { system with stack := frame :: system.stack }

def returnStatus (status : Status) : List Frame → List Frame
  | .draining maxCount ran _ :: stack => .draining maxCount ran status :: stack
  | stack => stack

def finish (ticket : Ticket) (status : Status) (stack : List Frame) (system : System) : System :=
  let released := releaseScope ticket.2 system
  { released with stack := returnStatus status stack, released := system.released ++ [ticket] }

/-- A completion off the queue is dispatched, or reported late if it is terminal. -/
def dispatchCompletion (ticket : Ticket) (terminal : Bool) (system : System) : System :=
  if ticket.2.dispatch = false then
    { system with stack := returnStatus (some .invalidArgument) system.stack }
  else if ticket.2.terminalCheck && terminal then
    push (if ticket.2.late then .reportingLate ticket else .finishing ticket none)
      { system with taken := system.taken ++ [(ticket, .reportedLate)] }
  else push (.dispatching ticket) { system with taken := system.taken ++ [(ticket, .dispatched)] }

def withQueue (queue : RingQueue Ticket) (system : System) : System :=
  { system with loop := { system.loop with queue := queue } }

/-- `sl_async_loop_test_run_once`, whose caller is on top of the stack. -/
def runOnce (terminal : Bool) (system : System) : System :=
  if system.loop.disposed then { system with stack := returnStatus (some .invalidState) system.stack }
  else
    match system.loop.queue.popFront with
    | none => system
    | some (ticket, queue) => dispatchCompletion ticket terminal (withQueue queue system)

def drain (maxCount : Nat) (system : System) : System :=
  if system.loop.disposed || system.loop.draining then system
  else push (.draining maxCount 0 none) { system with loop := { system.loop with draining := true } }

def dispose (system : System) : System :=
  if system.loop.disposed then system
  else push .discarding { system with loop := { system.loop with disposed := true } }

def endDrain (stack : List Frame) (system : System) : System :=
  { system with stack := stack, loop := { system.loop with draining := false } }

def drainRound (maxCount ran : Nat) (status : Status) (stack : List Frame) (terminal : Bool) (system : System) :
    System :=
  if status ≠ none ∨ system.loop.queue.isEmpty ∨ (maxCount ≠ 0 ∧ maxCount ≤ ran) then endDrain stack system
  else if system.loop.disposed then endDrain stack system
  else
    match system.loop.queue.popFront with
    | none => endDrain stack system
    | some _ => runOnce terminal { system with stack := .draining maxCount (ran + 1) none :: stack }

def discardRound (stack : List Frame) (system : System) : System :=
  match system.loop.queue.popFront with
  | none => { system with stack := stack }
  | some (ticket, queue) =>
    push (.finishing ticket none) (withQueue queue { system with taken := system.taken ++ [(ticket, .discarded)] })

end System

inductive Event
  | post (completion : Completion) (answer : Status)
  | runOnce (terminal : Bool)
  | drain (maxCount : Nat)
  | dispose
  | returns (status : Status)
  /-- The runtime goes on; `terminal` is what a terminal check would answer. -/
  | advance (terminal : Bool)
  deriving DecidableEq

namespace System

/-- Code outside the loop is running: a callback, or nobody's call is under way. -/
def outside : List Frame → Bool
  | [] | .dispatching _ :: _ | .reportingLate _ :: _ | .cleaning _ _ :: _ => true
  | _ => false

def step (system : System) : Event → System
  | .post completion answer => if outside system.stack then (post completion answer system).1 else system
  | .runOnce terminal => if outside system.stack then runOnce terminal system else system
  | .drain maxCount => if outside system.stack then drain maxCount system else system
  | .dispose => if outside system.stack then dispose system else system
  | .returns status =>
    match system.stack with
    | .dispatching ticket :: stack => { system with stack := .finishing ticket status :: stack }
    | .reportingLate ticket :: stack => { system with stack := .finishing ticket none :: stack }
    | .cleaning ticket saved :: stack => finish ticket saved stack system
    | _ => system
  | .advance terminal =>
    match system.stack with
    | .finishing ticket status :: stack =>
      if ticket.2.cleanup then
        { system with stack := .cleaning ticket status :: stack, cleaned := system.cleaned ++ [ticket] }
      else finish ticket status stack system
    | .draining maxCount ran status :: stack => drainRound maxCount ran status stack terminal system
    | .discarding :: stack => discardRound stack system
    | _ => system

def run (capacity : Nat) (events : List Event) : System := events.foldl step (init capacity)

end System

def onStack : List Frame → List Ticket
  | [] => []
  | .dispatching ticket :: stack => ticket :: onStack stack
  | .reportingLate ticket :: stack => ticket :: onStack stack
  | .finishing ticket _ :: stack => ticket :: onStack stack
  | .cleaning ticket _ :: stack => ticket :: onStack stack
  | .draining _ _ _ :: stack | .discarding :: stack => onStack stack

def beforeCleanup : List Frame → List Ticket
  | [] => []
  | .dispatching ticket :: stack => ticket :: beforeCleanup stack
  | .reportingLate ticket :: stack => ticket :: beforeCleanup stack
  | .finishing ticket _ :: stack => ticket :: beforeCleanup stack
  | .cleaning _ _ :: stack | .draining _ _ _ :: stack | .discarding :: stack => beforeCleanup stack

def wantsCleanup (ticket : Ticket) : Bool := ticket.2.cleanup

def retainsScope (scope : Nat) (ticket : Ticket) : Bool :=
  match ticket.2.scope with
  | some ⟨other, true, _⟩ => other == scope
  | _ => false

def releasesScope (scope : Nat) (ticket : Ticket) : Bool :=
  match ticket.2.scope with
  | some ⟨other, _, true⟩ => other == scope
  | _ => false

namespace System

structure Delivers (system : System) (pending : List Ticket) : Prop where
  holds : system.loop.queue.Holds pending
  order : system.taken.map Prod.fst ++ pending = system.accepted
  numbered : system.accepted.map Prod.fst = List.range system.accepted.length
  valid : ∀ ticket ∈ system.accepted, ticket.2.valid = true
  cleaned_eq : ∀ ticket, system.cleaned.count ticket + ((beforeCleanup system.stack).filter wantsCleanup).count ticket =
    ((system.taken.map Prod.fst).filter wantsCleanup).count ticket
  released_eq : ∀ ticket, system.released.count ticket + (onStack system.stack).count ticket =
    (system.taken.map Prod.fst).count ticket
  retains_eq : ∀ scope, system.retains scope =
    (system.accepted.countP (retainsScope scope) : Int) - system.released.countP (releasesScope scope)
  disposed_empty : system.loop.disposed = true → pending = [] ∨ .discarding ∈ system.stack

@[simp] lemma onStack_returnStatus (status : Status) (stack : List Frame) :
    onStack (returnStatus status stack) = onStack stack := by
  unfold returnStatus
  split <;> rfl

@[simp] lemma beforeCleanup_returnStatus (status : Status) (stack : List Frame) :
    beforeCleanup (returnStatus status stack) = beforeCleanup stack := by
  unfold returnStatus
  split <;> rfl

lemma discarding_returnStatus {status : Status} {stack : List Frame} (h : .discarding ∈ stack) :
    .discarding ∈ returnStatus status stack := by
  unfold returnStatus
  split
  · rw [mem_cons] at h ⊢
    exact Or.inr (h.resolve_left (by intro hEq; cases hEq))
  · exact h

lemma discarding_below {frame : Frame} {stack : List Frame} (hFrame : frame ≠ .discarding)
    (h : .discarding ∈ frame :: stack) : .discarding ∈ stack :=
  (mem_cons.mp h).resolve_left (Ne.symm hFrame)

section Scopes

variable {completion : Completion} {sys : System}

lemma adjust_eq (scope : Nat) (change : Int) (sys : System) : sys.adjust scope change =
      { sys with retains := fun other => sys.retains other + if (scope == other) = true then change else 0 } := by
  rw [adjust]
  congr 1
  funext other
  by_cases hSame : other = scope
  · rw [if_pos hSame, if_pos (by simpa using hSame.symm)]
  · rw [if_neg hSame, if_neg (by simpa using Ne.symm hSame), Int.add_zero]

lemma retainScope_ok {answer : Status} {retained : System} (h : retainScope completion answer sys = .ok retained)
    (num : Nat) :
    retained = { sys with
      retains := fun scope => sys.retains scope + if retainsScope scope (num, completion) then 1 else 0 } := by
  cases hScope : completion.scope with
  | none =>
    simp only [retainScope, hScope] at h
    cases h
    simp [retainsScope, hScope]
  | some hooks =>
    obtain ⟨scope, retain, release⟩ := hooks
    cases retain with
    | false =>
      simp only [retainScope, hScope] at h
      cases h
      simp [retainsScope, hScope]
    | true =>
      cases answer with
      | some =>
        simp only [retainScope, hScope] at h
        cases h
      | none =>
        simp only [retainScope, hScope] at h
        cases h
        simp only [retainsScope, hScope]
        exact adjust_eq scope 1 sys

lemma releaseScope_eq (ticket : Ticket) (sys : System) : releaseScope ticket.2 sys = { sys with
      retains := fun scope => sys.retains scope - if releasesScope scope ticket then 1 else 0 } := by
  cases hScope : ticket.2.scope with
  | none => simp [releaseScope, releasesScope, hScope]
  | some hooks =>
    obtain ⟨scope, retain, release⟩ := hooks
    cases release with
    | false => simp [releaseScope, releasesScope, hScope]
    | true =>
      simp only [releaseScope, releasesScope, hScope, adjust_eq]
      congr 1
      funext other
      split
      · rfl
      · rfl

end Scopes

namespace Delivers

variable {sys : System} {pending : List Ticket} {ticket : Ticket}

variable {stack : List Frame}

lemma restack (h : sys.Delivers pending) (hOn : onStack stack = onStack sys.stack)
    (hBefore : beforeCleanup stack = beforeCleanup sys.stack)
    (hDiscarding : pending = [] ∨ (.discarding ∈ sys.stack → .discarding ∈ stack)) (draining : Bool) :
    Delivers { sys with stack := stack, loop := { sys.loop with draining := draining } } pending where
  __ := h
  cleaned_eq other := by
    rw [hBefore]
    exact h.cleaned_eq other
  released_eq other := by
    rw [hOn]
    exact h.released_eq other
  disposed_empty hDisposed := by
    obtain hEmpty | hKeeps := hDiscarding
    · exact Or.inl hEmpty
    · exact (h.disposed_empty hDisposed).imp_right hKeeps

variable {frame : Frame} {queue : RingQueue Ticket}

lemma take (h : sys.Delivers (ticket :: pending)) (hQueue : queue.Holds pending)
    (hOn : ∀ stack, onStack (frame :: stack) = ticket :: onStack stack)
    (hBefore : ∀ stack, beforeCleanup (frame :: stack) = ticket :: beforeCleanup stack) (outcome : Outcome) :
    Delivers (push frame { withQueue queue sys with taken := sys.taken ++ [(ticket, outcome)] }) pending where
  __ := h
  holds := hQueue
  order := by
    simp only [push, withQueue, map_append, map_singleton, append_assoc, singleton_append]
    exact h.order
  cleaned_eq other := by
    have hCleaned := h.cleaned_eq other
    simp only [push, withQueue, hBefore, map_append, map_singleton, filter_append, filter_cons,
      filter_nil, count_append]
    split
    · simp only [count_cons, count_nil]
      omega
    · simp only [count_nil]
      omega
  released_eq other := by
    have hReleased := h.released_eq other
    simp only [push, withQueue, hOn, map_append, map_singleton, count_append, count_cons, count_nil]
    omega
  disposed_empty hDisposed := by
    obtain hEmpty | hDiscarding := h.disposed_empty hDisposed
    · cases hEmpty
    · exact Or.inr (mem_cons_of_mem _ hDiscarding)

lemma finish (h : sys.Delivers pending) (hStack : sys.stack = frame :: stack)
    (hOn : onStack (frame :: stack) = ticket :: onStack stack)
    (hBefore : (beforeCleanup (frame :: stack)).filter wantsCleanup = (beforeCleanup stack).filter wantsCleanup)
    (hFrame : frame ≠ .discarding) (status : Status) : (sys.finish ticket status stack).Delivers pending := by
  rw [System.finish, releaseScope_eq]
  exact { h with
      cleaned_eq := fun other => by
        have hCleaned := h.cleaned_eq other
        rw [hStack, hBefore] at hCleaned
        simp only [beforeCleanup_returnStatus]
        exact hCleaned
      released_eq := fun other => by
        have hReleased := h.released_eq other
        rw [hStack, hOn, count_cons] at hReleased
        simp only [onStack_returnStatus, count_append, count_cons, count_nil]
        omega
      retains_eq := fun scope => by
        have hRetains := h.retains_eq scope
        simp only [countP_append, countP_cons, countP_nil]
        split <;> omega
      disposed_empty := fun hDisposed => by
        obtain hEmpty | hDiscarding := h.disposed_empty hDisposed
        · exact Or.inl hEmpty
        · rw [hStack] at hDiscarding
          exact Or.inr (discarding_returnStatus (discarding_below hFrame hDiscarding)) }

variable {status : Status}

lemma clean (h : sys.Delivers pending) (hStack : sys.stack = .finishing ticket status :: stack)
    (hCleanup : ticket.2.cleanup = true) :
    Delivers { sys with stack := .cleaning ticket status :: stack, cleaned := sys.cleaned ++ [ticket] } pending where
  __ := h
  cleaned_eq other := by
    have hCleaned := h.cleaned_eq other
    have hWants : wantsCleanup ticket = true := hCleanup
    rw [hStack, beforeCleanup, filter_cons, if_pos hWants, count_cons] at hCleaned
    simp only [beforeCleanup, count_append, count_cons, count_nil]
    omega
  released_eq other := by
    have hReleased := h.released_eq other
    rw [hStack] at hReleased
    exact hReleased
  disposed_empty hDisposed := by
    obtain hEmpty | hDiscarding := h.disposed_empty hDisposed
    · exact Or.inl hEmpty
    · rw [hStack] at hDiscarding
      exact Or.inr (mem_cons_of_mem _ (discarding_below (by intro hEq; cases hEq) hDiscarding))

lemma post (h : sys.Delivers pending) (completion : Completion) (answer : Status) :
    ((sys.post completion answer).2 ≠ none ∧ (sys.post completion answer).1 = sys) ∨
      ((sys.post completion answer).2 = none ∧
        (sys.post completion answer).1.Delivers (pending ++ [(sys.accepted.length, completion)])) := by
  unfold System.post
  split_ifs with hValid hDisposed hFull
  · exact Or.inl ⟨by simp, rfl⟩
  · exact Or.inl ⟨by simp, rfl⟩
  · exact Or.inl ⟨by simp, rfl⟩
  · split
    · exact Or.inl ⟨by simp, rfl⟩
    rename_i hRetained
    have hRoom : pending.length < sys.loop.queue.capacity := by
      have hWithin := h.holds.within
      have hNotFull := mt h.holds.isFull_iff.mpr hFull
      omega
    obtain ⟨queue, hPush, hHolds, -⟩ := h.holds.push hRoom (sys.accepted.length, completion)
    rw [hPush, retainScope_ok hRetained sys.accepted.length]
    refine Or.inr ⟨rfl, ?_⟩
    exact { h with
        holds := hHolds
        order := by
          rw [← append_assoc, h.order]
        numbered := by
          rw [map_append, h.numbered, length_append, length_singleton, range_succ]
          rfl
        valid := by
          intro other hOther
          rw [mem_append, mem_singleton] at hOther
          obtain hOld | rfl := hOther
          · exact h.valid other hOld
          · exact Bool.eq_true_of_not_eq_false hValid
        retains_eq := fun scope => by
          have hRetains := h.retains_eq scope
          simp only [countP_append, countP_cons, countP_nil]
          split <;> omega
        disposed_empty := fun hTrue => absurd hTrue hDisposed }

lemma dispatchCompletion (h : sys.Delivers (ticket :: pending)) (hQueue : queue.Holds pending) (terminal : Bool) :
    ((withQueue queue sys).dispatchCompletion ticket terminal).Delivers pending := by
  have hMem : ticket ∈ sys.accepted := by
    rw [← h.order]
    exact mem_append_right _ (mem_cons_self ..)
  have hDispatch : ticket.2.dispatch = true := by
    have hValid := h.valid ticket hMem
    rw [Completion.valid, Bool.and_eq_true] at hValid
    exact hValid.2
  rw [System.dispatchCompletion, if_neg (by rw [hDispatch]; decide)]
  split
  · split
    · exact h.take hQueue (fun _ => rfl) (fun _ => rfl) .reportedLate
    · exact h.take hQueue (fun _ => rfl) (fun _ => rfl) .reportedLate
  · exact h.take hQueue (fun _ => rfl) (fun _ => rfl) .dispatched

section

variable (h : sys.Delivers pending)
include h

lemma runOnce (terminal : Bool) : ∃ left, (sys.runOnce terminal).Delivers left := by
  rw [System.runOnce]
  split
  · exact ⟨pending, h.restack (onStack_returnStatus _ _) (beforeCleanup_returnStatus _ _)
      (Or.inr discarding_returnStatus) sys.loop.draining⟩
  cases pending with
  | nil =>
    rw [h.holds.popFront_nil]
    exact ⟨[], h⟩
  | cons ticket pending =>
    obtain ⟨queue, hPop, hQueue, -⟩ := h.holds.popFront_cons
    rw [hPop]
    exact ⟨pending, h.dispatchCompletion hQueue terminal⟩

lemma endDrain {maxCount ran : Nat}
    (hStack : sys.stack = .draining maxCount ran status :: stack) : (sys.endDrain stack).Delivers pending := by
  refine h.restack (by rw [hStack, onStack]) (by rw [hStack, beforeCleanup]) (Or.inr ?_) false
  rw [hStack]
  exact discarding_below (by intro hEq; cases hEq)

lemma drainRound {maxCount ran : Nat}
    (hStack : sys.stack = .draining maxCount ran status :: stack) (terminal : Bool) :
    ∃ left, (sys.drainRound maxCount ran status stack terminal).Delivers left := by
  rw [System.drainRound]
  split_ifs
  · exact ⟨pending, h.endDrain hStack⟩
  · exact ⟨pending, h.endDrain hStack⟩
  · split
    · exact ⟨pending, h.endDrain hStack⟩
    have hRound : Delivers { sys with stack := .draining maxCount (ran + 1) none :: stack } pending := by
      refine h.restack (by rw [hStack, onStack, onStack]) (by rw [hStack, beforeCleanup, beforeCleanup])
        (Or.inr ?_) sys.loop.draining
      rw [hStack]
      exact fun hMem => mem_cons_of_mem _ (discarding_below (by intro hEq; cases hEq) hMem)
    exact hRound.runOnce terminal

lemma discardRound (hStack : sys.stack = .discarding :: stack) :
    ∃ left, (sys.discardRound stack).Delivers left := by
  rw [System.discardRound]
  cases pending with
  | nil =>
    rw [h.holds.popFront_nil]
    exact ⟨[], h.restack (by rw [hStack, onStack]) (by rw [hStack, beforeCleanup]) (Or.inl rfl) sys.loop.draining⟩
  | cons ticket pending =>
    obtain ⟨queue, hPop, hQueue, -⟩ := h.holds.popFront_cons
    rw [hPop]
    exact ⟨pending, h.take hQueue (fun _ => rfl) (fun _ => rfl) .discarded⟩

lemma drain (maxCount : Nat) : (sys.drain maxCount).Delivers pending := by
  rw [System.drain]
  split
  · exact h
  have hStarted : Delivers { sys with
        stack := .draining maxCount 0 none :: sys.stack
        loop := { sys.loop with draining := true } } pending :=
    restack h (by rw [onStack]) (by rw [beforeCleanup]) (Or.inr (mem_cons_of_mem _)) true
  exact hStarted

lemma dispose : sys.dispose.Delivers pending := by
  rw [System.dispose]
  split
  · exact h
  · exact { h with
        disposed_empty := fun _ => Or.inr (mem_cons_self ..) }

lemma returns (status : Status) : (sys.step (.returns status)).Delivers pending := by
  rw [step]
  split
  next hStack =>
    refine h.restack (by rw [hStack, onStack, onStack]) (by rw [hStack, beforeCleanup, beforeCleanup])
      (Or.inr ?_) sys.loop.draining
    rw [hStack]
    exact fun hMem => mem_cons_of_mem _ (discarding_below (by intro hEq; cases hEq) hMem)
  next hStack =>
    refine h.restack (by rw [hStack, onStack, onStack]) (by rw [hStack, beforeCleanup, beforeCleanup])
      (Or.inr ?_) sys.loop.draining
    rw [hStack]
    exact fun hMem => mem_cons_of_mem _ (discarding_below (by intro hEq; cases hEq) hMem)
  next saved stack hStack =>
    exact h.finish hStack rfl rfl (by intro hEq; cases hEq) saved
  · exact h

lemma advance (terminal : Bool) : ∃ left, (sys.step (.advance terminal)).Delivers left := by
  rw [step]
  split
  next ticket status stack hStack =>
    split
    next hCleanup =>
      exact ⟨pending, h.clean hStack hCleanup⟩
    next hCleanup =>
      have hNone : ¬wantsCleanup ticket = true := hCleanup
      refine ⟨pending, h.finish hStack rfl ?_ (by intro hEq; cases hEq) status⟩
      rw [beforeCleanup, filter_cons, if_neg hNone]
  next hStack =>
    exact h.drainRound hStack terminal
  next hStack =>
    exact h.discardRound hStack
  · exact ⟨pending, h⟩

lemma step (event : Event) : ∃ left, (sys.step event).Delivers left := by
  cases event with
  | post completion answer =>
    rw [System.step]
    split
    · obtain ⟨-, hSame⟩ | ⟨-, hPosted⟩ := h.post completion answer
      · rw [hSame]
        exact ⟨pending, h⟩
      · exact ⟨_, hPosted⟩
    · exact ⟨pending, h⟩
  | runOnce terminal =>
    rw [System.step]
    split
    · exact h.runOnce terminal
    · exact ⟨pending, h⟩
  | drain maxCount =>
    rw [System.step]
    split
    · exact ⟨pending, h.drain maxCount⟩
    · exact ⟨pending, h⟩
  | dispose =>
    rw [System.step]
    split
    · exact ⟨pending, h.dispose⟩
    · exact ⟨pending, h⟩
  | returns status => exact ⟨pending, h.returns status⟩
  | advance terminal => exact h.advance terminal

end

end Delivers

lemma delivers_init (cap : Nat) : (init cap).Delivers [] where
  holds := RingQueue.holds_init cap
  order := rfl
  numbered := rfl
  valid _ h := by cases h
  cleaned_eq _ := rfl
  released_eq _ := rfl
  retains_eq _ := rfl
  disposed_empty h := by cases h

lemma delivers_run (cap : Nat) (events : List Event) : ∃ pending, (run cap events).Delivers pending := by
  refine foldlRecOn (motive := fun sys => ∃ pending, System.Delivers sys pending) events System.step
    ⟨[], delivers_init cap⟩ ?_
  rintro sys ⟨pending, h⟩ event -
  exact h.step event

section Counts

variable {sys : System} {pending : List Ticket} {ticket : Ticket}

lemma Delivers.accepted_nodup (h : sys.Delivers pending) : sys.accepted.Nodup := by
  have hNumbers : (sys.accepted.map Prod.fst).Nodup := by
    rw [h.numbered]
    exact nodup_range
  exact hNumbers.of_map

lemma Delivers.taken_count_le (h : sys.Delivers pending) (ticket : Ticket) :
    (sys.taken.map Prod.fst).count ticket ≤ 1 := by
  have hAccepted := nodup_iff_count.mp h.accepted_nodup ticket
  rw [← h.order, count_append] at hAccepted
  omega

lemma Delivers.released_once (h : sys.Delivers pending) (hTaken : ticket ∈ sys.taken.map Prod.fst)
    (hDone : ticket ∉ onStack sys.stack) : sys.released.count ticket = 1 := by
  have hReleased := h.released_eq ticket
  have hLe := h.taken_count_le ticket
  have hSeen := count_pos_iff.mpr hTaken
  rw [count_eq_zero_of_not_mem hDone] at hReleased
  omega

lemma beforeCleanup_sublist (stack : List Frame) : (beforeCleanup stack).Sublist (onStack stack) := by
  induction stack with
  | nil => exact List.Sublist.refl _
  | cons frame stack ih =>
    cases frame with
    | dispatching ticket => exact ih.cons_cons ticket
    | reportingLate ticket => exact ih.cons_cons ticket
    | finishing ticket => exact ih.cons_cons ticket
    | cleaning ticket => exact ih.cons ticket
    | draining => exact ih
    | discarding => exact ih

lemma Delivers.cleaned_once (h : sys.Delivers pending) (hTaken : ticket ∈ sys.taken.map Prod.fst)
    (hDone : ticket ∉ onStack sys.stack) :
    sys.cleaned.count ticket = if ticket.2.cleanup then 1 else 0 := by
  have hCleaned := h.cleaned_eq ticket
  have hNone : ((beforeCleanup sys.stack).filter wantsCleanup).count ticket = 0 := by
    rw [count_eq_zero]
    exact fun hMem => hDone ((beforeCleanup_sublist _).subset (mem_filter.mp hMem).1)
  rw [hNone, Nat.add_zero] at hCleaned
  rw [hCleaned]
  split
  next hWants =>
    have hLe := h.taken_count_le ticket
    have hSeen := count_pos_iff.mpr hTaken
    have hSame : ((sys.taken.map Prod.fst).filter wantsCleanup).count ticket =
        (sys.taken.map Prod.fst).count ticket := count_filter hWants
    omega
  next hWants =>
    rw [count_eq_zero]
    exact fun hMem => hWants (mem_filter.mp hMem).2

lemma Delivers.cleaned_le (h : sys.Delivers pending) (ticket : Ticket) :
    sys.cleaned.count ticket ≤ (sys.taken.map Prod.fst).count ticket := by
  have hCleaned := h.cleaned_eq ticket
  have hFilter := (@filter_sublist _ wantsCleanup (sys.taken.map Prod.fst)).count_le ticket
  omega

end Counts

/-- After any history of calls, returns and rounds: the posted completions are those taken, in order, and
those that wait; whatever was taken and is no longer worked on was cleaned up once, if it asks for it, and
released once, and nothing before; a scope is retained as often as posts retained it and no release has
followed; a disposed loop has nothing waiting once its dispose has returned; and a post that fails leaves
everything as it is. -/
theorem completions_delivered (capacity : Nat) (events : List Event) :
    let system := run capacity events
    (∃ pending, system.loop.queue.Holds pending ∧ system.taken.map Prod.fst ++ pending = system.accepted ∧
        system.accepted.map Prod.fst = range system.accepted.length ∧
        (system.loop.disposed = true → .discarding ∉ system.stack → pending = [])) ∧
      (∀ ticket ∈ system.accepted, (ticket ∈ system.taken.map Prod.fst → ticket ∉ onStack system.stack →
          system.cleaned.count ticket = (if ticket.2.cleanup then 1 else 0) ∧ system.released.count ticket = 1) ∧
        system.cleaned.count ticket ≤ (system.taken.map Prod.fst).count ticket ∧
        system.released.count ticket + (onStack system.stack).count ticket = (system.taken.map Prod.fst).count ticket) ∧
      (∀ scope, system.retains scope =
        (system.accepted.countP (retainsScope scope) : Int) - system.released.countP (releasesScope scope)) ∧
      ∀ completion answer, (system.post completion answer).2 ≠ none → (system.post completion answer).1 = system := by
  intro system
  obtain ⟨pending, h⟩ := delivers_run capacity events
  refine ⟨⟨pending, h.holds, h.order, h.numbered, ?_⟩, ?_, h.retains_eq, ?_⟩
  · exact fun hDisposed hReturned => (h.disposed_empty hDisposed).resolve_right hReturned
  · intro ticket _
    exact ⟨fun hTaken hDone => ⟨h.cleaned_once hTaken hDone, h.released_once hTaken hDone⟩, h.cleaned_le ticket,
      h.released_eq ticket⟩
  · intro completion answer hFailed
    obtain ⟨-, hSame⟩ | ⟨hPosted, -⟩ := h.post completion answer
    · exact hSame
    · exact absurd hPosted hFailed

/-- A dispatch callback inside a drain posts another completion and disposes the loop. -/
theorem completions_delivered_dispose_in_dispatch :
    let completion : Completion := ⟨.test, true, false, false, true, some ⟨7, true, true⟩⟩
    let system := run 4
      [.post completion none, .drain 0, .advance false, .post completion none, .dispose, .advance false,
        .advance false, .returns none, .advance false, .returns none, .advance false, .returns none, .advance false]
    system.taken = [((0, completion), .dispatched), ((1, completion), .discarded)] ∧ system.stack = [] ∧
      system.cleaned.count (0, completion) = 1 ∧ system.released.count (0, completion) = 1 := by
  refine ⟨by decide, by decide, ?_⟩
  exact ((completions_delivered 4 _).2.1 (0, ⟨.test, true, false, false, true, some ⟨7, true, true⟩⟩)
    (by decide)).1 (by decide) (by decide)

end System

end Sloppy.Async
