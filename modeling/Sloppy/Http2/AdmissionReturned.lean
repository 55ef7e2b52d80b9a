import Sloppy.Backend.BodyRuns
import Sloppy.Http2.AcceptedRequest
import Sloppy.Http2.DispatchOnce

/-! # The admission of an HTTP/2 request is returned

Whatever ends a request gives its admission back once, so the count of the backend is always that of the other requests
and of this one while it is admitted.
-/

namespace Sloppy.Http2

open Http Backend Lib

variable {others : Nat} {scope after : RequestScope}

structure Balanced (others : Nat) (scope : RequestScope) : Prop where
  active : scope.backend.activeRequests = others + scope.request.admitted.toNat
  attached : scope.request.admitted = true → ∃ connection, scope.connection = some connection ∧
    connection.attached = true

structure Settled (others : Nat) (scope : RequestScope) : Prop where
  active : scope.backend.activeRequests = others
  released : scope.request.admitted = false

lemma Settled.balanced (h : Settled others scope) : Balanced others scope where
  active := by
    rw [h.active, h.released]
    rfl
  attached hAdmitted := by
    rw [h.released] at hAdmitted
    cases hAdmitted

lemma Balanced.settled (h : Balanced others scope) (hReleased : scope.request.admitted = false) :
    Settled others scope where
  active := by
    rw [h.active, hReleased]
    rfl
  released := hReleased

section

variable (h : Balanced others scope)
include h

lemma Balanced.releaseAdmission : Settled others (releaseAdmission scope) := by
  cases hAdmitted : scope.request.admitted with
  | false =>
    have hSame : Backend.releaseAdmission scope = scope := by
      rw [Backend.releaseAdmission]
      split
      · rfl
      · rw [if_pos hAdmitted]
    rw [hSame]
    exact h.settled hAdmitted
  | true =>
    have hActive := h.active
    rw [hAdmitted] at hActive
    have hReleased := Tracked.release ⟨h.attached hAdmitted, .inl ⟨hAdmitted, hActive⟩⟩
    exact ⟨hReleased.active, hReleased.admitted⟩

lemma Balanced.of_same (hActive : after.backend.activeRequests = scope.backend.activeRequests)
    (hAdmitted : after.request.admitted = scope.request.admitted)
    (hAttached : after.connection.map (·.attached) = scope.connection.map (·.attached)) : Balanced others after where
  active := by rw [hActive, hAdmitted, h.active]
  attached hHeld := by
    obtain ⟨conn, hConn, hTrue⟩ := h.attached (hAdmitted ▸ hHeld)
    rw [hConn, Option.map_some, hTrue] at hAttached
    obtain ⟨found, hFound, hFoundTrue⟩ := Option.map_eq_some_iff.mp hAttached
    exact ⟨found, hFound, hFoundTrue⟩

lemma Balanced.setState (state : RequestState) : Balanced others (scope.setState state) :=
  h.of_same rfl rfl rfl

lemma Balanced.setConnection (state : ConnectionState) : Balanced others (scope.setConnection state) := by
  refine h.of_same rfl rfl ?_
  rw [RequestScope.setConnection, Option.map_map]
  rfl

lemma Balanced.terminalCancel (state : RequestState) : Settled others (terminalCancel scope state) :=
  ((h.setState state).setConnection .closing).releaseAdmission

lemma Balanced.endStream (state : RequestState) (fallback : ConnectionState) :
    Settled others (endStream scope state fallback) :=
  ((h.setState state).setConnection _).releaseAdmission

lemma Balanced.effect {origin : Origin} (hEffect : RequestEffect origin scope after) : Balanced others after := by
  cases hEffect with
  | recorded => exact h.of_same rfl rfl rfl
  | advanced head state conn =>
    have hHead : Balanced others (scope.setHead head) := h.of_same rfl rfl rfl
    exact (hHead.setState state).setConnection conn
  | rejected =>
    have hHead : Balanced others (scope.setHead .zero) := h.of_same rfl rfl rfl
    exact (hHead.setState .failed).setConnection .error
  | cancelled head token state =>
    have hRecorded : Balanced others (scope.recorded head token) := h.of_same rfl rfl rfl
    exact (hRecorded.terminalCancel state).balanced
  | ended head state fallback =>
    have hHead : Balanced others (scope.setHead head) := h.of_same rfl rfl rfl
    exact (hHead.endStream state fallback).balanced
  | closed =>
    have hSettled := h.releaseAdmission
    exact Settled.balanced ⟨hSettled.active, hSettled.released⟩

lemma Balanced.requestFail : Settled others (requestFail scope).1 := by
  rw [Backend.requestFail]
  split
  next hNone =>
    refine h.settled ?_
    cases hAdmitted : scope.request.admitted with
    | false => rfl
    | true =>
      obtain ⟨conn, hConn, -⟩ := h.attached hAdmitted
      rw [hNone] at hConn
      cases hConn
  · exact h.endStream .failed .error

end

section Mapping

variable {Value : Type}

def Balancing (others : Nat) (s : ReaderScope) : Prop := Balanced others s.scope

lemma keeps_onArena (call : Action Arena StatusCode Value) : Action.Keeps (Balancing others) (onArena call) := by
  intro s h
  rw [onArena]
  split
  · exact h
  · exact h

lemma keeps_ofStatus (result : Except StatusCode Value) : Action.Keeps (Balancing others) (ofStatus result) := by
  intro s h
  cases result with
  | error | ok => exact h

lemma keeps_onScope {origin : Origin} {call : RequestScope → RequestScope × Except Failure Unit}
    (hCall : ∀ scope, RequestEffect origin scope (call scope).1) :
    Action.Keeps (Balancing others) (onScope call) :=
  fun s h => Balanced.effect h (hCall s.scope)

lemma keeps_updateHead (update : RequestHead → RequestHead) : Action.Keeps (Balancing others) (updateHead update) :=
  keeps_onScope fun scope => @RequestEffect.recorded .ordinary scope _ _ .inl

lemma keeps_takeHeaderArray (count : Nat) : Action.Keeps (Balancing others) (takeHeaderArray count) := by
  rw [takeHeaderArray]
  split
  · exact .pure ()
  · exact (keeps_ofStatus _).bind fun size => keeps_onArena _

lemma keeps_readBody (places : Places) (contentType : Option (List UInt8)) (body : List UInt8) :
    Action.Keeps (Balancing others) (readBody places contentType body) := by
  refine Action.Keeps.bind ?_ fun _ => Action.Keeps.bind ?_ fun _ => ?_
  · exact fun s h => Balanced.effect h (requestBodyReaderBegin_effect _ _ _ _ _)
  · exact fun s h => Balanced.effect h (requestBodyReaderAppend_effect _ _)
  · exact fun s h => Balanced.effect h (requestBodyReaderFinish_effect _)

lemma keeps_fillRequest (places : Places) (limits : ParseOptions) (fields : RequestFields)
    (headers : List HeaderField) (body : List UInt8) :
    Action.Keeps (Balancing others) (fillRequest places limits fields headers body) := by
  refine (keeps_ofStatus _).bind fun method => (keeps_updateHead _).bind fun _ => ?_
  refine (Action.Keeps.onlyIf _ (.fail _)).bind fun _ => (keeps_takeHeaderArray _).bind fun _ => ?_
  refine (keeps_onArena _).bind fun copied => ?_
  refine (keeps_onArena _).bind fun rawTarget => (keeps_updateHead _).bind fun _ => ?_
  refine (keeps_onArena _).bind fun path => (keeps_updateHead _).bind fun _ => ?_
  exact (keeps_onScope fun scope => requestHeadMapped_effect scope _).bind fun _ => keeps_readBody _ _ _

def Reading (s : ReaderScope) : Prop := s.scope.request.state = .reading

variable {s : ReaderScope}

lemma requestBodyReaderFinish_state {after : ReaderScope} (h : requestBodyReaderFinish s = (after, .ok ())) :
    after.scope.request.state = s.scope.request.state := by
  rw [requestBodyReaderFinish] at h
  split at h
  · cases h
  have hNext := afterCheck_ok h
  split at hNext
  · exact absurd hNext bodyReaderFail_ne_ok
  · cases hNext
    rfl

lemma requestHeadMapped_state {head : RequestHead} (h : requestHeadMapped scope head = (after, .ok ())) :
    after.request.state = .reading := by
  rw [requestHeadMapped] at h
  split at h
  · cases h
  · cases h
    rfl

variable {places : Places} {body : List UInt8}

lemma readBody_reading {contentType : Option (List UInt8)} {after : ReaderScope}
    (h : readBody places contentType body s = (after, .ok ())) (hReading : Reading s) : Reading after := by
  obtain ⟨begun, _, hBegin, h⟩ := Action.bind_ok h
  obtain ⟨read, _, hAppend, h⟩ := Action.bind_ok h
  rw [Reading, requestBodyReaderFinish_state h, (requestBodyReaderAppend_ok hAppend).1,
    (requestBodyReaderBegin_ok hBegin).1]
  exact hReading

variable {headers : List HeaderField}

lemma fillRequest_reading {limits : ParseOptions} {fields : RequestFields} {after : ReaderScope}
    (h : fillRequest places limits fields headers body s = (after, .ok ())) : Reading after := by
  obtain ⟨s1, method, -, h⟩ := Action.bind_ok h
  obtain ⟨s2, _, -, h⟩ := Action.bind_ok h
  obtain ⟨s3, _, -, h⟩ := Action.bind_ok h
  obtain ⟨s4, _, -, h⟩ := Action.bind_ok h
  obtain ⟨s5, copied, -, h⟩ := Action.bind_ok h
  obtain ⟨s6, rawTarget, -, h⟩ := Action.bind_ok h
  obtain ⟨s7, _, -, h⟩ := Action.bind_ok h
  obtain ⟨s8, path, -, h⟩ := Action.bind_ok h
  obtain ⟨s9, _, -, h⟩ := Action.bind_ok h
  obtain ⟨s10, _, hMapped, h⟩ := Action.bind_ok h
  exact readBody_reading h (requestHeadMapped_state (onScope_ok hMapped))

/-- A call that fails has ended its request, also one that it began itself. -/
def Returned (others : Nat) : ReaderScope × Except Failure Unit → Prop
  | (s, .error _) => Settled others s.scope
  | (s, .ok ()) => Balanced others s.scope

lemma beginRequest_returned (places : Places) (h : Settled others s.scope) :
    Returned others (beginRequest places s) := by
  cases hConnection : s.scope.connection with
  | none =>
    simp only [beginRequest, onScope, hConnection]
    exact h
  | some conn =>
    obtain ⟨failure, hRefused⟩ | ⟨hCan, -, scheme, hBegun⟩ :=
      requestBegin_cases s.scope.backend places.connection conn places.arena
    · simp only [beginRequest, onScope, hConnection, hRefused]
      exact ⟨h.active, rfl⟩
    · simp only [beginRequest, onScope, hConnection, hBegun]
      have hAttached : conn.attached = true := (connectionCanBeginRequest_iff.mp hCan).1
      exact ⟨congrArg (· + 1) h.active, fun _ => ⟨_, rfl, hAttached⟩⟩

lemma failing_returned {call : Action ReaderScope Failure Unit} (hKeeps : Action.Keeps (Balancing others) call)
    (h : Balanced others s.scope) : Returned others (failing call s) := by
  have hKept := hKeeps s h
  rw [failing]
  split
  next hCall =>
    rw [hCall] at hKept
    exact Balanced.requestFail hKept
  next hCall =>
    rw [hCall] at hKept
    exact hKept

lemma requestFromHeaders_returned (places : Places) (headers : List HeaderField) (body : List UInt8)
    (h : Settled others s.scope) : Returned others (requestFromHeaders places headers body s) := by
  rw [requestFromHeaders]
  split
  · exact h
  dsimp only
  split
  · exact h
  split
  · exact h
  split
  · exact h
  have hBegun := beginRequest_returned places h
  cases hBegin : beginRequest places s with
  | mk begun outcome =>
    rw [hBegin] at hBegun
    cases outcome with
    | error =>
      rw [Action.bind_eq_of_error hBegin]
      exact hBegun
    | ok =>
      rw [Action.bind_eq_of_ok hBegin]
      exact failing_returned (keeps_fillRequest _ _ _ _ _) hBegun

lemma requestFromHeaders_reading {after : ReaderScope}
    (h : requestFromHeaders places headers body s = (after, .ok ())) : Reading after := by
  rw [requestFromHeaders] at h
  split at h
  · cases h
  dsimp only at h
  split at h
  · cases h
  split at h
  · cases h
  split at h
  · cases h
  · obtain ⟨begun, _, -, h⟩ := Action.bind_ok h
    exact fillRequest_reading (failing_ok h)

end Mapping

section Completion

/-- What the dispatch hook may do: it leaves the counters and the admission alone, and it may end the request
that it was called for by a cancellation or a timeout. -/
inductive HookMay (before : RequestScope) : RequestScope → Prop where
  | nothing : HookMay before before
  | leaves {middle after : RequestScope} (h : HookMay before middle)
      (hActive : after.backend.activeRequests = middle.backend.activeRequests)
      (hAdmitted : after.request.admitted = middle.request.admitted)
      (hAttached : after.connection.map (·.attached) = middle.connection.map (·.attached)) : HookMay before after
  | cancels {middle : RequestScope} (h : HookMay before middle) (reason : CancellationReason) (detail : List UInt8) :
      HookMay before (requestCancel middle reason detail).1
  | timesOut {middle : RequestScope} (h : HookMay before middle) (detail : List UInt8) :
      HookMay before (requestTimeout middle detail).1

lemma Balanced.hook (h : Balanced others scope) (hHook : HookMay scope after) : Balanced others after := by
  induction hHook with
  | nothing => exact h
  | leaves _ hActive hAdmitted hAttached ih => exact ih.of_same hActive hAdmitted hAttached
  | cancels _ reason detail ih => exact ih.effect (requestCancel_effect _ reason detail)
  | timesOut _ detail ih => exact ih.effect (requestTimeout_effect _ detail)

lemma requestBeginDispatch_settles {failure : Failure} (h : Balanced others scope)
    (hConn : scope.connection.isSome = true) (hReading : scope.request.state = .reading)
    (hFailed : requestBeginDispatch scope = (after, .error failure)) : Settled others after := by
  rw [requestBeginDispatch] at hFailed
  split at hFailed
  next hNone =>
    rw [hNone] at hConn
    cases hConn
  · split at hFailed
    next hOther =>
      exact absurd hReading hOther
    split at hFailed
    · split at hFailed <;> cases hFailed <;> exact h.terminalCancel _
    split at hFailed
    · cases hFailed
      exact h.terminalCancel _
    · cases hFailed

lemma requestComplete_settles {begun : RequestScope} {result : Except Failure Unit} (h : Balanced others begun)
    (hWriting : begun.connection.isSome = true ∧ begun.request.state = .writingResponse)
    (hComplete : requestComplete begun = (after, result)) : Settled others after := by
  rw [requestComplete] at hComplete
  split at hComplete
  next hNone =>
    rw [hNone] at hWriting
    cases hWriting.1
  · split at hComplete
    next hOther =>
      exact absurd hWriting.2 hOther
    · cases hComplete
      exact h.endStream _ _

variable {world : Surroundings} {disp : ServerDispatcher}

lemma put_backend (scope : RequestScope) (disp : ServerDispatcher) : (disp.put scope).backend = scope.backend := rfl

lemma failAndReset_activeRequests (world : Surroundings) (sid : Int) (h : Balanced others scope)
    (disp : ServerDispatcher) :
    (disp.failAndReset world sid scope).backend.activeRequests = others := by
  rw [ServerDispatcher.failAndReset, ServerDispatcher.resetStream_backend, put_backend]
  exact h.requestFail.active

lemma writeResponse_activeRequests (world : Surroundings) (sid : Int) (resp : Response)
    (h : Balanced others scope) (disp : ServerDispatcher) :
    (disp.writeResponse world sid scope resp).1.backend.activeRequests = others := by
  have hWriting := h.effect (requestBeginWrite_effect scope)
  rw [ServerDispatcher.writeResponse]
  split
  next hBegin =>
    rw [hBegin] at hWriting
    exact failAndReset_activeRequests world sid hWriting disp
  next hBegin =>
    rw [hBegin] at hWriting
    split
    · exact failAndReset_activeRequests world sid hWriting _
    split
    · exact hWriting.requestFail.active
    split
    next hComplete =>
      exact (requestComplete_settles hWriting (requestBeginWrite_ok hBegin) hComplete).active
    next hComplete =>
      exact (requestComplete_settles hWriting (requestBeginWrite_ok hBegin) hComplete).active

def HooksMay (world : Surroundings) : Prop :=
  ∀ call scope arena, HookMay scope (world.dispatch call scope arena).1

lemma submitResponseForRequest_activeRequests (hHook : HooksMay world) (serial : Nat) {sid : Int}
    (hId : 0 < sid) {req : RequestLifecycle} (h : Balanced others (disp.scopeOf req))
    (hReading : req.state = .reading) :
    (disp.submitResponseForRequest world serial sid req).1.backend.activeRequests = others := by
  have hBalanced := h.effect (requestBeginDispatch_effect _)
  rw [ServerDispatcher.submitResponseForRequest, if_neg (Int.not_le.mpr hId)]
  split
  next hBegin =>
    rw [ServerDispatcher.resetStream_backend, put_backend]
    exact (requestBeginDispatch_settles h rfl hReading hBegin).active
  next begun hBegin =>
    rw [hBegin] at hBalanced
    have hCalled := hBalanced.hook (hHook disp.calls begun disp.arena)
    split
    rename_i hCall
    rw [hCall] at hCalled
    exact writeResponse_activeRequests world sid _ hCalled _

lemma Balanced.scopeOf_put (h : Balanced others scope) (disp : ServerDispatcher) :
    Balanced others ((disp.put scope).scopeOf scope.request) where
  active := h.active
  attached hAdmitted := by
    obtain ⟨conn, hConn, hAttached⟩ := h.attached hAdmitted
    refine ⟨_, rfl, ?_⟩
    rw [ServerDispatcher.put, hConn]
    exact hAttached

lemma answerStream_activeRequests (hHook : HooksMay world) (place : Nat)
    {stream : DispatchStream} (hId : 0 < stream.streamId) (headers : List HeaderField) (body : List UInt8)
    (disp : ServerDispatcher) :
    (disp.answerStream world place stream headers body).1.backend.activeRequests = disp.backend.activeRequests := by
  have hFresh : Settled disp.backend.activeRequests (disp.scopeOf .zero) := ⟨rfl, rfl⟩
  have hMapped := requestFromHeaders_returned disp.places headers body
    (s := ⟨disp.scopeOf .zero, disp.arena, .zero⟩) hFresh
  rw [ServerDispatcher.answerStream]
  split
  next hMap =>
    rw [hMap] at hMapped
    rw [ServerDispatcher.resetStream_backend, put_backend]
    exact hMapped.active
  next mapped hMap =>
    rw [hMap] at hMapped
    have hAnswered := submitResponseForRequest_activeRequests hHook stream.serial hId
      (Balanced.scopeOf_put hMapped { disp with arena := mapped.arena }) (requestFromHeaders_reading hMap)
    split
    next hAnswer =>
      rw [hAnswer] at hAnswered
      exact hAnswered
    next hAnswer =>
      rw [hAnswer] at hAnswered
      rw [ServerDispatcher.closeStream_backend]
      exact hAnswered

end Completion

namespace ServerDispatcher

variable {world : Surroundings} {disp : ServerDispatcher}

lemma completeStream_activeRequests (hHook : HooksMay world) (h : Formed disp) (place : Nat) :
    (disp.completeStream world place).1.backend.activeRequests = disp.backend.activeRequests := by
  rw [completeStream]
  split
  · rfl
  rename_i hAt
  split
  · rfl
  next hOpen =>
    rw [Bool.or_eq_true, not_or, Bool.not_eq_true, Bool.not_eq_false'] at hOpen
    exact answerStream_activeRequests hHook place (h.positive ⟨hAt, hOpen.1⟩) _ _ _

lemma handleEvents_backend (events : List DispatchEvent) (disp : ServerDispatcher) :
    (handleEvents world events disp).1.backend = disp.backend := by
  induction events generalizing disp with
  | nil => rfl
  | cons event rest ih =>
    have hHeld := handleEvent_backend world event { disp with events := event :: rest }
    rw [handleEvents]
    split
    next hFailed =>
      rw [hFailed] at hHeld
      exact hHeld
    next hDone =>
      rw [hDone] at hHeld
      rw [ih]
      exact hHeld

lemma deliver_backend (delivered : List Delivery) (disp : ServerDispatcher) :
    (disp.deliver delivered).1.backend = disp.backend := by
  induction delivered generalizing disp with
  | nil => rfl
  | cons delivery rest ih =>
    rw [deliver]
    split
    · rfl
    · rw [ih]

lemma sessionReceive_backend (delivered : List Delivery) (failure : Option StatusCode) (disp : ServerDispatcher) :
    (disp.sessionReceive delivered failure).1.backend = disp.backend := by
  have hDelivered := deliver_backend delivered disp
  rw [sessionReceive]
  split
  next hFailed =>
    rw [hFailed] at hDelivered
    exact hDelivered
  next hDone =>
    rw [hDone] at hDelivered
    cases failure with
    | some | none => exact hDelivered

def Restored (active : Nat) (dispatcher : ServerDispatcher) : Prop :=
  Formed dispatcher ∧ dispatcher.backend.activeRequests = active

variable {active : Nat}

lemma Restored.processPending (hHook : HooksMay world) (h : Restored active disp) :
    Restored active (disp.processPending world).1 := by
  have hHandled : Restored active (handleEvents world disp.events disp).1 := by
    refine ⟨handleEvents_invariant world Formed.steady Formed.opens disp.events h.1, ?_⟩
    rw [handleEvents_backend]
    exact h.2
  rw [ServerDispatcher.processPending]
  split
  next hFailed =>
    rw [hFailed] at hHandled
    exact hHandled
  next hDone =>
    rw [hDone] at hHandled
    refine flushPlaces_invariant (fun {reached} place hReached => ⟨hReached.1.completeStream place, ?_⟩) _ hHandled
    rw [completeStream_activeRequests hHook hReached.1 place]
    exact hReached.2

/-- The call takes over a request that HTTP/1 has admitted. -/
def Call.Upgrades : Call → Prop
  | .upgradeH2c .. => True
  | .receive .. | .processPending | .drainOutput .. => False

lemma Restored.step (hHook : HooksMay world) (h : Restored active disp) {call : Call} (hOwn : ¬call.Upgrades) :
    Restored active (disp.step world call).1 := by
  refine ⟨h.1.step call, ?_⟩
  cases call with
  | upgradeH2c => exact absurd trivial hOwn
  | processPending => exact (h.processPending hHook).2
  | drainOutput => exact h.2
  | receive delivered failure =>
    have hReceived : Restored active ((if disp.canClearSessionEvents world then disp.clearEvents.forgetStreamBodyMarks
          else disp).sessionReceive delivered failure).1 := by
      refine ⟨h.1.steady (received_steady world delivered failure disp), ?_⟩
      rw [sessionReceive_backend]
      split
      · have hCleared := resetArena_backend disp.eventMark { disp with events := [] }
        exact (congrArg HttpBackend.activeRequests hCleared).trans h.2
      · exact h.2
    change (disp.receive world delivered failure).1.backend.activeRequests = active
    rw [receive]
    split
    next hFailed =>
      rw [hFailed] at hReceived
      exact hReceived.2
    next hDone =>
      rw [hDone] at hReceived
      exact (hReceived.processPending hHook).2

/-- The completion of a stream returns the admission that it took, whatever fails on the way; so does every series of
calls on streams, and the answer to an upgraded request returns the one that the request came with. -/
theorem admission_returned (world : Surroundings)
    (hHook : ∀ call scope arena, HookMay scope (world.dispatch call scope arena).1) (dispatcher : ServerDispatcher)
    (hFormed : Formed dispatcher) :
    (∀ place, (dispatcher.completeStream world place).1.backend.activeRequests = dispatcher.backend.activeRequests) ∧
      (∀ calls, (∀ call ∈ calls, ¬call.Upgrades) →
        (dispatcher.runCalls world calls).backend.activeRequests = dispatcher.backend.activeRequests) ∧
      ∀ others request, Balanced others (dispatcher.scopeOf request) → request.state = .reading →
        (dispatcher.answerUpgrade world request).1.backend.activeRequests = others := by
  refine ⟨completeStream_activeRequests hHook hFormed, fun calls hOwn => ?_,
    fun others request hBalanced hReading => ?_⟩
  · exact (List.foldlRecOn (motive := Restored dispatcher.backend.activeRequests) calls _ ⟨hFormed, rfl⟩
      fun _ hReached call hCall => hReached.step hHook (hOwn call hCall)).2
  · exact submitResponseForRequest_activeRequests hHook _ (by decide) ⟨hBalanced.active, hBalanced.attached⟩ hReading

def cancellingWorld : Surroundings :=
  { refusingWorld with
    dispatch := fun _ scope arena =>
      ((requestCancel scope .cancelled (literal "gone")).1, arena, .error ⟨.cancelled, .other⟩) }

theorem admission_returned_cancelled : twoSlots.Formed ∧
      (twoSlots.runCalls cancellingWorld [.receive [getRequest 1, getRequest 3] none]).backend.activeRequests =
        twoSlots.backend.activeRequests := by
  have hFormed : twoSlots.Formed := Formed.initial _ _ _ _ _ _
  exact ⟨hFormed, (admission_returned cancellingWorld
    (fun _ _ _ => .cancels .nothing .cancelled (literal "gone")) twoSlots hFormed).2.1
    [.receive [getRequest 1, getRequest 3] none] (by simp [Call.Upgrades])⟩

end ServerDispatcher

end Sloppy.Http2
