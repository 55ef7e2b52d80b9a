import Sloppy.Backend.Server

/-! # Final states

A closed connection and an ended request keep their states as long as nothing is done to a request whose connection
was closed, and a request is not failed or read after it has ended. The source checks neither.
-/

namespace Sloppy.Backend

open Http Lib Lib.Run List

def Lives.Reachable (lives : Lives) (request : RequestLifecycle) : Prop :=
  ∀ connection, lives.connectionOf request = some connection → connection.state ≠ .closed

def Lives.EndedOrReachable (lives : Lives) (place : Nat) : Prop :=
  ∀ request, lives.requests[place]? = some request → request.state.terminal = true ∨ lives.Reachable request

/-- A usable reader reads for a request that has not ended and whose connection is not closed. -/
def Server.ReadsLive (server : Server) (place : Nat) : Prop :=
  ∀ reader requestPlace request, server.readers[place]? = some reader → reader.usable = true →
    reader.request = some requestPlace → server.requests[requestPlace]? = some request →
    request.state.terminal = false ∧ server.Reachable request

/-- Nothing but closing is done to a request whose connection was closed; a request that has ended is
neither failed, unless it has failed, nor read; and a closed connection does not fail. -/
def Server.Orderly (server : Server) : Operation → Prop
  | .connectionFail place =>
    ∀ connection, server.connections[place]? = some connection → connection.state ≠ .closed
  | .parseHead request _ | .mapHead request _ | .bodyReaderBegin request _ _ => server.EndedOrReachable request
  | .bodyReaderAppend reader _ | .bodyReaderFinish reader => server.ReadsLive reader
  | .beginDispatch request | .beginWrite request | .complete request => server.EndedOrReachable request
  | .fail place =>
    ∀ request, server.requests[place]? = some request →
      (request.state.terminal = false ∨ request.state = .failed) ∧ server.Reachable request
  | .cancel request _ _ | .shutdown request | .timeout request _ => server.EndedOrReachable request
  | _ => True

def Operation.closes : Operation → Option Nat
  | .close request => some request
  | _ => none

structure KeepsFinal (closes : Option Nat) (before after : Lives) : Prop where
  connections : ∀ (place : Nat) (connection : Connection), before.connections[place]? = some connection →
    connection.state = .closed → ∃ later, after.connections[place]? = some later ∧ later.state = .closed
  requests : ∀ (place : Nat) (request : RequestLifecycle), before.requests[place]? = some request →
    request.state.terminal = true → closes ≠ some place →
    ∃ later, after.requests[place]? = some later ∧ later.state = request.state

lemma KeepsFinal.refl (closes : Option Nat) (lives : Lives) : KeepsFinal closes lives lives where
  connections _ connection hAt hClosed := ⟨connection, hAt, hClosed⟩
  requests _ request hAt _ _ := ⟨request, hAt, rfl⟩

lemma keepsFinal_putScope {origin : Origin} {lives : Lives} {place : Nat} {req : RequestLifecycle}
    {after : RequestScope} (hAt : lives.requests[place]? = some req)
    (hEffect : RequestEffect origin (lives.scopeOf req) after) {closes : Option Nat}
    (hConn : lives.Reachable req ∨ after.connection = lives.connectionOf req)
    (hReq : req.state.terminal = false ∨ after.request.state = req.state ∨ closes = some place) :
    KeepsFinal closes lives (lives.putScope place req after) where
  connections p conn hFound hClosed := by
    obtain ⟨state, hState⟩ := hEffect.connection_eq
    rw [putScope_connections hState, hFound, Option.map_some]
    refine ⟨_, rfl, ?_⟩
    split
    next hPointer =>
      have hOwn : lives.connectionOf req = some conn := by
        rw [Lives.connectionOf, hPointer, Option.bind_some, hFound]
      obtain hReachable | hSame := hConn
      · exact absurd hClosed (hReachable conn hOwn)
      · change after.connection = (lives.connectionOf req).map _ at hState
        rw [hSame, hOwn, Option.map_some, Option.some.injEq] at hState
        rw [hState] at hClosed
        exact hClosed
    · exact hClosed
  requests r record hFound hEnded hOpen := by
    refine exists_getElem?_set hAt hFound ?_ fun _ => rfl
    rintro rfl rfl
    obtain hLive | hSame | hCloses := hReq
    · rw [hLive] at hEnded
      cases hEnded
    · exact hSame
    · exact absurd hCloses hOpen

variable {place : Nat}

lemma keepsFinal_target {origin : Origin} (hReader : origin ≠ .reader) (hFailing : origin ≠ .failing)
    (hClosing : origin ≠ .closing) {lives after : Lives} (h : TargetEffect origin lives place after)
    (hOrderly : lives.EndedOrReachable place) (closes : Option Nat) : KeepsFinal closes lives after := by
  obtain rfl | ⟨req, scope, hAt, hEffect, rfl⟩ := h
  · exact .refl closes _
  cases hState : req.state.terminal with
  | false =>
    have hReachable := (hOrderly req hAt).resolve_left (by simp [hState])
    exact keepsFinal_putScope hAt hEffect (.inl hReachable) (.inl hState)
  | true =>
    have hEnded : (lives.scopeOf req).request.state.terminal ≠ false := by simp [Lives.scopeOf, hState]
    refine keepsFinal_putScope hAt hEffect (.inr ?_) (.inr (.inl ?_))
    all_goals cases hEffect with
      | recorded => rfl
      | advanced head state conn hLive => exact absurd hLive hEnded
      | rejected hOrigin hLive => exact absurd hLive hEnded
      | cancelled head token state hCancelled hLive => exact absurd hLive (not_or.mpr ⟨hEnded, hReader⟩)
      | ended head state fallback hKind hLive =>
        exact absurd hLive (not_or.mpr ⟨hEnded, not_or.mpr ⟨hReader, hFailing⟩⟩)
      | closed hOrigin => exact absurd hOrigin hClosing

lemma keepsFinal_close (srv : Server) (place : Nat) :
    KeepsFinal (some place) srv.toLives (srv.onRequest place requestClose).1.toLives := by
  rw [Server.onRequest]
  split
  · exact .refl _ _
  next hAt =>
    exact @keepsFinal_putScope .closing _ _ _ _ hAt (.closed rfl) _
      (.inr (releaseAdmission_connection _)) (.inr (.inr rfl))

lemma requestFail_state {scope : RequestScope} (h : scope.request.state = .failed) :
    (requestFail scope).1.request.state = .failed := by
  rw [requestFail]
  split
  · exact h
  · obtain ⟨admitted, hReq⟩ := releaseAdmission_request
      ((scope.setState .failed).setConnection (connectionAfterStreamTerminal scope .error))
    rw [endStream, hReq]
    rfl

variable {srv : Server}

lemma keepsFinal_fail (hOrderly : srv.Orderly (.fail place)) (closes : Option Nat) :
    KeepsFinal closes srv.toLives (srv.onRequest place requestFail).1.toLives := by
  rw [Server.onRequest]
  split
  · exact .refl _ _
  rename_i req hAt
  obtain ⟨hState, hReachable⟩ := hOrderly req hAt
  refine keepsFinal_putScope hAt (requestFail_effect _) (.inl hReachable) (hState.imp_right fun hFailed => .inl ?_)
  rw [hFailed]
  exact requestFail_state hFailed

lemma keepsFinal_onReader {run : ReaderScope → ReaderScope × Except Failure Unit}
    (hRun : ∀ s, RequestEffect .reader s.scope (run s).1.scope)
    (hUnusable : ∀ s, s.reader.usable = false → (run s).1.scope = s.scope) (hOrderly : srv.ReadsLive place)
    (closes : Option Nat) : KeepsFinal closes srv.toLives (srv.onReader place run).1.toLives := by
  rw [Server.onReader]
  split
  · exact .refl _ _
  rename_i reader hReader
  split
  next requestPlace arena hReq hArena =>
    split
    · exact .refl _ _
    rename_i req hAt
    have hEffect := hRun ⟨srv.scopeOf req, srv.arenas arena, reader⟩
    cases hUsable : reader.usable with
    | true =>
      obtain ⟨hLive, hReachable⟩ := hOrderly reader requestPlace req hReader hUsable hReq hAt
      exact keepsFinal_putScope hAt hEffect (.inl hReachable) (.inl hLive)
    | false =>
      have hSame := hUnusable ⟨srv.scopeOf req, srv.arenas arena, reader⟩ hUsable
      exact keepsFinal_putScope hAt hEffect (.inr (congrArg RequestScope.connection hSame))
        (.inr (.inl (congrArg (fun scope => scope.request.state) hSame)))
  · exact .refl _ _

lemma closed_set {conns : List Connection} {conn next : Connection} (hAt : conns[place]? = some conn)
    (hNext : conn.state = .closed → next.state = .closed) {p : Nat} {other : Connection}
    (hOther : conns[p]? = some other) (hClosed : other.state = .closed) :
    ∃ later, (conns.set place next)[p]? = some later ∧ later.state = .closed :=
  exists_getElem?_set hAt hOther (fun _ hSame => hNext (hSame ▸ hClosed)) fun _ => hClosed

lemma keepsFinal_onConnection {run : HttpBackend → Connection → HttpBackend × Connection}
    (hRun : ∀ conn, srv.connections[place]? = some conn → conn.state = .closed →
      (run srv.backend conn).2.state = .closed) (closes : Option Nat) :
    KeepsFinal closes srv.toLives (srv.onConnection place run).1.toLives := by
  rw [Server.onConnection]
  split
  · exact .refl _ _
  next conn hAt =>
    exact ⟨fun _ _ => closed_set hAt (hRun conn hAt), fun _ req hReq _ _ => ⟨req, hReq, rfl⟩⟩

lemma keepsFinal_begin (srv : Server) (place arena : Nat) (closes : Option Nat) :
    KeepsFinal closes srv.toLives (srv.begin place arena).1.toLives := by
  rw [Server.begin]
  split
  · exact .refl _ _
  rename_i conn hAt
  refine ⟨fun _ _ => closed_set hAt ?_, fun r req hReq _ _ => ?_⟩
  · intro hClosed
    obtain ⟨failure, hRefused⟩ | ⟨hBegin, -⟩ := requestBegin_cases srv.backend place conn arena
    · rw [hRefused]
      exact hClosed
    · obtain ⟨-, -, -, hState⟩ := connectionCanBeginRequest_iff.mp hBegin
      simp [hClosed] at hState
  · exact ⟨req, getElem?_append_some hReq _, rfl⟩

lemma keepsFinal_accept (srv : Server) (closes : Option Nat) :
    KeepsFinal closes srv.toLives srv.accept.1.toLives := by
  refine ⟨fun p conn hAt hClosed => ⟨conn, ?_, hClosed⟩, fun _ req hReq _ _ => ⟨req, hReq, rfl⟩⟩
  exact getElem?_append_some hAt _

lemma keepsFinal_step (parser : HeadParser) {op : Operation} (hOrderly : srv.Orderly op) :
    KeepsFinal op.closes srv.toLives (step parser srv op).1.toLives := by
  have hOrdinary : ∀ {place : Nat} {origin : Origin}, srv.target op = some (place, origin) →
      origin ≠ .reader → origin ≠ .failing → origin ≠ .closing → srv.EndedOrReachable place →
      KeepsFinal op.closes srv.toLives (step parser srv op).1.toLives :=
    fun hTarget hReader hFailing hClosing hReq =>
      keepsFinal_target hReader hFailing hClosing (step_target hTarget) hReq _
  cases op with
  | start | stop | dispose | useArena => exact ⟨fun _ conn hAt hClosed => ⟨conn, hAt, hClosed⟩,
      fun _ req hAt _ _ => ⟨req, hAt, rfl⟩⟩
  | accept => exact keepsFinal_accept srv _
  | connectionClose =>
    apply keepsFinal_onConnection
    intro conn _ hClosed
    rw [connectionClose, if_pos hClosed]
    exact hClosed
  | connectionFail place => exact keepsFinal_onConnection (fun conn hAt hClosed => absurd hClosed (hOrderly conn hAt)) _
  | setMultiplexing place enabled => exact keepsFinal_onConnection (fun _ _ hClosed => hClosed) _
  | begin place arena => exact keepsFinal_begin srv place arena _
  | bodyReaderAppend reader chunk =>
    refine keepsFinal_onReader (requestBodyReaderAppend_effect · chunk) ?_ hOrderly _
    intro s hUsable
    rw [requestBodyReaderAppend, hUsable]
    rfl
  | bodyReaderFinish =>
    refine keepsFinal_onReader requestBodyReaderFinish_effect ?_ hOrderly _
    intro s hUsable
    rw [requestBodyReaderFinish, hUsable]
    rfl
  | bodyReaderClose =>
    rw [step, bodyReaderClose_lives]
    exact .refl _ _
  | fail => exact keepsFinal_fail hOrderly _
  | close place => exact keepsFinal_close srv place
  | parseHead | mapHead | bodyReaderBegin | beginDispatch | beginWrite | complete | cancel | shutdown
  | timeout => exact hOrdinary rfl (by decide) (by decide) (by decide) hOrderly

/-- In a run of orderly operations closed connections stay closed, and ended requests keep their states
until they are closed. -/
theorem final_states_kept (parser : HeadParser) {server : Server} {ops : List Operation}
    (hOrderly : Admits Server.Orderly (fun server op => (step parser server op).1) server ops) :
    (∀ (place : Nat) (connection : Connection), server.connections[place]? = some connection →
      connection.state = .closed →
      ∃ later, (runOps parser server ops).connections[place]? = some later ∧ later.state = .closed) ∧
    (∀ (place : Nat) (request : RequestLifecycle), server.requests[place]? = some request →
      request.state.terminal = true → (∀ op ∈ ops, op.closes ≠ some place) →
      ∃ later, (runOps parser server ops).requests[place]? = some later ∧ later.state = request.state) := by
  induction ops generalizing server with
  | nil => exact ⟨fun _ connection hAt hClosed => ⟨connection, hAt, hClosed⟩,
      fun _ request hAt _ _ => ⟨request, hAt, rfl⟩⟩
  | cons op ops ih =>
    have hStep := keepsFinal_step parser hOrderly.1
    obtain ⟨hConnections, hRequests⟩ := ih hOrderly.2
    constructor
    · intro place connection hAt hClosed
      obtain ⟨later, hLater, hStill⟩ := hStep.connections place connection hAt hClosed
      exact hConnections place later hLater hStill
    · intro place request hAt hEnded hOpen
      obtain ⟨later, hLater, hSame⟩ := hStep.requests place request hAt hEnded (hOpen op mem_cons_self)
      obtain ⟨last, hLast, hStill⟩ := hRequests place later hLater (hSame ▸ hEnded)
        fun other hOther => hOpen other (mem_cons_of_mem op hOther)
      exact ⟨last, hLast, hStill.trans hSame⟩

def cancelledThenClosed : Server :=
  runOps refusingParser (Server.init none emptyArenas)
    [.start, .accept, .begin 0 0, .cancel 0 .cancelled [], .connectionClose 0]

theorem final_states_kept_cancelled : ∃ connection request,
      (runOps refusingParser cancelledThenClosed [.timeout 0 [], .complete 0]).connections[0]? = some connection ∧
      connection.state = .closed ∧
      (runOps refusingParser cancelledThenClosed [.timeout 0 [], .complete 0]).requests[0]? = some request ∧
      request.state = .cancelled := by
  have hOrderly : Admits Server.Orderly (fun server op => (step refusingParser server op).1)
      cancelledThenClosed [.timeout 0 [], .complete 0] := by
    refine ⟨?_, ?_, trivial⟩
    · intro request hAt
      cases hAt
      exact .inl rfl
    · intro request hAt
      cases hAt
      exact .inl rfl
  obtain ⟨hConnections, hRequests⟩ := final_states_kept refusingParser hOrderly
  obtain ⟨connection, hConnection, hClosed⟩ := hConnections 0 _ rfl rfl
  obtain ⟨request, hRequest, hCancelled⟩ := hRequests 0 _ rfl rfl (by decide)
  exact ⟨connection, request, hConnection, hClosed, hRequest, hCancelled⟩

/-- Cancelling a request takes its closed connection back to closing, and failing one that was cancelled
makes it failed. -/
theorem final_states_overwritten : ((runOps refusingParser (Server.init none emptyArenas)
        [.start, .accept, .begin 0 0, .connectionClose 0]).connections.map Connection.state = [.closed] ∧
      (runOps refusingParser (Server.init none emptyArenas)
        [.start, .accept, .begin 0 0, .connectionClose 0, .cancel 0 .cancelled []]).connections.map
        Connection.state = [.closing]) ∧
    ((runOps refusingParser (Server.init none emptyArenas)
        [.start, .accept, .begin 0 0, .cancel 0 .cancelled []]).requests.map RequestLifecycle.state =
        [.cancelled] ∧
      (runOps refusingParser (Server.init none emptyArenas)
        [.start, .accept, .begin 0 0, .cancel 0 .cancelled [], .fail 0]).requests.map RequestLifecycle.state =
        [.failed]) := by
  decide

end Sloppy.Backend
