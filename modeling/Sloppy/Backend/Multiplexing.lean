import Sloppy.Backend.Accounting

/-! # Streams of one connection

On a multiplexing connection a stream that ends leaves the connection open for the others. Cancelling a running
stream is the exception: it leaves the connection closing.
-/

namespace Sloppy.Backend

open Http Lib Lib.Run Lib.Admission List

def readyStates : List ConnectionState := [.accepted, .open, .readingRequest, .dispatching, .writingResponse]

def Lives.OnConnection (lives : Lives) (connection place : Nat) (P : RequestLifecycle → Prop) : Prop :=
  ∀ request, lives.requests[place]? = some request → request.connection = some connection → P request

/-- The connection is neither closed nor failed, keeps multiplexing and is not parsed as HTTP/1, and no
running request of it is cancelled or timed out. -/
def Server.Isolating (connection : Nat) (server : Server) : Operation → Prop
  | .connectionClose place | .connectionFail place => place ≠ connection
  | .setMultiplexing place enabled => place ≠ connection ∨ enabled = true
  | .parseHead request _ => server.OnConnection connection request fun _ => False
  | .cancel request _ _ => server.OnConnection connection request fun request => request.state.terminal = true
  | .shutdown request => server.OnConnection connection request fun request => request.state.terminal = true
  | .timeout request _ => server.OnConnection connection request fun request => request.state.terminal = true
  | _ => True

/-- While the backend is started the connection takes new requests, and none of its requests carries a
cancellation. -/
structure Lives.Multiplexes (lives : Lives) (place : Nat) : Prop where
  ready : ∃ connection, lives.connections[place]? = some connection ∧ connection.slotAdmitted = true ∧
    connection.multiplexing = true ∧ (lives.backend.state = .started → connection.state ∈ readyStates)
  tokens : lives.backend.state = .started → ∀ request ∈ lives.requests, request.connection = some place →
    request.cancellation.cancelled = false

variable {backend : HttpBackend}

lemma maybeFinishStop_started (h : (maybeFinishStop backend).state = .started) : backend.state = .started := by
  rw [maybeFinishStop] at h
  split at h
  · cases h
  · exact h

lemma AccountEffect.started {scope after : RequestScope} (h : AccountEffect scope after)
    (hStarted : after.backend.state = .started) : scope.backend.state = .started := by
  cases h with
  | kept hBackend => exact hBackend ▸ hStarted
  | released conn hConn hHeld hAdmitted hBackend =>
    rw [hBackend] at hStarted
    split at hStarted
    · have hBefore := maybeFinishStop_started hStarted
      exact hBefore
    · exact hStarted

variable {conn : Connection} {origin : Origin}

lemma RequestEffect.ready {scope after : RequestScope} (h : RequestEffect origin scope after)
    (hConn : scope.connection = some conn) (hAttached : conn.attached = true)
    (hMultiplexing : conn.multiplexing = true) (hStarted : scope.backend.state = .started)
    (hReady : conn.state ∈ readyStates) (hToken : scope.request.cancellation.cancelled = false)
    (hParsing : origin ≠ .parsing) (hCancel : origin = .cancellation → scope.request.state.terminal = true) :
    (∃ later, after.connection = some later ∧ later.state ∈ readyStates) ∧
      after.request.cancellation.cancelled = false := by
  have hQuiet : ¬Interrupted scope := by
    rintro (hCancelled | hStopping)
    · rw [hToken] at hCancelled
      cases hCancelled
    · rw [RequestScope.stopping, hConn, hStarted] at hStopping
      simp at hStopping
  cases h with
  | recorded head token hRecord =>
    exact ⟨⟨conn, hConn, hReady⟩, Bool.eq_false_iff.mpr fun hCancelled => hQuiet (hRecord hCancelled)⟩
  | advanced head state next hLive hState hNext =>
    refine ⟨⟨_, congrArg (Option.map _) hConn, ?_⟩, hToken⟩
    exact mem_cons_of_mem _ (mem_cons_of_mem _ hNext)
  | rejected hOrigin => exact absurd hOrigin hParsing
  | cancelled head token state hState hLive hCause =>
    have hOrigin := hCause.resolve_right hQuiet
    rw [hCancel hOrigin, hOrigin] at hLive
    simp at hLive
  | ended head state fallback =>
    obtain ⟨admitted, hReq⟩ := releaseAdmission_request (((scope.setHead head).setState state).setConnection
        (connectionAfterStreamTerminal (scope.setHead head) fallback))
    have hOpen : connectionAfterStreamTerminal (scope.setHead head) fallback = .open := by
      rw [connectionAfterStreamTerminal, RequestScope.setHead, hConn]
      exact if_pos ⟨hMultiplexing, hAttached, hStarted⟩
    constructor
    · rw [endStream, releaseAdmission_connection, hOpen]
      exact ⟨_, congrArg (Option.map _) hConn, by simp [readyStates]⟩
    · rw [endStream, hReq]
      exact hToken
  | closed =>
    obtain ⟨admitted, hReq⟩ := releaseAdmission_request scope
    constructor
    · exact ⟨conn, (releaseAdmission_connection scope).trans hConn, hReady⟩
    · rw [requestClose, hReq]
      exact hToken

variable {after lives : Lives} {c place : Nat}

lemma Lives.Multiplexes.target (h : lives.Multiplexes c) (hLinked : lives.Linked)
    (hEffect : TargetEffect origin lives place after)
    (hParsing : origin = .parsing → lives.OnConnection c place fun _ => False)
    (hCancel : origin = .cancellation → lives.OnConnection c place fun req => req.state.terminal = true) :
    after.Multiplexes c := by
  obtain rfl | ⟨req, scope, hAt, hEffect, rfl⟩ := hEffect
  · exact h
  obtain ⟨conn, hConn, hSlot, hMultiplexing, hReady⟩ := h.ready
  obtain ⟨state, hState⟩ := hEffect.connection_eq
  have hAttached := (hLinked.connections conn (mem_of_getElem? hConn)).1 hSlot
  -- What the effect leaves if the request is one of the connection's own.
  have hOwn : req.connection = some c → lives.backend.state = .started →
      state ∈ readyStates ∧ scope.request.cancellation.cancelled = false := by
    intro hPointer hStarted
    have hScope : (lives.scopeOf req).connection = some conn := by
      rw [Lives.scopeOf, Lives.connectionOf, hPointer, Option.bind_some, hConn]
    obtain ⟨⟨later, hLater, hStill⟩, hToken⟩ := hEffect.ready hScope hAttached hMultiplexing hStarted
      (hReady hStarted) (h.tokens hStarted req (mem_of_getElem? hAt) hPointer)
      (fun hOrigin => hParsing hOrigin req hAt hPointer) (fun hOrigin => hCancel hOrigin req hAt hPointer)
    rw [hState, hScope, Option.map_some, Option.some.injEq] at hLater
    rw [← hLater] at hStill
    exact ⟨hStill, hToken⟩
  constructor
  · refine ⟨_, (putScope_connections hState place c).trans (congrArg _ hConn), ?_⟩
    split
    next hPointer =>
      exact ⟨hSlot, hMultiplexing, fun hStarted => (hOwn hPointer (hEffect.account.started hStarted)).1⟩
    · exact ⟨hSlot, hMultiplexing, fun hStarted => hReady (hEffect.account.started hStarted)⟩
  · intro hStarted other hOther hPointer
    have hBefore := hEffect.account.started hStarted
    obtain hOld | rfl := mem_or_eq_of_mem_set hOther
    · exact h.tokens hBefore other hOld hPointer
    obtain ⟨_, _, _, _, hSame⟩ := hEffect.request_eq
    have hKept : req.connection = some c := by
      rw [hSame] at hPointer
      exact hPointer
    exact (hOwn hKept hBefore).2

lemma Lives.Multiplexes.running (h : lives.Multiplexes c) (hAccounted : lives.Accounted) :
    lives.backend.state = .started ∨ lives.backend.state = .stopping := by
  obtain ⟨conn, hConn, hSlot, -⟩ := h.ready
  have hHeld := slots_getElem? hConn
  rw [hSlot] at hHeld
  have hActive := hAccounted.sound.connections.active_pos hHeld
  by_contra hIdle
  rw [not_or] at hIdle
  exact Nat.ne_of_gt hActive (hAccounted.sound.idle hIdle.1 hIdle.2).1

def Connection.StillReady (connection later : Connection) : Prop :=
  (connection.slotAdmitted = true → later.slotAdmitted = true) ∧
    (connection.multiplexing = true → later.multiplexing = true) ∧
    (connection.state ∈ readyStates → later.state ∈ readyStates)

lemma Connection.StillReady.refl (conn : Connection) : conn.StillReady conn :=
  ⟨fun hSlot => hSlot, fun hMultiplexing => hMultiplexing, fun hReady => hReady⟩

lemma Lives.Multiplexes.of_kept (h : lives.Multiplexes c)
    (hStarted : after.backend.state = .started → lives.backend.state = .started)
    (hConn : ∀ conn, lives.connections[c]? = some conn →
      ∃ later, after.connections[c]? = some later ∧ conn.StillReady later)
    (hReqs : ∀ req ∈ after.requests, req ∈ lives.requests ∨
      req.cancellation.cancelled = false) : after.Multiplexes c := by
  constructor
  · obtain ⟨conn, hAt, hSlot, hMultiplexing, hReady⟩ := h.ready
    obtain ⟨later, hLater, hSlotKept, hKept, hState⟩ := hConn conn hAt
    exact ⟨later, hLater, hSlotKept hSlot, hKept hMultiplexing, fun hRunning => hState (hReady (hStarted hRunning))⟩
  · intro hRunning req hReq hPointer
    obtain hOld | hClean := hReqs req hReq
    · exact h.tokens (hStarted hRunning) req hOld hPointer
    · exact hClean

lemma Lives.Multiplexes.setBackend (h : lives.Multiplexes c)
    (hStarted : backend.state = .started → lives.backend.state = .started) :
    (⟨backend, lives.connections, lives.requests⟩ : Lives).Multiplexes c :=
  h.of_kept hStarted (fun conn hAt => ⟨conn, hAt, .refl conn⟩) fun _ hReq => .inl hReq

variable {srv : Server} {run : HttpBackend → Connection → HttpBackend × Connection}

lemma multiplexes_onConnection (h : srv.Multiplexes c)
    (hStarted : ∀ backend conn, (run backend conn).1.state = .started → backend.state = .started)
    (hRun : place ≠ c ∨ ∀ backend (conn : Connection), conn.StillReady (run backend conn).2) :
    (srv.onConnection place run).1.Multiplexes c := by
  rw [Server.onConnection]
  split
  · exact h
  rename_i hAt
  refine h.of_kept (hStarted _ _) ?_ fun _ hReq => .inl hReq
  intro other hOther
  refine exists_getElem?_set hAt hOther ?_ fun _ => .refl other
  rintro rfl rfl
  exact hRun.resolve_left (fun hNe => hNe rfl) _ _

lemma releaseSlot_started {state : ConnectionState} (h : (releaseSlot backend conn state).1.state = .started) :
    backend.state = .started := by
  rw [releaseSlot] at h
  split at h
  · have hBefore := maybeFinishStop_started h
    split at hBefore
    · exact hBefore
    · exact hBefore
  · exact h

lemma connectionClose_started (h : (connectionClose backend conn).1.state = .started) :
    backend.state = .started := by
  rw [connectionClose] at h
  split at h
  · exact h
  · exact releaseSlot_started h

lemma clean_of_concat {reqs : List RequestLifecycle} {last req : RequestLifecycle}
    (hLast : last.cancellation.cancelled = false) (h : req ∈ reqs ++ [last]) :
    req ∈ reqs ∨ req.cancellation.cancelled = false := by
  obtain hOld | hNew := mem_append.mp h
  · exact .inl hOld
  · rw [mem_singleton.mp hNew]
    exact .inr hLast

lemma multiplexes_begin (h : srv.Multiplexes c) (place arena : Nat) : (srv.begin place arena).1.Multiplexes c := by
  rw [Server.begin]
  split
  · exact h
  rename_i conn hAt
  obtain ⟨failure, hRefused⟩ | ⟨-, -, scheme, hBegun⟩ := requestBegin_cases srv.backend place conn arena
  · rw [hRefused]
    dsimp only
    rw [set_of_getElem? hAt]
    exact h.of_kept id (fun other hOther => ⟨other, hOther, .refl other⟩) fun _ hReq =>
      clean_of_concat rfl hReq
  · rw [hBegun]
    refine h.of_kept id ?_ fun _ hReq => clean_of_concat rfl hReq
    intro other hOther
    refine exists_getElem?_set hAt hOther ?_ fun _ => .refl other
    rintro rfl rfl
    exact ⟨id, id, fun _ => by simp [Connection.begun, readyStates]⟩

lemma multiplexes_accept (h : srv.Multiplexes c) : srv.accept.1.Multiplexes c := by
  refine h.of_kept ?_ ?_ fun _ hReq => .inl hReq
  · intro hStarted
    rw [Server.accept] at hStarted
    obtain ⟨failure, hRefused⟩ | ⟨hState, -, -⟩ := acceptConnection_cases srv.backend
    · rw [hRefused] at hStarted
      exact hStarted
    · exact hState
  · intro conn hAt
    exact ⟨conn, getElem?_append_some hAt _, .refl conn⟩

lemma backendStop_started (h : (backendStop backend).1.state = .started) : backend.state = .started := by
  rw [backendStop] at h
  split at h
  · exact h
  · cases maybeFinishStop_started h

lemma backendDispose_started (h : (backendDispose backend).1.state = .started) : backend.state = .started := by
  rw [backendDispose] at h
  split at h
  · exact h
  · cases h

lemma readerTarget_origin {reader : Nat} (h : srv.readerTarget reader = some (place, origin)) :
    origin = .reader := by
  obtain ⟨_, -, hPlace⟩ := Option.map_eq_some_iff.mp h
  cases hPlace
  rfl

lemma multiplexes_step (parser : HeadParser) (hAccounted : srv.Accounted) (h : srv.Multiplexes c)
    {op : Operation} (hOp : Server.Isolating c srv op) : (step parser srv op).1.Multiplexes c := by
  have hTarget : ∀ {place : Nat} {origin : Origin}, srv.target op = some (place, origin) →
      (origin = .parsing → srv.OnConnection c place fun _ => False) →
      (origin = .cancellation → srv.OnConnection c place fun req => req.state.terminal = true) →
      (step parser srv op).1.Multiplexes c :=
    fun hTarget hParsing hCancel => h.target hAccounted.linked (step_target hTarget) hParsing hCancel
  cases op with
  | start =>
    have hRefused : backendStart srv.backend = (srv.backend, .error invalidState) := by
      rw [backendStart, if_pos]
      obtain hState | hState := h.running hAccounted <;> simp [hState]
    rw [step, Server.onBackend, hRefused]
    exact h
  | stop => exact h.setBackend backendStop_started
  | dispose => exact h.setBackend backendDispose_started
  | accept => exact multiplexes_accept h
  | connectionClose place => exact multiplexes_onConnection h (fun _ _ => connectionClose_started) (.inl hOp)
  | connectionFail place => exact multiplexes_onConnection h (fun _ _ => releaseSlot_started) (.inl hOp)
  | setMultiplexing =>
    refine multiplexes_onConnection h (fun _ _ => id) (hOp.imp_right ?_)
    rintro rfl backend conn
    exact ⟨id, fun _ => rfl, id⟩
  | begin place arena => exact multiplexes_begin h place arena
  | bodyReaderClose =>
    rw [step, bodyReaderClose_lives]
    exact h
  | useArena => exact h
  | bodyReaderAppend reader | bodyReaderFinish reader =>
    cases hReader : srv.readerTarget reader with
    | none =>
      rw [step, onReader_of_no_target hReader]
      exact h
    | some =>
      have hOrigin := readerTarget_origin hReader
      exact hTarget hReader (fun hParsing => by cases hOrigin.symm.trans hParsing)
        fun hCancel => by cases hOrigin.symm.trans hCancel
  | parseHead place => exact hTarget rfl (fun _ => hOp) fun hOrigin => by cases hOrigin
  | cancel | shutdown | timeout =>
    exact hTarget rfl (fun hOrigin => by cases hOrigin) fun _ => hOp
  | mapHead | bodyReaderBegin | beginDispatch | beginWrite | complete | fail | close =>
    exact hTarget rfl (fun hOrigin => by cases hOrigin) fun hOrigin => by cases hOrigin

def Lives.AcceptedFresh (lives : Lives) : Prop :=
  ∀ (place : Nat) (connection : Connection), lives.connections[place]? = some connection →
    connection.state = .accepted → connection.slotAdmitted = true ∧
      ∀ request ∈ lives.requests, request.connection ≠ some place

lemma Lives.AcceptedFresh.target (h : lives.AcceptedFresh) (hEffect : TargetEffect origin lives place after) :
    after.AcceptedFresh := by
  obtain rfl | ⟨req, scope, hAt, hEffect, rfl⟩ := hEffect
  · exact h
  obtain ⟨state, hState⟩ := hEffect.connection_eq
  obtain ⟨_, _, _, _, hReq⟩ := hEffect.request_eq
  intro p conn hConn hAccepted
  rw [putScope_connections hState, Option.map_eq_some_iff] at hConn
  obtain ⟨before, hBefore, rfl⟩ := hConn
  split at hAccepted
  next hPointer =>
    have hOwn : (lives.scopeOf req).connection = some before := by
      rw [Lives.scopeOf, Lives.connectionOf, hPointer, Option.bind_some, hBefore]
    rw [hOwn, Option.map_some] at hState
    have hSame := hEffect.accepted hState hAccepted
    rw [hOwn, Option.some.injEq] at hSame
    rw [← hSame] at hAccepted
    exact absurd hPointer ((h p before hBefore hAccepted).2 req (mem_of_getElem? hAt))
  next hPointer =>
    obtain ⟨hSlot, hNone⟩ := h p before hBefore hAccepted
    rw [if_neg hPointer]
    refine ⟨hSlot, forall_mem_set hNone ?_⟩
    rw [hReq]
    exact hPointer

lemma Lives.AcceptedFresh.setConnection (h : lives.AcceptedFresh)
    (hAt : lives.connections[place]? = some conn) {next : Connection}
    (hNext : next.state = .accepted → conn.state = .accepted ∧ next.slotAdmitted = conn.slotAdmitted)
    (backend : HttpBackend) :
    (⟨backend, lives.connections.set place next, lives.requests⟩ : Lives).AcceptedFresh := by
  intro p other hOther hAccepted
  obtain ⟨rfl, rfl⟩ | ⟨-, hOld⟩ := getElem?_set_cases hOther
  · obtain ⟨hBefore, hSlot⟩ := hNext hAccepted
    rw [hSlot]
    exact h p conn hAt hBefore
  · exact h p other hOld hAccepted

lemma acceptedFresh_onConnection (h : srv.AcceptedFresh) (place : Nat)
    (hRun : ∀ backend conn, (run backend conn).2.state = .accepted →
      conn.state = .accepted ∧ (run backend conn).2.slotAdmitted = conn.slotAdmitted) :
    (srv.onConnection place run).1.AcceptedFresh := by
  rw [Server.onConnection]
  split
  · exact h
  next conn hAt =>
    exact h.setConnection hAt (hRun _ conn) _

lemma releaseSlot_state (backend : HttpBackend) (conn : Connection) (state : ConnectionState) :
    (releaseSlot backend conn state).2.state = state := by
  rw [releaseSlot]
  split <;> rfl

lemma acceptedFresh_accept (hLinked : srv.Linked) (h : srv.AcceptedFresh) : srv.accept.1.AcceptedFresh := by
  have hAppend : ∀ (backend : HttpBackend) (next : Connection), (next.state = .accepted → next.slotAdmitted = true) →
      (⟨backend, srv.connections ++ [next], srv.requests⟩ : Lives).AcceptedFresh := by
    intro backend next hNext p conn hAt hAccepted
    obtain hOld | ⟨rfl, rfl⟩ := getElem?_concat hAt
    · exact h p conn hOld hAccepted
    · refine ⟨hNext hAccepted, fun req hReq hPointer => ?_⟩
      obtain ⟨linked, hLink, -⟩ := hLinked.pointers req hReq _ hPointer
      exact Nat.lt_irrefl _ (List.getElem_of_getElem? hLink).1
  rw [Server.accept]
  obtain ⟨failure, hRefused⟩ | ⟨-, -, hAdmitted⟩ := acceptConnection_cases srv.backend
  · rw [hRefused]
    exact hAppend _ _ fun hNone => by cases hNone
  · rw [hAdmitted]
    exact hAppend _ _ fun _ => rfl

lemma Lives.AcceptedFresh.addRequest (h : lives.AcceptedFresh) {next : RequestLifecycle}
    (hNext : ∀ (place : Nat) (conn : Connection), next.connection = some place →
      lives.connections[place]? = some conn → conn.state ≠ .accepted) :
    (⟨lives.backend, lives.connections, lives.requests ++ [next]⟩ : Lives).AcceptedFresh := by
  intro p conn hAt hAccepted
  obtain ⟨hSlot, hNone⟩ := h p conn hAt hAccepted
  refine ⟨hSlot, fun req hReq => ?_⟩
  obtain hOld | hNew := mem_append.mp hReq
  · exact hNone req hOld
  · rw [mem_singleton.mp hNew]
    exact fun hPointer => hNext p conn hPointer hAt hAccepted

lemma acceptedFresh_begin (h : srv.AcceptedFresh) (place arena : Nat) :
    (srv.begin place arena).1.AcceptedFresh := by
  rw [Server.begin]
  split
  · exact h
  rename_i conn hAt
  obtain ⟨failure, hRefused⟩ | ⟨-, -, scheme, hBegun⟩ := requestBegin_cases srv.backend place conn arena
  · rw [hRefused]
    dsimp only
    rw [set_of_getElem? hAt]
    exact h.addRequest fun _ _ hNone => by cases hNone
  · rw [hBegun]
    have hReading : ∀ state : ConnectionState, conn.begun.state = .accepted → conn.state = state ∧
        conn.begun.slotAdmitted = conn.slotAdmitted := fun _ hAccepted => by cases hAccepted
    refine (h.setConnection hAt (hReading .accepted) _).addRequest ?_
    intro p other hPointer hOther
    cases hPointer
    rw [getElem?_set_self (List.getElem_of_getElem? hAt).1] at hOther
    cases hOther
    exact fun hReading => by cases hReading

lemma acceptedFresh_step (parser : HeadParser) (hLinked : srv.Linked) (h : srv.AcceptedFresh) (op : Operation) :
    (step parser srv op).1.AcceptedFresh := by
  rcases step_cases parser srv op with hServes | ⟨origin, place, hEffect⟩
  · cases hServes with
    | start | stop | dispose => exact h
    | accept => exact acceptedFresh_accept hLinked h
    | connectionClose =>
      apply acceptedFresh_onConnection h
      intro backend conn
      rw [connectionClose]
      split
      · exact fun hAccepted => ⟨hAccepted, rfl⟩
      · rw [releaseSlot_state]
        exact fun hClosed => by cases hClosed
    | connectionFail =>
      apply acceptedFresh_onConnection h
      intro backend conn hFailed
      rw [connectionFail, releaseSlot_state] at hFailed
      cases hFailed
    | setMultiplexing place =>
      exact acceptedFresh_onConnection h place fun _ _ hAccepted => ⟨hAccepted, rfl⟩
    | begin place arena => exact acceptedFresh_begin h place arena
  · exact h.target hEffect

lemma requestBegin_ok {arena : Nat} (hBegin : connectionCanBeginRequest backend conn = true)
    (hMultiplexing : conn.multiplexing = true)
    (hRoom : backend.activeRequests < backend.options.maxActiveRequests) (hNum : backend.nextRequestId ≠ uint64Max) :
    (requestBegin backend place conn arena).2.2.2 = .ok () := by
  obtain ⟨hAttached, -, hStarted, -⟩ := connectionCanBeginRequest_iff.mp hBegin
  have hFull : ¬backend.activeRequests ≥ backend.options.maxActiveRequests := Nat.not_le_of_lt hRoom
  rw [requestBegin]
  simp [hAttached, hMultiplexing, hStarted, hBegin, hFull, hNum]

lemma Lives.Multiplexes.begin_ok (h : srv.Multiplexes c) (hLinked : srv.Linked)
    (hStarted : srv.backend.state = .started)
    (hRoom : srv.backend.activeRequests < srv.backend.options.maxActiveRequests)
    (hNum : srv.backend.nextRequestId ≠ uint64Max) (arena : Nat) : (srv.begin c arena).2 = .ok () := by
  obtain ⟨conn, hAt, hSlot, hMultiplexing, hReady⟩ := h.ready
  have hAttached := (hLinked.connections conn (mem_of_getElem? hAt)).1 hSlot
  have hBegin : connectionCanBeginRequest srv.backend conn = true := by
    refine connectionCanBeginRequest_iff.mpr ⟨hAttached, hSlot, hStarted, ?_⟩
    have hState := hReady hStarted
    simp only [readyStates, mem_cons, not_mem_nil, or_false] at hState
    simp only [mem_cons, not_mem_nil, or_false]
    tauto
  rw [Server.begin, hAt]
  exact requestBegin_ok hBegin hMultiplexing hRoom hNum

/-- On an accepted multiplexing connection, after every run that cancels none of its running requests, a
request can begin whenever the backend is started, has room and has a number left. -/
theorem begin_after_isolating_run (parser : HeadParser) (options : Option BackendOptions)
    (arenas : Nat → Arena) (before : List Operation) {server : Server}
    (hServer : server = runOps parser (Server.init options arenas) before) {c : Nat} {connection : Connection}
    (hAt : server.connections[c]? = some connection) (hAccepted : connection.state = .accepted)
    (hMultiplexing : connection.multiplexing = true) {ops : List Operation}
    (hOps : Admits (Server.Isolating c) (fun server op => (step parser server op).1) server ops)
    (hStarted : (runOps parser server ops).backend.state = .started)
    (hRoom : (runOps parser server ops).backend.activeRequests <
      (runOps parser server ops).backend.options.maxActiveRequests)
    (hNumber : (runOps parser server ops).backend.nextRequestId ≠ uint64Max) (arena : Nat) :
    ((runOps parser server ops).begin c arena).2 = .ok () := by
  have hFresh : server.Accounted ∧ server.AcceptedFresh := by
    rw [hServer]
    refine foldlRecOn (motive := fun reached : Server => reached.Accounted ∧ reached.AcceptedFresh) before _
      ⟨accounted_init options arenas, fun _ _ hNone => by cases hNone⟩ ?_
    intro reached hReached op _
    exact ⟨accounted_step parser hReached.1 op, acceptedFresh_step parser hReached.1.linked hReached.2 op⟩
  obtain ⟨hSlot, hNone⟩ := hFresh.2 c connection hAt hAccepted
  have hStart : server.Multiplexes c := by
    refine ⟨⟨connection, hAt, hSlot, hMultiplexing, fun _ => ?_⟩, fun _ request hRequest hPointer => ?_⟩
    · rw [hAccepted]
      exact mem_cons_self
    · exact absurd hPointer (hNone request hRequest)
  have hReached : (runOps parser server ops).Accounted ∧ (runOps parser server ops).Multiplexes c :=
    @foldl_invariant _ _ _ _ (fun reached : Server => reached.Accounted ∧ reached.Multiplexes c)
      (fun reached op hReached hOp => ⟨accounted_step parser hReached.1 op,
        multiplexes_step parser hReached.1 hReached.2 hOp⟩) server ⟨hFresh.1, hStart⟩ ops hOps
  exact hReached.2.begin_ok hReached.1.linked hStarted hRoom hNumber arena

def firstMultiplexing : List Operation := [.start, .accept, .setMultiplexing 0 true]

def twoStreams : List Operation :=
  [.begin 0 0, .begin 0 1, .mapHead 0 .zero, .beginDispatch 0, .beginWrite 0, .complete 0, .fail 1]

theorem begin_after_isolating_run_twoStreams :
    ((runOps refusingParser (runOps refusingParser (Server.init none emptyArenas) firstMultiplexing)
      twoStreams).begin 0 0).2 = .ok () := by
  refine begin_after_isolating_run refusingParser none emptyArenas firstMultiplexing rfl rfl rfl rfl ?_
    (by decide) (by decide) (by decide) 0
  exact ⟨trivial, trivial, trivial, trivial, trivial, trivial, trivial, trivial⟩

def cancelledStream : List Operation :=
  firstMultiplexing ++ [.begin 0 0, .begin 0 1, .cancel 0 .cancelled []]

/-- Cancelling one of two streams blocks every new request on the connection. -/
theorem begin_refused_after_cancel :
    (runOps refusingParser (Server.init none emptyArenas) cancelledStream).backend.state = .started ∧
    (runOps refusingParser (Server.init none emptyArenas) cancelledStream).backend.activeRequests = 1 ∧
    (runOps refusingParser (Server.init none emptyArenas) cancelledStream).backend.options.maxActiveRequests = 128 ∧
    ((runOps refusingParser (Server.init none emptyArenas) cancelledStream).begin 0 0).2 = .error connectionClosed := by
  decide

end Sloppy.Backend
