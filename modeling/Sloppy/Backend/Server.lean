import Sloppy.Backend.Lifecycle
import Sloppy.Lib.Places
import Sloppy.Lib.Run

/-! # Runs of a backend

The caller passes fresh storage to every accept, begin and reader, so records are only ever added. Every operation on
a request or a body reader does one of six things, and the invariants of the backend are read off from their list.
-/

namespace Sloppy.Backend

open Http Growing

section

structure Lives where
  backend : HttpBackend
  connections : List Connection
  requests : List RequestLifecycle
  deriving DecidableEq

structure Server extends Lives where
  readers : List BodyReader
  arenas : Nat → Arena

def Server.init (options : Option BackendOptions) (arenas : Nat → Arena) : Server :=
  ⟨⟨backendInit options, [], []⟩, [], arenas⟩

inductive Operation where
  | start | stop | dispose | accept
  | connectionClose (connection : Nat)
  | connectionFail (connection : Nat)
  | setMultiplexing (connection : Nat) (enabled : Bool)
  | begin (connection arena : Nat)
  | parseHead (request : Nat) (bytes : List UInt8)
  | mapHead (request : Nat) (head : RequestHead)
  | bodyReaderBegin (request : Nat) (contentType : List UInt8) (contentLength : Nat)
  | bodyReaderAppend (reader : Nat) (chunk : List UInt8)
  | bodyReaderFinish (reader : Nat)
  | bodyReaderClose (reader : Nat)
  | beginDispatch (request : Nat)
  | beginWrite (request : Nat)
  | complete (request : Nat)
  | fail (request : Nat)
  | cancel (request : Nat) (reason : CancellationReason) (detail : List UInt8)
  | shutdown (request : Nat)
  | timeout (request : Nat) (detail : List UInt8)
  | close (request : Nat)
  | useArena (arena : Nat) (left : Arena)
  deriving DecidableEq

def Lives.connectionOf (lives : Lives) (request : RequestLifecycle) : Option Connection :=
  request.connection.bind fun place => lives.connections[place]?

def Lives.scopeOf (lives : Lives) (request : RequestLifecycle) : RequestScope :=
  ⟨lives.backend, lives.connectionOf request, request⟩

def Lives.putScope (lives : Lives) (place : Nat) (request : RequestLifecycle) (scope : RequestScope) : Lives where
  backend := scope.backend
  connections :=
    match request.connection, scope.connection with
    | some place, some connection => lives.connections.set place connection
    | _, _ => lives.connections
  requests := lives.requests.set place scope.request

def Server.putScope (server : Server) (place : Nat) (request : RequestLifecycle) (scope : RequestScope) : Server :=
  { server with toLives := server.toLives.putScope place request scope }

variable (server : Server)

def Server.setArena (place : Nat) (arena : Arena) : Server :=
  { server with arenas := fun other => if other = place then arena else server.arenas other }

def Server.onBackend (run : HttpBackend → HttpBackend × Except Failure Unit) : Server × Except Failure Unit :=
  ({ server with backend := (run server.backend).1 }, (run server.backend).2)

def Server.onConnection (place : Nat)
    (run : HttpBackend → Connection → HttpBackend × Connection) : Server × Except Failure Unit :=
  match server.connections[place]? with
  | none => (server, .error invalidArgument)
  | some connection =>
    ({ server with
        backend := (run server.backend connection).1
        connections := server.connections.set place (run server.backend connection).2 }, .ok ())

def Server.onRequest (place : Nat)
    (run : RequestScope → RequestScope × Except Failure Unit) : Server × Except Failure Unit :=
  match server.requests[place]? with
  | none => (server, .error invalidArgument)
  | some request =>
    (server.putScope place request (run (server.scopeOf request)).1, (run (server.scopeOf request)).2)

def Server.onRequestArena (place : Nat) (run : RequestScope → Arena → RequestScope × Arena × Except Failure Unit) :
    Server × Except Failure Unit :=
  match server.requests[place]? with
  | none => (server, .error invalidArgument)
  | some request =>
    match request.arena with
    | none => (server, .error invalidArgument)
    | some arena =>
      let (scope, left, result) := run (server.scopeOf request) (server.arenas arena)
      ((server.putScope place request scope).setArena arena left, result)

def Server.onReader (place : Nat)
    (run : ReaderScope → ReaderScope × Except Failure Unit) : Server × Except Failure Unit :=
  match server.readers[place]? with
  | none => (server, .error invalidArgument)
  | some reader =>
    match reader.request, reader.arena with
    | some requestPlace, some arena =>
      match server.requests[requestPlace]? with
      | none => (server, .error invalidArgument)
      | some request =>
        let (s, result) := run ⟨server.scopeOf request, server.arenas arena, reader⟩
        let server := (server.putScope requestPlace request s.scope).setArena arena s.arena
        ({ server with readers := server.readers.set place s.reader }, result)
    | _, _ => (server, .error invalidArgument)

def Server.accept : Server × Except Failure Unit :=
  let (backend, connection, result) := acceptConnection server.backend
  ({ server with backend := backend, connections := server.connections ++ [connection] }, result)

def Server.begin (place arena : Nat) : Server × Except Failure Unit :=
  match server.connections[place]? with
  | none => (server, .error invalidArgument)
  | some connection =>
    let (backend, connection, request, result) := requestBegin server.backend place connection arena
    ({ server with
        backend := backend
        connections := server.connections.set place connection
        requests := server.requests ++ [request] }, result)

def Server.bodyReaderBegin (place : Nat) (contentType : List UInt8) (contentLength : Nat) :
    Server × Except Failure Unit :=
  match server.requests[place]? with
  | none => (server, .error invalidArgument)
  | some request =>
    match request.arena with
    | none => ({ server with readers := server.readers ++ [.zero] }, .error invalidArgument)
    | some arena =>
      let (s, result) :=
        requestBodyReaderBegin (server.scopeOf request) (server.arenas arena) place contentType contentLength
      let server := (server.putScope place request s.scope).setArena arena s.arena
      ({ server with readers := server.readers ++ [s.reader] }, result)

def Server.bodyReaderClose (place : Nat) : Server × Except Failure Unit :=
  match server.readers[place]? with
  | none => (server, .error invalidArgument)
  | some reader =>
    let (arena, closed, result) := requestBodyReaderClose (reader.arena.map server.arenas) reader
    let server := { server with readers := server.readers.set place closed }
    match reader.arena, arena with
    | some arenaPlace, some arena => (server.setArena arenaPlace arena, result)
    | _, _ => (server, result)

def step (parser : HeadParser) (server : Server) : Operation → Server × Except Failure Unit
  | .start => server.onBackend backendStart
  | .stop => server.onBackend backendStop
  | .dispose => server.onBackend backendDispose
  | .accept => server.accept
  | .connectionClose connection => server.onConnection connection connectionClose
  | .connectionFail connection => server.onConnection connection connectionFail
  | .setMultiplexing connection enabled =>
    server.onConnection connection fun backend connection =>
      (backend, connectionSetMultiplexing connection enabled)
  | .begin connection arena => server.begin connection arena
  | .parseHead request bytes =>
    server.onRequestArena request fun scope arena => requestParseHead parser scope arena bytes
  | .mapHead request head => server.onRequest request fun scope => requestHeadMapped scope head
  | .bodyReaderBegin request contentType contentLength =>
    server.bodyReaderBegin request contentType contentLength
  | .bodyReaderAppend reader chunk => server.onReader reader fun s => requestBodyReaderAppend s chunk
  | .bodyReaderFinish reader => server.onReader reader requestBodyReaderFinish
  | .bodyReaderClose reader => server.bodyReaderClose reader
  | .beginDispatch request => server.onRequest request requestBeginDispatch
  | .beginWrite request => server.onRequest request requestBeginWrite
  | .complete request => server.onRequest request requestComplete
  | .fail request => server.onRequest request requestFail
  | .cancel request reason detail => server.onRequest request fun scope => requestCancel scope reason detail
  | .shutdown request => server.onRequest request requestShutdown
  | .timeout request detail => server.onRequest request fun scope => requestTimeout scope detail
  | .close request => server.onRequest request requestClose
  | .useArena arena left => (server.setArena arena left, .ok ())

def runOps (parser : HeadParser) (server : Server) (ops : List Operation) : Server :=
  ops.foldl (fun server op => (step parser server op).1) server

def refusingParser : HeadParser := fun _ arena _ => (arena, .error invalidArgument)

def emptyArenas : Nat → Arena := fun _ => ⟨0, 0, 0, 0, 1⟩

end

inductive Origin where
  | ordinary | parsing | cancellation | failing | reader | closing
  deriving DecidableEq

def RequestScope.recorded (scope : RequestScope) (head : RequestHead) (token : CancellationToken) : RequestScope :=
  { scope with request := { scope.request with head := head, cancellation := token } }

/-- What makes operations other than a cancellation cancel a request. -/
def Interrupted (scope : RequestScope) : Prop :=
  scope.request.cancellation.cancelled = true ∨ scope.stopping = true

inductive RequestEffect (origin : Origin) (scope : RequestScope) : RequestScope → Prop where
  | recorded (head : RequestHead) (token : CancellationToken) (hToken : token.cancelled = true → Interrupted scope) :
      RequestEffect origin scope (scope.recorded head token)
  | advanced (head : RequestHead) (state : RequestState) (connection : ConnectionState)
      (hLive : scope.request.state.terminal = false) (hState : state.terminal = false)
      (hConnection : connection ∈ [ConnectionState.readingRequest, .dispatching, .writingResponse]) :
      RequestEffect origin scope (((scope.setHead head).setState state).setConnection connection)
  | rejected (hOrigin : origin = .parsing) (hLive : scope.request.state.terminal = false) :
      RequestEffect origin scope (((scope.setHead .zero).setState .failed).setConnection .error)
  | cancelled (head : RequestHead) (token : CancellationToken) (state : RequestState)
      (hState : state = .cancelled ∨ state = .timedOut)
      (hLive : scope.request.state.terminal = false ∨ origin = .reader)
      (hCause : origin = .cancellation ∨ Interrupted scope) :
      RequestEffect origin scope (terminalCancel (scope.recorded head token) state)
  | ended (head : RequestHead) (state : RequestState) (fallback : ConnectionState)
      (hState : state = .completed ∨ state = .failed)
      (hLive : scope.request.state.terminal = false ∨ origin = .reader ∨ origin = .failing)
      (hFallback : fallback ≠ .accepted) :
      RequestEffect origin scope (endStream (scope.setHead head) state fallback)
  | closed (hOrigin : origin = .closing) : RequestEffect origin scope (requestClose scope).1

lemma RequestEffect.unchanged (origin : Origin) (scope : RequestScope) : RequestEffect origin scope scope :=
  .recorded scope.request.head scope.request.cancellation .inl

@[simp] lemma releaseAdmission_connection (scope : RequestScope) :
    (releaseAdmission scope).connection = scope.connection := by
  rw [releaseAdmission]
  split
  · rfl
  · split <;> rfl

lemma releaseAdmission_request (scope : RequestScope) :
    ∃ admitted, (releaseAdmission scope).request = { scope.request with admitted := admitted } := by
  rw [releaseAdmission]
  split
  · exact ⟨_, rfl⟩
  · split
    · exact ⟨_, rfl⟩
    · exact ⟨_, rfl⟩

variable {after scope : RequestScope} {origin : Origin}

section

variable (h : RequestEffect origin scope after)
include h

lemma RequestEffect.connection_eq :
    ∃ state, after.connection = scope.connection.map fun conn => { conn with state := state } := by
  have hSame : ∃ state, scope.connection = scope.connection.map fun conn =>
      { conn with state := state } := by
    cases hConnection : scope.connection with
    | none => exact ⟨.none, rfl⟩
    | some conn => exact ⟨conn.state, rfl⟩
  cases h with
  | recorded => exact hSame
  | advanced head state conn => exact ⟨conn, rfl⟩
  | rejected => exact ⟨.error, rfl⟩
  | cancelled => exact ⟨.closing, releaseAdmission_connection _⟩
  | ended => exact ⟨_, releaseAdmission_connection _⟩
  | closed =>
    obtain ⟨state, hState⟩ := hSame
    exact ⟨state, (releaseAdmission_connection scope).trans hState⟩

lemma RequestEffect.accepted {later : Connection}
    (hLater : after.connection = some later) (hAccepted : later.state = .accepted) :
    scope.connection = some later := by
  cases h with
  | recorded => exact hLater
  | advanced head state next hLive hState hNext =>
    obtain ⟨conn, -, rfl⟩ := Option.map_eq_some_iff.mp hLater
    cases hAccepted
    simp at hNext
  | rejected =>
    obtain ⟨conn, -, rfl⟩ := Option.map_eq_some_iff.mp hLater
    cases hAccepted
  | cancelled =>
    rw [terminalCancel, releaseAdmission_connection] at hLater
    obtain ⟨conn, -, rfl⟩ := Option.map_eq_some_iff.mp hLater
    cases hAccepted
  | ended head state fallback hState hLive hFallback =>
    rw [endStream, releaseAdmission_connection] at hLater
    obtain ⟨conn, -, rfl⟩ := Option.map_eq_some_iff.mp hLater
    rw [connectionAfterStreamTerminal] at hAccepted
    split at hAccepted
    · exact absurd hAccepted hFallback
    · split at hAccepted
      · cases hAccepted
      · exact absurd hAccepted hFallback
  | closed => exact (releaseAdmission_connection scope).symm.trans hLater

lemma RequestEffect.request_eq : ∃ state head token admitted, after.request =
      { scope.request with state := state, head := head, cancellation := token, admitted := admitted } := by
  cases h with
  | recorded | advanced | rejected => exact ⟨_, _, _, _, rfl⟩
  | cancelled =>
    obtain ⟨admitted, hReq⟩ := releaseAdmission_request (((scope.recorded _ _).setState _).setConnection .closing)
    exact ⟨_, _, _, admitted, hReq⟩
  | ended =>
    obtain ⟨admitted, hReq⟩ := releaseAdmission_request (((scope.setHead _).setState _).setConnection _)
    exact ⟨_, _, _, admitted, hReq⟩
  | closed =>
    obtain ⟨admitted, hReq⟩ := releaseAdmission_request scope
    refine ⟨.closed, .zero, scope.request.cancellation, admitted, ?_⟩
    rw [requestClose, hReq]

end

lemma terminal_of_not_ne {state expected : RequestState} (h : ¬state ≠ expected)
    (hExpected : expected.terminal = false) : state.terminal = false := by
  rw [not_not.mp h]
  exact hExpected

lemma requestBeginDispatch_effect (scope : RequestScope) :
    RequestEffect .ordinary scope (requestBeginDispatch scope).1 := by
  rw [requestBeginDispatch]
  split
  · exact .unchanged _ _
  rename_i hConn
  split
  · exact .unchanged _ _
  rename_i hReading
  have hLive := terminal_of_not_ne hReading rfl
  split
  next hToken =>
    have hCause : Interrupted scope := .inl hToken
    split
    · exact .cancelled _ _ _ (.inr rfl) (.inl hLive) (.inr hCause)
    · exact .cancelled _ _ _ (.inl rfl) (.inl hLive) (.inr hCause)
    · exact .cancelled _ _ _ (.inl rfl) (.inl hLive) (.inr hCause)
  · split
    next hStopping =>
      refine .cancelled _ _ _ (.inl rfl) (.inl hLive) (.inr (.inr ?_))
      rw [RequestScope.stopping, hConn]
      simpa using hStopping
    · exact .advanced scope.request.head _ _ hLive rfl (by decide)

lemma requestBeginWrite_effect (scope : RequestScope) :
    RequestEffect .ordinary scope (requestBeginWrite scope).1 := by
  rw [requestBeginWrite]
  split
  · exact .unchanged _ _
  split
  · exact .unchanged _ _
  next hDispatching =>
    have hLive := terminal_of_not_ne hDispatching rfl
    exact .advanced scope.request.head _ _ hLive rfl (by decide)

lemma requestComplete_effect (scope : RequestScope) : RequestEffect .ordinary scope (requestComplete scope).1 := by
  rw [requestComplete]
  split
  · exact .unchanged _ _
  split
  · exact .unchanged _ _
  rename_i hWriting
  have hLive := terminal_of_not_ne hWriting rfl
  refine .ended scope.request.head _ _ (.inl rfl) (.inl hLive) ?_
  split <;> decide

lemma requestBeginWrite_ok {begun : RequestScope} (h : requestBeginWrite scope = (begun, .ok ())) :
    begun.connection.isSome = true ∧ begun.request.state = .writingResponse := by
  rw [requestBeginWrite] at h
  split at h
  · cases h
  rename_i hConn
  split at h
  · cases h
  · cases h
    refine ⟨?_, rfl⟩
    rw [RequestScope.setConnection, Option.isSome_map]
    exact congrArg Option.isSome hConn

lemma requestComplete_ok (h : scope.connection.isSome = true ∧ scope.request.state = .writingResponse) :
    ∃ done, requestComplete scope = (done, .ok ()) := by
  rw [requestComplete]
  split
  next hNone =>
    rw [hNone] at h
    cases h.1
  · rw [if_neg (not_not.mpr h.2)]
    exact ⟨_, rfl⟩

lemma requestFail_effect (scope : RequestScope) : RequestEffect .failing scope (requestFail scope).1 := by
  rw [requestFail]
  split
  · exact .unchanged _ _
  · exact .ended scope.request.head _ _ (.inr rfl) (.inr (.inr rfl)) (by decide)

lemma requestCancel_effect (scope : RequestScope) (reason : CancellationReason) (detail : List UInt8) :
    RequestEffect .cancellation scope (requestCancel scope reason detail).1 := by
  rw [requestCancel]
  split
  · exact .unchanged _ _
  split
  · exact .unchanged _ _
  rename_i hLive
  rw [Bool.not_eq_true] at hLive
  split
  · exact .cancelled scope.request.head _ _ (.inr rfl) (.inl hLive) (.inl rfl)
  · exact .cancelled scope.request.head _ _ (.inl rfl) (.inl hLive) (.inl rfl)
  · exact .cancelled scope.request.head _ _ (.inl rfl) (.inl hLive) (.inl rfl)

lemma requestTimeout_effect (scope : RequestScope) (detail : List UInt8) :
    RequestEffect .cancellation scope (requestTimeout scope detail).1 := by
  rw [requestTimeout]
  split
  · exact .unchanged _ _
  next hLive =>
    exact .cancelled scope.request.head _ _ (.inr rfl) (.inl (Bool.not_eq_true _ ▸ hLive)) (.inl rfl)

lemma requestHeadMapped_effect (scope : RequestScope) (head : RequestHead) :
    RequestEffect .ordinary scope (requestHeadMapped scope head).1 := by
  rw [requestHeadMapped]
  split
  · exact .unchanged _ _
  next hCreated =>
    have hLive := terminal_of_not_ne hCreated rfl
    exact .advanced head _ _ hLive rfl (by decide)

lemma requestParseHead_effect (parser : HeadParser) (scope : RequestScope) (arena : Arena)
    (bytes : List UInt8) : RequestEffect .parsing scope (requestParseHead parser scope arena bytes).1 := by
  rw [requestParseHead]
  split
  · exact .unchanged _ _
  split
  · exact .unchanged _ _
  rename_i hCreated
  have hLive := terminal_of_not_ne hCreated rfl
  split
  · exact .rejected rfl hLive
  · exact .advanced _ _ _ hLive rfl (by decide)

lemma bodyReaderFail_cancels (hLive : scope.request.state.terminal = false ∨ origin = .reader)
    (hCause : Interrupted scope) (arena : Arena) (reader : BodyReader) (token : CancellationToken)
    {state : BodyReaderState} (hState : state = .cancelled ∨ state = .timedOut) (failure : Failure) :
    RequestEffect origin scope
      (bodyReaderFail ⟨scope.recorded scope.request.head token, arena, reader⟩ state failure).1.scope := by
  rw [bodyReaderFail]
  split
  · exact .recorded _ _ fun _ => hCause
  · obtain rfl | rfl := hState
    · exact .cancelled _ token _ (.inl rfl) hLive (.inr hCause)
    · exact .cancelled _ token _ (.inr rfl) hLive (.inr hCause)

lemma bodyReaderFail_fails (hLive : scope.request.state.terminal = false ∨ origin = .reader) (arena : Arena)
    (reader : BodyReader) (failure : Failure) :
    RequestEffect origin scope (bodyReaderFail ⟨scope, arena, reader⟩ .failed failure).1.scope := by
  rw [bodyReaderFail]
  split
  · exact .unchanged _ _
  · exact .ended _ _ _ (.inr rfl) (hLive.imp_right .inl) (by decide)

lemma bodyReaderFail_error (s : ReaderScope) (state : BodyReaderState) (failure : Failure) :
    ∃ raised, (bodyReaderFail s state failure).2 = .error raised := by
  rw [bodyReaderFail]
  split
  · exact ⟨_, rfl⟩
  · exact ⟨_, rfl⟩

lemma bodyReaderCheckTerminal_cases {origin : Origin} {s : ReaderScope}
    (hLive : s.scope.request.state.terminal = false ∨ origin = .reader) :
    (bodyReaderCheckTerminal s = (s, .ok ())) ∨
    (∃ raised, (bodyReaderCheckTerminal s).2 = .error raised) ∧
      RequestEffect origin s.scope (bodyReaderCheckTerminal s).1.scope := by
  rw [bodyReaderCheckTerminal]
  split
  next hStopping =>
    exact .inr ⟨bodyReaderFail_error _ _ _, bodyReaderFail_cancels hLive (.inr hStopping) _ _ _ (.inl rfl) _⟩
  · split
    · exact .inl rfl
    rename_i hToken
    have hCause : Interrupted s.scope := .inl (Bool.not_eq_false _ ▸ hToken)
    split
    · exact .inr ⟨bodyReaderFail_error _ _ _, bodyReaderFail_cancels hLive hCause _ _ _ (.inr rfl) _⟩
    · exact .inr ⟨bodyReaderFail_error _ _ _, bodyReaderFail_cancels hLive hCause _ _ _ (.inl rfl) _⟩
    · exact .inr ⟨bodyReaderFail_error _ _ _, bodyReaderFail_cancels hLive hCause _ _ _ (.inl rfl) _⟩

lemma afterCheck_effect {origin : Origin} {s : ReaderScope} {next : ReaderScope → ReaderScope × Except Failure Unit}
    (hLive : s.scope.request.state.terminal = false ∨ origin = .reader)
    (hNext : RequestEffect origin s.scope (next s).1.scope) :
    RequestEffect origin s.scope (afterCheck s next).1.scope := by
  rw [afterCheck]
  obtain hPassed | ⟨⟨raised, hRaised⟩, hEffect⟩ := bodyReaderCheckTerminal_cases hLive
  · rw [hPassed]
    exact hNext
  · obtain ⟨after, hAfter⟩ : ∃ after, bodyReaderCheckTerminal s = (after, .error raised) := ⟨_, Prod.ext rfl hRaised⟩
    rw [hAfter] at hEffect ⊢
    exact hEffect

lemma requestBodyReaderAppend_effect (s : ReaderScope) (chunk : List UInt8) :
    RequestEffect .reader s.scope (requestBodyReaderAppend s chunk).1.scope := by
  rw [requestBodyReaderAppend]
  split
  · exact .unchanged _ _
  apply afterCheck_effect (.inr rfl)
  split
  · exact bodyReaderFail_fails (.inr rfl) _ _ _
  split
  · exact bodyReaderFail_fails (.inr rfl) _ _ _
  split
  · exact bodyReaderFail_fails (.inr rfl) _ _ _
  · split
    · exact bodyReaderFail_fails (.inr rfl) _ _ _
    · exact .unchanged _ _

lemma requestBodyReaderFinish_effect (s : ReaderScope) :
    RequestEffect .reader s.scope (requestBodyReaderFinish s).1.scope := by
  rw [requestBodyReaderFinish]
  split
  · exact .unchanged _ _
  apply afterCheck_effect (.inr rfl)
  split
  · exact bodyReaderFail_fails (.inr rfl) _ _ _
  · exact .recorded _ s.scope.request.cancellation .inl

lemma requestBodyReaderBegin_effect (scope : RequestScope) (arena : Arena) (place : Nat)
    (contentType : List UInt8) (contentLength : Nat) :
    RequestEffect .ordinary scope (requestBodyReaderBegin scope arena place contentType contentLength).1.scope := by
  rw [requestBodyReaderBegin]
  split
  · exact .unchanged _ _
  split
  · exact .unchanged _ _
  rename_i hReading
  have hLive : scope.request.state.terminal = false ∨ Origin.ordinary = .reader :=
    .inl (terminal_of_not_ne hReading rfl)
  apply @afterCheck_effect _ ⟨scope, arena, _⟩ _ hLive
  split
  · exact bodyReaderFail_fails hLive _ _ _
  split
  · exact bodyReaderFail_fails hLive _ _ _
  · split
    · exact bodyReaderFail_fails hLive _ _ _
    · exact .unchanged _ _

lemma acceptConnection_cases (backend : HttpBackend) :
    (∃ failure, acceptConnection backend = (backend, .zero, .error failure)) ∨
    backend.state = .started ∧ backend.activeConnections < backend.options.maxConnections ∧ acceptConnection backend =
        ({ backend with
            nextConnectionId := backend.nextConnectionId + 1
            activeConnections := backend.activeConnections + 1 },
          ⟨true, .accepted, backend.nextConnectionId, literal "http", 0, false, true⟩, .ok ()) := by
  rw [acceptConnection]
  split
  · exact .inl ⟨_, rfl⟩
  rename_i hState
  split
  · exact .inl ⟨_, rfl⟩
  rename_i hRoom
  split
  · exact .inl ⟨_, rfl⟩
  · exact .inr ⟨not_not.mp hState, Nat.lt_of_not_le hRoom, rfl⟩

lemma connectionCanBeginRequest_iff {backend : HttpBackend} {conn : Connection} :
    connectionCanBeginRequest backend conn = true ↔
      conn.attached = true ∧ conn.slotAdmitted = true ∧ backend.state = .started ∧
        (conn.state = .accepted ∨ conn.state = .open ∨ conn.multiplexing = true ∧
          conn.state ∈ [ConnectionState.readingRequest, .dispatching, .writingResponse]) := by
  rw [connectionCanBeginRequest]
  cases conn.attached <;> cases conn.slotAdmitted <;> by_cases hState : backend.state = .started <;>
    simp [hState]
  tauto

def Connection.begun (connection : Connection) : Connection :=
  { connection with
    requestCount := (connection.requestCount + 1) % (sizeMax + 1)
    state := .readingRequest }

lemma requestBegin_cases (backend : HttpBackend) (place : Nat) (conn : Connection) (arena : Nat) :
    (∃ failure, requestBegin backend place conn arena = (backend, conn, .zero, .error failure)) ∨
    connectionCanBeginRequest backend conn = true ∧
      backend.activeRequests < backend.options.maxActiveRequests ∧ ∃ scheme,
      requestBegin backend place conn arena = ({ backend with
            activeRequests := backend.activeRequests + 1
            nextRequestId := backend.nextRequestId + 1 },
          conn.begun,
          ⟨some place, some arena, backend.nextRequestId, scheme, .created, .zero, .init, true⟩, .ok ()) := by
  rw [requestBegin]
  split
  · exact .inl ⟨_, rfl⟩
  split
  · exact .inl ⟨_, rfl⟩
  split
  · exact .inl ⟨_, rfl⟩
  split
  · exact .inl ⟨_, rfl⟩
  rename_i hBegin
  split
  · exact .inl ⟨_, rfl⟩
  rename_i hRoom
  split
  · exact .inl ⟨_, rfl⟩
  · refine .inr ⟨?_, Nat.lt_of_not_le hRoom, _, rfl⟩
    rw [Bool.not_eq_true', Bool.not_eq_false] at hBegin
    exact hBegin

def Server.readerTarget (server : Server) (reader : Nat) : Option (Nat × Origin) :=
  (server.readers[reader]?.bind BodyReader.request).map fun request => (request, .reader)

def Server.target (server : Server) : Operation → Option (Nat × Origin)
  | .parseHead request _ => some (request, .parsing)
  | .mapHead request _ | .bodyReaderBegin request _ _ => some (request, .ordinary)
  | .bodyReaderAppend reader _ | .bodyReaderFinish reader => server.readerTarget reader
  | .beginDispatch request | .beginWrite request | .complete request => some (request, .ordinary)
  | .fail request => some (request, .failing)
  | .cancel request _ _ | .shutdown request | .timeout request _ => some (request, .cancellation)
  | .close request => some (request, .closing)
  | _ => none

def TargetEffect (origin : Origin) (lives : Lives) (place : Nat) (after : Lives) : Prop :=
  after = lives ∨ ∃ request scope, lives.requests[place]? = some request ∧
    RequestEffect origin (lives.scopeOf request) scope ∧ after = lives.putScope place request scope

lemma onRequest_effect {run : RequestScope → RequestScope × Except Failure Unit}
    (hRun : ∀ scope, RequestEffect origin scope (run scope).1) (srv : Server) (place : Nat) :
    TargetEffect origin srv.toLives place (srv.onRequest place run).1.toLives := by
  rw [Server.onRequest]
  split
  · exact .inl rfl
  next req hReq =>
    exact .inr ⟨req, _, hReq, hRun _, rfl⟩

variable {run : ReaderScope → ReaderScope × Except Failure Unit} {srv : Server} {reader place : Nat}

lemma onReader_effect (hRun : ∀ s, RequestEffect .reader s.scope (run s).1.scope)
    (hTarget : srv.readerTarget reader = some (place, origin)) :
    TargetEffect origin srv.toLives place (srv.onReader reader run).1.toLives := by
  rw [Server.readerTarget, Option.map_eq_some_iff] at hTarget
  obtain ⟨found, hFound, hPlace⟩ := hTarget
  cases hPlace
  obtain ⟨record, hRecord, hReq⟩ := Option.bind_eq_some_iff.mp hFound
  rw [Server.onReader, hRecord]
  dsimp only
  rw [hReq]
  split
  next hPlace _ =>
    cases hPlace
    split
    · exact .inl rfl
    next req hAt =>
      exact .inr ⟨req, _, hAt, hRun ⟨srv.scopeOf req, _, record⟩, rfl⟩
  · exact .inl rfl

lemma onReader_of_no_target (hTarget : srv.readerTarget reader = none) :
    (srv.onReader reader run).1.toLives = srv.toLives := by
  rw [Server.onReader]
  split
  · rfl
  next record hRecord =>
    have hNone : record.request = none := by
      simpa [Server.readerTarget, hRecord] using hTarget
    rw [hNone]

lemma bodyReaderClose_lives (srv : Server) (reader : Nat) :
    (srv.bodyReaderClose reader).1.toLives = srv.toLives := by
  rw [Server.bodyReaderClose]
  split
  · rfl
  · dsimp only
    split <;> rfl

lemma step_target {parser : HeadParser} {op : Operation} (hTarget : srv.target op = some (place, origin)) :
    TargetEffect origin srv.toLives place (step parser srv op).1.toLives := by
  cases op with
  | start | stop | dispose | accept | connectionClose | connectionFail | setMultiplexing | begin
  | bodyReaderClose | useArena => cases hTarget
  | parseHead req bytes =>
    cases hTarget
    rw [step, Server.onRequestArena]
    split
    · exact .inl rfl
    rename_i record hRecord
    split
    · exact .inl rfl
    · exact .inr ⟨record, _, hRecord, requestParseHead_effect parser _ _ bytes, rfl⟩
  | mapHead req head =>
    cases hTarget
    exact onRequest_effect (requestHeadMapped_effect · head) srv _
  | bodyReaderBegin req contentType contentLength =>
    cases hTarget
    rw [step, Server.bodyReaderBegin]
    split
    · exact .inl rfl
    rename_i record hRecord
    split
    · exact .inl rfl
    · exact .inr ⟨record, _, hRecord, requestBodyReaderBegin_effect _ _ _ contentType contentLength, rfl⟩
  | bodyReaderAppend reader chunk => exact onReader_effect (requestBodyReaderAppend_effect · chunk) hTarget
  | bodyReaderFinish => exact onReader_effect requestBodyReaderFinish_effect hTarget
  | beginDispatch =>
    cases hTarget
    exact onRequest_effect requestBeginDispatch_effect srv _
  | beginWrite =>
    cases hTarget
    exact onRequest_effect requestBeginWrite_effect srv _
  | complete =>
    cases hTarget
    exact onRequest_effect requestComplete_effect srv _
  | fail =>
    cases hTarget
    exact onRequest_effect requestFail_effect srv _
  | cancel req reason detail =>
    cases hTarget
    exact onRequest_effect (requestCancel_effect · reason detail) srv _
  | shutdown =>
    cases hTarget
    exact onRequest_effect (requestCancel_effect · _ _) srv _
  | timeout req detail =>
    cases hTarget
    exact onRequest_effect (requestTimeout_effect · detail) srv _
  | close =>
    cases hTarget
    exact onRequest_effect (fun _ => .closed rfl) srv _

inductive Operation.Serves : Operation → Prop where
  | start : Serves .start
  | stop : Serves .stop
  | dispose : Serves .dispose
  | accept : Serves .accept
  | connectionClose (place : Nat) : Serves (.connectionClose place)
  | connectionFail (place : Nat) : Serves (.connectionFail place)
  | setMultiplexing (place : Nat) (enabled : Bool) : Serves (.setMultiplexing place enabled)
  | begin (place arena : Nat) : Serves (.begin place arena)

lemma step_cases (parser : HeadParser) (srv : Server) (op : Operation) :
    op.Serves ∨ ∃ origin place, TargetEffect origin srv.toLives place (step parser srv op).1.toLives := by
  cases hTarget : srv.target op with
  | some => exact .inr ⟨_, _, step_target hTarget⟩
  | none =>
    cases op with
    | start => exact .inl .start
    | stop => exact .inl .stop
    | dispose => exact .inl .dispose
    | accept => exact .inl .accept
    | connectionClose place => exact .inl (.connectionClose place)
    | connectionFail place => exact .inl (.connectionFail place)
    | setMultiplexing place enabled => exact .inl (.setMultiplexing place enabled)
    | begin place arena => exact .inl (.begin place arena)
    | useArena => exact .inr ⟨.ordinary, 0, .inl rfl⟩
    | bodyReaderClose reader => exact .inr ⟨.ordinary, 0, .inl (bodyReaderClose_lives srv reader)⟩
    | bodyReaderAppend | bodyReaderFinish => exact .inr ⟨.ordinary, 0, .inl (onReader_of_no_target hTarget)⟩
    | parseHead | mapHead | bodyReaderBegin | beginDispatch | beginWrite | complete | fail | cancel
    | shutdown | timeout | close => cases hTarget

lemma putScope_connections {lives : Lives} {req : RequestLifecycle} {state : ConnectionState}
    (hConn : after.connection = (lives.connectionOf req).map fun conn =>
      { conn with state := state }) (place p : Nat) :
    (lives.putScope place req after).connections[p]? = lives.connections[p]?.map fun conn =>
        if req.connection = some p then { conn with state := state } else conn := by
  rw [Lives.putScope]
  cases hPointer : req.connection with
  | none => simp
  | some q =>
    rw [Lives.connectionOf, hPointer, Option.bind_some] at hConn
    cases hAt : lives.connections[q]? with
    | none =>
      rw [hConn, hAt]
      by_cases hPlace : q = p
      · simp [← hPlace, hAt]
      · simp [hPlace]
    | some =>
      rw [hConn, hAt]
      by_cases hPlace : q = p
      · subst hPlace
        rw [hAt, Option.map_some, Option.map_some, if_pos rfl]
        exact List.getElem?_set_self (List.getElem_of_getElem? hAt).1
      · simp [hPlace]

end Sloppy.Backend
