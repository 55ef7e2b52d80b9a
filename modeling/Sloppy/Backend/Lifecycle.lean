import Sloppy.Http.Response

/-! # The HTTP backend

The backend, its connections, requests and body readers (`http_backend.h`). A pointer is the place of the record it
points to, and a record that was never filled is zeroed.
-/

namespace Sloppy.Backend

open Http Growing

section

inductive BackendState where
  | uninitialized | initialized | started | stopping | stopped | disposed | error
  deriving DecidableEq

inductive ListenerState where
  | unbound | bound | listening | stopping | stopped | error
  deriving DecidableEq

inductive ConnectionState where
  | none | accepted | open | readingRequest | dispatching | writingResponse | closing | closed | error
  deriving DecidableEq

inductive RequestState where
  | none | created | reading | dispatching | writingResponse | completed | cancelled | timedOut | failed | closed
  deriving DecidableEq

inductive BodyReaderState where
  | none | ready | reading | completed | cancelled | timedOut | failed | closed
  deriving DecidableEq

inductive CancellationReason where
  | none | cancelled | deadlineExceeded | backpressure | shutdown
  deriving DecidableEq

structure CancellationToken where
  cancelled : Bool
  reason : CancellationReason
  detail : List UInt8
  deriving DecidableEq

def CancellationToken.init : CancellationToken := ⟨false, .none, []⟩

def cancellationTokenCancel (token : CancellationToken) (reason : CancellationReason)
    (detail : List UInt8) : CancellationToken × Except StatusCode Unit :=
  if reason = .none then (token, .error .invalidArgument)
  else if token.cancelled then (token, .error .invalidState)
  else (⟨true, reason, detail⟩, .ok ())

def cancellationTokenReason (token : CancellationToken) : CancellationReason :=
  if token.cancelled then token.reason else .none

def uint64Max : Nat := 18446744073709551615

structure BackendOptions where
  maxConnections : Nat
  maxActiveRequests : Nat
  parse : ParseOptions
  keepAliveEnabled : Bool
  deriving DecidableEq

structure HttpBackend where
  options : BackendOptions
  state : BackendState
  listener : ListenerState
  activeConnections : Nat
  activeRequests : Nat
  nextConnectionId : Nat
  nextRequestId : Nat
  deriving DecidableEq

structure Connection where
  -- The backend pointer is set.
  attached : Bool
  state : ConnectionState
  id : Nat
  scheme : List UInt8
  requestCount : Nat
  multiplexing : Bool
  slotAdmitted : Bool
  deriving DecidableEq

def Connection.zero : Connection := ⟨false, .none, 0, [], 0, false, false⟩

structure RequestLifecycle where
  connection : Option Nat
  arena : Option Nat
  id : Nat
  scheme : List UInt8
  state : RequestState
  head : RequestHead
  cancellation : CancellationToken
  admitted : Bool
  deriving DecidableEq

def RequestLifecycle.zero : RequestLifecycle :=
  ⟨none, none, 0, [], .none, .zero, .init, false⟩

structure BodyReader where
  request : Option Nat
  arena : Option Nat
  mark : ArenaMark
  builder : Growing.ByteBuilder
  state : BodyReaderState
  bodyKind : BodyKind
  maxBodyBytes : Nat
  expectedBodyBytes : Nat
  deriving DecidableEq

def BodyReader.zero : BodyReader := ⟨none, none, ⟨0, 0⟩, ⟨[], 0, 0, .fixed⟩, .none, .none, 0, 0⟩

inductive DiagCode where
  | appLifecycle | httpOverload | overflow | httpConnectionClosed | httpKeepAliveUnsupported | httpRequestTimeout
  | httpShutdown | engineCancelled | httpBodyLimit | httpUnsupportedMediaType | invalidHttpRequest
  deriving DecidableEq

structure Diag where
  code : DiagCode
  message : String
  hint : String
  deriving DecidableEq

structure Failure where
  status : StatusCode
  diag : Option Diag
  deriving DecidableEq

def invalidArgument : Failure := ⟨.invalidArgument, none⟩

def invalidState : Failure :=
  ⟨.invalidState, some ⟨.appLifecycle, "HTTP backend lifecycle state is invalid",
    "call HTTP backend init/start/stop/dispose in order"⟩⟩

def overload : Failure :=
  ⟨.capacityExceeded, some ⟨.httpOverload, "HTTP backend admission limit was reached",
    "the backend rejects overload instead of queuing without bounds"⟩⟩

def overflow : Failure :=
  ⟨.overflow, some ⟨.overflow, "HTTP backend identifier space was exhausted",
    "restart the backend before native request or connection IDs wrap"⟩⟩

def connectionClosed : Failure :=
  ⟨.invalidState, some ⟨.httpConnectionClosed, "HTTP connection is closed",
    "do not begin new request work on a closed connection"⟩⟩

def keepAliveUnsupported : Failure :=
  ⟨.unsupported, some ⟨.httpKeepAliveUnsupported, "HTTP keep-alive is not enabled",
    "the current dev runtime closes each HTTP/1.1 connection"⟩⟩

def timeoutDiag : Failure :=
  ⟨.deadlineExceeded, some ⟨.httpRequestTimeout, "HTTP request deadline was exceeded",
    "request cleanup still runs after timeout"⟩⟩

def shutdownDiag : Failure :=
  ⟨.cancelled, some ⟨.httpShutdown, "HTTP backend shutdown is in progress",
    "new request work is rejected and active work must drain or cancel"⟩⟩

def cancelledDiag : Failure :=
  ⟨.cancelled, some ⟨.engineCancelled, "HTTP request was cancelled", "request cleanup still runs after cancellation"⟩⟩

def bodyLimitDiag : Failure :=
  ⟨.capacityExceeded, some ⟨.httpBodyLimit, "HTTP request body is too large",
    "request bodies are copied only up to the configured limit"⟩⟩

def unsupportedMediaDiag : Failure :=
  ⟨.unsupported, some ⟨.httpUnsupportedMediaType, "HTTP request body content type is not supported",
    "use application/json, text/plain, application/octet-stream, application/x-www-form-urlencoded, or " ++
      "multipart/form-data for bounded request bodies"⟩⟩

def invalidBodyDiag : Failure :=
  ⟨.invalidArgument, some ⟨.invalidHttpRequest, "HTTP request body length is invalid",
    "the body reader must receive exactly the declared Content-Length"⟩⟩

def defaultOptions : BackendOptions := ⟨128, 128, defaultParseOptions, false⟩

def optionsInit : Option BackendOptions → BackendOptions
  | none => defaultOptions
  | some options =>
    { maxConnections := orDefault options.maxConnections defaultOptions.maxConnections
      maxActiveRequests := orDefault options.maxActiveRequests defaultOptions.maxActiveRequests
      parse := effectiveParseOptions options.parse
      keepAliveEnabled := options.keepAliveEnabled }

def backendInit (options : Option BackendOptions) : HttpBackend where
  options := optionsInit options
  state := .initialized
  listener := .unbound
  activeConnections := 0
  activeRequests := 0
  nextConnectionId := 1
  nextRequestId := 1

variable (backend : HttpBackend)

def maybeFinishStop : HttpBackend :=
  if backend.state = .stopping ∧ backend.activeConnections = 0 ∧ backend.activeRequests = 0 then
    { backend with state := .stopped, listener := .stopped }
  else backend

def backendStart : HttpBackend × Except Failure Unit :=
  if backend.state ≠ .initialized ∧ backend.state ≠ .stopped then (backend, .error invalidState)
  else ({ backend with listener := .listening, state := .started }, .ok ())

def backendStop : HttpBackend × Except Failure Unit :=
  if backend.state ≠ .started ∧ backend.state ≠ .stopping then (backend, .error invalidState)
  else (maybeFinishStop { backend with state := .stopping, listener := .stopping }, .ok ())

def backendDispose : HttpBackend × Except Failure Unit :=
  if backend.activeConnections ≠ 0 ∨ backend.activeRequests ≠ 0 ∨ backend.state = .started ∨
      backend.state = .stopping then
    (backend, .error invalidState)
  else ({ backend with listener := .stopped, state := .disposed }, .ok ())

/-- The storage of a refused connection is zeroed. -/
def acceptConnection : HttpBackend × Connection × Except Failure Unit :=
  if backend.state ≠ .started then (backend, .zero, .error invalidState)
  else if backend.activeConnections ≥ backend.options.maxConnections then (backend, .zero, .error overload)
  else if backend.nextConnectionId = uint64Max then (backend, .zero, .error overflow)
  else
    ({ backend with
        nextConnectionId := backend.nextConnectionId + 1
        activeConnections := backend.activeConnections + 1 },
      { attached := true
        state := .accepted
        id := backend.nextConnectionId
        scheme := literal "http"
        requestCount := 0
        multiplexing := false
        slotAdmitted := true },
      .ok ())

def releaseSlot (connection : Connection) (state : ConnectionState) : HttpBackend × Connection :=
  let released := { connection with state := state, slotAdmitted := false }
  if connection.attached then
    (maybeFinishStop (if connection.slotAdmitted ∧ backend.activeConnections > 0 then
        { backend with activeConnections := backend.activeConnections - 1 }
      else backend), released)
  else (backend, released)

def connectionClose (connection : Connection) : HttpBackend × Connection :=
  if connection.state = .closed then (backend, connection) else releaseSlot backend connection .closed

def connectionFail (connection : Connection) : HttpBackend × Connection :=
  releaseSlot backend connection .error

def connectionSetMultiplexing (connection : Connection) (enabled : Bool) : Connection :=
  { connection with multiplexing := enabled }

def connectionCanBeginRequest (connection : Connection) : Bool :=
  if !connection.attached || !connection.slotAdmitted || decide (backend.state ≠ .started) then false
  else if connection.state = .accepted ∨ connection.state = .open then true
  else
    connection.multiplexing && decide (connection.state = .readingRequest ∨
      connection.state = .dispatching ∨ connection.state = .writingResponse)

/-- Begins a request on the connection at a place, with an arena; the storage of a refused request is
zeroed. -/
def requestBegin (place : Nat) (connection : Connection) (arena : Nat) :
    HttpBackend × Connection × RequestLifecycle × Except Failure Unit :=
  if !connection.attached then (backend, connection, .zero, .error invalidArgument)
  else if connection.state = .closing ∧ connection.multiplexing = false ∧
      backend.options.keepAliveEnabled = false then
    (backend, connection, .zero, .error keepAliveUnsupported)
  else if backend.state = .stopping then (backend, connection, .zero, .error shutdownDiag)
  else if !connectionCanBeginRequest backend connection then
    (backend, connection, .zero, .error connectionClosed)
  else if backend.activeRequests ≥ backend.options.maxActiveRequests then
    (backend, connection, .zero, .error overload)
  else if backend.nextRequestId = uint64Max then (backend, connection, .zero, .error overflow)
  else
    ({ backend with
        activeRequests := backend.activeRequests + 1
        nextRequestId := backend.nextRequestId + 1 },
      { connection with
        requestCount := (connection.requestCount + 1) % (sizeMax + 1)
        state := .readingRequest },
      { connection := some place
        arena := some arena
        id := backend.nextRequestId
        scheme := if connection.scheme = [] then literal "http" else connection.scheme
        state := .created
        head := .zero
        cancellation := .init
        admitted := true },
      .ok ())

/-- What an operation on a request reaches; a request that was never begun has no connection. -/
structure RequestScope where
  backend : HttpBackend
  connection : Option Connection
  request : RequestLifecycle
  deriving DecidableEq

def RequestState.terminal : RequestState → Bool
  | .completed | .cancelled | .timedOut | .failed | .closed => true
  | .none | .created | .reading | .dispatching | .writingResponse => false

variable (scope : RequestScope)

def RequestScope.setState (state : RequestState) : RequestScope :=
  { scope with request := { scope.request with state := state } }

def RequestScope.setConnection (state : ConnectionState) : RequestScope :=
  { scope with connection := scope.connection.map fun connection => { connection with state := state } }

def releaseAdmission : RequestScope :=
  match scope.connection with
  | none => scope
  | some connection =>
    if scope.request.admitted = false then scope
    else
      { scope with
        request := { scope.request with admitted := false }
        backend :=
          if connection.attached then
            maybeFinishStop (if scope.backend.activeRequests > 0 then
                { scope.backend with activeRequests := scope.backend.activeRequests - 1 }
              else scope.backend)
          else scope.backend }

def terminalCancel (state : RequestState) : RequestScope :=
  releaseAdmission ((scope.setState state).setConnection .closing)

/-- On a multiplexing connection the end of a stream leaves the connection open. -/
def connectionAfterStreamTerminal (fallback : ConnectionState) : ConnectionState :=
  match scope.connection with
  | none => fallback
  | some connection =>
    if connection.multiplexing ∧ connection.attached ∧ scope.backend.state = .started then .open
    else fallback

/-- Ends a request; what becomes of the connection depends on the backend before the release. -/
def endStream (state : RequestState) (fallback : ConnectionState) : RequestScope :=
  releaseAdmission ((scope.setState state).setConnection (connectionAfterStreamTerminal scope fallback))

def requestBeginDispatch : RequestScope × Except Failure Unit :=
  match scope.connection with
  | none => (scope, .error invalidArgument)
  | some connection =>
    if scope.request.state ≠ .reading then (scope, .error invalidState)
    else if scope.request.cancellation.cancelled then
      match cancellationTokenReason scope.request.cancellation with
      | .deadlineExceeded => (terminalCancel scope .timedOut, .error timeoutDiag)
      | .shutdown => (terminalCancel scope .cancelled, .error shutdownDiag)
      | _ => (terminalCancel scope .cancelled, .error cancelledDiag)
    else if connection.attached ∧ scope.backend.state = .stopping then
      (terminalCancel scope .cancelled, .error shutdownDiag)
    else ((scope.setState .dispatching).setConnection .dispatching, .ok ())

def requestBeginWrite : RequestScope × Except Failure Unit :=
  match scope.connection with
  | none => (scope, .error invalidArgument)
  | some _ =>
    if scope.request.state ≠ .dispatching then (scope, .error invalidState)
    else ((scope.setState .writingResponse).setConnection .writingResponse, .ok ())

def requestComplete : RequestScope × Except Failure Unit :=
  match scope.connection with
  | none => (scope, .error invalidArgument)
  | some connection =>
    if scope.request.state ≠ .writingResponse then (scope, .error invalidState)
    else
      (endStream scope .completed
        (if connection.attached ∧ scope.backend.options.keepAliveEnabled then .open else .closing), .ok ())

def requestFail : RequestScope × Except Failure Unit :=
  match scope.connection with
  | none => (scope, .error invalidArgument)
  | some _ => (endStream scope .failed .error, .ok ())

def RequestScope.cancelToken (reason : CancellationReason) (detail : List UInt8) : RequestScope :=
  { scope with
    request := { scope.request with
      cancellation := (cancellationTokenCancel scope.request.cancellation reason detail).1 } }

def requestCancel (reason : CancellationReason) (detail : List UInt8) : RequestScope × Except Failure Unit :=
  if reason = .none then (scope, .error invalidArgument)
  else if scope.request.state.terminal then (scope, .error invalidState)
  else
    -- With a reason the token refuses only because it is cancelled already, which is passed over.
    let scope := scope.cancelToken reason detail
    match reason with
    | .deadlineExceeded => (terminalCancel scope .timedOut, .error timeoutDiag)
    | .shutdown => (terminalCancel scope .cancelled, .error shutdownDiag)
    | _ => (terminalCancel scope .cancelled, .error cancelledDiag)

def requestShutdown : RequestScope × Except Failure Unit :=
  requestCancel scope .shutdown (literal "HTTP backend shutdown")

def requestTimeout (detail : List UInt8) : RequestScope × Except Failure Unit :=
  if scope.request.state.terminal then (scope, .error invalidState)
  else (terminalCancel (scope.cancelToken .deadlineExceeded detail) .timedOut, .error timeoutDiag)

def requestClose : RequestScope × Except Failure Unit :=
  let scope := releaseAdmission scope
  ({ scope with request := { scope.request with state := .closed, head := .zero } }, .ok ())

def RequestScope.setHead (head : RequestHead) : RequestScope :=
  { scope with request := { scope.request with head := head } }

abbrev HeadParser : Type := ParseOptions → Arena → List UInt8 → Arena × Except Failure RequestHead

def parseOptionsOf (connection : Connection) : ParseOptions :=
  if connection.attached then backend.options.parse else defaultParseOptions

/-- A request whose head is refused fails with its connection and stays admitted. -/
def requestParseHead (parser : HeadParser) (scope : RequestScope) (arena : Arena) (bytes : List UInt8) :
    RequestScope × Arena × Except Failure Unit :=
  match scope.connection with
  | none => (scope, arena, .error invalidArgument)
  | some connection =>
    if scope.request.state ≠ .created then (scope, arena, .error invalidState)
    else
      match parser (parseOptionsOf scope.backend connection) arena bytes with
      | (arena, .error failure) =>
        (((scope.setHead .zero).setState .failed).setConnection .error, arena, .error failure)
      | (arena, .ok head) =>
        (((scope.setHead head).setState .reading).setConnection .readingRequest, arena, .ok ())

/-- `sl_http2_request_from_headers` fills the head of a request it has just begun. -/
def requestHeadMapped (head : RequestHead) : RequestScope × Except Failure Unit :=
  if scope.request.state ≠ .created then (scope, .error invalidState)
  else (((scope.setHead head).setState .reading).setConnection .readingRequest, .ok ())

end

def mediaTypeJson (media : List UInt8) : Bool :=
  equalCiAscii media (literal "application/json") ||
    (decide (media.length > (literal "application/").length + (literal "+json").length) &&
      startsWithCiAscii media (literal "application/") && endsWithCiAscii media (literal "+json"))

/-- The kind of a body by its content type; an empty body has a kind only if it is a form. -/
def bodyReaderClassify (contentType : List UInt8) (contentLength : Nat) : Except Failure BodyKind :=
  if trimAsciiSpace contentType = [] then
    if contentLength = 0 then .ok .none else .error unsupportedMediaDiag
  else
    let media := mediaType contentType
    if contentLength = 0 ∧ !equalCiAscii media (literal "application/x-www-form-urlencoded") ∧
        !equalCiAscii media (literal "multipart/form-data") then .ok .none
    else if mediaTypeJson media then .ok .json
    else if equalCiAscii media (literal "text/plain") then .ok .text
    else if equalCiAscii media (literal "application/octet-stream") then .ok .bytes
    else if equalCiAscii media (literal "application/x-www-form-urlencoded") then .ok .form
    else if equalCiAscii media (literal "multipart/form-data") then .ok .multipart
    else .error unsupportedMediaDiag

structure ReaderScope where
  scope : RequestScope
  arena : Arena
  reader : BodyReader
  deriving DecidableEq

def BodyReader.usable (reader : BodyReader) : Bool :=
  reader.request.isSome && reader.arena.isSome && decide (reader.state = .ready ∨ reader.state = .reading)

def RequestScope.clearBody (scope : RequestScope) : RequestScope :=
  scope.setHead { scope.request.head with body := [] }

variable (s : ReaderScope)

/-- Gives back what the reader took from the arena and ends the request. -/
def bodyReaderFail (state : BodyReaderState) (failure : Failure) : ReaderScope × Except Failure Unit :=
  match arenaResetTo s.arena s.reader.mark with
  | (_, .error code) => (s, .error ⟨code, none⟩)
  | (arena, .ok ()) =>
    let scope := s.scope.clearBody
    let ended :=
      match state with
      | .cancelled => terminalCancel scope .cancelled
      | .timedOut => terminalCancel scope .timedOut
      | _ => endStream scope .failed .closing
    (⟨ended, arena, { s.reader with state := state }⟩, .error failure)

def RequestScope.stopping (scope : RequestScope) : Bool :=
  match scope.connection with
  | none => false
  | some connection => connection.attached && decide (scope.backend.state = .stopping)

def bodyReaderCheckTerminal : ReaderScope × Except Failure Unit :=
  if s.scope.stopping then
    bodyReaderFail { s with scope := s.scope.cancelToken .shutdown (literal "HTTP backend shutdown") }
      .cancelled shutdownDiag
  else if s.scope.request.cancellation.cancelled = false then (s, .ok ())
  else
    match cancellationTokenReason s.scope.request.cancellation with
    | .deadlineExceeded => bodyReaderFail s .timedOut timeoutDiag
    | .shutdown => bodyReaderFail s .cancelled shutdownDiag
    | _ => bodyReaderFail s .cancelled cancelledDiag

def afterCheck (next : ReaderScope → ReaderScope × Except Failure Unit) : ReaderScope × Except Failure Unit :=
  match bodyReaderCheckTerminal s with
  | (s, .error failure) => (s, .error failure)
  | (s, .ok ()) => next s

def maxBodyBytes (scope : RequestScope) (connection : Connection) : Nat :=
  if connection.attached then orDefault scope.backend.options.parse.maxBodyLength defaultParseOptions.maxBodyLength
  else defaultParseOptions.maxBodyLength

/-- Begins a reader for the request at a place; the storage of a refused reader is zeroed. -/
def requestBodyReaderBegin (scope : RequestScope) (arena : Arena) (place : Nat)
    (contentType : List UInt8) (contentLength : Nat) : ReaderScope × Except Failure Unit :=
  match scope.connection with
  | none => (⟨scope, arena, .zero⟩, .error invalidArgument)
  | some connection =>
    if scope.request.state ≠ .reading then (⟨scope, arena, .zero⟩, .error invalidState)
    else
      let limit := maxBodyBytes scope connection
      let reader :=
        { BodyReader.zero with
          request := some place
          arena := scope.request.arena
          mark := arenaMark arena
          state := .ready
          maxBodyBytes := limit
          expectedBodyBytes := contentLength }
      afterCheck ⟨scope, arena, reader⟩ fun s =>
        if contentLength > limit then bodyReaderFail s .failed bodyLimitDiag
        else
          match bodyReaderClassify contentType contentLength with
          | .error failure => bodyReaderFail s .failed failure
          | .ok kind =>
            match byteBuilderInitArena s.arena contentLength limit with
            | (arena, .error code) => bodyReaderFail { s with arena := arena } .failed ⟨code, none⟩
            | (arena, .ok builder) =>
              ({ s with arena := arena, reader := { s.reader with builder := builder, bodyKind := kind } }, .ok ())

def requestBodyReaderAppend (chunk : List UInt8) : ReaderScope × Except Failure Unit :=
  if !s.reader.usable then (s, .error invalidArgument)
  else
    afterCheck s fun s =>
      match checkedAddSize s.reader.builder.content.length chunk.length with
      | .error code => bodyReaderFail s .failed ⟨code, none⟩
      | .ok nextLength =>
        if nextLength > s.reader.maxBodyBytes then bodyReaderFail s .failed bodyLimitDiag
        else if nextLength > s.reader.expectedBodyBytes then bodyReaderFail s .failed invalidBodyDiag
        else
          match Growing.byteBuilderAppendBytes ⟨s.reader.builder, s.arena⟩ chunk with
          | (after, .error code) =>
            bodyReaderFail { s with arena := after.arena, reader := { s.reader with builder := after.builder } }
              .failed ⟨code, none⟩
          | (after, .ok ()) =>
            ({ s with
                arena := after.arena
                reader := { s.reader with builder := after.builder, state := .reading } }, .ok ())

def requestBodyReaderFinish : ReaderScope × Except Failure Unit :=
  if !s.reader.usable then (s, .error invalidArgument)
  else
    afterCheck s fun s =>
      if s.reader.builder.content.length ≠ s.reader.expectedBodyBytes then bodyReaderFail s .failed invalidBodyDiag
      else
        ({ s with
            scope := s.scope.setHead { s.scope.request.head with body := s.reader.builder.content }
            reader := { s.reader with state := .completed } }, .ok ())

def requestBodyReaderClose (arena : Option Arena) (reader : BodyReader) :
    Option Arena × BodyReader × Except Failure Unit :=
  let closed := { reader with state := .closed }
  match reader.state with
  | .closed => (arena, reader, .ok ())
  | .completed | .cancelled | .timedOut | .failed => (arena, closed, .ok ())
  | .none | .ready | .reading =>
    match arena with
    | none => (none, closed, .ok ())
    | some arena =>
      match arenaResetTo arena reader.mark with
      | (arena, .error code) => (some arena, reader, .error ⟨code, none⟩)
      | (arena, .ok ()) => (some arena, closed, .ok ())

end Sloppy.Backend
