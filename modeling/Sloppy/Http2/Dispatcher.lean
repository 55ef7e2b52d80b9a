import Sloppy.Http2.RequestMapping

/-! # The HTTP/2 server dispatcher

`http2_dispatch.c`: the slots of the open streams, the events of a receive in their order, and then the completion of
the streams that have ended. The hook and nghttp2 may answer every call differently, so each call takes the number of
those before it.
-/

namespace Sloppy.Http2

open Http Backend Lib

section

inductive EventType where
  | requestHeaders | responseHeaders | headers | data | streamEnd | streamClose | rstStream | goaway | settings
  | invalidFrame
  deriving DecidableEq

/-- The diagnostics of the dispatch hook that decide about the response to a failure. -/
inductive DispatchDiag where
  | routeNotFound | unsupportedMethod | bodyLimit | headerLimit | headerBytesLimit | requestLineLimit | targetLimit
  | headerNameLimit | headerValueLimit | unsupportedMediaType | unsupportedBody | invalidHttpRequest | malformedJson
  | keepAliveUnsupported | other
  deriving DecidableEq

structure DispatchFailure where
  status : StatusCode
  diag : DispatchDiag
  deriving DecidableEq

variable (failure : DispatchFailure)

def statusForFailure : UInt16 :=
  match failure.diag with
  | .routeNotFound => 404
  | .unsupportedMethod => 405
  | .bodyLimit | .headerLimit | .headerBytesLimit | .requestLineLimit | .targetLimit | .headerNameLimit
  | .headerValueLimit => 413
  | .unsupportedMediaType => 415
  | .unsupportedBody => 501
  | .invalidHttpRequest | .malformedJson | .keepAliveUnsupported => 400
  | .other =>
    match failure.status with
    | .capacityExceeded => 413
    | .unsupported => 501
    | .invalidArgument => 400
    | _ => 500

def bodyForStatus (status : UInt16) : List UInt8 :=
  match status.toNat with
  | 400 => literal "Malformed HTTP request\n"
  | 404 => literal "Not Found\n"
  | 405 => literal "Method Not Allowed\n"
  | 408 => literal "Request Timeout\n"
  | 413 => literal "Payload Too Large\n"
  | 415 => literal "Unsupported Media Type\n"
  | 417 => literal "Expectation Failed\n"
  | 501 => literal "Request body framing is not supported\n"
  | _ => literal "Sloppy handler failed\n"

def bodyForFailure : List UInt8 :=
  if failure.diag = .malformedJson then literal "Malformed JSON\n" else bodyForStatus (statusForFailure failure)

lemma bodyForStatus_length (status : UInt16) : (bodyForStatus status).length ≤ sizeMax := by
  unfold bodyForStatus
  split <;> decide

lemma bodyForFailure_length : (bodyForFailure failure).length ≤ sizeMax := by
  unfold bodyForFailure
  split
  · decide
  · exact bodyForStatus_length _

def failureResponse : Response where
  status := statusForFailure failure
  kind := .text
  contentType := literal "text/plain; charset=utf-8"
  headers := []
  body := bodyForFailure failure
  streamChunks := []
  bodySize := bodyForFailure_length failure
  chunkSizes := noChunks_sizes

def responseFor : Except DispatchFailure Response → Response
  | .ok response => response
  | .error failure => failureResponse failure

inductive ResetCode where
  | protocolError | internalError | streamClosed | refusedStream
  deriving DecidableEq

/-- What lies outside the dispatcher, call by call. -/
structure Surroundings where
  dispatch : Nat → RequestScope → Arena → RequestScope × Arena × Except DispatchFailure Response
  submitResponse : Nat → Int → List HeaderField → List UInt8 → Option StatusCode
  submitRst : Nat → Int → ResetCode → Option StatusCode
  wantWrite : Nat → Bool
  headersOpen : Nat → Bool
  /-- What is read of a stream once a reset of the arena has gone below storage in use. -/
  overwritten : Nat → List HeaderField × List UInt8

structure DispatchConfig where
  maxStreams : Nat
  maxBodyBytes : Nat
  maxResponseBodyBytes : Nat
  deriving DecidableEq

structure DispatchEvent where
  type : EventType
  streamId : Int
  endStream : Bool
  headers : List HeaderField
  data : List UInt8
  stop : Nat
  deriving DecidableEq

/-- The storage of the headers and of the body lies below `headersStop` and `bodyStop`; the request headers have a
number of their own. -/
structure DispatchStream where
  streamId : Int
  active : Bool
  headersSeen : Bool
  completePending : Bool
  headers : List HeaderField
  body : Growing.ByteBuilder
  bodyMark : ArenaMark
  bodyMarkValid : Bool
  headersStop : Nat
  bodyStop : Nat
  serial : Nat
  deriving DecidableEq

def noBuilder : Growing.ByteBuilder := ⟨[], 0, 0, .fixed⟩

def DispatchStream.zero : DispatchStream where
  streamId := 0
  active := false
  headersSeen := false
  completePending := false
  headers := []
  body := noBuilder
  bodyMark := ⟨0, 0⟩
  bodyMarkValid := false
  headersStop := 0
  bodyStop := 0
  serial := 0

/-- The mark of the body stays. -/
def DispatchStream.close (stream : DispatchStream) : DispatchStream :=
  { stream with
    active := false
    headersSeen := false
    completePending := false
    streamId := 0
    headers := []
    body := noBuilder }

structure DispatchTrace where
  opened : Nat
  invoked : List Nat
  submitFailed : Bool
  overrun : Bool
  deriving DecidableEq

structure ServerDispatcher where
  config : DispatchConfig
  places : Places
  backend : HttpBackend
  connection : Backend.Connection
  arena : Arena
  eventMark : ArenaMark
  events : List DispatchEvent
  outbound : Growing.ByteBuilder
  outboundStop : Nat
  streams : List DispatchStream
  activeStreams : Nat
  peerGoawayReceived : Bool
  calls : Nat
  trace : DispatchTrace

namespace ServerDispatcher

/-- The dispatcher after its initialisation, which has taken the storage of the slots, of the events and of
the outbound builder from the arena. -/
def initial (config : DispatchConfig) (places : Places) (backend : HttpBackend) (connection : Backend.Connection)
    (arena : Arena) (outbound : Growing.ByteBuilder) : ServerDispatcher where
  config := config
  places := places
  backend := backend
  connection := connection
  arena := arena
  eventMark := arenaMark arena
  events := []
  outbound := outbound
  outboundStop := arena.offset
  streams := List.replicate config.maxStreams .zero
  activeStreams := 0
  peerGoawayReceived := false
  calls := 0
  trace := ⟨0, [], false, false⟩

def findStream (dispatcher : ServerDispatcher) (streamId : Int) : Option Nat :=
  if streamId ≤ 0 then none
  else dispatcher.streams.findIdx? fun stream => stream.active && stream.streamId == streamId

def closeStream (place : Nat) (dispatcher : ServerDispatcher) : ServerDispatcher :=
  match dispatcher.streams[place]? with
  | none => dispatcher
  | some stream =>
    if stream.active then
      { dispatcher with
        streams := dispatcher.streams.set place stream.close
        activeStreams := dispatcher.activeStreams - 1 }
    else dispatcher

def closeFound (streamId : Int) (dispatcher : ServerDispatcher) : ServerDispatcher :=
  match dispatcher.findStream streamId with
  | none => dispatcher
  | some place => dispatcher.closeStream place

variable (world : Surroundings)

/-- A reset that nghttp2 does not take leaves the stream open. -/
def resetStream (streamId : Int) (code : ResetCode) (dispatcher : ServerDispatcher) :
    ServerDispatcher × Except StatusCode Unit :=
  let asked := { dispatcher with calls := dispatcher.calls + 1 }
  match world.submitRst dispatcher.calls streamId code with
  | some status => (asked, .error status)
  | none => (asked.closeFound streamId, .ok ())

def scopeOf (dispatcher : ServerDispatcher) (request : RequestLifecycle) : RequestScope :=
  ⟨dispatcher.backend, some dispatcher.connection, request⟩

def put (scope : RequestScope) (dispatcher : ServerDispatcher) : ServerDispatcher :=
  { dispatcher with
    backend := scope.backend
    connection := scope.connection.getD dispatcher.connection }

/-- The request is ended, and its stream is reset; that the reset may fail is passed over. -/
def failAndReset (streamId : Int) (scope : RequestScope) (dispatcher : ServerDispatcher) : ServerDispatcher :=
  ((dispatcher.put (requestFail scope).1).resetStream world streamId .internalError).1

def noteSubmitFailed (dispatcher : ServerDispatcher) : ServerDispatcher :=
  { dispatcher with trace := { dispatcher.trace with submitFailed := true } }

def writeResponse (streamId : Int) (scope : RequestScope) (response : Response)
    (dispatcher : ServerDispatcher) : ServerDispatcher × Except StatusCode Unit :=
  match requestBeginWrite scope with
  | (scope, .error _) => (dispatcher.failAndReset world streamId scope, .ok ())
  | (scope, .ok ()) =>
    match responseToHeaders response (scope.request.head.method == .head) dispatcher.config.maxResponseBodyBytes
        dispatcher.arena with
    | (arena, .error _) => ({ dispatcher with arena := arena }.failAndReset world streamId scope, .ok ())
    | (arena, .ok (headers, body)) =>
      let asked := { dispatcher with arena := arena, calls := dispatcher.calls + 1 }
      match world.submitResponse dispatcher.calls streamId headers body with
      | some status => ((asked.put (requestFail scope).1).noteSubmitFailed, .error status)
      | none =>
        match requestComplete scope with
        | (scope, .error failure) => (asked.put scope, .error failure.status)
        | (scope, .ok ()) => (asked.put scope, .ok ())

def noteInvoked (serial : Nat) (dispatcher : ServerDispatcher) : ServerDispatcher :=
  { dispatcher with trace := { dispatcher.trace with invoked := dispatcher.trace.invoked ++ [serial] } }

def submitResponseForRequest (serial : Nat) (streamId : Int) (request : RequestLifecycle)
    (dispatcher : ServerDispatcher) : ServerDispatcher × Except StatusCode Unit :=
  if streamId ≤ 0 then (dispatcher, .error .invalidArgument)
  else
    match requestBeginDispatch (dispatcher.scopeOf request) with
    | (scope, .error _) => (((dispatcher.put scope).resetStream world streamId .refusedStream).1, .ok ())
    | (scope, .ok ()) =>
      match world.dispatch dispatcher.calls scope dispatcher.arena with
      | (scope, arena, outcome) =>
        writeResponse world streamId scope (responseFor outcome)
          ({ dispatcher with arena := arena, calls := dispatcher.calls + 1 }.noteInvoked serial)

def readStream (stream : DispatchStream) (dispatcher : ServerDispatcher) : List HeaderField × List UInt8 :=
  if dispatcher.trace.overrun then world.overwritten dispatcher.calls else (stream.headers, stream.body.content)

def answerStream (place : Nat) (stream : DispatchStream) (headers : List HeaderField)
    (body : List UInt8) (dispatcher : ServerDispatcher) : ServerDispatcher × Except StatusCode Unit :=
  match requestFromHeaders dispatcher.places headers body ⟨dispatcher.scopeOf .zero, dispatcher.arena, .zero⟩ with
  | (mapped, .error _) =>
    ((({ dispatcher with arena := mapped.arena }.put mapped.scope).resetStream world stream.streamId
      .protocolError).1, .ok ())
  | (mapped, .ok ()) =>
    match submitResponseForRequest world stream.serial stream.streamId mapped.scope.request
        ({ dispatcher with arena := mapped.arena }.put mapped.scope) with
    | (dispatcher, .error status) => (dispatcher, .error status)
    | (dispatcher, .ok ()) => (dispatcher.closeStream place, .ok ())

def completeStream (place : Nat) (dispatcher : ServerDispatcher) : ServerDispatcher × Except StatusCode Unit :=
  match dispatcher.streams[place]? with
  | none => (dispatcher, .error .invalidArgument)
  | some stream =>
    if !stream.active || !stream.headersSeen then (dispatcher, .error .invalidArgument)
    else
      let read := dispatcher.readStream world stream
      dispatcher.answerStream world place stream read.1 read.2

end ServerDispatcher

end

namespace ServerDispatcher

/-- Where the storage in use ends: that of the events, of the active streams and of the outbound builder. -/
def storageStops (dispatcher : ServerDispatcher) : List Nat :=
  dispatcher.events.map (·.stop) ++
    (dispatcher.streams.filter (·.active)).flatMap (fun stream => [stream.headersStop, stream.bodyStop]) ++
    [dispatcher.outboundStop]

def resetArena (mark : ArenaMark) (dispatcher : ServerDispatcher) : ServerDispatcher × Except StatusCode Unit :=
  match arenaResetTo dispatcher.arena mark with
  | (arena, .error code) => ({ dispatcher with arena := arena }, .error code)
  | (arena, .ok ()) =>
    ({ dispatcher with
        arena := arena
        trace := { dispatcher.trace with
          overrun := dispatcher.trace.overrun || dispatcher.storageStops.any (fun stop => mark.offset < stop) } },
      .ok ())

/-- No stream is active, no header block is open and nothing waits to be sent. -/
def canClearSessionEvents (world : Surroundings) (dispatcher : ServerDispatcher) : Bool :=
  dispatcher.activeStreams == 0 && !world.headersOpen dispatcher.calls && !world.wantWrite dispatcher.calls

/-- The events are dropped before the arena is reset; a reset that is refused is passed over. -/
def clearEvents (dispatcher : ServerDispatcher) : ServerDispatcher :=
  ({ dispatcher with events := [] }.resetArena dispatcher.eventMark).1

def forgetStreamBodyMarks (dispatcher : ServerDispatcher) : ServerDispatcher :=
  { dispatcher with
    streams := dispatcher.streams.map fun stream =>
      { stream with body := noBuilder, bodyMark := ⟨0, 0⟩, bodyMarkValid := false } }

def streamAt (dispatcher : ServerDispatcher) (place : Nat) : DispatchStream := dispatcher.streams.getD place .zero

def putStream (place : Nat) (stream : DispatchStream) (dispatcher : ServerDispatcher) : ServerDispatcher :=
  { dispatcher with streams := dispatcher.streams.set place stream }

def initialBodyCapacity (config : DispatchConfig) : Nat :=
  if config.maxBodyBytes < 256 then config.maxBodyBytes else 256

/-- The slot's last body is given back if nothing else can be in use. -/
def reclaimBody (world : Surroundings) (place : Nat) (dispatcher : ServerDispatcher) :
    ServerDispatcher × Except StatusCode Unit :=
  let stream := dispatcher.streamAt place
  if stream.bodyMarkValid && dispatcher.canClearSessionEvents world then
    match dispatcher.resetArena stream.bodyMark with
    | (dispatcher, .error code) => (dispatcher, .error code)
    | (dispatcher, .ok ()) =>
      (dispatcher.putStream place { stream with bodyMarkValid := false, body := noBuilder }, .ok ())
  else (dispatcher, .ok ())

def openStream (place : Nat) (streamId : Int) (dispatcher : ServerDispatcher) :
    ServerDispatcher × Except StatusCode Nat :=
  let stream := dispatcher.streamAt place
  let mark := arenaMark dispatcher.arena
  match Growing.byteBuilderInitArena dispatcher.arena (initialBodyCapacity dispatcher.config)
      dispatcher.config.maxBodyBytes with
  | (arena, .error code) =>
    ({ dispatcher with arena := arena }.putStream place { stream with bodyMark := mark, bodyMarkValid := false },
      .error code)
  | (arena, .ok body) =>
    ({ dispatcher with arena := arena, activeStreams := dispatcher.activeStreams + 1 }.putStream place
      { streamId := streamId
        active := true
        headersSeen := false
        completePending := false
        headers := []
        body := body
        bodyMark := mark
        bodyMarkValid := true
        headersStop := 0
        bodyStop := arena.offset
        serial := dispatcher.trace.opened }, .ok place)

def claimStream (world : Surroundings) (streamId : Int) (dispatcher : ServerDispatcher) :
    ServerDispatcher × Except StatusCode Nat :=
  if streamId ≤ 0 then (dispatcher, .error .invalidArgument)
  else if (dispatcher.findStream streamId).isSome ∨ dispatcher.activeStreams ≥ dispatcher.config.maxStreams then
    (dispatcher, .error .capacityExceeded)
  else
    match dispatcher.streams.findIdx? (fun stream => !stream.active) with
    | none => (dispatcher, .error .capacityExceeded)
    | some place =>
      match dispatcher.reclaimBody world place with
      | (dispatcher, .error code) => (dispatcher, .error code)
      | (dispatcher, .ok ()) => dispatcher.openStream place streamId

section Events

variable (world : Surroundings) (event : DispatchEvent) (dispatcher : ServerDispatcher)

def markStreamComplete (place : Nat) : ServerDispatcher × Except StatusCode Unit :=
  let stream := dispatcher.streamAt place
  if !stream.active || !stream.headersSeen then (dispatcher, .error .invalidArgument)
  else (dispatcher.putStream place { stream with completePending := true }, .ok ())

def storeHeaders (place : Nat) : ServerDispatcher :=
  let stream := dispatcher.streamAt place
  { dispatcher with trace := { dispatcher.trace with opened := dispatcher.trace.opened + 1 } }.putStream place
    { stream with headers := event.headers, headersStop := event.stop, headersSeen := true }

def handleRequestHeaders : ServerDispatcher × Except StatusCode Unit :=
  match dispatcher.claimStream world event.streamId with
  | (dispatcher, .error _) => dispatcher.resetStream world event.streamId .refusedStream
  | (dispatcher, .ok place) =>
    let dispatcher := dispatcher.storeHeaders event place
    if event.endStream then dispatcher.markStreamComplete place else (dispatcher, .ok ())

def storeBody (place : Nat) (state : Growing.BuilderState) : ServerDispatcher :=
  let stream := dispatcher.streamAt place
  { dispatcher with arena := state.arena }.putStream place { stream with
      body := state.builder
      bodyStop := if state.builder.capacity = stream.body.capacity then stream.bodyStop else state.arena.offset }

def handleData : ServerDispatcher × Except StatusCode Unit :=
  match dispatcher.findStream event.streamId with
  | none => dispatcher.resetStream world event.streamId .streamClosed
  | some place =>
    let stream := dispatcher.streamAt place
    if stream.completePending then dispatcher.resetStream world event.streamId .streamClosed
    else
      match Growing.byteBuilderAppendBytes ⟨stream.body, dispatcher.arena⟩ event.data with
      | (state, .error _) => (dispatcher.storeBody place state).resetStream world event.streamId .refusedStream
      | (state, .ok ()) =>
        let dispatcher := dispatcher.storeBody place state
        if event.endStream then dispatcher.markStreamComplete place else (dispatcher, .ok ())

def handleStreamEnd : ServerDispatcher × Except StatusCode Unit :=
  match dispatcher.findStream event.streamId with
  | none => (dispatcher, .ok ())
  | some place => dispatcher.markStreamComplete place

def handleTrailers : ServerDispatcher × Except StatusCode Unit :=
  match dispatcher.findStream event.streamId with
  | none => dispatcher.resetStream world event.streamId .streamClosed
  | some place =>
    if !(dispatcher.streamAt place).headersSeen || !event.endStream then
      dispatcher.resetStream world event.streamId .protocolError
    else if event.headers.any fun field => isPseudo field.name then
      dispatcher.resetStream world event.streamId .protocolError
    else dispatcher.markStreamComplete place

def handleEvent : ServerDispatcher × Except StatusCode Unit :=
  match event.type with
  | .requestHeaders => dispatcher.handleRequestHeaders world event
  | .data => dispatcher.handleData world event
  | .streamEnd => dispatcher.handleStreamEnd event
  | .rstStream | .streamClose | .invalidFrame => (dispatcher.closeFound event.streamId, .ok ())
  | .headers => dispatcher.handleTrailers world event
  | .goaway => ({ dispatcher with peerGoawayReceived := true }, .ok ())
  | .settings | .responseHeaders => (dispatcher, .ok ())

end Events

lemma resetArena_backend (mark : ArenaMark) (disp : ServerDispatcher) :
    (disp.resetArena mark).1.backend = disp.backend := by
  rw [resetArena]
  split
  · rfl
  · rfl

lemma closeStream_backend (place : Nat) (disp : ServerDispatcher) :
    (disp.closeStream place).backend = disp.backend := by
  rw [closeStream]
  split
  · rfl
  · split
    · rfl
    · rfl

lemma closeFound_backend (sid : Int) (disp : ServerDispatcher) : (disp.closeFound sid).backend = disp.backend := by
  rw [closeFound]
  split
  · rfl
  · rw [closeStream_backend]

lemma resetStream_backend (world : Surroundings) (sid : Int) (code : ResetCode)
    (disp : ServerDispatcher) : (disp.resetStream world sid code).1.backend = disp.backend := by
  rw [resetStream]
  split
  · rfl
  · rw [closeFound_backend]

lemma markStreamComplete_backend (place : Nat) (disp : ServerDispatcher) :
    (disp.markStreamComplete place).1.backend = disp.backend := by
  rw [markStreamComplete]
  split
  · rfl
  · rfl

lemma reclaimBody_backend (world : Surroundings) (place : Nat) (disp : ServerDispatcher) :
    (disp.reclaimBody world place).1.backend = disp.backend := by
  have hReset := resetArena_backend (disp.streamAt place).bodyMark disp
  rw [reclaimBody]
  split
  · split
    next hFailed =>
      rw [hFailed] at hReset
      exact hReset
    next hDone =>
      rw [hDone] at hReset
      exact hReset
  · rfl

lemma openStream_backend (place : Nat) (sid : Int) (disp : ServerDispatcher) :
    (disp.openStream place sid).1.backend = disp.backend := by
  rw [openStream]
  split
  · rfl
  · rfl

lemma claimStream_backend (world : Surroundings) (sid : Int) (disp : ServerDispatcher) :
    (disp.claimStream world sid).1.backend = disp.backend := by
  rw [claimStream]
  split
  · rfl
  split
  · rfl
  split
  · rfl
  rename_i place _
  have hReclaimed := reclaimBody_backend world place disp
  split
  next hFailed =>
    rw [hFailed] at hReclaimed
    exact hReclaimed
  next hDone =>
    rw [hDone] at hReclaimed
    rw [openStream_backend]
    exact hReclaimed

lemma handleEvent_backend (world : Surroundings) (event : DispatchEvent) (disp : ServerDispatcher) :
    (disp.handleEvent world event).1.backend = disp.backend := by
  rw [handleEvent]
  split
  · have hClaimed := claimStream_backend world event.streamId disp
    rw [handleRequestHeaders]
    split
    next hRefused =>
      rw [hRefused] at hClaimed
      rw [resetStream_backend]
      exact hClaimed
    next hTaken =>
      rw [hTaken] at hClaimed
      split
      · rw [markStreamComplete_backend]
        exact hClaimed
      · exact hClaimed
  · rw [handleData]
    split
    · rw [resetStream_backend]
    dsimp only
    split
    · rw [resetStream_backend]
    split
    · rw [resetStream_backend]
      rfl
    split
    · rw [markStreamComplete_backend]
      rfl
    · rfl
  · rw [handleStreamEnd]
    split
    · rfl
    · rw [markStreamComplete_backend]
  · rw [closeFound_backend]
  · rw [closeFound_backend]
  · rw [closeFound_backend]
  · rw [handleTrailers]
    split
    · rw [resetStream_backend]
    split
    · rw [resetStream_backend]
    · split
      · rw [resetStream_backend]
      · rw [markStreamComplete_backend]
  · rfl
  · rfl
  · rfl

/-- The event that is handled stays in the list until it is done. -/
def handleEvents (world : Surroundings) : List DispatchEvent → ServerDispatcher →
    ServerDispatcher × Except StatusCode Unit
  | [], dispatcher => ({ dispatcher with events := [] }, .ok ())
  | event :: rest, dispatcher =>
    match { dispatcher with events := event :: rest }.handleEvent world event with
    | (dispatcher, .error code) => ({ dispatcher with events := [] }, .error code)
    | (dispatcher, .ok ()) => handleEvents world rest dispatcher

def flushPlaces (world : Surroundings) : List Nat → ServerDispatcher → ServerDispatcher × Except StatusCode Unit
  | [], dispatcher => (dispatcher, .ok ())
  | place :: rest, dispatcher =>
    if (dispatcher.streamAt place).active && (dispatcher.streamAt place).completePending then
      match dispatcher.completeStream world place with
      | (dispatcher, .error code) => (dispatcher, .error code)
      | (dispatcher, .ok ()) => flushPlaces world rest dispatcher
    else flushPlaces world rest dispatcher

def flushCompletedStreams (world : Surroundings) (dispatcher : ServerDispatcher) :
    ServerDispatcher × Except StatusCode Unit :=
  flushPlaces world (List.range dispatcher.config.maxStreams) dispatcher

def processPending (world : Surroundings) (dispatcher : ServerDispatcher) :
    ServerDispatcher × Except StatusCode Unit :=
  match handleEvents world dispatcher.events dispatcher with
  | (dispatcher, .error code) => (dispatcher, .error code)
  | (dispatcher, .ok ()) => dispatcher.flushCompletedStreams world

/-- Storage that the session takes, and the event that is complete with it, if any. -/
structure Delivery where
  taken : Nat
  event : Option DispatchEvent
  deriving DecidableEq

/-- Events without a payload have no storage. -/
def Delivery.place (delivery : Delivery) (offset : Nat) : List DispatchEvent :=
  match delivery.event with
  | none => []
  | some event => [{ event with stop := if event.headers.isEmpty && event.data.isEmpty then 0 else offset }]

def deliver : List Delivery → ServerDispatcher → ServerDispatcher × Except StatusCode Unit
  | [], dispatcher => (dispatcher, .ok ())
  | delivery :: rest, dispatcher =>
    match (if delivery.taken = 0 then (dispatcher.arena, .ok 0) else arenaAlloc dispatcher.arena delivery.taken 1) with
    | (_, .error code) => (dispatcher, .error code)
    | (arena, .ok _) =>
      deliver rest { dispatcher with arena := arena, events := dispatcher.events ++ delivery.place arena.offset }

def noteCall (dispatcher : ServerDispatcher) : ServerDispatcher := { dispatcher with calls := dispatcher.calls + 1 }

/-- The call of the session: what it delivers, and its own failure afterwards. -/
def sessionReceive (delivered : List Delivery) (failure : Option StatusCode) (dispatcher : ServerDispatcher) :
    ServerDispatcher × Except StatusCode Unit :=
  match deliver delivered dispatcher with
  | (dispatcher, .error code) => (dispatcher.noteCall, .error code)
  | (dispatcher, .ok ()) =>
    match failure with
    | some code => (dispatcher.noteCall, .error code)
    | none => (dispatcher.noteCall, .ok ())

def receive (world : Surroundings) (delivered : List Delivery) (failure : Option StatusCode)
    (dispatcher : ServerDispatcher) : ServerDispatcher × Except StatusCode Unit :=
  let dispatcher :=
    if dispatcher.canClearSessionEvents world then dispatcher.clearEvents.forgetStreamBodyMarks else dispatcher
  match dispatcher.sessionReceive delivered failure with
  | (dispatcher, .error code) => (dispatcher, .error code)
  | (dispatcher, .ok ()) => dispatcher.processPending world

def noteOpened (dispatcher : ServerDispatcher) : ServerDispatcher :=
  { dispatcher with trace := { dispatcher.trace with opened := dispatcher.trace.opened + 1 } }

/-- The request that is upgraded has the stream 1, which no slot carries, and takes the next number. -/
def answerUpgrade (world : Surroundings) (request : RequestLifecycle) (dispatcher : ServerDispatcher) :
    ServerDispatcher × Except StatusCode Unit :=
  dispatcher.noteOpened.submitResponseForRequest world dispatcher.trace.opened 1 request

/-- The session is called for the settings of the request here, and can deliver events as on a receive. The request
was read by HTTP/1 into the arena of the dispatcher. -/
def upgradeH2c (world : Surroundings) (delivered : List Delivery) (failure : Option StatusCode)
    (request : RequestLifecycle) (dispatcher : ServerDispatcher) : ServerDispatcher × Except StatusCode Unit :=
  match dispatcher.receive world delivered failure with
  | (dispatcher, .error code) => (dispatcher, .error code)
  | (dispatcher, .ok ()) => dispatcher.answerUpgrade world request

def drainOutput (sent : List (List UInt8)) (dispatcher : ServerDispatcher) :
    ServerDispatcher × Except StatusCode Unit :=
  match Growing.byteBuilderAppendAll ⟨{ dispatcher.outbound with content := [] }, dispatcher.arena⟩ sent with
  | (state, result) =>
    ({ dispatcher with
        outbound := state.builder
        outboundStop :=
          if state.builder.capacity = dispatcher.outbound.capacity then dispatcher.outboundStop
          else state.arena.offset
        arena := state.arena }.noteCall, result)

inductive Call where
  | receive (delivered : List Delivery) (failure : Option StatusCode)
  | processPending
  | drainOutput (sent : List (List UInt8))
  | upgradeH2c (delivered : List Delivery) (failure : Option StatusCode) (request : RequestLifecycle)
  deriving DecidableEq

def step (world : Surroundings) (dispatcher : ServerDispatcher) : Call → ServerDispatcher × Except StatusCode Unit
  | .receive delivered failure => dispatcher.receive world delivered failure
  | .processPending => dispatcher.processPending world
  | .drainOutput sent => dispatcher.drainOutput sent
  | .upgradeH2c delivered failure request => dispatcher.upgradeH2c world delivered failure request

def runCalls (world : Surroundings) (dispatcher : ServerDispatcher) (calls : List Call) : ServerDispatcher :=
  calls.foldl (fun dispatcher call => (dispatcher.step world call).1) dispatcher

end ServerDispatcher

end Sloppy.Http2
