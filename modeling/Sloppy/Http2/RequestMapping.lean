import Sloppy.Core.Room
import Sloppy.Stream.Adapters
import Sloppy.Backend.Lifecycle

/-! # Requests and responses as HTTP/2 header fields

The mapping between header fields and the protocol-independent records (`http2_mapping.c`). A request is begun on its
connection after its fields were read; from then on a failure also fails the request, which clears the diagnostic.
-/

namespace Sloppy.Http2

open Http Growing Lib Lib.Decimal Sloppy.Stream Backend

structure HeaderField where
  name : List UInt8
  value : List UInt8
  sensitive : Bool
  deriving DecidableEq

def mappingStatusSupported (status : UInt16) : Bool :=
  match status.toNat with
  | 200 | 201 | 202 | 204 | 304 | 400 | 404 | 405 | 408 | 413 | 415 | 417 | 500 | 501 => true
  | _ => false

/-- As for HTTP/1, without the upper-case letters. -/
def fieldNameCharValid (b : UInt8) : Bool :=
  ('a'.toUInt8 ≤ b && b ≤ 'z'.toUInt8) || ('0'.toUInt8 ≤ b && b ≤ '9'.toUInt8) || headerNameSymbols.contains b

def fieldNameValid (name : List UInt8) : Bool := !name.isEmpty && name.all fieldNameCharValid

/-- The test of `http_response.c`, which `http2_mapping.c` repeats. -/
def fieldValueValid (value : List UInt8) : Bool := headerValueValid value

def responseHeaderManaged (name : List UInt8) : Bool :=
  equalCiAscii name (literal "connection") || equalCiAscii name (literal "keep-alive") ||
    equalCiAscii name (literal "content-type") || equalCiAscii name (literal "transfer-encoding") ||
    equalCiAscii name (literal "content-length") || equalCiAscii name (literal "upgrade") ||
    equalCiAscii name (literal "proxy-connection")

/-- A number of 64 bits has at most 20 digits; they and a zero byte must fit the buffer. -/
def stringFormatU64 (capacity value : Nat) : Except StatusCode (List UInt8) :=
  let digits := decimal 20 value
  if capacity ≤ digits.length then .error .invalidArgument else .ok digits

def copyH2Header (name value : List UInt8) : Action Arena StatusCode HeaderField := do
  let copiedName ← strCopyViewToArena name
  let copiedValue ← strCopyViewToArena value
  pure ⟨copiedName, copiedValue, false⟩

variable (response : Response)

/-- The reads of the adapter are those of a stream over its chunks in memory. -/
def responseStreamReadableInit (options : StreamOptions) : Except StatusCode ReadableStream :=
  if response.kind ≠ .stream then .error .wrongResourceKind
  else
    match streamValidateAndMeasure response with
    | .error code => .error code
    | .ok _ => .ok (memoryReadableStreamInit response.streamChunks (some options))

/-- Reads to the end of the stream. Every read but the last gives at least one byte, so the unread bytes
bound the rounds. -/
def drainReadable : Nat → ReadableStream → Action BuilderState StatusCode Unit
  | 0, _ => Action.fail .internal
  | rounds + 1, readable =>
    match readableStreamRead readable none with
    | (.eof, _, _) => pure ()
    | (.ok, bytes, readable) => do
      appendStr bytes
      drainReadable rounds readable
    | (status, _, _) => fun state => (state, streamStatusToStatus status)

def responseStreamOptions (maxBodyBytes : Nat) : StreamOptions where
  maxChunkBytes := if maxBodyBytes = 0 then streamDefaultMaxChunkBytes else maxBodyBytes
  maxBufferedBytes := maxBodyBytes
  maxChunks := if response.streamChunks.length = 0 then 1 else response.streamChunks.length

def inBuilder (builder : Growing.ByteBuilder) (call : Action BuilderState StatusCode Unit) :
    Action Arena StatusCode (List UInt8) := fun arena =>
  match call ⟨builder, arena⟩ with
  | (state, .error code) => (state.arena, .error code)
  | (state, .ok ()) => (state.arena, .ok state.builder.content)

def responseStreamBody (maxBodyBytes : Nat) : Action Arena StatusCode (List UInt8) := do
  let builder ← fun arena => byteBuilderInitArena arena 256 maxBodyBytes
  let readable ← Action.ofExcept (responseStreamReadableInit response (responseStreamOptions response maxBodyBytes))
  inBuilder builder (drainReadable (response.streamChunks.flatten.length + 1) readable)

def responseBody (suppressBody : Bool) (maxBodyBytes : Nat) : Action Arena StatusCode (List UInt8) :=
  if suppressBody = true ∨ statusHasNoBody response.status = true then pure []
  else if response.kind = .stream then responseStreamBody response maxBodyBytes
  else if maxBodyBytes < response.body.length then Action.fail .capacityExceeded
  else pure response.body

def fieldBytes : Except StatusCode Nat := do
  let capacity ← checkedAddSize response.headers.length 1
  let capacity ← checkedAddSize capacity (if response.contentType.length = 0 then 0 else 1)
  let capacity ← checkedAddSize capacity (if statusHasNoBody response.status then 0 else 1)
  checkedMulSize capacity 40

def copyResponseHeaders : List Header → Action Arena StatusCode (List HeaderField)
  | [] => pure []
  | header :: rest =>
    if !fieldNameValid header.name || !fieldValueValid header.value || responseHeaderManaged header.name then
      Action.fail .invalidArgument
    else do
      let field ← copyH2Header header.name header.value
      let fields ← copyResponseHeaders rest
      pure (field :: fields)

def copyFieldIf (condition : Bool) (name : List UInt8) (value : Except StatusCode (List UInt8)) :
    Action Arena StatusCode (List HeaderField) :=
  if condition then do
    let text ← Action.ofExcept value
    let field ← copyH2Header name text
    pure [field]
  else pure []

def responseToHeaders (suppressBody : Bool) (maxBodyBytes : Nat) :
    Action Arena StatusCode (List HeaderField × List UInt8) :=
  if !mappingStatusSupported response.status || !fieldValueValid response.contentType then
    Action.fail .invalidArgument
  else do
    let body ← responseBody response suppressBody maxBodyBytes
    let size ← Action.ofExcept (fieldBytes response)
    arenaTake size 8
    let status ← copyFieldIf true (literal ":status") (stringFormatU64 8 response.status.toNat)
    let type ← copyFieldIf (!statusHasNoBody response.status && response.contentType.length != 0)
      (literal "content-type") (.ok response.contentType)
    let headers ← copyResponseHeaders response.headers
    let length ← copyFieldIf (!statusHasNoBody response.status) (literal "content-length")
      (stringFormatU64 32 (if suppressBody then response.body.length else body.length))
    pure (status ++ (type ++ (headers ++ length)), body)

def requestHeaderForbidden (name value : List UInt8) : Bool :=
  equalCiAscii name (literal "connection") || equalCiAscii name (literal "keep-alive") ||
    equalCiAscii name (literal "proxy-connection") || equalCiAscii name (literal "transfer-encoding") ||
    equalCiAscii name (literal "upgrade") ||
    (equalCiAscii name (literal "te") && !equalCiAscii value (literal "trailers"))

def digitsValue : Nat → List UInt8 → Option Nat
  | result, [] => some result
  | result, b :: rest =>
    if b < '0'.toUInt8 || '9'.toUInt8 < b then none
    else if (sizeMax - (b - '0'.toUInt8).toNat) / 10 < result then none
    else digitsValue (result * 10 + (b - '0'.toUInt8).toNat) rest

def parseDecimalSize (value : List UInt8) : Option Nat :=
  if value.length = 0 then none else digitsValue 0 value

/-- The limits of the connection's backend; those of zero stand for the defaults. -/
def http2EffectiveParseOptions (backend : HttpBackend) (connection : Backend.Connection) : ParseOptions :=
  if connection.attached then effectiveParseOptions backend.options.parse else defaultParseOptions

/-- What the fields read so far say. -/
structure RequestFields where
  method : List UInt8
  scheme : List UInt8
  target : List UInt8
  authority : List UInt8
  host : List UInt8
  contentType : Option (List UInt8)
  contentLength : Option Nat
  regularSeen : Bool
  regularCount : Nat
  totalBytes : Nat
  deriving DecidableEq

def RequestFields.zero : RequestFields := ⟨[], [], [], [], [], none, none, false, 0, 0⟩

variable (fields : RequestFields)

/-- A pseudo header stands before all others, and once unless it is empty. -/
def readPseudo (current : List UInt8) (read : RequestFields) : Except StatusCode RequestFields :=
  if fields.regularSeen || !current.isEmpty then .error .invalidArgument else .ok read

def readContentLength (field : HeaderField) : Except StatusCode RequestFields :=
  if equalCiAscii field.name (literal "content-length") then
    if fields.contentLength.isSome then .error .invalidArgument
    else
      match parseDecimalSize field.value with
      | none => .error .invalidArgument
      | some length => .ok { fields with contentLength := some length }
  else .ok fields

def readHost (field : HeaderField) : Except StatusCode RequestFields :=
  if equalCiAscii field.name (literal "host") then
    if !fields.host.isEmpty then .error .invalidArgument else .ok { fields with host := field.value }
  else .ok fields

def readContentType (field : HeaderField) : RequestFields :=
  if equalCiAscii field.name (literal "content-type") then { fields with contentType := some field.value } else fields

def isPseudo (name : List UInt8) : Bool := name.head? == some ':'.toUInt8

def readRegular (field : HeaderField) : Except StatusCode RequestFields :=
  if isPseudo field.name || !fieldNameValid field.name || !fieldValueValid field.value ||
      requestHeaderForbidden field.name field.value then .error .invalidArgument
  else
    match readContentLength (readContentType { fields with regularSeen := true } field) field with
    | .error code => .error code
    | .ok fields =>
      match readHost fields field with
      | .error code => .error code
      | .ok fields => .ok { fields with regularCount := fields.regularCount + 1 }

def readField (limits : ParseOptions) (fields : RequestFields) (field : HeaderField) :
    Except StatusCode RequestFields :=
  if field.name.length > limits.maxHeaderNameLength ∨ field.value.length > limits.maxHeaderValueLength ∨
      field.name.length > sizeMax - field.value.length ∨
      fields.totalBytes > sizeMax - (field.name.length + field.value.length) then .error .invalidArgument
  else if fields.totalBytes + (field.name.length + field.value.length) > limits.maxTotalHeaderBytes then
    .error .capacityExceeded
  else
    let fields := { fields with totalBytes := fields.totalBytes + (field.name.length + field.value.length) }
    if field.name = literal ":method" then readPseudo fields fields.method { fields with method := field.value }
    else if field.name = literal ":scheme" then readPseudo fields fields.scheme { fields with scheme := field.value }
    else if field.name = literal ":path" then readPseudo fields fields.target { fields with target := field.value }
    else if field.name = literal ":authority" then
      readPseudo fields fields.authority { fields with authority := field.value }
    else readRegular fields field

def readFields (limits : ParseOptions) : RequestFields → List HeaderField → Except StatusCode RequestFields
  | fields, [] => .ok fields
  | fields, field :: rest =>
    match readField limits fields field with
    | .error code => .error code
    | .ok fields => readFields limits fields rest

def RequestFields.effectiveAuthority : List UInt8 :=
  if fields.authority.isEmpty then fields.host else fields.authority

/-- The fields make up a request of this body on a connection of this scheme. -/
def requestFieldsValid (limits : ParseOptions) (scheme : List UInt8) (bodyLength : Nat) (fields : RequestFields) :
    Bool :=
  !fields.method.isEmpty && !fields.scheme.isEmpty && !fields.target.isEmpty &&
    fields.target.head? == some '/'.toUInt8 && decide (fields.target.length ≤ limits.maxTargetLength) &&
    (fields.scheme == literal "http" || fields.scheme == literal "https") &&
    (scheme.isEmpty || fields.scheme == scheme) && !equalCiAscii fields.method (literal "CONNECT") &&
    !(fields.authority.isEmpty && fields.host.isEmpty) &&
    (fields.authority.isEmpty || fields.host.isEmpty || fields.host == fields.authority) &&
    fields.contentLength.all (· == bodyLength)

section Request

structure Places where
  connection : Nat
  arena : Nat
  request : Nat

variable {Value : Type}

def onArena (call : Action Arena StatusCode Value) : Action ReaderScope Failure Value := fun s =>
  match call s.arena with
  | (arena, .error code) => ({ s with arena := arena }, .error ⟨code, none⟩)
  | (arena, .ok value) => ({ s with arena := arena }, .ok value)

def onScope (call : RequestScope → RequestScope × Except Failure Unit) : Action ReaderScope Failure Unit := fun s =>
  match call s.scope with
  | (scope, result) => ({ s with scope := scope }, result)

def ofStatus (result : Except StatusCode Value) : Action ReaderScope Failure Value := fun s =>
  match result with
  | .error code => (s, .error ⟨code, none⟩)
  | .ok value => (s, .ok value)

def updateHead (update : RequestHead → RequestHead) : Action ReaderScope Failure Unit :=
  onScope fun scope => (scope.setHead (update scope.request.head), .ok ())

def failing (call : Action ReaderScope Failure Value) : Action ReaderScope Failure Value := fun s =>
  match call s with
  | (s, .error failure) => ({ s with scope := (requestFail s.scope).1 }, .error ⟨failure.status, none⟩)
  | (s, .ok value) => (s, .ok value)

def beginRequest (places : Places) : Action ReaderScope Failure Unit :=
  onScope fun scope =>
    match scope.connection with
    | none => (scope, .error invalidArgument)
    | some connection =>
      match requestBegin scope.backend places.connection connection places.arena with
      | (backend, connection, request, result) => (⟨backend, some connection, request⟩, result)

def copyHeader (name value : List UInt8) : Action Arena StatusCode Header := do
  let copiedName ← strCopyViewToArena name
  let copiedValue ← strCopyViewToArena value
  pure ⟨copiedName, copiedValue⟩

/-- The pseudo headers and the host have no place among the copied fields. -/
def isCopied (authority : List UInt8) (field : HeaderField) : Bool :=
  !isPseudo field.name && !(!authority.isEmpty && equalCiAscii field.name (literal "host"))

def copyFields : List HeaderField → Action Arena StatusCode (List Header)
  | [] => pure []
  | field :: rest => do
    let header ← copyHeader field.name field.value
    let headers ← copyFields rest
    pure (header :: headers)

/-- The host of the request first, then the fields. -/
def copyRequestHeaders (authority : List UInt8) (headers : List HeaderField) : Action Arena StatusCode (List Header) :=
  if authority.isEmpty then copyFields (headers.filter (isCopied authority))
  else do
    let host ← copyHeader (literal "host") authority
    let rest ← copyFields (headers.filter (isCopied authority))
    pure (host :: rest)

def pathFromTarget (target : List UInt8) : List UInt8 := target.takeWhile (· != '?'.toUInt8)

def readBody (places : Places) (contentType : Option (List UInt8)) (body : List UInt8) :
    Action ReaderScope Failure Unit := do
  (fun s => requestBodyReaderBegin s.scope s.arena places.request
    (contentType.getD (literal "application/octet-stream")) body.length : Action ReaderScope Failure Unit)
  (fun s => requestBodyReaderAppend s body : Action ReaderScope Failure Unit)
  (fun s => requestBodyReaderFinish s : Action ReaderScope Failure Unit)

def takeHeaderArray (count : Nat) : Action ReaderScope Failure Unit :=
  if count = 0 then pure ()
  else do
    let size ← ofStatus (checkedMulSize count 32)
    onArena (arenaTake size 8)

def fillRequest (places : Places) (limits : ParseOptions) (fields : RequestFields) (headers : List HeaderField)
    (body : List UInt8) : Action ReaderScope Failure Unit := do
  let method ← ofStatus (httpMethodFromStr fields.method)
  updateHead fun head => { head with method := method }
  let count := fields.regularCount + if fields.effectiveAuthority.isEmpty then 0 else 1
  Action.onlyIf (decide (limits.maxHeaders < count)) (Action.fail ⟨.capacityExceeded, none⟩)
  takeHeaderArray count
  let copied ← onArena (copyRequestHeaders fields.effectiveAuthority headers)
  let rawTarget ← onArena (strCopyViewToArena fields.target)
  updateHead fun head => { head with rawTarget := rawTarget }
  let path ← onArena (strCopyViewToArena (pathFromTarget fields.target))
  updateHead fun head => { head with path := path }
  onScope fun scope => requestHeadMapped scope
    { scope.request.head with versionMajor := 2, versionMinor := 0, headers := copied }
  readBody places fields.contentType body

/-- The state holds the backend, the connection, the storage of the request, its arena and the reader. -/
def requestFromHeaders (places : Places) (headers : List HeaderField) (body : List UInt8) :
    Action ReaderScope Failure Unit := fun s =>
  match s.scope.connection with
  | none => (s, .error invalidArgument)
  | some connection =>
    let limits := http2EffectiveParseOptions s.scope.backend connection
    if headers.length > (limits.maxHeaders + 4) % (sizeMax + 1) ∨ body.length > limits.maxBodyLength then
      (s, .error ⟨.capacityExceeded, none⟩)
    else
      match readFields limits .zero headers with
      | .error code => (s, .error ⟨code, none⟩)
      | .ok fields =>
        if requestFieldsValid limits connection.scheme body.length fields = false then (s, .error invalidArgument)
        else (do
          beginRequest places
          failing (fillRequest places limits fields headers body) : Action ReaderScope Failure Unit) s

end Request

end Sloppy.Http2
