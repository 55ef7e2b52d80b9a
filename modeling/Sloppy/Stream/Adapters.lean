import Sloppy.Core.Builder

/-! # Memory streams

The states of `stream.h`, the readable stream over a list of chunks and the writable stream over a fixed buffer. A
cancellation token is read once per call, so it is an argument. Source chunks are never inside the sink's buffer.
-/

namespace Sloppy.Stream

inductive StreamState where
  | none | opened | ended | closed | failed | aborted | cancelled
  deriving DecidableEq

inductive StreamStatus where
  | ok | eof | wouldBlock | backpressure | capacityExceeded | closed | failed | aborted | cancelled | deadlineExceeded
  | invalidArgument | invalidState | unsupported
  deriving DecidableEq

inductive CancellationReason where
  | none | cancelled | deadlineExceeded | backpressure | shutdown
  deriving DecidableEq

/-- A cancellation token as a call sees it: absent, not cancelled, or cancelled for a reason. -/
structure CancellationToken where
  isCancelled : Bool
  reason : CancellationReason
  deriving DecidableEq

structure StreamOptions where
  maxChunkBytes : Nat
  maxBufferedBytes : Nat
  maxChunks : Nat
  deriving DecidableEq

def streamDefaultMaxChunkBytes : Nat := 65536

def streamDefaultMaxBufferedBytes : Nat := 131072

def streamDefaultMaxChunks : Nat := 1024

def streamDefaultOptions : StreamOptions :=
  ⟨streamDefaultMaxChunkBytes, streamDefaultMaxBufferedBytes, streamDefaultMaxChunks⟩

def streamNormalizeOptions (options : Option StreamOptions) : StreamOptions :=
  let normalized := options.getD streamDefaultOptions
  { maxChunkBytes :=
      if normalized.maxChunkBytes = 0 then streamDefaultMaxChunkBytes else normalized.maxChunkBytes
    maxBufferedBytes :=
      if normalized.maxBufferedBytes = 0 then streamDefaultMaxBufferedBytes
      else normalized.maxBufferedBytes
    maxChunks := if normalized.maxChunks = 0 then streamDefaultMaxChunks else normalized.maxChunks }

def streamStatusFromCancellation : Option CancellationToken → StreamStatus
  | .none => .ok
  | .some token =>
    if !token.isCancelled then .ok
    else
      match token.reason with
      | .deadlineExceeded => .deadlineExceeded
      | .backpressure => .backpressure
      | _ => .cancelled

def streamStateWriteStatus : StreamState → StreamStatus
  | .opened => .ok
  | .ended | .closed => .closed
  | .failed => .failed
  | .aborted => .aborted
  | .cancelled => .cancelled
  | .none => .invalidState

def streamStateReadStatus : StreamState → StreamStatus
  | .opened => .ok
  | .ended => .eof
  | .closed => .closed
  | .failed => .failed
  | .aborted => .aborted
  | .cancelled => .cancelled
  | .none => .invalidState

def streamStatusToStatus : StreamStatus → Except StatusCode Unit
  | .ok | .eof => .ok ()
  | .backpressure | .capacityExceeded => .error .capacityExceeded
  | .cancelled => .error .cancelled
  | .deadlineExceeded => .error .deadlineExceeded
  | .invalidArgument => .error .invalidArgument
  | .unsupported => .error .unsupported
  | _ => .error .invalidState

def readableStateAfter (state : StreamState) : StreamStatus → StreamState
  | .eof => .ended
  | .cancelled | .deadlineExceeded => .cancelled
  | _ => state

def writableStateAfter (state : StreamState) : StreamStatus → StreamState
  | .cancelled | .deadlineExceeded => .cancelled
  | _ => state

structure StreamStats where
  bytesRead : Nat
  bytesWritten : Nat
  chunksRead : Nat
  chunksWritten : Nat
  backpressureHits : Nat
  drainCount : Nat
  bufferedBytes : Nat
  highWaterMark : Nat
  state : StreamState
  lastStatus : StreamStatus
  deriving DecidableEq

def freshStats : StreamStats := ⟨0, 0, 0, 0, 0, 0, 0, 0, .opened, .ok⟩

/-- The 64-bit counters of the statistics wrap. -/
def counterAdd (counter amount : Nat) : Nat := (counter + amount) % 2 ^ 64

structure StreamError where
  code : StreamStatus
  status : Except StatusCode Unit
  message : String

def noError : StreamError := ⟨.ok, .ok (), ""⟩

structure MemoryReadableStream where
  chunks : List (List UInt8)
  chunkIndex : Nat
  chunkOffset : Nat

structure ReadableStream where
  adapter : MemoryReadableStream
  state : StreamState
  stats : StreamStats
  error : StreamError
  maxChunkBytes : Nat

structure MemoryWritableStream where
  buffer : List UInt8
  capacity : Nat
  length : Nat
  highWaterMark : Nat

structure WritableStream where
  adapter : MemoryWritableStream
  state : StreamState
  stats : StreamStats
  error : StreamError
  maxChunkBytes : Nat
  maxBufferedBytes : Nat

structure BackpressureState where
  writable : Bool
  bufferedBytes : Nat
  availableBytes : Nat
  highWaterMark : Nat
  backpressureHits : Nat
  deriving DecidableEq

structure StreamWriteResult where
  status : StreamStatus
  bytesWritten : Nat
  backpressure : BackpressureState
  deriving DecidableEq

def chunkReadFrom (maxChunkBytes : Nat) : List (List UInt8) → Nat → Nat → StreamStatus × List UInt8 × Nat × Nat
  | [], index, offset => (.eof, [], index, offset)
  | source :: rest, index, offset =>
    if source.length ≤ offset then chunkReadFrom maxChunkBytes rest (index + 1) 0
    else
      let length := if maxChunkBytes < source.length - offset then maxChunkBytes
        else source.length - offset
      let bytes := (source.drop offset).take length
      if source.length ≤ offset + length then (.ok, bytes, index + 1, 0)
      else (.ok, bytes, index, offset + length)

def memoryReadableRead (adapter : MemoryReadableStream) (maxChunkBytes : Nat) :
    StreamStatus × List UInt8 × MemoryReadableStream :=
  let (status, bytes, index, offset) := chunkReadFrom maxChunkBytes
    (adapter.chunks.drop adapter.chunkIndex) adapter.chunkIndex adapter.chunkOffset
  (status, bytes, { adapter with chunkIndex := index, chunkOffset := offset })

def memoryReadableStreamInit (chunks : List (List UInt8)) (options : Option StreamOptions) : ReadableStream :=
  ⟨⟨chunks, 0, 0⟩, .opened, freshStats, noError, (streamNormalizeOptions options).maxChunkBytes⟩

def readableStreamSetStatus (stream : ReadableStream) (status : StreamStatus) : ReadableStream :=
  { stream with
    state := readableStateAfter stream.state status
    stats := { stream.stats with
      lastStatus := status, state := readableStateAfter stream.state status } }

def readableStreamRead (stream : ReadableStream) (token : Option CancellationToken) :
    StreamStatus × List UInt8 × ReadableStream :=
  if streamStateReadStatus stream.state ≠ .ok then
    let status := streamStateReadStatus stream.state
    (status, [], readableStreamSetStatus stream status)
  else if streamStatusFromCancellation token ≠ .ok then
    let status := streamStatusFromCancellation token
    (status, [], readableStreamSetStatus stream status)
  else
    let (status, bytes, adapter) := memoryReadableRead stream.adapter stream.maxChunkBytes
    if status = .ok ∧ stream.maxChunkBytes < bytes.length then
      (.invalidState, bytes, readableStreamSetStatus { stream with adapter } .invalidState)
    else if status = .ok ∧ bytes.length ≠ 0 then
      let stats := { stream.stats with
        bytesRead := counterAdd stream.stats.bytesRead bytes.length
        chunksRead := counterAdd stream.stats.chunksRead 1 }
      (status, bytes, readableStreamSetStatus { stream with adapter, stats } status)
    else (status, bytes, readableStreamSetStatus { stream with adapter } status)

def readableStreamClose (stream : ReadableStream) : StreamStatus × ReadableStream :=
  if stream.state = .closed ∨ stream.state = .ended then (.ok, stream)
  else if stream.state ≠ .opened then (.invalidState, stream)
  else (.ok, readableStreamSetStatus { stream with state := .closed } .ok)

def readableStreamFail (stream : ReadableStream) (code : StreamStatus) (message : String) :
    StreamStatus × ReadableStream :=
  if code = .ok ∨ code = .eof then (.invalidArgument, stream)
  else if stream.state ≠ .opened then (.invalidState, stream)
  else (code, readableStreamSetStatus { stream with
    state := .failed, error := ⟨code, streamStatusToStatus code, message⟩ } code)

def readableStreamAbort (stream : ReadableStream) : StreamStatus × ReadableStream :=
  if stream.state = .aborted then (.ok, stream)
  else if stream.state ≠ .opened then (.invalidState, stream)
  else (.aborted, readableStreamSetStatus { stream with state := .aborted } .aborted)

variable (stream : WritableStream)

def effectiveCapacity : Nat :=
  if stream.adapter.capacity < stream.maxBufferedBytes then stream.adapter.capacity
  else stream.maxBufferedBytes

def writableStreamBackpressure : BackpressureState :=
  let available := if stream.adapter.length < effectiveCapacity stream then
    effectiveCapacity stream - stream.adapter.length else 0
  { writable := available ≠ 0 ∧ stream.state = .opened
    bufferedBytes := stream.adapter.length
    availableBytes := available
    highWaterMark := stream.adapter.highWaterMark
    backpressureHits := stream.stats.backpressureHits }

/-- The adapter after its buffer was written: both high water marks follow the new length. -/
def memoryWritableStored (builder : ByteBuilder) : WritableStream :=
  let highWaterMark := if stream.adapter.highWaterMark < builder.length then builder.length
    else stream.adapter.highWaterMark
  { stream with
    adapter := { stream.adapter with
      buffer := builder.data, length := builder.length, highWaterMark }
    stats := { stream.stats with
      bufferedBytes := builder.length
      highWaterMark := if stream.stats.highWaterMark < highWaterMark then highWaterMark
        else stream.stats.highWaterMark } }

/-- The adapter's write: its status, the bytes it took, and the stream after it. -/
def memoryWritableWrite (chunk : List UInt8) : StreamStatus × Nat × WritableStream :=
  if chunk.length = 0 then (.ok, 0, stream)
  else if effectiveCapacity stream < stream.adapter.length then (.capacityExceeded, 0, stream)
  else
    let available := effectiveCapacity stream - stream.adapter.length
    if available = 0 then (.backpressure, 0, stream)
    else
      let writeLength := if available < chunk.length then available else chunk.length
      let builder := byteBuilderInitFixed stream.adapter.buffer (effectiveCapacity stream)
      match byteBuilderAppendBytes builder (.within 0 stream.adapter.length) with
      | .error _ => (.invalidState, 0, stream)
      | .ok builder =>
        match byteBuilderAppendBytes builder (.outside (chunk.take writeLength)) with
        | .error _ => (.capacityExceeded, 0, stream)
        | .ok builder =>
          (if writeLength = chunk.length then .ok else .backpressure, writeLength,
            memoryWritableStored stream builder)

def memoryWritableDrain (bytes : Nat) : StreamStatus × WritableStream :=
  if stream.adapter.length < bytes then (.invalidArgument, stream)
  else if bytes ≠ 0 ∧ stream.adapter.length ≠ 0 then
    let builder := byteBuilderInitFixed stream.adapter.buffer stream.adapter.capacity
    match byteBuilderAppendBytes builder (.within bytes (stream.adapter.length - bytes)) with
    | .error _ => (.invalidState, stream)
    | .ok builder => (.ok, { stream with
        adapter := { stream.adapter with buffer := builder.data, length := builder.length }
        stats := { stream.stats with bufferedBytes := builder.length } })
  else (.ok, { stream with
    stats := { stream.stats with bufferedBytes := stream.adapter.length } })

def memoryWritableStreamInit (buffer : List UInt8) (options : Option StreamOptions) : WritableStream :=
  ⟨⟨buffer, buffer.length, 0, 0⟩, .opened, freshStats, noError, (streamNormalizeOptions options).maxChunkBytes,
    (streamNormalizeOptions options).maxBufferedBytes⟩

def memoryWritableStreamView (adapter : MemoryWritableStream) : List UInt8 :=
  adapter.buffer.take adapter.length

def writableStreamSetStatus (status : StreamStatus) : WritableStream :=
  { stream with
    state := writableStateAfter stream.state status
    stats := { stream.stats with
      lastStatus := status, state := writableStateAfter stream.state status } }

/-- The check of an adapter's answer: more bytes than offered, bytes with a failure, or success
without progress are an invalid state that reports no bytes. -/
def checkedWrite (chunkLength : Nat) (status : StreamStatus) (bytesWritten : Nat) : StreamStatus × Nat :=
  if chunkLength < bytesWritten ∨ (status ≠ .ok ∧ status ≠ .backpressure ∧ bytesWritten ≠ 0) ∨
      (status = .ok ∧ chunkLength ≠ 0 ∧ bytesWritten = 0) then (.invalidState, 0)
  else (status, bytesWritten)

def writeStats (stats : StreamStats) (status : StreamStatus) (bytesWritten : Nat) : StreamStats :=
  let counted := if status = .ok ∨ status = .backpressure then { stats with
    bytesWritten := counterAdd stats.bytesWritten bytesWritten
    chunksWritten := if bytesWritten ≠ 0 then counterAdd stats.chunksWritten 1
      else stats.chunksWritten } else stats
  if status = .backpressure ∨ status = .capacityExceeded then
    { counted with backpressureHits := counterAdd stats.backpressureHits 1 }
  else counted

def noBackpressure : BackpressureState := ⟨false, 0, 0, 0, 0⟩

def writableStreamWrite (chunk : List UInt8)
    (token : Option CancellationToken) : StreamWriteResult × WritableStream :=
  if stream.maxChunkBytes < chunk.length then
    (⟨.capacityExceeded, 0, noBackpressure⟩, stream)
  else if streamStateWriteStatus stream.state ≠ .ok then
    let status := streamStateWriteStatus stream.state
    (⟨status, 0, noBackpressure⟩, writableStreamSetStatus stream status)
  else if streamStatusFromCancellation token ≠ .ok then
    let status := streamStatusFromCancellation token
    (⟨status, 0, noBackpressure⟩, writableStreamSetStatus stream status)
  else
    let (answer, taken, written) := memoryWritableWrite stream chunk
    let (status, bytesWritten) := checkedWrite chunk.length answer taken
    let counted := { written with stats := writeStats written.stats status bytesWritten }
    (⟨status, bytesWritten, writableStreamBackpressure counted⟩, writableStreamSetStatus counted status)

def writableStreamDrain (bytes : Nat) : StreamStatus × WritableStream :=
  let (status, drained) := memoryWritableDrain stream bytes
  let counted := if status = .ok then { drained with stats := { drained.stats with
    drainCount := counterAdd drained.stats.drainCount 1
    bufferedBytes := (writableStreamBackpressure drained).bufferedBytes } } else drained
  (status, writableStreamSetStatus counted status)

def writableStreamClose : StreamStatus × WritableStream :=
  if stream.state = .closed then (.ok, stream)
  else if stream.state ≠ .opened then (.invalidState, stream)
  else (.ok, writableStreamSetStatus { stream with state := .closed } .ok)

def writableStreamFail (code : StreamStatus) (message : String) : StreamStatus × WritableStream :=
  if code = .ok ∨ code = .eof then (.invalidArgument, stream)
  else if stream.state ≠ .opened then (.invalidState, stream)
  else (code, writableStreamSetStatus { stream with
    state := .failed, error := ⟨code, streamStatusToStatus code, message⟩ } code)

def writableStreamAbort : StreamStatus × WritableStream :=
  if stream.state = .aborted then (.ok, stream)
  else if stream.state ≠ .opened then (.invalidState, stream)
  else (.aborted, writableStreamSetStatus { stream with state := .aborted } .aborted)

end Sloppy.Stream
