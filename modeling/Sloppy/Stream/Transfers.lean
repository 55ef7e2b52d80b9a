import Sloppy.Stream.Adapters
import Sloppy.Lib.Run

/-! # The stream pump and what its calls move

One step moves at most one chunk; the part a write did not take stays pending. A history interleaves pump steps, drains
and the control calls of both streams. A read takes bytes off the unread source, a write appends the prefix it
reports, a drain removes a prefix of the sink; every failure moves nothing.
-/

namespace Sloppy.Stream

open Lib.Run Lib.Copy List

section

structure StreamPump where
  pendingChunk : Option (List UInt8)
  lastStatus : StreamStatus
  bytesTransferred : Nat
  chunksTransferred : Nat

structure StreamPumpResult where
  status : StreamStatus
  bytesTransferred : Nat
  chunksTransferred : Nat
  backpressure : BackpressureState
  deriving DecidableEq

structure Pipeline where
  readable : ReadableStream
  writable : WritableStream
  pump : StreamPump

def streamPumpInit : StreamPump := ⟨none, .ok, 0, 0⟩

variable (pipeline : Pipeline)

def streamPumpSnapshot (status : StreamStatus) : StreamPumpResult :=
  ⟨status, pipeline.pump.bytesTransferred, pipeline.pump.chunksTransferred,
    writableStreamBackpressure pipeline.writable⟩

def finishStep (status : StreamStatus) : Pipeline × StreamPumpResult :=
  let recorded := { pipeline with pump := { pipeline.pump with lastStatus := status } }
  (recorded, streamPumpSnapshot recorded status)

def pumpAfterWrite (pump : StreamPump) (chunk : List UInt8) (bytesWritten : Nat) : StreamPump :=
  let bytesTransferred := counterAdd pump.bytesTransferred bytesWritten
  if bytesWritten < chunk.length then
    { pump with bytesTransferred, pendingChunk := some (chunk.drop bytesWritten) }
  else
    { pump with
      bytesTransferred
      pendingChunk := none
      chunksTransferred := if chunk.length ≠ 0 then counterAdd pump.chunksTransferred 1
        else pump.chunksTransferred }

/-- The second half of a step, once `chunk` is the pending chunk. -/
def pumpWrite (chunk : List UInt8) (writeToken : Option CancellationToken) : Pipeline × StreamPumpResult :=
  let (write, writable) := writableStreamWrite pipeline.writable chunk writeToken
  let pipeline := { pipeline with writable }
  if write.status ≠ .ok ∧ write.status ≠ .backpressure then finishStep pipeline write.status
  else finishStep { pipeline with pump := pumpAfterWrite pipeline.pump chunk write.bytesWritten } write.status

def streamPumpStep (pumpToken readToken writeToken : Option CancellationToken) : Pipeline × StreamPumpResult :=
  if streamStatusFromCancellation pumpToken ≠ .ok then
    finishStep pipeline (streamStatusFromCancellation pumpToken)
  else
    match pipeline.pump.pendingChunk with
    | some chunk => pumpWrite pipeline chunk writeToken
    | none =>
      let (status, bytes, readable) := readableStreamRead pipeline.readable readToken
      let pipeline := { pipeline with readable }
      if status ≠ .ok then finishStep pipeline status
      else if bytes.length = 0 then finishStep pipeline .wouldBlock
      else pumpWrite { pipeline with pump := { pipeline.pump with pendingChunk := some bytes } } bytes writeToken

inductive Op where
  | pumpStep (pumpToken readToken writeToken : Option CancellationToken)
  | drain (bytes : Nat)
  | closeReadable
  | failReadable (code : StreamStatus) (message : String)
  | abortReadable
  | closeWritable
  | failWritable (code : StreamStatus) (message : String)
  | abortWritable

inductive Answer where
  | pumped (result : StreamPumpResult)
  | drained (status : StreamStatus) (view : List UInt8)
  | controlled (status : StreamStatus)

abbrev Event := Op × Answer

/-- A drain answers with the bytes the sink showed before it, of which a successful drain of `n`
releases the first `n` to the consumer. -/
def step : Op → Pipeline × Answer
  | .pumpStep pumpToken readToken writeToken =>
    let (next, result) := streamPumpStep pipeline pumpToken readToken writeToken
    (next, .pumped result)
  | .drain bytes =>
    let (status, writable) := writableStreamDrain pipeline.writable bytes
    ({ pipeline with writable }, .drained status (memoryWritableStreamView pipeline.writable.adapter))
  | .closeReadable =>
    let (status, readable) := readableStreamClose pipeline.readable
    ({ pipeline with readable }, .controlled status)
  | .failReadable code message =>
    let (status, readable) := readableStreamFail pipeline.readable code message
    ({ pipeline with readable }, .controlled status)
  | .abortReadable =>
    let (status, readable) := readableStreamAbort pipeline.readable
    ({ pipeline with readable }, .controlled status)
  | .closeWritable =>
    let (status, writable) := writableStreamClose pipeline.writable
    ({ pipeline with writable }, .controlled status)
  | .failWritable code message =>
    let (status, writable) := writableStreamFail pipeline.writable code message
    ({ pipeline with writable }, .controlled status)
  | .abortWritable =>
    let (status, writable) := writableStreamAbort pipeline.writable
    ({ pipeline with writable }, .controlled status)

def pipelineInit (chunks : List (List UInt8)) (buffer : List UInt8)
    (readOptions writeOptions : Option StreamOptions) : Pipeline :=
  ⟨memoryReadableStreamInit chunks readOptions, memoryWritableStreamInit buffer writeOptions, streamPumpInit⟩

/-- What the consumer has taken from the sink, in order. -/
def drainedIn : List Event → List UInt8
  | [] => []
  | (.drain bytes, .drained .ok view) :: earlier => drainedIn earlier ++ view.take bytes
  | _ :: earlier => drainedIn earlier

def eofReportedIn (events : List Event) : Prop :=
  ∃ op result, (op, Answer.pumped result) ∈ events ∧ result.status = .eof

def buffered (stream : WritableStream) : List UInt8 := memoryWritableStreamView stream.adapter

def pendingBytes (pump : StreamPump) : List UInt8 := pump.pendingChunk.getD []

def unreadFrom : List (List UInt8) → Nat → List UInt8
  | [], _ => []
  | source :: rest, offset => source.drop offset ++ rest.flatten

def unread (stream : ReadableStream) : List UInt8 :=
  unreadFrom (stream.adapter.chunks.drop stream.adapter.chunkIndex) stream.adapter.chunkOffset

end

section Reading

variable {bytes : List UInt8} {status : StreamStatus}

lemma chunkReadFrom_moves (maxChunkBytes : Nat) (chunks rest : List (List UInt8)) (index offset : Nat)
    (hRest : chunks.drop index = rest) {index' offset' : Nat}
    (h : chunkReadFrom maxChunkBytes rest index offset = (status, bytes, index', offset')) :
    bytes ++ unreadFrom (chunks.drop index') offset' = unreadFrom rest offset ∧ bytes.length ≤ maxChunkBytes ∧
      (status = .ok ∨ status = .eof ∧ bytes = [] ∧ unreadFrom rest offset = []) := by
  induction rest generalizing index offset with
  | nil =>
    cases h
    rw [hRest]
    exact ⟨rfl, Nat.zero_le _, Or.inr ⟨rfl, rfl, rfl⟩⟩
  | cons source rest ih =>
    have hTail : chunks.drop (index + 1) = rest := by
      rw [← drop_drop, hRest, drop_one, tail_cons]
    rw [chunkReadFrom] at h
    split at h
    next hPast =>
      have hNext : unreadFrom (source :: rest) offset = unreadFrom rest 0 := by
        rw [unreadFrom, drop_eq_nil_of_le hPast]
        cases rest <;> rfl
      rw [hNext]
      exact ih (index + 1) 0 hTail h
    · simp only at h
      generalize hLength : (if maxChunkBytes < source.length - offset then maxChunkBytes
        else source.length - offset) = length at h
      have hBounds : length ≤ maxChunkBytes ∧ length ≤ source.length - offset := by
        split at hLength <;> omega
      split at h
      · cases h
        refine ⟨?_, by rw [length_take]; omega, Or.inl rfl⟩
        rw [hTail, take_of_length_le (by rw [length_drop]; omega)]
        cases rest <;> rfl
      · cases h
        refine ⟨?_, by rw [length_take]; omega, Or.inl rfl⟩
        rw [hRest, unreadFrom, unreadFrom, ← append_assoc, ← drop_drop, take_append_drop]

variable {state : StreamState}

lemma readableStateAfter_ended (h : readableStateAfter state status = .ended) : status = .eof ∨ state = .ended := by
  cases status with
  | eof => exact Or.inl rfl
  | cancelled | deadlineExceeded => cases h
  | _ => exact Or.inr h

lemma streamStateReadStatus_eof (h : streamStateReadStatus state = .eof) : state = .ended := by
  cases state with
  | ended => rfl
  | _ => cases h

lemma streamStatusFromCancellation_ne_eof (token : Option CancellationToken) :
    streamStatusFromCancellation token ≠ .eof := by
  unfold streamStatusFromCancellation
  split
  · exact nofun
  · split
    · exact nofun
    · split <;> exact nofun

/-- The outcome of a read: what it returns and what stays unread, and that the end of the stream is
reported, or recorded in its state, only when nothing is left. -/
structure ReadMoves (before : ReadableStream) (status : StreamStatus) (bytes : List UInt8)
    (after : ReadableStream) : Prop where
  moved : status = .ok → bytes ++ unread after = unread before
  kept : status ≠ .ok → unread after = unread before
  eof : status = .eof → unread after = []
  ended : after.state = .ended → unread after = []

variable {before : ReadableStream}

lemma ReadMoves.refused (hEnded : before.state = .ended → unread before = []) (hStatus : status ≠ .ok)
    (hEof : status = .eof → before.state = .ended) :
    ReadMoves before status [] (readableStreamSetStatus before status) := by
  constructor
  · exact fun hOk => absurd hOk hStatus
  · exact fun _ => rfl
  · exact fun h => hEnded (hEof h)
  · intro hAfter
    rcases readableStateAfter_ended hAfter with h | h
    · exact hEnded (hEof h)
    · exact hEnded h

lemma readableStreamRead_moves {after : ReadableStream} {token : Option CancellationToken}
    (hEnded : before.state = .ended → unread before = [])
    (h : readableStreamRead before token = (status, bytes, after)) : ReadMoves before status bytes after := by
  unfold readableStreamRead at h
  split at h
  next hState =>
    cases h
    exact .refused hEnded hState streamStateReadStatus_eof
  next hState =>
    split at h
    next hCancelled =>
      cases h
      exact .refused hEnded hCancelled (fun hEof => absurd hEof (streamStatusFromCancellation_ne_eof token))
    · obtain ⟨⟨status', bytes', index, offset⟩, hRead⟩ : ∃ read, chunkReadFrom before.maxChunkBytes
        (before.adapter.chunks.drop before.adapter.chunkIndex) before.adapter.chunkIndex
        before.adapter.chunkOffset = read := ⟨_, rfl⟩
      simp only [memoryReadableRead, hRead] at h
      obtain ⟨hMoved, hLen, hStatus⟩ := chunkReadFrom_moves _ _ _ _ _ rfl hRead
      have hOpened : before.state = .opened := by
        cases hCase : before.state <;> simp [hCase, streamStateReadStatus] at hState
        rfl
      rw [if_neg (by omega)] at h
      have hAfter : status = status' ∧ bytes = bytes' ∧
          unread after = unreadFrom (before.adapter.chunks.drop index) offset ∧
          after.state = readableStateAfter before.state status' := by
        split at h <;> cases h <;> exact ⟨rfl, rfl, rfl, rfl⟩
      obtain ⟨rfl, rfl, hUnread, hStateAfter⟩ := hAfter
      have hEof : status = .eof → unread after = [] ∧ unread before = [] := by
        rintro rfl
        rcases hStatus with hOk | ⟨_, rfl, hNone⟩
        · cases hOk
        · rw [hUnread]
          exact ⟨hMoved.trans hNone, hNone⟩
      constructor
      · intro _
        rw [hUnread]
        exact hMoved
      · intro hNe
        have hIsEof : status = .eof := by
          rcases hStatus with hOk | ⟨hEq, _, _⟩
          · exact absurd hOk hNe
          · exact hEq
        rw [(hEof hIsEof).1, (hEof hIsEof).2]
      · exact fun hIs => (hEof hIs).1
      · intro hAfterEnded
        rw [hStateAfter] at hAfterEnded
        rcases readableStateAfter_ended hAfterEnded with hIs | hWas
        · exact (hEof hIs).1
        · rw [hOpened] at hWas
          cases hWas

lemma chunkReadFrom_progress {maxChunkBytes : Nat} (hMax : 0 < maxChunkBytes) {rest : List (List UInt8)}
    {index offset : Nat} {index' offset' : Nat}
    (h : chunkReadFrom maxChunkBytes rest index offset = (status, bytes, index', offset')) (hOk : status = .ok) :
    bytes ≠ [] := by
  induction rest generalizing index offset with
  | nil =>
    cases h
    cases hOk
  | cons source rest ih =>
    rw [chunkReadFrom] at h
    split at h
    · exact ih h
    simp only at h
    generalize hLength : (if maxChunkBytes < source.length - offset then maxChunkBytes
      else source.length - offset) = length at h
    have hSome : (source.drop offset).take length ≠ [] := by
      intro hEmpty
      have hZero := congrArg List.length hEmpty
      rw [length_take, length_drop, length_nil] at hZero
      split at hLength <;> omega
    split at h <;> cases h <;> exact hSome

lemma readableStreamRead_opened {after : ReadableStream} (hOpen : before.state = .opened)
    (hMax : 0 < before.maxChunkBytes) (h : readableStreamRead before none = (status, bytes, after)) :
    status = .eof ∨ status = .ok ∧ bytes ≠ [] ∧ after.state = .opened ∧ after.maxChunkBytes = before.maxChunkBytes := by
  obtain ⟨⟨status', bytes', index, offset⟩, hRead⟩ : ∃ read, chunkReadFrom before.maxChunkBytes
    (before.adapter.chunks.drop before.adapter.chunkIndex) before.adapter.chunkIndex
    before.adapter.chunkOffset = read := ⟨_, rfl⟩
  obtain ⟨-, hLen, hStatus⟩ := chunkReadFrom_moves _ _ _ _ _ rfl hRead
  have hProgress := chunkReadFrom_progress hMax hRead
  have hState : ¬streamStateReadStatus before.state ≠ .ok := by
    rw [hOpen]
    exact not_not_intro rfl
  have hToken : ¬streamStatusFromCancellation none ≠ .ok := not_not_intro rfl
  rw [readableStreamRead, if_neg hState, if_neg hToken, memoryReadableRead, hRead] at h
  simp only at h
  rw [if_neg (by omega)] at h
  rcases hStatus with rfl | ⟨rfl, -⟩
  · rw [if_pos ⟨rfl, fun hZero => hProgress rfl (length_eq_zero_iff.mp hZero)⟩] at h
    cases h
    exact Or.inr ⟨rfl, hProgress rfl, congrArg (readableStateAfter · .ok) hOpen, rfl⟩
  · cases h
    exact Or.inl rfl

end Reading

section Writing

/-- The sink's buffer is its capacity, of which the first `length` bytes are in use. -/
structure SinkFits (stream : WritableStream) : Prop where
  capacity : stream.adapter.buffer.length = stream.adapter.capacity
  length : stream.adapter.length ≤ stream.adapter.capacity

lemma buffered_length {stream : WritableStream} (h : SinkFits stream) :
    (buffered stream).length = stream.adapter.length := by
  rw [buffered, memoryWritableStreamView, length_take, h.capacity]
  exact Nat.min_eq_left h.length

/-- The outcome of a write: the bytes it reports are appended to the sink, and it reports some only
with success or backpressure. -/
structure WriteMoves (before : WritableStream) (chunk : List UInt8) (status : StreamStatus)
    (bytesWritten : Nat) (after : WritableStream) : Prop where
  fits : SinkFits after
  appended : buffered after = buffered before ++ chunk.take bytesWritten
  bounded : bytesWritten ≤ chunk.length
  complete : status = .ok → bytesWritten = chunk.length
  refused : status ≠ .ok → status ≠ .backpressure → bytesWritten = 0
  notEof : status ≠ .eof

variable {before : WritableStream} {chunk : List UInt8} {status : StreamStatus}

lemma WriteMoves.nothing (hFits : SinkFits before) (hStatus : status = .ok → chunk.length = 0)
    (hEof : status ≠ .eof) : WriteMoves before chunk status 0 before := by
  constructor
  · exact hFits
  · rw [take_zero, append_nil]
  · exact Nat.zero_le _
  · exact fun h => (hStatus h).symm
  · exact fun _ _ => rfl
  · exact hEof

lemma streamStateWriteStatus_ne_eof (state : StreamState) : streamStateWriteStatus state ≠ .eof := by
  cases state <;> exact nofun

lemma effectiveCapacity_le (stream : WritableStream) : effectiveCapacity stream ≤ stream.adapter.capacity := by
  unfold effectiveCapacity
  split <;> omega

variable {after : WritableStream} {taken : Nat}

lemma memoryWritableWrite_moves (hFits : SinkFits before)
    (h : memoryWritableWrite before chunk = (status, taken, after)) : WriteMoves before chunk status taken after := by
  have hEffective := effectiveCapacity_le before
  unfold memoryWritableWrite at h
  split at h
  next hEmpty =>
    cases h
    exact .nothing hFits (fun _ => hEmpty) nofun
  · split at h
    · cases h
      exact .nothing hFits nofun nofun
    simp only at h
    split at h
    · cases h
      exact .nothing hFits nofun nofun
    generalize hLength : (if effectiveCapacity before - before.adapter.length < chunk.length then
      effectiveCapacity before - before.adapter.length else chunk.length) = writeLength at h
    have hLe : writeLength ≤ chunk.length := by
      split at hLength <;> omega
    split at h
    · cases h
      exact .nothing hFits nofun nofun
    rename_i hKept
    obtain ⟨_, rfl⟩ := byteBuilderAppendBytes_ok hKept
    split at h
    · cases h
      exact .nothing hFits nofun nofun
    rename_i hStored
    obtain ⟨hRoom, rfl⟩ := byteBuilderAppendBytes_ok hStored
    cases h
    have hTaken : (chunk.take taken).length = taken := by
      rw [length_take, Nat.min_eq_left hLe]
    simp only [ByteSpan.length, byteBuilderInitFixed, Nat.zero_add, hTaken] at hRoom
    have hCap := hFits.capacity
    constructor
    · constructor
      · simp only [memoryWritableStored, byteBuilderCopy_length, byteBuilderInitFixed]
        exact hFits.capacity
      · simp only [memoryWritableStored, ByteSpan.length, byteBuilderInitFixed, hTaken]
        omega
    · simp only [buffered, memoryWritableStreamView, memoryWritableStored, ByteSpan.length,
        byteBuilderInitFixed, Nat.zero_add, byteBuilderCopy_self]
      exact store_take _ _ _ (by omega)
    · exact hLe
    · intro hOk
      split at hOk
      · assumption
      · cases hOk
    · intro hNotOk hNotFull
      split at hNotOk
      · exact absurd rfl hNotOk
      next hPartial =>
        rw [if_neg hPartial] at hNotFull
        exact absurd rfl hNotFull
    · split <;> exact nofun

lemma checkedWrite_eq (h : WriteMoves before chunk status taken after) :
    checkedWrite chunk.length status taken = (status, taken) := by
  unfold checkedWrite
  rw [if_neg]
  rintro (hMore | ⟨hNotOk, hNotFull, hSome⟩ | ⟨hOk, hSome, hNone⟩)
  · have hBounded := h.bounded
    omega
  · exact hSome (h.refused hNotOk hNotFull)
  · exact hSome ((h.complete hOk).symm.trans hNone)

lemma writableStreamWrite_moves (chunk : List UInt8) (token : Option CancellationToken) (hFits : SinkFits before) :
    WriteMoves before chunk (writableStreamWrite before chunk token).1.status
      (writableStreamWrite before chunk token).1.bytesWritten
      (writableStreamWrite before chunk token).2 := by
  unfold writableStreamWrite
  split
  · exact .nothing hFits nofun nofun
  split
  next hState =>
    exact { WriteMoves.nothing hFits (fun hOk => absurd hOk hState)
      (streamStateWriteStatus_ne_eof before.state) with fits := ⟨hFits.1, hFits.2⟩ }
  · split
    next hToken =>
      exact { WriteMoves.nothing hFits (fun hOk => absurd hOk hToken)
        (streamStatusFromCancellation_ne_eof token) with fits := ⟨hFits.1, hFits.2⟩ }
    · obtain ⟨⟨status, taken, after⟩, hWrite⟩ : ∃ write, memoryWritableWrite before chunk = write := ⟨_, rfl⟩
      have hMoves := memoryWritableWrite_moves hFits hWrite
      simp only [hWrite, checkedWrite_eq hMoves]
      exact { hMoves with fits := ⟨hMoves.fits.1, hMoves.fits.2⟩ }

lemma memoryWritableDrain_moves {bytes : Nat} (hFits : SinkFits before)
    (h : memoryWritableDrain before bytes = (status, after)) :
    SinkFits after ∧ buffered after = if status = .ok then (buffered before).drop bytes else buffered before := by
  have hCap := hFits.capacity
  have hUsed := hFits.length
  unfold memoryWritableDrain at h
  split at h
  · cases h
    exact ⟨hFits, rfl⟩
  split at h
  · simp only at h
    split at h
    · cases h
      exact ⟨hFits, rfl⟩
    rename_i hAppend
    obtain ⟨_, rfl⟩ := byteBuilderAppendBytes_ok hAppend
    cases h
    simp only [ByteSpan.length, byteBuilderInitFixed, Nat.zero_add, if_pos]
    refine ⟨⟨?_, ?_⟩, ?_⟩
    · simp only [byteBuilderCopy_length]
      exact hFits.capacity
    · simp only
      omega
    · simp only [buffered, memoryWritableStreamView]
      rw [take_drop_of_getElem? (byteBuilderCopy_within before.adapter.buffer 0 bytes
        (before.adapter.length - bytes) (by omega) (by omega)),
        show bytes + (before.adapter.length - bytes) = before.adapter.length by omega]
  next hNone =>
    cases h
    refine ⟨⟨hFits.1, hFits.2⟩, ?_⟩
    have hDrop : (buffered before).drop bytes = buffered before := by
      by_cases hZero : bytes = 0
      · rw [hZero, drop_zero]
      have hEmpty : buffered before = [] := by
        rw [← length_eq_zero_iff, buffered_length hFits]
        by_contra hLength
        exact hNone ⟨hZero, hLength⟩
      rw [hEmpty, drop_nil]
    rw [if_pos rfl, hDrop]
    rfl

lemma writableStreamDrain_moves (bytes : Nat) (hFits : SinkFits before) :
    SinkFits (writableStreamDrain before bytes).2 ∧ buffered (writableStreamDrain before bytes).2 =
        if (writableStreamDrain before bytes).1 = .ok then (buffered before).drop bytes
        else buffered before := by
  obtain ⟨⟨status, after⟩, hDrain⟩ : ∃ drain, memoryWritableDrain before bytes = drain := ⟨_, rfl⟩
  obtain ⟨hAfter, hBuffered⟩ := memoryWritableDrain_moves hFits hDrain
  simp only [writableStreamDrain, hDrain]
  split
  next hOk =>
    rw [if_pos hOk] at hBuffered
    exact ⟨⟨hAfter.1, hAfter.2⟩, hBuffered⟩
  next hFailed =>
    rw [if_neg hFailed] at hBuffered
    exact ⟨⟨hAfter.1, hAfter.2⟩, hBuffered⟩

end Writing

end Sloppy.Stream
