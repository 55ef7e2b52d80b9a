import Sloppy.Stream.Transfers

/-! # Pump conservation

Bytes are in one of four places: taken by the consumer, buffered in the sink, pending in the pump,
or unread in the source. Every operation moves them from one place to the next one, so the
concatenation of the four is the source at all times.
-/

namespace Sloppy.Stream

open Lib.Run List

/-- What one call of the pump does: some bytes from the front of what is pending and unread are
appended to the sink, and an end of stream is reported only when nothing is pending or unread. -/
structure PumpMoves (before : Pipeline) (status : StreamStatus) (after : Pipeline) : Prop where
  fits : SinkFits after.writable
  moved : ∃ bytes, buffered after.writable = buffered before.writable ++ bytes ∧
    bytes ++ (pendingBytes after.pump ++ unread after.readable) = pendingBytes before.pump ++ unread before.readable
  ended : after.readable.state = .ended → unread after.readable = []
  eof : status = .eof → pendingBytes after.pump ++ unread after.readable = []

lemma pumpAfterWrite_pending (pump : StreamPump) (chunk : List UInt8) (bytesWritten : Nat) :
    pendingBytes (pumpAfterWrite pump chunk bytesWritten) = chunk.drop bytesWritten := by
  simp only [pumpAfterWrite]
  split
  · rfl
  next hAll =>
    rw [drop_eq_nil_of_le (Nat.le_of_not_lt hAll)]
    rfl

lemma pumpWrite_moves (before : Pipeline) {chunk : List UInt8}
    (token : Option CancellationToken) (hFits : SinkFits before.writable)
    (hEnded : before.readable.state = .ended → unread before.readable = [])
    (hPending : before.pump.pendingChunk = some chunk) :
    PumpMoves before (pumpWrite before chunk token).2.status (pumpWrite before chunk token).1 := by
  have hWrite := writableStreamWrite_moves chunk token hFits
  have hBefore : pendingBytes before.pump = chunk := by
    rw [pendingBytes, hPending, Option.getD_some]
  simp only [pumpWrite]
  split
  next hRefused =>
    have hNone := hWrite.refused hRefused.1 hRefused.2
    constructor
    · exact hWrite.fits
    · have hSame := hWrite.appended
      rw [hNone] at hSame
      exact ⟨[], hSame, rfl⟩
    · exact hEnded
    · exact fun hEof => absurd hEof hWrite.notEof
  · constructor
    · exact hWrite.fits
    · refine ⟨_, hWrite.appended, ?_⟩
      change _ ++ (pendingBytes (pumpAfterWrite _ _ _) ++ _) = _
      rw [pumpAfterWrite_pending, hBefore, ← append_assoc, take_append_drop]
      rfl
    · exact hEnded
    · exact fun hEof => absurd hEof hWrite.notEof

variable {before : Pipeline}

lemma streamPumpStep_moves (pumpToken readToken writeToken : Option CancellationToken)
    (hFits : SinkFits before.writable) (hEnded : before.readable.state = .ended → unread before.readable = []) :
    PumpMoves before (streamPumpStep before pumpToken readToken writeToken).2.status
      (streamPumpStep before pumpToken readToken writeToken).1 := by
  unfold streamPumpStep
  split
  · exact ⟨hFits, ⟨[], (append_nil _).symm, rfl⟩, hEnded,
      fun hEof => absurd hEof (streamStatusFromCancellation_ne_eof pumpToken)⟩
  split
  next hPending =>
    exact pumpWrite_moves before writeToken hFits hEnded hPending
  rename_i hPending
  obtain ⟨⟨status, bytes, readable⟩, hRead⟩ : ∃ read, readableStreamRead before.readable readToken = read := ⟨_, rfl⟩
  have hMoves := readableStreamRead_moves hEnded hRead
  have hNone : pendingBytes before.pump = [] := by
    rw [pendingBytes, hPending, Option.getD_none]
  simp only [hRead]
  split
  next hNotOk =>
    constructor
    · exact hFits
    · exact ⟨[], (append_nil _).symm, by
        simp only [finishStep, pendingBytes, hMoves.kept hNotOk, nil_append]⟩
    · exact hMoves.ended
    · intro hEof
      change pendingBytes before.pump ++ unread readable = []
      rw [hNone, hMoves.eof hEof, append_nil]
  next hOk =>
    have hMoved := hMoves.moved (not_not.mp hOk)
    split
    next hEmpty =>
      rw [length_eq_zero_iff.mp hEmpty, nil_append] at hMoved
      constructor
      · exact hFits
      · exact ⟨[], (append_nil _).symm, by
          simp only [finishStep, pendingBytes, hMoved, nil_append]⟩
      · exact hMoves.ended
      · exact nofun
    · have hWritten := pumpWrite_moves ⟨readable, before.writable,
        { before.pump with pendingChunk := some bytes }⟩ writeToken hFits hMoves.ended rfl
      obtain ⟨taken, hAppended, hRest⟩ := hWritten.moved
      refine { hWritten with moved := ⟨taken, hAppended, hRest.trans ?_⟩ }
      rw [hNone, nil_append]
      exact hMoved

structure Conserved (source : List UInt8) (pipeline : Pipeline) (events : List Event) : Prop where
  fits : SinkFits pipeline.writable
  conserved : drainedIn events ++ (buffered pipeline.writable ++
    (pendingBytes pipeline.pump ++ unread pipeline.readable)) = source
  ended : pipeline.readable.state = .ended → unread pipeline.readable = []
  reported : eofReportedIn events → pendingBytes pipeline.pump ++ unread pipeline.readable = []

variable {events : List Event} {source : List UInt8} {after : Pipeline}

lemma Conserved.pumped (h : Conserved source before events) (op : Op) {result : StreamPumpResult}
    (hDrained : drainedIn ((op, .pumped result) :: events) = drainedIn events)
    (hMoves : PumpMoves before result.status after) : Conserved source after ((op, .pumped result) :: events) := by
  obtain ⟨bytes, hAppended, hRest⟩ := hMoves.moved
  constructor
  · exact hMoves.fits
  · rw [hDrained, hAppended, append_assoc, hRest]
    exact h.conserved
  · exact hMoves.ended
  · rintro ⟨eofOp, eofResult, hMem, hEof⟩
    rcases mem_cons.mp hMem with hNew | hOld
    · cases hNew
      exact hMoves.eof hEof
    · have hNothing := h.reported ⟨eofOp, eofResult, hOld, hEof⟩
      rw [hNothing] at hRest
      exact (append_eq_nil_iff.mp hRest).2

lemma Conserved.controlled (h : Conserved source before events) (op : Op) {status : StreamStatus}
    (hDrained : drainedIn ((op, .controlled status) :: events) = drainedIn events)
    (hAdapters : after.readable.adapter = before.readable.adapter ∧
      after.writable.adapter = before.writable.adapter) (hPump : after.pump = before.pump)
    (hEnded : after.readable.state = .ended → before.readable.state = .ended) :
    Conserved source after ((op, .controlled status) :: events) := by
  have hUnread : unread after.readable = unread before.readable := by
    rw [unread, hAdapters.1]
    rfl
  have hBuffered : buffered after.writable = buffered before.writable := by
    rw [buffered, hAdapters.2]
    rfl
  constructor
  · constructor
    · rw [hAdapters.2]
      exact h.fits.capacity
    · rw [hAdapters.2]
      exact h.fits.length
  · rw [hDrained, hBuffered, hUnread, hPump]
    exact h.conserved
  · intro hAfter
    rw [hUnread]
    exact h.ended (hEnded hAfter)
  · rintro ⟨eofOp, eofResult, hMem, hEof⟩
    rcases mem_cons.mp hMem with hNew | hOld
    · cases hNew
    · rw [hUnread, hPump]
      exact h.reported ⟨eofOp, eofResult, hOld, hEof⟩

variable {pipeline : Pipeline}

lemma Conserved.drained (h : Conserved source pipeline events) (bytes : Nat) :
    Conserved source (step pipeline (.drain bytes)).1 ((.drain bytes, (step pipeline (.drain bytes)).2) :: events) := by
  obtain ⟨hFits, hBuffered⟩ := writableStreamDrain_moves bytes h.fits
  constructor
  · exact hFits
  · simp only [step]
    rw [hBuffered]
    cases hStatus : (writableStreamDrain pipeline.writable bytes).1 with
    | ok =>
      rw [if_pos rfl, drainedIn]
      change drainedIn events ++ (buffered pipeline.writable).take bytes ++ _ = source
      rw [append_assoc, ← append_assoc ((buffered _).take _), take_append_drop]
      exact h.conserved
    | _ => exact h.conserved
  · exact h.ended
  · rintro ⟨eofOp, eofResult, hMem, hEof⟩
    rcases mem_cons.mp hMem with hNew | hOld
    · cases hNew
    · exact h.reported ⟨eofOp, eofResult, hOld, hEof⟩

lemma Conserved.step (h : Conserved source pipeline events) (op : Op) :
    Conserved source (step pipeline op).1 ((op, (Stream.step pipeline op).2) :: events) := by
  cases op with
  | pumpStep pumpToken readToken writeToken =>
    exact h.pumped _ rfl (streamPumpStep_moves pumpToken readToken writeToken h.fits h.ended)
  | drain bytes => exact h.drained bytes
  | closeReadable =>
    refine h.controlled _ rfl ⟨?_, rfl⟩ rfl ?_ <;> simp only [Stream.step, readableStreamClose]
    · split_ifs <;> rfl
    · split_ifs
      · exact id
      · exact id
      · exact nofun
  | failReadable =>
    refine h.controlled _ rfl ⟨?_, rfl⟩ rfl ?_ <;> simp only [Stream.step, readableStreamFail]
    · split_ifs <;> rfl
    · split_ifs with hCode
      · exact id
      · exact id
      · intro hEnded
        rcases readableStateAfter_ended hEnded with hEof | hFailed
        · exact absurd (Or.inr hEof) hCode
        · cases hFailed
  | abortReadable =>
    refine h.controlled _ rfl ⟨?_, rfl⟩ rfl ?_ <;> simp only [Stream.step, readableStreamAbort]
    · split_ifs <;> rfl
    · split_ifs
      · exact id
      · exact id
      · exact nofun
  | closeWritable =>
    refine h.controlled _ rfl ⟨rfl, ?_⟩ rfl id
    simp only [Stream.step, writableStreamClose]
    split_ifs <;> rfl
  | failWritable =>
    refine h.controlled _ rfl ⟨rfl, ?_⟩ rfl id
    simp only [Stream.step, writableStreamFail]
    split_ifs <;> rfl
  | abortWritable =>
    refine h.controlled _ rfl ⟨rfl, ?_⟩ rfl id
    simp only [Stream.step, writableStreamAbort]
    split_ifs <;> rfl

lemma conserved_init (chunks : List (List UInt8)) (buf : List UInt8)
    (readOptions writeOptions : Option StreamOptions) :
    Conserved chunks.flatten (pipelineInit chunks buf readOptions writeOptions) [] := by
  constructor
  · exact ⟨rfl, Nat.zero_le _⟩
  · cases chunks <;> rfl
  · exact nofun
  · rintro ⟨_, _, hMem, _⟩
    cases hMem

/-- Whatever the source chunks, the limits, the sink and the interleaving of pump steps, drains and
control calls: drained, buffered, pending and unread bytes together are the source, and once the
pump has reported the end of the stream an empty sink means that the output is the source. -/
theorem streamPump_conservation (chunks : List (List UInt8)) (buffer : List UInt8)
    (readOptions writeOptions : Option StreamOptions) (ops : List Op) :
    let reached := run step (pipelineInit chunks buffer readOptions writeOptions) ops
    drainedIn reached.2 ++ buffered reached.1.writable ++ pendingBytes reached.1.pump ++
        unread reached.1.readable = chunks.flatten ∧
      (eofReportedIn reached.2 → buffered reached.1.writable = [] → drainedIn reached.2 = chunks.flatten) := by
  intro reached
  have h : Conserved chunks.flatten reached.1 reached.2 :=
    run_invariant step (Conserved chunks.flatten) (fun _ _ op hBefore => hBefore.step op) _
      (conserved_init chunks buffer readOptions writeOptions) ops
  refine ⟨?_, ?_⟩
  · rw [append_assoc, append_assoc]
    exact h.conserved
  · intro hEof hEmpty
    have hAll := h.conserved
    rwa [hEmpty, h.reported hEof, append_nil, append_nil] at hAll

/-- A chunk larger than the sink is split by backpressure and arrives whole. -/
theorem streamPump_conservation_twoByteSink : drainedIn (run step (pipelineInit [[1, 2, 3], [4]] [0, 0] none none)
      [.pumpStep none none none, .drain 2, .pumpStep none none none, .pumpStep none none none,
        .drain 2, .pumpStep none none none]).2 = [1, 2, 3, 4] :=
  (streamPump_conservation [[1, 2, 3], [4]] [0, 0] none none
    [.pumpStep none none none, .drain 2, .pumpStep none none none, .pumpStep none none none,
      .drain 2, .pumpStep none none none]).2 ⟨_, _, mem_cons_self, rfl⟩ rfl

end Sloppy.Stream
