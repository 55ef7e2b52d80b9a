import Sloppy.Backend.Lifecycle
import Sloppy.Core.Room

/-! # Whole reads of a body

Between the calls of a reader the request may be cancelled or time out and the backend may stop. Finishing succeeds
exactly for a body of the declared length of a request that nothing ended.
-/

namespace Sloppy.Backend

open Http Growing

inductive BodyEvent where
  | append (chunk : List UInt8)
  | cancel (reason : CancellationReason) (detail : List UInt8)
  | timeout (detail : List UInt8)
  | stop
  deriving DecidableEq

structure BodyRun where
  reader : ReaderScope
  failed : Bool
  chunks : List UInt8

def isError (result : Except Failure Unit) : Bool :=
  match result with
  | .error _ => true
  | .ok () => false

def bodyStep (run : BodyRun) : BodyEvent → BodyRun
  | .append chunk =>
    ⟨(requestBodyReaderAppend run.reader chunk).1,
      run.failed || isError (requestBodyReaderAppend run.reader chunk).2, run.chunks ++ chunk⟩
  | .cancel reason detail =>
    { run with reader := { run.reader with scope := (requestCancel run.reader.scope reason detail).1 } }
  | .timeout detail =>
    { run with reader := { run.reader with scope := (requestTimeout run.reader.scope detail).1 } }
  | .stop =>
    { run with reader := { run.reader with
        scope := { run.reader.scope with backend := (backendStop run.reader.scope.backend).1 } } }

def bodyRun (scope : RequestScope) (arena : Arena) (place : Nat) (contentType : List UInt8) (contentLength : Nat)
    (events : List BodyEvent) : BodyRun :=
  let begun := requestBodyReaderBegin scope arena place contentType contentLength
  events.foldl bodyStep ⟨begun.1, isError begun.2, []⟩

section Admission

variable {attached : Bool} {others : Nat}

/-- The request counts as admitted beside the others, or its admission was given back once. -/
structure Tracked (attached : Bool) (others : Nat) (scope : RequestScope) : Prop where
  connection : ∃ connection, scope.connection = some connection ∧ connection.attached = attached
  admission : scope.request.admitted = true ∧ scope.backend.activeRequests = others + 1 ∨
    scope.request.admitted = false ∧ scope.backend.activeRequests = if attached then others else others + 1

/-- The admission is given back, and the count of the backend went down by one. -/
structure Released (attached : Bool) (others : Nat) (scope : RequestScope) : Prop where
  connection : ∃ connection, scope.connection = some connection ∧ connection.attached = attached
  admitted : scope.request.admitted = false
  active : scope.backend.activeRequests = if attached then others else others + 1

variable {scope : RequestScope}

lemma Released.tracked (h : Released attached others scope) : Tracked attached others scope :=
  ⟨h.connection, Or.inr ⟨h.admitted, h.active⟩⟩

lemma maybeFinishStop_active (backend : HttpBackend) :
    (maybeFinishStop backend).activeRequests = backend.activeRequests := by
  rw [maybeFinishStop]
  split <;> rfl

section

variable (h : Tracked attached others scope)
include h

lemma Tracked.release : Released attached others (releaseAdmission scope) := by
  obtain ⟨⟨conn, hConn, hAttached⟩, hAdmission⟩ := h
  rw [releaseAdmission, hConn]
  dsimp only
  rcases hAdmission with ⟨hAdmitted, hActive⟩ | ⟨hAdmitted, hActive⟩
  · rw [if_neg (by rw [hAdmitted]; decide)]
    refine ⟨⟨conn, rfl, hAttached⟩, rfl, ?_⟩
    rw [hAttached]
    split
    · rw [maybeFinishStop_active, if_pos (by omega)]
      dsimp only
      omega
    · exact hActive
  · rw [if_pos hAdmitted]
    exact ⟨⟨conn, hConn, hAttached⟩, hAdmitted, hActive⟩

lemma Tracked.setConnection (state : ConnectionState) : Tracked attached others (scope.setConnection state) := by
  obtain ⟨⟨conn, hConn, hAttached⟩, hAdmission⟩ := h
  refine ⟨⟨{ conn with state := state }, ?_, hAttached⟩, hAdmission⟩
  rw [RequestScope.setConnection, hConn]
  rfl

lemma Tracked.setState (state : RequestState) : Tracked attached others (scope.setState state) :=
  ⟨h.connection, h.admission⟩

lemma Tracked.terminalCancel (state : RequestState) : Released attached others (terminalCancel scope state) :=
  ((h.setState state).setConnection _).release

lemma Tracked.endStream (state : RequestState) (fallback : ConnectionState) :
    Released attached others (endStream scope state fallback) :=
  ((h.setState state).setConnection _).release

end

lemma releaseAdmission_head (scope : RequestScope) : (releaseAdmission scope).request.head = scope.request.head := by
  rw [releaseAdmission]
  split
  · rfl
  · split <;> rfl

/-- What happens to the request from outside: its head stays, and its admission is given back at most once. -/
structure Passed (attached : Bool) (others : Nat) (scope after : RequestScope) : Prop where
  head : after.request.head = scope.request.head
  tracked : Tracked attached others scope → Tracked attached others after
  released : Released attached others scope → Released attached others after

section

variable (scope : RequestScope)

lemma Passed.refl : Passed attached others scope scope := ⟨rfl, id, id⟩

lemma passed_terminalCancel (reason : CancellationReason) (detail : List UInt8)
    (state : RequestState) : Passed attached others scope (terminalCancel (scope.cancelToken reason detail) state) := by
  have hToken : Tracked attached others scope → Tracked attached others (scope.cancelToken reason detail) :=
    fun h => ⟨h.connection, h.admission⟩
  exact ⟨releaseAdmission_head _, fun h => ((hToken h).terminalCancel state).tracked,
    fun h => (hToken h.tracked).terminalCancel state⟩

lemma passed_requestCancel (reason : CancellationReason) (detail : List UInt8) :
    Passed attached others scope (requestCancel scope reason detail).1 := by
  rw [requestCancel]
  split
  · exact .refl scope
  split
  · exact .refl scope
  · split <;> exact passed_terminalCancel scope _ detail _

lemma passed_requestTimeout (detail : List UInt8) :
    Passed attached others scope (requestTimeout scope detail).1 := by
  rw [requestTimeout]
  split
  · exact .refl scope
  · exact passed_terminalCancel scope _ detail _

lemma passed_backendStop :
    Passed attached others scope { scope with backend := (backendStop scope.backend).1 } := by
  have hActive : (backendStop scope.backend).1.activeRequests = scope.backend.activeRequests := by
    rw [backendStop]
    split
    · rfl
    · exact maybeFinishStop_active _
  refine ⟨rfl, fun h => ⟨h.connection, ?_⟩, fun h => ⟨h.connection, h.admitted, hActive.trans h.active⟩⟩
  rw [hActive]
  exact h.admission

end

end Admission

section Reading

variable {attached : Bool} {others : Nat} {entry : Arena}

structure Ended (attached : Bool) (others : Nat) (entry : Arena) (s : ReaderScope) : Prop where
  arena : arenaMark s.arena = arenaMark entry
  body : s.scope.request.head.body = []
  unusable : s.reader.usable = false
  released : Released attached others s.scope

/-- A reader with the mark it took at the start, in an arena that only grew since. -/
structure Marked (attached : Bool) (others : Nat) (entry : Arena) (s : ReaderScope) : Prop where
  mark : s.reader.mark = arenaMark entry
  since : Since entry s.arena
  tracked : Tracked attached others s.scope

structure Collecting (attached : Bool) (others : Nat) (entry : Arena) (contentLength : Nat) (chunks : List UInt8)
    (s : ReaderScope) : Prop extends Marked attached others entry s where
  usable : s.reader.usable = true
  expected : s.reader.expectedBodyBytes = contentLength
  content : s.reader.builder.content = chunks

def RequestScope.Undisturbed (scope : RequestScope) : Prop :=
  scope.stopping = false ∧ scope.request.cancellation.cancelled = false

/-- A call succeeds with something good, or fails for a reason and ends the request. -/
def Settles (attached : Bool) (others : Nat) (entry : Arena) (good : ReaderScope → Prop) (reason : Prop)
    (result : ReaderScope × Except Failure Unit) : Prop :=
  (result.2 = .ok () ∧ good result.1) ∨
    reason ∧ ∃ failure, result.2 = .error failure ∧ Ended attached others entry result.1

variable {s : ReaderScope} (hEntry : entry.offset ≤ entry.capacity)

include hEntry

section

variable (h : Marked attached others entry s)
include h

lemma Marked.fail {good : ReaderScope → Prop} {reason : Prop} (hReason : reason) {state : BodyReaderState}
    {failure : Failure} (hState : state ≠ .ready ∧ state ≠ .reading) :
    Settles attached others entry good reason (bodyReaderFail s state failure) := by
  obtain ⟨reset, hReset, hBack⟩ := h.since.arenaResetTo_ok hEntry
  have hCleared : Tracked attached others s.scope.clearBody := ⟨h.tracked.connection, h.tracked.admission⟩
  have hUnusable : ({ s.reader with state := state } : BodyReader).usable = false := by
    simp [BodyReader.usable, hState.1, hState.2]
  rw [bodyReaderFail, h.mark, hReset]
  refine Or.inr ⟨hReason, failure, rfl, hBack, ?_, hUnusable, ?_⟩
  · dsimp only
    split <;> exact congrArg RequestHead.body (releaseAdmission_head _)
  · dsimp only
    split
    · exact hCleared.terminalCancel _
    · exact hCleared.terminalCancel _
    · exact hCleared.endStream _ _

lemma Marked.check :
    Settles attached others entry (fun after => after = s ∧ s.scope.Undisturbed) (¬s.scope.Undisturbed)
      (bodyReaderCheckTerminal s) := by
  rw [bodyReaderCheckTerminal]
  split
  next hStopping =>
    refine Marked.fail hEntry ?_ ?_ (by decide)
    · exact ⟨h.mark, h.since, h.tracked.connection, h.tracked.admission⟩
    · intro hNone
      rw [hNone.1] at hStopping
      cases hStopping
  next hRunning =>
    split
    next hLive =>
      exact Or.inl ⟨rfl, rfl, Bool.not_eq_true _ ▸ hRunning, hLive⟩
    next hCancelled =>
      have hReason : ¬s.scope.Undisturbed := fun hNone => hCancelled hNone.2
      split <;> exact h.fail hEntry hReason (by decide)

lemma Marked.afterCheck {next : ReaderScope → ReaderScope × Except Failure Unit} {good : ReaderScope → Prop}
    {reason : Prop} (hNext : s.scope.Undisturbed → Settles attached others entry good reason (next s))
    (hReason : ¬s.scope.Undisturbed → reason) : Settles attached others entry good reason (afterCheck s next) := by
  have hCheck := h.check hEntry
  rw [Backend.afterCheck]
  split
  next hResult =>
    rw [hResult] at hCheck
    obtain ⟨hDone, -⟩ | ⟨hDisturbed, hFailed⟩ := hCheck
    · cases hDone
    · exact Or.inr ⟨hReason hDisturbed, hFailed⟩
  next hResult =>
    rw [hResult] at hCheck
    obtain ⟨-, rfl, hLive⟩ | ⟨-, failure, hError, -⟩ := hCheck
    · exact hNext hLive
    · cases hError

end

lemma begin_settles {scope : RequestScope} {conn : Connection} (hConn : scope.connection = some conn)
    (hTracked : Tracked attached others scope) (hState : scope.request.state = .reading)
    (hArena : scope.request.arena.isSome = true) (place : Nat)
    (contentType : List UInt8) (contentLength : Nat) :
    Settles attached others entry
      (fun s => contentLength ≤ maxBodyBytes scope conn ∧ Collecting attached others entry contentLength [] s) True
      (requestBodyReaderBegin scope entry place contentType contentLength) := by
  rw [requestBodyReaderBegin, hConn]
  dsimp only
  rw [if_neg (not_not.mpr hState)]
  have hMarked : Marked attached others entry ⟨scope, entry, { BodyReader.zero with
      request := some place
      arena := scope.request.arena
      mark := arenaMark entry
      state := .ready
      maxBodyBytes := maxBodyBytes scope conn
      expectedBodyBytes := contentLength }⟩ := ⟨rfl, .refl entry, hTracked⟩
  apply hMarked.afterCheck hEntry
  · intro _
    split
    · exact hMarked.fail hEntry trivial (by decide)
    rename_i hLimit
    split
    · exact hMarked.fail hEntry trivial (by decide)
    have hInit := since_byteBuilderInitArena (.refl entry) contentLength (maxBodyBytes scope conn)
    split
    next hFailed =>
      rw [hFailed] at hInit
      exact Marked.fail hEntry ⟨rfl, hInit, hTracked⟩ trivial (by decide)
    next hDone =>
      have hEmpty := byteBuilderInitArena_content hDone
      rw [hDone] at hInit
      refine Or.inl ⟨rfl, Nat.le_of_not_lt hLimit, ⟨rfl, hInit, hTracked⟩, ?_, rfl, hEmpty⟩
      simp [BodyReader.usable, hArena]
  · exact fun _ => trivial

variable {contentLength : Nat}

lemma Collecting.append {chunks : List UInt8} (h : Collecting attached others entry contentLength chunks s)
    (chunk : List UInt8) :
    Settles attached others entry (Collecting attached others entry contentLength (chunks ++ chunk)) True
      (requestBodyReaderAppend s chunk) := by
  rw [requestBodyReaderAppend, if_neg (by rw [h.usable]; decide)]
  apply h.toMarked.afterCheck hEntry
  · intro _
    split
    · exact h.fail hEntry trivial (by decide)
    split
    · exact h.fail hEntry trivial (by decide)
    split
    · exact h.fail hEntry trivial (by decide)
    have hArena := byteBuilderAppendBytes_arena (fun _ size align hSince => hSince.arenaAlloc size align)
      (show Since entry (⟨s.reader.builder, s.arena⟩ : BuilderState).arena from h.since) chunk
    have hContent := byteBuilderAppendBytes_content ⟨s.reader.builder, s.arena⟩ chunk
    split
    next hFailed =>
      rw [hFailed] at hArena
      refine Marked.fail hEntry ?_ trivial (by decide)
      exact ⟨h.mark, hArena, h.tracked⟩
    next hDone =>
      rw [hDone] at hArena hContent
      obtain ⟨code, hError, -⟩ | ⟨-, hText⟩ := hContent
      · cases hError
      refine Or.inl ⟨rfl, ⟨h.mark, hArena, h.tracked⟩, ?_, h.expected, ?_⟩
      · have hUsable := h.usable
        simp only [BodyReader.usable, Bool.and_eq_true] at hUsable ⊢
        exact ⟨hUsable.1, rfl⟩
      · rw [← h.content]
        exact hText
  · exact fun _ => trivial

lemma Collecting.finish {chunks : List UInt8} (h : Collecting attached others entry contentLength chunks s) :
    Settles attached others entry
      (fun after => (chunks.length = contentLength ∧ s.scope.Undisturbed) ∧ after.scope.request.head.body = chunks)
      (¬(chunks.length = contentLength ∧ s.scope.Undisturbed)) (requestBodyReaderFinish s) := by
  rw [requestBodyReaderFinish, if_neg (by rw [h.usable]; decide)]
  apply h.toMarked.afterCheck hEntry
  · intro hLive
    split
    next hLen =>
      rw [h.content, h.expected] at hLen
      exact h.fail hEntry (fun hBoth => hLen hBoth.1) (by decide)
    next hLen =>
      rw [h.content, h.expected, not_not] at hLen
      exact Or.inl ⟨rfl, ⟨hLen, hLive⟩, h.content⟩
  · exact fun hDisturbed hBoth => hDisturbed hBoth.2

/-- After any events a reader is still collecting, or a call has failed and it has ended. -/
def Reads (attached : Bool) (others : Nat) (entry : Arena) (contentLength : Nat) (run : BodyRun) : Prop :=
  (run.failed = false ∧ Collecting attached others entry contentLength run.chunks run.reader) ∨
    run.failed = true ∧ Ended attached others entry run.reader

omit hEntry in
lemma Reads.outside {run : BodyRun} (h : Reads attached others entry contentLength run) {scope : RequestScope}
    (hPassed : Passed attached others run.reader.scope scope) :
    Reads attached others entry contentLength { run with reader := { run.reader with scope := scope } } := by
  rcases h with ⟨hFailed, hCollecting⟩ | ⟨hFailed, hEnded⟩
  · exact Or.inl ⟨hFailed, ⟨hCollecting.mark, hCollecting.since, hPassed.tracked hCollecting.tracked⟩,
      hCollecting.usable, hCollecting.expected, hCollecting.content⟩
  · exact Or.inr ⟨hFailed, hEnded.arena, hPassed.head ▸ hEnded.body, hEnded.unusable, hPassed.released hEnded.released⟩

lemma Reads.step {run : BodyRun} (h : Reads attached others entry contentLength run) (event : BodyEvent) :
    Reads attached others entry contentLength (bodyStep run event) := by
  cases event with
  | append chunk =>
    rcases h with ⟨hFailed, hCollecting⟩ | ⟨hFailed, hEnded⟩
    · rcases hCollecting.append hEntry chunk with ⟨hDone, hMore⟩ | ⟨-, failure, hError, hEnded⟩
      · exact Or.inl ⟨by rw [bodyStep, hFailed, hDone]; rfl, hMore⟩
      · exact Or.inr ⟨by rw [bodyStep, hFailed, hError]; rfl, hEnded⟩
    · have hRefused : requestBodyReaderAppend run.reader chunk = (run.reader, .error invalidArgument) := by
        rw [requestBodyReaderAppend, if_pos (by rw [hEnded.unusable]; rfl)]
      refine Or.inr ⟨by rw [bodyStep, hFailed]; rfl, ?_⟩
      rw [bodyStep, hRefused]
      exact hEnded
  | cancel => exact h.outside (passed_requestCancel _ _ _)
  | timeout => exact h.outside (passed_requestTimeout _ _)
  | stop => exact h.outside (passed_backendStop _)

lemma Reads.run {start : BodyRun} (h : Reads attached others entry contentLength start) (events : List BodyEvent) :
    Reads attached others entry contentLength (events.foldl bodyStep start) := by
  induction events generalizing start with
  | nil => exact h
  | cons event events ih => exact ih (h.step hEntry event)

omit hEntry in
lemma foldl_failed {start : BodyRun} (h : start.failed = true) (events : List BodyEvent) :
    (events.foldl bodyStep start).failed = true := by
  induction events generalizing start with
  | nil => exact h
  | cons event events ih => exact ih (by cases event <;> simp [bodyStep, h])

end Reading

/-- Finishing succeeds exactly if nothing failed, all of the declared body came and nothing ended the request;
the body is then what was appended. Whatever fails leaves the arena at its mark, no body and the admission given
back once. -/
theorem bodyReader_exact {scope : RequestScope} {connection : Connection}
    (hConnection : scope.connection = some connection) (hState : scope.request.state = .reading)
    (hArena : scope.request.arena.isSome = true) {others : Nat} (hAdmitted : scope.request.admitted = true)
    (hActive : scope.backend.activeRequests = others + 1) {arena : Arena} (hOffset : arena.offset ≤ arena.capacity)
    (place : Nat) (contentType : List UInt8) (contentLength : Nat) (events : List BodyEvent) :
    let run := bodyRun scope arena place contentType contentLength events
    let finished := requestBodyReaderFinish run.reader
    (finished.2 = .ok () ↔ run.failed = false ∧ run.chunks.length = contentLength ∧ run.reader.scope.Undisturbed) ∧
      (finished.2 = .ok () → finished.1.scope.request.head.body = run.chunks) ∧
      (run.failed = false → contentLength ≤ maxBodyBytes scope connection) ∧
      (run.failed = true → Ended connection.attached others arena run.reader) ∧
      (finished.2 ≠ .ok () → Ended connection.attached others arena finished.1) := by
  intro run finished
  have hTracked : Tracked connection.attached others scope :=
    ⟨⟨connection, hConnection, rfl⟩, Or.inl ⟨hAdmitted, hActive⟩⟩
  have hBegun := begin_settles hOffset hConnection hTracked hState hArena place contentType contentLength
  have hReads : Reads connection.attached others arena contentLength run := by
    apply Reads.run hOffset
    rcases hBegun with ⟨hDone, -, hCollecting⟩ | ⟨-, failure, hError, hEnded⟩
    · exact Or.inl ⟨by rw [hDone]; rfl, hCollecting⟩
    · exact Or.inr ⟨by rw [hError]; rfl, hEnded⟩
  have hFits : run.failed = false → contentLength ≤ maxBodyBytes scope connection := by
    intro hFailed
    rcases hBegun with ⟨-, hLimit, -⟩ | ⟨-, failure, hError, -⟩
    · exact hLimit
    · have hTrue : run.failed = true := foldl_failed (by rw [hError]; rfl) events
      rw [hFailed] at hTrue
      cases hTrue
  rcases hReads with ⟨hFailed, hCollecting⟩ | ⟨hFailed, hEnded⟩
  · have hNot : run.failed ≠ true := by rw [hFailed]; decide
    rcases hCollecting.finish hOffset with ⟨hDone, hBoth, hBody⟩ | ⟨hReason, failure, hError, hEnded⟩
    · exact ⟨⟨fun _ => ⟨hFailed, hBoth⟩, fun _ => hDone⟩, fun _ => hBody, hFits, fun h => absurd h hNot,
        fun h => absurd hDone h⟩
    have hStatus : finished.2 ≠ .ok () := by
      rw [hError]
      exact nofun
    exact ⟨⟨fun h => absurd h hStatus, fun h => absurd h.2 hReason⟩, fun h => absurd h hStatus, hFits,
      fun h => absurd h hNot, fun _ => hEnded⟩
  · have hRefused : finished = (run.reader, .error invalidArgument) := by
      rw [show finished = requestBodyReaderFinish run.reader from rfl, requestBodyReaderFinish,
        if_pos (by rw [hEnded.unusable]; rfl)]
    rw [hRefused]
    refine ⟨⟨nofun, fun h => ?_⟩, nofun, hFits, fun _ => hEnded, fun _ => hEnded⟩
    rw [hFailed] at h
    cases h.1

def readingScope : RequestScope where
  backend := ⟨⟨1, 1, defaultParseOptions, false⟩, .started, .listening, 1, 1, 2, 2⟩
  connection := some { Connection.zero with attached := true, id := 1, requestCount := 1 }
  request :=
    { RequestLifecycle.zero with connection := some 0, arena := some 0, id := 1, state := .reading, admitted := true }

theorem bodyReader_exact_text :
    (requestBodyReaderFinish (bodyRun readingScope ⟨16, 64, 0, 0, 1⟩ 0 (literal "text/plain") 2
      [.append (literal "o"), .append (literal "k")]).reader).1.scope.request.head.body = literal "ok" :=
  (@bodyReader_exact readingScope _ rfl rfl rfl 0 rfl rfl ⟨16, 64, 0, 0, 1⟩ (by decide) 0
    (literal "text/plain") 2 [.append (literal "o"), .append (literal "k")]).2.1 (by decide +kernel)

/-- The request is cancelled behind the last chunk: no append has failed, and finishing does. -/
theorem bodyReader_cancelledBeforeFinish :
    let run := bodyRun readingScope ⟨16, 64, 0, 0, 1⟩ 0 (literal "text/plain") 2
      [.append (literal "ok"), .cancel .cancelled []]
    run.failed = false ∧ run.chunks.length = 2 ∧ (requestBodyReaderFinish run.reader).2 = .error cancelledDiag := by
  decide +kernel

end Sloppy.Backend
