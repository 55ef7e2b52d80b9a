import Sloppy.Backend.Server
import Sloppy.Http2.Dispatcher

/-! # The slots of the HTTP/2 server dispatcher

Apart from opening a stream, whatever the dispatcher does closes slots and keeps the streams of the others. From this
relation follow the count of the active slots and that their streams are distinct.
-/

namespace Sloppy.Http2.ServerDispatcher

open Http Backend Lib List

variable {world : Surroundings} {disp before middle after : ServerDispatcher} {place : Nat} {stream : DispatchStream}

def Counted (dispatcher : ServerDispatcher) : Prop :=
  dispatcher.activeStreams = dispatcher.streams.countP (·.active)

def Carries (earlier later : DispatchStream) : Prop :=
  later.streamId = earlier.streamId ∧ later.serial = earlier.serial ∧ later.headersSeen = earlier.headersSeen

lemma Carries.refl (stream : DispatchStream) : Carries stream stream := ⟨rfl, rfl, rfl⟩

lemma Carries.trans {first second third : DispatchStream} (h : Carries first second)
    (hNext : Carries second third) : Carries first third :=
  ⟨hNext.1.trans h.1, hNext.2.1.trans h.2.1, hNext.2.2.trans h.2.2⟩

structure Progress where
  config : DispatchConfig
  opened : Nat
  invoked : List Nat
  submitFailed : Bool

def progress (dispatcher : ServerDispatcher) : Progress :=
  ⟨dispatcher.config, dispatcher.trace.opened, dispatcher.trace.invoked, dispatcher.trace.submitFailed⟩

/-- Slots may have been closed; an active one still carries its stream. No stream is opened and the hook is not
called. -/
structure Steady (before after : ServerDispatcher) : Prop where
  length : after.streams.length = before.streams.length
  counted : before.Counted → after.Counted
  slots : ∀ {place : Nat} {later : DispatchStream}, after.streams[place]? = some later → later.active = true →
    ∃ earlier, before.streams[place]? = some earlier ∧ earlier.active = true ∧ Carries earlier later
  progress : after.progress = before.progress

lemma Steady.trans (h : Steady before middle) (hNext : Steady middle after) : Steady before after where
  length := hNext.length.trans h.length
  counted hCounted := hNext.counted (h.counted hCounted)
  slots hLater hActive := by
    obtain ⟨mid, hMid, hMidActive, hLast⟩ := hNext.slots hLater hActive
    obtain ⟨earlier, hEarlier, hWas, hFirst⟩ := h.slots hMid hMidActive
    exact ⟨earlier, hEarlier, hWas, hFirst.trans hLast⟩
  progress := hNext.progress.trans h.progress

lemma Steady.of_slots (hStreams : after.streams = before.streams)
    (hCount : after.activeStreams = before.activeStreams) (hProgress : after.progress = before.progress) :
    Steady before after where
  length := by rw [hStreams]
  counted hCounted := by rw [Counted, hStreams, hCount, hCounted]
  slots hLater hActive := by
    rw [hStreams] at hLater
    exact ⟨_, hLater, hActive, .refl _⟩
  progress := hProgress

lemma countP_putStream (hAt : disp.streams[place]? = some stream) (later : DispatchStream) :
    (disp.putStream place later).streams.countP (·.active) + stream.active.toNat =
      disp.streams.countP (·.active) + later.active.toNat := by
  obtain ⟨hBound, hGet⟩ := List.getElem_of_getElem? hAt
  have hPositive : stream.active = true → 0 < disp.streams.countP (·.active) := fun hActive =>
    countP_pos_iff.mpr ⟨stream, mem_of_getElem? hAt, hActive⟩
  rw [putStream, countP_set hBound, hGet]
  -- The counted slot is one of those, so that taking it away is no truncation.
  cases hWas : stream.active with
  | false => cases later.active <;> rfl
  | true =>
    have hCount := hPositive hWas
    cases later.active <;>
      simp only [Bool.toNat_true, Bool.toNat_false, if_true, Bool.false_eq_true, if_false] <;> omega

variable {later : DispatchStream}

lemma putStream_getElem? {found : DispatchStream} {other : Nat}
    (h : (disp.putStream place later).streams[other]? = some found) :
    other = place ∧ found = later ∨ disp.streams[other]? = some found :=
  (getElem?_set_cases h).imp_right And.right

lemma Steady.putStream (hAt : disp.streams[place]? = some stream) (hActive : later.active = stream.active)
    (hCarries : Carries stream later) : Steady disp (disp.putStream place later) := by
  refine ⟨length_set, fun hCounted => ?_, fun {other found} hFound hFoundActive => ?_, rfl⟩
  · have hSum := countP_putStream hAt later
    rw [hActive] at hSum
    exact hCounted.trans (Nat.add_right_cancel hSum).symm
  · obtain ⟨rfl, rfl⟩ | hOther := putStream_getElem? hFound
    · exact ⟨stream, hAt, hActive ▸ hFoundActive, hCarries⟩
    · exact ⟨found, hOther, hFoundActive, .refl found⟩

lemma closeStream_steady (place : Nat) (disp : ServerDispatcher) : Steady disp (disp.closeStream place) := by
  rw [closeStream]
  split
  · exact .of_slots rfl rfl rfl
  rename_i stream hAt
  split
  next hActive =>
    refine ⟨length_set, fun hCounted => ?_, fun {other found} hFound hFoundActive => ?_, rfl⟩
    · have hSum := countP_putStream hAt stream.close
      rw [hActive] at hSum
      change _ + 1 = _ + 0 at hSum
      rw [Counted] at hCounted ⊢
      change disp.activeStreams - 1 = (disp.putStream place stream.close).streams.countP (·.active)
      omega
    · have hWritten : (disp.putStream place stream.close).streams[other]? = some found := hFound
      obtain ⟨-, rfl⟩ | hOther := putStream_getElem? hWritten
      · cases hFoundActive
      · exact ⟨found, hOther, hFoundActive, .refl found⟩
  · exact .of_slots rfl rfl rfl

lemma closeFound_steady (sid : Int) (disp : ServerDispatcher) : Steady disp (disp.closeFound sid) := by
  rw [closeFound]
  split
  · exact .of_slots rfl rfl rfl
  · exact closeStream_steady _ disp

lemma resetStream_steady (world : Surroundings) (sid : Int) (code : ResetCode) (disp : ServerDispatcher) :
    Steady disp (disp.resetStream world sid code).1 := by
  rw [resetStream]
  split
  · exact .of_slots rfl rfl rfl
  · refine Steady.trans ?_ (closeFound_steady sid _)
    exact .of_slots rfl rfl rfl

lemma failAndReset_steady (world : Surroundings) (sid : Int) (scope : RequestScope)
    (disp : ServerDispatcher) : Steady disp (disp.failAndReset world sid scope) := by
  refine Steady.trans ?_ (resetStream_steady world sid .internalError _)
  exact .of_slots rfl rfl rfl

/-- Once the hook has been called, only a response that is not taken makes the call fail. -/
lemma writeResponse_cases (world : Surroundings) (sid : Int) (scope : RequestScope) (resp : Response)
    (disp : ServerDispatcher) :
    Steady disp (disp.writeResponse world sid scope resp).1 ∧ (disp.writeResponse world sid scope resp).2 = .ok () ∨
      Steady disp.noteSubmitFailed (disp.writeResponse world sid scope resp).1 ∧
        ∃ code, (disp.writeResponse world sid scope resp).2 = .error code := by
  rw [writeResponse]
  split
  · exact .inl ⟨failAndReset_steady world sid _ disp, rfl⟩
  rename_i hBegin
  split
  · refine .inl ⟨Steady.trans ?_ (failAndReset_steady world sid _ _), rfl⟩
    exact .of_slots rfl rfl rfl
  split
  · exact .inr ⟨.of_slots rfl rfl rfl, _, rfl⟩
  · obtain ⟨done, hDone⟩ := requestComplete_ok (requestBeginWrite_ok hBegin)
    rw [hDone]
    exact .inl ⟨.of_slots rfl rfl rfl, rfl⟩

lemma submitResponseForRequest_cases (world : Surroundings) (serial : Nat) (sid : Int)
    (req : RequestLifecycle) (disp : ServerDispatcher) :
    Steady disp (disp.submitResponseForRequest world serial sid req).1 ∨
      Steady (disp.noteInvoked serial) (disp.submitResponseForRequest world serial sid req).1 ∧
        (disp.submitResponseForRequest world serial sid req).2 = .ok () ∨
      Steady (disp.noteInvoked serial).noteSubmitFailed (disp.submitResponseForRequest world serial sid req).1 ∧
        ∃ code, (disp.submitResponseForRequest world serial sid req).2 = .error code := by
  rw [submitResponseForRequest]
  split
  · exact .inl (.of_slots rfl rfl rfl)
  split
  · refine .inl (Steady.trans ?_ (resetStream_steady world sid .refusedStream _))
    exact .of_slots rfl rfl rfl
  split
  rename_i scope arena outcome hCall
  right
  obtain ⟨hWritten, hOk⟩ | ⟨hFailed, hCode⟩ := writeResponse_cases world sid scope (responseFor outcome)
    ({ disp with arena := arena, calls := disp.calls + 1 }.noteInvoked serial)
  · refine .inl ⟨Steady.trans ?_ hWritten, hOk⟩
    exact .of_slots rfl rfl rfl
  · refine .inr ⟨Steady.trans ?_ hFailed, hCode⟩
    exact .of_slots rfl rfl rfl

def Vacant (place : Nat) (dispatcher : ServerDispatcher) : Prop :=
  ∀ {stream : DispatchStream}, dispatcher.streams[place]? = some stream → stream.active = false

lemma closeStream_vacant (place : Nat) (disp : ServerDispatcher) : (disp.closeStream place).Vacant place := by
  intro found hFound
  rw [closeStream] at hFound
  split at hFound
  next hNone =>
    rw [hNone] at hFound
    cases hFound
  next stream hAt =>
    split at hFound
    · have hWritten : (disp.putStream place stream.close).streams[place]? = some found := hFound
      rw [putStream, getElem?_set_self (List.getElem_of_getElem? hAt).1] at hWritten
      cases hWritten
      rfl
    next hInactive =>
      rw [hAt] at hFound
      cases hFound
      exact Bool.eq_false_of_not_eq_true hInactive

lemma answerStream_cases (world : Surroundings) (place : Nat) (stream : DispatchStream)
    (headers : List HeaderField) (body : List UInt8) (disp : ServerDispatcher) :
    Steady disp (disp.answerStream world place stream headers body).1 ∨ Steady (disp.noteInvoked stream.serial)
          (disp.answerStream world place stream headers body).1 ∧
        (disp.answerStream world place stream headers body).1.Vacant place ∨
      Steady (disp.noteInvoked stream.serial).noteSubmitFailed
          (disp.answerStream world place stream headers body).1 ∧
        ∃ code, (disp.answerStream world place stream headers body).2 = .error code := by
  rw [answerStream]
  split
  · refine .inl (Steady.trans ?_ (resetStream_steady world stream.streamId .protocolError _))
    exact .of_slots rfl rfl rfl
  rename_i mapped hMap
  have hCases := submitResponseForRequest_cases world stream.serial stream.streamId mapped.scope.request
    ({ disp with arena := mapped.arena }.put mapped.scope)
  split
  next code hAnswer =>
    rw [hAnswer] at hCases
    obtain hSteady | ⟨-, hOk⟩ | ⟨hFailed, -⟩ := hCases
    · refine .inl (Steady.trans ?_ hSteady)
      exact .of_slots rfl rfl rfl
    · cases hOk
    · refine .inr (.inr ⟨Steady.trans ?_ hFailed, code, rfl⟩)
      exact .of_slots rfl rfl rfl
  next answered hAnswer =>
    rw [hAnswer] at hCases
    obtain hSteady | ⟨hCalled, -⟩ | ⟨-, code, hFailed⟩ := hCases
    · refine .inl (Steady.trans (Steady.trans ?_ hSteady) (closeStream_steady place answered))
      exact .of_slots rfl rfl rfl
    · refine .inr (.inl ⟨Steady.trans (Steady.trans ?_ hCalled) (closeStream_steady place answered),
        closeStream_vacant place answered⟩)
      exact .of_slots rfl rfl rfl
    · cases hFailed

lemma completeStream_cases (world : Surroundings) (place : Nat) (disp : ServerDispatcher) :
    Steady disp (disp.completeStream world place).1 ∨
      ∃ stream, disp.streams[place]? = some stream ∧ stream.active = true ∧
        (Steady (disp.noteInvoked stream.serial) (disp.completeStream world place).1 ∧
            (disp.completeStream world place).1.Vacant place ∨
          Steady (disp.noteInvoked stream.serial).noteSubmitFailed (disp.completeStream world place).1 ∧
            ∃ code, (disp.completeStream world place).2 = .error code) := by
  rw [completeStream]
  split
  · exact .inl (.of_slots rfl rfl rfl)
  rename_i stream hAt
  split
  · exact .inl (.of_slots rfl rfl rfl)
  rename_i hOpen
  have hActive : stream.active = true := by
    rw [Bool.or_eq_true, not_or, Bool.not_eq_true, Bool.not_eq_false'] at hOpen
    exact hOpen.1
  obtain hKept | ⟨hCalled, hVacant⟩ | ⟨hFailed, hCode⟩ := answerStream_cases world place stream
    (disp.readStream world stream).1 (disp.readStream world stream).2 disp
  · exact .inl hKept
  · exact .inr ⟨stream, hAt, hActive, .inl ⟨hCalled, hVacant⟩⟩
  · exact .inr ⟨stream, hAt, hActive, .inr ⟨hFailed, hCode⟩⟩

lemma streamAt_eq (h : disp.streams[place]? = some stream) : disp.streamAt place = stream := by
  rw [streamAt, getD_eq_getElem?_getD, h, Option.getD_some]

lemma streamAt_active (h : (disp.streamAt place).active = true) :
    disp.streams[place]? = some (disp.streamAt place) := by
  cases hAt : disp.streams[place]? with
  | none =>
    rw [streamAt, getD_eq_getElem?_getD, hAt] at h
    cases h
  | some => rw [streamAt_eq hAt]

variable {sid : Int}

lemma findStream_some (h : disp.findStream sid = some place) :
    disp.streams[place]? = some (disp.streamAt place) := by
  rw [findStream] at h
  split at h
  · cases h
  obtain ⟨hBound, -⟩ := findIdx?_eq_some_iff_getElem.mp h
  have hAt := getElem?_eq_getElem hBound
  rw [streamAt_eq hAt]
  exact hAt

lemma findStream_none (hPositive : 0 < sid) (h : disp.findStream sid = none)
    (hAt : disp.streams[place]? = some stream) (hActive : stream.active = true) : stream.streamId ≠ sid := by
  rw [findStream, if_neg (Int.not_le.mpr hPositive), findIdx?_eq_none_iff] at h
  have hOther := h stream (mem_of_getElem? hAt)
  rw [hActive, Bool.true_and, beq_eq_false_iff_ne] at hOther
  exact hOther

lemma markStreamComplete_steady (place : Nat) (disp : ServerDispatcher) :
    Steady disp (disp.markStreamComplete place).1 := by
  rw [markStreamComplete]
  split
  · exact .of_slots rfl rfl rfl
  rename_i hOpen
  rw [Bool.or_eq_true, not_or, Bool.not_eq_true, Bool.not_eq_false'] at hOpen
  exact .putStream (streamAt_active hOpen.1) rfl ⟨rfl, rfl, rfl⟩

lemma storeBody_steady (h : disp.findStream sid = some place) (state : Growing.BuilderState) :
    Steady disp (disp.storeBody place state) := by
  let room : ServerDispatcher := { disp with arena := state.arena }
  have hRoom : Steady disp room := .of_slots rfl rfl rfl
  have hAt : room.streams[place]? = some (disp.streamAt place) := findStream_some h
  exact hRoom.trans (.putStream hAt rfl ⟨rfl, rfl, rfl⟩)

section

variable (event : DispatchEvent) (disp : ServerDispatcher)

lemma handleData_steady : Steady disp (disp.handleData world event).1 := by
  rw [handleData]
  split
  · exact resetStream_steady world event.streamId .streamClosed disp
  rename_i hFound
  dsimp only
  split
  · exact resetStream_steady _ _ _ _
  split
  · exact (storeBody_steady hFound _).trans (resetStream_steady _ _ _ _)
  · split
    · exact (storeBody_steady hFound _).trans (markStreamComplete_steady _ _)
    · exact storeBody_steady hFound _

lemma handleStreamEnd_steady : Steady disp (disp.handleStreamEnd event).1 := by
  rw [handleStreamEnd]
  split
  · exact .of_slots rfl rfl rfl
  · exact markStreamComplete_steady _ _

lemma handleTrailers_steady : Steady disp (disp.handleTrailers world event).1 := by
  rw [handleTrailers]
  split
  · exact resetStream_steady _ _ _ _
  split
  · exact resetStream_steady _ _ _ _
  · split
    · exact resetStream_steady _ _ _ _
    · exact markStreamComplete_steady _ _

end

lemma resetArena_steady (mark : ArenaMark) (disp : ServerDispatcher) : Steady disp (disp.resetArena mark).1 := by
  rw [resetArena]
  split
  · exact .of_slots rfl rfl rfl
  · exact .of_slots rfl rfl rfl

lemma forgetStreamBodyMarks_steady (disp : ServerDispatcher) : Steady disp disp.forgetStreamBodyMarks := by
  refine ⟨length_map _, fun hCounted => ?_, fun {place later} hLater hActive => ?_, rfl⟩
  · rw [Counted, forgetStreamBodyMarks, countP_map]
    exact hCounted
  · rw [forgetStreamBodyMarks, getElem?_map, Option.map_eq_some_iff] at hLater
    obtain ⟨earlier, hEarlier, rfl⟩ := hLater
    exact ⟨earlier, hEarlier, hActive, rfl, rfl, rfl⟩

lemma deliver_steady (delivered : List Delivery) (disp : ServerDispatcher) :
    Steady disp (disp.deliver delivered).1 := by
  induction delivered generalizing disp with
  | nil => exact .of_slots rfl rfl rfl
  | cons delivery rest ih =>
    rw [deliver]
    split
    · exact .of_slots rfl rfl rfl
    · refine Steady.trans ?_ (ih _)
      exact .of_slots rfl rfl rfl

lemma sessionReceive_steady (delivered : List Delivery) (failure : Option StatusCode)
    (disp : ServerDispatcher) : Steady disp (disp.sessionReceive delivered failure).1 := by
  have hDelivered := deliver_steady delivered disp
  rw [sessionReceive]
  split
  next hDeliver =>
    rw [hDeliver] at hDelivered
    exact hDelivered.trans (.of_slots rfl rfl rfl)
  next hDeliver =>
    rw [hDeliver] at hDelivered
    cases failure with
    | some | none => exact hDelivered.trans (.of_slots rfl rfl rfl)

lemma drainOutput_steady (sent : List (List UInt8)) (disp : ServerDispatcher) :
    Steady disp (disp.drainOutput sent).1 :=
  .of_slots rfl rfl rfl

section Opening

/-- One vacant slot takes a stream of a new number, and no active slot carries its identifier yet. -/
structure Opens (streamId : Int) (before after : ServerDispatcher) : Prop where
  positive : 0 < streamId
  fresh : ∀ {place : Nat} {earlier : DispatchStream}, before.streams[place]? = some earlier → earlier.active = true →
    earlier.streamId ≠ streamId
  length : after.streams.length = before.streams.length
  counted : before.Counted → after.Counted
  slots : ∃ slot : Nat, ∀ {place : Nat} {later : DispatchStream}, after.streams[place]? = some later →
    later.active = true →
    (∃ earlier, before.streams[place]? = some earlier ∧ earlier.active = true ∧ Carries earlier later) ∨
      place = slot ∧ later.streamId = streamId ∧ later.serial = before.trace.opened ∧ later.headersSeen = true
  config : after.config = before.config
  opened : after.trace.opened = before.trace.opened + 1
  invoked : after.trace.invoked = before.trace.invoked

lemma putStream_steady (hVacant : disp.Vacant place) {later : DispatchStream} (hInactive : later.active = false) :
    Steady disp (disp.putStream place later) := by
  cases hAt : disp.streams[place]? with
  | none =>
    have hSame : (disp.putStream place later).streams = disp.streams :=
      set_eq_of_length_le (List.getElem?_eq_none_iff.mp hAt)
    exact .of_slots hSame rfl rfl
  | some =>
    refine ⟨length_set, fun hCounted => ?_, fun {other found} hFound hActive => ?_, rfl⟩
    · have hSum := countP_putStream hAt later
      rw [hInactive, hVacant hAt] at hSum
      exact hCounted.trans hSum.symm
    · obtain ⟨-, rfl⟩ | hOther := putStream_getElem? hFound
      · rw [hInactive] at hActive
        cases hActive
      · exact ⟨found, hOther, hActive, .refl found⟩

lemma Steady.vacant (h : Steady before after) (hVacant : before.Vacant place) : after.Vacant place := by
  intro later hLater
  refine Bool.eq_false_of_not_eq_true fun hActive => ?_
  obtain ⟨earlier, hEarlier, hWas, -⟩ := h.slots hLater hActive
  rw [hVacant hEarlier] at hWas
  cases hWas

lemma streamAt_vacant (hVacant : disp.Vacant place) : (disp.streamAt place).active = false := by
  refine Bool.eq_false_of_not_eq_true fun hActive => ?_
  rw [hVacant (streamAt_active hActive)] at hActive
  cases hActive

lemma reclaimBody_steady (hVacant : disp.Vacant place) : Steady disp (disp.reclaimBody world place).1 := by
  have hReset := resetArena_steady (disp.streamAt place).bodyMark disp
  rw [reclaimBody]
  split
  · split
    next hFailed =>
      rw [hFailed] at hReset
      exact hReset
    next hDone =>
      rw [hDone] at hReset
      exact hReset.trans (putStream_steady (hReset.vacant hVacant) (streamAt_vacant hVacant))
  · exact .of_slots rfl rfl rfl

def openedStream (event : DispatchEvent) (serial : Nat) (mark : ArenaMark) (stop : Nat) (body : Growing.ByteBuilder) :
    DispatchStream where
  streamId := event.streamId
  active := true
  headersSeen := true
  completePending := false
  headers := event.headers
  body := body
  bodyMark := mark
  bodyMarkValid := true
  headersStop := event.stop
  bodyStop := stop
  serial := serial

def counting (arena : Arena) (dispatcher : ServerDispatcher) : ServerDispatcher :=
  { dispatcher with
    arena := arena
    activeStreams := dispatcher.activeStreams + 1
    trace := { dispatcher.trace with opened := dispatcher.trace.opened + 1 } }

variable {event : DispatchEvent} {found : Nat}

lemma openStream_stored {taken : ServerDispatcher} (hBound : place < disp.streams.length)
    (hOpen : disp.openStream place event.streamId = (taken, .ok found)) :
    ∃ arena body, taken.storeHeaders event place = (disp.counting arena).putStream place
      (openedStream event disp.trace.opened (arenaMark disp.arena) arena.offset body) := by
  rw [openStream] at hOpen
  split at hOpen
  · cases hOpen
  rename_i arena body _
  cases hOpen
  refine ⟨arena, body, ?_⟩
  simp only [storeHeaders, putStream, streamAt, getD_eq_getElem?_getD, getElem?_set_self hBound,
    Option.getD_some, set_set]
  rfl

lemma openStream_opens {arena : Arena} {body : Growing.ByteBuilder} {stop : Nat} {mark : ArenaMark}
    (hPositive : 0 < event.streamId) (hFresh : before.findStream event.streamId = none) (hSteady : Steady before middle)
    (hVacant : middle.Vacant place) (hBound : place < middle.streams.length) :
    Opens event.streamId before ((middle.counting arena).putStream place
      (openedStream event middle.trace.opened mark stop body)) := by
  have hAt : middle.streams[place]? = some middle.streams[place] := getElem?_eq_getElem hBound
  have hOpened : middle.trace.opened = before.trace.opened := congrArg Progress.opened hSteady.progress
  constructor
  · exact hPositive
  · exact fun hEarlier hActive => findStream_none hPositive hFresh hEarlier hActive
  · exact length_set.trans hSteady.length
  · intro hCounted
    have hSum := countP_putStream hAt (openedStream event middle.trace.opened mark stop body)
    rw [hVacant hAt] at hSum
    have hMiddle := hSteady.counted hCounted
    change middle.activeStreams + 1 = _
    rw [hMiddle]
    exact hSum.symm
  · refine ⟨place, fun {other later} hLater hActive => ?_⟩
    obtain ⟨rfl, rfl⟩ | hOther := putStream_getElem? hLater
    · exact .inr ⟨rfl, rfl, hOpened, rfl⟩
    · exact .inl (hSteady.slots hOther hActive)
  · exact congrArg Progress.config hSteady.progress
  · exact congrArg (· + 1) hOpened
  · exact congrArg Progress.invoked hSteady.progress

/-- A slot is claimed: it is vacant, and its last body has been given back where that was possible. -/
structure Claims (streamId : Int) (place : Nat) (before middle taken : ServerDispatcher) : Prop where
  positive : 0 < streamId
  fresh : before.findStream streamId = none
  bound : place < middle.streams.length
  vacant : middle.Vacant place
  steady : Steady before middle
  takes : middle.openStream place streamId = (taken, .ok place)

variable {sid : Int}

lemma openStream_error {code : StatusCode} (hVacant : disp.Vacant place)
    (h : disp.openStream place sid = (after, .error code)) : Steady disp after := by
  rw [openStream] at h
  split at h
  next arena _ _ =>
    cases h
    let room : ServerDispatcher := { disp with arena := arena }
    have hRoom : Steady disp room := .of_slots rfl rfl rfl
    exact hRoom.trans (putStream_steady (hRoom.vacant hVacant) (streamAt_vacant hVacant))
  · cases h

lemma openStream_ok (h : disp.openStream place sid = (after, .ok found)) : found = place := by
  rw [openStream] at h
  split at h
  · cases h
  · cases h
    rfl

lemma claimStream_cases (world : Surroundings) (sid : Int) (disp : ServerDispatcher) :
    (∃ after code, disp.claimStream world sid = (after, .error code) ∧ Steady disp after) ∨
      ∃ place middle taken, Claims sid place disp middle taken ∧
        disp.claimStream world sid = (taken, .ok place) := by
  rw [claimStream]
  split
  · exact .inl ⟨_, _, rfl, .of_slots rfl rfl rfl⟩
  rename_i hPositive
  split
  · exact .inl ⟨_, _, rfl, .of_slots rfl rfl rfl⟩
  rename_i hRoom
  rw [not_or, Bool.not_eq_true, Option.isSome_eq_false_iff, Option.isNone_iff_eq_none] at hRoom
  split
  · exact .inl ⟨_, _, rfl, .of_slots rfl rfl rfl⟩
  rename_i place hFound
  obtain ⟨hBound, hInactive, -⟩ := findIdx?_eq_some_iff_getElem.mp hFound
  have hVacant : disp.Vacant place := by
    intro stream hAt
    rw [getElem?_eq_getElem hBound] at hAt
    cases hAt
    rw [Bool.not_eq_true'] at hInactive
    exact hInactive
  have hSteady : Steady disp (disp.reclaimBody world place).1 := reclaimBody_steady hVacant
  split
  next hReclaim =>
    rw [hReclaim] at hSteady
    exact .inl ⟨_, _, rfl, hSteady⟩
  next middle hReclaim =>
    rw [hReclaim] at hSteady
    have hMiddle : middle.Vacant place := hSteady.vacant hVacant
    cases hOpen : middle.openStream place sid with
    | mk taken result =>
      cases result with
      | error code => exact .inl ⟨taken, code, rfl, hSteady.trans (openStream_error hMiddle hOpen)⟩
      | ok =>
        cases openStream_ok hOpen
        exact .inr ⟨place, middle, taken, ⟨Int.not_le.mp hPositive, hRoom.1, hSteady.length ▸ hBound, hMiddle,
          hSteady, hOpen⟩, rfl⟩

lemma handleRequestHeaders_cases (world : Surroundings) (event : DispatchEvent) (disp : ServerDispatcher) :
    Steady disp (disp.handleRequestHeaders world event).1 ∨ ∃ opened, Opens event.streamId disp opened ∧
        Steady opened (disp.handleRequestHeaders world event).1 := by
  rw [handleRequestHeaders]
  obtain ⟨refused, code, hRefused, hSteady⟩ | ⟨place, middle, taken, hClaims, hClaimed⟩ :=
    claimStream_cases world event.streamId disp
  · rw [hRefused]
    exact .inl (hSteady.trans (resetStream_steady world event.streamId .refusedStream refused))
  · rw [hClaimed]
    obtain ⟨arena, body, hStored⟩ := openStream_stored hClaims.bound hClaims.takes
    have hOpens : Opens event.streamId disp (taken.storeHeaders event place) := by
      rw [hStored]
      exact openStream_opens hClaims.positive hClaims.fresh hClaims.steady hClaims.vacant hClaims.bound
    refine .inr ⟨_, hOpens, ?_⟩
    dsimp only
    split
    · exact markStreamComplete_steady place _
    · exact .of_slots rfl rfl rfl

end Opening

end Sloppy.Http2.ServerDispatcher
