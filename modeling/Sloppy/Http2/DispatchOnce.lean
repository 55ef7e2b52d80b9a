import Mathlib.Data.List.Nodup
import Sloppy.Http2.DispatchSlots

/-! # Streams of the HTTP/2 server dispatcher are answered once

As long as every response has been taken by the session, no active slot carries a stream for which the hook has been
called; a response that is not taken ends the call and leaves its stream active.
-/

namespace Sloppy.Http2.ServerDispatcher

open Http Backend Lib List

variable {world : Surroundings} {dispatcher before middle after : ServerDispatcher}

def Active (dispatcher : ServerDispatcher) (place : Nat) (stream : DispatchStream) : Prop :=
  dispatcher.streams[place]? = some stream ∧ stream.active = true

/-- The slots and their counter agree, and no two active slots carry the same stream. -/
structure Formed (dispatcher : ServerDispatcher) : Prop where
  length : dispatcher.streams.length = dispatcher.config.maxStreams
  counted : dispatcher.Counted
  positive : ∀ {place stream}, dispatcher.Active place stream → 0 < stream.streamId
  seen : ∀ {place stream}, dispatcher.Active place stream → stream.headersSeen = true
  numbered : ∀ {place stream}, dispatcher.Active place stream → stream.serial < dispatcher.trace.opened
  ids : ∀ {first second stream other}, dispatcher.Active first stream → dispatcher.Active second other →
    stream.streamId = other.streamId → first = second
  serials : ∀ {first second stream other}, dispatcher.Active first stream → dispatcher.Active second other →
    stream.serial = other.serial → first = second
  past : ∀ serial ∈ dispatcher.trace.invoked, serial < dispatcher.trace.opened

lemma Formed.initial (cfg : DispatchConfig) (places : Places) (backend : HttpBackend)
    (conn : Backend.Connection) (arena : Arena) (outbound : Growing.ByteBuilder) :
    (ServerDispatcher.initial cfg places backend conn arena outbound).Formed := by
  have hNone : ∀ {place stream},
      ¬(ServerDispatcher.initial cfg places backend conn arena outbound).Active place stream := by
    rintro place stream ⟨hAt, hActive⟩
    have hZero := eq_of_mem_replicate (mem_of_getElem? hAt)
    rw [hZero] at hActive
    cases hActive
  refine ⟨length_replicate, ?_, fun h => absurd h hNone, fun h => absurd h hNone, fun h => absurd h hNone,
    fun h => absurd h hNone, fun h => absurd h hNone, forall_mem_nil _⟩
  rw [Counted, ServerDispatcher.initial, countP_replicate]
  rfl

lemma Formed.steady (h : Formed before) (hSteady : Steady before after) : Formed after := by
  have hCfg : after.config = before.config := congrArg Progress.config hSteady.progress
  have hOpened : after.trace.opened = before.trace.opened := congrArg Progress.opened hSteady.progress
  have hInvoked : after.trace.invoked = before.trace.invoked := congrArg Progress.invoked hSteady.progress
  have hEarlier : ∀ {place later}, after.Active place later →
      ∃ earlier, before.Active place earlier ∧ Carries earlier later := fun hLater => by
    obtain ⟨earlier, hAt, hActive, hCarries⟩ := hSteady.slots hLater.1 hLater.2
    exact ⟨earlier, ⟨hAt, hActive⟩, hCarries⟩
  constructor
  · rw [hSteady.length, h.length, hCfg]
  · exact hSteady.counted h.counted
  · intro place later hLater
    obtain ⟨earlier, hActive, hId, -⟩ := hEarlier hLater
    rw [hId]
    exact h.positive hActive
  · intro place later hLater
    obtain ⟨earlier, hActive, -, -, hSeen⟩ := hEarlier hLater
    rw [hSeen]
    exact h.seen hActive
  · intro place later hLater
    obtain ⟨earlier, hActive, -, hSerial, -⟩ := hEarlier hLater
    rw [hSerial, hOpened]
    exact h.numbered hActive
  · intro first second later other hLater hOther hSame
    obtain ⟨earlier, hActive, hId, -⟩ := hEarlier hLater
    obtain ⟨otherEarlier, hOtherActive, hOtherId, -⟩ := hEarlier hOther
    exact h.ids hActive hOtherActive (by rw [← hId, ← hOtherId, hSame])
  · intro first second later other hLater hOther hSame
    obtain ⟨earlier, hActive, -, hSerial, -⟩ := hEarlier hLater
    obtain ⟨otherEarlier, hOtherActive, -, hOtherSerial, -⟩ := hEarlier hOther
    exact h.serials hActive hOtherActive (by rw [← hSerial, ← hOtherSerial, hSame])
  · rw [hInvoked, hOpened]
    exact h.past

lemma Formed.opens {sid : Int} (h : Formed before) (hOpens : Opens sid before after) : Formed after := by
  obtain ⟨slot, hSlots⟩ := hOpens.slots
  have hCases : ∀ {place later}, after.Active place later →
      (∃ earlier, before.Active place earlier ∧ Carries earlier later) ∨
        place = slot ∧ later.streamId = sid ∧ later.serial = before.trace.opened ∧
          later.headersSeen = true := fun hLater => by
    obtain ⟨earlier, hAt, hActive, hCarries⟩ | hNew := hSlots hLater.1 hLater.2
    · exact .inl ⟨earlier, ⟨hAt, hActive⟩, hCarries⟩
    · exact .inr hNew
  constructor
  · rw [hOpens.length, h.length, hOpens.config]
  · exact hOpens.counted h.counted
  · intro place later hLater
    obtain ⟨earlier, hActive, hId, -⟩ | ⟨-, hId, -⟩ := hCases hLater
    · rw [hId]
      exact h.positive hActive
    · rw [hId]
      exact hOpens.positive
  · intro place later hLater
    obtain ⟨earlier, hActive, -, -, hSeen⟩ | ⟨-, -, -, hSeen⟩ := hCases hLater
    · rw [hSeen]
      exact h.seen hActive
    · exact hSeen
  · intro place later hLater
    rw [hOpens.opened]
    obtain ⟨earlier, hActive, -, hSerial, -⟩ | ⟨-, -, hSerial, -⟩ := hCases hLater
    · rw [hSerial]
      exact Nat.lt_succ_of_lt (h.numbered hActive)
    · rw [hSerial]
      exact Nat.lt_succ_self _
  · intro first second later other hLater hOther hSame
    obtain ⟨earlier, hActive, hId, -⟩ | ⟨hFirst, hId, -⟩ := hCases hLater
    · obtain ⟨otherEarlier, hOtherActive, hOtherId, -⟩ | ⟨-, hOtherId, -⟩ := hCases hOther
      · exact h.ids hActive hOtherActive (by rw [← hId, ← hOtherId, hSame])
      · exact absurd (by rw [← hId, hSame, hOtherId]) (hOpens.fresh hActive.1 hActive.2)
    · obtain ⟨otherEarlier, hOtherActive, hOtherId, -⟩ | ⟨hSecond, -⟩ := hCases hOther
      · exact absurd (by rw [← hOtherId, ← hSame, hId]) (hOpens.fresh hOtherActive.1 hOtherActive.2)
      · rw [hFirst, hSecond]
  · intro first second later other hLater hOther hSame
    obtain ⟨earlier, hActive, -, hSerial, -⟩ | ⟨hFirst, -, hSerial, -⟩ := hCases hLater
    · have hLess := h.numbered hActive
      obtain ⟨otherEarlier, hOtherActive, -, hOtherSerial, -⟩ | ⟨-, -, hOtherSerial, -⟩ := hCases hOther
      · exact h.serials hActive hOtherActive (by rw [← hSerial, ← hOtherSerial, hSame])
      · omega
    · obtain ⟨otherEarlier, hOtherActive, -, hOtherSerial, -⟩ | ⟨hSecond, -⟩ := hCases hOther
      · have hLess := h.numbered hOtherActive
        omega
      · rw [hFirst, hSecond]
  · rw [hOpens.invoked, hOpens.opened]
    exact fun serial hMem => Nat.lt_succ_of_lt (h.past serial hMem)

lemma Formed.noteInvoked (h : Formed dispatcher) {serial : Nat} (hSerial : serial < dispatcher.trace.opened) :
    Formed (dispatcher.noteInvoked serial) where
  __ := h
  past := by
    exact forall_mem_append.mpr ⟨h.past, forall_mem_singleton.mpr hSerial⟩

lemma Formed.noteSubmitFailed (h : Formed dispatcher) : Formed dispatcher.noteSubmitFailed := { h with }

lemma Formed.completeStream (h : Formed dispatcher) (place : Nat) :
    Formed (dispatcher.completeStream world place).1 := by
  obtain hKept | ⟨stream, hAt, hActive, ⟨hCalled, -⟩ | ⟨hFailed, -⟩⟩ := completeStream_cases world place dispatcher
  · exact h.steady hKept
  · exact (h.noteInvoked (h.numbered ⟨hAt, hActive⟩)).steady hCalled
  · exact (h.noteInvoked (h.numbered ⟨hAt, hActive⟩)).noteSubmitFailed.steady hFailed

lemma Formed.noteOpened (h : Formed dispatcher) : Formed dispatcher.noteOpened where
  __ := h
  numbered := fun hActive => Nat.lt_succ_of_lt (h.numbered hActive)
  past := fun serial hMem => Nat.lt_succ_of_lt (h.past serial hMem)

lemma Formed.answerUpgrade (h : Formed dispatcher) (req : RequestLifecycle) :
    Formed (dispatcher.answerUpgrade world req).1 := by
  have hNoted := h.noteOpened.noteInvoked (Nat.lt_succ_self dispatcher.trace.opened)
  obtain hKept | ⟨hCalled, -⟩ | ⟨hFailed, -⟩ :=
    submitResponseForRequest_cases world dispatcher.trace.opened 1 req dispatcher.noteOpened
  · exact h.noteOpened.steady hKept
  · exact hNoted.steady hCalled
  · exact hNoted.noteSubmitFailed.steady hFailed

section Calls

lemma handleEvent_cases (world : Surroundings) (event : DispatchEvent) (disp : ServerDispatcher) :
    Steady disp (disp.handleEvent world event).1 ∨
      ∃ opened, Opens event.streamId disp opened ∧ Steady opened (disp.handleEvent world event).1 := by
  rw [handleEvent]
  split
  · exact handleRequestHeaders_cases world event disp
  · exact .inl (handleData_steady event disp)
  · exact .inl (handleStreamEnd_steady event disp)
  · exact .inl (closeFound_steady _ disp)
  · exact .inl (closeFound_steady _ disp)
  · exact .inl (closeFound_steady _ disp)
  · exact .inl (handleTrailers_steady event disp)
  · exact .inl (.of_slots rfl rfl rfl)
  · exact .inl (.of_slots rfl rfl rfl)
  · exact .inl (.of_slots rfl rfl rfl)

variable {P : ServerDispatcher → Prop}

lemma handleEvents_invariant (world : Surroundings)
    (hSteady : ∀ {before after}, P before → Steady before after → P after)
    (hOpens : ∀ {streamId before after}, P before → Opens streamId before after → P after)
    (events : List DispatchEvent) (h : P dispatcher) : P (handleEvents world events dispatcher).1 := by
  induction events generalizing dispatcher with
  | nil => exact hSteady h (.of_slots rfl rfl rfl)
  | cons event rest ih =>
    have hHeld : P { dispatcher with events := event :: rest } := hSteady h (.of_slots rfl rfl rfl)
    have hHandled : P ({ dispatcher with events := event :: rest }.handleEvent world event).1 := by
      obtain hKept | ⟨opened, hOpened, hKept⟩ :=
        handleEvent_cases world event { dispatcher with events := event :: rest }
      · exact hSteady hHeld hKept
      · exact hSteady (hOpens hHeld hOpened) hKept
    rw [handleEvents]
    split
    next hFailed =>
      rw [hFailed] at hHandled
      exact hSteady hHandled (.of_slots rfl rfl rfl)
    next hDone =>
      rw [hDone] at hHandled
      exact ih hHandled

lemma flushPlaces_invariant
    (hComplete : ∀ {dispatcher} place, P dispatcher → P (dispatcher.completeStream world place).1)
    (places : List Nat) (h : P dispatcher) : P (flushPlaces world places dispatcher).1 := by
  induction places generalizing dispatcher with
  | nil => exact h
  | cons place rest ih =>
    rw [flushPlaces]
    split
    · have hCompleted := hComplete place h
      split
      next hFailed =>
        rw [hFailed] at hCompleted
        exact hCompleted
      next hDone =>
        rw [hDone] at hCompleted
        exact ih hCompleted
    · exact ih h

lemma received_steady (world : Surroundings) (delivered : List Delivery) (failure : Option StatusCode)
    (disp : ServerDispatcher) :
    Steady disp ((if disp.canClearSessionEvents world then disp.clearEvents.forgetStreamBodyMarks
        else disp).sessionReceive delivered failure).1 := by
  split
  · refine Steady.trans (Steady.trans ?_ (forgetStreamBodyMarks_steady _)) (sessionReceive_steady _ _ _)
    refine Steady.trans ?_ (resetArena_steady _ _)
    exact .of_slots rfl rfl rfl
  · exact sessionReceive_steady delivered failure disp

/-- The call has kept `Q`, and `P` too unless it failed. -/
def Reaches (P Q : ServerDispatcher → Prop) (result : ServerDispatcher × Except StatusCode Unit) : Prop :=
  Q result.1 ∧ (result.2 = .ok () → P result.1)

lemma Reaches.same {result : ServerDispatcher × Except StatusCode Unit} (h : P result.1) : Reaches P P result :=
  ⟨h, fun _ => h⟩

lemma step_reaches {Q : ServerDispatcher → Prop}
    (hSteady : ∀ {before after}, P before → Steady before after → P after)
    (hWeaker : ∀ {dispatcher}, P dispatcher → Q dispatcher)
    (hProcess : ∀ {dispatcher}, P dispatcher → Reaches P Q (dispatcher.processPending world))
    (hAnswer : ∀ {dispatcher} request, P dispatcher → Q (dispatcher.answerUpgrade world request).1) (call : Call)
    (h : P dispatcher) : Q (dispatcher.step world call).1 := by
  have hReceive (delivered : List Delivery) (failure : Option StatusCode) :
      Reaches P Q (dispatcher.receive world delivered failure) := by
    have hReceived := hSteady h (received_steady world delivered failure dispatcher)
    rw [receive]
    split
    next hFailed =>
      rw [hFailed] at hReceived
      exact ⟨hWeaker hReceived, fun hOk => (by cases hOk)⟩
    next hDone =>
      rw [hDone] at hReceived
      exact hProcess hReceived
  cases call with
  | receive delivered failure => exact (hReceive delivered failure).1
  | processPending => exact (hProcess h).1
  | drainOutput sent => exact hWeaker (hSteady h (drainOutput_steady sent dispatcher))
  | upgradeH2c delivered failure req =>
    have hReceived := hReceive delivered failure
    change Q (dispatcher.upgradeH2c world delivered failure req).1
    rw [upgradeH2c]
    split
    next hFailed =>
      rw [hFailed] at hReceived
      exact hReceived.1
    next hDone =>
      rw [hDone] at hReceived
      exact hAnswer req (hReceived.2 rfl)

lemma processPending_invariant (hSteady : ∀ {before after}, P before → Steady before after → P after)
    (hOpens : ∀ {streamId before after}, P before → Opens streamId before after → P after)
    (hComplete : ∀ {dispatcher} place, P dispatcher → P (dispatcher.completeStream world place).1)
    (h : P dispatcher) : P (dispatcher.processPending world).1 := by
  have hHandled := handleEvents_invariant world hSteady hOpens dispatcher.events h
  rw [processPending]
  split
  next hFailed =>
    rw [hFailed] at hHandled
    exact hHandled
  next hDone =>
    rw [hDone] at hHandled
    exact flushPlaces_invariant hComplete _ hHandled

lemma Formed.processPending (h : Formed dispatcher) : Formed (dispatcher.processPending world).1 :=
  processPending_invariant Formed.steady Formed.opens (fun place h => h.completeStream place) h

lemma Formed.step (h : Formed dispatcher) (call : Call) : Formed (dispatcher.step world call).1 :=
  step_reaches Formed.steady id (fun h => .same h.processPending) (fun req h => h.answerUpgrade req) call h

lemma Formed.run (h : Formed dispatcher) (calls : List Call) : Formed (dispatcher.runCalls world calls) :=
  foldlRecOn (motive := Formed) calls _ h fun _ hFormed call _ => hFormed.step call

lemma completeStream_config (place : Nat) (disp : ServerDispatcher) :
    (disp.completeStream world place).1.config = disp.config := by
  obtain hKept | ⟨stream, -, -, ⟨hCalled, -⟩ | ⟨hFailed, -⟩⟩ := completeStream_cases world place disp
  · exact congrArg Progress.config hKept.progress
  · exact congrArg Progress.config hCalled.progress
  · exact congrArg Progress.config hFailed.progress

lemma answerUpgrade_config (req : RequestLifecycle) (disp : ServerDispatcher) :
    (disp.answerUpgrade world req).1.config = disp.config := by
  obtain hKept | ⟨hCalled, -⟩ | ⟨hFailed, -⟩ :=
    submitResponseForRequest_cases world disp.trace.opened 1 req disp.noteOpened
  · exact congrArg Progress.config hKept.progress
  · exact congrArg Progress.config hCalled.progress
  · exact congrArg Progress.config hFailed.progress

lemma runCalls_config (disp : ServerDispatcher) (calls : List Call) :
    (disp.runCalls world calls).config = disp.config := by
  have hSteady : ∀ {before after : ServerDispatcher}, before.config = disp.config → Steady before after →
      after.config = disp.config := fun h hSteady => (congrArg Progress.config hSteady.progress).trans h
  refine foldlRecOn (motive := fun reached : ServerDispatcher => reached.config = disp.config) calls _ rfl
    fun reached hReached call _ => step_reaches hSteady id (fun h => .same ?_)
      (fun req h => (answerUpgrade_config req _).trans h) call hReached
  exact processPending_invariant hSteady (fun h hOpens => hOpens.config.trans h)
    (fun place h => (completeStream_config place _).trans h) h

end Calls

/-- The hook has been called at most once for every stream, and for no active one. -/
structure Fresh (dispatcher : ServerDispatcher) : Prop where
  once : dispatcher.trace.invoked.Nodup
  pending : ∀ {place stream}, dispatcher.Active place stream → stream.serial ∉ dispatcher.trace.invoked

lemma Fresh.steady (h : Fresh before) (hSteady : Steady before after) : Fresh after := by
  have hInvoked : after.trace.invoked = before.trace.invoked := congrArg Progress.invoked hSteady.progress
  constructor
  · rw [hInvoked]
    exact h.once
  · intro place later hLater
    obtain ⟨earlier, hAt, hActive, -, hSerial, -⟩ := hSteady.slots hLater.1 hLater.2
    rw [hSerial, hInvoked]
    exact h.pending ⟨hAt, hActive⟩

lemma Fresh.opens {sid : Int} (hFormed : Formed before) (h : Fresh before)
    (hOpens : Opens sid before after) : Fresh after := by
  obtain ⟨slot, hSlots⟩ := hOpens.slots
  constructor
  · rw [hOpens.invoked]
    exact h.once
  · intro place later hLater
    rw [hOpens.invoked]
    obtain ⟨earlier, hAt, hActive, -, hSerial, -⟩ | ⟨-, -, hSerial, -⟩ := hSlots hLater.1 hLater.2
    · rw [hSerial]
      exact h.pending ⟨hAt, hActive⟩
    · rw [hSerial]
      exact fun hMem => Nat.lt_irrefl _ (hFormed.past _ hMem)

lemma completeStream_fresh (hFormed : Formed dispatcher) (h : Fresh dispatcher) (place : Nat) :
    Fresh (dispatcher.completeStream world place).1 ∨ ((dispatcher.completeStream world place).1.trace.invoked.Nodup ∧
          (dispatcher.completeStream world place).1.trace.submitFailed = true) ∧
        ∃ code, (dispatcher.completeStream world place).2 = .error code := by
  obtain hKept | ⟨stream, hAt, hActive, hCalls⟩ := completeStream_cases world place dispatcher
  · exact .inl (h.steady hKept)
  have hOnce : (dispatcher.trace.invoked ++ [stream.serial]).Nodup :=
    nodup_append.mpr ⟨h.once, nodup_singleton _, fun serial hMem other hOther hSame =>
      h.pending ⟨hAt, hActive⟩ (mem_singleton.mp hOther ▸ hSame ▸ hMem)⟩
  obtain ⟨hCalled, hVacant⟩ | ⟨hFailed, hCode⟩ := hCalls
  · have hInvoked : (dispatcher.completeStream world place).1.trace.invoked =
        dispatcher.trace.invoked ++ [stream.serial] := congrArg Progress.invoked hCalled.progress
    rw [← hInvoked] at hOnce
    refine .inl ⟨hOnce, fun {other later} hLater hMem => ?_⟩
    obtain ⟨earlier, hEarlierAt, hEarlier, hCarries⟩ := hCalled.slots hLater.1 hLater.2
    rw [hInvoked, hCarries.2.1, mem_append, mem_singleton] at hMem
    obtain hOld | hSame := hMem
    · exact h.pending ⟨hEarlierAt, hEarlier⟩ hOld
    · -- Only the slot that was vacated carried this number.
      cases hFormed.serials ⟨hEarlierAt, hEarlier⟩ ⟨hAt, hActive⟩ hSame
      exact Bool.false_ne_true ((hVacant hLater.1).symm.trans hLater.2)
  · have hInvoked : (dispatcher.completeStream world place).1.trace.invoked =
        dispatcher.trace.invoked ++ [stream.serial] := congrArg Progress.invoked hFailed.progress
    have hNoted : (dispatcher.completeStream world place).1.trace.submitFailed = true :=
      congrArg Progress.submitFailed hFailed.progress
    rw [← hInvoked] at hOnce
    exact .inr ⟨⟨hOnce, hNoted⟩, hCode⟩

structure Sound (dispatcher : ServerDispatcher) : Prop where
  formed : Formed dispatcher
  once : dispatcher.trace.invoked.Nodup
  fresh : dispatcher.trace.submitFailed = false → Fresh dispatcher

lemma Fresh.sound (hFormed : Formed dispatcher) (h : Fresh dispatcher) : Sound dispatcher :=
  ⟨hFormed, h.once, fun _ => h⟩

lemma Sound.of_submitFailed (hFormed : Formed dispatcher) (hOnce : dispatcher.trace.invoked.Nodup)
    (hNoted : dispatcher.trace.submitFailed = true) : Sound dispatcher := by
  refine ⟨hFormed, hOnce, fun hNot => ?_⟩
  rw [hNoted] at hNot
  cases hNot

def FormedFresh (dispatcher : ServerDispatcher) : Prop := Formed dispatcher ∧ Fresh dispatcher

lemma flushPlaces_sound (places : List Nat) (hFormed : Formed dispatcher) (h : Fresh dispatcher) :
    Reaches FormedFresh Sound (flushPlaces world places dispatcher) := by
  induction places generalizing dispatcher with
  | nil => exact ⟨h.sound hFormed, fun _ => ⟨hFormed, h⟩⟩
  | cons place rest ih =>
    rw [flushPlaces]
    split
    · have hCompleted := @Formed.completeStream world dispatcher hFormed place
      have hCases := @completeStream_fresh world dispatcher hFormed h place
      split
      next hFailed =>
        rw [hFailed] at hCompleted hCases
        refine ⟨?_, fun hOk => (by cases hOk)⟩
        obtain hFresh | ⟨⟨hOnce, hNoted⟩, -⟩ := hCases
        · exact hFresh.sound hCompleted
        · exact .of_submitFailed hCompleted hOnce hNoted
      next hDone =>
        rw [hDone] at hCompleted hCases
        obtain hFresh | ⟨-, code, hFailed⟩ := hCases
        · exact ih hCompleted hFresh
        · cases hFailed
    · exact ih hFormed h

lemma processPending_sound (h : FormedFresh dispatcher) :
    Reaches FormedFresh Sound (dispatcher.processPending world) := by
  have hHandled := @handleEvents_invariant dispatcher FormedFresh world
    (fun h hSteady => ⟨h.1.steady hSteady, h.2.steady hSteady⟩)
    (fun h hOpens => ⟨h.1.opens hOpens, h.2.opens h.1 hOpens⟩)
    dispatcher.events h
  rw [processPending]
  split
  next hFailed =>
    rw [hFailed] at hHandled
    exact ⟨hHandled.2.sound hHandled.1, fun hOk => (by cases hOk)⟩
  next hDone =>
    rw [hDone] at hHandled
    exact flushPlaces_sound _ hHandled.1 hHandled.2

lemma FormedFresh.answerUpgrade (h : FormedFresh dispatcher) (req : RequestLifecycle) :
    Sound (dispatcher.answerUpgrade world req).1 := by
  have hFormed := @Formed.answerUpgrade world dispatcher h.1 req
  have hNew : dispatcher.trace.opened ∉ dispatcher.trace.invoked := fun hMem => Nat.lt_irrefl _ (h.1.past _ hMem)
  have hOpened : Fresh dispatcher.noteOpened := ⟨h.2.once, h.2.pending⟩
  have hCalled : Fresh (dispatcher.noteOpened.noteInvoked dispatcher.trace.opened) := by
    refine ⟨nodup_append.mpr ⟨h.2.once, nodup_singleton _, fun serial hMem other hOther hSame => ?_⟩,
      fun {place stream} hActive hMem => ?_⟩
    · exact hNew (mem_singleton.mp hOther ▸ hSame ▸ hMem)
    · obtain hOld | hSame := mem_append.mp hMem
      · exact h.2.pending hActive hOld
      · exact Nat.ne_of_lt (h.1.numbered hActive) (mem_singleton.mp hSame)
  obtain hKept | ⟨hAnswered, -⟩ | ⟨hFailed, -⟩ :=
    submitResponseForRequest_cases world dispatcher.trace.opened 1 req dispatcher.noteOpened
  · exact (hOpened.steady hKept).sound hFormed
  · exact (hCalled.steady hAnswered).sound hFormed
  · have hNoted : Fresh (dispatcher.noteOpened.noteInvoked dispatcher.trace.opened).noteSubmitFailed :=
      ⟨hCalled.once, hCalled.pending⟩
    exact (hNoted.steady hFailed).sound hFormed

lemma Sound.step (h : Sound dispatcher) (hTaken : dispatcher.trace.submitFailed = false) (call : Call) :
    Sound (dispatcher.step world call).1 :=
  step_reaches (fun h hSteady => ⟨h.1.steady hSteady, h.2.steady hSteady⟩) (fun h => h.2.sound h.1)
    processPending_sound (fun req h => FormedFresh.answerUpgrade h req) call ⟨h.formed, h.fresh hTaken⟩

/-- No call is made after one in which the session has not taken a response. -/
def EndsOnFailedSubmit (world : Surroundings) (start : ServerDispatcher) (calls : List Call) : Prop :=
  Run.Admits (fun dispatcher _ => dispatcher.trace.submitFailed = false)
    (fun dispatcher call => (dispatcher.step world call).1) start calls

/-- In every run the counter of the dispatcher is that of its active slots, which carry different streams; a
caller that gives up after a response that was not taken sees the hook called at most once for each request. -/
theorem dispatches_once (world : Surroundings) (config : DispatchConfig) (places : Places) (backend : HttpBackend)
    (connection : Backend.Connection) (arena : Arena) (outbound : Growing.ByteBuilder) (calls : List Call) :
    let start := initial config places backend connection arena outbound
    let reached := start.runCalls world calls
    reached.activeStreams = reached.streams.countP (·.active) ∧ reached.activeStreams ≤ config.maxStreams ∧
      (∀ first second stream other, reached.Active first stream → reached.Active second other →
        stream.streamId = other.streamId → first = second) ∧
      (EndsOnFailedSubmit world start calls → reached.trace.invoked.Nodup) := by
  intro start reached
  have hStart : Formed start := Formed.initial config places backend connection arena outbound
  have hFormed : Formed reached := hStart.run calls
  have hConfig : reached.config = config := runCalls_config start calls
  refine ⟨hFormed.counted, ?_, fun _ _ _ _ hFirst hSecond hSame => hFormed.ids hFirst hSecond hSame, fun hEnds => ?_⟩
  · rw [hFormed.counted, ← hConfig, ← hFormed.length]
    exact countP_le_length
  · have hFresh : Fresh start := by
      refine ⟨nodup_nil, fun h => ?_⟩
      exact not_mem_nil
    exact (Run.foldl_invariant (fun dispatcher call (hSound : Sound dispatcher) hTaken => hSound.step hTaken call)
      ⟨hStart, nodup_nil, fun _ => hFresh⟩ hEnds).once

def answeringWorld (submitResponse : Nat → Int → List HeaderField → List UInt8 → Option StatusCode) : Surroundings where
  dispatch := fun _ scope arena => (scope, arena, .error ⟨.internal, .routeNotFound⟩)
  submitResponse := submitResponse
  submitRst := fun _ _ _ => none
  wantWrite := fun _ => false
  headersOpen := fun _ => false
  overwritten := fun _ => ([], [])

def oneConnection : HttpBackend :=
  { backendInit none with state := .started, listener := .listening, activeConnections := 1, nextConnectionId := 2 }

def acceptedConnection : Backend.Connection := ⟨true, .accepted, 1, literal "http", 0, true, true⟩

def refusingWorld : Surroundings := answeringWorld fun _ _ _ _ => some .capacityExceeded

def twoSlots : ServerDispatcher :=
  initial ⟨2, 512, 512⟩ ⟨0, 0, 0⟩ oneConnection acceptedConnection ⟨4096, 8192, 0, 0, 1⟩ ⟨[], 0, 1024, .arena⟩

def getFields : List HeaderField :=
  [⟨literal ":method", literal "GET", false⟩, ⟨literal ":scheme", literal "http", false⟩,
    ⟨literal ":path", literal "/", false⟩, ⟨literal ":authority", literal "a", false⟩]

def getRequest (streamId : Int) : Delivery := ⟨64, some ⟨.requestHeaders, streamId, true, getFields, [], 0⟩⟩

/-- The run ends with a response that is not taken. -/
theorem dispatches_once_last_refused :
    EndsOnFailedSubmit refusingWorld twoSlots [.receive [getRequest 1] none] ∧ (twoSlots.runCalls refusingWorld
        [.receive [getRequest 1] none]).trace.invoked.Nodup := by
  have hEnds : EndsOnFailedSubmit refusingWorld twoSlots [.receive [getRequest 1] none] := by
    rw [EndsOnFailedSubmit, Run.Admits, Run.Admits]
    exact ⟨rfl, trivial⟩
  refine ⟨hEnds, ?_⟩
  have hOnce := (dispatches_once refusingWorld ⟨2, 512, 512⟩ ⟨0, 0, 0⟩
    oneConnection acceptedConnection ⟨4096, 8192, 0, 0, 1⟩ ⟨[], 0, 1024, .arena⟩
    [.receive [getRequest 1] none]).2.2.2
  rw [twoSlots] at hEnds ⊢
  exact hOnce hEnds

/-- The session does not take the response to a request; the next call answers the request once more. -/
theorem dispatched_twice :
    (twoSlots.runCalls refusingWorld [.receive [getRequest 1] none, .processPending]).trace.invoked = [0, 0] := by
  decide +kernel

end Sloppy.Http2.ServerDispatcher
