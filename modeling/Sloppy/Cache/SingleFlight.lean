import Mathlib.Logic.Function.Basic
import Sloppy.Lib.CodeUnits

/-! # One creation at a time

`getOrCreate` of `cache.js` with stampede protection. Other calls run between the awaits of a call, and a get may
resolve at any time and with anything. A creation is known by the call that started it.
-/

namespace Sloppy.Cache.SingleFlight

open Lib.CodeUnits

variable {Value Error : Type}

/-- How far `_runFactory` and the clean-up behind it have come. -/
inductive Phase (Value Error : Type) where
  | running
  | storing (value : Value)
  | settling (outcome : Except Error Value)
  | finished (outcome : Except Error Value)

structure Creation (Value Error : Type) where
  key : Text
  phase : Phase Value Error

inductive Caller (Value Error : Type) where
  | reading (key : Text)
  | joined (creation : Nat)
  | settled (creation : Option Nat) (outcome : Except Error Value)

structure State (Value Error : Type) where
  clock : Nat
  callers : Nat → Option (Caller Value Error)
  creations : Nat → Option (Creation Value Error)
  inflight : Text → Option Nat

inductive Event (Value Error : Type) where
  | call (key : Text)
  /-- The get of a call settles. `failure` is that of a factory that is cancelled or throws at once. -/
  | got (caller : Nat) (answer : Except Error (Option Value)) (failure : Option Error)
  /-- The factory settles; its value is stored or not. -/
  | produced (creation : Nat) (result : Except Error (Value × Bool))
  | stored (creation : Nat) (failure : Option Error)
  /-- The `finally` of a creation. -/
  | cleared (creation : Nat)
  | settles (caller : Nat)

def State.initial : State Value Error := ⟨0, fun _ => none, fun _ => none, fun _ => none⟩

def State.setCaller (s : State Value Error) (place : Nat) (caller : Caller Value Error) : State Value Error :=
  { s with callers := Function.update s.callers place (some caller) }

def State.setCreation (s : State Value Error) (place : Nat) (creation : Creation Value Error) : State Value Error :=
  { s with creations := Function.update s.creations place (some creation) }

/-- The part of `getOrCreate` behind its await, for a key that has no value. -/
def State.join (s : State Value Error) (caller : Nat) (key : Text) (failure : Option Error) : State Value Error :=
  match s.inflight key with
  | some creation => s.setCaller caller (.joined creation)
  | none =>
    { (s.setCaller caller (.joined caller)).setCreation caller
        ⟨key, failure.elim .running fun error => .settling (.error error)⟩ with
      inflight := Function.update s.inflight key (some caller) }

def afterFactory : Except Error (Value × Bool) → Phase Value Error
  | .error error => .settling (.error error)
  | .ok (value, true) => .storing value
  | .ok (value, false) => .settling (.ok value)

def step (s : State Value Error) : Event Value Error → State Value Error
  | .call key => { s.setCaller s.clock (.reading key) with clock := s.clock + 1 }
  | .got caller answer failure =>
    match s.callers caller, answer with
    | some (.reading _), .error error => s.setCaller caller (.settled none (.error error))
    | some (.reading _), .ok (some value) => s.setCaller caller (.settled none (.ok value))
    | some (.reading key), .ok none => s.join caller key failure
    | _, _ => s
  | .produced place result =>
    match s.creations place with
    | some ⟨key, .running⟩ => s.setCreation place ⟨key, afterFactory result⟩
    | _ => s
  | .stored place failure =>
    match s.creations place with
    | some ⟨key, .storing value⟩ => s.setCreation place ⟨key, .settling (failure.elim (.ok value) .error)⟩
    | _ => s
  | .cleared place =>
    match s.creations place with
    | some ⟨key, .settling outcome⟩ =>
      { s.setCreation place ⟨key, .finished outcome⟩ with inflight := Function.update s.inflight key none }
    | _ => s
  | .settles place =>
    match s.callers place with
    | some (.joined creation) =>
      match s.creations creation with
      | some ⟨_, .finished outcome⟩ => s.setCaller place (.settled (some creation) outcome)
      | _ => s
    | _ => s

def Phase.Over (phase : Phase Value Error) : Prop := ∃ outcome, phase = .finished outcome

/-- The creations under way are those in the map, each under its key. -/
structure Exclusive (s : State Value Error) : Prop where
  fresh : ∀ place, s.clock ≤ place → s.callers place = none
  started : ∀ place creation, s.creations place = some creation → ∃ caller, s.callers place = some caller ∧
    ∀ key, caller ≠ .reading key
  listed : ∀ place key phase, s.creations place = some ⟨key, phase⟩ → ¬phase.Over → s.inflight key = some place
  live : ∀ key place, s.inflight key = some place → ∃ phase, s.creations place = some ⟨key, phase⟩ ∧ ¬phase.Over
  joined : ∀ place creation, s.callers place = some (.joined creation) → (s.creations creation).isSome
  settled : ∀ place creation outcome, s.callers place = some (.settled (some creation) outcome) →
    ∃ key, s.creations creation = some ⟨key, .finished outcome⟩

section Steps

variable {s : State Value Error} {place : Nat} {key : Text} {caller : Caller Value Error}

section

variable (h : Exclusive s)
include h

lemma Exclusive.setCaller (hPlace : place < s.clock) (hReading : ∀ key, caller ≠ .reading key)
    (hJoined : ∀ creation, caller = .joined creation → (s.creations creation).isSome)
    (hSettled : ∀ creation outcome, caller = .settled (some creation) outcome →
      ∃ key, s.creations creation = some ⟨key, .finished outcome⟩) : Exclusive (s.setCaller place caller) := by
  obtain ⟨hFresh, hStarted, hListed, hLive, hOldJoined, hOldSettled⟩ := h
  constructor <;> simp only [State.setCaller, Function.update_apply] <;> grind

/-- A creation that goes on, still under way. -/
lemma Exclusive.setCreation {before after : Phase Value Error}
    (hCreation : s.creations place = some ⟨key, before⟩) (hBefore : ¬before.Over) (hAfter : ¬after.Over) :
    Exclusive (s.setCreation place ⟨key, after⟩) := by
  have hOther (outcome : Except Error Value) : before ≠ .finished outcome := fun hEq => hBefore ⟨outcome, hEq⟩
  obtain ⟨hFresh, hStarted, hListed, hLive, hJoined, hSettled⟩ := h
  constructor <;> simp only [State.setCreation, Function.update_apply] <;> grind

lemma Exclusive.lt_clock (hCaller : s.callers place = some caller) : place < s.clock := by
  by_contra hLe
  rw [h.fresh place (Nat.le_of_not_lt hLe)] at hCaller
  cases hCaller

/-- A call without a creation to join starts one. -/
lemma Exclusive.join (hCaller : s.callers place = some (.reading key)) (failure : Option Error) :
    Exclusive (s.join place key failure) := by
  have hPlace := h.lt_clock hCaller
  rw [State.join]
  split
  next creation hFlight =>
    obtain ⟨phase, hFound, -⟩ := h.live key creation hFlight
    refine h.setCaller hPlace (by simp) ?_ (by simp)
    rintro _ ⟨⟩
    simp [hFound]
  · have hOver : ¬(failure.elim .running fun error => .settling (.error error) : Phase Value Error).Over := by
      cases failure <;> simp [Phase.Over]
    obtain ⟨hFresh, hStarted, hListed, hLive, hJoined, hSettled⟩ := h
    constructor <;> simp only [State.setCaller, State.setCreation, Function.update_apply] <;> grind

lemma Exclusive.finish {outcome : Except Error Value}
    (hCreation : s.creations place = some ⟨key, .settling outcome⟩) :
    Exclusive
      { s.setCreation place ⟨key, .finished outcome⟩ with inflight := Function.update s.inflight key none } := by
  have hOver : (Phase.finished outcome).Over := ⟨outcome, rfl⟩
  have hNot : ¬(Phase.settling outcome).Over := by simp [Phase.Over]
  obtain ⟨hFresh, hStarted, hListed, hLive, hJoined, hSettled⟩ := h
  constructor <;> simp only [State.setCreation, Function.update_apply] <;> grind

lemma Exclusive.not_inflight {outcome : Except Error Value}
    (hCreation : s.creations place = some ⟨key, .finished outcome⟩) (name : Text) : s.inflight name ≠ some place := by
  intro hIn
  obtain ⟨phase, hFound, hNot⟩ := h.live name place hIn
  cases hCreation.symm.trans hFound
  exact hNot ⟨outcome, rfl⟩

lemma Exclusive.step (event : Event Value Error) : Exclusive (step s event) := by
  cases event with
  | call =>
    obtain ⟨hFresh, hStarted, hListed, hLive, hJoined, hSettled⟩ := h
    constructor <;> simp only [SingleFlight.step, State.setCaller, Function.update_apply] <;> grind
  | got caller answer failure =>
    rw [SingleFlight.step.eq_def]
    dsimp only
    split
    next hCaller =>
      exact h.setCaller (h.lt_clock hCaller) (by simp) (by simp) (by simp)
    next hCaller =>
      exact h.setCaller (h.lt_clock hCaller) (by simp) (by simp) (by simp)
    next hCaller =>
      exact h.join hCaller failure
    · exact h
  | produced =>
    rw [SingleFlight.step]
    split
    next hCreation =>
      refine h.setCreation hCreation (by simp [Phase.Over]) ?_
      rw [afterFactory.eq_def]
      split <;> simp [Phase.Over]
    · exact h
  | stored =>
    rw [SingleFlight.step]
    split
    next hCreation =>
      exact h.setCreation hCreation (by simp [Phase.Over]) (by simp [Phase.Over])
    · exact h
  | cleared =>
    rw [SingleFlight.step]
    split
    next hCreation =>
      exact h.finish hCreation
    · exact h
  | settles =>
    rw [SingleFlight.step]
    split
    next hCaller =>
      split
      next hCreation =>
        refine h.setCaller (h.lt_clock hCaller) (by simp) (by simp) ?_
        rintro _ _ ⟨⟩
        exact ⟨_, hCreation⟩
      · exact h
    · exact h

end

lemma exclusive_run (events : List (Event Value Error)) : Exclusive (events.foldl step .initial) := by
  refine List.foldlRecOn events step ?_ fun s h event _ => h.step event
  constructor <;> simp [State.initial]

end Steps

/-- Of one key at most one creation is under way, whoever joined a creation gets its outcome, and a creation that is
over has left the map. -/
theorem single_flight (events : List (Event Value Error)) :
    let s := events.foldl step .initial
    (∀ key first second phase other, s.creations first = some ⟨key, phase⟩ → s.creations second = some ⟨key, other⟩ →
      ¬phase.Over → ¬other.Over → first = second) ∧
    (∀ place creation outcome, s.callers place = some (.settled (some creation) outcome) →
      ∃ key, s.creations creation = some ⟨key, .finished outcome⟩ ∧ s.inflight key ≠ some creation) ∧
    (∀ place creation, s.callers place = some (.joined creation) → ∃ key phase,
      s.creations creation = some ⟨key, phase⟩ ∧
        (s.inflight key = some creation ∨ ∃ outcome, phase = .finished outcome ∧
        (step s (.settles place)).callers place = some (.settled (some creation) outcome))) ∧
    ∀ key creation outcome, s.creations creation = some ⟨key, .finished outcome⟩ →
      ∀ name, s.inflight name ≠ some creation := by
  intro s
  have h := exclusive_run events
  refine ⟨?_, ?_, ?_, ?_⟩
  · intro key first second phase other hFirst hSecond hPhase hOther
    have hIn := h.listed first key phase hFirst hPhase
    rw [h.listed second key other hSecond hOther] at hIn
    cases hIn
    rfl
  · intro place creation outcome hPlace
    obtain ⟨key, hCreation⟩ := h.settled place creation outcome hPlace
    exact ⟨key, hCreation, h.not_inflight hCreation key⟩
  · intro place creation hPlace
    obtain ⟨⟨key, phase⟩, hCreation⟩ := Option.isSome_iff_exists.mp (h.joined place creation hPlace)
    refine ⟨key, phase, hCreation, ?_⟩
    by_cases hOver : phase.Over
    · obtain ⟨outcome, rfl⟩ := hOver
      exact Or.inr ⟨outcome, rfl, by simp [step, hPlace, hCreation, s, State.setCaller]⟩
    · exact Or.inl (h.listed creation key phase hCreation hOver)
  · exact fun key creation outcome hCreation => h.not_inflight hCreation

end Sloppy.Cache.SingleFlight
