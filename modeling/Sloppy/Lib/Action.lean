import Mathlib.Tactic.Common

/-! # Calls on a state that may fail

A call takes a state and gives the state after it with a value or an error code. A series of calls stops
at the first that fails and keeps the state that one left.
-/

namespace Sloppy.Lib

def Action (State Code Value : Type) : Type := State → State × Except Code Value

namespace Action

variable {State Code First Second : Type}

def fail (code : Code) : Action State Code First := fun state => (state, .error code)

def ofExcept (result : Except Code First) : Action State Code First := fun state => (state, result)

instance : Monad (Action State Code) where
  pure value := fun state => (state, .ok value)
  bind first next := fun state =>
    match first state with
    | (state, .ok value) => next value state
    | (state, .error code) => (state, .error code)

def onlyIf (condition : Bool) (call : Action State Code Unit) : Action State Code Unit :=
  if condition then call else pure ()

variable {after before : State} {value : First}

lemma pure_ok {result : First} (h : (pure value : Action State Code First) before = (after, .ok result)) :
    after = before ∧ result = value := by
  cases h
  exact ⟨rfl, rfl⟩

variable {code : Code}

lemma fail_ok : (fail code : Action State Code First) before ≠ (after, .ok value) := by
  intro h
  cases h

lemma ofExcept_ok {result : Except Code First}
    (h : (ofExcept result : Action State Code First) before = (after, .ok value)) : result = .ok value :=
  congrArg Prod.snd h

variable {first : Action State Code First} {next : First → Action State Code Second}

lemma bind_ok {result : Second} (h : (first >>= next) before = (after, .ok result)) :
    ∃ mid value, first before = (mid, .ok value) ∧ next value mid = (after, .ok result) := by
  change (match first before with
    | (state, .ok value) => next value state
    | (state, .error code) => (state, .error code)) = _ at h
  split at h
  next mid value hFirst =>
    exact ⟨mid, value, hFirst, h⟩
  · cases h

lemma bind_error (h : (first >>= next) before = (after, .error code)) : first before = (after, .error code) ∨
      ∃ mid value, first before = (mid, .ok value) ∧ next value mid = (after, .error code) := by
  change (match first before with
    | (state, .ok value) => next value state
    | (state, .error code) => (state, .error code)) = _ at h
  split at h
  next mid value hFirst =>
    exact Or.inr ⟨mid, value, hFirst, h⟩
  next hFirst =>
    cases h
    exact Or.inl hFirst

variable {mid : State}

lemma bind_eq_of_ok (h : first before = (mid, .ok value)) : (first >>= next) before = next value mid := by
  change (match first before with
    | (state, .ok value) => next value state
    | (state, .error code) => (state, .error code)) = _
  rw [h]

lemma bind_eq_of_error (h : first before = (mid, .error code)) : (first >>= next) before = (mid, .error code) := by
  change (match first before with
    | (state, .ok value) => next value state
    | (state, .error code) => (state, .error code)) = _
  rw [h]

section Cost

variable {holds : State → Nat → Prop}

/-- From any state that holds the cost and more, the call succeeds with the value and leaves the rest. -/
def Affords (holds : State → Nat → Prop) (call : Action State Code First) (cost : Nat) (value : First) : Prop :=
  ∀ before rest, holds before (cost + rest) → ∃ after, call before = (after, .ok value) ∧ holds after rest

lemma Affords.pure (value : First) : Affords holds (pure value : Action State Code First) 0 value := by
  intro before rest h
  rw [Nat.zero_add] at h
  exact ⟨before, rfl, h⟩

variable {value : First}

lemma Affords.mono {call : Action State Code First} {cost more : Nat}
    (hHolds : ∀ state less most, less ≤ most → holds state most → holds state less)
    (h : Affords holds call cost value) (hMore : cost ≤ more) : Affords holds call more value :=
  fun before rest hBefore => h before rest (hHolds before _ _ (Nat.add_le_add_right hMore rest) hBefore)

lemma Affords.ofExcept {result : Except Code First} (h : result = .ok value) :
    Affords holds (ofExcept result : Action State Code First) 0 value := by
  rw [h]
  exact .pure value

lemma Affords.bind {cost cost' : Nat} {result : Second} (hFirst : Affords holds first cost value)
    (hNext : Affords holds (next value) cost' result) : Affords holds (first >>= next) (cost + cost') result := by
  intro before rest h
  rw [Nat.add_assoc] at h
  obtain ⟨mid, hMid, hRoom⟩ := hFirst before (cost' + rest) h
  obtain ⟨after, hAfter, hRest⟩ := hNext mid rest hRoom
  exact ⟨after, (bind_eq_of_ok hMid).trans hAfter, hRest⟩

end Cost

section Appending

variable {Item : Type} {view : State → List Item}

/-- A call that succeeds appends these items to what is seen of the state. -/
def Appends (view : State → List Item) (call : Action State Code First) (items : List Item) : Prop :=
  ∀ before after value, call before = (after, .ok value) → view after = view before ++ items

lemma Appends.pure (value : First) : Appends view (pure value : Action State Code First) [] := by
  intro before after result h
  rw [(pure_ok h).1, List.append_nil]

variable {items : List Item}

lemma Appends.bind {more : List Item} (hFirst : Appends view first items)
    (hNext : ∀ value, Appends view (next value) more) : Appends view (first >>= next) (items ++ more) := by
  intro before after result h
  obtain ⟨mid, value, hMid, hAfter⟩ := bind_ok h
  rw [hNext value mid after result hAfter, hFirst before mid value hMid, List.append_assoc]

lemma Appends.onlyIf {call : Action State Code Unit} (condition : Bool) (h : Appends view call items) :
    Appends view (onlyIf condition call) (if condition then items else []) := by
  cases condition with
  | false => exact .pure ()
  | true => exact h

end Appending

section Keeping

variable {P : State → Prop}

def Keeps (P : State → Prop) (call : Action State Code First) : Prop := ∀ before, P before → P (call before).1

lemma Keeps.pure (value : First) : Keeps P (pure value : Action State Code First) := fun _ h => h

lemma Keeps.fail (code : Code) : Keeps P (fail code : Action State Code First) := fun _ h => h

lemma Keeps.bind (hFirst : Keeps P first) (hNext : ∀ value, Keeps P (next value)) : Keeps P (first >>= next) := by
  intro before h
  have hMid := hFirst before h
  change P (match first before with
    | (state, .ok value) => next value state
    | (state, .error code) => (state, .error code)).1
  split
  next mid value hCall =>
    rw [hCall] at hMid
    exact hNext value mid hMid
  next hCall =>
    rw [hCall] at hMid
    exact hMid

lemma Keeps.onlyIf {call : Action State Code Unit} (condition : Bool) (h : Keeps P call) :
    Keeps P (onlyIf condition call) := by
  cases condition with
  | false => exact .pure ()
  | true => exact h

end Keeping

section Following

variable {Third Fourth : Type} {below : State → State → Prop}

/-- Where the first call succeeds, the second succeeds from every state below, with a related value, and
ends below. -/
def Follows (below : State → State → Prop) (first : Action State Code First) (second : Action State Code Second)
    (related : First → Second → Prop) : Prop :=
  ∀ start before after value, below before start → first start = (after, .ok value) →
    ∃ left result, second before = (left, .ok result) ∧ related value result ∧ below left after

variable {related : First → Second → Prop}

lemma Follows.pure {result : Second} (h : related value result) :
    Follows below (pure value : Action State Code First) (pure result : Action State Code Second) related := by
  intro start before after other hBelow hCall
  obtain ⟨rfl, rfl⟩ := pure_ok hCall
  exact ⟨before, result, rfl, h, hBelow⟩

lemma Follows.ofExcept (result : Except Code First) :
    Follows below (ofExcept result : Action State Code First) (ofExcept result) Eq := by
  intro start before after value hBelow hCall
  obtain ⟨rfl, hResult⟩ := Prod.mk.inj hCall
  exact ⟨before, value, congrArg (Prod.mk before) hResult, rfl, hBelow⟩

lemma Follows.bind {second : Action State Code Second} {next : First → Action State Code Third}
    {other : Second → Action State Code Fourth} {ends : Third → Fourth → Prop} (h : Follows below first second related)
    (hNext : ∀ value result, related value result → Follows below (next value) (other result) ends) :
    Follows below (first >>= next) (second >>= other) ends := by
  intro start before after value hBelow hCall
  obtain ⟨mid, between, hFirst, hRest⟩ := bind_ok hCall
  obtain ⟨left, result, hSecond, hRelated, hMid⟩ := h start before mid between hBelow hFirst
  obtain ⟨final, ended, hFinal, hEnds, hAfter⟩ := hNext between result hRelated mid left after value hMid hRest
  exact ⟨final, ended, (bind_eq_of_ok hSecond).trans hFinal, hEnds, hAfter⟩

end Following

end Action

end Sloppy.Lib
