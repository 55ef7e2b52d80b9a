import Sloppy.Core.RingQueue
import Sloppy.Lib.Run

/-! # The ring queue against a list

The other operations of `SlRingQueue`, and that any sequence of operations gives what it gives on a list of at
most as many elements as the ring has slots. The sum in `popBack` does not wrap: no ring fills half of the
address space.
-/

namespace Sloppy.RingQueue

open Lib.Run List

variable {α : Type}

def clear (queue : RingQueue α) : RingQueue α := init queue.capacity

def peekFront (queue : RingQueue α) : Option α :=
  if queue.count = 0 ∨ queue.capacity = 0 then none else queue.items[queue.head]?.join

def discardFront (queue : RingQueue α) : RingQueue α × Bool :=
  if queue.count = 0 ∨ queue.capacity = 0 then (queue, false)
  else
    ({ queue with
        items := queue.items.set queue.head none
        head := (queue.head + 1) % queue.capacity
        count := queue.count - 1 }, true)

def popBack (queue : RingQueue α) : Option (α × RingQueue α) :=
  if queue.count = 0 ∨ queue.capacity = 0 then none
  else
    let tail := (queue.tail + queue.capacity - 1) % queue.capacity
    match queue.items[tail]? with
    | some (some item) =>
      some (item, { queue with items := queue.items.set tail none, tail := tail, count := queue.count - 1 })
    | _ => none

inductive Operation (α : Type)
  | push (item : α)
  | popFront
  | popBack
  | peekFront
  | discardFront
  | clear

/-- What the caller sees: a status, an element, or nothing. -/
inductive Answer (α : Type)
  | pushed (status : Except StatusCode Unit)
  | item (popped : Option α)
  | discarded (done : Bool)
  | cleared

def Answer.failed : Answer α → Bool
  | .pushed (.error _) | .item none | .discarded false => true
  | _ => false

def step (queue : RingQueue α) : Operation α → RingQueue α × Answer α
  | .push item =>
    match queue.push item with
    | .error code => (queue, .pushed (.error code))
    | .ok next => (next, .pushed (.ok ()))
  | .popFront =>
    match queue.popFront with
    | none => (queue, .item none)
    | some (item, next) => (next, .item (some item))
  | .popBack =>
    match queue.popBack with
    | none => (queue, .item none)
    | some (item, next) => (next, .item (some item))
  | .peekFront => (queue, .item queue.peekFront)
  | .discardFront => (queue.discardFront.1, .discarded queue.discardFront.2)
  | .clear => (queue.clear, .cleared)

/-- The operations on a list of at most `capacity` elements. -/
def listStep (capacity : Nat) (contents : List α) : Operation α → List α × Answer α
  | .push item =>
    if contents.length = capacity then (contents, .pushed (.error .capacityExceeded))
    else (contents ++ [item], .pushed (.ok ()))
  | .popFront => (contents.tail, .item contents.head?)
  | .popBack => (contents.dropLast, .item contents.getLast?)
  | .peekFront => (contents, .item contents.head?)
  | .discardFront => (contents.tail, .discarded !contents.isEmpty)
  | .clear => ([], .cleared)

namespace Holds

variable {queue : RingQueue α} {contents : List α}

lemma push_full (h : queue.Holds contents) (hFull : contents.length = queue.capacity) (item : α) :
    queue.push item = .error .capacityExceeded := by
  rw [RingQueue.push, if_pos]
  rw [h.count_eq]
  exact Nat.le_of_eq hFull.symm

lemma empty (h : queue.Holds []) : queue.count = 0 ∨ queue.capacity = 0 := Or.inl h.count_eq

variable {item : α}

lemma nonempty (h : queue.Holds (item :: contents)) : ¬(queue.count = 0 ∨ queue.capacity = 0) := by
  have hCount := h.count_eq
  have hWithin := h.within
  rw [length_cons] at hCount hWithin
  omega

lemma front (h : queue.Holds (item :: contents)) : queue.items[queue.head]? = some (some item) := by
  have hHead := h.head_lt (Nat.lt_of_lt_of_le (Nat.succ_pos _) h.within)
  have hItem := h.item 0 (Nat.succ_pos _)
  rwa [Nat.add_zero, Nat.mod_eq_of_lt hHead] at hItem

lemma peekFront (h : queue.Holds contents) : queue.peekFront = contents.head? := by
  rw [RingQueue.peekFront]
  cases contents with
  | nil => rw [if_pos h.empty, head?_nil]
  | cons =>
    rw [if_neg h.nonempty, h.front]
    rfl

lemma discardFront_cons (h : queue.Holds (item :: contents)) :
    queue.popFront = some (item, queue.discardFront.1) ∧ queue.discardFront.2 = true := by
  rw [RingQueue.popFront, RingQueue.discardFront, if_neg h.nonempty, if_neg h.nonempty, h.front]
  exact ⟨rfl, rfl⟩

lemma back_eq (h : queue.Holds (contents ++ [item])) :
    (queue.tail + queue.capacity - 1) % queue.capacity = (queue.head + contents.length) % queue.capacity := by
  have hCount := h.count_eq
  have hWithin := h.within
  rw [length_append, length_singleton] at hCount hWithin
  rw [h.tail_eq, Nat.add_sub_assoc (by omega), Nat.mod_add_mod, hCount]
  have hSum : queue.head + (contents.length + 1) + (queue.capacity - 1) =
      queue.head + contents.length + queue.capacity := by omega
  rw [hSum, Nat.add_mod_right]

lemma popBack_snoc (h : queue.Holds (contents ++ [item])) :
    ∃ next, queue.popBack = some (item, next) ∧ next.Holds contents ∧ next.capacity = queue.capacity := by
  have hCount := h.count_eq
  have hWithin := h.within
  rw [length_append, length_singleton] at hCount hWithin
  have hBack := h.item contents.length (by simp)
  rw [getElem_concat_length rfl] at hBack
  rw [RingQueue.popBack, if_neg (by omega), h.back_eq]
  simp only [hBack]
  refine ⟨_, rfl, ?_, length_set⟩
  constructor <;> simp only [capacity, length_set]
  · omega
  · exact Nat.le_of_succ_le hWithin
  · exact h.head_lt
  · rw [hCount, Nat.add_sub_cancel]
  · intro place hPlace
    have hNe := @place_ne queue.capacity queue.head contents.length place (by omega) (by omega) (by omega)
    rw [capacity] at hNe
    have hItem := h.item place (by simp; omega)
    rw [getElem_append_left hPlace] at hItem
    rw [getElem?_set_ne hNe]
    exact hItem

lemma step (h : queue.Holds contents) (op : Operation α) :
    (queue.step op).1.Holds (listStep queue.capacity contents op).1 ∧ (queue.step op).1.capacity = queue.capacity ∧
      (queue.step op).2 = (listStep queue.capacity contents op).2 := by
  cases op with
  | push item =>
    rw [RingQueue.step, listStep]
    by_cases hRoom : contents.length = queue.capacity
    · rw [h.push_full hRoom, if_pos hRoom]
      exact ⟨h, rfl, rfl⟩
    rw [if_neg hRoom]
    obtain ⟨next, hPush, hNext, hCap⟩ := h.push (Nat.lt_of_le_of_ne h.within hRoom) item
    rw [hPush]
    exact ⟨hNext, hCap, rfl⟩
  | popFront =>
    rw [RingQueue.step, listStep]
    cases contents with
    | nil =>
      rw [h.popFront_nil]
      exact ⟨h, rfl, rfl⟩
    | cons =>
      obtain ⟨next, hPop, hNext, hCap⟩ := h.popFront_cons
      rw [hPop]
      exact ⟨hNext, hCap, rfl⟩
  | popBack =>
    rw [RingQueue.step, listStep]
    rcases eq_nil_or_concat contents with rfl | ⟨before, item, rfl⟩
    · rw [RingQueue.popBack, if_pos h.empty]
      exact ⟨h, rfl, rfl⟩
    rw [concat_eq_append] at h ⊢
    obtain ⟨next, hPop, hNext, hCap⟩ := h.popBack_snoc
    rw [hPop, dropLast_concat, getLast?_concat]
    exact ⟨hNext, hCap, rfl⟩
  | peekFront =>
    rw [RingQueue.step, listStep, h.peekFront]
    exact ⟨h, rfl, rfl⟩
  | discardFront =>
    rw [RingQueue.step, listStep]
    cases contents with
    | nil =>
      rw [RingQueue.discardFront, if_pos h.empty]
      exact ⟨h, rfl, rfl⟩
    | cons =>
      obtain ⟨next, hPop, hNext, hCap⟩ := h.popFront_cons
      obtain ⟨hSame, hDone⟩ := h.discardFront_cons
      rw [hSame] at hPop
      cases hPop
      rw [hDone]
      exact ⟨hNext, hCap, rfl⟩
  | clear => exact ⟨holds_init _, length_replicate, rfl⟩

end Holds

lemma step_failed (queue : RingQueue α) (op : Operation α)
    (h : (queue.step op).2.failed = true) : (queue.step op).1 = queue := by
  cases op with
  | push | popFront | popBack =>
    rw [RingQueue.step] at h ⊢
    split at h
    · rfl
    · cases h
  | peekFront => rfl
  | discardFront =>
    rw [RingQueue.step, discardFront] at h ⊢
    split at h
    · rw [if_pos (by assumption)]
    · cases h
  | clear => cases h

/-- Every sequence of operations on a ring answers as on a list of at most as many elements, the ring then
holds what is left of the list, and an operation that fails changes nothing. -/
theorem run_eq_list (capacity : Nat) (operations : List (Operation α)) :
    (run step (init capacity : RingQueue α) operations).2 = (run (listStep capacity) ([] : List α) operations).2 ∧
      (run step (init capacity : RingQueue α) operations).1.Holds (run (listStep capacity) ([] : List α) operations).1 ∧
      ∀ operation, ((run step (init capacity : RingQueue α) operations).1.step operation).2.failed = true →
        ((run step (init capacity : RingQueue α) operations).1.step operation).1 =
          (run step (init capacity : RingQueue α) operations).1 := by
  have hRun : ∀ (queue : RingQueue α) (contents : List α) (events : List (Operation α × Answer α)),
      queue.Holds contents → queue.capacity = capacity →
      (runFrom step (queue, events) operations).2 = (runFrom (listStep capacity) (contents, events) operations).2 ∧
        (runFrom step (queue, events) operations).1.Holds
          (runFrom (listStep capacity) (contents, events) operations).1 := by
    induction operations with
    | nil => exact fun _ _ _ h _ => ⟨rfl, h⟩
    | cons operation rest ih =>
      intro queue contents events h hCapacity
      obtain ⟨hNext, hSame, hAnswer⟩ := h.step operation
      rw [hCapacity] at hNext hSame hAnswer
      rw [runFrom, runFrom, hAnswer]
      exact ih _ _ _ hNext hSame
  obtain ⟨hAnswers, hHolds⟩ := hRun (init capacity) [] [] (holds_init capacity) length_replicate
  exact ⟨hAnswers, hHolds, fun operation => step_failed _ operation⟩

end Sloppy.RingQueue
