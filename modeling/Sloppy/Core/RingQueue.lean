import Mathlib.Data.Nat.ModEq
import Sloppy.Core.Status

/-! # The ring queue

`SlRingQueue` of `container.c`: a bounded queue in a ring of slots, with the places of its front and of
the next free slot. It behaves as the list of what was pushed and not popped.
-/

namespace Sloppy

open List

/-- A slot that was zeroed is `none`. -/
structure RingQueue (α : Type) where
  items : List (Option α)
  head : Nat
  tail : Nat
  count : Nat
  deriving DecidableEq

namespace RingQueue

variable {α : Type}

def capacity (queue : RingQueue α) : Nat := queue.items.length

def init (capacity : Nat) : RingQueue α := ⟨List.replicate capacity none, 0, 0, 0⟩

def isEmpty (queue : RingQueue α) : Bool := queue.count == 0

def isFull (queue : RingQueue α) : Bool := decide (queue.capacity ≤ queue.count)

def push (queue : RingQueue α) (item : α) : Except StatusCode (RingQueue α) :=
  if queue.capacity ≤ queue.count then .error .capacityExceeded
  else
    .ok { queue with
      items := queue.items.set queue.tail (some item)
      tail := (queue.tail + 1) % queue.capacity
      count := queue.count + 1 }

def popFront (queue : RingQueue α) : Option (α × RingQueue α) :=
  if queue.count = 0 ∨ queue.capacity = 0 then none
  else
    match queue.items[queue.head]? with
    | some (some item) =>
      some (item, { queue with
        items := queue.items.set queue.head none
        head := (queue.head + 1) % queue.capacity
        count := queue.count - 1 })
    | _ => none

structure Holds (queue : RingQueue α) (contents : List α) : Prop where
  count_eq : queue.count = contents.length
  within : contents.length ≤ queue.capacity
  head_lt : 0 < queue.capacity → queue.head < queue.capacity
  tail_eq : queue.tail = (queue.head + queue.count) % queue.capacity
  item : ∀ place (h : place < contents.length),
    queue.items[(queue.head + place) % queue.capacity]? = some (some contents[place])

lemma place_ne {size head first second : Nat} (hFirst : first < size) (hSecond : second < size)
    (hNe : first ≠ second) : (head + first) % size ≠ (head + second) % size := by
  intro hSame
  have hMod : first ≡ second [MOD size] := Nat.ModEq.add_left_cancel' head hSame
  exact hNe (hMod.eq_of_lt_of_lt hFirst hSecond)

lemma holds_init (size : Nat) : (init size : RingQueue α).Holds [] where
  count_eq := rfl
  within := Nat.zero_le _
  head_lt h := h
  tail_eq := (Nat.zero_mod _).symm
  item _ h := absurd h (Nat.not_lt_zero _)

namespace Holds

variable {queue : RingQueue α} {contents : List α}

lemma isFull_iff (h : queue.Holds contents) : queue.isFull = true ↔ contents.length = queue.capacity := by
  have hWithin := h.within
  rw [isFull, decide_eq_true_eq, h.count_eq]
  omega

lemma push (h : queue.Holds contents) (hRoom : contents.length < queue.capacity) (item : α) :
    ∃ next, queue.push item = .ok next ∧ next.Holds (contents ++ [item]) ∧ next.capacity = queue.capacity := by
  have hCount := h.count_eq
  have hTailEq := h.tail_eq
  have hTail : queue.tail < queue.items.length := by
    rw [hTailEq]
    exact Nat.mod_lt _ (Nat.zero_lt_of_lt hRoom)
  rw [RingQueue.push, if_neg (by omega)]
  refine ⟨_, rfl, ?_, length_set⟩
  constructor <;> simp only [capacity, length_set, length_append, length_singleton]
  · rw [hCount]
  · exact hRoom
  · exact h.head_lt
  · rw [hTailEq, ← Nat.add_assoc]
    exact Nat.mod_add_mod _ _ _
  · intro place hPlace
    by_cases hOld : place < contents.length
    · -- The new element goes to another slot than those in use.
      have hNe : queue.tail ≠ (queue.head + place) % queue.items.length := by
        rw [hTailEq, hCount]
        exact place_ne hRoom (Nat.lt_trans hOld hRoom) (Nat.ne_of_gt hOld)
      rw [getElem?_set_ne hNe, getElem_append_left hOld]
      exact h.item place hOld
    · obtain rfl : place = contents.length := by omega
      have hPlaceEq : (queue.head + contents.length) % queue.items.length = queue.tail := by
        rw [hTailEq, hCount]
        rfl
      rw [hPlaceEq, getElem?_set_self hTail, getElem_append_right (Nat.le_refl _)]
      simp only [Nat.sub_self, getElem_cons_zero]

lemma popFront_nil (h : queue.Holds []) : queue.popFront = none := by
  have hNone : queue.count = 0 := h.count_eq
  rw [RingQueue.popFront, if_pos (Or.inl hNone)]

lemma popFront_cons {item : α} (h : queue.Holds (item :: contents)) :
    ∃ next, queue.popFront = some (item, next) ∧ next.Holds contents ∧ next.capacity = queue.capacity := by
  have hCount := h.count_eq
  have hWithin := h.within
  rw [length_cons] at hCount hWithin
  have hHead := h.head_lt (by omega)
  have hFront := h.item 0 (Nat.succ_pos _)
  rw [Nat.add_zero, Nat.mod_eq_of_lt hHead, getElem_cons_zero] at hFront
  rw [RingQueue.popFront, if_neg (by omega), hFront]
  refine ⟨_, rfl, ?_, length_set⟩
  constructor <;> simp only [capacity, length_set]
  · omega
  · exact Nat.le_of_succ_le hWithin
  · exact fun hPositive => Nat.mod_lt _ hPositive
  · rw [h.tail_eq, Nat.mod_add_mod, capacity]
    congr 1
    omega
  · intro place hPlace
    rw [Nat.mod_add_mod, Nat.add_assoc, Nat.add_comm 1 place]
    have hPlaces := @place_ne queue.capacity queue.head 0 (place + 1) (Nat.zero_lt_of_lt hHead)
      (Nat.lt_of_lt_of_le (Nat.succ_lt_succ hPlace) hWithin) (by omega)
    rw [Nat.add_zero, Nat.mod_eq_of_lt hHead] at hPlaces
    rw [capacity] at hPlaces
    rw [getElem?_set_ne hPlaces]
    exact h.item (place + 1) (Nat.succ_lt_succ hPlace)

end Holds

end RingQueue

end Sloppy
