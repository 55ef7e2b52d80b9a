import Sloppy.Core.Arena
import Sloppy.Lib.Run

/-! # Live allocations

A run of an arena with the allocations that no reset has released. Marks are told apart by the generation alone, and
after 2^32 - 1 full resets the generations come round.
-/

namespace Sloppy

open Lib List

structure Allocation where
  address : Nat
  size : Nat
  alignment : Nat
  deriving DecidableEq

def Allocation.stop (allocation : Allocation) : Nat := allocation.address + allocation.size

/-- An arena with its live allocations, newest first. -/
structure ArenaHistory where
  arena : Arena
  live : List Allocation
  deriving DecidableEq

inductive ArenaOp where
  | alloc (size alignment : Nat)
  | mark
  | resetTo (mark : ArenaMark)
  | reset
  | dispose
  deriving DecidableEq

inductive ArenaValue where
  | pointer (address : Nat)
  | mark (mark : ArenaMark)
  | done
  deriving DecidableEq

def ArenaOp.run (arena : Arena) : ArenaOp → Arena × Except StatusCode ArenaValue
  | .alloc size alignment =>
    ((arenaAlloc arena size alignment).1, (arenaAlloc arena size alignment).2.map .pointer)
  | .mark => (arena, .ok (.mark (arenaMark arena)))
  | .resetTo target =>
    ((arenaResetTo arena target).1, (arenaResetTo arena target).2.map fun _ => .done)
  | .reset => (arenaReset arena, .ok .done)
  | .dispose => (arenaDispose arena, .ok .done)

def liveAfter (arena : Arena) (live : List Allocation) : ArenaOp → List Allocation
  | .alloc size alignment =>
    match (arenaAlloc arena size alignment).2 with
    | .ok address => ⟨address, size, alignment⟩ :: live
    | .error _ => live
  | .mark => live
  | .resetTo target =>
    match (arenaResetTo arena target).2 with
    | .ok () => live.filter fun allocation => allocation.stop ≤ arena.base + target.offset
    | .error _ => live
  | .reset | .dispose => []

def ArenaHistory.step (history : ArenaHistory) (op : ArenaOp) : ArenaHistory :=
  ⟨(op.run history.arena).1, liveAfter history.arena history.live op⟩

def ArenaHistory.run (arena : Arena) (ops : List ArenaOp) : ArenaHistory :=
  ops.foldl ArenaHistory.step ⟨arena, []⟩

def Allocation.Disjoint (first second : Allocation) : Prop :=
  first.stop ≤ second.address ∨ second.stop ≤ first.address

structure ArenaSafe (history : ArenaHistory) : Prop where
  used : history.arena.offset ≤ history.arena.highWater
  high : history.arena.highWater ≤ history.arena.capacity
  above : ∀ allocation ∈ history.live, history.arena.base ≤ allocation.address
  below : ∀ allocation ∈ history.live, allocation.stop ≤ history.arena.base + history.arena.offset
  aligned : ∀ allocation ∈ history.live, allocation.address % allocation.alignment = 0
  apart : history.live.Pairwise Allocation.Disjoint

variable {arena : Arena}

lemma arenaSafe_of_empty (hUsed : arena.offset ≤ arena.highWater) (hHigh : arena.highWater ≤ arena.capacity) :
    ArenaSafe ⟨arena, []⟩ where
  used := hUsed
  high := hHigh
  above := fun _ hMem => nomatch hMem
  below := fun _ hMem => nomatch hMem
  aligned := fun _ hMem => nomatch hMem
  apart := List.Pairwise.nil

variable {history : ArenaHistory}

lemma ArenaSafe.alloc (h : ArenaSafe history) (size align : Nat) :
    ArenaSafe (history.step (.alloc size align)) := by
  rcases arenaAlloc_cases history.arena size align with
    ⟨code, hFailed⟩ | ⟨padding, hSize, hFits, hAligned, hDone⟩
  · rw [ArenaHistory.step, ArenaOp.run, liveAfter, hFailed]
    exact h
  · rw [ArenaHistory.step, ArenaOp.run, liveAfter, hDone]
    have hHigh := h.high
    refine ⟨Nat.le_max_right _ _, Nat.max_le.mpr ⟨hHigh, hFits⟩, ?_, ?_, ?_, ?_⟩
    · simp only [forall_mem_cons]
      exact ⟨Nat.le_add_right _ _, h.above⟩
    · simp only [forall_mem_cons, Allocation.stop]
      refine ⟨by omega, fun allocation hMem => ?_⟩
      have hOld := h.below allocation hMem
      rw [Allocation.stop] at hOld
      omega
    · simp only [forall_mem_cons]
      exact ⟨hAligned, h.aligned⟩
    · refine pairwise_cons.mpr ⟨fun allocation hMem => Or.inr ?_, h.apart⟩
      have hOld := h.below allocation hMem
      dsimp only
      omega

lemma ArenaSafe.resetTo (h : ArenaSafe history) (mark : ArenaMark) : ArenaSafe (history.step (.resetTo mark)) := by
  rcases arenaResetTo_cases history.arena mark with ⟨code, hFailed⟩ | ⟨-, hBelow, -, hDone⟩
  · rw [ArenaHistory.step, ArenaOp.run, liveAfter, hFailed]
    exact h
  rw [ArenaHistory.step, ArenaOp.run, liveAfter, hDone]
  refine ⟨Nat.le_trans hBelow h.used, h.high, ?_, ?_, ?_, h.apart.filter _⟩
  · exact fun allocation hMem => h.above allocation (mem_of_mem_filter hMem)
  · exact fun allocation hMem => of_decide_eq_true (mem_filter.mp hMem).2
  · exact fun allocation hMem => h.aligned allocation (mem_of_mem_filter hMem)

lemma ArenaSafe.step (h : ArenaSafe history) (op : ArenaOp) : ArenaSafe (history.step op) := by
  cases op with
  | alloc size align => exact h.alloc size align
  | mark => exact h
  | resetTo target => exact h.resetTo target
  | reset => exact arenaSafe_of_empty (Nat.zero_le _) h.high
  | dispose => exact arenaSafe_of_empty (Nat.le_refl _) (Nat.le_refl _)

lemma ArenaSafe.run (h : ArenaSafe history) (ops : List ArenaOp) :
    ArenaSafe (ops.foldl ArenaHistory.step history) := by
  induction ops generalizing history with
  | nil => exact h
  | cons op ops ih => exact ih (h.step op)

def ArenaOp.isFullReset : ArenaOp → Bool
  | .reset | .dispose => true
  | _ => false

lemma ArenaOp.run_cases (op : ArenaOp) (arena : Arena) :
    (op.isFullReset = false ∧ ∃ code, op.run arena = (arena, .error code)) ∨
    (op.isFullReset = false ∧ ∃ after value, op.run arena = (after, .ok value) ∧
      after.generation = arena.generation ∧ arena.highWater ≤ after.highWater) ∨
    (op.isFullReset = true ∧ ∃ after, op.run arena = (after, .ok .done) ∧
      after.generation = nextGeneration arena.generation ∧
      (op ≠ .dispose → arena.highWater ≤ after.highWater)) := by
  cases op with
  | alloc size align =>
    simp only [ArenaOp.run]
    rcases arenaAlloc_cases arena size align with ⟨code, hFailed⟩ | ⟨padding, -, -, -, hDone⟩
    · rw [hFailed]
      exact Or.inl ⟨rfl, code, rfl⟩
    · rw [hDone]
      exact Or.inr (Or.inl ⟨rfl, _, _, rfl, rfl, Nat.le_max_left _ _⟩)
  | mark => exact Or.inr (Or.inl ⟨rfl, _, _, rfl, rfl, Nat.le_refl _⟩)
  | resetTo target =>
    simp only [ArenaOp.run]
    rcases arenaResetTo_cases arena target with ⟨code, hFailed⟩ | ⟨-, -, -, hDone⟩
    · rw [hFailed]
      exact Or.inl ⟨rfl, code, rfl⟩
    · rw [hDone]
      exact Or.inr (Or.inl ⟨rfl, _, _, rfl, rfl, Nat.le_refl _⟩)
  | reset => exact Or.inr (Or.inr ⟨rfl, _, rfl, rfl, fun _ => Nat.le_refl _⟩)
  | dispose => exact Or.inr (Or.inr ⟨rfl, _, rfl, rfl, fun hOp => absurd rfl hOp⟩)

variable {op : ArenaOp}

lemma highWater_le_run (hOp : op ≠ .dispose) (arena : Arena) : arena.highWater ≤ (op.run arena).1.highWater := by
  rcases op.run_cases arena with ⟨-, code, hRun⟩ | ⟨-, after, value, hRun, -, hHigh⟩ | ⟨-, after, hRun, -, hHigh⟩
  · apply Nat.le_of_eq
    rw [hRun]
  · rw [hRun]
    exact hHigh
  · rw [hRun]
    exact hHigh hOp

lemma run_failed {code : StatusCode} (h : (op.run arena).2 = .error code) : (op.run arena).1 = arena := by
  rcases op.run_cases arena with ⟨-, code, hRun⟩ | ⟨-, after, value, hRun, -⟩ | ⟨-, after, hRun, -⟩
  · rw [hRun]
  · rw [hRun] at h
    cases h
  · rw [hRun] at h
    cases h

/-- The number of generations: 32 bits without 0. -/
def generationCount : Nat := 4294967295

/-- Generations are counted from 1 in a circle. -/
def GenerationAt (count : Nat) (arena : Arena) : Prop := arena.generation = count % generationCount + 1

lemma nextGeneration_at (count : Nat) :
    nextGeneration (count % generationCount + 1) = (count + 1) % generationCount + 1 := by
  have hLess : count % generationCount < generationCount := Nat.mod_lt _ (by decide)
  have hSplit : (count + 1) % generationCount = (count % generationCount + 1) % generationCount :=
    (Nat.mod_add_mod count generationCount 1).symm
  rw [nextGeneration, hSplit]
  obtain ⟨rest, hRest⟩ : ∃ rest, rest = count % generationCount := ⟨_, rfl⟩
  rw [← hRest] at hLess ⊢
  simp only [generationCount] at hLess ⊢
  rcases Nat.lt_or_eq_of_le (Nat.le_sub_one_of_lt hLess) with hInside | rfl
  · rw [Nat.mod_eq_of_lt (by omega), Nat.mod_eq_of_lt (by omega), if_neg (by omega)]
  · rfl

variable {count : Nat}

lemma GenerationAt.run (h : GenerationAt count arena) (op : ArenaOp) :
    GenerationAt (count + if op.isFullReset then 1 else 0) (op.run arena).1 := by
  rcases op.run_cases arena with ⟨hKeeps, code, hRun⟩ | ⟨hKeeps, after, value, hRun, hSame, -⟩ |
    ⟨hResets, after, hRun, hNext, -⟩
  · rw [hRun, hKeeps]
    exact h
  · rw [hRun, hKeeps]
    exact hSame.trans h
  · rw [hRun, hResets]
    exact hNext.trans ((congrArg nextGeneration h).trans (nextGeneration_at count))

def fullResets (ops : List ArenaOp) : Nat := ops.countP ArenaOp.isFullReset

lemma GenerationAt.steps (h : GenerationAt count history.arena) (ops : List ArenaOp) :
    GenerationAt (count + fullResets ops) (ops.foldl ArenaHistory.step history).arena := by
  induction ops generalizing count history with
  | nil => exact h
  | cons op ops ih =>
    have hNext : GenerationAt _ (history.step op).arena := h.run op
    have hRest := ih hNext
    rw [fullResets, countP_cons, Nat.add_comm (countP _ ops), ← Nat.add_assoc]
    exact hRest

lemma add_mod_generationCount_eq_iff {more : Nat} :
    count % generationCount = (count + more) % generationCount ↔ more % generationCount = 0 := by
  simp only [generationCount]
  omega

lemma arenaInit_ok {buf cap : Nat} {arena : Arena} (h : arenaInit buf cap = .ok arena) :
    GenerationAt 0 arena ∧ ArenaSafe ⟨arena, []⟩ := by
  rw [arenaInit] at h
  split at h
  · cases h
  · cases h
    exact ⟨rfl, arenaSafe_of_empty (Nat.le_refl _) (Nat.zero_le _)⟩

lemma resetTo_rejects_iff (hUsed : arena.offset ≤ arena.capacity) (mark : ArenaMark) :
    (arenaResetTo arena mark).2 ≠ .ok () ↔ mark.generation ≠ arena.generation ∨ mark.offset > arena.offset := by
  rw [arenaResetTo]
  split
  · simp_all
  split
  · have hAbove : mark.offset > arena.offset := by omega
    simp [hAbove]
  · simp only [ne_eq, not_true_eq_false, false_iff]
    omega

/-- Over every run of an arena: offset, high-water mark and capacity are in order, live allocations are
in bounds, aligned and disjoint, the high-water mark falls only when the arena is disposed of, and a
failed operation changes nothing. A mark taken before full resets is rejected exactly if their number
is no multiple of 2^32 - 1, or it lies above the offset by now. -/
theorem arena_safe {buffer capacity : Nat} {arena : Arena} (hInit : arenaInit buffer capacity = .ok arena)
    (ops : List ArenaOp) :
    ((ArenaHistory.run arena ops).arena.offset ≤ (ArenaHistory.run arena ops).arena.highWater ∧
      (ArenaHistory.run arena ops).arena.highWater ≤ (ArenaHistory.run arena ops).arena.capacity) ∧
    (∀ allocation ∈ (ArenaHistory.run arena ops).live, (ArenaHistory.run arena ops).arena.base ≤ allocation.address ∧
      allocation.stop ≤ (ArenaHistory.run arena ops).arena.base + (ArenaHistory.run arena ops).arena.capacity ∧
      allocation.address % allocation.alignment = 0) ∧
    (ArenaHistory.run arena ops).live.Pairwise Allocation.Disjoint ∧
    (∀ op : ArenaOp, op ≠ .dispose → (ArenaHistory.run arena ops).arena.highWater ≤
      (op.run (ArenaHistory.run arena ops).arena).1.highWater) ∧
    (∀ (op : ArenaOp) (code : StatusCode), (op.run (ArenaHistory.run arena ops).arena).2 = .error code →
      (op.run (ArenaHistory.run arena ops).arena).1 = (ArenaHistory.run arena ops).arena) ∧
    ∀ later : List ArenaOp, 0 < fullResets later → ((arenaResetTo (ArenaHistory.run arena (ops ++ later)).arena
          (arenaMark (ArenaHistory.run arena ops).arena)).2 ≠ .ok () ↔
        fullResets later % generationCount ≠ 0 ∨ (ArenaHistory.run arena ops).arena.offset >
            (ArenaHistory.run arena (ops ++ later)).arena.offset) := by
  obtain ⟨hFirst, hSafe⟩ := arenaInit_ok hInit
  have hStart : GenerationAt 0 (ArenaHistory.mk arena []).arena := hFirst
  have hRun : ArenaSafe (ArenaHistory.run arena ops) := hSafe.run ops
  refine ⟨⟨hRun.used, hRun.high⟩, fun allocation hMem => ?_, hRun.apart,
    fun op hOp => highWater_le_run hOp _, fun op code hFailed => run_failed hFailed, fun later _ => ?_⟩
  · have hUsed := hRun.used
    have hHigh := hRun.high
    have hBelow := hRun.below allocation hMem
    exact ⟨hRun.above allocation hMem, by omega, hRun.aligned allocation hMem⟩
  · have hLater : ArenaHistory.run arena (ops ++ later) =
        later.foldl ArenaHistory.step (ArenaHistory.run arena ops) := foldl_append
    have hMark : GenerationAt (0 + fullResets ops) (ArenaHistory.run arena ops).arena := hStart.steps ops
    have hNow := hMark.steps later
    have hSafeNow := hRun.run later
    rw [hLater, resetTo_rejects_iff (Nat.le_trans hSafeNow.used hSafeNow.high), arenaMark, hMark, hNow]
    rw [Ne, Nat.add_right_cancel_iff, add_mod_generationCount_eq_iff]

/-- Two allocations behind a mark, then a full reset: the mark is stale. -/
theorem arena_safe_afterReset :
    (arenaResetTo (ArenaHistory.run ⟨16, 64, 0, 0, 1⟩ ([.alloc 3 1, .alloc 8 8] ++ [.reset])).arena
      (arenaMark (ArenaHistory.run ⟨16, 64, 0, 0, 1⟩ [.alloc 3 1, .alloc 8 8]).arena)).2 ≠ .ok () :=
  ((@arena_safe 16 64 ⟨16, 64, 0, 0, 1⟩ rfl [.alloc 3 1, .alloc 8 8]).2.2.2.2.2 [.reset] (by decide)).mpr
    (Or.inl (by decide))

/-- After 2^32 - 1 full resets a mark from before them is taken for a new one. -/
theorem staleMark_accepted :
    (arenaResetTo (ArenaHistory.run ⟨16, 64, 0, 0, 1⟩ (List.replicate generationCount .reset)).arena
      (arenaMark ⟨16, 64, 0, 0, 1⟩)).2 = .ok () := by
  obtain ⟨hInit, hSafe⟩ := @arenaInit_ok 16 64 ⟨16, 64, 0, 0, 1⟩ rfl
  have hStart : GenerationAt 0 (ArenaHistory.mk ⟨16, 64, 0, 0, 1⟩ []).arena := hInit
  have hResets : fullResets (replicate generationCount .reset) = generationCount := by
    rw [fullResets, countP_replicate]
    rfl
  have hNow := hStart.steps (replicate generationCount .reset)
  have hSafeNow := hSafe.run (replicate generationCount .reset)
  by_contra hRejected
  rcases (resetTo_rejects_iff (Nat.le_trans hSafeNow.used hSafeNow.high) _).mp hRejected with
    hGeneration | hOffset
  · rw [hNow, hResets, Nat.zero_add, Nat.mod_self] at hGeneration
    exact hGeneration rfl
  · exact absurd hOffset (Nat.not_lt_zero _)

end Sloppy
