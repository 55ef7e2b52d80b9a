import Sloppy.Core.Status

/-! # The arena

A bump allocator over a caller's buffer (`arena.c`). Addresses are natural numbers and NULL is 0; the
poison bytes that assert-enabled builds write are left out, since nothing reads them. An operation
returns the arena as it leaves it, also when it fails.
-/

namespace Sloppy

structure Arena where
  base : Nat
  capacity : Nat
  offset : Nat
  highWater : Nat
  generation : Nat
  deriving DecidableEq

structure ArenaMark where
  offset : Nat
  generation : Nat
  deriving DecidableEq

def isPowerOfTwo (value : Nat) : Bool := value != 0 && value &&& (value - 1) == 0

def arenaInit (buffer capacity : Nat) : Except StatusCode Arena :=
  if buffer = 0 ∧ capacity ≠ 0 then .error .invalidArgument else .ok ⟨buffer, capacity, 0, 0, 1⟩

/-- The generation is an unsigned 32-bit number that skips 0. -/
def nextGeneration (generation : Nat) : Nat :=
  if (generation + 1) % 4294967296 = 0 then 1 else (generation + 1) % 4294967296

variable (arena : Arena)

def arenaReset : Arena :=
  { arena with generation := nextGeneration arena.generation, offset := 0 }

def arenaDispose : Arena where
  base := 0
  capacity := 0
  offset := 0
  highWater := 0
  generation := nextGeneration arena.generation

def arenaMark : ArenaMark := ⟨arena.offset, arena.generation⟩

def arenaResetTo (mark : ArenaMark) : Arena × Except StatusCode Unit :=
  if mark.generation ≠ arena.generation then (arena, .error .invalidArgument)
  else if mark.offset > arena.offset ∨ mark.offset > arena.capacity then (arena, .error .outOfRange)
  else ({ arena with offset := mark.offset }, .ok ())

def arenaAlignmentPadding (alignment : Nat) : Except StatusCode Nat :=
  if alignment > sizeMax then .error .invalidArgument
  else if arena.offset > sizeMax - arena.base then .error .internal
  else
    let misalignment := (arena.base + arena.offset) &&& (alignment - 1)
    .ok (if misalignment = 0 then 0 else alignment - misalignment)

def arenaAlloc (size alignment : Nat) : Arena × Except StatusCode Nat :=
  if size = 0 ∨ isPowerOfTwo alignment = false then (arena, .error .invalidArgument)
  else if arena.offset > arena.capacity ∨ (arena.base = 0 ∧ arena.capacity ≠ 0) then
    (arena, .error .internal)
  else if arena.base = 0 then (arena, .error .outOfMemory)
  else
    match arenaAlignmentPadding arena alignment with
    | .error code => (arena, .error code)
    | .ok padding =>
      match checkedAddSize padding size with
      | .error code => (arena, .error code)
      | .ok totalAdvance =>
        match checkedAddSize arena.offset padding with
        | .error code => (arena, .error code)
        | .ok offsetWithPadding =>
          match checkedAddSize arena.offset totalAdvance with
          | .error code => (arena, .error code)
          | .ok finalOffset =>
            if finalOffset > arena.capacity then (arena, .error .outOfMemory)
            else
              ({ arena with
                  offset := finalOffset
                  highWater := if arena.highWater < finalOffset then finalOffset else arena.highWater },
                .ok (arena.base + offsetWithPadding))

lemma isPowerOfTwo_iff {value : Nat} : isPowerOfTwo value = true ↔ ∃ k, value = 2 ^ k := by
  simp only [isPowerOfTwo, Bool.and_eq_true, bne_iff_ne, beq_iff_eq]
  constructor
  · rintro ⟨hNonzero, hAnd⟩
    exact (Nat.and_sub_one_eq_zero_iff_isPowerOfTwo hNonzero).mp hAnd
  · rintro hPower
    have hNonzero : value ≠ 0 := by
      obtain ⟨k, rfl⟩ := hPower
      exact Nat.ne_of_gt (Nat.two_pow_pos k)
    exact ⟨hNonzero, (Nat.and_sub_one_eq_zero_iff_isPowerOfTwo hNonzero).mpr hPower⟩

lemma arenaAlignmentPadding_ok {arena : Arena} {align padding : Nat}
    (hPower : isPowerOfTwo align = true) (h : arenaAlignmentPadding arena align = .ok padding) :
    (arena.base + arena.offset + padding) % align = 0 := by
  obtain ⟨k, rfl⟩ := isPowerOfTwo_iff.mp hPower
  rw [arenaAlignmentPadding] at h
  split at h
  · cases h
  split at h
  · cases h
  simp only [Nat.and_two_pow_sub_one_eq_mod, Except.ok.injEq] at h
  split at h
  next hAligned =>
    rw [← h, Nat.add_zero, hAligned]
  rw [← h]
  have hDivided := Nat.div_add_mod (arena.base + arena.offset) (2 ^ k)
  have hNext : arena.base + arena.offset + (2 ^ k - (arena.base + arena.offset) % 2 ^ k) =
      2 ^ k * ((arena.base + arena.offset) / 2 ^ k + 1) := by
    rw [Nat.mul_add, Nat.mul_one]
    omega
  rw [hNext, Nat.mul_mod_right]

/-- What an allocation can do: fail and change nothing, or take the next bytes behind some padding. -/
lemma arenaAlloc_cases (size align : Nat) : (∃ code, arenaAlloc arena size align = (arena, .error code)) ∨
      ∃ padding, 0 < size ∧ arena.offset + padding + size ≤ arena.capacity ∧
        (arena.base + (arena.offset + padding)) % align = 0 ∧
        arenaAlloc arena size align = ({ arena with
              offset := arena.offset + padding + size
              highWater := max arena.highWater (arena.offset + padding + size) },
            .ok (arena.base + (arena.offset + padding))) := by
  rw [arenaAlloc]
  split
  · exact Or.inl ⟨_, rfl⟩
  rename_i hArgs
  rw [not_or, Bool.not_eq_false] at hArgs
  split
  · exact Or.inl ⟨_, rfl⟩
  split
  · exact Or.inl ⟨_, rfl⟩
  split
  · exact Or.inl ⟨_, rfl⟩
  rename_i padding hPadding
  split
  · exact Or.inl ⟨_, rfl⟩
  rename_i hTotal
  split
  · exact Or.inl ⟨_, rfl⟩
  rename_i hStart
  split
  · exact Or.inl ⟨_, rfl⟩
  rename_i final hFinal
  split
  · exact Or.inl ⟨_, rfl⟩
  rename_i hFits
  rw [checkedAddSize_ok hTotal] at hFinal
  have hEnd : final = arena.offset + padding + size := by
    rw [checkedAddSize_ok hFinal, Nat.add_assoc]
  rw [hEnd] at hFits
  refine Or.inr ⟨padding, Nat.pos_of_ne_zero hArgs.1, Nat.le_of_not_lt hFits, ?_, ?_⟩
  · rw [← Nat.add_assoc]
    exact arenaAlignmentPadding_ok hArgs.2 hPadding
  · have hHigh : (if arena.highWater < final then final else arena.highWater) = max arena.highWater final := by
      split <;> omega
    rw [hHigh, hEnd, checkedAddSize_ok hStart]

lemma arenaResetTo_cases (mark : ArenaMark) : (∃ code, arenaResetTo arena mark = (arena, .error code)) ∨
      mark.generation = arena.generation ∧ mark.offset ≤ arena.offset ∧ mark.offset ≤ arena.capacity ∧
        arenaResetTo arena mark = ({ arena with offset := mark.offset }, .ok ()) := by
  rw [arenaResetTo]
  split
  · exact Or.inl ⟨_, rfl⟩
  rename_i hGen
  split
  · exact Or.inl ⟨_, rfl⟩
  next hRange =>
    rw [not_or, Nat.not_lt, Nat.not_lt] at hRange
    exact Or.inr ⟨not_not.mp hGen, hRange.1, hRange.2, rfl⟩

end Sloppy
