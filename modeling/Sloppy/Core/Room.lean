import Sloppy.Core.Growing
import Sloppy.Lib.Action

/-! # Room in an arena

How much an arena must have left for a series of allocations to succeed. An operation takes its part of
the room, padding included, and leaves the rest; a builder that doubles its storage takes less than three
times the most it may hold.
-/

namespace Sloppy

open Growing Lib

/-- The arena has a buffer in the address space and this many bytes left in it. -/
structure Roomy (arena : Arena) (room : Nat) : Prop where
  buffer : arena.base ≠ 0
  addresses : arena.base + arena.capacity ≤ sizeMax
  left : arena.offset + room ≤ arena.capacity

variable {arena : Arena} {room : Nat}

lemma Roomy.mono {less : Nat} (h : Roomy arena room) (hLess : less ≤ room) : Roomy arena less :=
  ⟨h.buffer, h.addresses, Nat.le_trans (Nat.add_le_add_left hLess _) h.left⟩

lemma Roomy.of_le (arena : Arena) (less room : Nat) (hLess : less ≤ room) (h : Roomy arena room) :
    Roomy arena less :=
  h.mono hLess

variable {align : Nat}

lemma arenaAlignmentPadding_le {padding : Nat} (h : arenaAlignmentPadding arena align = .ok padding) :
    padding ≤ align - 1 := by
  rw [arenaAlignmentPadding] at h
  split at h
  · cases h
  split at h
  · cases h
  cases h
  split
  · exact Nat.zero_le _
  · omega

variable {size : Nat}

lemma arenaAlloc_roomy (hSize : 0 < size) (hPower : isPowerOfTwo align = true)
    (h : Roomy arena (size + (align - 1) + room)) :
    ∃ after address, arenaAlloc arena size align = (after, .ok address) ∧ Roomy after room := by
  obtain ⟨hBuf, hAddresses, hLeft⟩ := h
  obtain ⟨k, rfl⟩ := isPowerOfTwo_iff.mp hPower
  have hPadding : ∃ padding, arenaAlignmentPadding arena (2 ^ k) = .ok padding := by
    rw [arenaAlignmentPadding, if_neg (by omega), if_neg (by omega)]
    exact ⟨_, rfl⟩
  obtain ⟨padding, hPadding⟩ := hPadding
  have hLess := arenaAlignmentPadding_le hPadding
  rw [arenaAlloc, if_neg, if_neg, if_neg hBuf, hPadding]
  · dsimp only
    rw [checkedAddSize_of_le (by omega)]
    dsimp only
    rw [checkedAddSize_of_le (by omega)]
    rw [checkedAddSize_of_le (by omega)]
    dsimp only
    rw [if_neg (by omega)]
    exact ⟨_, _, rfl, hBuf, hAddresses, by dsimp only; omega⟩
  · rintro (hOver | ⟨hNull, -⟩)
    · omega
    · exact hBuf hNull
  · rintro (hZero | hOdd)
    · omega
    · rw [hPower] at hOdd
      cases hOdd

def arenaTake (size alignment : Nat) : Action Arena StatusCode Unit := fun arena =>
  match arenaAlloc arena size alignment with
  | (arena, .error code) => (arena, .error code)
  | (arena, .ok _) => (arena, .ok ())

variable {after : Arena}

lemma arenaTake_error {code : StatusCode} (h : arenaTake size align arena = (after, .error code)) :
    after = arena := by
  rw [arenaTake] at h
  obtain ⟨other, hFailed⟩ | ⟨padding, -, -, -, hDone⟩ := arenaAlloc_cases arena size align
  · rw [hFailed] at h
    cases h
    rfl
  · rw [hDone] at h
    cases h

lemma arenaTake_affords {size align : Nat} (hSize : 0 < size) (hPower : isPowerOfTwo align = true) :
    Action.Affords Roomy (arenaTake size align) (size + (align - 1)) () := by
  intro arena rest h
  obtain ⟨after, addr, hAlloc, hRoom⟩ := arenaAlloc_roomy hSize hPower h
  rw [arenaTake, hAlloc]
  exact ⟨after, rfl, hRoom⟩

/-- Copies of texts are word aligned; an empty text takes nothing. -/
def strCopyViewToArena (text : List UInt8) : Action Arena StatusCode (List UInt8) :=
  if text.length = 0 then pure []
  else do
    arenaTake text.length 8
    pure text

lemma strCopyViewToArena_ok {text copied : List UInt8} (h : strCopyViewToArena text arena = (after, .ok copied)) :
    copied = text := by
  rw [strCopyViewToArena] at h
  split at h
  next hEmpty =>
    rw [(Action.pure_ok h).2, List.length_eq_zero_iff.mp hEmpty]
  · obtain ⟨mid, value, -, hCopied⟩ := Action.bind_ok h
    exact (Action.pure_ok hCopied).2

lemma strCopyViewToArena_affords (text : List UInt8) :
    Action.Affords Roomy (strCopyViewToArena text) (text.length + 7) text := by
  rw [strCopyViewToArena]
  split
  next hEmpty =>
    intro arena rest h
    rw [List.length_eq_zero_iff.mp hEmpty]
    exact ⟨arena, rfl, h.mono (by omega)⟩
  next hSome =>
    change Action.Affords Roomy _ (text.length + 7 + 0) text
    apply Action.Affords.bind
    · exact @arenaTake_affords text.length 8 (Nat.pos_of_ne_zero hSome) (by decide)
    · exact .pure text

section Since

/-- Allocations were added since this arena, and nothing else happened. -/
structure Since (start arena : Arena) : Prop where
  generation : arena.generation = start.generation
  capacity : arena.capacity = start.capacity
  above : start.offset ≤ arena.offset
  inside : arena.offset = start.offset ∨ arena.offset ≤ arena.capacity

lemma Since.refl (arena : Arena) : Since arena arena := ⟨rfl, rfl, Nat.le_refl _, Or.inl rfl⟩

variable {arena start : Arena}

lemma Since.arenaAlloc (h : Since start arena) (size align : Nat) :
    Since start (arenaAlloc arena size align).1 := by
  obtain ⟨code, hFailed⟩ | ⟨padding, -, hFits, -, hDone⟩ := arenaAlloc_cases arena size align
  · rw [hFailed]
    exact h
  · rw [hDone]
    have hAbove := h.above
    exact ⟨h.generation, h.capacity, by dsimp only; omega, Or.inr hFits⟩

lemma keeps_arenaTake (start : Arena) (size align : Nat) : Action.Keeps (Since start) (arenaTake size align) := by
  intro arena h
  have hAlloc := h.arenaAlloc size align
  rw [arenaTake]
  split
  next hFailed =>
    rwa [hFailed] at hAlloc
  next hDone =>
    rwa [hDone] at hAlloc

lemma keeps_strCopyViewToArena (start : Arena) (text : List UInt8) :
    Action.Keeps (Since start) (strCopyViewToArena text) := by
  rw [strCopyViewToArena]
  split
  · exact .pure _
  · exact (keeps_arenaTake _ _ _).bind fun _ => .pure _

lemma Since.resetAbove {start arena : Arena} (h : Since start arena) {mark : ArenaMark}
    (hMark : start.offset ≤ mark.offset) :
    Since start (Sloppy.arenaResetTo arena mark).1 := by
  obtain ⟨code, hFailed⟩ | ⟨-, -, hInside, hDone⟩ := arenaResetTo_cases arena mark
  · rw [hFailed]
    exact h
  · rw [hDone]
    exact ⟨h.generation, h.capacity, hMark, Or.inr hInside⟩

lemma Since.arenaResetTo (h : Since start arena) :
    arenaMark (arenaResetTo arena (arenaMark start)).1 = arenaMark start := by
  have hGen : ¬(arenaMark start).generation ≠ arena.generation := not_not.mpr h.generation.symm
  rw [Sloppy.arenaResetTo, if_neg hGen]
  split
  next hRange =>
    have hAbove := h.above
    have hSame : arena.offset = start.offset := by
      rcases h.inside with hSame | hInside
      · exact hSame
      · rcases hRange with hMore | hMore
        · exact absurd hAbove (Nat.not_le.mpr hMore)
        · exact absurd (Nat.le_trans hAbove hInside) (Nat.not_le.mpr hMore)
    rw [arenaMark, arenaMark, hSame, h.generation]
  · rw [arenaMark, arenaMark, h.generation]

lemma Since.arenaResetTo_ok (h : Since start arena) (hStart : start.offset ≤ start.capacity) :
    ∃ reset, Sloppy.arenaResetTo arena (arenaMark start) = (reset, .ok ()) ∧ arenaMark reset = arenaMark start := by
  have hAbove := h.above
  have hCap := h.capacity
  have hGen : ¬(arenaMark start).generation ≠ arena.generation := not_not.mpr h.generation.symm
  have hRange : ¬((arenaMark start).offset > arena.offset ∨ (arenaMark start).offset > arena.capacity) := by
    rw [arenaMark]
    dsimp only
    omega
  rw [Sloppy.arenaResetTo, if_neg hGen, if_neg hRange]
  exact ⟨_, rfl, by rw [arenaMark, arenaMark, h.generation]⟩

lemma since_byteBuilderInitArena (h : Since start arena) (initial most : Nat) :
    Since start (byteBuilderInitArena arena initial most).1 := by
  have hAlloc := h.arenaAlloc initial 1
  rw [byteBuilderInitArena]
  split
  · exact h
  split
  · split
    next hFailed =>
      rwa [hFailed] at hAlloc
    next hDone =>
      rwa [hDone] at hAlloc
  · exact h

end Since

variable {state : BuilderState}

lemma byteBuilderAppendBytes_arena {P : Arena → Prop}
    (hAlloc : ∀ arena size align, P arena → P (arenaAlloc arena size align).1) (h : P state.arena)
    (bytes : List UInt8) : P (Growing.byteBuilderAppendBytes state bytes).1.arena := by
  have hGrow : ∀ required, P (byteBuilderGrow state required).1.arena := by
    intro required
    rw [byteBuilderGrow.eq_def]
    split
    · exact h
    · exact h
    · split
      · exact h
      rename_i capacity _
      have hAfter := hAlloc state.arena capacity 1 h
      split
      next hFailed =>
        rwa [hFailed] at hAfter
      next hDone =>
        rwa [hDone] at hAfter
  have hReserve : P (Growing.byteBuilderReserve state bytes.length).1.arena := by
    rw [Growing.byteBuilderReserve]
    split
    · exact h
    · split
      · exact h
      · exact hGrow _
  rw [Growing.byteBuilderAppendBytes]
  split
  · exact h
  split
  next hFailed =>
    rwa [hFailed] at hReserve
  next hDone =>
    rwa [hDone] at hReserve

structure Lighter (lighter arena : Arena) : Prop where
  base : lighter.base = arena.base
  capacity : lighter.capacity = arena.capacity
  offset : lighter.offset ≤ arena.offset

lemma Lighter.refl (arena : Arena) : Lighter arena arena := ⟨rfl, rfl, Nat.le_refl _⟩

lemma Lighter.trans {first second third : Arena} (h : Lighter first second) (h' : Lighter second third) :
    Lighter first third :=
  ⟨h.base.trans h'.base, h.capacity.trans h'.capacity, Nat.le_trans h.offset h'.offset⟩

lemma lighter_arenaAlloc (arena : Arena) (size align : Nat) : Lighter arena (arenaAlloc arena size align).1 := by
  obtain ⟨code, hFailed⟩ | ⟨padding, -, -, -, hDone⟩ := arenaAlloc_cases arena size align
  · rw [hFailed]
    exact .refl arena
  · rw [hDone]
    exact ⟨rfl, rfl, by dsimp only; omega⟩

lemma arenaAlignmentPadding_lighter {lighter : Arena} (h : Lighter lighter arena) {padding : Nat}
    (hPower : isPowerOfTwo align = true) (hPadding : arenaAlignmentPadding arena align = .ok padding) :
    ∃ less, arenaAlignmentPadding lighter align = .ok less ∧ lighter.offset + less ≤ arena.offset + padding := by
  have hAligned := arenaAlignmentPadding_ok hPower hPadding
  have hBase := h.base
  have hOffset := h.offset
  obtain ⟨less, hLess⟩ : ∃ less, arenaAlignmentPadding lighter align = .ok less := by
    rw [arenaAlignmentPadding] at hPadding ⊢
    split at hPadding
    · cases hPadding
    split at hPadding
    · cases hPadding
    · rw [if_neg (by assumption), if_neg (by omega)]
      exact ⟨_, rfl⟩
  refine ⟨less, hLess, ?_⟩
  have hNear := arenaAlignmentPadding_le hLess
  have hOther := arenaAlignmentPadding_ok hPower hLess
  obtain ⟨k, hk⟩ := Nat.dvd_of_mod_eq_zero hAligned
  obtain ⟨j, hj⟩ := Nat.dvd_of_mod_eq_zero hOther
  -- Both sums are multiples, and the smaller one is less than one alignment above its address.
  by_contra hMore
  have hJump : align * (k + 1) ≤ align * j := by
    refine Nat.mul_le_mul_left _ ?_
    by_contra hSmall
    have := Nat.mul_le_mul_left align (show j ≤ k by omega)
    omega
  rw [Nat.mul_succ] at hJump
  omega

lemma arenaAlloc_lighter {lighter after : Arena} {size addr : Nat} (h : Lighter lighter arena)
    (hAlloc : arenaAlloc arena size align = (after, .ok addr)) :
    ∃ left place, arenaAlloc lighter size align = (left, .ok place) ∧ Lighter left after := by
  have hBase := h.base
  have hCap := h.capacity
  have hOffset := h.offset
  rw [arenaAlloc] at hAlloc ⊢
  split at hAlloc
  · cases hAlloc
  rename_i hArgs
  rw [not_or, Bool.not_eq_false] at hArgs
  split at hAlloc
  · cases hAlloc
  split at hAlloc
  · cases hAlloc
  split at hAlloc
  · cases hAlloc
  rename_i hPadding
  obtain ⟨less, hLess, hNear⟩ := arenaAlignmentPadding_lighter h hArgs.2 hPadding
  rw [if_neg (by rw [not_or, Bool.not_eq_false]; exact hArgs), if_neg (by omega), if_neg (by omega), hLess]
  simp only [checkedAddSize] at hAlloc ⊢
  split at hAlloc
  · cases hAlloc
  rename_i hTotal
  split at hAlloc
  · cases hAlloc
  split at hAlloc
  · cases hAlloc
  rename_i hFinal
  split at hTotal
  · cases hTotal
  split at hFinal
  · cases hFinal
  obtain rfl := Except.ok.inj hTotal
  obtain rfl := Except.ok.inj hFinal
  split at hAlloc
  · cases hAlloc
  cases hAlloc
  rw [if_neg (by omega)]
  dsimp only
  rw [if_neg (by omega), if_neg (by omega)]
  dsimp only
  rw [if_neg (by omega)]
  exact ⟨_, _, rfl, hBase, hCap, by dsimp only; omega⟩

lemma arenaTake_follows (size align : Nat) :
    Action.Follows Lighter (arenaTake size align) (arenaTake size align) Eq := by
  intro arena lighter after value hLighter hTake
  rw [arenaTake] at hTake ⊢
  split at hTake
  · cases hTake
  rename_i hAlloc
  cases hTake
  obtain ⟨left, place, hLeft, hBelow⟩ := arenaAlloc_lighter hLighter hAlloc
  rw [hLeft]
  exact ⟨left, (), rfl, rfl, hBelow⟩

lemma strCopyViewToArena_follows (text : List UInt8) :
    Action.Follows Lighter (strCopyViewToArena text) (strCopyViewToArena text) Eq := by
  rw [strCopyViewToArena]
  split
  · exact .pure rfl
  · refine (arenaTake_follows _ _).bind ?_
    rintro _ _ rfl
    exact .pure rfl

lemma lighter_byteBuilderAppendBytes (state : BuilderState) (bytes : List UInt8) :
    Lighter state.arena (Growing.byteBuilderAppendBytes state bytes).1.arena :=
  byteBuilderAppendBytes_arena (fun arena size align h => h.trans (lighter_arenaAlloc arena size align))
    (.refl state.arena) bytes

lemma doubleUntil_bounds {required maxCap fuel cand : Nat} (hMax : required ≤ maxCap)
    (hCand : cand ≤ maxCap) (hFuel : required ≤ cand * 2 ^ fuel) :
    required ≤ doubleUntil required maxCap fuel cand ∧ doubleUntil required maxCap fuel cand ≤ maxCap := by
  induction fuel generalizing cand with
  | zero =>
    rw [doubleUntil]
    exact ⟨by omega, hCand⟩
  | succ fuel ih =>
    rw [doubleUntil]
    split
    · split
      · exact ⟨hMax, Nat.le_refl _⟩
      rename_i hDoubled
      rw [(checkedMulSize_ok hDoubled).1]
      split
      · exact ⟨hMax, Nat.le_refl _⟩
      · apply ih (by omega)
        rw [Nat.mul_assoc, ← Nat.pow_succ']
        exact hFuel
    · exact ⟨by omega, hCand⟩

variable {maxCap required : Nat}

lemma le_doubleUntil {fuel cand : Nat} (hCand : cand ≤ maxCap) : cand ≤ doubleUntil required maxCap fuel cand := by
  induction fuel generalizing cand with
  | zero => exact Nat.le_refl _
  | succ fuel ih =>
    rw [doubleUntil]
    split
    · split
      · exact hCand
      rename_i hDoubled
      rw [(checkedMulSize_ok hDoubled).1]
      split
      · exact hCand
      · exact Nat.le_trans (by omega) (ih (by omega))
    · exact Nat.le_refl _

lemma doubleUntil_doubles {fuel cand : Nat} (h : cand < required) :
    doubleUntil required maxCap (fuel + 1) cand = maxCap ∨ 2 * cand ≤ doubleUntil required maxCap (fuel + 1) cand := by
  rw [doubleUntil, if_pos h]
  split
  · exact Or.inl rfl
  rename_i hDoubled
  rw [(checkedMulSize_ok hDoubled).1]
  split
  · exact Or.inl rfl
  · apply Or.inr
    rw [Nat.mul_comm 2]
    exact le_doubleUntil (by omega)

/-- A builder over an arena, within what it may grow to. -/
structure ArenaBuilder (builder : Growing.ByteBuilder) (maxCapacity : Nat) : Prop where
  storage : builder.storage = .arena
  limit : builder.maxCapacity = maxCapacity
  capacity : builder.capacity ≤ maxCapacity
  size : maxCapacity ≤ sizeMax

lemma byteBuilderNextCapacity_ok {builder : Growing.ByteBuilder} (hBuilder : ArenaBuilder builder maxCap)
    (hGrows : builder.capacity < required) (hFits : required ≤ maxCap) :
    ∃ capacity, byteBuilderNextCapacity builder required = .ok capacity ∧ required ≤ capacity ∧
      capacity ≤ maxCap ∧ (capacity = maxCap ∨ 2 * builder.capacity ≤ capacity) := by
  have hSize := hBuilder.size
  rw [byteBuilderNextCapacity, hBuilder.limit, if_neg (by omega)]
  obtain ⟨cand, hCand⟩ : ∃ cand, cand =
      (if (if builder.capacity = 0 then minGrowCapacity else builder.capacity) > maxCap then maxCap
        else (if builder.capacity = 0 then minGrowCapacity else builder.capacity)) := ⟨_, rfl⟩
  have hRange : 0 < cand ∧ cand ≤ maxCap ∧ (builder.capacity = 0 ∨ cand = builder.capacity) := by
    rw [hCand, minGrowCapacity]
    split <;> split <;> omega
  have hBounds := @doubleUntil_bounds required maxCap 64 cand hFits hRange.2.1 (by
    rw [sizeMax] at hSize
    omega)
  dsimp only
  rw [← hCand, if_neg (by omega)]
  refine ⟨_, rfl, hBounds.1, hBounds.2, ?_⟩
  rcases hRange.2.2 with hNew | hSame
  · rw [hNew]
    exact Or.inr (Nat.zero_le _)
  · rw [hSame]
    exact doubleUntil_doubles hGrows

/-- What a builder of this capacity may still take from the arena: the storages it doubles to, and at last
one of the full size. -/
def growthRoom (maxCapacity capacity : Nat) : Nat :=
  if capacity = maxCapacity then 0 else 3 * maxCapacity - 2 * capacity

/-- A builder beside an arena with the room it may grow into. -/
def Growable (maxCapacity : Nat) (state : BuilderState) (room : Nat) : Prop :=
  ArenaBuilder state.builder maxCapacity ∧ Roomy state.arena (growthRoom maxCapacity state.builder.capacity + room)

lemma byteBuilderReserve_growable {additional : Nat}
    (hFits : state.builder.content.length + additional ≤ maxCap) (h : Growable maxCap state room) :
    ∃ after, Growing.byteBuilderReserve state additional = (after, .ok ()) ∧ Growable maxCap after room := by
  obtain ⟨hBuilder, hRoom⟩ := h
  have hSize := hBuilder.size
  rw [Growing.byteBuilderReserve, checkedAddSize_of_le (by omega)]
  dsimp only
  split
  · exact ⟨state, rfl, hBuilder, hRoom⟩
  obtain ⟨capacity, hCap, hEnough, hLimit, hDoubles⟩ :=
    byteBuilderNextCapacity_ok hBuilder (Nat.lt_of_not_le (by assumption)) hFits
  have hLess : state.builder.capacity ≠ maxCap := by omega
  have hCost : capacity + (1 - 1) + (growthRoom maxCap capacity + room) ≤
      growthRoom maxCap state.builder.capacity + room := by
    rw [growthRoom, growthRoom, if_neg hLess]
    split <;> omega
  obtain ⟨arena, addr, hAlloc, hRest⟩ := arenaAlloc_roomy (by omega) (by decide) (hRoom.mono hCost)
  rw [byteBuilderGrow.eq_def, hBuilder.storage]
  rw [hCap]
  dsimp only
  rw [hAlloc]
  exact ⟨_, rfl, ⟨hBuilder.storage, hBuilder.limit, hLimit, hSize⟩, hRest⟩

lemma byteBuilderAppendBytes_growable {bytes : List UInt8}
    (hFits : state.builder.content.length + bytes.length ≤ maxCap) (h : Growable maxCap state room) :
    ∃ after, Growing.byteBuilderAppendBytes state bytes = (after, .ok ()) ∧ Growable maxCap after room := by
  rw [Growing.byteBuilderAppendBytes]
  split
  · exact ⟨state, rfl, h⟩
  · obtain ⟨after, hReserve, hAfter, hRoom⟩ := byteBuilderReserve_growable hFits h
    rw [hReserve]
    exact ⟨_, rfl, ⟨hAfter.storage, hAfter.limit, hAfter.capacity, hAfter.size⟩, hRoom⟩

lemma byteBuilderInitArena_growable {initCap : Nat} (hSome : 0 < initCap)
    (hInitial : initCap ≤ maxCap) (hSize : maxCap ≤ sizeMax)
    (h : Roomy arena (3 * maxCap + room)) :
    ∃ after, byteBuilderInitArena arena initCap maxCap = (after, .ok ⟨[], initCap, maxCap, .arena⟩) ∧
      Growable maxCap ⟨⟨[], initCap, maxCap, .arena⟩, after⟩ room := by
  have hCost : initCap + (1 - 1) + (growthRoom maxCap initCap + room) ≤ 3 * maxCap + room := by
    rw [growthRoom]
    split <;> omega
  obtain ⟨after, addr, hAlloc, hRest⟩ := arenaAlloc_roomy hSome (by decide) (h.mono hCost)
  rw [byteBuilderInitArena, if_neg (by omega), if_pos (by omega), hAlloc]
  exact ⟨after, rfl, ⟨rfl, rfl, hInitial, hSize⟩, hRest⟩

end Sloppy
