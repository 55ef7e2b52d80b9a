import Sloppy.Core.Arena

/-! # Byte builders that grow

A builder by its content (`builder.c`), for callers that never append from its own storage. Builders over an arena
double their capacity up to a limit; the others never grow.
-/

namespace Sloppy.Growing

open List

inductive BuilderStorage where
  | fixed | small | arena
  deriving DecidableEq

structure ByteBuilder where
  content : List UInt8
  capacity : Nat
  maxCapacity : Nat
  storage : BuilderStorage
  deriving DecidableEq

structure BuilderState where
  builder : ByteBuilder
  arena : Arena
  deriving DecidableEq

def minGrowCapacity : Nat := 8

/-- The doubling loop; a size has 64 bits, so it ends within 64 rounds. -/
def doubleUntil (required maxCapacity : Nat) : Nat → Nat → Nat
  | 0, candidate => candidate
  | fuel + 1, candidate =>
    if candidate < required then
      match checkedMulSize candidate 2 with
      | .error _ => maxCapacity
      | .ok doubled =>
        if doubled > maxCapacity then maxCapacity else doubleUntil required maxCapacity fuel doubled
    else candidate

def byteBuilderNextCapacity (builder : ByteBuilder) (required : Nat) : Except StatusCode Nat :=
  if required > builder.maxCapacity then .error .capacityExceeded
  else
    let candidate := if builder.capacity = 0 then minGrowCapacity else builder.capacity
    let candidate := if candidate > builder.maxCapacity then builder.maxCapacity else candidate
    let candidate := doubleUntil required builder.maxCapacity 64 candidate
    if candidate < required then .error .capacityExceeded else .ok candidate

variable (state : BuilderState)

def byteBuilderGrow (required : Nat) : BuilderState × Except StatusCode Unit :=
  match state.builder.storage with
  | .fixed | .small => (state, .error .capacityExceeded)
  | .arena =>
    match byteBuilderNextCapacity state.builder required with
    | .error code => (state, .error code)
    | .ok nextCapacity =>
      match arenaAlloc state.arena nextCapacity 1 with
      | (arena, .error code) => ({ state with arena := arena }, .error code)
      | (arena, .ok _) => (⟨{ state.builder with capacity := nextCapacity }, arena⟩, .ok ())

def byteBuilderReserve (additional : Nat) : BuilderState × Except StatusCode Unit :=
  match checkedAddSize state.builder.content.length additional with
  | .error code => (state, .error code)
  | .ok required =>
    if required ≤ state.builder.capacity then (state, .ok ()) else byteBuilderGrow state required

def byteBuilderAppendBytes (bytes : List UInt8) : BuilderState × Except StatusCode Unit :=
  if bytes.length = 0 then (state, .ok ())
  else
    match byteBuilderReserve state bytes.length with
    | (state, .error code) => (state, .error code)
    | (state, .ok ()) =>
      ({ state with builder := { state.builder with content := state.builder.content ++ bytes } }, .ok ())

def byteBuilderAppendAll (state : BuilderState) : List (List UInt8) → BuilderState × Except StatusCode Unit
  | [] => (state, .ok ())
  | bytes :: rest =>
    match byteBuilderAppendBytes state bytes with
    | (state, .error code) => (state, .error code)
    | (state, .ok ()) => byteBuilderAppendAll state rest

def byteBuilderInitArena (arena : Arena) (initialCapacity maxCapacity : Nat) :
    Arena × Except StatusCode ByteBuilder :=
  if initialCapacity > maxCapacity then (arena, .error .invalidArgument)
  else if initialCapacity ≠ 0 then
    match arenaAlloc arena initialCapacity 1 with
    | (arena, .error code) => (arena, .error code)
    | (arena, .ok _) => (arena, .ok ⟨[], initialCapacity, maxCapacity, .arena⟩)
  else (arena, .ok ⟨[], initialCapacity, maxCapacity, .arena⟩)

lemma byteBuilderInitArena_content {arena after : Arena} {initCap maxCap : Nat}
    {builder : ByteBuilder} (h : byteBuilderInitArena arena initCap maxCap = (after, .ok builder)) :
    builder.content = [] := by
  rw [byteBuilderInitArena] at h
  split at h
  · cases h
  split at h
  · split at h
    · cases h
    · cases h
      rfl
  · cases h
    rfl

lemma byteBuilderGrow_content (required : Nat) :
    (byteBuilderGrow state required).1.builder.content = state.builder.content := by
  rw [byteBuilderGrow]
  split
  · rfl
  · rfl
  · split
    · rfl
    · split <;> rfl

lemma byteBuilderReserve_content (additional : Nat) :
    (byteBuilderReserve state additional).1.builder.content = state.builder.content := by
  rw [byteBuilderReserve]
  split
  · rfl
  · split
    · rfl
    · exact byteBuilderGrow_content state _

lemma byteBuilderAppendBytes_content (bytes : List UInt8) :
    (∃ code, (byteBuilderAppendBytes state bytes).2 = .error code ∧
      (byteBuilderAppendBytes state bytes).1.builder.content = state.builder.content) ∨
    (byteBuilderAppendBytes state bytes).2 = .ok () ∧
      (byteBuilderAppendBytes state bytes).1.builder.content = state.builder.content ++ bytes := by
  have hContent := byteBuilderReserve_content state bytes.length
  rw [byteBuilderAppendBytes]
  split
  next hEmpty =>
    rw [length_eq_zero_iff.mp hEmpty, append_nil]
    exact Or.inr ⟨rfl, rfl⟩
  · split
    next code hReserve =>
      rw [hReserve] at hContent
      exact Or.inl ⟨code, rfl, hContent⟩
    next hReserve =>
      rw [hReserve] at hContent
      exact Or.inr ⟨rfl, congrArg (· ++ bytes) hContent⟩

lemma byteBuilderAppendAll_content {state : BuilderState} {spans : List (List UInt8)}
    (h : (byteBuilderAppendAll state spans).2 = .ok ()) :
    (byteBuilderAppendAll state spans).1.builder.content = state.builder.content ++ spans.flatten := by
  induction spans generalizing state with
  | nil => rw [flatten_nil, append_nil, byteBuilderAppendAll]
  | cons bytes rest ih =>
    rw [byteBuilderAppendAll] at h ⊢
    obtain ⟨code, hFailed, -⟩ | ⟨hDone, hContent⟩ := byteBuilderAppendBytes_content state bytes
    · obtain ⟨after, hAfter⟩ : ∃ after, byteBuilderAppendBytes state bytes = (after, .error code) :=
        ⟨_, Prod.ext rfl hFailed⟩
      rw [hAfter] at h
      cases h
    · obtain ⟨after, hAfter⟩ : ∃ after, byteBuilderAppendBytes state bytes = (after, .ok ()) := ⟨_, Prod.ext rfl hDone⟩
      rw [hAfter] at h hContent ⊢
      rw [ih h, hContent, flatten_cons, append_assoc]

end Sloppy.Growing
