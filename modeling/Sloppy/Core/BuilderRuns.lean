import Sloppy.Core.Builder
import Sloppy.Core.Room
import Sloppy.Lib.Run

/-! # Byte builders and their storage

The builders of `builder.c` with the bytes they are written in. Fresh memory holds anything, and the bytes to append
may lie in the builder's own storage. Over any calls a builder is the list of what was appended.
-/

namespace Sloppy.Stored

open Growing Lib.Copy Lib.Run List

structure Builder where
  data : List UInt8
  length : Nat
  maxCapacity : Nat
  storage : BuilderStorage
  arena : Arena

def Builder.view (builder : Builder) : List UInt8 := builder.data.take builder.length

def Builder.known (builder : Builder) : Growing.ByteBuilder :=
  ⟨builder.view, builder.data.length, builder.maxCapacity, builder.storage⟩

def read (data : List UInt8) : ByteSpan → List UInt8
  | .outside bytes => bytes
  | .within offset length => (data.drop offset).take length

section Calls

-- What fresh memory holds.
variable (memory : Nat → UInt8)

def byteBuilderGrow (builder : Builder) (required : Nat) : Builder × Except StatusCode Unit :=
  match builder.storage with
  | .fixed | .small => (builder, .error .capacityExceeded)
  | .arena =>
    match byteBuilderNextCapacity builder.known required with
    | .error code => (builder, .error code)
    | .ok nextCapacity =>
      match arenaAlloc builder.arena nextCapacity 1 with
      | (arena, .error code) => ({ builder with arena := arena }, .error code)
      | (arena, .ok _) =>
        ({ builder with
            data := store ((List.range nextCapacity).map memory) 0 builder.view
            arena := arena }, .ok ())

def byteBuilderReserve (builder : Builder) (additional : Nat) : Builder × Except StatusCode Unit :=
  match checkedAddSize builder.length additional with
  | .error code => (builder, .error code)
  | .ok required =>
    if required ≤ builder.data.length then (builder, .ok ()) else byteBuilderGrow memory builder required

/-- Bytes of the builder's own storage are read where they are: in the old storage if the builder has grown. -/
def byteBuilderAppendBytes (builder : Builder) (span : ByteSpan) : Builder × Except StatusCode Unit :=
  if span.length = 0 then (builder, .ok ())
  else
    match byteBuilderReserve memory builder span.length with
    | (after, .error code) => (after, .error code)
    | (after, .ok ()) =>
      let data :=
        if builder.length + span.length ≤ builder.data.length then byteBuilderCopy after.data after.length span
        else store after.data after.length (read builder.data span)
      ({ after with data := data, length := after.length + span.length }, .ok ())

def byteBuilderReset (builder : Builder) : Builder := { builder with length := 0 }

inductive Operation
  | append (span : ByteSpan)
  | reserve (additional : Nat)
  | reset

inductive Outcome
  | appended (bytes : List UInt8) (status : Except StatusCode Unit)
  | reserved (status : Except StatusCode Unit)
  | reset

def clip (capacity : Nat) : ByteSpan → ByteSpan
  | .outside bytes => .outside bytes
  | .within offset length => .within (min offset capacity) (min length (capacity - offset))

def step (builder : Builder) : Operation → Builder × Outcome
  | .append span =>
    let span := clip builder.data.length span
    ((byteBuilderAppendBytes memory builder span).1,
      .appended (read builder.data span) (byteBuilderAppendBytes memory builder span).2)
  | .reserve additional =>
    ((byteBuilderReserve memory builder additional).1, .reserved (byteBuilderReserve memory builder additional).2)
  | .reset => (byteBuilderReset builder, .reset)

end Calls

/-- What was appended since the last reset; the newest call comes first. -/
def appended : List (Operation × Outcome) → List UInt8
  | [] => []
  | (_, .appended bytes (.ok ())) :: older => appended older ++ bytes
  | (_, .reset) :: _ => []
  | _ :: older => appended older

/-- The ways to make a builder, with sizes that are sizes. -/
inductive Origin
  | fixed (buffer : List UInt8) (isSize : buffer.length ≤ sizeMax)
  | small (buffer : List UInt8) (isSmall : buffer.length = 64)
  | arena (arena : Arena) (initialCapacity maxCapacity : Nat) (isSize : maxCapacity ≤ sizeMax)

def byteBuilderInit (memory : Nat → UInt8) : Origin → Except StatusCode Builder
  | .fixed buffer _ => .ok ⟨buffer, 0, buffer.length, .fixed, ⟨0, 0, 0, 0, 0⟩⟩
  | .small buffer _ => .ok ⟨buffer, 0, buffer.length, .small, ⟨0, 0, 0, 0, 0⟩⟩
  | .arena arena initialCapacity maxCapacity _ =>
    if initialCapacity > maxCapacity then .error .invalidArgument
    else if initialCapacity ≠ 0 then
      match arenaAlloc arena initialCapacity 1 with
      | (_, .error code) => .error code
      | (arena, .ok _) => .ok ⟨(List.range initialCapacity).map memory, 0, maxCapacity, .arena, arena⟩
    else .ok ⟨[], 0, maxCapacity, .arena, arena⟩

structure Builder.Valid (builder : Builder) : Prop where
  length_le : builder.length ≤ builder.data.length
  capacity_le : builder.data.length ≤ builder.maxCapacity
  size : builder.maxCapacity ≤ sizeMax
  whole : builder.storage ≠ .arena → builder.data.length = builder.maxCapacity

lemma valid_init {memory : Nat → UInt8} {origin : Origin} {builder : Builder}
    (h : byteBuilderInit memory origin = .ok builder) : builder.Valid ∧ builder.length = 0 := by
  cases origin with
  | fixed buf isSize =>
    cases h
    exact ⟨⟨Nat.zero_le _, Nat.le_refl _, isSize, fun _ => rfl⟩, rfl⟩
  | small buf isSmall =>
    cases h
    refine ⟨⟨Nat.zero_le _, Nat.le_refl _, ?_, fun _ => rfl⟩, rfl⟩
    exact Nat.le_trans (Nat.le_of_eq isSmall) (by decide)
  | arena arena initCap maxCap isSize =>
    rw [byteBuilderInit] at h
    split at h
    · cases h
    rename_i hInitial
    split at h
    · split at h
      · cases h
      · cases h
        refine ⟨⟨Nat.zero_le _, ?_, isSize, fun hOther => absurd rfl hOther⟩, rfl⟩
        rw [length_map, length_range]
        exact Nat.le_of_not_lt hInitial
    · cases h
      exact ⟨⟨Nat.le_refl _, Nat.zero_le _, isSize, fun hOther => absurd rfl hOther⟩, rfl⟩

/-- The arena has no room for the capacity that a builder of an arena asks for to hold the required length. -/
def AllocatorFails (builder : Builder) (required : Nat) (code : StatusCode) : Prop :=
  builder.storage = .arena ∧ builder.data.length < required ∧
  ∃ capacity, byteBuilderNextCapacity builder.known required = .ok capacity ∧
    required ≤ capacity ∧ capacity ≤ builder.maxCapacity ∧
    arenaAlloc builder.arena capacity 1 = (builder.arena, .error code)

variable {memory : Nat → UInt8} {builder : Builder}

lemma Builder.Valid.view_length (h : builder.Valid) : builder.view.length = builder.length := by
  rw [Builder.view, length_take, Nat.min_eq_left h.length_le]

lemma byteBuilderReserve_cases (h : builder.Valid) (additional : Nat) :
    (∃ code, byteBuilderReserve memory builder additional = (builder, .error code) ∧
      (builder.length + additional ≤ builder.maxCapacity →
        AllocatorFails builder (builder.length + additional) code)) ∨
    ∃ data arena, byteBuilderReserve memory builder additional =
        ({ builder with data := data, arena := arena }, .ok ()) ∧
      data.take builder.length = builder.view ∧ builder.length + additional ≤ data.length ∧
      data.length ≤ builder.maxCapacity ∧ (builder.storage ≠ .arena → data.length = builder.maxCapacity) ∧
      (builder.length + additional ≤ builder.data.length → data = builder.data) := by
  have hSize := h.size
  rw [byteBuilderReserve]
  split
  next code hAdd =>
    refine .inl ⟨code, rfl, fun hFits => ?_⟩
    rw [checkedAddSize_of_le (by omega)] at hAdd
    cases hAdd
  next hAdd =>
    obtain rfl := checkedAddSize_ok hAdd
    split
    · exact .inr ⟨builder.data, builder.arena, rfl, rfl, by assumption, h.capacity_le, h.whole, fun _ => rfl⟩
    rename_i hGrows
    have hFull : builder.storage ≠ .arena → ¬builder.length + additional ≤ builder.maxCapacity := by
      intro hOther
      rw [← h.whole hOther]
      exact hGrows
    rw [byteBuilderGrow.eq_def]
    split
    next hStorage =>
      exact .inl ⟨_, rfl, fun hFits => absurd hFits (hFull (by rw [hStorage]; exact nofun))⟩
    next hStorage =>
      exact .inl ⟨_, rfl, fun hFits => absurd hFits (hFull (by rw [hStorage]; exact nofun))⟩
    next hStorage =>
      have hArena : ArenaBuilder builder.known builder.maxCapacity := ⟨hStorage, rfl, h.capacity_le, h.size⟩
      split
      next code hNext =>
        refine .inl ⟨code, rfl, fun hFits => ?_⟩
        obtain ⟨capacity, hCap, -⟩ := byteBuilderNextCapacity_ok hArena (Nat.lt_of_not_le hGrows) hFits
        rw [hCap] at hNext
        cases hNext
      next nextCapacity hNext =>
        have hFits : builder.length + additional ≤ builder.maxCapacity := by
          unfold byteBuilderNextCapacity at hNext
          split at hNext
          · cases hNext
          next hMax =>
            exact Nat.le_of_not_lt hMax
        obtain ⟨capacity, hCap, hEnough, hLimit, -⟩ := byteBuilderNextCapacity_ok hArena (Nat.lt_of_not_le hGrows) hFits
        rw [hCap] at hNext
        cases hNext
        rcases arenaAlloc_cases builder.arena nextCapacity 1 with ⟨code, hAlloc⟩ | ⟨padding, -, -, -, hAlloc⟩
        · rw [hAlloc]
          exact .inl ⟨code, rfl, fun _ =>
            ⟨hStorage, Nat.lt_of_not_le hGrows, nextCapacity, hCap, hEnough, hLimit, hAlloc⟩⟩
        rw [hAlloc]
        have hView := h.view_length
        have hTaken := store_take ((range nextCapacity).map memory) 0 builder.view (by
          rw [length_map, length_range]
          omega)
        rw [Nat.zero_add, hView, take_zero, nil_append] at hTaken
        refine .inr ⟨_, _, rfl, hTaken, ?_, ?_, fun hOther => absurd hStorage hOther, fun hOld => absurd hOld hGrows⟩
        · rw [store_length, length_map, length_range]
          exact hEnough
        · rw [store_length, length_map, length_range]
          exact hLimit

lemma byteBuilderCopy_eq_store {data : List UInt8} {dst : Nat} {span : ByteSpan}
    (hDst : dst + span.length ≤ data.length) (hSpan : (read data span).length = span.length) :
    byteBuilderCopy data dst span = store data dst (read data span) := by
  cases span with
  | outside => rfl
  | within src length =>
    have hSrc : src + length ≤ data.length ∨ length = 0 := by
      rw [read, length_take, length_drop, ByteSpan.length] at hSpan
      omega
    rw [ByteSpan.length] at hDst hSpan
    rcases hSrc with hSrc | rfl
    · apply ext_getElem?
      intro i
      rw [byteBuilderCopy_within data dst src length hSrc hDst, store_getElem? _ _ _ (by omega), hSpan]
      split
      · rw [read, getElem?_take_of_lt (by omega), getElem?_drop]
      · rfl
    · rfl

lemma byteBuilderAppendBytes_cases (h : builder.Valid) {span : ByteSpan}
    (hSpan : (read builder.data span).length = span.length) :
    (∃ code, byteBuilderAppendBytes memory builder span = (builder, .error code) ∧
      (builder.length + span.length ≤ builder.maxCapacity →
        AllocatorFails builder (builder.length + span.length) code)) ∨
    ∃ after, byteBuilderAppendBytes memory builder span = (after, .ok ()) ∧ after.Valid ∧
      after.view = builder.view ++ read builder.data span := by
  rw [byteBuilderAppendBytes]
  split
  next hEmpty =>
    have hNothing : read builder.data span = [] := length_eq_zero_iff.mp (hSpan.trans hEmpty)
    exact .inr ⟨builder, rfl, h, by rw [hNothing, append_nil]⟩
  · obtain ⟨code, hReserve, hFails⟩ | ⟨data, arena, hReserve, hTaken, hRoom, hLimit, hWhole, hSame⟩ :=
      byteBuilderReserve_cases h span.length
    · rw [hReserve]
      exact .inl ⟨code, rfl, hFails⟩
    · rw [hReserve]
      have hStored : (if builder.length + span.length ≤ builder.data.length then
          byteBuilderCopy data builder.length span else store data builder.length (read builder.data span)) =
          store data builder.length (read builder.data span) := by
        split
        next hOld =>
          rw [hSame hOld, byteBuilderCopy_eq_store hOld hSpan]
        · rfl
      refine .inr ⟨_, rfl, ⟨?_, ?_, h.size, ?_⟩, ?_⟩
      · simp only [hStored, store_length]
        exact hRoom
      · simp only [hStored, store_length]
        exact hLimit
      · simp only [hStored, store_length]
        exact hWhole
      · simp only [Builder.view, hStored] at hTaken ⊢
        rw [← hTaken, ← hSpan]
        exact store_take data builder.length _ (by omega)

lemma read_clip_length (data : List UInt8) (span : ByteSpan) :
    (read data (clip data.length span)).length = (clip data.length span).length := by
  cases span with
  | outside => rfl
  | within offset length =>
    rw [clip, read, ByteSpan.length, length_take, length_drop]
    omega

/-- A call that failed changed nothing, and an append within the limit fails only if the allocator does. -/
inductive Failed (builder : Builder) : Builder × Outcome → Prop
  | append (bytes : List UInt8) (code : StatusCode)
    (cause : builder.length + bytes.length ≤ builder.maxCapacity →
      AllocatorFails builder (builder.length + bytes.length) code) :
    Failed builder (builder, .appended bytes (.error code))
  | reserve (code : StatusCode) : Failed builder (builder, .reserved (.error code))

inductive Done (view : List UInt8) : List UInt8 → Outcome → Prop
  | append (bytes : List UInt8) : Done view (view ++ bytes) (.appended bytes (.ok ()))
  | reserve : Done view view (.reserved (.ok ()))
  | reset : Done view [] .reset

lemma step_cases (h : builder.Valid) (op : Operation) :
    Failed builder (step memory builder op) ∨ (step memory builder op).1.Valid ∧
        Done builder.view (step memory builder op).1.view (step memory builder op).2 := by
  cases op with
  | append span =>
    have hSpan := read_clip_length builder.data span
    obtain ⟨code, hFailed, hFails⟩ | ⟨after, hDone, hValid, hView⟩ := @byteBuilderAppendBytes_cases memory _ h _ hSpan
    · simp only [step, hFailed]
      exact .inl (.append _ code (by rwa [hSpan]))
    · simp only [step, hDone, hView]
      exact .inr ⟨hValid, .append _⟩
  | reserve additional =>
    obtain ⟨code, hFailed, -⟩ | ⟨data, arena, hDone, hTaken, hRoom, hLimit, hWhole, -⟩ :=
      @byteBuilderReserve_cases memory _ h additional
    · rw [step, hFailed]
      exact .inl (.reserve code)
    · simp only [step, hDone, Builder.view, hTaken]
      exact .inr ⟨⟨by dsimp only; omega, hLimit, h.size, hWhole⟩, .reserve⟩
  | reset => exact .inr ⟨⟨Nat.zero_le _, h.capacity_le, h.size, h.whole⟩, .reset⟩

structure Tracks (builder : Builder) (calls : List (Operation × Outcome)) : Prop where
  valid : builder.Valid
  view_eq : builder.view = appended calls

lemma Tracks.step {calls : List (Operation × Outcome)} (h : Tracks builder calls) (op : Operation) :
    Tracks (step memory builder op).1 ((op, (step memory builder op).2) :: calls) := by
  obtain hFailed | ⟨hValid, hDone⟩ := @step_cases memory _ h.valid op
  · generalize Stored.step memory builder op = next at hFailed ⊢
    cases hFailed with
    | append | reserve => exact ⟨h.valid, h.view_eq⟩
  · refine ⟨hValid, ?_⟩
    rw [h.view_eq] at hDone
    generalize (Stored.step memory builder op).1.view = view at hDone ⊢
    generalize (Stored.step memory builder op).2 = outcome at hDone ⊢
    cases hDone with
    | append | reserve | reset => rfl

lemma doubleUntil_extra {required maxCap fuel cand : Nat} (hFuel : required ≤ cand * 2 ^ fuel)
    (extra : Nat) : doubleUntil required maxCap (fuel + extra) cand = doubleUntil required maxCap fuel cand := by
  induction fuel generalizing cand with
  | zero =>
    have hDone : ¬cand < required := by omega
    cases extra with
    | zero => rfl
    | succ => rw [Nat.zero_add, doubleUntil, doubleUntil, if_neg hDone]
  | succ fuel ih =>
    rw [Nat.add_right_comm, doubleUntil, doubleUntil]
    split
    · split
      · rfl
      rename_i hDoubled
      rw [(checkedMulSize_ok hDoubled).1]
      split
      · rfl
      · apply ih
        rw [Nat.mul_assoc, ← Nat.pow_succ']
        exact hFuel
    · rfl

/-- In every sequence of calls the view is what was appended since the last reset, and the length stays within
the capacity and that within its limit. The next call succeeds, or it fails as it should, and the doubling loop
for any size ends within 64 rounds. -/
theorem builder_run {memory : Nat → UInt8} {origin : Origin} {start : Builder}
    (hInit : byteBuilderInit memory origin = .ok start) (operations : List Operation) :
    let reached := (run (step memory) start operations).1
    reached.view = appended (run (step memory) start operations).2 ∧
    reached.length ≤ reached.data.length ∧ reached.data.length ≤ reached.maxCapacity ∧
    (∀ operation, Failed reached (step memory reached operation) ∨
      Done reached.view (step memory reached operation).1.view (step memory reached operation).2) ∧
    ∀ required candidate extra, 0 < candidate → required ≤ reached.maxCapacity →
      doubleUntil required reached.maxCapacity (64 + extra) candidate =
        doubleUntil required reached.maxCapacity 64 candidate := by
  obtain ⟨hValid, hEmpty⟩ := valid_init hInit
  have hStart : Tracks start [] := ⟨hValid, by rw [Builder.view, hEmpty, take_zero]; rfl⟩
  have hReached := run_invariant (step memory) Tracks (fun _ _ operation h => h.step operation) start hStart operations
  refine ⟨hReached.view_eq, hReached.valid.length_le, hReached.valid.capacity_le, fun operation => ?_, ?_⟩
  · exact (step_cases hReached.valid operation).imp_right And.right
  · intro required candidate extra hCandidate hRequired
    have hSize := hReached.valid.size
    rw [sizeMax] at hSize
    apply doubleUntil_extra
    omega

/-- A builder over an arena that grows, and then appends what it holds to itself. -/
theorem builder_run_doubled : byteBuilderInit (fun _ => 0xCD) (.arena ⟨4096, 64, 0, 0, 1⟩ 1 8 (by decide)) =
        .ok ⟨[0xCD], 0, 8, .arena, ⟨4096, 64, 1, 1, 1⟩⟩ ∧
      (run (step fun _ => 0xCD) ⟨[0xCD], 0, 8, .arena, ⟨4096, 64, 1, 1, 1⟩⟩
        [.append (.outside [1, 2]), .append (.within 0 2)]).1.view = [1, 2, 1, 2] :=
  ⟨rfl, (@builder_run (fun _ => 0xCD) (.arena ⟨4096, 64, 0, 0, 1⟩ 1 8 (by decide)) _ rfl
    [.append (.outside [1, 2]), .append (.within 0 2)]).1⟩

end Sloppy.Stored
