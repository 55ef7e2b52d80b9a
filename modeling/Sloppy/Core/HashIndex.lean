import Mathlib.Data.List.GetD
import Sloppy.Core.Room

/-! # Hash indices

Chained buckets over two arrays of entry numbers (`container.c`). Entries are numbered from 1 on and 0
ends a chain; the caller keeps the entries themselves and says which one it looks for. A new entry goes
to the front of its chain.
-/

namespace Sloppy

open Lib List

structure HashIndex where
  buckets : List Nat
  nextIndices : List Nat
  capacity : Nat
  bucketCount : Nat
  count : Nat
  deriving DecidableEq

def HashIndex.zero : HashIndex := ⟨[], [], 0, 0, 0⟩

def arenaArrayAlloc (count elemSize alignment : Nat) : Action Arena StatusCode Unit :=
  if count = 0 then pure ()
  else do
    let size ← Action.ofExcept (checkedMulSize count elemSize)
    arenaTake size alignment

def hashIndexInit (capacity bucketCount : Nat) : Action Arena StatusCode HashIndex := fun arena =>
  if capacity = 0 ∨ bucketCount = 0 then (arena, .error .invalidArgument)
  else
    match arenaArrayAlloc bucketCount 8 8 arena with
    | (afterBuckets, .error code) => (afterBuckets, .error code)
    | (afterBuckets, .ok ()) =>
      match arenaArrayAlloc capacity 8 8 afterBuckets with
      | (afterNexts, .error code) => ((arenaResetTo afterNexts (arenaMark arena)).1, .error code)
      | (afterNexts, .ok ()) =>
        (afterNexts, .ok ⟨List.replicate bucketCount 0, List.replicate capacity 0, capacity, bucketCount, 0⟩)

def HashIndex.bucket (index : HashIndex) (place : Nat) : Nat := index.buckets.getD place 0

def HashIndex.next (index : HashIndex) (entry : Nat) : Nat := index.nextIndices.getD (entry - 1) 0

def chainFind (index : HashIndex) (equals : Nat → Bool) : Nat → Nat → Except StatusCode Nat
  | 0, entry => if entry = 0 then .error .outOfRange else .error .invalidState
  | left + 1, entry =>
    if entry = 0 then .error .outOfRange
    else if entry > index.capacity then .error .invalidState
    else if equals entry then .ok entry
    else chainFind index equals left (index.next entry)

def hashIndexFind (index : HashIndex) (hash : Nat) (equals : Nat → Bool) : Except StatusCode Nat :=
  if index.bucketCount = 0 then .error .invalidArgument
  else chainFind index equals index.capacity (index.bucket (hash % index.bucketCount))

def chainLacks (index : HashIndex) (entry : Nat) : Nat → Nat → Except StatusCode Unit
  | 0, current => if current = 0 then .ok () else .error .invalidState
  | left + 1, current =>
    if current = 0 then .ok ()
    else if current > index.capacity then .error .invalidState
    else if current = entry then .error .invalidState
    else chainLacks index entry left (index.next current)

def bucketsLack (index : HashIndex) (entry : Nat) : List Nat → Except StatusCode Unit
  | [] => .ok ()
  | head :: rest =>
    match chainLacks index entry index.capacity head with
    | .error code => .error code
    | .ok () => bucketsLack index entry rest

def HashIndex.link (index : HashIndex) (hash entry : Nat) : HashIndex :=
  { index with
    nextIndices := index.nextIndices.set (entry - 1) (index.bucket (hash % index.bucketCount))
    buckets := index.buckets.set (hash % index.bucketCount) entry
    count := index.count + 1 }

def hashIndexInsert (index : HashIndex) (hash entry : Nat) : Except StatusCode HashIndex :=
  if index.bucketCount = 0 ∨ entry = 0 ∨ entry > index.capacity then .error .invalidArgument
  else
    match bucketsLack index entry index.buckets with
    | .error code => .error code
    | .ok () =>
      if index.count ≥ index.capacity then .error .capacityExceeded else .ok (index.link hash entry)

/-- Following the links from an entry visits these and then ends. -/
inductive Path (next : Nat → Nat) : Nat → List Nat → Prop where
  | nil : Path next 0 []
  | cons {entry : Nat} {rest : List Nat} : entry ≠ 0 → Path next (next entry) rest → Path next entry (entry :: rest)

variable {path : List Nat} {start : Nat}

lemma Path.congr {next next' : Nat → Nat} (h : Path next start path)
    (hSame : ∀ entry ∈ path, next' entry = next entry) : Path next' start path := by
  induction h with
  | nil => exact .nil
  | cons hEntry hRest ih =>
    rw [forall_mem_cons] at hSame
    refine .cons hEntry ?_
    rw [hSame.1]
    exact ih hSame.2

variable {index : HashIndex} {left : Nat}

lemma chainFind_path (h : Path index.next start path) (hRange : ∀ entry ∈ path, entry ≤ index.capacity)
    (equals : Nat → Bool) (hLeft : path.length ≤ left) :
    chainFind index equals left start = (path.find? equals).elim (.error .outOfRange) .ok := by
  induction h generalizing left with
  | nil => cases left <;> rfl
  | @cons entry rest hEntry hRest ih =>
    rw [forall_mem_cons] at hRange
    rw [length_cons] at hLeft
    obtain ⟨left, rfl⟩ : ∃ less, left = less + 1 := ⟨left - 1, by omega⟩
    rw [chainFind, if_neg hEntry, if_neg (Nat.not_lt.mpr hRange.1), find?_cons]
    cases hEquals : equals entry with
    | true => rfl
    | false => exact ih hRange.2 (by omega)

variable {entry : Nat}

lemma chainLacks_path (h : Path index.next start path) (hRange : ∀ other ∈ path, other ≤ index.capacity)
    (hLacks : entry ∉ path) (hLeft : path.length ≤ left) : chainLacks index entry left start = .ok () := by
  induction h generalizing left with
  | nil => cases left <;> rfl
  | @cons other rest hOther hRest ih =>
    rw [forall_mem_cons] at hRange
    rw [length_cons] at hLeft
    rw [mem_cons, not_or] at hLacks
    obtain ⟨left, rfl⟩ : ∃ less, left = less + 1 := ⟨left - 1, by omega⟩
    rw [chainLacks, if_neg hOther, if_neg (Nat.not_lt.mpr hRange.1), if_neg (Ne.symm hLacks.1)]
    exact ih hRange.2 hLacks.2 (by omega)

def newestFirst : Nat → List Nat
  | 0 => []
  | n + 1 => (n + 1) :: newestFirst n

lemma mem_newestFirst {n : Nat} : entry ∈ newestFirst n ↔ 0 < entry ∧ entry ≤ n := by
  induction n with
  | zero =>
    constructor
    · intro hMem
      cases hMem
    · omega
  | succ n ih =>
    rw [newestFirst, mem_cons, ih]
    omega

lemma length_newestFirst (n : Nat) : (newestFirst n).length = n := by
  induction n with
  | zero => rfl
  | succ n ih => rw [newestFirst, length_cons, ih]

/-- The chain of a bucket when the entries have these hashes. -/
def chainOf (bucketCount : Nat) (hashes : List Nat) (place : Nat) : List Nat :=
  (newestFirst hashes.length).filter fun entry => hashes.getD (entry - 1) 0 % bucketCount == place

variable {hashes : List Nat} {place : Nat}

lemma mem_chainOf {bucketCount : Nat} : entry ∈ chainOf bucketCount hashes place ↔
      (0 < entry ∧ entry ≤ hashes.length) ∧ hashes.getD (entry - 1) 0 % bucketCount = place := by
  rw [chainOf, mem_filter, mem_newestFirst, beq_iff_eq]

lemma length_chainOf_le (bucketCount : Nat) (hashes : List Nat) (place : Nat) :
    (chainOf bucketCount hashes place).length ≤ hashes.length := by
  have hFilter := length_filter_le
    (fun entry => hashes.getD (entry - 1) 0 % bucketCount == place) (newestFirst hashes.length)
  rwa [length_newestFirst] at hFilter

lemma chainOf_append (bucketCount : Nat) (hashes : List Nat) (hash place : Nat) :
    chainOf bucketCount (hashes ++ [hash]) place =
      if hash % bucketCount = place then (hashes.length + 1) :: chainOf bucketCount hashes place
      else chainOf bucketCount hashes place := by
  have hOld : (newestFirst hashes.length).filter
      (fun entry => (hashes ++ [hash]).getD (entry - 1) 0 % bucketCount == place) =
      chainOf bucketCount hashes place := by
    apply filter_congr
    intro entry hEntry
    obtain ⟨hPositive, hLe⟩ := mem_newestFirst.mp hEntry
    rw [getD_append _ _ _ _ (by omega)]
  have hNew : (hashes ++ [hash]).getD (hashes.length + 1 - 1) 0 = hash := by simp
  rw [chainOf, length_append, length_singleton, newestFirst, filter_cons, hOld, hNew]
  simp only [beq_iff_eq]

/-- The index holds entries of these hashes, in the order of their numbers. -/
structure HashIndex.Holds (index : HashIndex) (hashes : List Nat) : Prop where
  positive : 0 < index.bucketCount
  buckets : index.buckets.length = index.bucketCount
  nexts : index.nextIndices.length = index.capacity
  count : index.count = hashes.length
  fits : hashes.length ≤ index.capacity
  chains : ∀ place < index.bucketCount, Path index.next (index.bucket place) (chainOf index.bucketCount hashes place)

lemma HashIndex.Holds.inRange (h : index.Holds hashes) :
    ∀ entry ∈ chainOf index.bucketCount hashes place, entry ≤ index.capacity := fun _ hEntry =>
  Nat.le_trans (mem_chainOf.mp hEntry).1.2 h.fits

lemma HashIndex.Holds.short (h : index.Holds hashes) (place : Nat) :
    (chainOf index.bucketCount hashes place).length ≤ index.capacity :=
  Nat.le_trans (length_chainOf_le _ _ _) h.fits

lemma hashIndexInit_ok {arena after : Arena} {cap bucketCount : Nat}
    (h : hashIndexInit cap bucketCount arena = (after, .ok index)) :
    index.Holds [] ∧ index.capacity = cap := by
  rw [hashIndexInit] at h
  split at h
  · cases h
  rename_i hArgs
  split at h
  · cases h
  split at h
  · cases h
  cases h
  refine ⟨⟨Nat.pos_of_ne_zero (not_or.mp hArgs).2, length_replicate, length_replicate, rfl, Nat.zero_le _, ?_⟩, rfl⟩
  intro place _
  have hHead : (HashIndex.mk (replicate bucketCount 0) (replicate cap 0) cap bucketCount 0).bucket place = 0 := by
    rw [HashIndex.bucket, getD_eq_getElem?_getD, getElem?_replicate]
    split <;> rfl
  rw [hHead]
  exact .nil

lemma hashIndexFind_holds (h : index.Holds hashes) (hash : Nat) (equals : Nat → Bool) :
    hashIndexFind index hash equals = ((chainOf index.bucketCount hashes (hash % index.bucketCount)).find? equals).elim
        (.error .outOfRange) .ok := by
  rw [hashIndexFind, if_neg (Nat.ne_of_gt h.positive)]
  exact chainFind_path (h.chains _ (Nat.mod_lt _ h.positive)) h.inRange equals (h.short _)

lemma bucketsLack_of_forall {heads : List Nat}
    (h : ∀ head ∈ heads, chainLacks index entry index.capacity head = .ok ()) :
    bucketsLack index entry heads = .ok () := by
  induction heads with
  | nil => rfl
  | cons head rest ih =>
    rw [forall_mem_cons] at h
    rw [bucketsLack, h.1]
    exact ih h.2

lemma HashIndex.Holds.lacks (h : index.Holds hashes) :
    bucketsLack index (hashes.length + 1) index.buckets = .ok () := by
  apply bucketsLack_of_forall
  intro head hHead
  obtain ⟨place, hPlace, rfl⟩ := getElem_of_mem hHead
  have hPath := h.chains place (h.buckets ▸ hPlace)
  rw [HashIndex.bucket, getD_eq_getElem _ _ hPlace] at hPath
  apply chainLacks_path hPath h.inRange _ (h.short place)
  intro hMem
  exact Nat.not_succ_le_self _ (mem_chainOf.mp hMem).1.2

lemma HashIndex.link_next {index : HashIndex} {hash entry : Nat} (hEntry : 0 < entry)
    (hRange : entry ≤ index.nextIndices.length) (other : Nat) (hOther : 0 < other) :
    (index.link hash entry).next other =
      if other = entry then index.bucket (hash % index.bucketCount) else index.next other := by
  have hPlace : entry - 1 < index.nextIndices.length := by omega
  simp only [HashIndex.next, HashIndex.link, getD_eq_getElem?_getD, getElem?_set, if_pos hPlace]
  split
  · rw [if_pos (by omega)]
    rfl
  · rw [if_neg (by omega)]

lemma HashIndex.link_bucket {hash : Nat} (hBuckets : index.buckets.length = index.bucketCount)
    (hPositive : 0 < index.bucketCount) (place : Nat) :
    (index.link hash entry).bucket place =
      if hash % index.bucketCount = place then entry else index.bucket place := by
  have hPlace : hash % index.bucketCount < index.buckets.length := by
    rw [hBuckets]
    exact Nat.mod_lt _ hPositive
  simp only [HashIndex.bucket, HashIndex.link, getD_eq_getElem?_getD, getElem?_set, if_pos hPlace]
  split <;> rfl

lemma HashIndex.Holds.link (h : index.Holds hashes) (hash : Nat) (hRoom : hashes.length < index.capacity) :
    (index.link hash (hashes.length + 1)).Holds (hashes ++ [hash]) where
  positive := h.positive
  buckets := length_set.trans h.buckets
  nexts := length_set.trans h.nexts
  count := by
    rw [length_append, length_singleton, ← h.count]
    rfl
  fits := by
    rw [length_append, length_singleton]
    exact hRoom
  chains := by
    intro place hPlace
    have hNext := @HashIndex.link_next index hash (hashes.length + 1) (Nat.succ_pos _) (by rw [h.nexts]; omega)
    have hOld : Path (index.link hash (hashes.length + 1)).next (index.bucket place)
        (chainOf index.bucketCount hashes place) := by
      apply (h.chains place hPlace).congr
      intro entry hEntry
      have hBounds := (mem_chainOf.mp hEntry).1
      rw [hNext entry hBounds.1, if_neg (by omega)]
    have hCount : (index.link hash (hashes.length + 1)).bucketCount = index.bucketCount := rfl
    rw [hCount, HashIndex.link_bucket h.buckets h.positive, chainOf_append]
    split
    next hHere =>
      apply Path.cons (Nat.succ_ne_zero _)
      rw [hNext _ (Nat.succ_pos _), if_pos rfl, hHere]
      exact hOld
    · exact hOld

lemma hashIndexInsert_holds (h : index.Holds hashes) (hash : Nat) (hRoom : hashes.length < index.capacity) :
    hashIndexInsert index hash (hashes.length + 1) = .ok (index.link hash (hashes.length + 1)) := by
  have hPositive := h.positive
  have hCount := h.count
  rw [hashIndexInsert, if_neg (by omega), h.lacks]
  rw [if_neg (by omega)]

end Sloppy
