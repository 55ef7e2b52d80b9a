import Sloppy.Dispatch.Shape
import Sloppy.Dispatch.Lookup
import Sloppy.Lib.First

/-! # The hash tables

Routes and buckets go into their slots in table order, so a probe finds the first route without
parameters for a method and a path, and the bucket of a method and a first segment.
-/

namespace Sloppy.Dispatch

open Route Lib List

def Matches (routes : List RouteBinding) (method : HttpMethod) (path : List UInt8) (index : Nat) : Prop :=
  ∃ binding, routes[index]? = some binding ∧ binding.method = method ∧ patternCouldMatch binding.pattern path = true

/-- The index of a route from `start` up to `limit` with the given key. -/
def KeyedRoute {Key : Type} (key : RouteBinding → Key) (routes : List RouteBinding) (start limit : Nat)
    (value : Key) (index : Nat) : Prop :=
  (start ≤ index ∧ index < limit) ∧ ∃ binding, routes[index]? = some binding ∧ key binding = value

lemma keyedRoute_succ {Key : Type} {key : RouteBinding → Key} {routes : List RouteBinding} {start limit : Nat}
    {binding : RouteBinding} (hStart : start ≤ limit) (hAt : routes[limit]? = some binding) {value : Key}
    {index : Nat} :
    KeyedRoute key routes start (limit + 1) value index ↔
      KeyedRoute key routes start limit value index ∨ index = limit ∧ key binding = value := by
  constructor
  · rintro ⟨⟨hLow, hHigh⟩, other, hOther, hSame⟩
    rcases Nat.lt_succ_iff_lt_or_eq.mp hHigh with hLess | rfl
    · exact Or.inl ⟨⟨hLow, hLess⟩, other, hOther, hSame⟩
    · obtain rfl := Option.some.inj (hAt.symm.trans hOther)
      exact Or.inr ⟨rfl, hSame⟩
  · rintro (⟨⟨hLow, hHigh⟩, hRoute⟩ | ⟨rfl, hSame⟩)
    · exact ⟨⟨hLow, by omega⟩, hRoute⟩
    · exact ⟨⟨hStart, Nat.lt_succ_self _⟩, binding, hAt, hSame⟩

variable {count : Nat}

lemma probeSlot_lt (hCount : count ≠ 0) (hash : UInt64) (probe : Nat) : probeSlot count hash probe < count := by
  have := Nat.and_le_right (n := (hash + UInt64.ofNat probe).toNat) (m := count - 1)
  rw [probeSlot]
  omega

lemma ne_zero_of_powerOfTwo (h : powerOfTwo count = true) : count ≠ 0 := by
  rintro rfl
  cases h

structure Hashed (hashOf : Nat → UInt64) (size : Nat) (slots : List (Option Nat))
    (stored : List Nat) : Prop where
  length : slots.length = size
  filled : Probing.Filled slots (fun entry => probeSlot size (hashOf entry)) stored

lemma hashed_empty (hashOf : Nat → UInt64) (size : Nat) : Hashed hashOf size (List.replicate size none) [] :=
  ⟨length_replicate, Probing.filled_empty size _⟩

variable {hashOf : Nat → UInt64} {size : Nat} {slots slots' : List (Option Nat)} {stored : List Nat}

lemma Hashed.insertSlot (hHashed : Hashed hashOf size slots stored) {entry : Nat}
    (hAbove : ∀ other ∈ stored, other < entry) (h : insertSlot slots (hashOf entry) entry = .ok slots') :
    Hashed hashOf size slots' (stored ++ [entry]) := by
  rw [Dispatch.insertSlot] at h
  split at h
  · cases h
  rename_i hPower
  have hSize : slots.length ≠ 0 := ne_zero_of_powerOfTwo (by simpa using hPower)
  split at h
  · cases h
  rename_i hInsert
  obtain rfl := Except.ok.inj h
  rw [hHashed.length] at hInsert hSize
  refine ⟨(Probing.insert_length hInsert).trans hHashed.length, ?_⟩
  exact hHashed.filled.insert
    (fun probe => hHashed.length.symm ▸ probeSlot_lt hSize (hashOf entry) probe) hAbove hInsert

lemma Hashed.insertSlots (entries : List (Nat × UInt64)) (hHashed : Hashed hashOf size slots stored)
    (hHash : ∀ item ∈ entries, hashOf item.1 = item.2)
    (hIncreasing : (stored ++ entries.map Prod.fst).Pairwise (· < ·)) (h : insertSlots entries slots = .ok slots') :
    Hashed hashOf size slots' (stored ++ entries.map Prod.fst) := by
  induction entries generalizing slots stored with
  | nil =>
    obtain rfl := Except.ok.inj h
    rwa [map_nil, append_nil]
  | cons item rest ih =>
    obtain ⟨entry, hash⟩ := item
    rw [Dispatch.insertSlots] at h
    split at h
    · cases h
    rename_i hInsert
    obtain ⟨hFirst, hRest⟩ := forall_mem_cons.mp hHash
    obtain rfl : hashOf entry = hash := hFirst
    have hAbove : ∀ other ∈ stored, other < entry := fun other hOther =>
      (pairwise_append.mp hIncreasing).2.2 other hOther entry mem_cons_self
    rw [map_cons, ← singleton_append, ← append_assoc] at hIncreasing ⊢
    exact ih (hHashed.insertSlot hAbove hInsert) hRest hIncreasing h

lemma Hashed.lookup (h : Hashed hashOf size slots stored) {hash : UInt64} {isMatch : Nat → Bool}
    (hHash : ∀ entry ∈ stored, isMatch entry = true → hashOf entry = hash) {P : Nat → Prop}
    (hStored : ∀ index, P index ↔ index ∈ stored ∧ isMatch index = true) :
    IsFirst P (Probing.lookup slots (probeSlot slots.length hash) isMatch) := by
  have hSeq : ∀ entry ∈ stored, isMatch entry = true → probeSlot size (hashOf entry) = probeSlot slots.length hash := by
    intro entry hEntry hMatch
    rw [h.length, hHash entry hEntry hMatch]
  rw [h.filled.lookup_eq hSeq]
  exact isFirst_find (h.filled.increasing.imp Nat.le_of_lt) hStored

lemma zipIdx_increasing {α : Type} (items : List α) (start : Nat) :
    (items.zipIdx start).Pairwise fun left right => left.2 < right.2 := by
  rw [← pairwise_map, zipIdx_map_snd]
  exact pairwise_lt_range'

variable {entries : List (Nat × UInt64)}

lemma powerOfTwo_of_insertSlots (h : insertSlots entries slots = .ok slots') (hSome : entries ≠ []) :
    powerOfTwo slots.length = true := by
  obtain ⟨⟨entry, hash⟩, rest, rfl⟩ := exists_cons_of_ne_nil hSome
  rw [insertSlots] at h
  split at h
  · cases h
  rename_i hInsert
  rw [insertSlot] at hInsert
  split at hInsert
  · cases hInsert
  next hPower =>
    simpa using hPower

/-- The entries of the items that are kept, as both indexes list theirs. -/
def hashedEntries {Item : Type} (keep : Item → Bool) (hash : Item → UInt64) (items : List Item) : List (Nat × UInt64) :=
  (items.zipIdx.filter fun item => keep item.1).map fun item => (item.2, hash item.1)

variable {Item : Type} {keep : Item → Bool} {hash : Item → UInt64} {items : List Item}

lemma mem_hashedEntries {entry : Nat × UInt64} : entry ∈ hashedEntries keep hash items ↔
      ∃ item, items[entry.1]? = some item ∧ keep item = true ∧ hash item = entry.2 := by
  simp only [hashedEntries, mem_map, mem_filter, Prod.exists, mk_mem_zipIdx_iff_getElem?]
  constructor
  · rintro ⟨item, index, ⟨hAt, hKeep⟩, rfl⟩
    exact ⟨item, hAt, hKeep, rfl⟩
  · rintro ⟨item, hAt, hKeep, hHash⟩
    exact ⟨item, entry.1, ⟨hAt, hKeep⟩, by rw [hHash]⟩

lemma insertSlots_lookup (hEntries : entries = hashedEntries keep hash items) (hSome : ∃ item ∈ items, keep item = true)
    (h : insertSlots entries (List.replicate size none) = .ok slots) {holds : Item → Bool}
    {isMatch : Nat → Bool} (hMatch : ∀ index, isMatch index = items[index]?.elim false holds) (value : UInt64)
    (hHash : ∀ item, holds item = true → hash item = value) :
    powerOfTwo slots.length = true ∧
      IsFirst (fun index => ∃ item, items[index]? = some item ∧ keep item = true ∧ holds item = true)
        (Probing.lookup slots (probeSlot slots.length value) isMatch) := by
  subst hEntries
  have hIncreasing : ((hashedEntries keep hash items).map Prod.fst).Pairwise (· < ·) := by
    rw [hashedEntries, map_map, pairwise_map]
    exact (zipIdx_increasing items 0).filter _
  have hHashed := (hashed_empty (fun index => items[index]?.elim 0 hash) size).insertSlots _ (fun entry hEntry => ?_)
    hIncreasing h
  · constructor
    · obtain ⟨item, hItem, hKeep⟩ := hSome
      obtain ⟨index, hAt⟩ := mem_iff_getElem?.mp hItem
      have hMem : (index, hash item) ∈ hashedEntries keep hash items := mem_hashedEntries.mpr ⟨item, hAt, hKeep, rfl⟩
      have hPower := powerOfTwo_of_insertSlots h (ne_nil_of_mem hMem)
      rw [length_replicate] at hPower
      exact hHashed.length ▸ hPower
    · refine hHashed.lookup (fun index _ hHolds => ?_) fun index => ?_
      · rw [hMatch] at hHolds
        cases hAt : items[index]? with
        | none => simp [hAt] at hHolds
        | some item => exact hHash item (by simpa [hAt] using hHolds)
      · simp only [nil_append, mem_map, mem_hashedEntries, Prod.exists, exists_and_right, exists_eq_right]
        constructor
        · rintro ⟨item, hAt, hKeep, hHolds⟩
          exact ⟨⟨_, item, hAt, hKeep, rfl⟩, by rwa [hMatch, hAt]⟩
        · rintro ⟨⟨_, item, hAt, hKeep, -⟩, hHolds⟩
          rw [hMatch, hAt] at hHolds
          exact ⟨item, hAt, hKeep, hHolds⟩
  · obtain ⟨item, hAt, -, hEqual⟩ := mem_hashedEntries.mp hEntry
    rwa [hAt]

variable {routes : List RouteBinding}

lemma exactEntries_eq (routes : List RouteBinding) : exactEntries routes =
    hashedEntries bindingExactStatic (fun binding => exactHash binding.method binding.pattern.source) routes := rfl

lemma exactRouteMatches_eq (method : HttpMethod) (path : List UInt8) (index : Nat) :
    exactRouteMatches routes method path index =
      routes[index]?.elim false fun binding => binding.method == method && binding.pattern.source == path := by
  rw [exactRouteMatches]
  cases routes[index]? <;> rfl

lemma TableShape.findExact {table : DispatchTable} (hShape : TableShape table)
    {path : List UInt8} (hPath : path.head? = some slash) (method : HttpMethod) :
    IsFirst (fun index => Matches table.routes method path index ∧ index < table.paramStart)
      (findExactRouteForMethod table method path) := by
  have hBuilt := hShape.exact
  rw [buildExactBuckets] at hBuilt
  split at hBuilt
  next hNone =>
    -- no route is exact, and no slot was made
    have hSlots : table.exactBuckets = [] := (Except.ok.inj hBuilt).symm
    have hResult : findExactRouteForMethod table method path = none := by
      rw [findExactRouteForMethod, hSlots]
      rfl
    rw [hResult]
    refine ⟨fun _ h => (by cases h), ?_⟩
    rintro index ⟨⟨binding, hAt, -, -⟩, hStart⟩
    have hExact := (hShape.routes.exactFirst index binding hAt).mpr hStart
    exact absurd hExact (countP_eq_zero.mp hNone binding (mem_of_getElem? hAt))
  next hSome =>
    split at hBuilt
    · cases hBuilt
    obtain ⟨hPower, hFirst⟩ := insertSlots_lookup (exactEntries_eq table.routes)
      (countP_pos_iff.mp (Nat.pos_of_ne_zero hSome)) hBuilt (exactRouteMatches_eq method path) (exactHash method path)
      fun binding hHolds => by simp_all
    rw [findExactRouteForMethod, hPower]
    refine hFirst.congr fun index => ?_
    constructor
    · rintro ⟨binding, hAt, hExact, hHolds⟩
      rw [Bool.and_eq_true, beq_iff_eq, beq_iff_eq] at hHolds
      obtain ⟨text, hParsed⟩ := hShape.routes.parsed binding (mem_of_getElem? hAt)
      have hCould := (hParsed.couldMatch_static (beq_iff_eq.mp hExact) hPath).mpr hHolds.2
      exact ⟨⟨binding, hAt, hHolds.1, hCould⟩, (hShape.routes.exactFirst index binding hAt).mp hExact⟩
    · rintro ⟨⟨binding, hAt, hMethod, hMatch⟩, hStart⟩
      obtain ⟨text, hParsed⟩ := hShape.routes.parsed binding (mem_of_getElem? hAt)
      have hExact := (hShape.routes.exactFirst index binding hAt).mpr hStart
      have hSource := (hParsed.couldMatch_static (beq_iff_eq.mp hExact) hPath).mp hMatch
      exact ⟨binding, hAt, hExact, by simp [hMethod, hSource]⟩

end Sloppy.Dispatch
