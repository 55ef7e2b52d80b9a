import Sloppy.Dispatch.Build
import Sloppy.Lib.Places
import Mathlib.Data.List.Lex
import Mathlib.Data.List.Sort

/-! # The shape of a built table

The comparator of the parameter routes is the lexicographic order of a key. Every table `routeTableBuild` accepts holds
valid bindings, the routes without parameters first, the others by their keys, and the indexes built over them.
-/

namespace Sloppy.Dispatch

open Route Lib List

section Order

def segmentKey : RouteSegment → List Nat
  | .static text => 0 :: text.map UInt8.toNat
  | .param _ kind => if kind = .string then [2] else [1]

def routeKey (segments : List RouteSegment) (order : Nat) : List (List Nat) :=
  segments.map segmentKey ++ [[3], [order]]

def entryKey (entry : RouteTableEntry) : List (List Nat) :=
  routeKey entry.binding.pattern.segments entry.sourceOrder

def bindingKey (binding : RouteBinding) : List (List Nat) :=
  routeKey binding.pattern.segments binding.routeIndex

lemma strCompare_neg_iff (left right : List UInt8) :
    strCompare left right < 0 ↔ left.map UInt8.toNat < right.map UInt8.toNat := by
  induction left generalizing right with
  | nil => cases right <;> simp [strCompare]
  | cons l lefts ih =>
    cases right with
    | nil => simp [strCompare]
    | cons =>
      rw [strCompare, map_cons, map_cons, cons_lt_cons_iff]
      split
      next hLess =>
        exact ⟨fun _ => Or.inl (UInt8.lt_iff_toNat_lt.mp hLess), fun _ => by decide⟩
      split
      next hGreater =>
        have := UInt8.lt_iff_toNat_lt.mp hGreater
        exact ⟨fun h => absurd h (by decide), fun h => by omega⟩
      next hNotLess hNotGreater =>
        rw [UInt8.lt_iff_toNat_lt] at hNotLess hNotGreater
        rw [ih]
        exact ⟨fun h => Or.inr ⟨by omega, h⟩, fun h => (h.resolve_left hNotLess).2⟩

lemma segmentKey_lt_end (seg : RouteSegment) : segmentKey seg < [3] := by
  cases seg with
  | static => exact cons_lt_cons_iff.mpr (Or.inl (by decide))
  | param =>
    rw [segmentKey]
    split <;> exact cons_lt_cons_iff.mpr (Or.inl (by decide))

lemma segmentsLess_cons (sourceLess : Bool) (left right : RouteSegment) (lefts rights : List RouteSegment) :
    segmentsLess sourceLess (left :: lefts) (right :: rights) = true ↔ segmentKey left < segmentKey right ∨
        segmentKey left = segmentKey right ∧ segmentsLess sourceLess lefts rights = true := by
  rw [segmentsLess]
  cases left with
  | static text =>
    cases right with
    | static other =>
      by_cases hText : text = other
      · simp [RouteSegment.isParam, segmentText, hText]
      have hKey : segmentKey (.static text) ≠ segmentKey (.static other) := by
        intro h
        exact hText (map_injective_iff.mpr (fun _ _ => UInt8.toNat_inj.mp) (List.cons.inj h).2)
      rw [or_iff_left (fun h => hKey h.1)]
      simp [RouteSegment.isParam, segmentText, hText, strCompare_neg_iff, segmentKey]
    | param name kind =>
      have hKey : segmentKey (.static text) < segmentKey (.param name kind) := by
        rw [segmentKey, segmentKey]
        split <;> exact cons_lt_cons_iff.mpr (Or.inl (by decide))
      simp [RouteSegment.isParam, hKey]
  | param name kind =>
    cases right with
    | static other =>
      have hKey : segmentKey (.static other) < segmentKey (.param name kind) := by
        rw [segmentKey, segmentKey]
        split <;> exact cons_lt_cons_iff.mpr (Or.inl (by decide))
      simp [RouteSegment.isParam, hKey.ne', hKey.not_gt]
    | param other otherKind =>
      have hBool : ∀ kind : RouteParamKind, (kind != .string) = decide (kind ≠ .string) := by
        intro kind
        cases kind <;> rfl
      by_cases hKind : kind = .string <;> by_cases hOther : otherKind = .string <;>
        simp [RouteSegment.isParam, isConstrained, segmentKey, hBool, hKind, hOther, cons_lt_cons_iff]

lemma segmentsLess_iff (left right : List RouteSegment) (order otherOrder : Nat) :
    segmentsLess (decide (order < otherOrder)) left right = true ↔ routeKey left order < routeKey right otherOrder := by
  induction left generalizing right with
  | nil =>
    cases right with
    | nil => simp [segmentsLess, routeKey, cons_lt_cons_iff]
    | cons seg =>
      have hEnd := segmentKey_lt_end seg
      simp [segmentsLess, routeKey, cons_lt_cons_iff, hEnd.ne', hEnd.not_gt]
  | cons seg segs ih =>
    cases right with
    | nil =>
      have hEnd := segmentKey_lt_end seg
      simp [segmentsLess, routeKey, cons_lt_cons_iff, hEnd]
    | cons =>
      rw [segmentsLess_cons, ih]
      exact cons_lt_cons_iff.symm

lemma entryLess_iff (left right : RouteTableEntry) : entryLess left right = true ↔ entryKey left < entryKey right :=
  segmentsLess_iff _ _ _ _

lemma entryCompare_nonpos_iff (left right : RouteTableEntry) :
    entryCompare left right ≤ 0 ↔ entryKey left ≤ entryKey right := by
  rw [entryCompare]
  split
  next h =>
    exact ⟨fun _ => ((entryLess_iff _ _).mp h).le, fun _ => by decide⟩
  split
  next h =>
    have hGreater := (entryLess_iff _ _).mp h
    exact ⟨fun hFalse => absurd hFalse (by decide), fun hLe => absurd hLe hGreater.not_ge⟩
  next h =>
    exact ⟨fun _ => not_lt.mp fun hLess => h ((entryLess_iff _ _).mpr hLess), fun _ => le_refl _⟩

/-- Insertion sort keeps what `qsort` promises. -/
def insertionSortEntries (entries : List RouteTableEntry) : List RouteTableEntry :=
  entries.insertionSort fun left right => entryCompare left right ≤ 0

lemma insertionSort_sortsByCompare : SortsByCompare insertionSortEntries where
  perm := fun entries => perm_insertionSort _ entries
  sorted := fun entries => by
    have hTotal : Std.Total fun left right : RouteTableEntry => entryCompare left right ≤ 0 := ⟨fun left right => by
        rw [entryCompare_nonpos_iff, entryCompare_nonpos_iff]
        exact le_total _ _⟩
    have hTrans : IsTrans RouteTableEntry fun left right => entryCompare left right ≤ 0 := ⟨fun left middle right => by
        rw [entryCompare_nonpos_iff, entryCompare_nonpos_iff, entryCompare_nonpos_iff]
        exact le_trans⟩
    exact pairwise_insertionSort _ entries

def Parted (entries : List RouteTableEntry) (exactCount index : Nat) : Prop :=
  ∀ (place : Nat) (entry : RouteTableEntry), place < index → entries[place]? = some entry →
    (entry.hasParams = false ↔ place < exactCount)

variable {entries : List RouteTableEntry} {exactCount index : Nat} {item : RouteTableEntry}

section

variable (h : Parted entries exactCount index) (hLe : exactCount ≤ index) (hItem : entries[index]? = some item)
include h hLe hItem

lemma Parted.swap {front : RouteTableEntry} (hFront : entries[exactCount]? = some front)
    (hExact : item.hasParams = false) :
    Parted ((entries.set index front).set exactCount item) (exactCount + 1) (index + 1) := by
  intro place entry hPlace hEntry
  obtain ⟨rfl, rfl⟩ | ⟨hFirst, hSwapped⟩ := getElem?_set_cases hEntry
  · rw [hExact]
    exact ⟨fun _ => by omega, fun _ => rfl⟩
  obtain ⟨rfl, rfl⟩ | ⟨hOther, hOld⟩ := getElem?_set_cases hSwapped
  · rw [h exactCount _ (by omega) hFront]
    omega
  · rw [h place entry (by omega) hOld]
    omega

lemma Parted.skip (hParams : item.hasParams = true) : Parted entries exactCount (index + 1) := by
  intro place entry hPlace hEntry
  by_cases hSame : place = index
  · rw [hSame, hItem] at hEntry
    rw [← Option.some.inj hEntry, hParams]
    exact ⟨fun hFalse => absurd hFalse (by decide), fun hLess => by omega⟩
  · exact h place entry (by omega) hEntry

end

lemma partitionLoop_spec {fuel : Nat} (hLen : index + fuel = entries.length) (hLe : exactCount ≤ index)
    (hParted : Parted entries exactCount index) :
    (partitionLoop fuel entries index exactCount).1.Perm entries ∧
      Parted (partitionLoop fuel entries index exactCount).1
        (partitionLoop fuel entries index exactCount).2 entries.length := by
  induction fuel generalizing entries index exactCount with
  | zero => exact ⟨.refl _, by rwa [← hLen]⟩
  | succ fuel ih =>
    have hIndex : index < entries.length := by omega
    have hItem := getElem?_eq_getElem hIndex
    have hFront := getElem?_eq_getElem (Nat.lt_of_le_of_lt hLe hIndex)
    rw [partitionLoop, hItem, hFront]
    dsimp only
    split
    next hParams =>
      exact ih (by omega) (by omega) (hParted.skip hLe hItem hParams)
    rename_i hExact
    have hSwap := hParted.swap hLe hItem hFront (Bool.eq_false_iff.mpr hExact)
    obtain ⟨hPerm, hResult⟩ := ih (by rw [length_set, length_set]; omega) (by omega) hSwap
    rw [length_set, length_set] at hResult
    exact ⟨hPerm.trans (set_set_perm hIndex (Nat.lt_of_le_of_lt hLe hIndex)), hResult⟩

structure Ordered (entries ordered : List RouteTableEntry) (paramStart : Nat) : Prop where
  perm : ordered.Perm entries
  start : paramStart ≤ ordered.length
  exact : ∀ entry ∈ ordered.take paramStart, entry.hasParams = false
  params : ∀ entry ∈ ordered.drop paramStart, entry.hasParams = true
  sorted : (ordered.drop paramStart).Pairwise fun left right => entryKey left ≤ entryKey right

variable {qsort : List RouteTableEntry → List RouteTableEntry}

lemma sortParamEntries_perm (hSort : SortsByCompare qsort) (entries : List RouteTableEntry) :
    (sortParamEntries qsort entries).Perm entries := by
  rw [sortParamEntries]
  split
  · exact .refl _
  · exact hSort.perm entries

lemma sortParamEntries_sorted (hSort : SortsByCompare qsort) (entries : List RouteTableEntry) :
    (sortParamEntries qsort entries).Pairwise fun left right => entryKey left ≤ entryKey right := by
  rw [sortParamEntries]
  split
  · match entries with
    | [] => exact .nil
    | [entry] => exact pairwise_singleton _ _
  · exact (hSort.sorted entries).imp fun h => (entryCompare_nonpos_iff _ _).mp h

lemma partitionExactFirst_spec (entries : List RouteTableEntry) : (partitionExactFirst entries).1.Perm entries ∧
      Parted (partitionExactFirst entries).1 (partitionExactFirst entries).2 entries.length :=
  partitionLoop_spec (Nat.zero_add _) (Nat.le_refl 0) fun _ _ h => absurd h (Nat.not_lt_zero _)

lemma orderEntries_ordered (hSort : SortsByCompare qsort) (entries : List RouteTableEntry) :
    ∃ paramStart, Ordered entries (orderEntries qsort entries) paramStart := by
  obtain ⟨hPerm, hParted⟩ := partitionExactFirst_spec entries
  obtain ⟨⟨parted, count⟩, hResult⟩ : ∃ result, partitionExactFirst entries = result := ⟨_, rfl⟩
  rw [hResult] at hPerm hParted
  dsimp only at hPerm hParted
  have hLen : parted.length = entries.length := hPerm.length_eq
  have hOrder : orderEntries qsort entries = parted.take count ++ sortParamEntries qsort (parted.drop count) := by
    rw [orderEntries, hResult]
  refine ⟨(parted.take count).length, ?_⟩
  rw [hOrder]
  constructor
  · have hSorted := sortParamEntries_perm hSort (parted.drop count)
    exact ((hSorted.append_left _).trans (.of_eq (take_append_drop count parted))).trans hPerm
  · rw [length_append]
    omega
  · intro entry hEntry
    rw [take_left] at hEntry
    obtain ⟨place, hPlace, rfl⟩ := mem_take_iff_getElem.mp hEntry
    exact (hParted place _ (by omega) (getElem?_eq_getElem (by omega))).mpr (by omega)
  · intro entry hEntry
    rw [drop_left, (sortParamEntries_perm hSort _).mem_iff] at hEntry
    obtain ⟨place, hPlace, rfl⟩ := mem_drop_iff_getElem.mp hEntry
    refine Bool.eq_true_of_not_eq_false fun hExact => ?_
    have := (hParted _ _ (by omega) (getElem?_eq_getElem (by omega))).mp hExact
    omega
  · rw [drop_left]
    exact sortParamEntries_sorted hSort _

end Order

structure EntryOk (entry : RouteTableEntry) : Prop where
  valid : bindingValid entry.binding = true
  parsed : ∃ text, ParsedFrom text entry.binding.pattern
  hasParams : entry.hasParams = (entry.binding.pattern.paramCount != 0)
  order : entry.sourceOrder = entry.binding.routeIndex

structure RouteList (routes : List RouteBinding) (start : Nat) : Prop where
  valid : ∀ binding ∈ routes, bindingValid binding = true
  parsed : ∀ binding ∈ routes, ∃ text, ParsedFrom text binding.pattern
  exactFirst : ∀ (index : Nat) (binding : RouteBinding), routes[index]? = some binding →
    (bindingExactStatic binding = true ↔ index < start)
  sorted : (routes.drop start).Pairwise fun left right => bindingKey left ≤ bindingKey right

structure TableShape (table : DispatchTable) : Prop where
  routes : RouteList table.routes table.paramStart
  exact : buildExactBuckets table.routes = .ok table.exactBuckets
  params : buildParamIndexes table.paramRoutes table.paramStart =
    .ok (table.paramBuckets, table.paramBucketSlots, table.trie)
  bits : table.methodBits = methodBitsOf table.routes

variable {table : DispatchTable}

lemma TableShape.indexes (h : TableShape table) :
    (table.paramRoutes = [] ∧ table.paramBuckets = [] ∧ table.trie = .empty) ∨ (table.paramRoutes ≠ [] ∧
        buildParamIndex table.paramRoutes table.paramStart = .ok (table.paramBuckets, table.paramBucketSlots) ∧
        buildParamTrie table.paramRoutes table.paramStart = .ok table.trie) := by
  have hBuilt := h.params
  rw [buildParamIndexes] at hBuilt
  split at hBuilt
  next hNone =>
    simp only [Except.ok.injEq, Prod.mk.injEq] at hBuilt
    exact Or.inl ⟨hNone, hBuilt.1.symm, hBuilt.2.2.symm⟩
  next hSome =>
    split at hBuilt
    · cases hBuilt
    rename_i hIndex
    split at hBuilt
    · cases hBuilt
    rename_i hTrie
    obtain ⟨rfl, rfl, rfl⟩ := hBuilt
    exact Or.inr ⟨hSome, hIndex, hTrie⟩

variable {handlers : List Nat}

lemma planFindHandlerById_ok {id found : Nat} (h : planFindHandlerById handlers id = .ok found) :
    handlerIdValid id = true := by
  rw [planFindHandlerById] at h
  split at h
  · cases h
  next hValid =>
    simpa using hValid

lemma methodFromPlan_ok {text : List UInt8} {method : HttpMethod}
    (h : methodFromPlan text = .ok method) : bindingMethodRunnable method = true := by
  rw [methodFromPlan] at h
  split at h
  · cases h
  split at h
  next hRunnable =>
    rw [← Except.ok.inj h]
    exact hRunnable
  · cases h

lemma fillEntries_ok {routes : List PlanRoute} {index : Nat} {entries : List RouteTableEntry}
    (h : fillEntries handlers routes index = .ok entries) : ∀ entry ∈ entries, EntryOk entry := by
  induction routes generalizing index entries with
  | nil =>
    cases h
    exact forall_mem_nil _
  | cons route rest ih =>
    rw [fillEntries] at h
    split at h
    · cases h
    split at h
    · cases h
    rename_i hHandler
    split at h
    · cases h
    rename_i hPat
    split at h
    · cases h
    rename_i hMethod
    split at h
    · cases h
    rename_i hOthers
    obtain rfl := Except.ok.inj h
    refine forall_mem_cons.mpr ⟨⟨?_, ⟨_, patternParse_ok hPat⟩, rfl, rfl⟩, ih hOthers⟩
    rw [bindingValid, methodFromPlan_ok hMethod, planFindHandlerById_ok hHandler]
    rfl

variable {start : Nat}

lemma routeList_of_ordered {entries ordered : List RouteTableEntry} (hEntries : ∀ entry ∈ entries, EntryOk entry)
    (h : Ordered entries ordered start) : RouteList (ordered.map (·.binding)) start := by
  have hOk : ∀ entry ∈ ordered, EntryOk entry := fun entry hEntry =>
    hEntries entry (h.perm.mem_iff.mp hEntry)
  constructor
  · intro binding hBinding
    obtain ⟨entry, hEntry, rfl⟩ := mem_map.mp hBinding
    exact (hOk entry hEntry).valid
  · intro binding hBinding
    obtain ⟨entry, hEntry, rfl⟩ := mem_map.mp hBinding
    exact (hOk entry hEntry).parsed
  · intro index binding hBinding
    rw [getElem?_map, Option.map_eq_some_iff] at hBinding
    obtain ⟨entry, hEntry, rfl⟩ := hBinding
    have hParams := (hOk entry (mem_of_getElem? hEntry)).hasParams
    obtain ⟨hIndex, hAt⟩ := List.getElem_of_getElem? hEntry
    by_cases hBefore : index < start
    · have hTake : entry ∈ ordered.take start := mem_take_iff_getElem.mpr ⟨index, by omega, hAt⟩
      rw [h.exact entry hTake] at hParams
      simp [bindingExactStatic, hBefore, bne_eq_false_iff_eq.mp hParams.symm]
    · have hDrop : entry ∈ ordered.drop start := mem_drop_iff_getElem.mpr ⟨index - start, by omega, by
          simp [← hAt, Nat.add_sub_cancel' (Nat.not_lt.mp hBefore)]⟩
      rw [h.params entry hDrop] at hParams
      simp [bindingExactStatic, hBefore, bne_iff_ne.mp hParams.symm]
  · rw [← map_drop, pairwise_map]
    refine h.sorted.imp_of_mem ?_
    intro left right hLeft hRight hLe
    have hLeftOrder := (hOk left (mem_of_mem_drop hLeft)).order
    have hRightOrder := (hOk right (mem_of_mem_drop hRight)).order
    rwa [entryKey, entryKey, hLeftOrder, hRightOrder] at hLe

lemma RouteList.paramStartOf_eq {routes : List RouteBinding} (h : RouteList routes start)
    (hStart : start ≤ routes.length) : paramStartOf routes = start := by
  have hTest : ∀ (index : Nat) (hIndex : index < routes.length),
      (!bindingExactStatic routes[index]) = decide (start ≤ index) := by
    intro index hIndex
    have hExact := h.exactFirst index _ (getElem?_eq_getElem hIndex)
    rw [Bool.eq_iff_iff, Bool.not_eq_true', decide_eq_true_eq, ← Bool.not_eq_true, hExact, not_lt]
  rcases Nat.lt_or_eq_of_le hStart with hLess | rfl
  · refine (findIdx_eq hLess).mpr ⟨by rw [hTest, decide_eq_true (Nat.le_refl _)], ?_⟩
    intro index hIndex
    rw [hTest, decide_eq_false (by omega)]
  · refine findIdx_eq_length.mpr fun binding hBinding => ?_
    obtain ⟨index, hIndex, rfl⟩ := mem_iff_getElem.mp hBinding
    rw [hTest, decide_eq_false (by omega)]

lemma buildExactIndex_shape {bindings : List RouteBinding} (hRoutes : RouteList bindings start)
    (hStart : start ≤ bindings.length) (h : buildExactIndex bindings = .ok table) : TableShape table := by
  rw [buildExactIndex, hRoutes.paramStartOf_eq hStart] at h
  split at h
  · cases h
  rename_i hParams
  split at h
  · cases h
  next exact hExact =>
    obtain rfl := Except.ok.inj h
    exact ⟨hRoutes, hExact, hParams, rfl⟩

lemma routeTableBuild_shape {qsort : List RouteTableEntry → List RouteTableEntry} (hSort : SortsByCompare qsort)
    {plan : Plan} (h : routeTableBuild qsort plan = .ok table) : TableShape table := by
  rw [routeTableBuild] at h
  split at h
  · cases h
  · cases h
  · split at h
    · cases h
    split at h
    · cases h
    split at h
    · cases h
      refine ⟨⟨?_, ?_, ?_, List.Pairwise.nil⟩, rfl, rfl, rfl⟩
      · exact forall_mem_nil _
      · exact forall_mem_nil _
      · intro index binding hBinding
        cases hBinding
    · split at h
      · cases h
      rename_i entries hEntries
      split at h
      · cases h
      rename_i hBuilt
      obtain rfl := Except.ok.inj h
      obtain ⟨start, hOrdered⟩ := orderEntries_ordered hSort entries
      have hRoutes := routeList_of_ordered (fillEntries_ok hEntries) hOrdered
      exact buildExactIndex_shape hRoutes (by rw [length_map]; exact hOrdered.start) hBuilt

end Sloppy.Dispatch
