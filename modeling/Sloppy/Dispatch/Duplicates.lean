import Sloppy.Dispatch.Hashing
import Mathlib.Algebra.Group.Nat.Defs

/-! # The duplicate check

The routes of a plan go into slots by the hash of their method and pattern. There are at least twice
as many slots as routes and a probe visits every slot, so it ends at an empty one or at an equal
route, whatever the hash is.
-/

namespace Sloppy.Dispatch

open Route Lib Probing List

def planKey (route : PlanRoute) : List UInt8 × List UInt8 := (route.method, route.pattern)

/-- The slots as they stand when the check comes to the route with the given index. -/
inductive DuplicateRun (hash : PlanRoute → UInt64) (routes : List PlanRoute) :
    Nat → List (Option Nat) → Prop
  | start {count : Nat} : nextBucketCount routes.length = some count →
      DuplicateRun hash routes 0 (List.replicate count none)
  | next {index : Nat} {slots slots' : List (Option Nat)} {route : PlanRoute} :
      DuplicateRun hash routes index slots → routes[index]? = some route →
      duplicateProbe hash routes slots route index slots.length 0 = .ok (some slots') →
      DuplicateRun hash routes (index + 1) slots'

lemma doubleUpTo_cases {target fuel place : Nat} (hFuel : place + fuel = 65) (hPlace : place ≤ 63) :
    (∃ last ≤ 63, doubleUpTo target fuel (2 ^ place) = some (2 ^ last) ∧ target ≤ 2 ^ last) ∨
      2 ^ 63 < target ∧ doubleUpTo target fuel (2 ^ place) = none := by
  induction fuel generalizing place with
  | zero => omega
  | succ fuel ih =>
    rw [doubleUpTo]
    split
    next hLess =>
      by_cases hTop : place = 63
      · subst hTop
        exact .inr ⟨hLess, if_pos (by decide)⟩
      · have hSmall : 2 ^ place ≤ 2 ^ 62 := Nat.pow_le_pow_right Nat.two_pos (by omega)
        rw [if_neg (by simp only [sizeMax]; omega), ← Nat.pow_succ]
        exact ih (by omega) (by omega)
    next hLess =>
      exact .inl ⟨place, hPlace, rfl, Nat.not_lt.mp hLess⟩

lemma nextBucketCount_cases (value : Nat) :
    (∃ last ≤ 63, nextBucketCount value = some (2 ^ last) ∧ value * 2 ≤ 2 ^ last) ∨
      2 ^ 62 < value ∧ nextBucketCount value = none := by
  rw [nextBucketCount, sizeMax]
  by_cases hOverflow : value ≠ 0 ∧ value * 2 % (18446744073709551615 + 1) / 2 ≠ value
  · exact .inr ⟨by omega, if_pos hOverflow⟩
  · rw [if_neg hOverflow, Nat.mod_eq_of_lt (by omega)]
    rcases doubleUpTo_cases (Nat.zero_add 65) (Nat.zero_le 63) with hSome | ⟨hAbove, hNone⟩
    · exact .inl hSome
    · exact .inr ⟨by omega, hNone⟩

lemma exists_probeSlot {last slot : Nat} (hLast : last ≤ 63) (hash : UInt64) (hSlot : slot < 2 ^ last) :
    ∃ probe < 2 ^ last, probeSlot (2 ^ last) hash probe = slot := by
  refine ⟨(slot + (2 ^ last - hash.toNat % 2 ^ last)) % 2 ^ last, Nat.mod_lt _ (Nat.two_pow_pos _), ?_⟩
  rw [probeSlot, Nat.and_two_pow_sub_one_eq_mod, UInt64.toNat_add, UInt64.toNat_ofNat', Nat.add_mod_mod,
    Nat.mod_mod_of_dvd _ (Nat.pow_dvd_pow 2 (by omega)), Nat.add_mod_mod]
  have hSum : hash.toNat + (slot + (2 ^ last - hash.toNat % 2 ^ last)) =
      slot + 2 ^ last * (hash.toNat / 2 ^ last + 1) := by
    have := Nat.div_add_mod hash.toNat (2 ^ last)
    have := Nat.mod_lt hash.toNat (Nat.two_pow_pos last)
    rw [Nat.mul_succ]
    omega
  rw [hSum, Nat.add_mul_mod_self_left, Nat.mod_eq_of_lt hSlot]

variable {hash : List UInt8 × List UInt8 → UInt64} {routes : List PlanRoute} {slots : List (Option Nat)}
  {route : PlanRoute} {index last : Nat}

def isTwin (routes : List PlanRoute) (route : PlanRoute) (other : Nat) : Bool :=
  routes[other]?.map planKey == some (planKey route)

lemma mem_take_iff : planKey route ∈ (routes.take index).map planKey ↔
    ∃ other ∈ List.range index, isTwin routes route other = true := by
  rw [mem_iff_getElem?]
  simp [isTwin, getElem?_take]

lemma duplicateProbe_eq {hash : PlanRoute → UInt64} (fuel first : Nat)
    (hTaken : ∀ (slot other : Nat), slots[slot]? = some (some other) → other < routes.length)
    (hRange : ∀ probe, probeSlot slots.length (hash route) probe < slots.length) :
    duplicateProbe hash routes slots route index fuel first =
      if (lookupFrom slots (probeSlot slots.length (hash route)) (isTwin routes route) fuel first).isSome then .ok none
      else (freeSlot slots (probeSlot slots.length (hash route)) fuel first).elim (.error .capacityExceeded)
        fun slot => .ok (some (slots.set slot (some index))) := by
  induction fuel generalizing first with
  | zero => rfl
  | succ fuel ih =>
    rw [duplicateProbe, lookupFrom, freeSlot]
    have hSome := getElem?_eq_getElem (hRange first)
    cases hValue : slots[probeSlot slots.length (hash route) first]? with
    | none => cases hSome.symm.trans hValue
    | some value =>
      cases value with
      | none => rfl
      | some other =>
        have hOther := getElem?_eq_getElem (hTaken _ _ hValue)
        simp [isTwin, hOther, planKey, ih]
        split <;> rfl

/-- The routes before an index are stored, no two of them equal, and enough slots are left. -/
structure SlotsHold (hash : List UInt8 × List UInt8 → UInt64) (routes : List PlanRoute) (last index : Nat)
    (slots : List (Option Nat)) : Prop where
  power : last ≤ 63
  room : routes.length * 2 ≤ 2 ^ last
  hashed : Hashed (fun index => (routes[index]?.map planKey).elim 0 hash) (2 ^ last) slots (List.range index)
  free : slots.count none + index = 2 ^ last
  distinct : ((routes.take index).map planKey).Nodup

lemma slotsHold_start {count : Nat} (h : nextBucketCount routes.length = some count) :
    ∃ last, SlotsHold hash routes last 0 (List.replicate count none) := by
  rcases nextBucketCount_cases routes.length with ⟨last, hLast, hCount, hRoom⟩ | ⟨-, hNone⟩
  · obtain rfl := Option.some.inj (hCount.symm.trans h)
    exact ⟨last, hLast, hRoom, hashed_empty _ _, count_replicate_self, nodup_nil⟩
  · rw [hNone] at h
    cases h

lemma SlotsHold.probe (h : SlotsHold hash routes last index slots) (hRoute : routes[index]? = some route) :
    duplicateProbe (hash ∘ planKey) routes slots route index slots.length 0 = .ok none ∧
        planKey route ∈ (routes.take index).map planKey ∨
      ∃ slots', duplicateProbe (hash ∘ planKey) routes slots route index slots.length 0 =
        .ok (some slots') ∧ SlotsHold hash routes last (index + 1) slots' := by
  obtain ⟨hLast, hRoom, ⟨hLength, hFilled⟩, hFree, hDistinct⟩ := h
  have hIndex := (List.getElem?_eq_some_iff.mp hRoute).1
  have hRange : ∀ probe, probeSlot slots.length (hash (planKey route)) probe < slots.length :=
    probeSlot_lt (hLength ▸ (Nat.two_pow_pos last).ne') _
  have hSeq : ∀ entry ∈ List.range index, isTwin routes route entry = true →
      probeSlot (2 ^ last) ((routes[entry]?.map planKey).elim 0 hash) =
        probeSlot slots.length (hash (planKey route)) := by
    intro entry _ hTwin
    rw [beq_iff_eq.mp hTwin, hLength, Option.elim_some]
  rw [duplicateProbe_eq _ _ (fun _ _ hAt => (mem_range.mp (hFilled.only _ _ hAt)).trans hIndex) hRange]
  have hLookup : lookupFrom _ _ _ _ _ = _ := hFilled.lookup_eq hSeq
  cases hFind : (List.range index).find? (isTwin routes route) with
  | some other =>
    rw [Function.comp, hLookup, hFind]
    exact .inl ⟨rfl, mem_take_iff.mpr ⟨other, mem_of_find?_eq_some hFind, find?_some hFind⟩⟩
  | none =>
    obtain ⟨slot, hSlot⟩ := mem_iff_getElem?.mp (count_pos_iff.mp (by omega : 0 < slots.count none))
    have hBound := (List.getElem?_eq_some_iff.mp hSlot).1
    rw [hLength] at hBound
    obtain ⟨place, hPlace, rfl⟩ := exists_probeSlot hLast (hash (planKey route)) hBound
    rw [← hLength] at hPlace hSlot
    obtain ⟨slot, hFound⟩ := freeSlot_isSome hSlot (Nat.zero_le _) (by omega : _ < 0 + slots.length)
    obtain ⟨probe, -, -, -, hEmpty, -⟩ := freeSlot_eq_some hRange hFound
    obtain ⟨hLt, hNone⟩ := List.getElem?_eq_some_iff.mp hEmpty
    rw [Function.comp, hLookup, hFind, hFound]
    refine .inr ⟨_, rfl, hLast, hRoom, ⟨length_set.trans hLength, ?_⟩, ?_, ?_⟩
    · rw [range_succ]
      refine hFilled.insert ?_ (fun _ => mem_range.mp) (Option.map_eq_some_iff.mpr ⟨slot, ?_, rfl⟩)
      all_goals rw [hRoute, Option.map_some, Option.elim_some, ← hLength]
      · exact hRange
      · exact hFound
    · rw [count_set hLt, hNone]
      simp
      omega
    · rw [take_add_one, hRoute, map_append, Option.toList_some, map_singleton, ← concat_eq_append]
      refine hDistinct.concat fun hMem => ?_
      obtain ⟨other, hOther, hTwin⟩ := mem_take_iff.mp hMem
      exact find?_eq_none.mp hFind other hOther hTwin

lemma DuplicateRun.slotsHold (h : DuplicateRun (hash ∘ planKey) routes index slots) :
    ∃ last, SlotsHold hash routes last index slots := by
  induction h with
  | start hCount => exact slotsHold_start hCount
  | next _ hRoute hProbe ih =>
    obtain ⟨last, hHold⟩ := ih
    rcases hHold.probe hRoute with ⟨hResult, -⟩ | ⟨slots', hResult, hNext⟩
    · cases hResult.symm.trans hProbe
    · obtain rfl := Option.some.inj (Except.ok.inj (hResult.symm.trans hProbe))
      exact ⟨last, hNext⟩

lemma SlotsHold.loop (rest : List PlanRoute) (h : SlotsHold hash routes last index slots)
    (hRest : routes.drop index = rest) :
    duplicateLoop (hash ∘ planKey) routes rest index slots = .ok (!decide (routes.map planKey).Nodup) := by
  induction rest generalizing index slots with
  | nil =>
    have hAll := h.distinct
    rw [take_of_length_le (drop_eq_nil_iff.mp hRest)] at hAll
    rw [duplicateLoop, decide_eq_true hAll, Bool.not_true]
  | cons route rest ih =>
    have hRoute : routes[index]? = some route := by
      rw [← Nat.add_zero index, ← getElem?_drop, hRest, getElem?_cons_zero]
    rw [duplicateLoop]
    rcases h.probe hRoute with ⟨hResult, hTwin⟩ | ⟨slots', hResult, hNext⟩
    · have hTwice : ¬ (routes.map planKey).Nodup := by
        rw [← take_append_drop index routes, hRest, map_append, map_cons, nodup_append]
        exact fun hNodup => hNodup.2.2 _ hTwin _ mem_cons_self rfl
      rw [hResult, decide_eq_false hTwice, Bool.not_false]
    · rw [hResult]
      exact ih hNext (by rw [← drop_drop, hRest, drop_one, tail_cons])

/-- For every hash of the method and the pattern, the check tells whether two routes have both in common, unless no
slot count fits them or the arena has no room for the slots, and each of its probes ends at an empty slot or a twin. -/
theorem duplicateCheck_reports (arena : Nat → Except StatusCode Unit) (hash : List UInt8 × List UInt8 → UInt64)
    (routes : List PlanRoute) :
    ((∀ count, nextBucketCount routes.length = some count → arena count = .ok ()) →
      duplicateCheck arena (hash ∘ planKey) routes =
        if routes.length ≤ 2 ^ 62 then .ok (!decide (routes.map planKey).Nodup) else .error .capacityExceeded) ∧
      (∀ count code, 2 ≤ routes.length → nextBucketCount routes.length = some count → arena count = .error code →
        duplicateCheck arena (hash ∘ planKey) routes = .error code) ∧
      ∀ index slots route, DuplicateRun (hash ∘ planKey) routes index slots → routes[index]? = some route →
        ∃ result, duplicateProbe (hash ∘ planKey) routes slots route index slots.length 0 = .ok result := by
  refine ⟨fun hArena => ?_, fun count code hMany hCount hFull => ?_, fun index slots route hRun hRoute => ?_⟩
  · rw [duplicateCheck]
    by_cases hFew : routes.length < 2
    · have hNodup : (routes.map planKey).Nodup := by
        cases routes with
        | nil => exact nodup_nil
        | cons route rest =>
          obtain rfl := length_eq_zero_iff.mp (by rw [length_cons] at hFew; omega : rest.length = 0)
          exact nodup_singleton _
      rw [if_pos hFew, if_pos (by omega), decide_eq_true hNodup, Bool.not_true]
    · rw [if_neg hFew]
      rcases nextBucketCount_cases routes.length with ⟨last, hLast, hCount, hRoom⟩ | ⟨hAbove, hNone⟩
      · have hTop : 2 ^ last ≤ 2 ^ 63 := Nat.pow_le_pow_right Nat.two_pos hLast
        rw [if_pos (by omega), hCount]
        dsimp only
        rw [hArena _ hCount]
        obtain ⟨size, hHold⟩ := slotsHold_start hCount
        exact hHold.loop routes rfl
      · rw [if_neg (by omega), hNone]
  · rw [duplicateCheck, if_neg (Nat.not_lt.mpr hMany), hCount]
    dsimp only
    rw [hFull]
  · obtain ⟨last, hHold⟩ := hRun.slotsHold
    rcases hHold.probe hRoute with ⟨hResult, -⟩ | ⟨slots', hResult, -⟩
    · exact ⟨_, hResult⟩
    · exact ⟨_, hResult⟩

end Sloppy.Dispatch
