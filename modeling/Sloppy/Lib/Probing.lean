import Mathlib.Data.List.Basic

/-! # Open addressing

An entry is put into the first empty slot of its probe sequence; a lookup follows the probe sequence of a key up to an
empty slot. When the entries are inserted in increasing order, it finds the first that matches.
-/

namespace Sloppy.Lib.Probing

open List

def freeSlot (slots : List (Option Nat)) (seq : Nat → Nat) : Nat → Nat → Option Nat
  | 0, _ => none
  | fuel + 1, probe =>
    if slots[seq probe]? = some none then some (seq probe) else freeSlot slots seq fuel (probe + 1)

def insert (slots : List (Option Nat)) (seq : Nat → Nat) (entry : Nat) : Option (List (Option Nat)) :=
  (freeSlot slots seq slots.length 0).map fun slot => slots.set slot (some entry)

def lookupFrom (slots : List (Option Nat)) (seq : Nat → Nat) (isMatch : Nat → Bool) : Nat → Nat → Option Nat
  | 0, _ => none
  | fuel + 1, probe =>
    match slots[seq probe]? with
    | some (some entry) =>
      if isMatch entry then some entry else lookupFrom slots seq isMatch fuel (probe + 1)
    | _ => none

def lookup (slots : List (Option Nat)) (seq : Nat → Nat) (isMatch : Nat → Bool) : Option Nat :=
  lookupFrom slots seq isMatch slots.length 0

/-- The slots hold the stored entries, each behind entries inserted before it. -/
structure Filled (slots : List (Option Nat)) (seqOf : Nat → Nat → Nat) (stored : List Nat) :
    Prop where
  increasing : stored.Pairwise (· < ·)
  placed : ∀ entry ∈ stored, ∃ probe < slots.length, slots[seqOf entry probe]? = some (some entry) ∧
      ∀ earlier < probe, ∃ other < entry, slots[seqOf entry earlier]? = some (some other)
  only : ∀ (slot entry : Nat), slots[slot]? = some (some entry) → entry ∈ stored

lemma filled_empty (size : Nat) (seqOf : Nat → Nat → Nat) : Filled (List.replicate size none) seqOf [] where
  increasing := .nil
  placed := forall_mem_nil _
  only := fun slot entry h => by
    rw [getElem?_replicate] at h
    split at h <;> simp at h

variable {seq : Nat → Nat} {slots : List (Option Nat)}

lemma freeSlot_eq_some {fuel first slot : Nat} (hRange : ∀ probe, seq probe < slots.length)
    (h : freeSlot slots seq fuel first = some slot) :
    ∃ probe, first ≤ probe ∧ probe < first + fuel ∧ slot = seq probe ∧ slots[slot]? = some none ∧
      ∀ earlier, first ≤ earlier → earlier < probe → ∃ other, slots[seq earlier]? = some (some other) := by
  induction fuel generalizing first with
  | zero => cases h
  | succ fuel ih =>
    rw [freeSlot] at h
    split at h
    next hFree =>
      obtain rfl := Option.some.inj h
      exact ⟨first, Nat.le_refl _, by omega, rfl, hFree, fun _ _ _ => by omega⟩
    next hTaken =>
      obtain ⟨probe, hFirst, hLast, hSlot, hFree, hBefore⟩ := ih h
      refine ⟨probe, by omega, by omega, hSlot, hFree, ?_⟩
      intro earlier hLow hHigh
      by_cases hSame : earlier = first
      · subst hSame
        obtain ⟨value, hValue⟩ : ∃ value, slots[seq earlier]? = some value := ⟨_, getElem?_eq_getElem (hRange earlier)⟩
        cases value with
        | none => exact absurd hValue hTaken
        | some other => exact ⟨other, hValue⟩
      · exact hBefore earlier (by omega) hHigh

lemma freeSlot_isSome {fuel first probe : Nat} (hFree : slots[seq probe]? = some none) (hFirst : first ≤ probe)
    (hLast : probe < first + fuel) : ∃ slot, freeSlot slots seq fuel first = some slot := by
  induction fuel generalizing first with
  | zero => omega
  | succ fuel ih =>
    rw [freeSlot]
    split
    · exact ⟨_, rfl⟩
    next hTaken =>
      have : first ≠ probe := by
        rintro rfl
        exact hTaken hFree
      exact ih (by omega) (by omega)

variable {entry : Nat} {slots' : List (Option Nat)}

lemma insert_length (h : insert slots seq entry = some slots') : slots'.length = slots.length := by
  obtain ⟨slot, -, rfl⟩ := Option.map_eq_some_iff.mp h
  exact length_set

variable {seqOf : Nat → Nat → Nat} {stored : List Nat}

lemma Filled.insert (hFilled : Filled slots seqOf stored) (hRange : ∀ probe, seqOf entry probe < slots.length)
    (hAbove : ∀ other ∈ stored, other < entry) (h : insert slots (seqOf entry) entry = some slots') :
    Filled slots' seqOf (stored ++ [entry]) := by
  obtain ⟨slot, hSlot, rfl⟩ := Option.map_eq_some_iff.mp h
  obtain ⟨probe, -, hProbe, rfl, hFree, hBefore⟩ := freeSlot_eq_some hRange hSlot
  have hKept : ∀ (place other : Nat), slots[place]? = some (some other) →
      (slots.set (seqOf entry probe) (some entry))[place]? = some (some other) := by
    intro place other hAt
    rw [getElem?_set_ne, hAt]
    intro hSame
    rw [hSame, hAt] at hFree
    cases hFree
  constructor
  · refine pairwise_append.mpr ⟨hFilled.increasing, pairwise_singleton _ _, ?_⟩
    intro other hOther last hLast
    rw [mem_singleton.mp hLast]
    exact hAbove other hOther
  · intro other hOther
    rw [length_set]
    rcases mem_append.mp hOther with hStored | hLast
    · obtain ⟨place, hPlace, hAt, hEarlier⟩ := hFilled.placed other hStored
      refine ⟨place, hPlace, hKept _ _ hAt, fun earlier hLt => ?_⟩
      obtain ⟨before, hLess, hIn⟩ := hEarlier earlier hLt
      exact ⟨before, hLess, hKept _ _ hIn⟩
    · obtain rfl := mem_singleton.mp hLast
      refine ⟨probe, by omega, ?_, fun earlier hLt => ?_⟩
      · rw [getElem?_set_self (hRange probe)]
      · obtain ⟨before, hIn⟩ := hBefore earlier (Nat.zero_le _) hLt
        exact ⟨before, hAbove before (hFilled.only _ _ hIn), hKept _ _ hIn⟩
  · intro place other hAt
    rw [getElem?_set] at hAt
    split at hAt
    · split at hAt
      · rw [← Option.some.inj (Option.some.inj hAt)]
        exact mem_append_right _ (mem_singleton.mpr rfl)
      · cases hAt
    · exact mem_append_left _ (hFilled.only _ _ hAt)

variable {isMatch : Nat → Bool}

lemma lookupFrom_hit {fuel first last : Nat} (hFuel : last < first + fuel) (hFirst : first ≤ last)
    (hAt : slots[seq last]? = some (some entry)) (hMatch : isMatch entry = true)
    (hBefore : ∀ earlier, first ≤ earlier → earlier < last →
      ∃ other, slots[seq earlier]? = some (some other) ∧ isMatch other = false) :
    lookupFrom slots seq isMatch fuel first = some entry := by
  induction fuel generalizing first with
  | zero => omega
  | succ fuel ih =>
    rw [lookupFrom]
    by_cases hSame : first = last
    · subst hSame
      simp [hAt, hMatch]
    · obtain ⟨other, hOther, hMiss⟩ := hBefore first (Nat.le_refl _) (by omega)
      simp only [hOther, hMiss, Bool.false_eq_true, if_false]
      exact ih (by omega) (by omega) fun earlier hLow => hBefore earlier (by omega)

lemma lookupFrom_miss (hMiss : ∀ (slot entry : Nat), slots[slot]? = some (some entry) → isMatch entry = false)
    (fuel first : Nat) : lookupFrom slots seq isMatch fuel first = none := by
  induction fuel generalizing first with
  | zero => rfl
  | succ fuel ih =>
    rw [lookupFrom]
    split
    next hAt =>
      rw [hMiss _ _ hAt, if_neg Bool.false_ne_true]
      exact ih _
    · rfl

/-- A lookup returns the first stored entry that matches, if the matching entries were inserted
along the probe sequence that the lookup follows. -/
lemma Filled.lookup_eq (hFilled : Filled slots seqOf stored)
    (hSeq : ∀ entry ∈ stored, isMatch entry = true → seqOf entry = seq) :
    lookup slots seq isMatch = stored.find? isMatch := by
  cases hFind : stored.find? isMatch with
  | none =>
    refine lookupFrom_miss (fun slot entry hAt => ?_) _ _
    exact Bool.eq_false_iff.mpr (find?_eq_none.mp hFind entry (hFilled.only _ _ hAt))
  | some entry =>
    obtain ⟨hMatch, before, after, rfl, hNone⟩ := find?_eq_some_iff_append.mp hFind
    have hMem : entry ∈ before ++ entry :: after := by simp
    obtain ⟨probe, hProbe, hAt, hEarlier⟩ := hFilled.placed entry hMem
    rw [hSeq entry hMem hMatch] at hAt hEarlier
    refine lookupFrom_hit (by omega) (Nat.zero_le _) hAt hMatch fun earlier _ hLt => ?_
    obtain ⟨other, hLess, hOther⟩ := hEarlier earlier hLt
    refine ⟨other, hOther, ?_⟩
    -- what is stored below the first match stands before it
    have hIncreasing := (pairwise_append.mp hFilled.increasing).2.1
    rcases mem_append.mp (hFilled.only _ _ hOther) with hBefore | hAfter
    · simpa using hNone other hBefore
    · rcases mem_cons.mp hAfter with rfl | hLater
      · exact absurd hLess (Nat.lt_irrefl _)
      · have := (pairwise_cons.mp hIncreasing).1 other hLater
        omega

end Sloppy.Lib.Probing
