import Mathlib.Data.List.Basic

/-! # The first index with a property

A search over positions returns the least one with a property, or nothing. Searches that meet this
description for the same property return the same result, however they get there.
-/

namespace Sloppy.Lib

open List

structure IsFirst (P : Nat → Prop) (result : Option Nat) : Prop where
  found : ∀ index, result = some index → P index
  least : ∀ index, P index → ∃ first, result = some first ∧ first ≤ index

variable {P : Nat → Prop}

lemma IsFirst.unique {left right : Option Nat} (hLeft : IsFirst P left) (hRight : IsFirst P right) :
    left = right := by
  cases left with
  | none =>
    cases right with
    | none => rfl
    | some index =>
      obtain ⟨first, hFirst, -⟩ := hLeft.least index (hRight.found index rfl)
      cases hFirst
  | some index =>
    obtain ⟨first, rfl, hLe⟩ := hRight.least index (hLeft.found index rfl)
    obtain ⟨other, hOther, hGe⟩ := hLeft.least first (hRight.found first rfl)
    obtain rfl := Option.some.inj hOther
    rw [Nat.le_antisymm hLe hGe]

variable {result : Option Nat}

lemma IsFirst.none_iff (h : IsFirst P result) : result = none ↔ ∀ index, ¬P index := by
  constructor
  · rintro rfl index hIndex
    obtain ⟨first, hFirst, -⟩ := h.least index hIndex
    cases hFirst
  · intro hNone
    cases result with
    | none => rfl
    | some index => exact absurd (h.found index rfl) (hNone index)

variable {Q : Nat → Prop}

lemma IsFirst.congr (h : IsFirst P result) (hSame : ∀ index, P index ↔ Q index) : IsFirst Q result where
  found := fun index hIndex => (hSame index).mp (h.found index hIndex)
  least := fun index hIndex => h.least index ((hSame index).mpr hIndex)

lemma isFirst_find {stored : List Nat} {test : Nat → Bool} (hIncreasing : stored.Pairwise (· ≤ ·))
    (hStored : ∀ index, P index ↔ index ∈ stored ∧ test index = true) : IsFirst P (stored.find? test) where
  found := fun index hFind =>
    (hStored index).mpr ⟨mem_of_find?_eq_some hFind, find?_some hFind⟩
  least := by
    intro index hIndex
    obtain ⟨hMem, hTest⟩ := (hStored index).mp hIndex
    cases hFind : stored.find? test with
    | none => exact absurd hTest (find?_eq_none.mp hFind index hMem)
    | some first =>
      obtain ⟨-, before, after, rfl, hNone⟩ := find?_eq_some_iff_append.mp hFind
      refine ⟨first, rfl, ?_⟩
      rcases mem_append.mp hMem with hBefore | hAfter
      · have hMiss := hNone index hBefore
        rw [hTest] at hMiss
        cases hMiss
      · rcases mem_cons.mp hAfter with rfl | hLater
        · exact Nat.le_refl _
        · exact (pairwise_cons.mp (pairwise_append.mp hIncreasing).2.1).1 index hLater

lemma IsFirst.or {left right : Option Nat} (hLeft : IsFirst P left) (hRight : IsFirst Q right)
    (hBefore : ∀ index later, P index → Q later → index ≤ later) :
    IsFirst (fun index => P index ∨ Q index) (left.or right) := by
  cases left with
  | none =>
    have hNone := hLeft.none_iff.mp rfl
    exact hRight.congr fun index => ⟨Or.inr, fun h => h.resolve_left (hNone index)⟩
  | some first =>
    refine ⟨fun index hIndex => Or.inl (hLeft.found index hIndex), ?_⟩
    rintro index (hIndex | hIndex)
    · exact hLeft.least index hIndex
    · exact ⟨first, rfl, hBefore first index (hLeft.found first rfl) hIndex⟩

lemma IsFirst.succ (h : IsFirst (fun index => P (index + 1)) result) (hNot : ¬P 0) :
    IsFirst P (result.map (· + 1)) where
  found := fun index hIndex => by
    obtain ⟨first, hFirst, rfl⟩ := Option.map_eq_some_iff.mp hIndex
    exact h.found first hFirst
  least := fun index hIndex => by
    cases index with
    | zero => exact absurd hIndex hNot
    | succ index =>
      obtain ⟨first, rfl, hLe⟩ := h.least index hIndex
      exact ⟨first + 1, rfl, Nat.succ_le_succ hLe⟩

lemma drop_eq_cons {α : Type} {index : Nat} {items rest : List α} {item : α} (h : items.drop index = item :: rest) :
    items[index]? = some item ∧ items.drop (index + 1) = rest := by
  constructor
  · rw [← head?_drop, h]
    rfl
  · rw [← drop_drop, h]
    rfl

end Sloppy.Lib
