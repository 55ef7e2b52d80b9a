import Mathlib.Data.List.Basic

/-! # Records at places

A list of records is a store: a place is written over, or a new one is added at the end.
-/

namespace Sloppy.Lib

open List

variable {α : Type*} {l : List α} {place other : Nat} {old next a : α} {P : α → Prop}

lemma set_of_getElem? (h : l[place]? = some a) : l.set place a = l := by
  obtain ⟨hPlace, rfl⟩ := List.getElem_of_getElem? h
  exact set_getElem_self hPlace

lemma getElem?_set_cases (h : (l.set place next)[other]? = some a) :
    other = place ∧ a = next ∨ place ≠ other ∧ l[other]? = some a := by
  rw [getElem?_set] at h
  split at h
  next hSame =>
    split at h
    · exact .inl ⟨hSame.symm, (Option.some.inj h).symm⟩
    · cases h
  next hOther =>
    exact .inr ⟨hOther, h⟩

lemma exists_getElem?_set (hAt : l[place]? = some old) (h : l[other]? = some a)
    (hNext : place = other → old = a → P next) (hOld : place ≠ other → P a) :
    ∃ later, (l.set place next)[other]? = some later ∧ P later := by
  by_cases hSame : place = other
  · subst hSame
    exact ⟨next, getElem?_set_self (List.getElem_of_getElem? hAt).1, hNext rfl (Option.some.inj (hAt.symm.trans h))⟩
  · exact ⟨a, (getElem?_set_ne hSame).trans h, hOld hSame⟩

lemma forall_mem_set (h : ∀ a ∈ l, P a) (hNext : P next) : ∀ a ∈ l.set place next, P a := by
  intro a hMem
  obtain hOld | rfl := mem_or_eq_of_mem_set hMem
  · exact h a hOld
  · exact hNext

lemma getElem?_append_some (h : l[place]? = some a) (rest : List α) : (l ++ rest)[place]? = some a :=
  (getElem?_append_left (List.getElem_of_getElem? h).1).trans h

lemma getElem?_concat {last : α} (h : (l ++ [last])[place]? = some a) :
    l[place]? = some a ∨ place = l.length ∧ a = last := by
  obtain hLess | hRest := Nat.lt_or_ge place l.length
  · rw [getElem?_append_left hLess] at h
    exact .inl h
  rw [getElem?_append_right hRest] at h
  obtain ⟨hEnd, hLast⟩ := List.getElem_of_getElem? h
  rw [length_singleton] at hEnd
  exact .inr ⟨by omega, by simpa using hLast.symm⟩

end Sloppy.Lib
