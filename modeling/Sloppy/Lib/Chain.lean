import Mathlib.Data.List.Perm.Subperm

/-! # Chains in an array of cells

Linked lists whose cells live in one growing array. A new cell is linked behind the last cell of one chain; that chain
grows by the new value and every other chain stays as it is.
-/

namespace Sloppy.Lib

open List

universe u

structure Cell (α : Type u) where
  value : α
  next : Option Nat
  deriving DecidableEq

namespace Chain

variable {α : Type u}

/-- Following the chain from an index visits exactly these cells. -/
inductive Linked (cells : List (Cell α)) : Option Nat → List (Nat × α) → Prop where
  | nil : Linked cells none []
  | cons {index : Nat} {value : α} {next : Option Nat} {rest : List (Nat × α)} :
      cells[index]? = some ⟨value, next⟩ → Linked cells next rest →
      Linked cells (some index) ((index, value) :: rest)

def relink (cells : List (Cell α)) (last next : Nat) : List (Cell α) :=
  cells.modify last fun cell => { cell with next := some next }

variable {cells : List (Cell α)} {last : Nat} {next : Nat}

lemma getElem?_relink_ne {index : Nat} (h : index ≠ last) : (relink cells last next)[index]? = cells[index]? := by
  simp [relink, Ne.symm h]

lemma getElem?_relink_self {value : α} {old : Option Nat} (h : cells[last]? = some ⟨value, old⟩) :
    (relink cells last next)[last]? = some ⟨value, some next⟩ := by
  simp [relink, h]

lemma relink_length (cells : List (Cell α)) (last next : Nat) : (relink cells last next).length = cells.length :=
  length_modify ..

variable {entries : List (Nat × α)} {start : Option Nat}

section

variable (h : Linked cells start entries)
include h

lemma Linked.index_lt : ∀ index ∈ entries.map Prod.fst, index < cells.length := by
  induction h with
  | nil => exact forall_mem_nil _
  | cons hCell _ ih =>
    exact forall_mem_cons.mpr ⟨(List.getElem_of_getElem? hCell).1, ih⟩

lemma Linked.frame (hAvoid : last ∉ entries.map Prod.fst) (next : Nat)
    (cell : Cell α) : Linked (relink (cells ++ [cell]) last next) start entries := by
  induction h with
  | nil => exact .nil
  | cons hCell hRest ih =>
    rw [map_cons, mem_cons, not_or] at hAvoid
    refine .cons ?_ (ih hAvoid.2)
    rw [getElem?_relink_ne (Ne.symm hAvoid.1), getElem?_append_left (List.getElem_of_getElem? hCell).1, hCell]

lemma Linked.append (cell : Cell α) : Linked (cells ++ [cell]) start entries := by
  induction h with
  | nil => exact .nil
  | cons hCell _ ih =>
    refine .cons ?_ ih
    rw [getElem?_append_left (List.getElem_of_getElem? hCell).1, hCell]

lemma Linked.grow (hNodup : (entries.map Prod.fst).Nodup)
    (hLast : (entries.map Prod.fst).getLast? = some last) (value : α) :
    Linked (relink (cells ++ [⟨value, none⟩]) last cells.length) start (entries ++ [(cells.length, value)]) := by
  induction h with
  | nil => cases hLast
  | @cons index first next rest hCell hRest ih =>
    have hIndex := (List.getElem_of_getElem? hCell).1
    rw [map_cons, nodup_cons] at hNodup
    cases rest with
    | nil =>
      obtain rfl : index = last := Option.some.inj hLast
      have hOld : (cells ++ [⟨value, none⟩])[index]? = some ⟨first, next⟩ := by
        rw [getElem?_append_left hIndex, hCell]
      have hNew : (relink (cells ++ [⟨value, none⟩]) index cells.length)[cells.length]? = some ⟨value, none⟩ := by
        rw [getElem?_relink_ne (Nat.ne_of_gt hIndex), getElem?_concat_length]
      exact Linked.cons (getElem?_relink_self hOld) (Linked.cons hNew Linked.nil)
    | cons =>
      have hDiffer : index ≠ last := fun hSame =>
        hNodup.1 (hSame ▸ mem_of_getLast? hLast)
      refine .cons ?_ (ih hNodup.2 hLast)
      rw [getElem?_relink_ne hDiffer, getElem?_append_left hIndex, hCell]

end

lemma linked_new (cells : List (Cell α)) (value : α) :
    Linked (cells ++ [⟨value, none⟩]) (some cells.length) [(cells.length, value)] :=
  .cons getElem?_concat_length .nil

lemma Linked.length_le (h : Linked cells start entries) (hNodup : (entries.map Prod.fst).Nodup) :
    entries.length ≤ cells.length := by
  have hSub : entries.map Prod.fst ⊆ range cells.length := fun index hMem =>
    mem_range.mpr (h.index_lt index hMem)
  have hLen := (hNodup.subperm hSub).length_le
  rwa [length_map, length_range] at hLen

end Chain

end Sloppy.Lib
