import Mathlib.Data.List.Nodup
import Mathlib.Tactic.Common
import Sloppy.Lib.Places

/-! # Admission against a limit

A pool counts the holders it has admitted and gives each a number. The count is kept beside the flags of
the holders, and what the operations have to keep is that the two agree. A refused holder gets the
number 0, which is never given out.
-/

namespace Sloppy.Lib.Admission

open List

/-- Holders as their number and whether they still hold what they were admitted for. -/
structure Pool where
  limit : Nat
  active : Nat
  nextId : Nat
  holders : List (Nat × Bool)
  deriving DecidableEq

def Pool.issued (pool : Pool) : List Nat := (pool.holders.map Prod.fst).filter (· ≠ 0)

def Pool.refuse (pool : Pool) : Pool := { pool with holders := pool.holders ++ [(0, false)] }

def Pool.enter (pool : Pool) : Pool :=
  { pool with
    active := pool.active + 1
    nextId := pool.nextId + 1
    holders := pool.holders ++ [(pool.nextId, true)] }

def Pool.release (pool : Pool) (place id : Nat) : Pool :=
  { pool with active := pool.active - 1, holders := pool.holders.set place (id, false) }

structure Pool.Sound (pool : Pool) : Prop where
  active_eq : pool.active = pool.holders.countP Prod.snd
  within : pool.active ≤ pool.limit
  nodup : pool.issued.Nodup
  fresh : ∀ id ∈ pool.issued, id < pool.nextId
  positive : 0 < pool.nextId

variable {place : Nat}

lemma Pool.sound_empty (limit : Nat) {nextId : Nat} (h : 0 < nextId) : (⟨limit, 0, nextId, []⟩ : Pool).Sound where
  active_eq := rfl
  within := Nat.zero_le _
  nodup := nodup_nil
  fresh _ hMem := nomatch hMem
  positive := h

variable {pool : Pool}

lemma Pool.Sound.refuse (h : pool.Sound) : pool.refuse.Sound := by
  have hIssued : pool.refuse.issued = pool.issued := by simp [Pool.refuse, Pool.issued]
  refine ⟨?_, h.within, hIssued ▸ h.nodup, fun id hMem => h.fresh id (hIssued ▸ hMem), h.positive⟩
  rw [Pool.refuse, countP_append, ← h.active_eq]
  rfl

lemma Pool.Sound.enter (h : pool.Sound) (hRoom : pool.active < pool.limit) : pool.enter.Sound := by
  have hNum : pool.nextId ≠ 0 := Nat.ne_of_gt h.positive
  have hIssued : pool.enter.issued = pool.issued ++ [pool.nextId] := by
    simp [Pool.enter, Pool.issued, hNum]
  refine ⟨?_, hRoom, ?_, ?_, Nat.succ_pos _⟩
  · rw [Pool.enter, countP_append, ← h.active_eq]
    rfl
  · rw [hIssued]
    refine nodup_append.mpr ⟨h.nodup, nodup_singleton _, ?_⟩
    intro id hMem other hOther
    rw [mem_singleton.mp hOther]
    exact Nat.ne_of_lt (h.fresh id hMem)
  · intro id hMem
    rw [hIssued, mem_append, mem_singleton] at hMem
    obtain hOld | rfl := hMem
    · exact Nat.lt_succ_of_lt (h.fresh id hOld)
    · exact Nat.lt_succ_self _

lemma Pool.Sound.active_pos (h : pool.Sound) {id : Nat} (hHeld : pool.holders[place]? = some (id, true)) :
    0 < pool.active := by
  rw [h.active_eq, countP_pos_iff]
  exact ⟨(id, true), mem_of_getElem? hHeld, rfl⟩

lemma Pool.Sound.release (h : pool.Sound) {id : Nat} (hHeld : pool.holders[place]? = some (id, true)) :
    (pool.release place id).Sound := by
  obtain ⟨hPlace, hAt⟩ := List.getElem_of_getElem? hHeld
  have hIssued : (pool.release place id).issued = pool.issued := by
    have hSame : (pool.holders.set place (id, false)).map Prod.fst = pool.holders.map Prod.fst := by
      rw [map_set]
      apply set_of_getElem?
      rw [getElem?_map, hHeld]
      rfl
    rw [Pool.issued, Pool.release, hSame, Pool.issued]
  refine ⟨?_, Nat.le_trans (Nat.sub_le _ _) h.within, hIssued ▸ h.nodup,
    fun other hMem => h.fresh other (hIssued ▸ hMem), h.positive⟩
  rw [Pool.release, countP_set hPlace, ← h.active_eq, hAt]
  simp

end Sloppy.Lib.Admission
