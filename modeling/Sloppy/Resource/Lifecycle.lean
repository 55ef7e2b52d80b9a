import Sloppy.Resource.History
import Mathlib.Data.List.Nodup

/-! # The guarantees of the table over every history

Identifiers are never issued twice, a lookup succeeds exactly for live identifiers, each cleanup runs once, and a
failed operation changes nothing a caller can observe.
-/

namespace Sloppy.Resource

open Lib Lib.Run List

universe u

variable {P F U : Type u}

section Release

variable {id : ResourceId}

lemma cleanupCalls_eq {entry : ResourceEntry P F U} {ptr : P} (h : entry.ptr = some ptr) :
    cleanupCalls id entry = callsFor id ⟨entry.kind, ptr, entry.cleanup, entry.cleanupUser⟩ := by
  unfold cleanupCalls callsFor
  rw [h]
  cases entry.cleanup <;> rfl

variable {call : CleanupCall P F U}

lemma mem_callsFor {resource : HeldResource P F U} (h : call ∈ callsFor id resource) : call.id = id := by
  unfold callsFor at h
  split at h
  · rw [mem_singleton.mp h]
  · cases h

lemma callsFor_filter (id other : ResourceId) (resource : HeldResource P F U) :
    (callsFor id resource).filter (fun call => call.id = other) =
      if id = other then callsFor id resource else [] := by
  split
  next hEq =>
    rw [filter_eq_self]
    intro call hCall
    simpa [hEq] using mem_callsFor hCall
  next hNe =>
    rw [filter_eq_nil_iff]
    intro call hCall hOther
    exact hNe ((mem_callsFor hCall).symm.trans (by simpa using hOther))

lemma Represents.resource_unique {table : ResourceTable P F U} {events : List (Event P F U)}
    (h : Represents table events) {left right : HeldResource P F U} (hLeft : (id, left) ∈ insertedIn events)
    (hRight : (id, right) ∈ insertedIn events) : left = right := by
  have hInj := inj_on_of_nodup_map h.fresh hLeft hRight rfl
  exact (Prod.ext_iff.mp hInj).2

lemma Represents.close {table table' : ResourceTable P F U} {events : List (Event P F U)}
    (h : Represents table events) {kind : ResourceKind} {calls : List (CleanupCall P F U)} {event : Event P F U}
    (hClose : resourceTableCloseKind table id kind = .ok (table', calls))
    (hLive : ∀ other, liveIn (event :: events) other =
      if other = id then none else liveIn events other) (hInserted : insertedBy event = none)
    (hCalls : event.2.2 = calls) : Represents table' (event :: events) := by
  obtain ⟨entry, ptr, hSlot, hEntry, hGeneration, hOccupied, hPtr, hSet, rfl⟩ := resourceTableCloseKind_ok hClose
  have hIns := insertedIn_cons_of_none hInserted events
  have hHeld : liveIn events id = some ⟨entry.kind, ptr, entry.cleanup, entry.cleanupUser⟩ := by
    rw [← h.live, lookup_eq_of_entry hSlot hEntry]
    exact entryResource_of_occupied hGeneration hOccupied hPtr
  have hWas := liveIn_mem_insertedIn hHeld
  constructor
  · rw [hSet]
    exact forall_mem_set h.generation_pos (Nat.le_add_left _ _)
  · rw [hSet]
    exact forall_mem_set h.held fun hBusy => by cases hBusy
  · intro other
    rw [hLive, lookup_of_entries_set hSlot hEntry hSet]
    split
    next hSame =>
      have hOld := lookup_eq_of_entry (hSame ▸ hSlot) (hSame ▸ hEntry)
      rw [entryResource_of_free rfl]
      split
      · rfl
      next hOther =>
        have hGen : entry.generation ≠ other.generation :=
          fun hEq => hOther (ResourceId.ext_of_slot hSame (hEq.symm.trans hGeneration))
        rw [← h.live, hOld, entryResource_of_generation_ne hGen]
    next hSlots =>
      rw [if_neg (fun hEq => hSlots (congrArg ResourceId.slot hEq)), h.live]
  · intro q hq e he
    rw [hSet, getElem?_set] at he
    rw [hIns] at hq
    split at he
    next hIndex =>
      split at he
      · cases he
        obtain ⟨hLe, _⟩ := h.issued q hq entry (hIndex ▸ hEntry)
        exact ⟨Nat.le_succ_of_le hLe, fun hEq => absurd (hEq ▸ hLe) (Nat.not_succ_le_self _)⟩
      · cases he
    · exact h.issued q hq e he
  · rw [hIns]
    exact h.fresh
  · intro other resource hMem
    rw [hIns] at hMem
    rw [callsIn_cons, hCalls, cleanupCalls_eq hPtr, filter_append, callsFor_filter, hLive, h.called other resource hMem]
    by_cases hOther : other = id
    · subst hOther
      rw [h.resource_unique hMem hWas, hHeld]
      simp
    · rw [if_neg (Ne.symm hOther), if_neg hOther, nil_append]
  · intro call hCall
    rw [callsIn_cons, hCalls, cleanupCalls_eq hPtr] at hCall
    rw [hIns]
    rcases mem_append.mp hCall with hNew | hOld
    · rw [mem_callsFor hNew]
      exact ⟨_, hWas⟩
    · exact h.caller call hOld

lemma disposeLoop_filter (id : ResourceId) (hSlot : id.slot ≠ 0) (index : Nat)
    (entries : List (ResourceEntry P F U))
    (hHeld : ∀ entry ∈ entries, entry.occupied = true → entry.ptr.isSome = true) :
    (disposeLoop index entries).filter (fun call => call.id = id) =
      if index < id.slot then
        match entries[id.slot - 1 - index]?.bind (entryResource id) with
        | some resource => callsFor id resource
        | none => []
      else [] := by
  induction entries generalizing index with
  | nil => simp [disposeLoop]
  | cons entry rest ih =>
    have ihRest := ih (index + 1) (fun e he => hHeld e (mem_cons_of_mem _ he))
    rw [disposeLoop, filter_append, ihRest]
    have hHead : (if entry.occupied then cleanupCalls ⟨index + 1, entry.generation⟩ entry
        else []).filter (fun call => call.id = id) =
        if id.slot = index + 1 then
          match entryResource id entry with
          | some resource => callsFor id resource
          | none => []
        else [] := by
      cases hOccupied : entry.occupied with
      | false => simp [entryResource_of_free hOccupied]
      | true =>
        obtain ⟨ptr, hPtr⟩ := Option.isSome_iff_exists.mp (hHeld entry mem_cons_self hOccupied)
        rw [if_pos rfl, cleanupCalls_eq hPtr, callsFor_filter]
        by_cases hEq : (⟨index + 1, entry.generation⟩ : ResourceId) = id
        · subst hEq
          rw [if_pos rfl, if_pos rfl, entryResource_of_occupied rfl hOccupied hPtr]
        rw [if_neg hEq]
        split
        next hIndex =>
          rw [entryResource_of_generation_ne (fun hGen => hEq (ResourceId.ext_of_slot hIndex.symm hGen))]
        · rfl
    rw [hHead]
    by_cases hHere : id.slot = index + 1
    · rw [if_pos hHere, if_neg (by omega), if_pos (by omega), append_nil,
        show id.slot - 1 - index = 0 by omega]
      rfl
    · rw [if_neg hHere, nil_append]
      by_cases hAfter : index + 1 < id.slot
      · rw [if_pos hAfter, if_pos (by omega),
          show id.slot - 1 - index = (id.slot - 1 - (index + 1)) + 1 by omega]
        rfl
      · rw [if_neg hAfter, if_neg (by omega)]

lemma mem_disposeLoop {index : Nat} {entries : List (ResourceEntry P F U)} (h : call ∈ disposeLoop index entries) :
    call.id.slot ≠ 0 := by
  induction entries generalizing index with
  | nil => cases h
  | cons entry rest ih =>
    rcases mem_append.mp h with hHead | hRest
    · split at hHead
      · unfold cleanupCalls at hHead
        split at hHead
        · rw [mem_singleton.mp hHead]
          exact Nat.succ_ne_zero _
        · cases hHead
      · cases hHead
    · exact ih hRest

end Release

variable {events : List (Event P F U)} {table : ResourceTable P F U}

lemma Represents.dispose_calls (h : Represents table events) (id : ResourceId) :
    (resourceTableDispose table).2.filter (fun call => call.id = id) =
      match liveIn events id with
      | some resource => callsFor id resource
      | none => [] := by
  rw [← h.live, lookup]
  by_cases hSlot : id.slot = 0
  · rw [if_pos hSlot, filter_eq_nil_iff]
    intro call hCall hId
    apply mem_disposeLoop hCall
    rw [show call.id = id by simpa using hId, hSlot]
  · rw [if_neg hSlot]
    have hFilter := disposeLoop_filter id hSlot 0 table.entries
      (fun entry hEntry hOccupied => (h.held entry hEntry hOccupied).1)
    rw [if_pos (Nat.pos_of_ne_zero hSlot), Nat.sub_zero] at hFilter
    exact hFilter

lemma Represents.dispose (h : Represents table events) :
    Represents (resourceTableDispose table).1 ((.dispose, .disposed, (resourceTableDispose table).2) :: events) := by
  constructor
  · intro entry hEntry
    cases hEntry
  · intro entry hEntry
    cases hEntry
  · intro id
    change (if id.slot = 0 then none else _) = none
    split <;> rfl
  · intro p _ entry hEntry
    cases hEntry
  · exact h.fresh
  · intro id resource hMem
    change (_ ++ callsIn events).filter _ = callsFor id resource
    rw [filter_append, h.dispose_calls id, h.called id resource hMem]
    cases hLive : liveIn events id with
    | none => rfl
    | some =>
      rw [h.resource_unique hMem (liveIn_mem_insertedIn hLive)]
      simp
  · intro call hCall
    rcases mem_append.mp hCall with hNew | hOld
    · have hFilter := h.dispose_calls call.id
      have hMem : call ∈ (resourceTableDispose table).2.filter (fun c => c.id = call.id) :=
        mem_filter.mpr ⟨hNew, by simp⟩
      rw [hFilter] at hMem
      split at hMem
      next resource hLive =>
        have hWas := liveIn_mem_insertedIn hLive
        exact ⟨resource, hWas⟩
      · cases hMem
    · exact h.caller call hOld

lemma Represents.step (h : Represents table events) (op : Op P F U) :
    Represents (step table op).1 ((op, (Resource.step table op).2) :: events) := by
  cases op with
  | insert kind ptr =>
    simp only [Resource.step]
    split
    · exact h.quiet (fun _ => by cases ptr <;> rfl) (by cases ptr <;> rfl) rfl
    next hInsert =>
      exact h.insert hInsert
  | get =>
    simp only [Resource.step]
    split
    · exact h.quiet (fun _ => rfl) rfl rfl
    · exact h.quiet (fun _ => rfl) rfl rfl
  | close =>
    simp only [Resource.step, closeAnswer]
    split
    · exact h.quiet (fun _ => rfl) rfl rfl
    next hClose =>
      obtain ⟨kind, hKind⟩ := resourceTableClose_eq hClose
      exact h.close hKind (fun _ => rfl) rfl rfl
  | closeKind =>
    simp only [Resource.step, closeAnswer]
    split
    · exact h.quiet (fun _ => rfl) rfl rfl
    next hClose =>
      exact h.close hClose (fun _ => rfl) rfl rfl
  | dispose => exact h.dispose

lemma represents_init {cap : Nat} (h : resourceTableInit cap = .ok table) : Represents table [] := by
  unfold resourceTableInit at h
  split at h
  · cases h
  cases h
  constructor
  · intro entry hEntry
    rw [(mem_replicate.mp hEntry).2]
    exact Nat.le_refl 1
  · intro entry hEntry hOccupied
    rw [(mem_replicate.mp hEntry).2] at hOccupied
    cases hOccupied
  · intro id
    rw [liveIn, lookup]
    split
    · rfl
    rw [getElem?_replicate]
    split
    · exact entryResource_of_free rfl id
    · rfl
  · intro p hp
    cases hp
  · exact nodup_nil
  · intro id resource hMem
    cases hMem
  · intro call hCall
    cases hCall

lemma resourceTableGet_eq_ok_iff (h : Represents table events) (id : ResourceId) (kind : ResourceKind) (ptr : P) :
    resourceTableGet table id kind = .ok ptr ↔
      ∃ resource, liveIn events id = some resource ∧ resource.kind = kind ∧ resource.ptr = ptr := by
  constructor
  · intro hGet
    unfold resourceTableGet at hGet
    split at hGet
    · cases hGet
    split at hGet
    · cases hGet
    rename_i entry hEntry
    obtain ⟨hSlot, hFound⟩ := resourceEntryForId_ok hEntry
    obtain ⟨hGen, hOccupied, hPtr, hKind⟩ := checkEntry_ok hGet
    refine ⟨⟨entry.kind, ptr, entry.cleanup, entry.cleanupUser⟩, ?_, hKind, rfl⟩
    rw [← h.live, lookup_eq_of_entry hSlot hFound]
    exact entryResource_of_occupied hGen hOccupied hPtr
  · rintro ⟨resource, hLive, rfl, rfl⟩
    rw [← h.live, lookup] at hLive
    split at hLive
    · cases hLive
    rename_i hSlot
    obtain ⟨entry, hEntry, hResource⟩ := Option.bind_eq_some_iff.mp hLive
    unfold entryResource at hResource
    split at hResource
    next hBoth =>
      obtain ⟨ptr, hPtr, rfl⟩ := Option.map_eq_some_iff.mp hResource
      have hMem := mem_of_getElem? hEntry
      have hPos := h.generation_pos entry hMem
      obtain ⟨_, hKind⟩ := h.held entry hMem hBoth.2
      have hValid : resourceIdIsValid id = true := by
        simp only [resourceIdIsValid, Bool.and_eq_true, bne_iff_ne, ne_eq]
        exact ⟨hSlot, by omega⟩
      simp [resourceTableGet, hKind, resourceEntryForId, hValid, hEntry, checkEntry, hBoth.1, hBoth.2, hPtr]
    · cases hResource

lemma step_failed {op : Op P F U} {failure : Failure} (h : (step table op).2.1 = .failed failure) :
    (step table op).1 = table ∧ (step table op).2.2 = [] := by
  cases op with
  | insert =>
    simp only [step] at h ⊢
    split
    · exact ⟨rfl, rfl⟩
    next hInsert =>
      rw [hInsert] at h
      cases h
  | get =>
    simp only [step] at h ⊢
    split <;> exact ⟨rfl, rfl⟩
  | close | closeKind =>
    simp only [step, closeAnswer] at h ⊢
    split
    · exact ⟨rfl, rfl⟩
    next hClose =>
      rw [hClose] at h
      cases h
  | dispose => cases h

/-- Over every history of an initialized table: no identifier is issued twice; a lookup returns a
pointer exactly when it was inserted under that identifier and kind and not closed since; the
cleanup of a resource has run once when it is no longer live and not at all before, and no other
cleanup has run; an operation that fails keeps every live resource and runs no cleanup. -/
theorem resourceTable_history (capacity : Nat) (table : ResourceTable P F U)
    (hInit : resourceTableInit capacity = .ok table) (ops : List (Op P F U)) :
    ((insertedIn (run step table ops).2).map Prod.fst).Nodup ∧
    (∀ id kind ptr, resourceTableGet (run step table ops).1 id kind = .ok ptr ↔
      ∃ resource, liveIn (run step table ops).2 id = some resource ∧ resource.kind = kind ∧ resource.ptr = ptr) ∧
    (∀ id resource, (id, resource) ∈ insertedIn (run step table ops).2 →
      (callsIn (run step table ops).2).filter (fun call => call.id = id) =
        if (liveIn (run step table ops).2 id).isSome then [] else callsFor id resource) ∧
    (∀ call ∈ callsIn (run step table ops).2, ∃ resource, (call.id, resource) ∈ insertedIn (run step table ops).2) ∧
    (∀ op failure, (step (run step table ops).1 op).2.1 = .failed failure →
      (∀ id, lookup (step (run step table ops).1 op).1 id = lookup (run step table ops).1 id) ∧
        (step (run step table ops).1 op).2.2 = []) := by
  have h : Represents (run step table ops).1 (run step table ops).2 :=
    run_invariant step Represents (fun _ _ op hBefore => hBefore.step op) table (represents_init hInit) ops
  refine ⟨h.fresh, resourceTableGet_eq_ok_iff h, h.called, h.caller, ?_⟩
  intro op failure hFailed
  obtain ⟨hTable, hCalls⟩ := step_failed hFailed
  exact ⟨fun id => by rw [hTable], hCalls⟩

/-- A slot that is closed and used again issues a new generation. -/
theorem resourceTable_history_slotReuse : (insertedIn (run step (⟨[freshEntry]⟩ : ResourceTable Nat Nat Nat)
      [.insert .testResource (some 7) (some 0) none, .close ⟨1, 1⟩,
        .insert .fsLock (some 8) none none]).2).map Prod.fst = [⟨1, 2⟩, ⟨1, 1⟩] ∧
    ∀ kind ptr, resourceTableGet (run step (⟨[freshEntry]⟩ : ResourceTable Nat Nat Nat)
      [.insert .testResource (some 7) (some 0) none, .close ⟨1, 1⟩,
        .insert .fsLock (some 8) none none]).1 ⟨1, 1⟩ kind ≠ .ok ptr := by
  refine ⟨rfl, fun kind ptr hGet => ?_⟩
  obtain ⟨resource, hLive, _⟩ := ((resourceTable_history 1 ⟨[freshEntry]⟩ rfl _).2.1 ⟨1, 1⟩ kind ptr).mp hGet
  cases hLive

end Sloppy.Resource
