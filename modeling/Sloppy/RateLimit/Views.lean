import Mathlib.Data.List.Nodup
import Sloppy.RateLimit.Store

/-! # What a call leaves of the store

A call can drop entries that have expired and, to make room, the oldest entry; it can add the entry of its
own key; everything else stays. The keys and the places of the map stay distinct.
-/

namespace Sloppy.RateLimit

open Lib List

section Losses

variable {Key : Type}

structure Store.WellFormed (store : Store Key) : Prop where
  keys : (store.entries.map Prod.fst).Nodup
  places : (store.entries.map Prod.snd).Nodup
  inHeap : ∀ item ∈ store.entries, item.2 < store.heap.length

lemma Store.init_wellFormed (cfg : StoreConfig) : (Store.init cfg : Store Key).WellFormed where
  keys := nodup_nil
  places := nodup_nil
  inHeap := forall_mem_nil _

variable {key : Key} {store : Store Key}

lemma Store.WellFormed.place_eq (h : store.WellFormed) {place other : Nat} (hPlace : (key, place) ∈ store.entries)
    (hOther : (key, other) ∈ store.entries) : place = other :=
  congrArg Prod.snd (inj_on_of_nodup_map h.keys hPlace hOther rfl)

lemma Store.WellFormed.key_eq (h : store.WellFormed) {other : Key} {place : Nat}
    (hKey : (key, place) ∈ store.entries) (hOther : (other, place) ∈ store.entries) : key = other :=
  congrArg Prod.fst (inj_on_of_nodup_map h.places hKey hOther rfl)

/-- Between the stores only entries were dropped, each expired or of the key that is gone. -/
structure Store.Loses (current : ℚ) (gone : Option Key) (before after : Store Key) : Prop where
  heap : after.heap = before.heap
  grants : after.grants = before.grants
  config : after.config = before.config
  entries : after.entries.Sublist before.entries
  kept : ∀ item ∈ before.entries, item ∈ after.entries ∨ before.isExpired current item.2 = true ∨ gone = some item.1

lemma Store.Loses.refl (cur : ℚ) (store : Store Key) : Store.Loses cur none store store :=
  ⟨rfl, rfl, rfl, List.Sublist.refl _, fun _ hItem => Or.inl hItem⟩

variable {cur : ℚ} {gone : Option Key}

lemma Store.Loses.trans {first second third : Store Key} (h : Store.Loses cur none first second)
    (h' : Store.Loses cur gone second third) : Store.Loses cur gone first third where
  heap := h'.heap.trans h.heap
  grants := h'.grants.trans h.grants
  config := h'.config.trans h.config
  entries := h'.entries.trans h.entries
  kept := by
    intro item hItem
    rcases h.kept item hItem with hKept | hExpired | hGone
    · rcases h'.kept item hKept with hKept | hExpired | hGone
      · exact Or.inl hKept
      · rw [Store.isExpired, h.heap] at hExpired
        exact Or.inr (Or.inl hExpired)
      · exact Or.inr (Or.inr hGone)
    · exact Or.inr (Or.inl hExpired)
    · cases hGone

lemma Store.Loses.wellFormed {before after : Store Key} (h : Store.Loses cur gone before after)
    (hBefore : before.WellFormed) : after.WellFormed where
  keys := hBefore.keys.sublist (h.entries.map _)
  places := hBefore.places.sublist (h.entries.map _)
  inHeap := fun item hItem => h.heap ▸ hBefore.inHeap item (h.entries.subset hItem)

lemma Store.sweep_loses (store : Store Key) (cur : ℚ) : Store.Loses cur none store (store.sweep cur) where
  heap := rfl
  grants := rfl
  config := rfl
  entries := filter_sublist
  kept := by
    intro item hItem
    cases hExpired : store.isExpired cur item.2 with
    | true => exact Or.inr (Or.inl rfl)
    | false =>
      apply Or.inl
      rw [Store.sweep, mem_filter, hExpired]
      exact ⟨hItem, rfl⟩

lemma cleanup_loses (round : ℚ → ℚ) (store : Store Key) (cur : ℚ) (force : Bool) :
    Store.Loses cur none store (cleanup round store cur force) := by
  rw [cleanup]
  split
  · exact Store.Loses.refl cur store
  · exact store.sweep_loses cur

lemma makeRoom_loses (round : ℚ → ℚ) (store : Store Key) (cur : ℚ) :
    Store.Loses cur none store (makeRoom round store cur) := by
  rw [makeRoom]
  split
  · exact cleanup_loses round store cur true
  · exact Store.Loses.refl cur store

lemma Store.evictOldest_loses (store : Store Key) (cur : ℚ) :
    Store.Loses cur (store.entries.head?.map Prod.fst) store store.evictOldest where
  heap := rfl
  grants := rfl
  config := rfl
  entries := tail_sublist _
  kept := by
    intro item hItem
    rw [Store.evictOldest]
    cases hEntries : store.entries with
    | nil =>
      rw [hEntries] at hItem
      cases hItem
    | cons =>
      rw [hEntries] at hItem
      rcases mem_cons.mp hItem with rfl | hRest
      · exact Or.inr (Or.inr rfl)
      · exact Or.inl hRest

lemma Store.WellFormed.insert (h : store.WellFormed) (hNew : ∀ place, (key, place) ∉ store.entries) (entry : Entry) :
    (store.insert key entry).WellFormed where
  keys := by
    rw [Store.insert, map_append, nodup_append]
    refine ⟨h.keys, nodup_singleton _, ?_⟩
    intro other hOther last hLast hSame
    obtain ⟨⟨_, place⟩, hItem, rfl⟩ := mem_map.mp hOther
    obtain rfl : last = key := mem_singleton.mp hLast
    obtain rfl := hSame
    exact hNew place hItem
  places := by
    rw [Store.insert, map_append, nodup_append]
    refine ⟨h.places, nodup_singleton _, ?_⟩
    intro other hOther last hLast hSame
    obtain ⟨item, hItem, rfl⟩ := mem_map.mp hOther
    have hLess := h.inHeap item hItem
    rw [hSame, mem_singleton.mp hLast] at hLess
    exact Nat.lt_irrefl _ hLess
  inHeap := by
    intro item hItem
    rw [Store.insert, length_append, length_singleton]
    rcases mem_append.mp hItem with hOld | hNew
    · exact Nat.lt_succ_of_lt (h.inHeap item hOld)
    · rw [mem_singleton.mp hNew]
      exact Nat.lt_succ_self _

lemma Store.WellFormed.of_entries {before after : Store Key} (h : before.WellFormed)
    (hEntries : after.entries = before.entries) (hHeap : after.heap.length = before.heap.length) :
    after.WellFormed :=
  ⟨hEntries ▸ h.keys, hEntries ▸ h.places, by rw [hEntries, hHeap]; exact h.inHeap⟩

end Losses

section Keys

variable {Key : Type} [DecidableEq Key] (round : ℚ → ℚ)

variable {entries : List (Key × Nat)} {key : Key} {place : Nat}

lemma mem_of_lookup (h : entries.lookup key = some place) : (key, place) ∈ entries := by
  obtain ⟨_, _, rfl, -⟩ := lookup_eq_some_iff.mp h
  exact mem_append_right _ mem_cons_self

lemma not_mem_of_lookup (h : entries.lookup key = none) (place : Nat) : (key, place) ∉ entries := by
  rw [lookup_eq_none_iff] at h
  intro hMem
  exact absurd rfl (bne_iff_ne.mp (h (key, place) hMem))

/-- The key whose entry a check drops to make room for its own, though it may be in use. -/
def evictedKey (store : Store Key) (key : Key) (current : ℚ) : Option Key :=
  let cleaned := cleanup round store current false
  if (cleaned.lookup key).isSome then none
  else
    let roomy := makeRoom round cleaned current
    if roomy.isFull && !roomy.config.rejectOnMaxKeys then roomy.entries.head?.map Prod.fst else none

lemma ensureKey_cases (store : Store Key) (key : Key) (created : Entry) (cur : ℚ) :
    (∃ after, ensureKey round store key created cur = (after, none) ∧ Store.Loses cur none store after) ∨
    (∃ after place, ensureKey round store key created cur = (after, some place) ∧
      (key, place) ∈ after.entries ∧ Store.Loses cur none store after) ∨
    ∃ mid, ensureKey round store key created cur = (mid.insert key created, some store.heap.length) ∧
      (∀ place, (key, place) ∉ mid.entries) ∧ Store.Loses cur (evictedKey round store key cur) store mid := by
  have hCleaned := cleanup_loses round store cur false
  have hRoomy := hCleaned.trans (makeRoom_loses round (cleanup round store cur false) cur)
  have hNew : (cleanup round store cur false).lookup key = none → ∀ place,
      (key, place) ∉ (makeRoom round (cleanup round store cur false) cur).entries := by
    intro hLookup place hMem
    exact not_mem_of_lookup hLookup place ((makeRoom_loses round _ cur).entries.subset hMem)
  rw [ensureKey, evictedKey]
  cases hLookup : (cleanup round store cur false).lookup key with
  | some place => exact Or.inr (Or.inl ⟨_, place, rfl, mem_of_lookup hLookup, hCleaned⟩)
  | none =>
    dsimp only
    cases hFull : (makeRoom round (cleanup round store cur false) cur).isFull with
    | false =>
      refine Or.inr (Or.inr ⟨_, ?_, hNew hLookup, hRoomy⟩)
      rw [hRoomy.heap]
      rfl
    | true =>
      cases hReject : (makeRoom round (cleanup round store cur false) cur).config.rejectOnMaxKeys with
      | true =>
        refine Or.inl ⟨_, rfl, ?_⟩
        exact ⟨hRoomy.heap, hRoomy.grants, hRoomy.config, hRoomy.entries, hRoomy.kept⟩
      | false =>
        refine Or.inr (Or.inr ⟨_, ?_, ?_, hRoomy.trans (Store.evictOldest_loses _ cur)⟩)
        · rw [hRoomy.heap]
          rfl
        · intro place hMem
          exact hNew hLookup place ((Store.evictOldest_loses _ cur).entries.subset hMem)

lemma lookup_of_mem (hNodup : (entries.map Prod.fst).Nodup) (h : (key, place) ∈ entries) :
    entries.lookup key = some place := by
  cases hLookup : entries.lookup key with
  | none => exact absurd h (not_mem_of_lookup hLookup place)
  | some =>
    have hSame := inj_on_of_nodup_map hNodup (mem_of_lookup hLookup) h rfl
    rw [(Prod.mk.inj hSame).2]

def Store.view (store : Store Key) (key : Key) : Option Entry := (store.lookup key).bind fun place => store.heap[place]?

variable {store : Store Key}

lemma Store.WellFormed.view (h : store.WellFormed) (hItem : (key, place) ∈ store.entries) :
    store.view key = store.heap[place]? := by
  rw [Store.view, Store.lookup, lookup_of_mem h.keys hItem, Option.bind_some]

lemma Store.view_of_not_mem (h : ∀ place, (key, place) ∉ store.entries) : store.view key = none := by
  rw [Store.view]
  cases hLookup : store.lookup key with
  | none => rfl
  | some place => exact absurd (mem_of_lookup hLookup) (h place)

/-- The entry of a key stays, or it has expired and is gone. -/
def Swept (current : ℚ) (before after : Option Entry) : Prop :=
  after = before ∨ after = none ∧ ∃ entry, before = some entry ∧ entryExpired entry current = true

lemma Store.Loses.view {cur : ℚ} {before after : Store Key} (h : Store.Loses cur none before after)
    (hBefore : before.WellFormed) (key : Key) : Swept cur (before.view key) (after.view key) := by
  by_cases hKey : ∃ place, (key, place) ∈ before.entries
  · obtain ⟨place, hItem⟩ := hKey
    rcases h.kept _ hItem with hKept | hExpired | hGone
    · rw [hBefore.view hItem, (h.wellFormed hBefore).view hKept, h.heap]
      exact Or.inl rfl
    · by_cases hKept : (key, place) ∈ after.entries
      · rw [hBefore.view hItem, (h.wellFormed hBefore).view hKept, h.heap]
        exact Or.inl rfl
      refine Or.inr ⟨Store.view_of_not_mem ?_, ?_⟩
      · intro other hOther
        rw [hBefore.place_eq hItem (h.entries.subset hOther)] at hKept
        exact hKept hOther
      · rw [Store.isExpired, Option.any_eq_true] at hExpired
        rw [hBefore.view hItem]
        exact hExpired
    · cases hGone
  · rw [not_exists] at hKey
    apply Or.inl
    rw [Store.view_of_not_mem hKey, Store.view_of_not_mem fun place hItem => hKey place (h.entries.subset hItem)]

variable {other : Key}

/-- What the map holds of a key and what is at those places decide the entry of that key. -/
lemma Store.WellFormed.view_eq (h : store.WellFormed) {after : Store Key} (hAfter : after.WellFormed)
    (hItems : ∀ place, (other, place) ∈ after.entries ↔ (other, place) ∈ store.entries)
    (hHeap : ∀ place, (other, place) ∈ store.entries → after.heap[place]? = store.heap[place]?) :
    after.view other = store.view other := by
  by_cases hKey : ∃ place, (other, place) ∈ store.entries
  · obtain ⟨place, hItem⟩ := hKey
    rw [h.view hItem, hAfter.view ((hItems place).mpr hItem), hHeap place hItem]
  · rw [not_exists] at hKey
    rw [Store.view_of_not_mem hKey, Store.view_of_not_mem fun place hItem => hKey place ((hItems place).mp hItem)]

lemma Store.WellFormed.view_insert (h : store.WellFormed) (hNew : ∀ place, (key, place) ∉ store.entries)
    (entry : Entry) (hOther : other ≠ key) : (store.insert key entry).view other = store.view other :=
  h.view_eq (h.insert hNew entry) (fun place => by simp [Store.insert, hOther])
    fun _ hItem => getElem?_append_left (h.inHeap _ hItem)

lemma Store.WellFormed.view_set (h : store.WellFormed) (hItem : ∀ other, (other, place) ∈ store.entries → other = key)
    (entry : Entry) (hOther : other ≠ key) : (store.setEntry place entry).view other = store.view other := by
  refine h.view_eq (h.of_entries rfl length_set) (fun _ => Iff.rfl) fun otherPlace hOtherItem => getElem?_set_ne ?_
  rintro rfl
  exact hOther (hItem other hOtherItem)

end Keys

end Sloppy.RateLimit
