import Mathlib.Data.List.Dedup
import Sloppy.RateLimit.Limits
import Sloppy.RateLimit.Views

/-! # Limits over whole runs

As long as the store has a place for every key, entries leave it only when they expire, and the windows and
buckets of every key hold over the whole run.
-/

namespace Sloppy.RateLimit

open Lib List

section Checks

variable (round : ℚ → ℚ)

def newEntry (policy : Policy) (current : ℚ) : Entry :=
  match policy with
  | .fixedWindow policy => newFixedWindow round policy current
  | .slidingWindow policy => newSlidingWindow round policy current
  | .tokenBucket policy => newTokenBucket round policy current
  | .concurrency _ => newConcurrency round current

def useEntry (policy : Policy) (cost current : ℚ) (grants : Nat) : Entry → Entry × CheckResult :=
  match policy with
  | .fixedWindow policy => useFixedWindow round policy cost current
  | .slidingWindow policy => useSlidingWindow round policy cost current
  | .tokenBucket policy => useTokenBucket round policy cost current
  | .concurrency policy => useConcurrency round policy cost current grants

variable {Key : Type} [DecidableEq Key]

/-- What a check leaves, up to the grants: it refuses, or it uses an entry that it makes sure of. -/
structure Checked (store : Store Key) (key : Key) (policy : Policy) (cost current : ℚ) (mid : Store Key) (place : Nat)
    (after : Store Key) : Prop where
  entries : after.entries = mid.entries
  heap : after.heap = mid.heap.set place
    (useEntry round policy cost current mid.grants.length (mid.heap.getD place (newEntry round policy current))).1
  config : after.config = mid.config
  grants : after.grants = mid.grants ∨
    (∃ limit, policy = .concurrency limit) ∧ after.grants = mid.grants ++ [⟨key, place, cost, false⟩]

lemma check_cases (store : Store Key) (key : Key) (policy : Policy) (cost current : ℚ) :
    (∃ after, ensureKey round store key (newEntry round policy current) current = (after, none) ∧
      check round store key policy cost current = (after, .storeFull)) ∨
    ∃ mid place after, ensureKey round store key (newEntry round policy current) current = (mid, some place) ∧
      Checked round store key policy cost current mid place after ∧
      check round store key policy cost current = (after, .checked (useEntry round policy cost current mid.grants.length
        (mid.heap.getD place (newEntry round policy current))).2) := by
  rw [check.eq_def]
  cases policy with
  | concurrency policy =>
    dsimp only [checkConcurrency, newEntry]
    split
    next after hEnsured =>
      exact Or.inl ⟨after, hEnsured, rfl⟩
    rename_i mid place hEnsured
    split
    · refine Or.inr ⟨mid, place, _, hEnsured, ?_, rfl⟩
      exact ⟨rfl, rfl, rfl, Or.inr ⟨⟨policy, rfl⟩, rfl⟩⟩
    · exact Or.inr ⟨mid, place, mid.setEntry place _, hEnsured, ⟨rfl, rfl, rfl, Or.inl rfl⟩, rfl⟩
  | _ =>
    dsimp only [checkFixedWindow, checkSlidingWindow, checkTokenBucket, newEntry]
    rw [checkEntry]
    split
    next after hEnsured =>
      exact Or.inl ⟨after, hEnsured, rfl⟩
    next mid place hEnsured =>
      exact Or.inr ⟨mid, place, mid.setEntry place _, hEnsured, ⟨rfl, rfl, rfl, Or.inl rfl⟩, rfl⟩

end Checks

section Room

variable {Key : Type} [DecidableEq Key] {key : Key}

lemma evictedKey_eq_none {round : ℚ → ℚ} {store : Store Key} (h : store.WellFormed) {keys : List Key}
    (hKeys : ∀ item ∈ store.entries, item.1 ∈ keys) (hRoom : keys.dedup.length ≤ store.config.maxKeys)
    (hKey : key ∈ keys) (cur : ℚ) : evictedKey round store key cur = none := by
  have hCleaned := cleanup_loses round store cur false
  have hRoomy := hCleaned.trans (makeRoom_loses round (cleanup round store cur false) cur)
  rw [evictedKey]
  dsimp only
  cases hLookup : (cleanup round store cur false).lookup key with
  | some => rfl
  | none =>
    have hNew : key ∉ (makeRoom round (cleanup round store cur false) cur).entries.map Prod.fst := by
      intro hMem
      obtain ⟨⟨_, place⟩, hItem, rfl⟩ := mem_map.mp hMem
      exact not_mem_of_lookup hLookup place ((makeRoom_loses round _ cur).entries.subset hItem)
    have hDistinct := nodup_cons.mpr ⟨hNew, (hRoomy.wellFormed h).keys⟩
    have hSub : key :: (makeRoom round (cleanup round store cur false) cur).entries.map Prod.fst ⊆ keys.dedup := by
      intro other hOther
      rw [mem_dedup]
      rcases mem_cons.mp hOther with rfl | hOld
      · exact hKey
      · obtain ⟨item, hItem, rfl⟩ := mem_map.mp hOld
        exact hKeys item (hRoomy.entries.subset hItem)
    have hLen := (hDistinct.subperm hSub).length_le
    rw [length_cons, length_map] at hLen
    have hNotFull : (makeRoom round (cleanup round store cur false) cur).isFull = false := by
      rw [Store.isFull, hRoomy.config, decide_eq_false_iff_not]
      omega
    rw [hNotFull]
    rfl

lemma ensureKey_view {round : ℚ → ℚ} {store mid : Store Key} (h : store.WellFormed) {created : Entry} {cur : ℚ}
    {place : Nat} (hGone : evictedKey round store key cur = none)
    (hEnsured : ensureKey round store key created cur = (mid, some place)) :
    mid.WellFormed ∧ mid.config = store.config ∧ mid.grants = store.grants ∧ (key, place) ∈ mid.entries ∧
      store.heap.length ≤ mid.heap.length ∧
      (∀ item ∈ mid.entries, item ∈ store.entries ∨ item = (key, store.heap.length)) ∧
      (∀ other ≠ key, Swept cur (store.view other) (mid.view other)) ∧
      ∃ swept, Swept cur (store.view key) swept ∧ mid.heap[place]? = some (swept.getD created) := by
  obtain ⟨_, hCase, hLoses⟩ | ⟨_, found, hCase, hFound, hLoses⟩ | ⟨before, hCase, hNew, hLoses⟩ :=
    ensureKey_cases round store key created cur
  · cases hEnsured.symm.trans hCase
  · cases hEnsured.symm.trans hCase
    have hMid := hLoses.wellFormed h
    refine ⟨hMid, hLoses.config, hLoses.grants, hFound, Nat.le_of_eq (congrArg List.length hLoses.heap).symm,
      fun item hItem => Or.inl (hLoses.entries.subset hItem), fun other _ => hLoses.view h other,
      mid.view key, hLoses.view h key, ?_⟩
    rw [hMid.view hFound, getElem?_eq_getElem (hMid.inHeap _ hFound), Option.getD_some]
  · cases hEnsured.symm.trans hCase
    rw [hGone] at hLoses
    have hBefore := hLoses.wellFormed h
    have hLast : (key, store.heap.length) ∈ (before.insert key created).entries := by
      apply mem_append_right
      rw [mem_singleton, hLoses.heap]
    refine ⟨hBefore.insert hNew created, hLoses.config, hLoses.grants, hLast, ?_, ?_, ?_, before.view key,
      hLoses.view h key, ?_⟩
    · rw [Store.insert, length_append, hLoses.heap]
      exact Nat.le_add_right _ _
    · intro item hItem
      rcases mem_append.mp hItem with hOld | hNewItem
      · exact Or.inl (hLoses.entries.subset hOld)
      · rw [mem_singleton, hLoses.heap] at hNewItem
        exact Or.inr hNewItem
    · intro other hOther
      rw [hBefore.view_insert hNew created hOther]
      exact hLoses.view h other
    · rw [Store.view_of_not_mem hNew, Option.getD_none, Store.insert, ← hLoses.heap, getElem?_concat_length]

end Room

section Keys

/-- The entry of a key says what its policy needs of the costs admitted. -/
def KeyFits (policy : Policy) (entry : Option Entry) (history : List (Hit ℚ ℚ)) (latest : ℚ) : Prop :=
  match policy with
  | .slidingWindow policy => SlidingFits policy entry history latest
  | .tokenBucket policy => BucketFits policy entry history latest
  | .fixedWindow _ | .concurrency _ => True

variable {policy : Policy} {history : List (Hit ℚ ℚ)} {latest later now cost : ℚ}

lemma keyFits_nil (policy : Policy) (latest : ℚ) : KeyFits policy none [] latest := by
  cases policy with
  | slidingWindow policy => exact slidingFits_nil policy latest
  | tokenBucket policy => exact bucketFits_nil policy latest
  | fixedWindow | concurrency => trivial

variable {entry : Option Entry}

lemma KeyFits.mono (h : KeyFits policy entry history latest) (hLater : latest ≤ later) :
    KeyFits policy entry history later := by
  cases policy with
  | slidingWindow => exact SlidingFits.mono h hLater
  | tokenBucket => exact BucketFits.mono h hLater
  | fixedWindow | concurrency => trivial

lemma KeyFits.swept {before after : Option Entry} (h : KeyFits policy before history now)
    (hSwept : Swept now before after) : KeyFits policy after history now := by
  rcases hSwept with rfl | ⟨rfl, entry, rfl, hExpired⟩
  · exact h
  cases policy with
  | slidingWindow => exact SlidingFits.expire h hExpired
  | tokenBucket => exact BucketFits.expire h hExpired
  | fixedWindow | concurrency => trivial

lemma KeyFits.create (h : KeyFits policy entry history now) :
    KeyFits policy (some (entry.getD (newEntry id policy now))) history now := by
  cases entry with
  | some => exact h
  | none =>
    cases policy with
    | slidingWindow => exact SlidingFits.create h
    | tokenBucket => exact BucketFits.create h
    | fixedWindow => trivial
    | concurrency => trivial

lemma KeyFits.use {entry : Entry} (h : KeyFits policy (some entry) history now) (hCost : 0 ≤ cost) (grants : Nat) :
    KeyFits policy (some (useEntry id policy cost now grants entry).1)
      (admitted (useEntry id policy cost now grants entry).2.allowed ⟨now, cost⟩ history) now := by
  cases policy with
  | slidingWindow => exact SlidingFits.use h hCost
  | tokenBucket => exact BucketFits.use h hCost
  | fixedWindow | concurrency => trivial

end Keys

section Calls

variable {Key : Type}

def StoreCall.moment : StoreCall Key → Option ℚ
  | .check _ _ now => some now
  | .release _ => none

def StoreCall.key : StoreCall Key → Option Key
  | .check key _ _ => some key
  | .release _ => none

/-- Checks are made at moments that do not decrease. -/
def NotAfter (earlier later : StoreCall Key) : Prop :=
  ∀ moment ∈ earlier.moment, ∀ now ∈ later.moment, moment ≤ now

lemma exists_latest (events : List (StoreCall Key × Outcome)) :
    ∃ latest : ℚ, ∀ event ∈ events, ∀ moment ∈ event.1.moment, moment ≤ latest := by
  induction events with
  | nil => exact ⟨0, forall_mem_nil _⟩
  | cons event rest ih =>
    obtain ⟨latest, hLatest⟩ := ih
    refine ⟨max (event.1.moment.getD latest) latest, forall_mem_cons.mpr ⟨?_, ?_⟩⟩
    · intro moment hMoment
      rw [Option.mem_def.mp hMoment]
      exact le_max_left moment latest
    · exact fun other hOther moment hMoment => le_trans (hLatest other hOther moment hMoment) (le_max_right _ _)

/-- The entry of a release closure is of a concurrency policy and belongs to no other key. -/
def Owned (policyOf : Key → Policy) (store : Store Key) : Prop :=
  ∀ grant ∈ store.grants, (∃ policy, policyOf grant.key = .concurrency policy) ∧
    grant.entry < store.heap.length ∧ ∀ key, (key, grant.entry) ∈ store.entries → key = grant.key

variable {key : Key}

lemma Owned.frame {policyOf : Key → Policy} {before after : Store Key} (h : Owned policyOf before)
    (hGrants : after.grants = before.grants) (hHeap : before.heap.length ≤ after.heap.length)
    (hItems : ∀ item ∈ after.entries, item ∈ before.entries ∨ item = (key, before.heap.length)) :
    Owned policyOf after := by
  intro grant hGrant
  rw [hGrants] at hGrant
  obtain ⟨hKind, hPlace, hOwn⟩ := h grant hGrant
  refine ⟨hKind, Nat.lt_of_lt_of_le hPlace hHeap, ?_⟩
  intro other hItem
  rcases hItems _ hItem with hOld | hNew
  · exact hOwn other hOld
  · exact absurd (Prod.mk.inj hNew).2 (Nat.ne_of_lt hPlace)

lemma Owned.loses {policyOf : Key → Policy} {before after : Store Key} (h : Owned policyOf before) {cur : ℚ}
    {gone : Option Key} (hLoses : Store.Loses cur gone before after) : Owned policyOf after := by
  intro grant hGrant
  rw [hLoses.grants] at hGrant
  obtain ⟨hKind, hPlace, hOwn⟩ := h grant hGrant
  rw [hLoses.heap]
  exact ⟨hKind, hPlace, fun other hItem => hOwn other (hLoses.entries.subset hItem)⟩

variable {place : Nat}

lemma Owned.checked {policyOf : Key → Policy} {store mid after : Store Key} {round : ℚ → ℚ} {cost cur : ℚ}
    (h : Owned policyOf mid) (hMid : mid.WellFormed) (hItem : (key, place) ∈ mid.entries)
    (hAfter : Checked round store key (policyOf key) cost cur mid place after) : Owned policyOf after := by
  have hOld : ∀ grant ∈ mid.grants, (∃ policy, policyOf grant.key = .concurrency policy) ∧
      grant.entry < after.heap.length ∧ ∀ other, (other, grant.entry) ∈ after.entries → other = grant.key := by
    rw [hAfter.entries, hAfter.heap, length_set]
    exact h
  intro grant hGrant
  rcases hAfter.grants with hSame | ⟨hKind, hMore⟩
  · exact hOld grant (hSame ▸ hGrant)
  rw [hMore] at hGrant
  rcases mem_append.mp hGrant with hMem | hNew
  · exact hOld grant hMem
  · rw [mem_singleton.mp hNew, hAfter.entries, hAfter.heap, length_set]
    exact ⟨hKind, hMid.inHeap _ hItem, fun other hOther => hMid.key_eq hOther hItem⟩

/-- The store after a release that has an effect, before it looks whether the entry is still in use. -/
def Store.giveBack (store : Store Key) (place : Nat) (grant : Grant Key) (entry : Entry) : Store Key :=
  { store with
    grants := store.grants.set place { grant with released := true }
    heap := store.heap.set grant.entry entry }

lemma Owned.giveBack {policyOf : Key → Policy} {store : Store Key} (h : Owned policyOf store) {grant : Grant Key}
    (hGrant : grant ∈ store.grants) (entry : Entry) : Owned policyOf (store.giveBack place grant entry) := by
  rw [Owned, Store.giveBack, length_set]
  exact forall_mem_set h (h grant hGrant)

end Calls

section Runs

variable {Key : Type} [DecidableEq Key]

def admittedHit (key : Key) : StoreCall Key × Outcome → Option (Hit ℚ ℚ)
  | (.check other cost now, .checked result) =>
    if other = key ∧ result.allowed = true then some ⟨now, cost.value⟩ else none
  | _ => none

def admittedHits (key : Key) (events : List (StoreCall Key × Outcome)) : List (Hit ℚ ℚ) :=
  events.filterMap (admittedHit key)

lemma admittedHits_checked (key other : Key) (cost : Cost) (now : ℚ) (result : CheckResult)
    (events : List (StoreCall Key × Outcome)) :
    admittedHits key ((.check other cost now, .checked result) :: events) =
      if other = key then admitted result.allowed ⟨now, cost.value⟩ (admittedHits key events)
      else admittedHits key events := by
  rw [admittedHits, filterMap_cons, admittedHit, admitted]
  by_cases hKey : other = key
  · rw [if_pos hKey]
    cases result.allowed with
    | true =>
      rw [if_pos ⟨hKey, rfl⟩]
      rfl
    | false =>
      rw [if_neg (fun hBoth => Bool.false_ne_true hBoth.2)]
      rfl
  · rw [if_neg hKey, if_neg (fun hBoth => hKey hBoth.1)]
    rfl

/-- What holds along a run: the map has room for every key, release closures own their entries, and every
key fits its policy. -/
structure Bounded (policyOf : Key → Policy) (config : StoreConfig) (keys : List Key) (store : Store Key)
    (events : List (StoreCall Key × Outcome)) : Prop where
  wellFormed : store.WellFormed
  sameConfig : store.config = config
  known : ∀ item ∈ store.entries, item.1 ∈ keys
  owned : Owned policyOf store
  fits : ∀ latest, (∀ event ∈ events, ∀ moment ∈ event.1.moment, moment ≤ latest) →
    ∀ key, KeyFits (policyOf key) (store.view key) (admittedHits key events) latest

variable {policyOf : Key → Policy} {cfg : StoreConfig} {keys : List Key} {store : Store Key}
  {events : List (StoreCall Key × Outcome)}

lemma bounded_init : Bounded policyOf cfg keys (.init cfg) [] where
  wellFormed := Store.init_wellFormed cfg
  sameConfig := rfl
  known := forall_mem_nil _
  owned := forall_mem_nil _
  fits := fun latest _ key => keyFits_nil (policyOf key) latest

lemma Store.view_congr {before after : Store Key} (hEntries : after.entries = before.entries)
    (hHeap : after.heap = before.heap) (key : Key) : after.view key = before.view key := by
  rw [Store.view, Store.lookup, hEntries, hHeap, Store.view, Store.lookup]

lemma fits_of_now {call : StoreCall Key} {outcome : Outcome} {now : ℚ} (hNow : call.moment = some now)
    (h : ∀ key, KeyFits (policyOf key) (store.view key) (admittedHits key ((call, outcome) :: events)) now) :
    ∀ latest, (∀ event ∈ (call, outcome) :: events, ∀ moment ∈ event.1.moment, moment ≤ latest) →
      ∀ key, KeyFits (policyOf key) (store.view key) (admittedHits key ((call, outcome) :: events)) latest := by
  intro latest hLatest key
  exact (h key).mono (hLatest _ mem_cons_self now hNow)

variable {key : Key}

lemma Bounded.check (h : Bounded policyOf cfg keys store events) (hRoom : keys.dedup.length ≤ cfg.maxKeys)
    (hKey : key ∈ keys) (cost : Cost) (now : ℚ) (hPast : ∀ event ∈ events, NotAfter event.1 (.check key cost now)) :
    Bounded policyOf cfg keys (storeStep id policyOf store (.check key cost now)).1
      ((.check key cost now, (storeStep id policyOf store (.check key cost now)).2) :: events) := by
  have hNow : ∀ other, KeyFits (policyOf other) (store.view other) (admittedHits other events) now :=
    h.fits now fun event hEvent moment hMoment => hPast event hEvent moment hMoment now rfl
  have hGone : evictedKey id store key now = none :=
    evictedKey_eq_none h.wellFormed h.known (h.sameConfig ▸ hRoom) hKey now
  rw [storeStep]
  obtain ⟨after, hEnsured, hCheck⟩ | ⟨mid, place, after, hEnsured, hAfter, hCheck⟩ :=
    check_cases id store key (policyOf key) cost.value now
  · obtain ⟨_, hCase, hLoses⟩ | ⟨_, found, hCase, -⟩ | ⟨before, hCase, -⟩ :=
      ensureKey_cases id store key (newEntry id (policyOf key) now) now
    · cases hEnsured.symm.trans hCase
      rw [hCheck]
      refine ⟨hLoses.wellFormed h.wellFormed, hLoses.config.trans h.sameConfig,
        fun item hItem => h.known item (hLoses.entries.subset hItem), h.owned.loses hLoses, fits_of_now rfl ?_⟩
      intro other
      exact (hNow other).swept (hLoses.view h.wellFormed other)
    · cases hEnsured.symm.trans hCase
    · cases hEnsured.symm.trans hCase
  · rw [hCheck]
    obtain ⟨hMid, hCfg, hGrants, hItem, hHeap, hItems, hOthers, swept, hSwept, hBase⟩ :=
      ensureKey_view h.wellFormed hGone hEnsured
    have hLen : after.heap.length = mid.heap.length := by rw [hAfter.heap, length_set]
    have hAfterFormed : after.WellFormed := hMid.of_entries hAfter.entries hLen
    refine ⟨hAfterFormed, hAfter.config.trans (hCfg.trans h.sameConfig), ?_,
      (h.owned.frame hGrants hHeap hItems).checked hMid hItem hAfter, fits_of_now rfl ?_⟩
    · intro item hMem
      rw [hAfter.entries] at hMem
      rcases hItems item hMem with hOld | rfl
      · exact h.known item hOld
      · exact hKey
    · intro other
      rw [admittedHits_checked, getD_eq_getElem?_getD, hBase, Option.getD_some]
      split
      next hSame =>
        subst hSame
        have hView : after.view key = some (useEntry id (policyOf key) cost.value now mid.grants.length
            (swept.getD (newEntry id (policyOf key) now))).1 := by
          rw [hAfterFormed.view (hAfter.entries ▸ hItem), hAfter.heap, getD_eq_getElem?_getD, hBase, Option.getD_some]
          exact getElem?_set_self (hMid.inHeap _ hItem)
        rw [hView]
        exact ((hNow key).swept hSwept).create.use (le_of_lt cost.positive) mid.grants.length
      next hOther =>
        have hView : after.view other = mid.view other := by
          rw [← hMid.view_set (fun third hThird => hMid.key_eq hThird hItem) _ (Ne.symm hOther)]
          exact @Store.view_congr Key _ (mid.setEntry place _) after hAfter.entries hAfter.heap other
        rw [hView]
        exact (hNow other).swept (hOthers other (Ne.symm hOther))

lemma release_cases (round : ℚ → ℚ) (store : Store Key) (place : Nat) :
    release round store place = store ∨
    ∃ grant entry, grant ∈ store.grants ∧ (release round store place = store.giveBack place grant entry ∨
        release round store place = (store.giveBack place grant entry).delete grant.key) := by
  rw [RateLimit.release]
  split
  · exact Or.inl rfl
  rename_i grant hGrant
  split
  · exact Or.inl rfl
  split
  · exact Or.inl rfl
  rename_i entry hEntry
  refine Or.inr ⟨grant, entry.giveBack round grant.cost, mem_of_getElem? hGrant, ?_⟩
  split
  · exact Or.inr rfl
  · exact Or.inl rfl

lemma Store.WellFormed.delete (h : store.WellFormed) (key : Key) : (store.delete key).WellFormed :=
  have hSub : (store.delete key).entries.Sublist store.entries := filter_sublist
  ⟨h.keys.sublist (hSub.map _), h.places.sublist (hSub.map _), fun item hItem => h.inHeap item (hSub.subset hItem)⟩

lemma Store.WellFormed.view_delete (h : store.WellFormed) {other : Key} (hOther : other ≠ key) :
    (store.delete key).view other = store.view other :=
  h.view_eq (h.delete key) (fun place => by simp [Store.delete, hOther]) fun _ _ => rfl

section

variable (h : Bounded policyOf cfg keys store events)
include h

lemma Bounded.giveBack (place : Nat) {grant : Grant Key}
    (hGrant : grant ∈ store.grants) (entry : Entry) :
    Bounded policyOf cfg keys (store.giveBack place grant entry) ((.release place, .released) :: events) := by
  obtain ⟨⟨policy, hPolicy⟩, -, hOwn⟩ := h.owned grant hGrant
  refine ⟨h.wellFormed.of_entries rfl length_set, h.sameConfig, h.known, h.owned.giveBack hGrant entry, ?_⟩
  intro latest hLatest key
  by_cases hKey : key = grant.key
  · rw [hKey, hPolicy]
    trivial
  have hView : (store.giveBack place grant entry).view key = store.view key :=
    (@Store.view_congr Key _ (store.setEntry grant.entry entry) (store.giveBack place grant entry) rfl rfl key).trans
      (h.wellFormed.view_set hOwn entry hKey)
  rw [hView]
  exact h.fits latest (fun event hEvent => hLatest event (mem_cons_of_mem _ hEvent)) key

lemma Bounded.delete {policy : ConcurrencyPolicy}
    (hPolicy : policyOf key = .concurrency policy) : Bounded policyOf cfg keys (store.delete key) events := by
  have hSub : ∀ item ∈ (store.delete key).entries, item ∈ store.entries := fun item hItem => (mem_filter.mp hItem).1
  refine ⟨h.wellFormed.delete key, h.sameConfig, fun item hItem => h.known item (hSub item hItem), ?_, ?_⟩
  · intro grant hGrant
    obtain ⟨hKind, hPlace, hOwn⟩ := h.owned grant hGrant
    exact ⟨hKind, hPlace, fun other hItem => hOwn other (hSub _ hItem)⟩
  · intro latest hLatest other
    by_cases hOther : other = key
    · rw [hOther, hPolicy]
      trivial
    · rw [h.wellFormed.view_delete hOther]
      exact h.fits latest hLatest other

lemma Bounded.release (place : Nat) :
    Bounded policyOf cfg keys (storeStep id policyOf store (.release place)).1
      ((.release place, (storeStep id policyOf store (.release place)).2) :: events) := by
  rw [storeStep]
  rcases release_cases id store place with hSame | ⟨grant, entry, hGrant, hBack | hDeleted⟩
  · rw [hSame]
    refine ⟨h.wellFormed, h.sameConfig, h.known, h.owned, ?_⟩
    intro latest hLatest key
    exact h.fits latest (fun event hEvent => hLatest event (mem_cons_of_mem _ hEvent)) key
  · rw [hBack]
    exact h.giveBack place hGrant entry
  · obtain ⟨⟨policy, hPolicy⟩, -⟩ := h.owned grant hGrant
    rw [hDeleted]
    exact (h.giveBack place hGrant entry).delete hPolicy

end

lemma bounded_run (policyOf : Key → Policy) {calls : List (StoreCall Key)}
    (hKeys : (calls.filterMap StoreCall.key).dedup.length ≤ cfg.maxKeys) (hTimes : calls.Pairwise NotAfter) :
    Bounded policyOf cfg (calls.filterMap StoreCall.key) (Run.run (storeStep id policyOf) (.init cfg) calls).1
      (Run.run (storeStep id policyOf) (.init cfg) calls).2 := by
  have hKnown : ∀ call ∈ calls, ∀ key ∈ call.key, key ∈ calls.filterMap StoreCall.key :=
    fun call hCall key hKey => mem_filterMap.mpr ⟨call, hCall, hKey⟩
  refine Run.run_pairwise ?_ bounded_init hTimes hKnown
  intro store events call h hCall hPast
  cases call with
  | check key cost now => exact h.check hKeys (hCall key rfl) cost now hPast
  | release place => exact h.release place

/-- In a store with a place for every key, sliding windows and token buckets hold over the whole run. -/
theorem limits_hold (policyOf : Key → Policy) (config : StoreConfig) (calls : List (StoreCall Key))
    (hKeys : (calls.filterMap StoreCall.key).dedup.length ≤ config.maxKeys)
    (hTimes : calls.Pairwise NotAfter) (key : Key) :
    let events := (Run.run (storeStep id policyOf) (.init config) calls).2
    (∀ policy, policyOf key = .slidingWindow policy → ∀ start : ℚ,
      Hit.spent (Set.Ico start (start + policy.windowMs)) (admittedHits key events) ≤ policy.limit ∧
      Hit.spent (Set.Ioc start (start + policy.windowMs)) (admittedHits key events) ≤ policy.limit) ∧
    ∀ policy, policyOf key = .tokenBucket policy → ∀ start finish : ℚ, start ≤ finish →
      Hit.spent (Set.Icc start finish) (admittedHits key events) ≤
        policy.capacity + policy.refillPerSecond * (finish - start) / 1000 := by
  intro events
  obtain ⟨latest, hLatest⟩ := exists_latest events
  have hFits := (bounded_run policyOf hKeys hTimes).fits latest hLatest key
  constructor
  · intro policy hPolicy start
    rw [hPolicy] at hFits
    exact ⟨SlidingFits.rightOpen hFits start, SlidingFits.leftOpen hFits start⟩
  · intro policy hPolicy start finish hLe
    rw [hPolicy] at hFits
    exact BucketFits.within hFits start finish hLe

def oneInTen : WindowPolicy := ⟨1, 10, Nat.one_pos, Nat.succ_pos 9⟩

def spacious : StoreConfig := ⟨1, 1, true, Nat.one_pos⟩

lemma unit_positive : (0 : ℚ) < 1 := by decide

def threeChecks : List (StoreCall Nat) :=
  [.check 0 ⟨1, unit_positive⟩ 0, .check 0 ⟨1, unit_positive⟩ 5, .check 0 ⟨1, unit_positive⟩ 10]

theorem limits_hold_three_checks :
    (admittedHits 0 (Run.run (storeStep id fun _ => .slidingWindow oneInTen) (.init spacious) threeChecks).2).map
        Hit.moment = [10, 0] ∧
      Hit.spent (Set.Ico 0 (0 + 10)) (admittedHits 0
        (Run.run (storeStep id fun _ => .slidingWindow oneInTen) (.init spacious) threeChecks).2) ≤ 1 := by
  have hKeys : (threeChecks.filterMap StoreCall.key).dedup.length ≤ spacious.maxKeys := by decide
  have hTimes : threeChecks.Pairwise NotAfter := by
    norm_num [threeChecks, NotAfter, StoreCall.moment]
  have hLimits := limits_hold (fun _ => .slidingWindow oneInTen) spacious threeChecks hKeys hTimes 0
  refine ⟨by decide +kernel, ?_⟩
  exact_mod_cast (hLimits.1 oneInTen rfl 0).1

end Runs

end Sloppy.RateLimit
