import Mathlib.Algebra.BigOperators.Group.List.Basic
import Mathlib.Data.Rat.Cast.Order
import Sloppy.RateLimit.Views

/-! # Concurrency limits

The cost that grants of a key hold is what its entry counts, as long as no entry in use leaves the map. One leaves when
a new key needs its place in a full store, and its key then starts from zero.
-/

namespace Sloppy.RateLimit

open Lib List

/-- Rounding to doubles: it keeps the order and the integers up to `2 ^ 53`. -/
structure Rounds (round : ℚ → ℚ) : Prop where
  mono : Monotone round
  whole : ∀ n : Nat, n ≤ maxSafeInteger + 1 → round n = n

lemma rounds_id : Rounds id := ⟨monotone_id, fun _ _ => rfl⟩

/-- Sums of whole numbers are compared with a limit as if they were exact. -/
lemma Rounds.le_limit_iff {round : ℚ → ℚ} (h : Rounds round) {n limit : Nat} (hLimit : limit ≤ maxSafeInteger) :
    round n ≤ limit ↔ n ≤ limit := by
  by_cases hSmall : n ≤ maxSafeInteger + 1
  · rw [h.whole n hSmall, Nat.cast_le]
  have hLarge : round ((maxSafeInteger + 1 : Nat) : ℚ) ≤ round n := h.mono (by exact_mod_cast (by omega))
  rw [h.whole _ (Nat.le_refl _)] at hLarge
  constructor
  · intro hLe
    have hBound : ((maxSafeInteger + 1 : Nat) : ℚ) ≤ limit := le_trans hLarge hLe
    rw [Nat.cast_le] at hBound
    omega
  · intro hLe
    omega

section Held

variable {Key : Type}

def WholeCosts (grants : List (Grant Key)) : Prop := ∀ grant ∈ grants, ∃ n : Nat, 0 < n ∧ grant.cost = n

variable {grant : Grant Key} {grants : List (Grant Key)}

lemma WholeCosts.release (h : WholeCosts grants) {place : Nat} (hGrant : grants[place]? = some grant) :
    WholeCosts (grants.set place { grant with released := true }) :=
  forall_mem_set h (h grant (mem_of_getElem? hGrant))

variable [DecidableEq Key]

def Grant.held (key : Key) (grant : Grant Key) : ℚ := if grant.key = key ∧ grant.released = false then grant.cost else 0

def heldCost (grants : List (Grant Key)) (key : Key) : ℚ := (grants.map (Grant.held key)).sum

lemma Grant.held_whole (key : Key) (h : ∃ n : Nat, 0 < n ∧ grant.cost = n) : ∃ n : Nat, grant.held key = n := by
  obtain ⟨n, -, hCost⟩ := h
  rw [Grant.held]
  split
  · exact ⟨n, hCost⟩
  · exact ⟨0, Nat.cast_zero.symm⟩

lemma WholeCosts.heldCost (h : WholeCosts grants) (key : Key) : ∃ n : Nat, heldCost grants key = n := by
  induction grants with
  | nil => exact ⟨0, Nat.cast_zero.symm⟩
  | cons grant rest ih =>
    rw [WholeCosts, forall_mem_cons] at h
    obtain ⟨first, hFirst⟩ := Grant.held_whole key h.1
    obtain ⟨others, hOthers⟩ := ih h.2
    refine ⟨first + others, ?_⟩
    rw [Nat.cast_add, ← hFirst, ← hOthers]
    rfl

lemma WholeCosts.heldCost_ne_zero (h : WholeCosts grants) (hGrant : grant ∈ grants) (hHeld : grant.released = false) :
    RateLimit.heldCost grants grant.key ≠ 0 := by
  obtain ⟨n, hPositive, hCost⟩ := h grant hGrant
  have hOne : grant.held grant.key = n := by rw [Grant.held, if_pos ⟨rfl, hHeld⟩, hCost]
  have hLe : grant.held grant.key ≤ RateLimit.heldCost grants grant.key := by
    apply single_le_sum
    · intro cost hMem
      obtain ⟨other, hOther, rfl⟩ := mem_map.mp hMem
      obtain ⟨m, hm⟩ := Grant.held_whole grant.key (h other hOther)
      rw [hm]
      exact Nat.cast_nonneg m
    · exact mem_map_of_mem hGrant
  have hCast : (0 : ℚ) < n := Nat.cast_pos.mpr hPositive
  rw [hOne] at hLe
  exact ne_of_gt (lt_of_lt_of_le hCast hLe)

lemma heldCost_append (grants : List (Grant Key)) (grant : Grant Key) (key : Key) :
    heldCost (grants ++ [grant]) key = heldCost grants key + grant.held key := by
  rw [heldCost, map_append, sum_append, map_singleton, sum_singleton, heldCost]

lemma heldCost_set {place : Nat} (h : grants[place]? = some grant) (other : Grant Key) (key : Key) :
    heldCost (grants.set place other) key = heldCost grants key - grant.held key + other.held key := by
  obtain ⟨hPlace, hGrant⟩ := List.getElem_of_getElem? h
  rw [heldCost, map_set, sum_set', dif_pos (by rwa [length_map]), getElem_map, hGrant, heldCost]
  ring

end Held

section Counting

variable {Key : Type} [DecidableEq Key]

/-- The entry of every key counts what its grants hold. -/
structure Counted (policyOf : Key → Policy) (store : Store Key) : Prop where
  wellFormed : store.WellFormed
  whole : WholeCosts store.grants
  kinds : ∀ grant ∈ store.grants, ∃ policy, policyOf grant.key = .concurrency policy
  held : ∀ grant ∈ store.grants, grant.released = false → (grant.key, grant.entry) ∈ store.entries
  counts : ∀ key place policy, (key, place) ∈ store.entries → policyOf key = .concurrency policy →
    ∃ entry, store.heap[place]? = some entry ∧ entry.active = heldCost store.grants key ∧
      entry.active ≤ policy.limit ∧ (entry.active ≠ 0 → entry.expiresAt = none)

variable {policyOf : Key → Policy} {store : Store Key}

lemma counted_init (cfg : StoreConfig) : Counted policyOf (.init cfg : Store Key) where
  wellFormed := Store.init_wellFormed cfg
  whole := forall_mem_nil _
  kinds := forall_mem_nil _
  held := forall_mem_nil _
  counts := fun _ _ _ hItem => absurd hItem not_mem_nil

variable {key : Key}

lemma Counted.heldCost_eq_zero (h : Counted policyOf store) (hKey : ∀ place, (key, place) ∉ store.entries) :
    heldCost store.grants key = 0 := by
  apply sum_eq_zero
  intro cost hMem
  obtain ⟨grant, hGrant, rfl⟩ := mem_map.mp hMem
  rw [Grant.held, if_neg]
  rintro ⟨rfl, hHeld⟩
  exact hKey _ (h.held grant hGrant hHeld)

variable {policy : ConcurrencyPolicy}

lemma Counted.le_limit (h : Counted policyOf store) (hPolicy : policyOf key = .concurrency policy) :
    heldCost store.grants key ≤ policy.limit := by
  by_cases hEntry : ∃ place, (key, place) ∈ store.entries
  · obtain ⟨place, hPlace⟩ := hEntry
    obtain ⟨entry, -, hActive, hLimit, -⟩ := h.counts key place policy hPlace hPolicy
    rw [← hActive]
    exact hLimit
  · rw [h.heldCost_eq_zero fun place hPlace => hEntry ⟨place, hPlace⟩]
    exact Nat.cast_nonneg _

variable {cur : ℚ} {after : Store Key}

lemma Counted.loses (h : Counted policyOf store) {gone : Option Key} (hLoses : Store.Loses cur gone store after)
    (hGone : ∀ key, gone = some key → heldCost store.grants key = 0) : Counted policyOf after where
  wellFormed := hLoses.wellFormed h.wellFormed
  whole := hLoses.grants ▸ h.whole
  kinds := hLoses.grants ▸ h.kinds
  held := by
    rw [hLoses.grants]
    intro grant hGrant hHeld
    have hItem := h.held grant hGrant hHeld
    have hCost := h.whole.heldCost_ne_zero hGrant hHeld
    rcases hLoses.kept _ hItem with hKept | hExpired | hKey
    · exact hKept
    · obtain ⟨policy, hPolicy⟩ := h.kinds grant hGrant
      obtain ⟨entry, hEntry, hActive, -, hForever⟩ := h.counts _ _ policy hItem hPolicy
      rw [Store.isExpired, hEntry, Option.any_some, entryExpired, hForever (by rw [hActive]; exact hCost)] at hExpired
      cases hExpired
    · exact absurd (hGone _ hKey) hCost
  counts := by
    rw [hLoses.grants, hLoses.heap]
    intro key place policy hItem
    exact h.counts key place policy (hLoses.entries.subset hItem)

variable {entry : Entry}

lemma Counted.insert (h : Counted policyOf store) (hNew : ∀ place, (key, place) ∉ store.entries)
    (hEntry : entry.active = 0) : Counted policyOf (store.insert key entry) where
  wellFormed := h.wellFormed.insert hNew entry
  whole := h.whole
  kinds := h.kinds
  held := fun grant hGrant hHeld => mem_append_left _ (h.held grant hGrant hHeld)
  counts := by
    intro other place policy hItem hPolicy
    rcases mem_append.mp hItem with hOld | hLast
    · obtain ⟨found, hFound, hRest⟩ := h.counts other place policy hOld hPolicy
      refine ⟨found, ?_, hRest⟩
      rw [Store.insert, getElem?_append_left (h.wellFormed.inHeap _ hOld), hFound]
    · obtain ⟨rfl, rfl⟩ := Prod.mk.inj (mem_singleton.mp hLast)
      refine ⟨entry, getElem?_concat_length, ?_, ?_, ?_⟩
      · rw [hEntry]
        exact (h.heldCost_eq_zero hNew).symm
      · rw [hEntry]
        exact Nat.cast_nonneg _
      · exact fun hActive => absurd hEntry hActive

variable {round : ℚ → ℚ} {created : Entry}

lemma Counted.ensureKey (h : Counted policyOf store) (hCreated : created.active = 0)
    (hGone : ∀ other, evictedKey round store key cur = some other → heldCost store.grants other = 0)
    {found : Option Nat} (hEnsured : RateLimit.ensureKey round store key created cur = (after, found)) :
    Counted policyOf after ∧ ∀ place, found = some place → (key, place) ∈ after.entries := by
  have hNone : ∀ other, (none : Option Key) = some other → heldCost store.grants other = 0 := by
    intro other hOther
    cases hOther
  obtain ⟨_, hCase, hLoses⟩ | ⟨_, place, hCase, hFound, hLoses⟩ | ⟨mid, hCase, hNew, hLoses⟩ :=
    ensureKey_cases round store key created cur
  · cases hEnsured.symm.trans hCase
    refine ⟨h.loses hLoses hNone, ?_⟩
    intro place hPlace
    cases hPlace
  · cases hEnsured.symm.trans hCase
    refine ⟨h.loses hLoses hNone, ?_⟩
    rintro other hOther
    cases hOther
    exact hFound
  · cases hEnsured.symm.trans hCase
    refine ⟨(h.loses hLoses hGone).insert hNew hCreated, ?_⟩
    rintro other hOther
    cases hOther
    apply mem_append_right
    rw [mem_singleton, hLoses.heap]

variable {place : Nat}

lemma Counted.setEntry (h : Counted policyOf store) (hItem : (key, place) ∈ store.entries)
    (hPolicy : ∀ policy, policyOf key ≠ .concurrency policy) (entry : Entry) :
    Counted policyOf (store.setEntry place entry) where
  wellFormed := h.wellFormed.of_entries rfl length_set
  whole := h.whole
  kinds := h.kinds
  held := h.held
  counts := by
    intro other otherPlace policy hOther hOtherPolicy
    have hDiffer : place ≠ otherPlace := by
      rintro rfl
      rw [← h.wellFormed.key_eq hItem hOther] at hOtherPolicy
      exact hPolicy policy hOtherPolicy
    obtain ⟨found, hFound, hRest⟩ := h.counts other otherPlace policy hOther hOtherPolicy
    refine ⟨found, ?_, hRest⟩
    rw [Store.setEntry, getElem?_set_ne hDiffer, hFound]

lemma Counted.checkEntry (h : Counted policyOf store) (hCreated : created.active = 0)
    (hPolicy : ∀ policy, policyOf key ≠ .concurrency policy)
    (hGone : ∀ other, evictedKey round store key cur = some other → heldCost store.grants other = 0)
    (use : Entry → Entry × CheckResult) :
    Counted policyOf (RateLimit.checkEntry round store key created use cur).1 := by
  rw [RateLimit.checkEntry]
  split
  next hEnsured =>
    exact (h.ensureKey hCreated hGone hEnsured).1
  next place hEnsured =>
    obtain ⟨hAfter, hItem⟩ := h.ensureKey hCreated hGone hEnsured
    exact hAfter.setEntry (hItem place rfl) hPolicy _

variable {cost : Nat}

section

variable (h : Counted policyOf store)
include h

lemma Counted.grant (hItem : (key, place) ∈ store.entries)
    (hPolicy : policyOf key = .concurrency policy) (hCost : 0 < cost)
    (hActive : entry.active = heldCost store.grants key + cost) (hForever : entry.expiresAt = none)
    (hLimit : entry.active ≤ policy.limit) :
    Counted policyOf { store.setEntry place entry with grants := store.grants ++ [⟨key, place, cost, false⟩] } where
  wellFormed := h.wellFormed.of_entries rfl length_set
  whole := by
    exact forall_mem_append.mpr ⟨h.whole, forall_mem_singleton.mpr ⟨cost, hCost, rfl⟩⟩
  kinds := by
    exact forall_mem_append.mpr ⟨h.kinds, forall_mem_singleton.mpr ⟨policy, hPolicy⟩⟩
  held := by
    intro grant hGrant hHeld
    rcases mem_append.mp hGrant with hOld | hNew
    · exact h.held grant hOld hHeld
    · rw [mem_singleton.mp hNew]
      exact hItem
  counts := by
    intro other otherPlace otherPolicy hOther hOtherPolicy
    rw [heldCost_append, Grant.held]
    by_cases hSame : key = other
    · subst hSame
      obtain rfl := h.wellFormed.place_eq hItem hOther
      obtain rfl : policy = otherPolicy := Policy.concurrency.inj (hPolicy.symm.trans hOtherPolicy)
      rw [if_pos ⟨rfl, rfl⟩]
      refine ⟨entry, ?_, hActive, hLimit, fun _ => hForever⟩
      exact getElem?_set_self (h.wellFormed.inHeap _ hItem)
    · have hDiffer : place ≠ otherPlace := fun hPlace => hSame (h.wellFormed.key_eq hItem (hPlace ▸ hOther))
      rw [if_neg (fun hBoth => hSame hBoth.1), add_zero]
      obtain ⟨found, hFound, hRest⟩ := h.counts other otherPlace otherPolicy hOther hOtherPolicy
      refine ⟨found, ?_, hRest⟩
      rw [Store.setEntry, getElem?_set_ne hDiffer, hFound]

lemma Counted.checkConcurrency (hRound : Rounds round)
    (hPolicy : policyOf key = .concurrency policy) (hCost : 0 < cost)
    (hGone : ∀ other, evictedKey round store key cur = some other → heldCost store.grants other = 0) :
    Counted policyOf (RateLimit.checkConcurrency round store key policy cost cur).1 := by
  rw [RateLimit.checkConcurrency]
  split
  next hEnsured =>
    exact (h.ensureKey rfl hGone hEnsured).1
  rename_i after place hEnsured
  obtain ⟨hAfter, hItem⟩ := h.ensureKey rfl hGone hEnsured
  obtain ⟨entry, hEntry, hActive, hLimit, hForever⟩ := hAfter.counts key place policy (hItem place rfl) hPolicy
  obtain ⟨active, hWhole⟩ := hAfter.whole.heldCost key
  have hSum : entry.active + cost = ((active + cost : Nat) : ℚ) := by rw [hActive, hWhole, Nat.cast_add]
  rw [getD_eq_getElem?_getD, hEntry, Option.getD_some, useConcurrency]
  split
  next hAllowed =>
    rw [hSum, hRound.le_limit_iff policy.limitSafe] at hAllowed
    have hExact : round (entry.active + cost) = heldCost after.grants key + cost := by
      rw [hSum, hRound.whole _ (Nat.le_succ_of_le (Nat.le_trans hAllowed policy.limitSafe)), hWhole, Nat.cast_add]
    refine hAfter.grant (hItem place rfl) hPolicy hCost hExact rfl ?_
    rw [hExact, hWhole, ← Nat.cast_add, Nat.cast_le]
    exact hAllowed
  · have hSame : after.setEntry place entry = after := by
      obtain ⟨hPlace, rfl⟩ := List.getElem_of_getElem? hEntry
      rw [Store.setEntry, set_getElem_self hPlace]
    change Counted policyOf (after.setEntry place entry)
    rw [hSame]
    exact hAfter

lemma Counted.giveBack {grant : Grant Key} (hGrant : store.grants[place]? = some grant)
    (hHeld : grant.released = false) (hPolicy : policyOf grant.key = .concurrency policy)
    (hActive : entry.active = heldCost store.grants grant.key - grant.cost)
    (hForever : entry.active ≠ 0 → entry.expiresAt = none) :
    Counted policyOf { store with
        grants := store.grants.set place { grant with released := true }
        heap := store.heap.set grant.entry entry } := by
  have hMem := mem_of_getElem? hGrant
  have hItem := h.held grant hMem hHeld
  have hSet : ∀ other ∈ store.grants.set place { grant with released := true },
      other ∈ store.grants ∨ other = { grant with released := true } := fun _ hOther => mem_or_eq_of_mem_set hOther
  refine ⟨h.wellFormed.of_entries rfl length_set, h.whole.release hGrant, ?_, ?_, ?_⟩
  · intro other hOther
    rcases hSet other hOther with hOld | rfl
    · exact h.kinds other hOld
    · exact ⟨policy, hPolicy⟩
  · intro other hOther hOtherHeld
    rcases hSet other hOther with hOld | rfl
    · exact h.held other hOld hOtherHeld
    · cases hOtherHeld
  · intro other otherPlace otherPolicy hOther hOtherPolicy
    have hReleased : (Grant.mk grant.key grant.entry grant.cost true).held other = 0 := by
      rw [Grant.held, if_neg]
      rintro ⟨-, hFalse⟩
      cases hFalse
    rw [heldCost_set hGrant, hReleased, add_zero]
    by_cases hSame : grant.key = other
    · subst hSame
      obtain rfl := h.wellFormed.place_eq hItem hOther
      obtain rfl : policy = otherPolicy := Policy.concurrency.inj (hPolicy.symm.trans hOtherPolicy)
      rw [Grant.held, if_pos ⟨rfl, hHeld⟩]
      refine ⟨entry, getElem?_set_self (h.wellFormed.inHeap _ hItem), hActive, ?_, hForever⟩
      obtain ⟨n, -, hCost⟩ := h.whole grant hMem
      have hNonneg : (0 : ℚ) ≤ grant.cost := hCost ▸ Nat.cast_nonneg n
      rw [hActive]
      exact le_trans (sub_le_self _ hNonneg) (h.le_limit hPolicy)
    · have hDiffer : grant.entry ≠ otherPlace := fun hPlace => hSame (h.wellFormed.key_eq hItem (hPlace ▸ hOther))
      rw [Grant.held, if_neg (fun hBoth => hSame hBoth.1), sub_zero]
      obtain ⟨found, hFound, hRest⟩ := h.counts other otherPlace otherPolicy hOther hOtherPolicy
      refine ⟨found, ?_, hRest⟩
      rw [getElem?_set_ne hDiffer, hFound]

lemma Counted.delete (hKey : heldCost store.grants key = 0) : Counted policyOf (store.delete key) := by
  have hSub : (store.delete key).entries.Sublist store.entries := filter_sublist
  refine ⟨⟨h.wellFormed.keys.sublist (hSub.map _), h.wellFormed.places.sublist (hSub.map _), ?_⟩,
    h.whole, h.kinds, ?_, ?_⟩
  · exact fun item hItem => h.wellFormed.inHeap item (hSub.subset hItem)
  · intro grant hGrant hHeld
    rw [Store.delete, mem_filter]
    refine ⟨h.held grant hGrant hHeld, ?_⟩
    rw [Bool.not_eq_true', decide_eq_false_iff_not]
    rintro rfl
    exact h.whole.heldCost_ne_zero hGrant hHeld hKey
  · exact fun other place policy hItem => h.counts other place policy (hSub.subset hItem)

lemma Counted.release (hRound : Rounds round) (place : Nat) :
    Counted policyOf (RateLimit.release round store place) := by
  rw [RateLimit.release]
  split
  · exact h
  rename_i grant hGrant
  split
  · exact h
  rename_i hHeld
  rw [Bool.not_eq_true] at hHeld
  have hMem := mem_of_getElem? hGrant
  obtain ⟨policy, hPolicy⟩ := h.kinds grant hMem
  obtain ⟨entry, hEntry, hActive, -, hForever⟩ := h.counts _ _ policy (h.held grant hMem hHeld) hPolicy
  have hHeldAfter : heldCost (store.grants.set place { grant with released := true }) grant.key =
      heldCost store.grants grant.key - grant.cost := by
    rw [heldCost_set hGrant, Grant.held, Grant.held, if_pos ⟨rfl, hHeld⟩, if_neg, add_zero]
    rintro ⟨-, hFalse⟩
    cases hFalse
  -- What is left is a whole number within the limit, so the subtraction is exact.
  have hGiven : (entry.giveBack round grant.cost).active = heldCost store.grants grant.key - grant.cost := by
    obtain ⟨left, hLeft⟩ := (h.whole.release hGrant).heldCost grant.key
    rw [hHeldAfter] at hLeft
    have hLess : (left : ℚ) ≤ policy.limit := by
      obtain ⟨n, -, hCost⟩ := h.whole grant hMem
      rw [← hLeft, hCost]
      exact le_trans (sub_le_self _ (Nat.cast_nonneg n)) (h.le_limit hPolicy)
    rw [Nat.cast_le] at hLess
    rw [Entry.giveBack, hActive, hLeft,
      hRound.whole left (Nat.le_succ_of_le (Nat.le_trans hLess policy.limitSafe)), max_eq_right (Nat.cast_nonneg left)]
  have hNext : (entry.giveBack round grant.cost).active ≠ 0 → (entry.giveBack round grant.cost).expiresAt = none := by
    intro _
    apply hForever
    rw [hActive]
    exact h.whole.heldCost_ne_zero hMem hHeld
  have hBack := h.giveBack hGrant hHeld hPolicy hGiven hNext
  rw [hEntry]
  dsimp only
  split
  next hUnused =>
    apply hBack.delete
    rw [hHeldAfter, ← hGiven, hUnused]
  · exact hBack

end

end Counting

section Runs

variable {Key : Type} [DecidableEq Key]

/-- A call that keeps the counts: its cost is a whole number, and it evicts no key that holds anything. -/
def KeepsEntriesInUse (round : ℚ → ℚ) (store : Store Key) : StoreCall Key → Prop
  | .check key cost now =>
    (∃ n : Nat, cost.value = n) ∧
      ∀ other, evictedKey round store key now = some other → heldCost store.grants other = 0
  | .release _ => True

lemma storeStep_counted {round : ℚ → ℚ} (hRound : Rounds round) {policyOf : Key → Policy} {store : Store Key}
    {call : StoreCall Key} (h : Counted policyOf store) (hCall : KeepsEntriesInUse round store call) :
    Counted policyOf (storeStep round policyOf store call).1 := by
  cases call with
  | release grant => exact h.release hRound grant
  | check key cost =>
    obtain ⟨⟨n, hWhole⟩, hGone⟩ := hCall
    rw [storeStep, check.eq_def]
    cases hPolicy : policyOf key with
    | fixedWindow =>
      apply h.checkEntry rfl _ hGone
      intro other hOther
      cases hPolicy.symm.trans hOther
    | slidingWindow =>
      apply h.checkEntry rfl _ hGone
      intro other hOther
      cases hPolicy.symm.trans hOther
    | tokenBucket =>
      apply h.checkEntry rfl _ hGone
      intro other hOther
      cases hPolicy.symm.trans hOther
    | concurrency =>
      have hPositive : 0 < n := by
        have hCost := cost.positive
        rw [hWhole] at hCost
        exact Nat.cast_pos.mp hCost
      rw [hWhole]
      exact h.checkConcurrency hRound hPolicy hPositive hGone

/-- The limit holds through every run of calls that evict nothing in use. -/
theorem concurrency_limit_kept (round : ℚ → ℚ) (hRound : Rounds round) (policyOf : Key → Policy) (config : StoreConfig)
    (calls : List (StoreCall Key))
    (hCalls : Run.Admits (KeepsEntriesInUse round) (fun store call => (storeStep round policyOf store call).1)
      (.init config) calls)
    (key : Key) (policy : ConcurrencyPolicy) (hPolicy : policyOf key = .concurrency policy) :
    heldCost (calls.foldl (fun store call => (storeStep round policyOf store call).1) (.init config)).grants key ≤
      policy.limit := by
  have hCounted : Counted policyOf
      (calls.foldl (fun store call => (storeStep round policyOf store call).1) (.init config)) :=
    Run.foldl_invariant (P := Counted policyOf) (fun _ _ h hCall => storeStep_counted hRound h hCall)
      (counted_init config) hCalls
  exact hCounted.le_limit hPolicy

def oneAtATime : ConcurrencyPolicy := ⟨1, by decide, by decide⟩

def oneKey : StoreConfig := ⟨1, 60000, false, by decide⟩

def unitCost : Cost := ⟨1, by decide⟩

theorem concurrency_limit_kept_released : Run.Admits (KeepsEntriesInUse id)
        (fun store call => (storeStep id (fun _ : Nat => .concurrency oneAtATime) store call).1) (.init oneKey)
        [.check 0 unitCost 0, .release 0, .check 1 unitCost 5] ∧
      heldCost (([.check 0 unitCost 0, .release 0, .check 1 unitCost 5] : List (StoreCall Nat)).foldl
        (fun store call => (storeStep id (fun _ => .concurrency oneAtATime) store call).1) (.init oneKey)).grants 1 ≤
        (1 : Nat) := by
  have hAdmits : Run.Admits (KeepsEntriesInUse id)
      (fun store call => (storeStep id (fun _ : Nat => .concurrency oneAtATime) store call).1) (.init oneKey)
      [.check 0 unitCost 0, .release 0, .check 1 unitCost 5] := by
    refine ⟨⟨⟨1, Nat.cast_one.symm⟩, ?_⟩, trivial, ⟨⟨1, Nat.cast_one.symm⟩, ?_⟩, trivial⟩
    · intro other hOther
      have hNone : evictedKey id (.init oneKey : Store Nat) 0 0 = none := by decide +kernel
      cases hNone.symm.trans hOther
    · intro other hOther
      have hNone : evictedKey id (storeStep id (fun _ : Nat => .concurrency oneAtATime)
          (storeStep id (fun _ : Nat => .concurrency oneAtATime) (.init oneKey) (.check 0 unitCost 0)).1
          (.release 0)).1 1 5 = none := by decide +kernel
      cases hNone.symm.trans hOther
  exact ⟨hAdmits, concurrency_limit_kept id rounds_id _ oneKey _ hAdmits 1 oneAtATime rfl⟩

/-- A full store evicts the entry of a grant, and its key is granted once more. -/
theorem concurrency_limit_exceeded : ((oneAtATime.limit : ℚ) <
      heldCost (([.check 0 unitCost 0, .check 1 unitCost 0, .check 0 unitCost 0] : List (StoreCall Nat)).foldl
        (fun store call => (storeStep id (fun _ => .concurrency oneAtATime) store call).1)
        (.init oneKey)).grants 0) := by
  decide +kernel

end Runs

end Sloppy.RateLimit
