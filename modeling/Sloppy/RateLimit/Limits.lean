import Mathlib.Data.Set.Lattice
import Mathlib.Tactic.Linarith
import Mathlib.Tactic.Positivity
import Mathlib.Tactic.FieldSimp
import Sloppy.RateLimit.Store

/-! # Sliding windows and token buckets

What the entry of one key says about the costs admitted for it, in exact arithmetic. A window keeps every hit that a
window can still reach; a bucket holds no more than what the refill leaves over.
-/

namespace Sloppy.RateLimit

open Lib List

/-- Costs admitted up to a moment. -/
def Upto (latest : ℚ) (history : List (Hit ℚ ℚ)) : Prop := ∀ hit ∈ history, hit.moment ≤ latest ∧ 0 ≤ hit.cost

lemma Upto.mono {latest later : ℚ} {history : List (Hit ℚ ℚ)} (h : Upto latest history) (hLater : latest ≤ later) :
    Upto later history :=
  fun hit hHit => ⟨le_trans (h hit hHit).1 hLater, (h hit hHit).2⟩

lemma Upto.cons {now cost : ℚ} {history : List (Hit ℚ ℚ)} (h : Upto now history) (hCost : 0 ≤ cost) :
    Upto now (⟨now, cost⟩ :: history) :=
  forall_mem_cons.mpr ⟨⟨le_refl now, hCost⟩, h⟩

def admitted (allowed : Bool) (hit : Hit ℚ ℚ) (history : List (Hit ℚ ℚ)) : List (Hit ℚ ℚ) :=
  if allowed then hit :: history else history

section Sliding

/-- The hits of the entry are the costs that a window ending now or later can still reach. -/
def SlidingKept (policy : WindowPolicy) (history : List (Hit ℚ ℚ)) (latest : ℚ) : Option Entry → Prop
  | none => ∀ hit ∈ history, hit.moment + policy.windowMs ≤ latest
  | some entry =>
    (∃ expiresAt, entry.expiresAt = some expiresAt ∧ ∀ hit ∈ history, hit.moment + policy.windowMs ≤ expiresAt) ∧
      ∀ time, latest ≤ time → Hit.spent (Set.Ioi (time - policy.windowMs)) history =
        Hit.spent (Set.Ioi (time - policy.windowMs)) entry.hits

structure SlidingFits (policy : WindowPolicy) (entry : Option Entry) (history : List (Hit ℚ ℚ))
    (latest : ℚ) : Prop where
  upto : Upto latest history
  kept : SlidingKept policy history latest entry
  rightOpen : ∀ start : ℚ, Hit.spent (Set.Ico start (start + policy.windowMs)) history ≤ policy.limit
  leftOpen : ∀ start : ℚ, Hit.spent (Set.Ioc start (start + policy.windowMs)) history ≤ policy.limit

variable {policy : WindowPolicy} {entry : Entry} {history : List (Hit ℚ ℚ)} {latest later now cost : ℚ}

lemma slidingFits_nil (policy : WindowPolicy) (latest : ℚ) : SlidingFits policy none [] latest where
  upto := forall_mem_nil _
  kept := forall_mem_nil _
  rightOpen := fun _ => Nat.cast_nonneg _
  leftOpen := fun _ => Nat.cast_nonneg _

lemma SlidingFits.mono {entry : Option Entry} (h : SlidingFits policy entry history latest) (hLater : latest ≤ later) :
    SlidingFits policy entry history later where
  upto := h.upto.mono hLater
  kept := by
    have hKept := h.kept
    cases entry with
    | none => exact fun hit hHit => le_trans (hKept hit hHit) hLater
    | some entry => exact ⟨hKept.1, fun time hTime => hKept.2 time (le_trans hLater hTime)⟩
  rightOpen := h.rightOpen
  leftOpen := h.leftOpen

lemma SlidingFits.expire (h : SlidingFits policy (some entry) history latest)
    (hExpired : entryExpired entry latest = true) : SlidingFits policy none history latest where
  upto := h.upto
  kept := by
    obtain ⟨⟨expiresAt, hAt, hBefore⟩, -⟩ := h.kept
    rw [entryExpired, hAt, Option.any_some, decide_eq_true_eq] at hExpired
    exact fun hit hHit => le_trans (hBefore hit hHit) hExpired
  rightOpen := h.rightOpen
  leftOpen := h.leftOpen

lemma SlidingFits.create (h : SlidingFits policy none history now) :
    SlidingFits policy (some (newSlidingWindow id policy now)) history now where
  upto := h.upto
  kept := by
    refine ⟨⟨_, rfl, ?_⟩, ?_⟩
    · intro hit hHit
      exact add_le_add_left (h.upto hit hHit).1 _
    · intro time hTime
      apply Hit.spent_eq_zero
      intro hit hHit hIn
      have hOld := h.kept hit hHit
      have hNew : time - policy.windowMs < hit.moment := hIn
      linarith
  rightOpen := h.rightOpen
  leftOpen := h.leftOpen

lemma foldl_cost (hits : List (Hit ℚ ℚ)) (start : ℚ) :
    hits.foldl (fun sum hit => id (sum + hit.cost)) start = start + (hits.map Hit.cost).sum := by
  induction hits generalizing start with
  | nil => simp
  | cons hit rest ih =>
    rw [foldl_cons, ih, map_cons, sum_cons, id, add_assoc]

lemma SlidingFits.used (h : SlidingFits policy (some entry) history now) :
    (entry.hits.filter fun hit => decide (id (now - policy.windowMs) < hit.moment)).foldl
      (fun sum hit => id (sum + hit.cost)) 0 = Hit.spent (Set.Ioi (now - policy.windowMs)) history := by
  rw [foldl_cost, zero_add, h.kept.2 now (le_refl now), ← Hit.spent_univ, Hit.spent_filter]
  · intro hit _ hIn
    exact decide_eq_true hIn
  · intro hit hHit
    exact of_decide_eq_true (mem_filter.mp hHit).2

lemma spent_cons_le {moments : Set ℚ} {limit : ℚ} {cutoff : ℚ} (h : Upto now history)
    (hOld : Hit.spent moments history ≤ limit) (hFits : Hit.spent (Set.Ioi cutoff) history + cost ≤ limit)
    (hReach : now ∈ moments → ∀ moment ∈ moments, moment ≤ now → cutoff < moment) :
    Hit.spent moments (⟨now, cost⟩ :: history) ≤ limit := by
  by_cases hNow : now ∈ moments
  · rw [Hit.spent_cons_of_mem hNow]
    have hLe : Hit.spent moments history ≤ Hit.spent (Set.Ioi cutoff) history :=
      Hit.spent_mono (fun hit hHit => (h hit hHit).2) fun hit hHit hIn => hReach hNow hit.moment hIn (h hit hHit).1
    linarith
  · rw [Hit.spent_cons_of_not_mem hNow]
    exact hOld

lemma SlidingFits.kept_use (h : SlidingFits policy (some entry) history now) :
    SlidingKept policy (admitted (useSlidingWindow id policy cost now entry).2.allowed ⟨now, cost⟩ history) now
      (some (useSlidingWindow id policy cost now entry).1) := by
  have hFilter : ∀ time, now ≤ time → Hit.spent (Set.Ioi (time - policy.windowMs))
        (entry.hits.filter fun hit => decide (id (now - policy.windowMs) < hit.moment)) =
      Hit.spent (Set.Ioi (time - policy.windowMs)) entry.hits := by
    intro time hTime
    apply Hit.spent_filter
    intro hit _ hIn
    have hMoment : time - policy.windowMs < hit.moment := hIn
    exact decide_eq_true (by dsimp only [id]; linarith)
  rw [useSlidingWindow, admitted]
  split
  · refine ⟨⟨_, rfl, ?_⟩, ?_⟩
    · intro hit hHit
      rcases mem_cons.mp hHit with rfl | hOld
      · exact le_refl _
      · exact add_le_add_left (h.upto hit hOld).1 _
    · intro time hTime
      rw [Hit.spent_concat]
      by_cases hNow : now ∈ Set.Ioi (time - (policy.windowMs : ℚ))
      · rw [Hit.spent_cons_of_mem hNow, Hit.spent_cons_of_mem hNow, hFilter time hTime, h.kept.2 time hTime]
      · rw [Hit.spent_cons_of_not_mem hNow, Hit.spent_cons_of_not_mem hNow, hFilter time hTime, h.kept.2 time hTime]
  · refine ⟨⟨_, rfl, ?_⟩, ?_⟩
    · exact fun hit hHit => add_le_add_left (h.upto hit hHit).1 _
    · intro time hTime
      rw [hFilter time hTime, h.kept.2 time hTime]

lemma SlidingFits.use (h : SlidingFits policy (some entry) history now) (hCost : 0 ≤ cost) :
    SlidingFits policy (some (useSlidingWindow id policy cost now entry).1)
      (admitted (useSlidingWindow id policy cost now entry).2.allowed ⟨now, cost⟩ history) now := by
  have hKept := @SlidingFits.kept_use policy entry history now cost h
  cases hAllowed : (useSlidingWindow id policy cost now entry).2.allowed with
  | false =>
    rw [hAllowed] at hKept
    exact ⟨h.upto, hKept, h.rightOpen, h.leftOpen⟩
  | true =>
    rw [hAllowed] at hKept
    have hFits : Hit.spent (Set.Ioi (now - policy.windowMs)) history + cost ≤ policy.limit := by
      have hAllowed := of_decide_eq_true hAllowed
      rw [h.used] at hAllowed
      exact hAllowed
    refine ⟨h.upto.cons hCost, hKept, ?_, ?_⟩
    · intro start
      apply spent_cons_le h.upto (h.rightOpen start) hFits
      rintro ⟨-, hNow⟩ moment ⟨hMoment, -⟩ -
      linarith
    · intro start
      apply spent_cons_le h.upto (h.leftOpen start) hFits
      rintro ⟨-, hNow⟩ moment ⟨hMoment, -⟩ -
      linarith

end Sliding

section Bucket

def BucketPolicy.refill (policy : BucketPolicy) (start finish : ℚ) : ℚ :=
  policy.refillPerSecond * (finish - start) / 1000

/-- What has been admitted since a moment and the tokens left are covered by a full bucket and the refill since. -/
def BucketKept (policy : BucketPolicy) (history : List (Hit ℚ ℚ)) (latest : ℚ) : Option Entry → Prop
  | none => ∀ start ≤ latest, Hit.spent (Set.Ici start) history ≤ policy.refill start latest
  | some entry =>
    (entry.updatedAt ≤ latest ∧ Upto entry.updatedAt history) ∧ (0 ≤ entry.tokens ∧ entry.tokens ≤ policy.capacity) ∧
      entry.expiresAt = some (entry.updatedAt + bucketLifetime id policy) ∧
      ∀ start ≤ entry.updatedAt, Hit.spent (Set.Ici start) history + entry.tokens ≤
        policy.capacity + policy.refill start entry.updatedAt

structure BucketFits (policy : BucketPolicy) (entry : Option Entry) (history : List (Hit ℚ ℚ)) (latest : ℚ) : Prop where
  upto : Upto latest history
  kept : BucketKept policy history latest entry
  within : ∀ start finish, start ≤ finish →
    Hit.spent (Set.Icc start finish) history ≤ policy.capacity + policy.refill start finish

variable {policy : BucketPolicy} {entry : Entry} {history : List (Hit ℚ ℚ)} {latest later now cost : ℚ} {start : ℚ}

lemma BucketPolicy.refill_nonneg (policy : BucketPolicy) {finish : ℚ} (h : start ≤ finish) :
    0 ≤ policy.refill start finish := by
  have hRefill := policy.refillPositive
  rw [BucketPolicy.refill]
  positivity

lemma BucketPolicy.refill_add (policy : BucketPolicy) (start mid finish : ℚ) :
    policy.refill start mid + policy.refill mid finish = policy.refill start finish := by
  rw [BucketPolicy.refill, BucketPolicy.refill, BucketPolicy.refill]
  ring

lemma BucketPolicy.capacity_le_refill (policy : BucketPolicy) {finish : ℚ}
    (h : start + bucketLifetime id policy ≤ finish) : policy.capacity ≤ policy.refill start finish := by
  have hRefill := policy.refillPositive
  have hFill : policy.capacity / policy.refillPerSecond * 1000 ≤ bucketLifetime id policy := by
    have hCeil := Int.le_ceil (policy.capacity / policy.refillPerSecond * 1000)
    have hPositive : 0 ≤ policy.capacity / policy.refillPerSecond * 1000 := by
      have hCap := policy.capacityPositive
      positivity
    rw [bucketLifetime]
    dsimp only [id]
    linarith
  have hTime : policy.capacity / policy.refillPerSecond * 1000 ≤ finish - start := by linarith
  rw [div_mul_eq_mul_div, div_le_iff₀ hRefill] at hTime
  rw [BucketPolicy.refill]
  linarith

lemma Upto.spent_Ici (h : Upto latest history) (hStart : latest < start) : Hit.spent (Set.Ici start) history = 0 := by
  apply Hit.spent_eq_zero
  intro hit hHit hIn
  exact absurd (lt_of_lt_of_le hStart hIn) (not_lt.mpr (h hit hHit).1)

lemma bucketFits_nil (policy : BucketPolicy) (latest : ℚ) : BucketFits policy none [] latest where
  upto := forall_mem_nil _
  kept := fun _ hStart => policy.refill_nonneg hStart
  within := fun _ _ hLe => add_nonneg (le_of_lt policy.capacityPositive) (policy.refill_nonneg hLe)

lemma BucketFits.mono {entry : Option Entry} (h : BucketFits policy entry history latest) (hLater : latest ≤ later) :
    BucketFits policy entry history later where
  upto := h.upto.mono hLater
  kept := by
    have hKept := h.kept
    cases entry with
    | none =>
      intro start hStart
      rcases le_or_gt start latest with hEarly | hLate
      · have hMore := policy.refill_nonneg hLater
        rw [← policy.refill_add start latest later]
        linarith [hKept start hEarly]
      · rw [h.upto.spent_Ici hLate]
        exact policy.refill_nonneg hStart
    | some => exact ⟨⟨le_trans hKept.1.1 hLater, hKept.1.2⟩, hKept.2⟩
  within := h.within

lemma BucketFits.expire (h : BucketFits policy (some entry) history latest)
    (hExpired : entryExpired entry latest = true) : BucketFits policy none history latest where
  upto := h.upto
  kept := by
    obtain ⟨⟨-, hUpto⟩, ⟨hTokens, -⟩, hAt, hCovered⟩ := h.kept
    rw [entryExpired, hAt, Option.any_some, decide_eq_true_eq] at hExpired
    intro start hStart
    rcases le_or_gt start entry.updatedAt with hEarly | hLate
    · have hFull := policy.capacity_le_refill hExpired
      rw [← policy.refill_add start entry.updatedAt latest]
      linarith [hCovered start hEarly]
    · rw [hUpto.spent_Ici hLate]
      exact policy.refill_nonneg hStart
  within := h.within

lemma BucketFits.create (h : BucketFits policy none history now) :
    BucketFits policy (some (newTokenBucket id policy now)) history now where
  upto := h.upto
  kept := by
    refine ⟨⟨le_refl now, h.upto⟩, ⟨le_of_lt policy.capacityPositive, le_refl _⟩, rfl, ?_⟩
    intro start hStart
    have hCovered := h.kept start hStart
    rw [newTokenBucket]
    linarith
  within := h.within

lemma BucketFits.refilled (h : BucketFits policy (some entry) history now) :
    0 ≤ refilled id policy now entry ∧ refilled id policy now entry ≤ policy.capacity ∧
      ∀ start ≤ now, Hit.spent (Set.Ici start) history + refilled id policy now entry ≤
        policy.capacity + policy.refill start now := by
  obtain ⟨⟨hUpdated, hUpto⟩, ⟨hTokens, -⟩, -, hCovered⟩ := h.kept
  have hElapsed : 0 ≤ (now - entry.updatedAt) / 1000 := div_nonneg (sub_nonneg.mpr hUpdated) (by norm_num)
  have hRefilled : RateLimit.refilled id policy now entry =
      min policy.capacity (entry.tokens + policy.refill entry.updatedAt now) := by
    rw [RateLimit.refilled, BucketPolicy.refill]
    dsimp only [id]
    rw [max_eq_right hElapsed]
    congr 2
    ring
  have hGain := policy.refill_nonneg hUpdated
  rw [hRefilled]
  refine ⟨le_min (le_of_lt policy.capacityPositive) (add_nonneg hTokens hGain), min_le_left _ _, ?_⟩
  intro start hStart
  rcases le_or_gt start entry.updatedAt with hEarly | hLate
  · have hMin := min_le_right policy.capacity (entry.tokens + policy.refill entry.updatedAt now)
    rw [← policy.refill_add start entry.updatedAt now]
    linarith [hCovered start hEarly]
  · have hMin := min_le_left policy.capacity (entry.tokens + policy.refill entry.updatedAt now)
    have hMore := policy.refill_nonneg hStart
    rw [hUpto.spent_Ici hLate]
    linarith

lemma BucketFits.use (h : BucketFits policy (some entry) history now) (hCost : 0 ≤ cost) :
    BucketFits policy (some (useTokenBucket id policy cost now entry).1)
      (admitted (useTokenBucket id policy cost now entry).2.allowed ⟨now, cost⟩ history) now := by
  obtain ⟨hNonneg, hFull, hCovered⟩ := h.refilled
  rw [useTokenBucket, admitted]
  split
  next hAllowed =>
    rw [decide_eq_true_eq] at hAllowed
    -- Moments from a start on include now, so the cost moves from the tokens to what has been admitted.
    have hSpent : ∀ start ≤ now, Hit.spent (Set.Ici start) (⟨now, cost⟩ :: history) =
        cost + Hit.spent (Set.Ici start) history := fun start hStart => Hit.spent_cons_of_mem hStart
    refine ⟨h.upto.cons hCost, ⟨⟨le_refl now, h.upto.cons hCost⟩, ⟨?_, ?_⟩, rfl, ?_⟩, ?_⟩
    · dsimp only [id]
      linarith
    · dsimp only [id]
      linarith
    · intro start hStart
      dsimp only [id]
      rw [hSpent start hStart]
      linarith [hCovered start hStart]
    · intro start finish hLe
      by_cases hNow : now ∈ Set.Icc start finish
      · have hInterval : Hit.spent (Set.Icc start finish) (⟨now, cost⟩ :: history) ≤
            Hit.spent (Set.Ici start) (⟨now, cost⟩ :: history) :=
          Hit.spent_mono (fun hit hHit => (h.upto.cons hCost hit hHit).2) fun _ _ hIn => hIn.1
        have hMore := policy.refill_nonneg hNow.2
        rw [hSpent start hNow.1] at hInterval
        rw [← policy.refill_add start now finish]
        linarith [hCovered start hNow.1]
      · rw [Hit.spent_cons_of_not_mem hNow]
        exact h.within start finish hLe
  · exact ⟨h.upto, ⟨⟨le_refl now, h.upto⟩, ⟨hNonneg, hFull⟩, rfl, hCovered⟩, h.within⟩

end Bucket

end Sloppy.RateLimit
