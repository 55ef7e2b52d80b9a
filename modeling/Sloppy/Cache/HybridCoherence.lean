import Sloppy.Cache.Hybrid

/-! # Removed and expired values stay away

As long as no get stores what has been removed since it was set, every value that is served to a get which started
after a removal is newer than that removal.
-/

namespace Sloppy.Cache.HybridCache

open Lib.CodeUnits Lib.Run List

lemma forall_assign {α β : Type} [DecidableEq α] {key : α} {map : α → Option β} {value : Option β} {P : α → β → Prop}
    (hOld : ∀ other x, map other = some x → P other x) (hNew : ∀ x ∈ value, P key x) :
    ∀ other x, assign map key value other = some x → P other x := by
  intro other x h
  unfold assign at h
  split at h
  next hSame =>
    exact hSame ▸ hNew x h
  · exact hOld other x h

variable {Value : Type} {cache : HybridCache} {s : HybridState Value} {call : Nat} {key : Text}
  {stamped : Stamped Value} {getCall : GetCall} {source : Option Nat} {entry : MemoryEntry Value}

/-! ## What holds between two steps -/

/-- A set under way has not been resolved, a removal has got as far as its call, and what a get has found was not
taken before it started. -/
def Fits (sets : List Nat) (removals applied : List Removal) (call : Nat) : Pending Value → Prop
  | .reading get => get.past ⊆ applied
  | .upserting get entry | .touching get entry _ _ => Untaken get.past get.key entry.stamped
  | .refilling get stamped _ _ => Untaken get.past get.key stamped
  | .dropping _ => True
  | .writing .. | .mirroring .. => call ∉ sets
  | .removing removal => removal ∈ removals
  | .removed removal => removal ∈ applied

/-- An entry in memory has all tags of its value, and does not outlive the entry it was copied from. -/
structure Copied (entry : MemoryEntry Value) : Prop where
  tags : entry.stamped.tags ⊆ entry.tags
  bounded : ∀ moment ∈ entry.source, Bounded entry moment

structure Fresh (s : HybridState Value) : Prop where
  calls : ∀ call pending, s.calls call = some pending →
    call < s.nextCall ∧ Fits s.resolvedSets s.removals s.applied call pending
  sets : ∀ call ∈ s.resolvedSets, call < s.nextCall
  before : ∀ removal ∈ s.removals, removal.before ⊆ s.resolvedSets
  applied : s.applied ⊆ s.removals
  resolved : s.resolved ⊆ s.applied
  memory : ∀ key entry, s.memory key = some entry → Copied entry ∧ Untaken s.removals key entry.stamped
  distributed : ∀ key entry, s.distributed key = some entry → Untaken s.applied key entry.stamped
  coherent : Coherent s.returns

lemma fresh_initial : Fresh (initial : HybridState Value) where
  calls := by rintro _ _ ⟨⟩
  sets := by rintro _ ⟨⟩
  before := by rintro _ ⟨⟩
  applied := nil_subset _
  resolved := nil_subset _
  memory := by rintro _ _ ⟨⟩
  distributed := by rintro _ _ ⟨⟩
  coherent := ⟨by rintro _ ⟨⟩, by rintro _ ⟨⟩⟩

lemma covers_mono {target : Target} {tags more : List Text} (hMore : tags ⊆ more)
    (hCovers : target.covers key tags = true) : target.covers key more = true := by
  cases target with
  | key => exact hCovers
  | tags =>
    obtain ⟨tag, hTag, hIn⟩ := any_eq_true.mp hCovers
    exact any_eq_true.mpr ⟨tag, hMore hTag, hIn⟩

lemma Untaken.mono {removals fewer : List Removal} (h : Untaken removals key stamped) (hFewer : fewer ⊆ removals) :
    Untaken fewer key stamped :=
  fun removal hMem => h removal (hFewer hMem)

/-- A value whose set has not been resolved has been taken by no removal. -/
lemma Fresh.untaken (h : Fresh s) (hUnresolved : stamped.origin ∉ s.resolvedSets) : Untaken s.removals key stamped :=
  fun removal hMem hStale => hUnresolved (h.before removal hMem hStale.2)

lemma Fits.mono {pending : Pending Value} {sets later : List Nat} {removals more applied done : List Removal}
    (h : Fits sets removals applied call pending) (hSets : call ∈ later → call ∈ sets) (hRemovals : removals ⊆ more)
    (hApplied : applied ⊆ done) : Fits later more done call pending := by
  cases pending with
  | reading => exact Subset.trans h hApplied
  | upserting | touching | refilling | dropping => exact h
  | writing | mirroring => exact fun hMem => h (hSets hMem)
  | removing => exact hRemovals h
  | removed => exact hApplied h

/-! ## The effects of a step -/

section Effects

variable (h : Fresh s)
include h

lemma Fresh.start {pending : Pending Value} (hFits : Fits s.resolvedSets s.removals s.applied s.nextCall pending) :
    Fresh (start pending s) :=
  { h with
    calls := by
      refine forall_assign (fun other before hBefore => ?_) ?_
      · exact ⟨Nat.lt_succ_of_lt (h.calls other before hBefore).1, (h.calls other before hBefore).2⟩
      · rintro _ ⟨⟩
        exact ⟨Nat.lt_succ_self _, hFits⟩
    sets := fun other hMem => Nat.lt_succ_of_lt (h.sets other hMem) }

lemma Fresh.goOn (hCall : call < s.nextCall) {pending : Option (Pending Value)}
    (hFits : ∀ next ∈ pending, Fits s.resolvedSets s.removals s.applied call next) : Fresh (goOn call pending s) :=
  { h with calls := forall_assign h.calls fun next hNext => ⟨hCall, hFits next hNext⟩ }

lemma Fresh.ends (call : Nat) : Fresh (HybridCache.goOn call none s) :=
  { h with calls := forall_assign h.calls (by rintro _ ⟨⟩) }

lemma Fresh.store {entry : Option (MemoryEntry Value)}
    (hEntry : ∀ stored ∈ entry, Copied stored ∧ Untaken s.removals key stored.stamped) : Fresh (store key entry s) :=
  { h with memory := forall_assign h.memory hEntry }

lemma Fresh.distribute {entry : Option (DistributedEntry Value)}
    (hEntry : ∀ stored ∈ entry, Untaken s.applied key stored.stamped) : Fresh (distribute key entry s) :=
  { h with distributed := forall_assign h.distributed hEntry }

lemma Fresh.give (hUntaken : Untaken getCall.past getCall.key stamped) (hSource : ∀ moment ∈ source, s.now < moment) :
    Fresh (give getCall stamped source s) :=
  { h with coherent :=
      ⟨forall_mem_cons.mpr ⟨hUntaken, h.coherent.removed⟩, forall_mem_cons.mpr ⟨hSource, h.coherent.expired⟩⟩ }

lemma Fresh.settles (hEnded : s.calls call = none) (hCall : call < s.nextCall) :
    Fresh { s with resolvedSets := call :: s.resolvedSets } :=
  { h with
    calls := by
      intro other pending hPending
      refine (h.calls other pending hPending).imp_right fun hFits => hFits.mono ?_ (Subset.refl _) (Subset.refl _)
      refine fun hMem => (mem_cons.mp hMem).resolve_left ?_
      rintro rfl
      exact absurd (hEnded.symm.trans hPending) (by simp)
    sets := forall_mem_cons.mpr ⟨hCall, h.sets⟩
    before := fun removal hMem => subset_cons_of_subset _ (h.before removal hMem) }

end Effects

/-! ## The steps of a get -/

lemma Copied.served {now moment : Nat} (h : Copied entry) (hLive : ¬isExpired entry.expiresAt now)
    (hSource : moment ∈ entry.source) : now < moment := by
  obtain ⟨⟨expires, hExpires, hLe⟩, -⟩ := h.bounded moment hSource
  rw [hExpires] at hLive
  have : ¬expires ≤ now := by simpa [isExpired] using hLive
  omega

lemma Copied.accessed {now : Nat} (h : Copied entry) (hLive : ¬isExpired entry.expiresAt now) :
    Copied (accessed now entry) := by
  unfold HybridCache.accessed
  split
  · exact h
  rename_i sliding hSliding
  refine ⟨h.tags, ?_⟩
  intro moment hMoment
  obtain ⟨-, hAbsolute⟩ := h.bounded moment hMoment
  have hServed := h.served hLive hMoment
  refine ⟨⟨_, rfl, ?_⟩, hAbsolute⟩
  unfold refreshSlidingExpiration
  by_cases hZero : sliding = 0
  · split <;> omega
  · obtain ⟨absolute, hIs, hLe⟩ := hAbsolute sliding hSliding (Nat.pos_of_ne_zero hZero)
    rw [hIs]
    exact (min_le_right _ _).trans hLe

lemma accessed_stamped (now : Nat) (entry : MemoryEntry Value) : (accessed now entry).stamped = entry.stamped := by
  unfold accessed
  split <;> rfl

section Steps

variable (h : Fresh s)
include h

lemma Fresh.get (key : Text) (options : CallOptions) : Fresh (get key options s) := by
  unfold HybridCache.get
  dsimp only
  split
  · exact h.start h.resolved
  next entry hEntry =>
    obtain ⟨hCopied, hUntaken⟩ := h.memory key entry hEntry
    split
    · exact (h.store (by rintro _ ⟨⟩)).start h.resolved
    next hLive =>
      refine Fresh.give (h.store ?_) (hUntaken.mono (Subset.trans h.resolved h.applied))
        fun moment => hCopied.served hLive
      rintro _ ⟨⟩
      exact ⟨hCopied.accessed hLive, (accessed_stamped s.now entry).symm ▸ hUntaken⟩

lemma Fresh.found (hCall : call < s.nextCall) (hUntaken : Untaken getCall.past getCall.key stamped)
    (stored : StoreOptions) (source : Option Nat) : Fresh (cache.found call getCall stamped stored source s) := by
  unfold HybridCache.found
  split
  · refine h.goOn hCall ?_
    rintro _ ⟨⟩
    exact hUntaken
  · exact (h.ends call).give hUntaken (by rintro _ ⟨⟩)

lemma Fresh.answer (hCall : call < s.nextCall) (hOver : getCall.past ⊆ s.applied) :
    Fresh (cache.answer call getCall s) := by
  unfold HybridCache.answer
  split
  · exact h.ends call
  next row _ hRow =>
    have hUntaken := (h.distributed _ row hRow).mono hOver
    split
    · exact h.goOn hCall (by rintro _ ⟨⟩; trivial)
    split
    · exact h.found hCall hUntaken _ _
    · exact h.goOn hCall (by rintro _ ⟨⟩; exact hUntaken)
  next entry _ hEntry =>
    have hUntaken := (h.distributed _ entry hEntry).mono hOver
    dsimp only
    split
    · exact h.ends call
    split
    · exact h.found hCall hUntaken _ _
    · exact h.goOn hCall (by rintro _ ⟨⟩; exact hUntaken)

lemma Fresh.upsert {row : DistributedEntry Value} (hCall : call < s.nextCall)
    (hUntaken : Untaken getCall.past getCall.key row.stamped)
    (hClean : Untaken s.removals getCall.key row.stamped) : Fresh (cache.upsert call getCall row s) := by
  refine Fresh.found (h.distribute ?_) hCall hUntaken _ _
  rintro _ ⟨⟩
  rw [DistributedKind.write_stamped]
  exact hClean.mono h.applied

lemma Fresh.touch {entry : DistributedEntry Value} (hCall : call < s.nextCall)
    (hUntaken : Untaken getCall.past getCall.key entry.stamped) (options : StoreOptions) (sliding : Nat) :
    Fresh (cache.touch call getCall entry options sliding s) := by
  refine Fresh.found (h.distribute fun touched hTouched => ?_) hCall hUntaken _ _
  obtain ⟨current, hCurrent, rfl⟩ := Option.map_eq_some_iff.mp hTouched
  have hSame : (current.touched s.now sliding).stamped = current.stamped := by
    unfold DistributedEntry.touched
    split <;> rfl
  rw [hSame]
  exact h.distributed _ current hCurrent

lemma Fresh.refill {options : StoreOptions} (hUntaken : Untaken getCall.past getCall.key stamped)
    (hClean : cache.CleanPending s (.refilling getCall stamped options source)) :
    Fresh (cache.refill call getCall stamped options source s) := by
  refine Fresh.give (Fresh.ends (h.store ?_) call) hUntaken (by rintro _ ⟨⟩)
  rintro _ ⟨⟩
  exact ⟨⟨hClean.2.1, hClean.2.2⟩, hClean.1⟩

/-! ## Sets and removals -/

lemma Fresh.write (hCall : call < s.nextCall) (hUnresolved : call ∉ s.resolvedSets) (value : Value)
    (options : CallOptions) : Fresh (cache.write call key value options s) := by
  refine Fresh.goOn (h.distribute ?_) hCall (by rintro _ ⟨⟩; exact hUnresolved)
  rintro _ ⟨⟩
  rw [DistributedKind.write_stamped]
  exact (h.untaken hUnresolved).mono h.applied

lemma Fresh.mirror (hCall : call < s.nextCall) (hUnresolved : call ∉ s.resolvedSets) (value : Value)
    (options : CallOptions) : Fresh (cache.mirror call key value options s) := by
  refine Fresh.settles (Fresh.ends (h.store ?_) call) (if_pos rfl) hCall
  rintro _ ⟨⟩
  exact ⟨⟨Subset.refl _, by rintro _ ⟨⟩⟩, h.untaken hUnresolved⟩

lemma Fresh.remove (target : Target) : Fresh (remove target s) := by
  have hTaken : Fresh { s with
      memory := fun key => (s.memory key).filter fun entry => !target.covers key entry.tags
      removals := ⟨target, s.resolvedSets⟩ :: s.removals } :=
    { h with
      calls := fun other pending hPending => (h.calls other pending hPending).imp_right fun hFits =>
        hFits.mono id (subset_cons_self _ _) (Subset.refl _)
      before := forall_mem_cons.mpr ⟨Subset.refl _, h.before⟩
      applied := subset_cons_of_subset _ h.applied
      memory := by
        intro key entry hEntry
        obtain ⟨hIn, hStays⟩ := Option.filter_eq_some_iff.mp hEntry
        obtain ⟨hCopied, hUntaken⟩ := h.memory key entry hIn
        refine ⟨hCopied, forall_mem_cons.mpr ⟨fun hStale => ?_, hUntaken⟩⟩
        rw [covers_mono hCopied.tags hStale.1] at hStays
        cases hStays }
  exact hTaken.start mem_cons_self

lemma Fresh.applyRemoval {removal : Removal} (hCall : call < s.nextCall) (hStarted : removal ∈ s.removals) :
    Fresh (applyRemoval call removal s) := by
  have hTaken : Fresh { s with
      distributed := fun key =>
        (s.distributed key).filter fun entry => !removal.target.covers key entry.stamped.tags
      applied := removal :: s.applied } :=
    { h with
      calls := fun other pending hPending => (h.calls other pending hPending).imp_right fun hFits =>
        hFits.mono id (Subset.refl _) (subset_cons_self _ _)
      applied := cons_subset.mpr ⟨hStarted, h.applied⟩
      resolved := subset_cons_of_subset _ h.resolved
      distributed := by
        intro key entry hEntry
        obtain ⟨hIn, hStays⟩ := Option.filter_eq_some_iff.mp hEntry
        refine forall_mem_cons.mpr ⟨fun hStale => ?_, h.distributed key entry hIn⟩
        rw [hStale.1] at hStays
        cases hStays }
  exact hTaken.goOn hCall (by rintro _ ⟨⟩; exact mem_cons_self)

/-! ## Runs -/

lemma Fresh.proceed (call : Nat) (hClean : cache.Clean s (.proceed call)) : Fresh (cache.proceed call s) := by
  unfold HybridCache.proceed
  cases hPending : s.calls call with
  | none => exact h
  | some pending =>
    obtain ⟨hCall, hFits⟩ := h.calls call pending hPending
    have hStores := hClean pending hPending
    cases pending with
    | reading => exact h.answer hCall hFits
    | upserting => exact h.upsert hCall hFits hStores
    | touching => exact h.touch hCall hFits _ _
    | dropping => exact Fresh.ends (h.distribute (by rintro _ ⟨⟩)) call
    | refilling => exact h.refill hFits hStores
    | writing => exact h.write hCall hFits _ _
    | mirroring => exact h.mirror hCall hFits _ _
    | removing => exact h.applyRemoval hCall hFits
    | removed =>
      have hResolved : Fresh { s with resolved := _ :: s.resolved } :=
        { h with resolved := cons_subset.mpr ⟨hFits, h.resolved⟩ }
      exact hResolved.ends call

lemma Fresh.step (event : HybridStep Value) (hClean : cache.Clean s event) : Fresh (cache.step s event) := by
  cases event with
  | get key options => exact h.get key options
  | set => exact h.start fun hMem => Nat.lt_irrefl _ (h.sets _ hMem)
  | remove target => exact h.remove target
  | proceed call => exact h.proceed call hClean
  | fail call => exact h.ends call
  | evict => exact h.store (by rintro _ ⟨⟩)
  | wait => exact { h with }

end Steps

/-- If gets store only what has not been removed since it was set, and in memory with its tags and no longer than the
entry it was copied from, then removed values are not served to later gets, and copies not beyond their expiry. -/
theorem coherent_of_clean (cache : HybridCache) (events : List (HybridStep Value))
    (hEvents : Admits cache.Clean cache.step initial events) : Coherent (events.foldl cache.step initial).returns :=
  (foldl_invariant (fun _ event h hClean => h.step event hClean) fresh_initial hEvents).coherent

/-! ## Runs on one key -/

section Decisions

variable (removals : List Removal) (key : Text) (stamped : Stamped Value) (returns : List (Returned Value))
  (cache : HybridCache) (s : HybridState Value)

instance (removal : Removal) : Decidable (Stale key stamped removal) := inferInstanceAs (Decidable (_ ∧ _))

instance : Decidable (Untaken removals key stamped) := inferInstanceAs (Decidable (∀ _ ∈ removals, _))

instance : Decidable (Coherent returns) :=
  decidable_of_iff ((∀ returned ∈ returns, Untaken returned.past returned.key returned.stamped) ∧
    ∀ returned ∈ returns, ∀ moment ∈ returned.source, returned.served < moment)
    ⟨fun h => ⟨h.1, h.2⟩, fun h => ⟨h.removed, h.expired⟩⟩

instance (entry : MemoryEntry Value) (moment : Nat) : Decidable (Bounded entry moment) :=
  inferInstanceAs (Decidable (_ ∧ _))

instance (pending : Pending Value) : Decidable (cache.CleanPending s pending) :=
  match pending with
  | .upserting .. => inferInstanceAs (Decidable (Untaken _ _ _))
  | .refilling .. => inferInstanceAs (Decidable (_ ∧ _ ∧ _))
  | .reading _ | .touching .. | .dropping _ | .writing .. | .mirroring .. | .removing _ | .removed _ => .isTrue trivial

instance (event : HybridStep Value) : Decidable (cache.Clean s event) :=
  match event with
  | .proceed call => inferInstanceAs (Decidable (∀ pending ∈ s.calls call, _))
  | .get .. | .set .. | .remove _ | .fail _ | .evict _ | .wait _ => .isTrue trivial

end Decisions

def overDatabase : HybridCache := ⟨none, .database none, true⟩

def overRedis : HybridCache := ⟨none, .redis 60000, true⟩

def setCall (call value : Nat) (options : CallOptions) : List (HybridStep Nat) :=
  [.set (asciiText "k") value options, .proceed call, .proceed call]

def missedGet (call rounds : Nat) : List (HybridStep Nat) :=
  .evict (asciiText "k") :: .get (asciiText "k") .none :: replicate rounds (.proceed call)

def removeCall (call : Nat) (target : Target) : List (HybridStep Nat) :=
  [.remove target, .proceed call, .proceed call]

def slidingTagged : CallOptions := ⟨some (some 1000), none, some (some 500), some (some [asciiText "x"])⟩

/-- A value with a tag is copied back to memory and invalidated. The next one is copied back, read from memory, and
expires in both tiers; and a third one is removed. -/
def invalidatedAndExpired : List (HybridStep Nat) :=
  setCall 0 1 slidingTagged ++ missedGet 1 3 ++ removeCall 2 (.tags [asciiText "x"]) ++ missedGet 3 1 ++
  setCall 4 2 slidingTagged ++ missedGet 5 3 ++ [.get (asciiText "k") .none, .wait 1000, .get (asciiText "k") .none] ++
  [.proceed 6, .proceed 6] ++ setCall 7 3 slidingTagged ++ removeCall 8 (.key (asciiText "k")) ++ missedGet 9 1

theorem coherent_of_clean_invalidated :
    let returns := (invalidatedAndExpired.foldl overDatabase.step initial).returns
    returns.map (fun returned => (returned.stamped.value, returned.past.length, returned.source)) =
      [(2, 1, some 1000), (2, 1, none), (1, 0, none)] ∧ Coherent returns :=
  ⟨by decide +kernel, coherent_of_clean overDatabase invalidatedAndExpired (by decide +kernel)⟩

def removedBetween : List (HybridStep Nat) :=
  setCall 0 1 .none ++ missedGet 1 1 ++ removeCall 2 (.key (asciiText "k")) ++ [.proceed 1, .get (asciiText "k") .none]

/-- With a sliding expiration the get writes the row back that was removed since it read it, also without memory. -/
def writtenBack : List (HybridStep Nat) :=
  setCall 0 1 slidingTagged ++ missedGet 1 1 ++ removeCall 2 (.key (asciiText "k")) ++ .proceed 1 :: missedGet 3 2

/-- A copy of a Redis entry has the tags of the get, not those of the entry. -/
def invalidatedAfter : List (HybridStep Nat) :=
  setCall 0 1 ⟨none, none, none, some (some [asciiText "x"])⟩ ++ missedGet 1 2 ++
    removeCall 2 (.tags [asciiText "x"]) ++ [.get (asciiText "k") .none]

/-- A copy of a Redis entry lives for the default time, however soon the entry expires. -/
def readAfterExpiry : List (HybridStep Nat) :=
  setCall 0 1 ⟨some (some 1000), none, none, none⟩ ++ missedGet 1 2 ++ [.wait 1500, .get (asciiText "k") .none]

theorem serves_removed_and_expired : ¬Coherent (removedBetween.foldl overDatabase.step initial).returns ∧
      ¬Coherent (writtenBack.foldl (step ⟨none, .database none, false⟩) initial).returns ∧
      ¬Coherent (invalidatedAfter.foldl overRedis.step initial).returns ∧
      ¬Coherent (readAfterExpiry.foldl overRedis.step initial).returns := by
  decide +kernel

end Sloppy.Cache.HybridCache
