import Mathlib.Data.Rat.Floor
import Sloppy.Lib.Places
import Sloppy.Lib.Run
import Sloppy.Lib.Spending

/-! # The memory store of the rate limiter

The store of `rate-limit.js`: a map from keys to entry objects and one check per algorithm. A release closure keeps a
reference to the entry of its grant, so entries live in a heap and the map holds their places. Numbers are rationals;
what a result is rounded to is a parameter.
-/

namespace Sloppy.RateLimit

open Lib

def maxSafeInteger : Nat := 9007199254740991

structure WindowPolicy where
  limit : Nat
  windowMs : Nat
  limitPositive : 0 < limit
  windowPositive : 0 < windowMs

structure BucketPolicy where
  capacity : ℚ
  refillPerSecond : ℚ
  capacityPositive : 0 < capacity
  refillPositive : 0 < refillPerSecond

structure ConcurrencyPolicy where
  limit : Nat
  limitPositive : 0 < limit
  limitSafe : limit ≤ maxSafeInteger

inductive Policy where
  | fixedWindow (policy : WindowPolicy)
  | slidingWindow (policy : WindowPolicy)
  | tokenBucket (policy : BucketPolicy)
  | concurrency (policy : ConcurrencyPolicy)

structure Cost where
  value : ℚ
  positive : 0 < value

structure StoreConfig where
  maxKeys : Nat
  cleanupIntervalMs : Nat
  rejectOnMaxKeys : Bool
  maxKeysPositive : 0 < maxKeys

/-- An entry object. It is created with the fields of one algorithm, and the others are not read. -/
structure Entry where
  count : ℚ := 0
  resetAt : ℚ := 0
  hits : List (Hit ℚ ℚ) := []
  tokens : ℚ := 0
  updatedAt : ℚ := 0
  active : ℚ := 0
  expiresAt : Option ℚ

/-- A release closure: the entry it refers to, its key and cost, and whether it has been called. -/
structure Grant (Key : Type) where
  key : Key
  entry : Nat
  cost : ℚ
  released : Bool

structure Store (Key : Type) where
  config : StoreConfig
  heap : List Entry
  entries : List (Key × Nat)
  lastCleanup : ℚ
  evictions : Nat
  rejectedKeys : Nat
  grants : List (Grant Key)

structure CheckResult where
  allowed : Bool
  limit : ℚ
  remaining : ℚ
  resetAtMs : ℚ
  retryAfterMs : ℚ
  release : Option Nat := none

inductive Outcome where
  | checked (result : CheckResult)
  | storeFull
  | released

section Entries

variable {Key : Type} [DecidableEq Key]

def Store.init (config : StoreConfig) : Store Key where
  config := config
  heap := []
  entries := []
  lastCleanup := 0
  evictions := 0
  rejectedKeys := 0
  grants := []

def entryExpired (entry : Entry) (current : ℚ) : Bool :=
  entry.expiresAt.any fun expiresAt => decide (expiresAt ≤ current)

def Store.isExpired (store : Store Key) (current : ℚ) (place : Nat) : Bool :=
  store.heap[place]?.any fun entry => entryExpired entry current

def Store.lookup (store : Store Key) (key : Key) : Option Nat := store.entries.lookup key

def Store.isFull (store : Store Key) : Bool := decide (store.config.maxKeys ≤ store.entries.length)

def Store.sweep (store : Store Key) (current : ℚ) : Store Key :=
  { store with
    entries := store.entries.filter fun item => !store.isExpired current item.2
    evictions := store.evictions + (store.entries.filter fun item => store.isExpired current item.2).length
    lastCleanup := current }

variable (round : ℚ → ℚ)

def cleanup (store : Store Key) (current : ℚ) (force : Bool) : Store Key :=
  if !force && decide (round (current - store.lastCleanup) < store.config.cleanupIntervalMs) then store
  else store.sweep current

def Store.evictOldest (store : Store Key) : Store Key :=
  { store with
    entries := store.entries.tail
    evictions := store.evictions + (store.entries.take 1).length }

def Store.insert (store : Store Key) (key : Key) (entry : Entry) : Store Key :=
  { store with
    heap := store.heap ++ [entry]
    entries := store.entries ++ [(key, store.heap.length)] }

def makeRoom (store : Store Key) (current : ℚ) : Store Key :=
  if store.isFull then cleanup round store current true else store

/-- The place of the entry of a key, created if there is none; nothing if the store is full. -/
def ensureKey (store : Store Key) (key : Key) (created : Entry) (current : ℚ) : Store Key × Option Nat :=
  let store := cleanup round store current false
  match store.lookup key with
  | some place => (store, some place)
  | none =>
    let store := makeRoom round store current
    if store.isFull then
      if store.config.rejectOnMaxKeys then ({ store with rejectedKeys := store.rejectedKeys + 1 }, none)
      else (store.evictOldest.insert key created, some store.heap.length)
    else (store.insert key created, some store.heap.length)

def Store.setEntry (store : Store Key) (place : Nat) (entry : Entry) : Store Key :=
  { store with heap := store.heap.set place entry }

def checkEntry (store : Store Key) (key : Key) (created : Entry) (use : Entry → Entry × CheckResult) (current : ℚ) :
    Store Key × Outcome :=
  match ensureKey round store key created current with
  | (store, none) => (store, .storeFull)
  | (store, some place) =>
    let used := use (store.heap.getD place created)
    (store.setEntry place used.1, .checked used.2)

end Entries

section Algorithms

variable (round : ℚ → ℚ)

def newFixedWindow (policy : WindowPolicy) (current : ℚ) : Entry :=
  { resetAt := round (current + policy.windowMs), expiresAt := some (round (current + policy.windowMs)) }

def useFixedWindow (policy : WindowPolicy) (cost current : ℚ) (entry : Entry) : Entry × CheckResult :=
  let entry :=
    if entry.resetAt ≤ current then
      { entry with
        count := 0
        resetAt := round (current + policy.windowMs)
        expiresAt := some (round (current + policy.windowMs)) }
    else entry
  let allowed := decide (round (entry.count + cost) ≤ policy.limit)
  let entry := if allowed then { entry with count := round (entry.count + cost) } else entry
  (entry,
    { allowed := allowed
      limit := policy.limit
      remaining := max 0 (round (policy.limit - entry.count))
      resetAtMs := entry.resetAt
      retryAfterMs := if allowed then 0 else max 1 (round (entry.resetAt - current)) })

def newSlidingWindow (policy : WindowPolicy) (current : ℚ) : Entry :=
  { expiresAt := some (round (current + policy.windowMs)) }

def useSlidingWindow (policy : WindowPolicy) (cost current : ℚ) (entry : Entry) : Entry × CheckResult :=
  let cutoff := round (current - policy.windowMs)
  let hits := entry.hits.filter fun hit => decide (cutoff < hit.moment)
  let used := hits.foldl (fun sum hit => round (sum + hit.cost)) 0
  let allowed := decide (round (used + cost) ≤ policy.limit)
  let hits := if allowed then hits ++ [⟨current, cost⟩] else hits
  let nextUsed := if allowed then round (used + cost) else used
  let oldest := (hits.head?.map Hit.moment).getD current
  ({ entry with hits := hits, expiresAt := some (round (current + policy.windowMs)) },
    { allowed := allowed
      limit := policy.limit
      remaining := max 0 (round (policy.limit - nextUsed))
      resetAtMs := round (oldest + policy.windowMs)
      retryAfterMs := if allowed then 0 else max 1 (round (round (oldest + policy.windowMs) - current)) })

/-- Twice the time a bucket takes to fill. -/
def bucketLifetime (policy : BucketPolicy) : ℚ :=
  round (⌈round (round (policy.capacity / policy.refillPerSecond) * 1000)⌉ * 2)

def newTokenBucket (policy : BucketPolicy) (current : ℚ) : Entry :=
  { tokens := policy.capacity
    updatedAt := current
    expiresAt := some (round (current + bucketLifetime round policy)) }

def refilled (policy : BucketPolicy) (current : ℚ) (entry : Entry) : ℚ :=
  min policy.capacity
    (round (entry.tokens +
      round (max 0 (round (round (current - entry.updatedAt) / 1000)) * policy.refillPerSecond)))

def useTokenBucket (policy : BucketPolicy) (cost current : ℚ) (entry : Entry) : Entry × CheckResult :=
  let full := refilled round policy current entry
  let allowed := decide (cost ≤ full)
  let tokens := if allowed then round (full - cost) else full
  let missing := max 0 (round (cost - tokens))
  let retryAfterMs : ℚ := if allowed then 0 else ⌈round (round (missing / policy.refillPerSecond) * 1000)⌉
  ({ entry with
      tokens := tokens
      updatedAt := current
      expiresAt := some (round (current + bucketLifetime round policy)) },
    { allowed := allowed
      limit := policy.capacity
      remaining := max 0 ⌊tokens⌋
      resetAtMs := round (current + retryAfterMs)
      retryAfterMs := retryAfterMs })

def newConcurrency (current : ℚ) : Entry := { expiresAt := some (round (current + 60000)) }

/-- The place is that of the release closure a grant returns. -/
def useConcurrency (policy : ConcurrencyPolicy) (cost current : ℚ) (place : Nat) (entry : Entry) :
    Entry × CheckResult :=
  if round (entry.active + cost) ≤ policy.limit then
    ({ entry with active := round (entry.active + cost), expiresAt := none },
      { allowed := true
        limit := policy.limit
        remaining := max 0 (round (policy.limit - round (entry.active + cost)))
        resetAtMs := current
        retryAfterMs := 0
        release := some place })
  else
    (entry,
      { allowed := false
        limit := policy.limit
        remaining := max 0 (round (policy.limit - entry.active))
        resetAtMs := round (current + 1000)
        retryAfterMs := 1000 })

variable {Key : Type} [DecidableEq Key]

def checkFixedWindow (store : Store Key) (key : Key) (policy : WindowPolicy) (cost current : ℚ) : Store Key × Outcome :=
  checkEntry round store key (newFixedWindow round policy current) (useFixedWindow round policy cost current) current

def checkSlidingWindow (store : Store Key) (key : Key) (policy : WindowPolicy) (cost current : ℚ) :
    Store Key × Outcome :=
  checkEntry round store key (newSlidingWindow round policy current)
    (useSlidingWindow round policy cost current) current

def checkTokenBucket (store : Store Key) (key : Key) (policy : BucketPolicy) (cost current : ℚ) : Store Key × Outcome :=
  checkEntry round store key (newTokenBucket round policy current) (useTokenBucket round policy cost current) current

/-- A grant adds the closure that gives its cost back to this very entry. -/
def checkConcurrency (store : Store Key) (key : Key) (policy : ConcurrencyPolicy) (cost current : ℚ) :
    Store Key × Outcome :=
  match ensureKey round store key (newConcurrency round current) current with
  | (store, none) => (store, .storeFull)
  | (store, some place) =>
    let used := useConcurrency round policy cost current store.grants.length
      (store.heap.getD place (newConcurrency round current))
    let store := store.setEntry place used.1
    (if used.2.allowed then { store with grants := store.grants ++ [⟨key, place, cost, false⟩] } else store,
      .checked used.2)

def check (store : Store Key) (key : Key) (policy : Policy) (cost current : ℚ) : Store Key × Outcome :=
  match policy with
  | .fixedWindow policy => checkFixedWindow round store key policy cost current
  | .slidingWindow policy => checkSlidingWindow round store key policy cost current
  | .tokenBucket policy => checkTokenBucket round store key policy cost current
  | .concurrency policy => checkConcurrency round store key policy cost current

def Store.delete (store : Store Key) (key : Key) : Store Key :=
  { store with entries := store.entries.filter fun item => !decide (item.1 = key) }

def Entry.giveBack (entry : Entry) (cost : ℚ) : Entry := { entry with active := max 0 (round (entry.active - cost)) }

/-- A release closure works once; it deletes whatever entry its key has then, if its own is not in use. -/
def release (store : Store Key) (place : Nat) : Store Key :=
  match store.grants[place]? with
  | none => store
  | some grant =>
    if grant.released then store
    else
      match store.heap[grant.entry]? with
      | none => store
      | some entry =>
        let store :=
          { store with
            grants := store.grants.set place { grant with released := true }
            heap := store.heap.set grant.entry (entry.giveBack round grant.cost) }
        if (entry.giveBack round grant.cost).active = 0 then store.delete grant.key else store

inductive StoreCall (Key : Type) where
  | check (key : Key) (cost : Cost) (now : ℚ)
  | release (grant : Nat)

variable (policyOf : Key → Policy)

def storeStep (store : Store Key) : StoreCall Key → Store Key × Outcome
  | .check key cost now => check round store key (policyOf key) cost.value now
  | .release grant => (release round store grant, .released)

end Algorithms

end Sloppy.RateLimit
