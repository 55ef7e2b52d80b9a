import Sloppy.Lib.CodeUnits
import Sloppy.Lib.Run

/-! # The hybrid cache

`HybridCache` of `cache.js`: a memory tier in front of a distributed cache, a map whose operations take effect at one
moment each. A call runs from one await to the next, and other calls may run in between. A value carries the
call that set it, a removal the sets resolved before it started, and a get the removals resolved before it started.
-/

namespace Sloppy.Cache

open Lib.CodeUnits

/-! ## Options and entries -/

structure StoreOptions where
  ttlMs : Option Nat
  absoluteExpiration : Option Nat
  slidingExpirationMs : Option Nat
  tags : List Text
  deriving DecidableEq

/-- The options object of a call: a member is missing, or present and possibly undefined. -/
structure CallOptions where
  ttlMs : Option (Option Nat)
  absoluteExpiration : Option (Option Nat)
  slidingExpirationMs : Option (Option Nat)
  tags : Option (Option (List Text))
  deriving DecidableEq

def CallOptions.none : CallOptions := ⟨.none, .none, .none, .none⟩

def normalizeEntryOptions (options : CallOptions) : StoreOptions where
  ttlMs := options.ttlMs.join
  absoluteExpiration := options.absoluteExpiration.join
  slidingExpirationMs := options.slidingExpirationMs.join
  tags := options.tags.join.getD []

/-- `{ ...stored, ...options }`. -/
def spread (stored : StoreOptions) (options : CallOptions) : StoreOptions where
  ttlMs := options.ttlMs.getD stored.ttlMs
  absoluteExpiration := options.absoluteExpiration.getD stored.absoluteExpiration
  slidingExpirationMs := options.slidingExpirationMs.getD stored.slidingExpirationMs
  tags := (options.tags.getD (some stored.tags)).getD []

def StoreOptions.withDefaultTtl (options : StoreOptions) (defaultTtlMs : Option Nat) : StoreOptions :=
  { options with ttlMs := options.ttlMs.orElse fun _ => defaultTtlMs }

def expiresAtFromOptions (options : StoreOptions) (now : Nat) : Option Nat :=
  match options.ttlMs, options.absoluteExpiration with
  | none, absolute => absolute
  | some ttl, none => some (now + ttl)
  | some ttl, some absolute => some (min (now + ttl) absolute)

def refreshSlidingExpiration (now sliding : Nat) (absolute : Option Nat) : Nat :=
  match absolute with
  | none => now + sliding
  | some moment => min (now + sliding) moment

structure Stamped (Value : Type) where
  value : Value
  origin : Nat
  tags : List Text
  deriving DecidableEq

structure MemoryEntry (Value : Type) where
  stamped : Stamped Value
  tags : List Text
  expiresAt : Option Nat
  absoluteExpiration : Option Nat
  slidingExpirationMs : Option Nat
  /-- For a copy of a distributed entry that expires: when that entry expires. -/
  source : Option Nat

structure DistributedEntry (Value : Type) where
  stamped : Stamped Value
  expiresAt : Option Nat
  absoluteExpiration : Option Nat
  slidingExpirationMs : Option Nat

/-- `expiresAt !== undefined && now >= expiresAt`. -/
def isExpired (expiresAt : Option Nat) (now : Nat) : Bool := expiresAt.any fun moment => moment ≤ now

/-! ## The distributed cache -/

inductive DistributedKind where
  | database (defaultTtlMs : Option Nat)
  | redis (defaultTtlMs : Nat)

section Distributed

variable {Value : Type}

variable (kind : DistributedKind)

def DistributedKind.write (now : Nat) (stamped : Stamped Value) (options : StoreOptions) : DistributedEntry Value :=
  match kind with
  | .database defaultTtlMs =>
    { stamped
      expiresAt := expiresAtFromOptions (options.withDefaultTtl defaultTtlMs) now
      absoluteExpiration := options.absoluteExpiration
      slidingExpirationMs := options.slidingExpirationMs }
  | .redis defaultTtlMs =>
    -- The server counts from the time to live, which is at least one millisecond.
    let ends := (expiresAtFromOptions (options.withDefaultTtl (some defaultTtlMs)) now).getD (now + defaultTtlMs)
    { stamped, expiresAt := some (now + max 1 (ends - now)), absoluteExpiration := none, slidingExpirationMs := none }

lemma DistributedKind.write_stamped (now : Nat) (stamped : Stamped Value)
    (opts : StoreOptions) : (kind.write now stamped opts).stamped = stamped := by
  cases kind <;> rfl

/-- `_rowOptions`. -/
def rowOptions (row : DistributedEntry Value) : StoreOptions where
  ttlMs := none
  absoluteExpiration :=
    match row.slidingExpirationMs with
    | none => row.expiresAt
    | some _ => row.absoluteExpiration.orElse fun _ => row.expiresAt
  slidingExpirationMs := row.slidingExpirationMs
  tags := row.stamped.tags

/-- `_entryOptions` of the Redis cache, which stand for the metadata of what a get finds. -/
def redisOptions (defaultTtlMs : Nat) (options : CallOptions) : StoreOptions :=
  (normalizeEntryOptions options).withDefaultTtl (some defaultTtlMs)

/-- The touch script prolongs whatever entry is there. -/
def DistributedEntry.touched (now sliding : Nat) (entry : DistributedEntry Value) : DistributedEntry Value :=
  if isExpired entry.expiresAt now then entry else { entry with expiresAt := some (now + sliding) }

end Distributed

/-! ## Calls -/

/-- What a call of `remove` or `invalidateTags` takes away. -/
inductive Target where
  | key (key : Text)
  | tags (tags : List Text)
  deriving DecidableEq

def Target.covers (target : Target) (key : Text) (tags : List Text) : Bool :=
  match target with
  | .key removed => key = removed
  | .tags invalidated => tags.any fun tag => invalidated.contains tag

structure Removal where
  target : Target
  /-- The sets that had been resolved when the removal started. -/
  before : List Nat
  deriving DecidableEq

structure GetCall where
  key : Text
  options : CallOptions
  /-- The removals that had been resolved when the get started. -/
  past : List Removal

inductive Pending (Value : Type) where
  | reading (get : GetCall)
  | upserting (get : GetCall) (row : DistributedEntry Value)
  | touching (get : GetCall) (entry : DistributedEntry Value) (options : StoreOptions) (sliding : Nat)
  | dropping (key : Text)
  | refilling (get : GetCall) (stamped : Stamped Value) (options : StoreOptions) (source : Option Nat)
  | writing (key : Text) (value : Value) (options : CallOptions)
  | mirroring (key : Text) (value : Value) (options : CallOptions)
  | removing (removal : Removal)
  | removed (removal : Removal)

structure Returned (Value : Type) where
  key : Text
  past : List Removal
  stamped : Stamped Value
  /-- The time, and for a copy served from memory the expiry of the entry it was copied from. -/
  served : Nat
  source : Option Nat
  deriving DecidableEq

structure HybridState (Value : Type) where
  now : Nat
  nextCall : Nat
  memory : Text → Option (MemoryEntry Value)
  distributed : Text → Option (DistributedEntry Value)
  calls : Nat → Option (Pending Value)
  resolvedSets : List Nat
  /-- The removals that have started, that have taken effect, and that have been resolved. -/
  removals : List Removal
  applied : List Removal
  resolved : List Removal
  returns : List (Returned Value)

inductive HybridStep (Value : Type) where
  | get (key : Text) (options : CallOptions)
  | set (key : Text) (value : Value) (options : CallOptions)
  | remove (target : Target)
  | proceed (call : Nat)
  | fail (call : Nat)
  | evict (key : Text)
  | wait (ms : Nat)

structure HybridCache where
  memoryTtlMs : Option Nat
  distributed : DistributedKind
  populateMemoryOnDistributedHit : Bool

def assign {α β : Type} [DecidableEq α] (map : α → β) (key : α) (value : β) : α → β :=
  fun other => if other = key then value else map other

namespace HybridCache

variable {Value : Type} (cache : HybridCache)

def initial : HybridState Value where
  now := 0
  nextCall := 0
  memory _ := none
  distributed _ := none
  calls _ := none
  resolvedSets := []
  removals := []
  applied := []
  resolved := []
  returns := []

def memoryEntry (now : Nat) (stamped : Stamped Value) (options : StoreOptions) (source : Option Nat) :
    MemoryEntry Value :=
  let options := options.withDefaultTtl cache.memoryTtlMs
  { stamped
    tags := options.tags
    expiresAt := expiresAtFromOptions options now
    absoluteExpiration := options.absoluteExpiration
    slidingExpirationMs := options.slidingExpirationMs
    source }

def accessed (now : Nat) (entry : MemoryEntry Value) : MemoryEntry Value :=
  match entry.slidingExpirationMs with
  | none => entry
  | some sliding =>
    { entry with expiresAt := some (refreshSlidingExpiration now sliding entry.absoluteExpiration) }

def start (pending : Pending Value) (state : HybridState Value) : HybridState Value :=
  { state with nextCall := state.nextCall + 1, calls := assign state.calls state.nextCall (some pending) }

def goOn (call : Nat) (pending : Option (Pending Value)) (state : HybridState Value) : HybridState Value :=
  { state with calls := assign state.calls call pending }

def store (key : Text) (entry : Option (MemoryEntry Value)) (state : HybridState Value) : HybridState Value :=
  { state with memory := assign state.memory key entry }

def distribute (key : Text) (entry : Option (DistributedEntry Value)) (state : HybridState Value) : HybridState Value :=
  { state with distributed := assign state.distributed key entry }

def give (get : GetCall) (stamped : Stamped Value) (source : Option Nat) (state : HybridState Value) :
    HybridState Value :=
  { state with returns := ⟨get.key, get.past, stamped, state.now, source⟩ :: state.returns }

def get (key : Text) (options : CallOptions) (state : HybridState Value) : HybridState Value :=
  let call : GetCall := ⟨key, options, state.resolved⟩
  match state.memory key with
  | none => start (.reading call) state
  | some entry =>
    if isExpired entry.expiresAt state.now then start (.reading call) (store key none state)
    else give call entry.stamped entry.source (store key (some (accessed state.now entry)) state)

/-- What a get does with the value and the metadata that the distributed cache gave it. -/
def found (call : Nat) (get : GetCall) (stamped : Stamped Value) (stored : StoreOptions) (source : Option Nat)
    (state : HybridState Value) : HybridState Value :=
  if cache.populateMemoryOnDistributedHit then
    goOn call (some (.refilling get stamped (spread stored get.options) source)) state
  else give get stamped none (goOn call none state)

/-- `_getWithMetadata` until it has read the entry. A row that has expired is removed next, and a sliding expiration
is prolonged next: of a row by writing it again as it was read, of a Redis entry by the touch script. -/
def answer (call : Nat) (get : GetCall) (state : HybridState Value) : HybridState Value :=
  match cache.distributed, state.distributed get.key with
  | _, none => goOn call none state
  | .database _, some row =>
    if isExpired row.expiresAt state.now then goOn call (some (.dropping get.key)) state
    else if row.slidingExpirationMs = none then
      cache.found call get row.stamped (rowOptions row) row.expiresAt state
    else goOn call (some (.upserting get row)) state
  | .redis defaultTtlMs, some entry =>
    let options := redisOptions defaultTtlMs get.options
    if isExpired entry.expiresAt state.now then goOn call none state
    else
      match options.slidingExpirationMs with
      | none => cache.found call get entry.stamped options entry.expiresAt state
      | some sliding => goOn call (some (.touching get entry options sliding)) state

def upsert (call : Nat) (get : GetCall) (row : DistributedEntry Value) (state : HybridState Value) :
    HybridState Value :=
  let written := cache.distributed.write state.now row.stamped (rowOptions row)
  cache.found call get row.stamped (rowOptions row) written.expiresAt (distribute get.key (some written) state)

/-- The entry that was read may have been replaced or removed since; then it keeps the expiry it had. -/
def touch (call : Nat) (get : GetCall) (entry : DistributedEntry Value) (options : StoreOptions) (sliding : Nat)
    (state : HybridState Value) : HybridState Value :=
  let touched := (state.distributed get.key).map (·.touched state.now sliding)
  let source := (touched.filter (·.stamped.origin = entry.stamped.origin)).elim entry.expiresAt (·.expiresAt)
  cache.found call get entry.stamped options source (distribute get.key touched state)

def refill (call : Nat) (get : GetCall) (stamped : Stamped Value) (options : StoreOptions) (source : Option Nat)
    (state : HybridState Value) : HybridState Value :=
  give get stamped none
    (goOn call none (store get.key (some (cache.memoryEntry state.now stamped options source)) state))

def write (call : Nat) (key : Text) (value : Value) (options : CallOptions) (state : HybridState Value) :
    HybridState Value :=
  let stored := normalizeEntryOptions options
  goOn call (some (.mirroring key value options))
    (distribute key (some (cache.distributed.write state.now ⟨value, call, stored.tags⟩ stored)) state)

def mirror (call : Nat) (key : Text) (value : Value) (options : CallOptions) (state : HybridState Value) :
    HybridState Value :=
  let stored := normalizeEntryOptions options
  let mirrored := store key (some (cache.memoryEntry state.now ⟨value, call, stored.tags⟩ stored none)) state
  { goOn call none mirrored with resolvedSets := call :: state.resolvedSets }

/-- `remove` and `invalidateTags` take from memory at once, and wait for the distributed cache. -/
def remove (target : Target) (state : HybridState Value) : HybridState Value :=
  let removal : Removal := ⟨target, state.resolvedSets⟩
  start (.removing removal)
    { state with
      memory := fun key => (state.memory key).filter fun entry => !target.covers key entry.tags
      removals := removal :: state.removals }

def applyRemoval (call : Nat) (removal : Removal) (state : HybridState Value) : HybridState Value :=
  goOn call (some (.removed removal))
    { state with
      distributed := fun key =>
        (state.distributed key).filter fun entry => !removal.target.covers key entry.stamped.tags
      applied := removal :: state.applied }

def proceed (call : Nat) (state : HybridState Value) : HybridState Value :=
  match state.calls call with
  | none => state
  | some (.reading get) => cache.answer call get state
  | some (.upserting get row) => cache.upsert call get row state
  | some (.touching get entry options sliding) => cache.touch call get entry options sliding state
  | some (.dropping key) => goOn call none (distribute key none state)
  | some (.refilling get stamped options source) => cache.refill call get stamped options source state
  | some (.writing key value options) => cache.write call key value options state
  | some (.mirroring key value options) => cache.mirror call key value options state
  | some (.removing removal) => applyRemoval call removal state
  | some (.removed removal) => goOn call none { state with resolved := removal :: state.resolved }

variable (state : HybridState Value)

def step : HybridStep Value → HybridState Value
  | .get key options => get key options state
  | .set key value options => start (.writing key value options) state
  | .remove target => remove target state
  | .proceed call => cache.proceed call state
  | .fail call => goOn call none state
  | .evict key => store key none state
  | .wait ms => { state with now := state.now + ms }

/-! ## Coherence -/

/-- The removal takes the value, whose set had been resolved when it started. -/
def Stale (key : Text) (stamped : Stamped Value) (removal : Removal) : Prop :=
  removal.target.covers key stamped.tags ∧ stamped.origin ∈ removal.before

def Untaken (removals : List Removal) (key : Text) (stamped : Stamped Value) : Prop :=
  ∀ removal ∈ removals, ¬Stale key stamped removal

/-- A get that started after a removal was resolved has not returned what that removal took, and nothing was
served from memory after the entry it was copied from had expired. -/
structure Coherent (returns : List (Returned Value)) : Prop where
  removed : ∀ returned ∈ returns, Untaken returned.past returned.key returned.stamped
  expired : ∀ returned ∈ returns, ∀ moment ∈ returned.source, returned.served < moment

/-- The entry never outlives the given moment, however often it is read. -/
def Bounded (entry : MemoryEntry Value) (moment : Nat) : Prop :=
  (∃ expires ∈ entry.expiresAt, expires ≤ moment) ∧
    ∀ sliding ∈ entry.slidingExpirationMs, 0 < sliding → ∃ absolute ∈ entry.absoluteExpiration, absolute ≤ moment

/-- What a get is about to store has not been removed since it was set. In memory it also keeps its tags, and is stored
to expire no later than the entry it was copied from. -/
def CleanPending : Pending Value → Prop
  | .upserting get row => Untaken state.removals get.key row.stamped
  | .refilling get stamped options source =>
    Untaken state.removals get.key stamped ∧ stamped.tags ⊆ options.tags ∧
      ∀ moment ∈ source, Bounded (cache.memoryEntry state.now stamped options source) moment
  | _ => True

def Clean : HybridStep Value → Prop
  | .proceed call => ∀ pending ∈ state.calls call, cache.CleanPending state pending
  | _ => True

end HybridCache

end Sloppy.Cache
