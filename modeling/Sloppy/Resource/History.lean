import Sloppy.Core.Status
import Sloppy.Lib.Places
import Sloppy.Lib.Run

/-! # The native resource table

The table of `resource.c`, whose slots advance their generation when their resource is closed, and its histories. A
history reads as a partial map from identifiers to resources; `Represents` ties slots, generations and cleanup
calls to it.
-/

namespace Sloppy.Resource

open Lib List

section

universe u

inductive ResourceKind where
  | none | sqliteConnection | sqliteStatement | postgresConnection | sqlserverConnection | postgresCursor
  | sqlserverCursor | testResource | fsFileHandle | fsLock | fsWatch | tcpConnection | tcpListener | localConnection
  | localServer | osProcess | backgroundService | workQueue | workerPool | jsWorker
  | outOfRange (value : Nat)
  deriving DecidableEq

def resourceKindIsValid : ResourceKind → Bool
  | .none | .outOfRange _ => false
  | _ => true

def resourceKindName : ResourceKind → String
  | .none => "none"
  | .sqliteConnection => "sqlite.connection"
  | .sqliteStatement => "sqlite.statement"
  | .postgresConnection => "postgres.connection"
  | .sqlserverConnection => "sqlserver.connection"
  | .postgresCursor => "postgres.cursor"
  | .sqlserverCursor => "sqlserver.cursor"
  | .testResource => "test.resource"
  | .fsFileHandle => "fs.file_handle"
  | .fsLock => "fs.lock"
  | .fsWatch => "fs.watch"
  | .tcpConnection => "tcp.connection"
  | .tcpListener => "tcp.listener"
  | .localConnection => "local.connection"
  | .localServer => "local.server"
  | .osProcess => "os.process"
  | .backgroundService => "workers.background_service"
  | .workQueue => "workers.queue"
  | .workerPool => "workers.pool"
  | .jsWorker => "workers.js_worker"
  | .outOfRange _ => "unknown"

structure ResourceId where
  slot : Nat
  generation : Nat
  deriving DecidableEq

def resourceIdIsValid (id : ResourceId) : Bool := id.slot != 0 && id.generation != 0

inductive DiagCode where
  | resourceInvalidId | resourceStaleId | resourceClosed | resourceWrongKind | resourceTableExhausted
  deriving DecidableEq

/-- The deterministic diagnostic of a failed operation; its hints are the operation and the names
of the expected and the actual kind. -/
structure Diag where
  code : DiagCode
  message : String
  hints : List String
  deriving DecidableEq

def resourceDiag (code : DiagCode) (message : String) (expected actual : ResourceKind) (operation : String) : Diag :=
  ⟨code, message, [operation, resourceKindName expected, resourceKindName actual]⟩

structure Failure where
  status : StatusCode
  diag : Option Diag
  deriving DecidableEq

/-- `P`, `F` and `U` stand for native pointers, cleanup functions and cleanup users. -/
structure ResourceEntry (P F U : Type u) where
  ptr : Option P
  kind : ResourceKind
  cleanup : Option F
  cleanupUser : Option U
  generation : Nat
  occupied : Bool

/-- The table after a successful init: `initialized` stays set, so no operation below can see it
unset, and a disposed table is one without entries. -/
structure ResourceTable (P F U : Type u) where
  entries : List (ResourceEntry P F U)

structure CleanupCall (P F U : Type u) where
  id : ResourceId
  cleanup : F
  ptr : P
  user : Option U

section Operations

variable {P F U : Type u}

def resourceNextGeneration (current : Nat) : Except StatusCode Nat :=
  if current = 0 then .error .invalidArgument
  else if current = uint32Max then .error .overflow
  else .ok (current + 1)

def resourceClearEntry (entry : ResourceEntry P F U) : ResourceEntry P F U :=
  { entry with ptr := none, kind := .none, cleanup := none, cleanupUser := none, occupied := false }

def freshEntry : ResourceEntry P F U := ⟨none, .none, none, none, 1, false⟩

def resourceTableInit (capacity : Nat) : Except StatusCode (ResourceTable P F U) :=
  if uint32Max < capacity then .error .overflow
  else .ok ⟨List.replicate capacity freshEntry⟩

variable (table : ResourceTable P F U)

def resourceEntryForId (id : ResourceId) (operation : String) : Except Failure (ResourceEntry P F U) :=
  if !resourceIdIsValid id then
    .error ⟨.invalidArgument, some (resourceDiag .resourceInvalidId "resource id is invalid" .none .none operation)⟩
  else
    match table.entries[id.slot - 1]? with
    | none => .error ⟨.outOfRange, some (resourceDiag .resourceInvalidId
        "resource slot does not exist" .none .none operation)⟩
    | some entry => .ok entry

def cleanupCalls (id : ResourceId) (entry : ResourceEntry P F U) : List (CleanupCall P F U) :=
  match entry.cleanup, entry.ptr with
  | some cleanup, some ptr => [⟨id, cleanup, ptr, entry.cleanupUser⟩]
  | _, _ => []

/-- The generation a free slot hands out; an unset one is first raised to 1. -/
def issuedGeneration (entry : ResourceEntry P F U) : Nat :=
  if entry.generation = 0 then 1 else entry.generation

/-- The first free slot at or after `index` takes the resource. -/
def insertLoop (kind : ResourceKind) (ptr : P) (cleanup : Option F) (user : Option U) :
    Nat → List (ResourceEntry P F U) → Except Failure (ResourceId × List (ResourceEntry P F U))
  | _, [] => .error ⟨.capacityExceeded, some (resourceDiag .resourceTableExhausted
      "resource table is exhausted" kind .none "insert")⟩
  | index, entry :: rest =>
    if entry.occupied then
      match insertLoop kind ptr cleanup user (index + 1) rest with
      | .error e => .error e
      | .ok (id, rest') => .ok (id, entry :: rest')
    else if uint32Max < index + 1 then .error ⟨.overflow, none⟩
    else .ok (⟨index + 1, issuedGeneration entry⟩,
      ⟨some ptr, kind, cleanup, user, issuedGeneration entry, true⟩ :: rest)

def resourceTableInsert (kind : ResourceKind) (ptr : Option P)
    (cleanup : Option F) (user : Option U) : Except Failure (ResourceId × ResourceTable P F U) :=
  match ptr with
  | none => .error ⟨.invalidArgument, none⟩
  | some ptr =>
    if !resourceKindIsValid kind then .error ⟨.invalidArgument, none⟩
    else
      match insertLoop kind ptr cleanup user 0 table.entries with
      | .error e => .error e
      | .ok (id, entries) => .ok (id, ⟨entries⟩)

/-- The checks shared by lookup and close: generation, liveness, then kind. `reported` is the
expected kind named by the stale and closed diagnostics, `closed` the message of the latter. -/
def checkEntry (entry : ResourceEntry P F U) (id : ResourceId) (expected reported : ResourceKind)
    (operation closed : String) : Except Failure P :=
  if entry.generation ≠ id.generation then
    .error ⟨.staleResource, some (resourceDiag .resourceStaleId "resource id is stale" reported entry.kind operation)⟩
  else
    match entry.occupied, entry.ptr with
    | true, some ptr =>
      if entry.kind ≠ expected then
        .error ⟨.wrongResourceKind, some (resourceDiag .resourceWrongKind
          "resource kind does not match" expected entry.kind operation)⟩
      else .ok ptr
    | _, _ => .error ⟨.invalidState, some (resourceDiag .resourceClosed closed reported entry.kind operation)⟩

def resourceTableGet (id : ResourceId) (expected : ResourceKind) : Except Failure P :=
  if !resourceKindIsValid expected then .error ⟨.invalidArgument, none⟩
  else
    match resourceEntryForId table id "lookup" with
    | .error e => .error e
    | .ok entry => checkEntry entry id expected expected "lookup" "resource is closed"

def resourceTableCloseKind (id : ResourceId) (expected : ResourceKind) :
    Except Failure (ResourceTable P F U × List (CleanupCall P F U)) :=
  if !resourceKindIsValid expected then .error ⟨.invalidArgument, none⟩
  else
    match resourceEntryForId table id "close" with
    | .error e => .error e
    | .ok entry =>
      match checkEntry entry id expected .none "close" "resource is already closed" with
      | .error e => .error e
      | .ok _ =>
        match resourceNextGeneration entry.generation with
        | .error status => .error ⟨status, none⟩
        | .ok next =>
          .ok (⟨table.entries.set (id.slot - 1)
            { resourceClearEntry entry with generation := next }⟩, cleanupCalls id entry)

def resourceTableClose (id : ResourceId) : Except Failure (ResourceTable P F U × List (CleanupCall P F U)) :=
  match resourceEntryForId table id "close" with
  | .error e => .error e
  | .ok entry =>
    if !resourceKindIsValid entry.kind then resourceTableCloseKind table id .testResource
    else resourceTableCloseKind table id entry.kind

/-- The cleanup calls of a dispose, in ascending slot order. -/
def disposeLoop : Nat → List (ResourceEntry P F U) → List (CleanupCall P F U)
  | _, [] => []
  | index, entry :: rest =>
    (if entry.occupied then cleanupCalls ⟨index + 1, entry.generation⟩ entry else []) ++ disposeLoop (index + 1) rest

def resourceTableDispose : ResourceTable P F U × List (CleanupCall P F U) :=
  (⟨[]⟩, disposeLoop 0 table.entries)

end Operations

inductive Op (P F U : Type u) where
  | insert (kind : ResourceKind) (ptr : Option P) (cleanup : Option F) (user : Option U)
  | get (id : ResourceId) (kind : ResourceKind)
  | close (id : ResourceId)
  | closeKind (id : ResourceId) (kind : ResourceKind)
  | dispose

inductive Outcome (P : Type u) where
  | inserted (id : ResourceId)
  | found (ptr : P)
  | closed
  | disposed
  | failed (failure : Failure)

structure HeldResource (P F U : Type u) where
  kind : ResourceKind
  ptr : P
  cleanup : Option F
  user : Option U

section Runs

variable {P F U : Type u}

abbrev Answer (P F U : Type u) := Outcome P × List (CleanupCall P F U)

abbrev Event (P F U : Type u) := Op P F U × Answer P F U

def closeAnswer (table : ResourceTable P F U)
    (result : Except Failure (ResourceTable P F U × List (CleanupCall P F U))) :
    ResourceTable P F U × Answer P F U :=
  match result with
  | .error e => (table, .failed e, [])
  | .ok (table', calls) => (table', .closed, calls)

def step (table : ResourceTable P F U) : Op P F U → ResourceTable P F U × Answer P F U
  | .insert kind ptr cleanup user =>
    match resourceTableInsert table kind ptr cleanup user with
    | .error e => (table, .failed e, [])
    | .ok (id, table') => (table', .inserted id, [])
  | .get id kind =>
    match resourceTableGet table id kind with
    | .error e => (table, .failed e, [])
    | .ok ptr => (table, .found ptr, [])
  | .close id => closeAnswer table (resourceTableClose table id)
  | .closeKind id kind => closeAnswer table (resourceTableCloseKind table id kind)
  | .dispose => ((resourceTableDispose table).1, .disposed, (resourceTableDispose table).2)

def insertedBy : Event P F U → Option (ResourceId × HeldResource P F U)
  | (.insert kind (some ptr) cleanup user, .inserted id, _) => some (id, ⟨kind, ptr, cleanup, user⟩)
  | _ => none

def insertedIn (events : List (Event P F U)) : List (ResourceId × HeldResource P F U) :=
  events.filterMap insertedBy

/-- The resource an identifier names after a history: the one inserted under it, unless the
identifier has been closed or the table disposed since. -/
def liveIn : List (Event P F U) → ResourceId → Option (HeldResource P F U)
  | [], _ => none
  | (.insert kind (some ptr) cleanup user, .inserted id', _) :: earlier, id =>
    if id = id' then some ⟨kind, ptr, cleanup, user⟩ else liveIn earlier id
  | (.close id', .closed, _) :: earlier, id => if id = id' then none else liveIn earlier id
  | (.closeKind id' _, .closed, _) :: earlier, id => if id = id' then none else liveIn earlier id
  | (.dispose, _, _) :: _, _ => none
  | _ :: earlier, id => liveIn earlier id

def callsIn (events : List (Event P F U)) : List (CleanupCall P F U) :=
  events.flatMap (fun event => event.2.2)

def callsFor (id : ResourceId) (resource : HeldResource P F U) : List (CleanupCall P F U) :=
  match resource.cleanup with
  | some cleanup => [⟨id, cleanup, resource.ptr, resource.user⟩]
  | none => []

/-- The resource a slot of the table holds under an identifier. -/
def entryResource (id : ResourceId) (entry : ResourceEntry P F U) : Option (HeldResource P F U) :=
  if entry.generation = id.generation ∧ entry.occupied then
    entry.ptr.map fun ptr => ⟨entry.kind, ptr, entry.cleanup, entry.cleanupUser⟩
  else none

def lookup (table : ResourceTable P F U) (id : ResourceId) : Option (HeldResource P F U) :=
  if id.slot = 0 then none else table.entries[id.slot - 1]?.bind (entryResource id)

end Runs

end

universe u

variable {P F U : Type u}

section Steps

variable {id : ResourceId} {kind : ResourceKind} {ptr : P} {cleanup : Option F} {user : Option U}

lemma insertLoop_ok {index : Nat} {entries entries' : List (ResourceEntry P F U)}
    (h : insertLoop kind ptr cleanup user index entries = .ok (id, entries')) :
    ∃ k entry, id.slot = index + k + 1 ∧ entries[k]? = some entry ∧ entry.occupied = false ∧
      id.generation = issuedGeneration entry ∧
      entries' = entries.set k ⟨some ptr, kind, cleanup, user, id.generation, true⟩ := by
  induction entries generalizing index entries' with
  | nil => cases h
  | cons entry rest ih =>
    rw [insertLoop] at h
    split at h
    · split at h
      · cases h
      rename_i hRest
      cases h
      obtain ⟨k, found, hSlot, hFound, hFree, hGen, hSet⟩ := ih hRest
      refine ⟨k + 1, found, by omega, hFound, hFree, hGen, ?_⟩
      rw [hSet, List.set_cons_succ]
    next hFree =>
      split at h
      · cases h
      · cases h
        exact ⟨0, entry, rfl, rfl, by simpa using hFree, rfl, rfl⟩

variable {table table' : ResourceTable P F U}

lemma resourceTableInsert_ok {ptr : Option P} (h : resourceTableInsert table kind ptr cleanup user = .ok (id, table')) :
    ∃ p entry, ptr = some p ∧ resourceKindIsValid kind = true ∧ id.slot ≠ 0 ∧
      table.entries[id.slot - 1]? = some entry ∧ entry.occupied = false ∧
      id.generation = issuedGeneration entry ∧
      table'.entries = table.entries.set (id.slot - 1) ⟨some p, kind, cleanup, user, id.generation, true⟩ := by
  unfold resourceTableInsert at h
  split at h
  · cases h
  rename_i p
  split at h
  · cases h
  rename_i hKind
  split at h
  · cases h
  rename_i hLoop
  cases h
  obtain ⟨k, entry, hSlot, hEntry, hFree, hGen, hSet⟩ := insertLoop_ok hLoop
  have hIndex : id.slot - 1 = k := by omega
  rw [hIndex]
  exact ⟨p, entry, rfl, by simpa using hKind, by omega, hEntry, hFree, hGen, hSet⟩

variable {entry : ResourceEntry P F U}

lemma resourceEntryForId_ok {op : String} (h : resourceEntryForId table id op = .ok entry) :
    id.slot ≠ 0 ∧ table.entries[id.slot - 1]? = some entry := by
  unfold resourceEntryForId at h
  split at h
  · cases h
  rename_i hValid
  split at h
  · cases h
  cases h
  refine ⟨?_, by assumption⟩
  simp only [resourceIdIsValid, Bool.not_eq_true, Bool.not_eq_false', Bool.and_eq_true, bne_iff_ne, ne_eq] at hValid
  exact hValid.1

variable {expected : ResourceKind}

lemma checkEntry_ok {reported : ResourceKind} {op closed : String}
    (h : checkEntry entry id expected reported op closed = .ok ptr) :
    entry.generation = id.generation ∧ entry.occupied = true ∧ entry.ptr = some ptr ∧ entry.kind = expected := by
  unfold checkEntry at h
  split at h
  · cases h
  rename_i hGen
  split at h
  next hOccupied hPtr =>
    split at h
    · cases h
    next hKind =>
      cases h
      exact ⟨not_not.mp hGen, hOccupied, hPtr, not_not.mp hKind⟩
  · cases h

lemma resourceTableCloseKind_ok {calls : List (CleanupCall P F U)}
    (h : resourceTableCloseKind table id expected = .ok (table', calls)) :
    ∃ entry ptr, id.slot ≠ 0 ∧ table.entries[id.slot - 1]? = some entry ∧
      entry.generation = id.generation ∧ entry.occupied = true ∧ entry.ptr = some ptr ∧
      table'.entries = table.entries.set (id.slot - 1)
        { resourceClearEntry entry with generation := entry.generation + 1 } ∧
      calls = cleanupCalls id entry := by
  unfold resourceTableCloseKind at h
  split at h
  · cases h
  split at h
  · cases h
  rename_i entry hEntry
  obtain ⟨hSlot, hFound⟩ := resourceEntryForId_ok hEntry
  split at h
  · cases h
  rename_i ptr hCheck
  obtain ⟨hGen, hOccupied, hPtr, _⟩ := checkEntry_ok hCheck
  split at h
  · cases h
  rename_i next hNext
  cases h
  refine ⟨entry, ptr, hSlot, hFound, hGen, hOccupied, hPtr, ?_, rfl⟩
  have hValue : next = entry.generation + 1 := by
    unfold resourceNextGeneration at hNext
    split at hNext
    · cases hNext
    · split at hNext
      · cases hNext
      · cases hNext; rfl
  rw [hValue]

lemma resourceTableClose_eq {result : ResourceTable P F U × List (CleanupCall P F U)}
    (h : resourceTableClose table id = .ok result) : ∃ kind, resourceTableCloseKind table id kind = .ok result := by
  unfold resourceTableClose at h
  split at h
  · cases h
  · split at h
    · exact ⟨_, h⟩
    · exact ⟨_, h⟩

lemma lookup_of_entries_set {entry' : ResourceEntry P F U} (hSlot : id.slot ≠ 0)
    (hEntry : table.entries[id.slot - 1]? = some entry)
    (hSet : table'.entries = table.entries.set (id.slot - 1) entry') (other : ResourceId) :
    lookup table' other =
      if other.slot = id.slot then entryResource other entry' else lookup table other := by
  unfold lookup
  rw [hSet, List.getElem?_set]
  by_cases hOther : other.slot = id.slot
  · obtain ⟨hBound, _⟩ := List.getElem_of_getElem? hEntry
    rw [if_neg (by omega), if_pos (by omega), if_pos (by omega), if_pos hOther]
    rfl
  · rw [if_neg hOther]
    by_cases hZero : other.slot = 0
    · rw [if_pos hZero, if_pos hZero]
    · rw [if_neg hZero, if_neg (by omega), if_neg hZero]

lemma lookup_eq_of_entry (hSlot : id.slot ≠ 0) (hEntry : table.entries[id.slot - 1]? = some entry) :
    lookup table id = entryResource id entry := by
  rw [lookup, if_neg hSlot, hEntry]
  rfl

end Steps

structure Represents (table : ResourceTable P F U) (events : List (Event P F U)) : Prop where
  generation_pos : ∀ entry ∈ table.entries, 1 ≤ entry.generation
  held : ∀ entry ∈ table.entries, entry.occupied = true →
    entry.ptr.isSome = true ∧ resourceKindIsValid entry.kind = true
  live : ∀ id, lookup table id = liveIn events id
  issued : ∀ p ∈ insertedIn events, ∀ entry, table.entries[p.1.slot - 1]? = some entry →
    p.1.generation ≤ entry.generation ∧ (p.1.generation = entry.generation → entry.occupied = true)
  fresh : ((insertedIn events).map Prod.fst).Nodup
  called : ∀ id resource, (id, resource) ∈ insertedIn events → (callsIn events).filter (fun call => call.id = id) =
      if (liveIn events id).isSome then [] else callsFor id resource
  caller : ∀ call ∈ callsIn events, ∃ resource, (call.id, resource) ∈ insertedIn events

variable {event : Event P F U}

lemma insertedIn_cons_of_none (h : insertedBy event = none) (events : List (Event P F U)) :
    insertedIn (event :: events) = insertedIn events := by
  rw [insertedIn, filterMap_cons_none h]
  rfl

lemma callsIn_cons (event : Event P F U) (events : List (Event P F U)) :
    callsIn (event :: events) = event.2.2 ++ callsIn events := rfl

variable {events : List (Event P F U)} {id : ResourceId}

lemma liveIn_mem_insertedIn {resource : HeldResource P F U} (h : liveIn events id = some resource) :
    (id, resource) ∈ insertedIn events := by
  fun_induction liveIn events id with
  | case1 => cases h
  | case2 =>
    cases h
    exact mem_cons_self
  | case3 kind ptr cleanup user id' calls earlier id hne ih =>
    exact mem_cons_of_mem _ (ih h)
  | case4 => cases h
  | case5 calls id' earlier id hne ih =>
    exact ih h
  | case6 => cases h
  | case7 calls id' kind earlier id hne ih =>
    exact ih h
  | case8 => cases h
  | case9 event earlier id _ _ _ _ ih =>
    have hMem := ih h
    rw [insertedIn, filterMap_cons]
    split
    · exact hMem
    · exact mem_cons_of_mem _ hMem

variable {table : ResourceTable P F U}

lemma Represents.quiet (h : Represents table events) (hLive : ∀ id, liveIn (event :: events) id = liveIn events id)
    (hInserted : insertedBy event = none) (hCalls : event.2.2 = []) : Represents table (event :: events) := by
  have hIns := insertedIn_cons_of_none hInserted events
  have hCall : callsIn (event :: events) = callsIn events := by
    rw [callsIn_cons, hCalls, nil_append]
  constructor
  · exact h.generation_pos
  · exact h.held
  · intro id
    rw [hLive, h.live]
  · rw [hIns]
    exact h.issued
  · rw [hIns]
    exact h.fresh
  · intro id resource hMem
    rw [hCall, hLive]
    exact h.called id resource (hIns ▸ hMem)
  · rw [hCall, hIns]
    exact h.caller

variable {entry : ResourceEntry P F U}

lemma entryResource_of_free (h : entry.occupied = false) (id : ResourceId) : entryResource id entry = none := by
  rw [entryResource, if_neg (by simp [h])]

lemma entryResource_of_generation_ne (h : entry.generation ≠ id.generation) : entryResource id entry = none := by
  rw [entryResource, if_neg (fun hBoth => h hBoth.1)]

lemma entryResource_of_occupied {ptr : P} (hGen : entry.generation = id.generation)
    (hOccupied : entry.occupied = true) (hPtr : entry.ptr = some ptr) :
    entryResource id entry = some ⟨entry.kind, ptr, entry.cleanup, entry.cleanupUser⟩ := by
  rw [entryResource, if_pos ⟨hGen, hOccupied⟩, hPtr]
  rfl

lemma ResourceId.ext_of_slot {left right : ResourceId} (hSlot : left.slot = right.slot)
    (hGen : left.generation = right.generation) : left = right := by
  cases left
  simp_all

lemma Represents.not_issued (h : Represents table events) (hEntry : table.entries[id.slot - 1]? = some entry)
    (hFree : entry.occupied = false) (hGen : id.generation = entry.generation) :
    id ∉ (insertedIn events).map Prod.fst := by
  intro hMem
  obtain ⟨⟨issuedId, resource⟩, hIssued, rfl⟩ := mem_map.mp hMem
  have hOccupied := (h.issued _ hIssued entry hEntry).2 hGen
  rw [hFree] at hOccupied
  cases hOccupied

lemma Represents.insert {table' : ResourceTable P F U} (h : Represents table events) {kind : ResourceKind}
    {ptr : Option P} {cleanup : Option F} {user : Option U}
    (hInsert : resourceTableInsert table kind ptr cleanup user = .ok (id, table')) :
    Represents table' ((.insert kind ptr cleanup user, .inserted id, []) :: events) := by
  obtain ⟨p, entry, rfl, hKind, hSlot, hEntry, hFree, hIssued, hSet⟩ := resourceTableInsert_ok hInsert
  have hPos := h.generation_pos entry (mem_of_getElem? hEntry)
  have hGeneration : id.generation = entry.generation := by
    rw [hIssued, issuedGeneration, if_neg (by omega)]
  have hNew := h.not_issued hEntry hFree hGeneration
  have hIns : insertedIn ((.insert kind (some p) cleanup user, .inserted id, []) :: events) =
      (id, ⟨kind, p, cleanup, user⟩) :: insertedIn events := rfl
  have hLive : ∀ other, liveIn ((.insert kind (some p) cleanup user, .inserted id, []) :: events) other =
        if other = id then some ⟨kind, p, cleanup, user⟩ else liveIn events other :=
    fun other => rfl
  constructor
  · rw [hSet]
    exact forall_mem_set h.generation_pos (hGeneration ▸ hPos)
  · rw [hSet]
    exact forall_mem_set h.held fun _ => ⟨rfl, hKind⟩
  · intro other
    rw [hLive, lookup_of_entries_set hSlot hEntry hSet]
    by_cases hOther : other = id
    · subst hOther
      rw [if_pos rfl, if_pos rfl]
      exact entryResource_of_occupied rfl rfl rfl
    · split
      next hSame =>
        have hGen : id.generation ≠ other.generation := fun hEq => hOther (ResourceId.ext_of_slot hSame hEq.symm)
        have hOld := lookup_eq_of_entry (hSame ▸ hSlot) (hSame ▸ hEntry)
        rw [entryResource_of_generation_ne hGen, ← h.live, hOld, entryResource_of_free hFree]
      · exact h.live other
  · intro q hq e he
    rw [hSet, getElem?_set] at he
    rcases mem_cons.mp hq with rfl | hq
    · obtain ⟨hBound, _⟩ := List.getElem_of_getElem? hEntry
      rw [if_pos rfl, if_pos hBound] at he
      cases he
      exact ⟨Nat.le_refl _, fun _ => rfl⟩
    · split at he
      next hIndex =>
        split at he
        · cases he
          obtain ⟨hLe, _⟩ := h.issued q hq entry (hIndex ▸ hEntry)
          exact ⟨hGeneration ▸ hLe, fun _ => rfl⟩
        · cases he
      · exact h.issued q hq e he
  · rw [hIns, map_cons, nodup_cons]
    exact ⟨hNew, h.fresh⟩
  · intro other resource hMem
    rw [callsIn_cons, nil_append, hLive]
    rcases mem_cons.mp hMem with hEq | hOld
    · cases hEq
      rw [if_pos rfl, Option.isSome_some, if_pos rfl, filter_eq_nil_iff]
      intro call hCall hId
      obtain ⟨resource, hResource⟩ := h.caller call hCall
      exact hNew (mem_map.mpr ⟨_, hResource, by simpa using hId⟩)
    · have hNe : other ≠ id := by
        rintro rfl
        exact hNew (mem_map.mpr ⟨_, hOld, rfl⟩)
      rw [if_neg hNe]
      exact h.called other resource hOld
  · intro call hCall
    obtain ⟨resource, hResource⟩ := h.caller call hCall
    exact ⟨resource, mem_cons_of_mem _ hResource⟩

end Sloppy.Resource
