import Sloppy.Redis.Resp
import Mathlib.Data.List.Count

/-! # The connection pool

`RedisConnectionPool` with its callers. Everything between two awaits is one step, and what waits is part of the
state. Every acquire and every connection is at one place, and `active` counts the places.
-/

namespace Sloppy.Redis

open List

section

abbrev Task := Nat
abbrev Conn := Nat

structure PoolOptions where
  maxConnections : Nat
  idleTimeoutMs : Nat
  pendingQueueLimit : Nat
  positive : 1 ≤ maxConnections

/-- How the promise of an acquire is settled. -/
inductive Answer
  | connection (conn : Conn)
  | failed (error : RedisError)
deriving DecidableEq

structure Pool where
  /-- With the time of the release; the one pushed last stands first. -/
  idle : List (Conn × Int)
  active : Int
  queue : List Task
  closed : Bool
  /-- Acquires at the await of a stale connection, with the time they started at. -/
  stalled : List (Task × Int)
  connecting : List Task
  initializing : List (Task × Conn)
  /-- Failed creations at the await of their abort, with the error to throw after it. -/
  aborting : List (Task × RedisError)
  leased : List (Conn × Task)
  /-- What `close` waits for, while it does. -/
  closing : Option (List Conn)
  answers : List (Task × Answer)
  /-- The connections whose `closed` is set. -/
  shut : List Conn
  broken : List Conn
  nextTask : Task
  nextConn : Conn
deriving DecidableEq

namespace Pool

def empty : Pool := ⟨[], 0, [], false, [], [], [], [], [], none, [], [], [], 0, 0⟩

def answer (task : Task) (result : Answer) (pool : Pool) : Pool :=
  { pool with answers := pool.answers ++ [(task, result)] }

def lend (conn : Conn) (task : Task) (pool : Pool) : Pool :=
  answer task (.connection conn) { pool with leased := pool.leased ++ [(conn, task)] }

def discard (conn : Conn) (pool : Pool) : Pool :=
  { pool with active := pool.active - 1, shut := pool.shut ++ [conn] }

/-- `_create` up to its first await. -/
def create (task : Task) (pool : Pool) : Pool :=
  { pool with active := pool.active + 1, connecting := pool.connecting ++ [task] }

def drainLoop (options : PoolOptions) : List Task → Pool → Pool
  | [], pool => pool
  | waiter :: waiters, pool =>
    if !pool.closed && decide (pool.active < options.maxConnections) then
      drainLoop options waiters (create waiter { pool with queue := waiters })
    else pool

variable (options : PoolOptions)

def drainQueue (pool : Pool) : Pool := drainLoop options pool.queue pool

def unusable (now : Int) (entry : Conn × Int) (pool : Pool) : Bool :=
  decide (entry.1 ∈ pool.shut) || decide (entry.1 ∈ pool.broken) || decide (now - entry.2 > options.idleTimeoutMs)

/-- `acquire` from the test of its loop to the next await or its end. -/
def acquireLoop (task : Task) (now : Int) (pool : Pool) : Pool :=
  match pool.idle with
  | entry :: idle =>
    if unusable options now entry pool then
      let closing := discard entry.1 { pool with idle := idle }
      { closing with stalled := pool.stalled ++ [(task, now)] }
    else lend entry.1 task { pool with idle := idle }
  | [] =>
    if pool.active < options.maxConnections then create task pool
    else if options.pendingQueueLimit ≤ pool.queue.length then
      answer task (.failed ⟨.timeout, "Redis connection pool pending queue is full."⟩) pool
    else { pool with queue := pool.queue ++ [task] }

def acquire (now : Int) (pool : Pool) : Pool :=
  let called := { pool with nextTask := pool.nextTask + 1 }
  if pool.closed then answer pool.nextTask (.failed ⟨.closed, "Redis client is closed."⟩) called
  else acquireLoop options pool.nextTask now called

/-- `release` of a connection that is no longer leased. -/
def release (conn : Conn) (reusable : Bool) (now : Int) (pool : Pool) : Pool :=
  if reusable && !pool.closed && decide (conn ∉ pool.shut) && decide (conn ∉ pool.broken) then
    match pool.queue with
    | waiter :: waiters => lend conn waiter { pool with queue := waiters }
    | [] => { pool with idle := (conn, now) :: pool.idle }
  else drainQueue options (discard conn pool)

def rejectAll (pool : Pool) : Pool :=
  { pool with
    queue := []
    answers := pool.answers ++ pool.queue.map fun waiter => (waiter, .failed ⟨.closed, "Redis client is closed."⟩) }

def close (pool : Pool) : Pool :=
  if pool.closed then pool
  else
    { rejectAll pool with
      closed := true
      idle := []
      shut := pool.shut ++ pool.idle.map Prod.fst
      closing := some (pool.idle.map Prod.fst) }

end Pool

inductive PoolEvent
  | acquire (now : Int)
  | staleClosed (task : Task) (now : Int)
  | connected (task : Task)
  | connectFailed (task : Task) (error : RedisError)
  | initialized (task : Task) (conn : Conn)
  | initializeFailed (task : Task) (conn : Conn) (error : RedisError)
  | aborted (task : Task) (error : RedisError)
  | timeout (task : Task)
  | release (conn : Conn) (task : Task) (reusable : Bool) (now : Int)
  | close
  | closeFinished
  | breaks (conn : Conn)
deriving DecidableEq

namespace Pool

/-- One continuation runs, or one call is made; an event that cannot happen changes nothing. -/
def step (options : PoolOptions) (pool : Pool) : PoolEvent → Pool
  | .acquire now => acquire options now pool
  | .staleClosed task now =>
    if (task, now) ∈ pool.stalled then
      acquireLoop options task now { pool with stalled := pool.stalled.erase (task, now) }
    else pool
  | .connected task =>
    if task ∈ pool.connecting then
      { pool with
        connecting := pool.connecting.erase task
        initializing := pool.initializing ++ [(task, pool.nextConn)]
        nextConn := pool.nextConn + 1 }
    else pool
  | .connectFailed task error =>
    if task ∈ pool.connecting then
      answer task (.failed error) (drainQueue options
        { pool with active := pool.active - 1, connecting := pool.connecting.erase task })
    else pool
  | .initialized task conn =>
    if (task, conn) ∈ pool.initializing then
      lend conn task { pool with initializing := pool.initializing.erase (task, conn) }
    else pool
  | .initializeFailed task conn error =>
    if (task, conn) ∈ pool.initializing then
      let aborted := discard conn { pool with initializing := pool.initializing.erase (task, conn) }
      { aborted with aborting := pool.aborting ++ [(task, error)] }
    else pool
  | .aborted task error =>
    if (task, error) ∈ pool.aborting then
      answer task (.failed error) (drainQueue options { pool with aborting := pool.aborting.erase (task, error) })
    else pool
  | .timeout task =>
    if task ∈ pool.queue then
      answer task (.failed ⟨.timeout, "Redis connection acquisition timed out."⟩)
        { pool with queue := pool.queue.erase task }
    else pool
  | .release conn task reusable now =>
    if (conn, task) ∈ pool.leased then
      release options conn reusable now { pool with leased := pool.leased.erase (conn, task) }
    else pool
  | .close => close pool
  | .closeFinished =>
    match pool.closing with
    | some conns => { pool with active := max 0 (pool.active - conns.length), closing := none }
    | none => pool
  | .breaks conn =>
    if conn ∈ pool.leased.map Prod.fst ∨ conn ∈ pool.idle.map Prod.fst then
      { pool with broken := pool.broken ++ [conn] }
    else pool

def run (options : PoolOptions) (events : List PoolEvent) : Pool := events.foldl (step options) empty

end Pool

end

lemma count_map_erase {α β : Type} [BEq α] [LawfulBEq α] [BEq β] [LawfulBEq β] (f : α → β) {l : List α} {a : α}
    (h : a ∈ l) (b : β) : (l.map f).count b = ((l.erase a).map f).count b + [f a].count b := by
  rw [((perm_cons_erase h).map f).count_eq, map_cons, count_cons, count_singleton]

def given (next number : Nat) : Nat := if number < next then 1 else 0

lemma given_le_one (next num : Nat) : given next num ≤ 1 := by
  rw [given]
  split
  · exact Nat.le_refl 1
  · exact Nat.zero_le 1

lemma given_succ (next num : Nat) : given (next + 1) num = given next num + [next].count num := by
  rw [given, given, count_singleton]
  simp only [beq_iff_eq]
  split_ifs <;> omega

lemma lt_of_given_pos {next num : Nat} (h : 0 < given next num) : num < next := by
  rw [given] at h
  split at h
  · assumption
  · exact absurd h (Nat.lt_irrefl 0)

namespace Pool

def tasks (pool : Pool) (task : Task) : Nat :=
  (pool.answers.map Prod.fst).count task + pool.queue.count task + (pool.stalled.map Prod.fst).count task +
    pool.connecting.count task + (pool.initializing.map Prod.fst).count task + (pool.aborting.map Prod.fst).count task

def conns (pool : Pool) (conn : Conn) : Nat :=
  (pool.idle.map Prod.fst).count conn + (pool.leased.map Prod.fst).count conn +
    (pool.initializing.map Prod.snd).count conn + (pool.closing.getD []).count conn

def counted (pool : Pool) : Nat :=
  pool.idle.length + pool.leased.length + (pool.connecting.length + pool.initializing.length) +
    (pool.closing.getD []).length

structure Balanced (options : PoolOptions) (hand : List Task) (held : List Conn) (pool : Pool) : Prop where
  active_eq : pool.active = pool.counted + held.length
  within : pool.active ≤ options.maxConnections
  tasks_eq : ∀ task, pool.tasks task + hand.count task = given pool.nextTask task
  conns_le : ∀ conn, pool.conns conn + held.count conn ≤ given pool.nextConn conn
  known : ∀ conn ∈ pool.shut ++ pool.broken, conn < pool.nextConn
  healthy : ∀ entry ∈ pool.initializing, entry.2 ∉ pool.shut ∧ entry.2 ∉ pool.broken
  separate : pool.idle = [] ∨ pool.queue = []
  open_closing : pool.closed = false → pool.closing = none

/-- Whoever waits in an open pool is served when something that is under way ends. -/
def Draining (options : PoolOptions) (pool : Pool) : Prop :=
  pool.closed = false → pool.queue ≠ [] → options.maxConnections ≤ pool.active ∨ pool.aborting ≠ []

namespace Balanced

variable {opts : PoolOptions} {hand : List Task} {held : List Conn} {pool : Pool} {task : Task} {conn : Conn}

lemma not_initializing (h : Balanced opts hand (conn :: held) pool) :
    ∀ entry ∈ pool.initializing, entry.2 ≠ conn := by
  rintro entry hEntry rfl
  have hOne := h.conns_le entry.2
  have hSeen := count_pos_iff.mpr (@mem_map_of_mem _ _ _ _ Prod.snd hEntry)
  have hGiven := given_le_one pool.nextConn entry.2
  rw [conns, count_cons_self] at hOne
  omega

lemma conn_lt (h : Balanced opts hand (conn :: held) pool) : conn < pool.nextConn := by
  have hOne := h.conns_le conn
  rw [count_cons_self] at hOne
  exact lt_of_given_pos (by omega)

lemma answer (h : Balanced opts (task :: hand) held pool) (result : Answer) :
    Balanced opts hand held (pool.answer task result) where
  __ := h
  tasks_eq other := by
    have hTasks := h.tasks_eq other
    simp only [tasks, Pool.answer, map_append, map_singleton, count_append, count_cons, count_nil] at hTasks ⊢
    omega

lemma lend (h : Balanced opts (task :: hand) (conn :: held) pool) :
    Balanced opts hand held (pool.lend conn task) where
  __ := h
  active_eq := by
    have hActive := h.active_eq
    simp only [counted, Pool.lend, Pool.answer, length_append, length_cons, length_nil] at hActive ⊢
    omega
  tasks_eq := (h.answer (.connection conn)).tasks_eq
  conns_le other := by
    have hConns := h.conns_le other
    simp only [conns, Pool.lend, Pool.answer, map_append, map_singleton, count_append, count_cons,
      count_nil] at hConns ⊢
    omega

lemma discard (h : Balanced opts hand (conn :: held) pool) : Balanced opts hand held (pool.discard conn) where
  __ := h
  active_eq := by
    have hActive := h.active_eq
    simp only [counted, Pool.discard, length_cons] at hActive ⊢
    omega
  within := by
    have hWithin := h.within
    simp only [Pool.discard]
    omega
  conns_le other := by
    have hConns := h.conns_le other
    simp only [conns, Pool.discard, count_cons] at hConns ⊢
    omega
  known other hOther := by
    simp only [Pool.discard, append_assoc, mem_append, mem_singleton] at hOther
    obtain hShut | rfl | hBroken := hOther
    · exact h.known other (mem_append_left _ hShut)
    · exact h.conn_lt
    · exact h.known other (mem_append_right _ hBroken)
  healthy entry hEntry := by
    obtain ⟨hShut, hBroken⟩ := h.healthy entry hEntry
    refine ⟨?_, hBroken⟩
    simp only [Pool.discard, mem_append, mem_singleton]
    rintro (hOld | hSame)
    · exact hShut hOld
    · exact h.not_initializing entry hEntry hSame

lemma create (h : Balanced opts (task :: hand) held pool) (hFree : pool.active < opts.maxConnections) :
    Balanced opts hand held (pool.create task) where
  __ := h
  active_eq := by
    have hActive := h.active_eq
    simp only [counted, Pool.create, length_append, length_cons, length_nil] at hActive ⊢
    omega
  within := hFree
  tasks_eq other := by
    have hTasks := h.tasks_eq other
    simp only [tasks, Pool.create, count_append, count_cons, count_nil] at hTasks ⊢
    omega

lemma shift {waiters : List Task} (h : Balanced opts hand held pool) (hQueue : pool.queue = task :: waiters) :
    Balanced opts (task :: hand) held { pool with queue := waiters } where
  __ := h
  tasks_eq other := by
    have hTasks := h.tasks_eq other
    simp only [tasks, hQueue, count_cons] at hTasks ⊢
    omega
  separate := by
    obtain hIdle | hNone := h.separate
    · exact Or.inl hIdle
    · rw [hQueue] at hNone
      cases hNone

section

variable (h : Balanced opts hand held pool)
include h

lemma takeStalled {now : Int} (hMem : (task, now) ∈ pool.stalled) :
    Balanced opts (task :: hand) held { pool with stalled := pool.stalled.erase (task, now) } where
  __ := h
  tasks_eq other := by
    have hTasks := h.tasks_eq other
    rw [tasks, count_map_erase Prod.fst hMem] at hTasks
    simp only [tasks, count_cons, count_nil] at hTasks ⊢
    omega

lemma takeAborting {error : RedisError} (hMem : (task, error) ∈ pool.aborting) :
    Balanced opts (task :: hand) held { pool with aborting := pool.aborting.erase (task, error) } where
  __ := h
  tasks_eq other := by
    have hTasks := h.tasks_eq other
    rw [tasks, count_map_erase Prod.fst hMem] at hTasks
    simp only [tasks, count_cons, count_nil] at hTasks ⊢
    omega

lemma takeQueued (hMem : task ∈ pool.queue) :
    Balanced opts (task :: hand) held { pool with queue := pool.queue.erase task } where
  __ := h
  tasks_eq other := by
    have hTasks := h.tasks_eq other
    rw [tasks, (perm_cons_erase hMem).count_eq] at hTasks
    simp only [tasks, count_cons] at hTasks ⊢
    omega
  separate := by
    obtain hIdle | hNone := h.separate
    · exact Or.inl hIdle
    · rw [hNone] at hMem
      cases hMem

lemma takeConnecting (hMem : task ∈ pool.connecting) : Balanced opts (task :: hand) held
      { pool with active := pool.active - 1, connecting := pool.connecting.erase task } where
  __ := h
  active_eq := by
    have hActive := h.active_eq
    have hLen := (perm_cons_erase hMem).length_eq
    simp only [counted, length_cons] at hActive hLen ⊢
    omega
  within := by
    have hWithin := h.within
    dsimp only
    omega
  tasks_eq other := by
    have hTasks := h.tasks_eq other
    rw [tasks, (perm_cons_erase hMem).count_eq] at hTasks
    simp only [tasks, count_cons] at hTasks ⊢
    omega

lemma takeInitializing (hMem : (task, conn) ∈ pool.initializing) : Balanced opts (task :: hand) (conn :: held)
      { pool with initializing := pool.initializing.erase (task, conn) } where
  __ := h
  active_eq := by
    have hActive := h.active_eq
    have hLen := (perm_cons_erase hMem).length_eq
    simp only [counted, length_cons] at hActive hLen ⊢
    omega
  tasks_eq other := by
    have hTasks := h.tasks_eq other
    rw [tasks, count_map_erase Prod.fst hMem] at hTasks
    simp only [tasks, count_cons, count_nil] at hTasks ⊢
    omega
  conns_le other := by
    have hConns := h.conns_le other
    rw [conns, count_map_erase Prod.snd hMem] at hConns
    simp only [conns, count_cons, count_nil] at hConns ⊢
    omega
  healthy entry hEntry := h.healthy entry (mem_of_mem_erase hEntry)

lemma takeLeased (hMem : (conn, task) ∈ pool.leased) :
    Balanced opts hand (conn :: held) { pool with leased := pool.leased.erase (conn, task) } where
  __ := h
  active_eq := by
    have hActive := h.active_eq
    have hLen := (perm_cons_erase hMem).length_eq
    simp only [counted, length_cons] at hActive hLen ⊢
    omega
  conns_le other := by
    have hConns := h.conns_le other
    rw [conns, count_map_erase Prod.fst hMem] at hConns
    simp only [conns, count_cons, count_nil] at hConns ⊢
    omega

lemma takeIdle {entry : Conn × Int} {idle : List (Conn × Int)}
    (hIdle : pool.idle = entry :: idle) : Balanced opts hand (entry.1 :: held) { pool with idle := idle } where
  __ := h
  active_eq := by
    have hActive := h.active_eq
    simp only [counted, hIdle, length_cons] at hActive ⊢
    omega
  conns_le other := by
    have hConns := h.conns_le other
    simp only [conns, hIdle, map_cons, count_cons] at hConns ⊢
    omega
  separate := by
    obtain hNone | hQueue := h.separate
    · rw [hIdle] at hNone
      cases hNone
    · exact Or.inr hQueue

end

lemma call (h : Balanced opts hand held pool) :
    Balanced opts (pool.nextTask :: hand) held { pool with nextTask := pool.nextTask + 1 } where
  __ := h
  tasks_eq other := by
    have hTasks := h.tasks_eq other
    simp only [tasks, given_succ, count_cons, count_nil] at hTasks ⊢
    omega

section

variable (h : Balanced opts (task :: hand) held pool)
include h

lemma putStalled (now : Int) : Balanced opts hand held { pool with stalled := pool.stalled ++ [(task, now)] } where
  __ := h
  tasks_eq other := by
    have hTasks := h.tasks_eq other
    simp only [tasks, map_append, map_singleton, count_append, count_cons, count_nil] at hTasks ⊢
    omega

lemma putAborting (error : RedisError) :
    Balanced opts hand held { pool with aborting := pool.aborting ++ [(task, error)] } where
  __ := h
  tasks_eq other := by
    have hTasks := h.tasks_eq other
    simp only [tasks, map_append, map_singleton, count_append, count_cons, count_nil] at hTasks ⊢
    omega

lemma enqueue (hIdle : pool.idle = []) : Balanced opts hand held { pool with queue := pool.queue ++ [task] } where
  __ := h
  tasks_eq other := by
    have hTasks := h.tasks_eq other
    simp only [tasks, count_append, count_cons, count_nil] at hTasks ⊢
    omega
  separate := Or.inl hIdle

end

lemma putIdle (h : Balanced opts hand (conn :: held) pool) (hQueue : pool.queue = []) (now : Int) :
    Balanced opts hand held { pool with idle := (conn, now) :: pool.idle } where
  __ := h
  active_eq := by
    have hActive := h.active_eq
    simp only [counted, length_cons] at hActive ⊢
    omega
  conns_le other := by
    have hConns := h.conns_le other
    simp only [conns, map_cons, count_cons] at hConns ⊢
    omega
  separate := Or.inr hQueue

lemma connected (h : Balanced opts hand held pool) (hMem : task ∈ pool.connecting) : Balanced opts hand held
      { pool with
        connecting := pool.connecting.erase task
        initializing := pool.initializing ++ [(task, pool.nextConn)]
        nextConn := pool.nextConn + 1 } where
  __ := h
  active_eq := by
    have hActive := h.active_eq
    have hLen := (perm_cons_erase hMem).length_eq
    simp only [counted, length_cons, length_append, length_nil] at hActive hLen ⊢
    omega
  tasks_eq other := by
    have hTasks := h.tasks_eq other
    rw [tasks, (perm_cons_erase hMem).count_eq] at hTasks
    simp only [tasks, map_append, map_singleton, count_append, count_cons, count_nil] at hTasks ⊢
    omega
  conns_le other := by
    have hConns := h.conns_le other
    simp only [conns, given_succ, map_append, map_singleton, count_append, count_cons, count_nil] at hConns ⊢
    omega
  known other hOther := Nat.lt_succ_of_lt (h.known other hOther)
  healthy entry hEntry := by
    rw [mem_append, mem_singleton] at hEntry
    obtain hOld | rfl := hEntry
    · exact h.healthy entry hOld
    · have hUnknown := fun hKnown => Nat.lt_irrefl _ (h.known pool.nextConn hKnown)
      exact ⟨fun hShut => hUnknown (mem_append_left _ hShut), fun hBroken => hUnknown (mem_append_right _ hBroken)⟩

lemma drainQueue (h : Balanced opts hand held pool) : Balanced opts hand held (pool.drainQueue opts) := by
  suffices hLoop : ∀ waiters (pool : Pool), pool.queue = waiters → Balanced opts hand held pool →
      Balanced opts hand held (Pool.drainLoop opts waiters pool) from hLoop pool.queue pool rfl h
  intro waiters
  induction waiters with
  | nil => exact fun _ _ h => h
  | cons waiter waiters ih =>
    intro pool hQueue h
    rw [Pool.drainLoop]
    split
    next hFree =>
      rw [Bool.and_eq_true, decide_eq_true_eq] at hFree
      exact ih _ rfl ((h.shift hQueue).create hFree.2)
    · exact h

end Balanced

lemma drainQueue_full (opts : PoolOptions) (pool : Pool) :
    (pool.drainQueue opts).closed = false → (pool.drainQueue opts).queue ≠ [] →
      opts.maxConnections ≤ (pool.drainQueue opts).active := by
  suffices hLoop : ∀ waiters (pool : Pool), pool.queue = waiters →
      (drainLoop opts waiters pool).closed = false → (drainLoop opts waiters pool).queue ≠ [] →
      opts.maxConnections ≤ (drainLoop opts waiters pool).active from hLoop pool.queue pool rfl
  intro waiters
  induction waiters with
  | nil => exact fun pool hQueue _ hWaiting => absurd hQueue hWaiting
  | cons waiter waiters ih =>
    intro pool hQueue
    rw [drainLoop]
    split
    · exact ih _ rfl
    next hFull =>
      intro hOpen _
      rw [hOpen, Bool.not_false, Bool.true_and, decide_eq_true_eq] at hFull
      omega

section Steps

variable {opts : PoolOptions} {pool : Pool} {task : Task} {conn : Conn}

lemma Balanced.acquireLoop (h : Balanced opts [task] [] pool) (now : Int) :
    Balanced opts [] [] (pool.acquireLoop opts task now) := by
  rw [Pool.acquireLoop]
  split
  next hIdle =>
    split
    · exact (h.takeIdle hIdle).discard.putStalled now
    · exact (h.takeIdle hIdle).lend
  next hIdle =>
    split_ifs
    · exact h.create (by assumption)
    · exact h.answer _
    · exact h.enqueue hIdle

lemma Balanced.release (h : Balanced opts [] [conn] pool) (reusable : Bool) (now : Int) :
    Balanced opts [] [] (pool.release opts conn reusable now) := by
  rw [Pool.release]
  split
  · split
    next hQueue =>
      exact (h.shift hQueue).lend
    next hQueue =>
      exact h.putIdle hQueue now
  · exact h.discard.drainQueue

section

variable (h : Balanced opts [] [] pool)
include h

lemma Balanced.close : Balanced opts [] [] pool.close := by
  rw [Pool.close]
  split
  · exact h
  rename_i hOpen
  have hNone : pool.closing = none := h.open_closing (Bool.eq_false_iff.mpr hOpen)
  exact { h with
      active_eq := by
        have hActive := h.active_eq
        simp only [counted, hNone, rejectAll, Option.getD_none, Option.getD_some, length_map, length_nil] at hActive ⊢
        omega
      tasks_eq := fun other => by
        have hTasks := h.tasks_eq other
        have hWaiters : (pool.queue.map fun waiter : Task => waiter) = pool.queue := map_id pool.queue
        simp only [tasks, rejectAll, map_append, map_map, Function.comp_def, hWaiters, count_append,
          count_nil] at hTasks ⊢
        omega
      conns_le := fun other => by
        have hConns := h.conns_le other
        simp only [conns, hNone, rejectAll, Option.getD_none, Option.getD_some, map_nil, count_nil] at hConns ⊢
        omega
      known := by
        intro other hOther
        simp only [rejectAll, append_assoc, mem_append] at hOther
        obtain hShut | hIdle | hBroken := hOther
        · exact h.known other (mem_append_left _ hShut)
        · have hConns := h.conns_le other
          have hSeen := count_pos_iff.mpr hIdle
          rw [conns] at hConns
          have hPositive : 0 < given pool.nextConn other := by omega
          exact lt_of_given_pos hPositive
        · exact h.known other (mem_append_right _ hBroken)
      healthy := by
        intro entry hEntry
        obtain ⟨hShut, hBroken⟩ := h.healthy entry hEntry
        refine ⟨?_, hBroken⟩
        rw [mem_append]
        rintro (hOld | hIdle)
        · exact hShut hOld
        · -- An idle connection is not being initialized.
          have hConns := h.conns_le entry.2
          have hGiven := given_le_one pool.nextConn entry.2
          have hSeen := count_pos_iff.mpr hIdle
          have hAlso : 0 < (pool.initializing.map Prod.snd).count entry.2 :=
            count_pos_iff.mpr (@mem_map_of_mem _ _ _ _ Prod.snd hEntry)
          rw [conns] at hConns
          omega
      separate := Or.inl rfl
      open_closing := fun hFalse => by cases hFalse }

lemma Balanced.closeFinished {conns : List Conn} (hClosing : pool.closing = some conns) : Balanced opts [] []
      { pool with active := max 0 (pool.active - conns.length), closing := none } where
  __ := h
  active_eq := by
    have hActive := h.active_eq
    simp only [counted, hClosing, Option.getD_some, Option.getD_none, length_nil] at hActive ⊢
    omega
  within := by
    have hWithin := h.within
    dsimp only
    omega
  conns_le other := by
    have hConns := h.conns_le other
    simp only [Pool.conns, hClosing, Option.getD_some, Option.getD_none, count_nil] at hConns ⊢
    omega
  open_closing _ := rfl

lemma Balanced.breaks (hMem : conn ∈ pool.leased.map Prod.fst ∨ conn ∈ pool.idle.map Prod.fst) :
    Balanced opts [] [] { pool with broken := pool.broken ++ [conn] } := by
  have hConns := h.conns_le conn
  have hGiven := given_le_one pool.nextConn conn
  have hSeen : 0 < (pool.leased.map Prod.fst).count conn + (pool.idle.map Prod.fst).count conn := by
    obtain hLeased | hIdle := hMem
    · exact Nat.add_pos_left (count_pos_iff.mpr hLeased) _
    · exact Nat.add_pos_right _ (count_pos_iff.mpr hIdle)
  rw [conns] at hConns
  exact { h with
      known := by
        intro other hOther
        rw [← append_assoc, mem_append, mem_singleton] at hOther
        obtain hOld | rfl := hOther
        · exact h.known other hOld
        · have hPositive : 0 < given pool.nextConn other := by omega
          exact lt_of_given_pos hPositive
      healthy := by
        intro entry hEntry
        obtain ⟨hShut, hBroken⟩ := h.healthy entry hEntry
        refine ⟨hShut, ?_⟩
        rw [mem_append, mem_singleton]
        rintro (hOld | rfl)
        · exact hBroken hOld
        · have hAlso : 0 < (pool.initializing.map Prod.snd).count entry.2 :=
            count_pos_iff.mpr (@mem_map_of_mem _ _ _ _ Prod.snd hEntry)
          omega }

lemma balanced_step (event : PoolEvent) : Balanced opts [] [] (pool.step opts event) := by
  cases event with
  | acquire now =>
    change Balanced opts [] [] (Pool.acquire opts now pool)
    rw [Pool.acquire]
    split
    · exact h.call.answer _
    · exact h.call.acquireLoop now
  | staleClosed task now =>
    rw [step]
    split
    · exact (h.takeStalled (by assumption)).acquireLoop now
    · exact h
  | connected =>
    rw [step]
    split
    · exact h.connected (by assumption)
    · exact h
  | connectFailed =>
    rw [step]
    split
    · exact (h.takeConnecting (by assumption)).drainQueue.answer _
    · exact h
  | initialized =>
    rw [step]
    split
    · exact (h.takeInitializing (by assumption)).lend
    · exact h
  | initializeFailed task conn error =>
    rw [step]
    split
    · exact (h.takeInitializing (by assumption)).discard.putAborting error
    · exact h
  | aborted =>
    rw [step]
    split
    · exact (h.takeAborting (by assumption)).drainQueue.answer _
    · exact h
  | timeout =>
    rw [step]
    split
    · exact (h.takeQueued (by assumption)).answer _
    · exact h
  | release conn task reusable now =>
    rw [step]
    split
    · exact (h.takeLeased (by assumption)).release reusable now
    · exact h
  | close => exact h.close
  | closeFinished =>
    rw [step]
    split
    · exact h.closeFinished (by assumption)
    · exact h
  | breaks =>
    rw [step]
    split
    · exact h.breaks (by assumption)
    · exact h

end

end Steps

end Pool

end Sloppy.Redis
