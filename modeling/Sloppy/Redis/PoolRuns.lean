import Sloppy.Redis.Pool

/-! # Runs of the connection pool

After any sequence of calls and continuations the counter is right, no connection has two lessees or is handed out
broken, no acquire is settled twice, and nobody waits for nothing in an open pool.
-/

namespace Sloppy.Redis.Pool

open List

variable {options : PoolOptions} {pool : Pool} {task : Task} {conn : Conn}

lemma Draining.of_queue_nil (h : pool.queue = []) : Draining options pool := fun _ hWaiting => absurd h hWaiting

lemma Draining.drainQueue (opts : PoolOptions) (pool : Pool) : Draining opts (pool.drainQueue opts) :=
  fun hOpen hWaiting => Or.inl (drainQueue_full opts pool hOpen hWaiting)

lemma Draining.acquireLoop {hand : List Task} (hBalanced : Balanced options hand [] pool)
    (h : Draining options pool) (now : Int) : Draining options (pool.acquireLoop options task now) := by
  rw [Pool.acquireLoop]
  split
  · -- While a connection is idle nobody waits.
    rename_i hIdle
    have hQueue : pool.queue = [] := hBalanced.separate.resolve_left (by rw [hIdle]; exact cons_ne_nil _ _)
    split <;> exact Draining.of_queue_nil hQueue
  · split_ifs
    · intro hOpen hWaiting
      obtain hFull | hAborting := h hOpen hWaiting
      · exact Or.inl (Int.le_trans hFull (Int.le_add_one (Int.le_refl _)))
      · exact Or.inr hAborting
    · exact h
    next hFull _ =>
      exact fun _ _ => Or.inl (Int.not_lt.mp hFull)

lemma Draining.release (h : Draining options pool) (reusable : Bool) (now : Int) :
    Draining options (pool.release options conn reusable now) := by
  rw [Pool.release]
  split
  · split
    next hQueue =>
      intro hOpen _
      exact h hOpen (by rw [hQueue]; exact cons_ne_nil _ _)
    next hQueue =>
      exact Draining.of_queue_nil hQueue
  · exact Draining.drainQueue options _

lemma draining_step (hBalanced : Balanced options [] [] pool) (h : Draining options pool) (event : PoolEvent) :
    Draining options (pool.step options event) := by
  cases event with
  | acquire now =>
    change Draining options (Pool.acquire options now pool)
    rw [Pool.acquire]
    split
    · exact h
    · exact Draining.acquireLoop hBalanced.call h now
  | staleClosed task now =>
    rw [step]
    split
    · exact Draining.acquireLoop (hBalanced.takeStalled (by assumption)) h now
    · exact h
  | connected =>
    rw [step]
    split <;> exact h
  | connectFailed =>
    rw [step]
    split
    · exact Draining.drainQueue options _
    · exact h
  | initialized =>
    rw [step]
    split <;> exact h
  | initializeFailed =>
    rw [step]
    split
    · exact fun _ _ => Or.inr (append_ne_nil_of_right_ne_nil _ (cons_ne_nil _ _))
    · exact h
  | aborted =>
    rw [step]
    split
    · exact Draining.drainQueue options _
    · exact h
  | timeout =>
    rw [step]
    split
    next hMem =>
      exact fun hOpen _ => h hOpen (ne_nil_of_mem hMem)
    · exact h
  | release conn task reusable now =>
    rw [step]
    split
    · have hTaken : Draining options { pool with leased := pool.leased.erase (conn, task) } := h
      exact hTaken.release reusable now
    · exact h
  | close =>
    change Draining options pool.close
    rw [Pool.close]
    split
    · exact h
    · exact Draining.of_queue_nil rfl
  | closeFinished =>
    rw [step]
    split
    next hClosing =>
      intro hOpen
      have hNone := hBalanced.open_closing hOpen
      rw [hClosing] at hNone
      cases hNone
    · exact h
  | breaks =>
    rw [step]
    split <;> exact h

section Lending

/-- Whatever is leased afterwards was leased before or is fit for use. -/
def LendsFit (before after : Pool) : Prop :=
  ∀ lease ∈ after.leased, lease ∈ before.leased ∨ lease.1 ∉ after.shut ∧ lease.1 ∉ after.broken

variable {before : Pool}

lemma LendsFit.of_subset {after : Pool} (h : after.leased ⊆ before.leased) : LendsFit before after :=
  fun _ hLease => Or.inl (h hLease)

lemma LendsFit.lend (h : pool.leased ⊆ before.leased) (hShut : conn ∉ pool.shut) (hBroken : conn ∉ pool.broken) :
    LendsFit before (pool.lend conn task) := by
  intro lease hLease
  simp only [Pool.lend, answer, mem_append, mem_singleton] at hLease
  obtain hOld | rfl := hLease
  · exact Or.inl (h hOld)
  · exact Or.inr ⟨hShut, hBroken⟩

lemma drainQueue_leased (opts : PoolOptions) (pool : Pool) : (pool.drainQueue opts).leased = pool.leased := by
  suffices hLoop : ∀ waiters (pool : Pool), (drainLoop opts waiters pool).leased = pool.leased from
    hLoop pool.queue pool
  intro waiters
  induction waiters with
  | nil => exact fun _ => rfl
  | cons waiter waiters ih =>
    intro pool
    rw [drainLoop]
    split
    · rw [ih]
      rfl
    · rfl

lemma LendsFit.acquireLoop (h : pool.leased ⊆ before.leased) (now : Int) :
    LendsFit before (pool.acquireLoop options task now) := by
  rw [Pool.acquireLoop]
  split
  · split
    · exact LendsFit.of_subset h
    next hUsable =>
      rw [unusable, Bool.or_eq_true, Bool.or_eq_true, decide_eq_true_eq, decide_eq_true_eq, not_or, not_or] at hUsable
      exact LendsFit.lend h hUsable.1.1 hUsable.1.2
  · split_ifs <;> exact LendsFit.of_subset h

lemma LendsFit.release (h : pool.leased ⊆ before.leased) (reusable : Bool) (now : Int) :
    LendsFit before (pool.release options conn reusable now) := by
  rw [Pool.release]
  split
  next hReusable =>
    simp only [Bool.and_eq_true, decide_eq_true_eq] at hReusable
    split
    · exact LendsFit.lend h hReusable.1.2 hReusable.2
    · exact LendsFit.of_subset h
  · refine LendsFit.of_subset ?_
    rw [drainQueue_leased]
    exact h

lemma lendsFit_step (hBalanced : Balanced options [] [] pool) (event : PoolEvent) :
    LendsFit pool (pool.step options event) := by
  have hSame : LendsFit pool pool := LendsFit.of_subset fun _ h => h
  cases event with
  | acquire now =>
    change LendsFit pool (Pool.acquire options now pool)
    rw [Pool.acquire]
    split
    · exact LendsFit.of_subset fun _ h => h
    · exact LendsFit.acquireLoop (fun _ h => h) now
  | staleClosed task now =>
    rw [step]
    split
    · exact LendsFit.acquireLoop (fun _ h => h) now
    · exact hSame
  | connected =>
    rw [step]
    split <;> exact LendsFit.of_subset fun _ h => h
  | connectFailed =>
    rw [step]
    split
    · refine LendsFit.of_subset ?_
      rw [answer, drainQueue_leased]
      exact fun _ h => h
    · exact hSame
  | initialized =>
    rw [step]
    split
    next hMem =>
      obtain ⟨hShut, hBroken⟩ := hBalanced.healthy _ hMem
      exact LendsFit.lend (fun _ h => h) hShut hBroken
    · exact hSame
  | initializeFailed =>
    rw [step]
    split <;> exact LendsFit.of_subset fun _ h => h
  | aborted =>
    rw [step]
    split
    · refine LendsFit.of_subset ?_
      rw [answer, drainQueue_leased]
      exact fun _ h => h
    · exact hSame
  | timeout =>
    rw [step]
    split <;> exact LendsFit.of_subset fun _ h => h
  | release conn task reusable now =>
    rw [step]
    split
    · exact LendsFit.release (fun _ h => mem_of_mem_erase h) reusable now
    · exact hSame
  | close =>
    change LendsFit pool pool.close
    rw [Pool.close]
    split <;> exact LendsFit.of_subset fun _ h => h
  | closeFinished | breaks =>
    rw [step]
    split <;> exact LendsFit.of_subset fun _ h => h

end Lending

lemma balanced_empty (opts : PoolOptions) : Balanced opts [] [] empty where
  active_eq := rfl
  within := Int.natCast_nonneg _
  tasks_eq _ := rfl
  conns_le _ := Nat.zero_le _
  known _ hMem := by cases hMem
  healthy _ hMem := by cases hMem
  separate := Or.inl rfl
  open_closing _ := rfl

lemma sound_run (opts : PoolOptions) (events : List PoolEvent) :
    Balanced opts [] [] (run opts events) ∧ Draining opts (run opts events) := by
  refine foldlRecOn (motive := fun pool => Balanced opts [] [] pool ∧ Draining opts pool) events
    (step opts) ⟨balanced_empty opts, Draining.of_queue_nil rfl⟩ ?_
  intro pool h event _
  exact ⟨balanced_step h.1 event, draining_step h.1 h.2 event⟩

lemma Balanced.conns_nodup (h : Balanced options [] [] pool) :
    (pool.idle.map Prod.fst ++ pool.leased.map Prod.fst ++ pool.initializing.map Prod.snd ++
      pool.closing.getD []).Nodup := by
  rw [nodup_iff_count]
  intro conn
  have hConns := h.conns_le conn
  have hGiven := given_le_one pool.nextConn conn
  rw [conns] at hConns
  simp only [count_append]
  omega

lemma Balanced.answers_nodup (h : Balanced options [] [] pool) : (pool.answers.map Prod.fst).Nodup := by
  rw [nodup_iff_count]
  intro task
  have hTasks := h.tasks_eq task
  have hGiven := given_le_one pool.nextTask task
  rw [tasks] at hTasks
  omega

lemma Draining.progress (hBalanced : Balanced options [] [] pool) (h : Draining options pool)
    (hOpen : pool.closed = false) (hWaiting : pool.queue ≠ []) :
    pool.leased ≠ [] ∨ pool.connecting ≠ [] ∨ pool.initializing ≠ [] ∨ pool.aborting ≠ [] := by
  obtain hFull | hAborting := h hOpen hWaiting
  · -- With waiters none is idle, so the connections counted are leased or being opened.
    have hActive := hBalanced.active_eq
    have hPositive := options.positive
    rw [counted, hBalanced.separate.resolve_right hWaiting, hBalanced.open_closing hOpen] at hActive
    by_contra hNone
    simp only [not_or, not_not] at hNone
    rw [hNone.1, hNone.2.1, hNone.2.2.1] at hActive
    simp only [length_nil, Option.getD_none] at hActive
    omega
  · exact Or.inr (Or.inr (Or.inr hAborting))

/-- After every run: `active` is what is idle, leased or being opened, with what `close` still closes, and
within the limit; no connection is at two places or has two lessees; the next step hands out no closed or
broken one; no acquire is settled twice; and waiters of an open pool are not left alone. -/
theorem pool_accounts (options : PoolOptions) (events : List PoolEvent) :
    let pool := run options events
    (pool.active = ((pool.idle.length + pool.leased.length + (pool.connecting.length + pool.initializing.length) +
        (pool.closing.getD []).length : Nat) : Int) ∧ pool.active ≤ options.maxConnections) ∧
      (pool.idle.map Prod.fst ++ pool.leased.map Prod.fst ++ pool.initializing.map Prod.snd ++
        pool.closing.getD []).Nodup ∧
      (∀ event, ∀ lease ∈ (pool.step options event).leased, lease ∈ pool.leased ∨
        lease.1 ∉ (pool.step options event).shut ∧ lease.1 ∉ (pool.step options event).broken) ∧
      (pool.answers.map Prod.fst).Nodup ∧
      (pool.closed = false → pool.queue ≠ [] →
        pool.leased ≠ [] ∨ pool.connecting ≠ [] ∨ pool.initializing ≠ [] ∨ pool.aborting ≠ []) := by
  intro pool
  obtain ⟨hBalanced, hDraining⟩ := sound_run options events
  refine ⟨⟨?_, hBalanced.within⟩, hBalanced.conns_nodup, ?_, hBalanced.answers_nodup, ?_⟩
  · rw [hBalanced.active_eq, counted, length_nil, Int.natCast_zero, Int.add_zero]
  · exact fun event => lendsFit_step hBalanced event
  · exact hDraining.progress hBalanced

/-- A pool of one connection: the second acquire waits while the first opens, and the failure of the first
connection after it was made leaves an abort under way. -/
theorem pool_accounts_failed_initialize :
    let options : PoolOptions := ⟨1, 1000, 4, Nat.le_refl 1⟩
    let pool := run options
      [.acquire 0, .acquire 0, .connected 0, .initializeFailed 0 0 ⟨.authFailed, "Redis AUTH did not return OK."⟩]
    pool.closed = false ∧ pool.queue = [1] ∧ pool.active = 0 ∧
      (pool.leased ≠ [] ∨ pool.connecting ≠ [] ∨ pool.initializing ≠ [] ∨ pool.aborting ≠ []) := by
  refine ⟨by decide, by decide, by decide, ?_⟩
  exact (pool_accounts ⟨1, 1000, 4, Nat.le_refl 1⟩ _).2.2.2.2 (by decide) (by decide)

end Sloppy.Redis.Pool
