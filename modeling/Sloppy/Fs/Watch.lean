import Sloppy.Core.RingQueue

/-! # Watching a single file

`sl_fs_watch_open` and `sl_fs_watch_next` of `fs.c` for a watch that is not on a directory. A call
hands out a queued event, or looks at the file and compares it with what the last scan saw.
-/

namespace Sloppy.Fs

inductive NodeKind where
  | missing | file | directory | other
  deriving DecidableEq

structure Stat where
  kind : NodeKind
  size : Nat
  modifiedNsec : Nat
  present : Bool
  deriving DecidableEq

def Stat.zero : Stat := ⟨.missing, 0, 0, false⟩

inductive WatchEventKind where
  | created | modified | deleted | overflow
  deriving DecidableEq

structure QueuedEvent where
  kind : WatchEventKind
  path : List UInt8
  isDirectory : Bool

structure WatchEvent extends QueuedEvent where
  overflow : Bool

structure WatchHandle where
  path : List UInt8
  queue : RingQueue QueuedEvent
  snapshot : Option Stat
  overflowPending : Bool
  closed : Bool

structure WatchOptions where
  recursive : Bool
  queueCapacity : Nat

def watchEventPathCapacity : Nat := 4096

def WatchOptions.effectiveCapacity (options : WatchOptions) : Nat :=
  if options.queueCapacity = 0 then 16 else options.queueCapacity

def watchEnqueue (watch : WatchHandle) (kind : WatchEventKind) (isDirectory : Bool) : Except StatusCode WatchHandle :=
  if watch.closed then .error .staleResource
  else if watchEventPathCapacity < watch.path.length then .ok { watch with overflowPending := true }
  else
    match watch.queue.push ⟨kind, watch.path, isDirectory⟩ with
    | .ok queue => .ok { watch with queue }
    | .error .capacityExceeded => .ok { watch with overflowPending := true }
    | .error code => .error code

/-- Whether the caller's arena takes the copy of the path is `room`. -/
def watchPop (watch : WatchHandle) (room : Bool) : WatchHandle × Except StatusCode WatchEvent :=
  match watch.queue.popFront with
  | some (event, queue) =>
    if room then ({ watch with queue }, .ok ⟨event, false⟩) else (watch, .error .outOfMemory)
  | none =>
    if watch.overflowPending then
      ({ watch with overflowPending := false }, .ok ⟨⟨.overflow, [], false⟩, true⟩)
    else (watch, .error .deadlineExceeded)

/-- The comparison of a scan. The variable `status` still has the answer of `stat` when no event is
queued. -/
def watchCompare (watch : WatchHandle) (stat : Stat) (status : Except StatusCode WatchHandle) :
    Except StatusCode WatchHandle :=
  match watch.snapshot with
  | none => .ok watch
  | some previous =>
    if !previous.present && stat.present then watchEnqueue watch .created (stat.kind == .directory)
    else if previous.present && !stat.present then
      watchEnqueue watch .deleted (previous.kind == .directory)
    else if previous.present && stat.present && (previous.kind != stat.kind ||
        previous.size != stat.size || previous.modifiedNsec != stat.modifiedNsec) then
      watchEnqueue watch .modified (stat.kind == .directory)
    else status

def watchUpdateFileSnapshot (watch : WatchHandle) (stat : Stat) : WatchHandle :=
  { watch with snapshot := some stat }

def watchScanFile (watch : WatchHandle) (seen : Except StatusCode Stat) : Except StatusCode WatchHandle :=
  match seen with
  | .ok stat => (watchCompare watch stat (.ok watch)).map (watchUpdateFileSnapshot · stat)
  | .error .outOfRange =>
    (watchCompare watch .zero (.error .outOfRange)).map (watchUpdateFileSnapshot · .zero)
  | .error code => .error code

def watchNext (watch : WatchHandle) (seen : Except StatusCode Stat) (room : Bool) :
    WatchHandle × Except StatusCode WatchEvent :=
  if watch.closed then (watch, .error .staleResource)
  else
    match watchPop watch room with
    | (watch, .error .deadlineExceeded) =>
      match watchScanFile watch seen with
      | .ok scanned => watchPop scanned room
      | .error code => (watch, .error code)
    | answer => answer

def watchOpen (path : List UInt8) (options : WatchOptions) (seen : Except StatusCode Stat) :
    Except StatusCode WatchHandle :=
  let watch : WatchHandle := ⟨path, .init options.effectiveCapacity, none, false, false⟩
  if path = [] ∨ 0 ∈ path then .error .invalidArgument
  else if options.recursive then .error .unsupported
  else if 256 < options.effectiveCapacity then .error .capacityExceeded
  else
    match seen with
    | .ok stat => .ok (watchUpdateFileSnapshot watch stat)
    | .error .outOfRange => .ok (watchUpdateFileSnapshot watch .zero)
    | .error code => .error code

/-! ## What a call should report -/

/-- A file that exists, as a scan sees it. -/
structure File where
  kind : NodeKind
  size : Nat
  modifiedNsec : Nat
  deriving DecidableEq

def File.stat (file : File) : Stat := ⟨file.kind, file.size, file.modifiedNsec, true⟩

/-- The answer of `sl_fs_stat`: a missing file is `OUT_OF_RANGE`. -/
def statAnswer : Option File → Except StatusCode Stat
  | some file => .ok file.stat
  | none => .error .outOfRange

/-- What a call reports when the file was `before` at the last scan. -/
def report (path : List UInt8) : Option File → Option File → Except StatusCode WatchEvent
  | none, none => .error .deadlineExceeded
  | none, some now => .ok ⟨⟨.created, path, now.kind == .directory⟩, false⟩
  | some before, none => .ok ⟨⟨.deleted, path, before.kind == .directory⟩, false⟩
  | some before, some now =>
    if before = now then .error .deadlineExceeded
    else .ok ⟨⟨.modified, path, now.kind == .directory⟩, false⟩

/-- The calls of a history: what each scan would see, and whether the arena has room. -/
def watchAnswers (watch : WatchHandle) : List (Option File × Bool) → List (Except StatusCode WatchEvent)
  | [] => []
  | (now, room) :: rest =>
    (watchNext watch (statAnswer now) room).2 :: watchAnswers (watchNext watch (statAnswer now) room).1 rest

def reports (path : List UInt8) (before : Option File) :
    List (Option File × Bool) → List (Except StatusCode WatchEvent)
  | [] => []
  | (now, _) :: rest => report path before now :: reports path now rest

/-- The file is not missing at two successive scans, and a change finds room for its path in the
queued event and in the arena. -/
def Reportable (path : List UInt8) (before : Option File) : List (Option File × Bool) → Prop
  | [] => True
  | (now, room) :: rest =>
    (before ≠ none ∨ now ≠ none) ∧
      (before ≠ now → path.length ≤ watchEventPathCapacity ∧ room = true) ∧ Reportable path now rest

def snapshotOf (file : Option File) : Stat := file.elim .zero File.stat

structure InStep (watch : WatchHandle) (path : List UInt8) (before : Option File) : Prop where
  path_eq : watch.path = path
  opened : watch.closed = false
  queue : watch.queue.Holds []
  room : 0 < watch.queue.capacity
  overflow : watch.overflowPending = false
  snapshot : watch.snapshot = some (snapshotOf before)

section

variable {watch : WatchHandle} {path : List UInt8} {before now : Option File} {room : Bool}

lemma watchOpen_inStep {options : WatchOptions} (h : watchOpen path options (statAnswer before) = .ok watch) :
    InStep watch path before := by
  unfold watchOpen at h
  split at h
  · cases h
  split at h
  · cases h
  split at h
  · cases h
  have hStart : watch = watchUpdateFileSnapshot ⟨path, .init options.effectiveCapacity, none, false, false⟩
      (snapshotOf before) := by
    cases before <;> exact (Except.ok.inj h).symm
  rw [hStart]
  refine ⟨rfl, rfl, RingQueue.holds_init _, ?_, rfl, rfl⟩
  simp only [watchUpdateFileSnapshot, RingQueue.init, RingQueue.capacity, List.length_replicate,
    WatchOptions.effectiveCapacity]
  split <;> omega

lemma InStep.watchPop (h : InStep watch path before) : watchPop watch room = (watch, .error .deadlineExceeded) := by
  rw [Fs.watchPop, h.queue.popFront_nil]
  simp only [h.overflow, Bool.false_eq_true, if_false]

lemma InStep.seen (h : InStep watch path before) (now : Option File) :
    InStep (watchUpdateFileSnapshot watch (snapshotOf now)) path now :=
  ⟨h.path_eq, h.opened, h.queue, h.room, h.overflow, rfl⟩

lemma InStep.watchNext (h : InStep watch path before) (now : Option File) : watchNext watch (statAnswer now) room =
      match (watchCompare watch (snapshotOf now) ((statAnswer now).map fun _ => watch)).map
        (watchUpdateFileSnapshot · (snapshotOf now)) with
      | .ok scanned => Fs.watchPop scanned room
      | .error code => (watch, .error code) := by
  rw [Fs.watchNext, if_neg (by rw [h.opened]; decide), h.watchPop]
  cases now <;> rfl

/-- A scan that finds a change queues the event that is to be reported. -/
lemma InStep.compare_changed (h : InStep watch path before) (hNe : before ≠ now)
    (status : Except StatusCode WatchHandle) :
    ∃ kind isDirectory, report path before now = .ok ⟨⟨kind, path, isDirectory⟩, false⟩ ∧
      watchCompare watch (snapshotOf now) status = watchEnqueue watch kind isDirectory := by
  simp only [watchCompare, h.snapshot]
  cases before with
  | none =>
    cases now with
    | none => exact absurd rfl hNe
    | some => exact ⟨_, _, rfl, rfl⟩
  | some before =>
    cases now with
    | none => exact ⟨_, _, rfl, rfl⟩
    | some now =>
      have hFiles : before ≠ now := fun hEq => hNe (congrArg some hEq)
      refine ⟨.modified, now.kind == .directory, if_neg hFiles, ?_⟩
      cases before
      cases now
      simp [snapshotOf, File.stat] at hFiles ⊢
      exact fun hKind hSize hTime => absurd hTime (hFiles hKind hSize)

lemma InStep.next_changed (h : InStep watch path before) (hNe : before ≠ now)
    (hFits : path.length ≤ watchEventPathCapacity) :
    (Fs.watchNext watch (statAnswer now) true).2 = report path before now ∧
      InStep (Fs.watchNext watch (statAnswer now) true).1 path now := by
  obtain ⟨kind, isDirectory, hReport, hCompare⟩ := h.compare_changed hNe ((statAnswer now).map fun _ => watch)
  obtain ⟨queue, hPush, hHolds, hCapacity⟩ := h.queue.push h.room ⟨kind, path, isDirectory⟩
  obtain ⟨empty, hPop, hEmpty, hKept⟩ := hHolds.popFront_cons
  have hQueued : watchEnqueue watch kind isDirectory = .ok { watch with queue } := by
    rw [watchEnqueue, if_neg (by rw [h.opened]; decide), h.path_eq, if_neg (Nat.not_lt.mpr hFits), hPush]
  rw [h.watchNext, hCompare, hQueued, hReport]
  simp only [Except.map, watchUpdateFileSnapshot, Fs.watchPop, hPop, if_true]
  refine ⟨trivial, h.path_eq, h.opened, hEmpty, ?_, h.overflow, rfl⟩
  rw [hKept, hCapacity]
  exact h.room

lemma InStep.next_unreportable (h : InStep watch path before) (hNe : before ≠ now)
    (hNot : ¬ (path.length ≤ watchEventPathCapacity ∧ room = true)) :
    (Fs.watchNext watch (statAnswer now) room).2 ≠ report path before now := by
  obtain ⟨kind, isDirectory, hReport, hCompare⟩ := h.compare_changed hNe ((statAnswer now).map fun _ => watch)
  rw [h.watchNext, hCompare, hReport, watchEnqueue, if_neg (by rw [h.opened]; decide), h.path_eq]
  by_cases hFits : path.length ≤ watchEventPathCapacity
  · obtain ⟨queue, hPush, hHolds, -⟩ := h.queue.push h.room ⟨kind, path, isDirectory⟩
    obtain ⟨empty, hPop, -⟩ := hHolds.popFront_cons
    have hRoom : room = false := Bool.eq_false_iff.mpr fun hRoom => hNot ⟨hFits, hRoom⟩
    rw [if_neg (Nat.not_lt.mpr hFits), hPush]
    simp [Except.map, watchUpdateFileSnapshot, Fs.watchPop, hPop, hRoom]
  · rw [if_pos (Nat.not_le.mp hFits)]
    simp [Except.map, watchUpdateFileSnapshot, Fs.watchPop, h.queue.popFront_nil]

/-- A file that is there and did not change only has its snapshot taken again. -/
lemma InStep.next_same {file : File} (h : InStep watch path (some file)) :
    Fs.watchNext watch (statAnswer (some file)) room =
      (watchUpdateFileSnapshot watch (snapshotOf (some file)), .error .deadlineExceeded) := by
  have hSame : watchCompare watch (snapshotOf (some file)) (.ok watch) = .ok watch := by
    simp [watchCompare, h.snapshot, snapshotOf, File.stat]
  rw [h.watchNext, statAnswer, Except.map, hSame]
  exact (h.seen _).watchPop

/-- A file that stays missing leaves the scan with the status of `stat`. -/
lemma InStep.next_missing (h : InStep watch path none) :
    Fs.watchNext watch (statAnswer none) room = (watch, .error .outOfRange) := by
  have hStatus (status : Except StatusCode WatchHandle) : watchCompare watch (snapshotOf none) status = status := by
    simp [watchCompare, h.snapshot, snapshotOf, Stat.zero]
  rw [h.watchNext, hStatus]
  rfl

lemma InStep.answers_iff (h : InStep watch path before) (history : List (Option File × Bool)) :
    watchAnswers watch history = reports path before history ↔ Reportable path before history := by
  induction history generalizing watch before with
  | nil => exact iff_of_true rfl trivial
  | cons call rest ih =>
    obtain ⟨now, room⟩ := call
    rw [watchAnswers, reports, Reportable, List.cons.injEq]
    by_cases hEq : before = now
    · subst hEq
      cases before with
      | none =>
        rw [h.next_missing]
        simp [report]
      | some file =>
        rw [h.next_same, ih (h.seen (some file))]
        simp [report]
    by_cases hFits : path.length ≤ watchEventPathCapacity ∧ room = true
    · obtain ⟨hLength, rfl⟩ := hFits
      obtain ⟨hAnswer, hNext⟩ := h.next_changed hEq hLength
      have hSeen : before ≠ none ∨ now ≠ none := by
        by_contra hBoth
        push Not at hBoth
        exact hEq (hBoth.1.trans hBoth.2.symm)
      rw [ih hNext]
      exact ⟨fun hRest => ⟨hSeen, fun _ => ⟨hLength, rfl⟩, hRest.2⟩, fun hAll => ⟨hAnswer, hAll.2.2⟩⟩
    · exact iff_of_false (fun hAnswers => h.next_unreportable hEq hFits hAnswers.1) fun hAll => hFits (hAll.2.1 hEq)

end

/-- The calls on a watched file answer as they should over a whole history exactly when the file is never
missing at two successive scans and every change finds room for its path. -/
theorem file_watch_reports_iff {path : List UInt8} {options : WatchOptions} {first : Option File}
    {watch : WatchHandle} (hOpen : watchOpen path options (statAnswer first) = .ok watch)
    (history : List (Option File × Bool)) :
    watchAnswers watch history = reports path first history ↔ Reportable path first history :=
  (watchOpen_inStep hOpen).answers_iff history

theorem file_watch_created_and_deleted : ∃ watch, watchOpen [97] ⟨false, 0⟩ (statAnswer none) = .ok watch ∧
      watchAnswers watch [(some ⟨.file, 0, 1⟩, true), (none, true)] =
        reports [97] none [(some ⟨.file, 0, 1⟩, true), (none, true)] :=
  ⟨_, rfl, (@file_watch_reports_iff [97] ⟨false, 0⟩ none _ rfl _).mpr (by simp [Reportable, watchEventPathCapacity])⟩

theorem file_watch_missing_twice : ∃ watch, watchOpen [97] ⟨false, 0⟩ (statAnswer none) = .ok watch ∧
      watchAnswers watch [(none, true)] = [.error .outOfRange] ∧
      reports [97] none [(none, true)] = [.error .deadlineExceeded] :=
  ⟨_, rfl, rfl, rfl⟩

end Sloppy.Fs
