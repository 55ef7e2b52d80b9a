import Sloppy.Lib.Run

/-! # Stored cookie sessions with rotation

`cookieSessionMiddleware` of `auth.js` for a scheme with a memory store and rotation, step by step with other requests
between the awaits. A session that was revoked by hand comes back only through a request that had loaded it before.
-/

namespace Sloppy.Auth

open Lib.Run List

section

variable {Claims Metadata : Type}

structure SessionRecord (Claims Metadata : Type) where
  id : Nat
  claims : Claims
  createdAt : Nat
  lastSeenAt : Nat
  expiresAt : Option Nat
  idleExpiresAt : Option Nat
  revokedAt : Option Nat
  csrf : Option Nat
  metadata : Option Metadata
  deriving DecidableEq

def sessionRecordExpired (record : SessionRecord Claims Metadata) (current : Nat) : Bool :=
  record.revokedAt.isSome || record.expiresAt.any (· ≤ current) || record.idleExpiresAt.any (· ≤ current)

/-! ## The memory store -/

/-- The map of the store in the order in which its keys were first set. -/
structure MemorySessionStore (Claims Metadata : Type) where
  maxEntries : Nat
  sessions : List (SessionRecord Claims Metadata)

namespace MemorySessionStore

variable (store : MemorySessionStore Claims Metadata)

def load (id : Nat) : Option (SessionRecord Claims Metadata) := store.sessions.find? fun record => record.id == id

def set (record : SessionRecord Claims Metadata) : MemorySessionStore Claims Metadata :=
  { store with
    sessions :=
      if (store.load record.id).isSome then
        store.sessions.map fun own => if own.id = record.id then record else own
      else store.sessions ++ [record] }

def trim : MemorySessionStore Claims Metadata :=
  { store with sessions := store.sessions.drop (store.sessions.length - store.maxEntries) }

def create (record : SessionRecord Claims Metadata) : MemorySessionStore Claims Metadata := (store.set record).trim

def touch (id lastSeenAt : Nat) (idleExpiresAt : Option Nat) : MemorySessionStore Claims Metadata :=
  match store.load id with
  | none => store
  | some record =>
    if record.revokedAt.isSome then store
    else store.set { record with lastSeenAt := lastSeenAt, idleExpiresAt := idleExpiresAt }

def revoke (id revokedAt : Nat) : MemorySessionStore Claims Metadata :=
  match store.load id with
  | none => store
  | some record => store.set { record with revokedAt := some revokedAt }

def cleanup (now : Nat) : MemorySessionStore Claims Metadata :=
  { store with sessions := store.sessions.filter fun record => !sessionRecordExpired record now }

end MemorySessionStore

/-! ## Requests -/

structure SessionScheme where
  idleTimeoutMs : Option Nat
  /-- Whether requests that are not safe must show the CSRF token of their session. -/
  csrf : Bool

def SessionScheme.idleExpiresAt (scheme : SessionScheme) (currentMs : Nat) : Option Nat :=
  scheme.idleTimeoutMs.map (currentMs + ·)

inductive Phase (Claims Metadata : Type) where
  | loading (current : Nat) (record : Option (SessionRecord Claims Metadata))
  | handling (record : SessionRecord Claims Metadata)
  /-- The old id was revoked, and the rotated record is still to be created. -/
  | rotating (record : SessionRecord Claims Metadata) (currentMs : Nat)
  | done

/-- A request with the session id of its cookie. It is overtaken once that id was revoked by hand under way. -/
structure SessionRequest (Claims Metadata : Type) where
  sid : Nat
  phase : Phase Claims Metadata
  overtaken : Bool

/-- A record as it was created, with the id it was rotated from, and whether that id was revoked by hand before. -/
structure Issue (Claims Metadata : Type) where
  record : SessionRecord Claims Metadata
  parent : Option Nat
  late : Bool

/-- `revoked` and `issued` keep what happened: the ids revoked by `signOut` or `session.revoke`, and the records. -/
structure Site (Claims Metadata : Type) where
  store : MemorySessionStore Claims Metadata
  requests : List (SessionRequest Claims Metadata)
  nextToken : Nat
  revoked : List Nat
  issued : List (Issue Claims Metadata)

inductive SessionEvent (Claims Metadata : Type) where
  | signIn (claims : Claims) (absoluteLifetimeMs : Nat) (metadata : Option Metadata) (currentMs : Nat)
  | arrive (sid current : Nat)
  | resume (index : Nat) (safeMethod : Bool) (header cookie : Option Nat)
  | revoke (sid now : Nat)
  /-- The handler returns a result with a `cookie` method, or another one. -/
  | handled (index : Nat) (cookie : Bool) (currentMs : Nat)
  | create (index : Nat)
  | cleanup (now : Nat)

namespace Site

variable (scheme : SessionScheme) (site : Site Claims Metadata)

def start (maxEntries : Nat) : Site Claims Metadata := ⟨⟨maxEntries, []⟩, [], 0, [], []⟩

def setPhase (index : Nat) (phase : Phase Claims Metadata) : Site Claims Metadata :=
  { site with requests := site.requests.modify index fun request => { request with phase := phase } }

def signedIn (claims : Claims) (absoluteLifetimeMs : Nat) (metadata : Option Metadata) (currentMs : Nat) :
    SessionRecord Claims Metadata :=
  { id := site.nextToken
    claims := claims
    createdAt := currentMs
    lastSeenAt := currentMs
    expiresAt := some (currentMs + absoluteLifetimeMs)
    idleExpiresAt := scheme.idleExpiresAt currentMs
    revokedAt := none
    csrf := if scheme.csrf then some (site.nextToken + 1) else none
    metadata := metadata }

def signIn (claims : Claims) (absoluteLifetimeMs : Nat) (metadata : Option Metadata) (currentMs : Nat) :
    Site Claims Metadata :=
  let record := site.signedIn scheme claims absoluteLifetimeMs metadata currentMs
  { site with
    store := site.store.create record
    nextToken := site.nextToken + 2
    issued := ⟨record, none, false⟩ :: site.issued }

def arrive (sid current : Nat) : Site Claims Metadata :=
  { site with requests := site.requests ++ [⟨sid, .loading current (site.store.load sid), false⟩] }

def verified (index sid current : Nat) (record : Option (SessionRecord Claims Metadata)) (safeMethod : Bool)
    (header cookie : Option Nat) : Site Claims Metadata :=
  match record with
  | none => site.setPhase index .done
  | some record =>
    if sessionRecordExpired record current then
      { site.setPhase index .done with store := site.store.revoke sid current }
    else if scheme.csrf = true ∧ safeMethod = false ∧
        ¬ (record.csrf.isSome = true ∧ header = record.csrf ∧ cookie = record.csrf) then
      site.setPhase index .done
    else site.setPhase index (.handling record)

def resume (index : Nat) (safeMethod : Bool) (header cookie : Option Nat) : Site Claims Metadata :=
  match site.requests[index]? with
  | some ⟨sid, .loading current record, _⟩ => site.verified scheme index sid current record safeMethod header cookie
  | _ => site

def revoke (sid now : Nat) : Site Claims Metadata :=
  if sid < site.nextToken then
    { site with
      store := site.store.revoke sid now
      requests := site.requests.map fun request =>
        if request.sid = sid then { request with overtaken := true } else request
      revoked := sid :: site.revoked }
  else site

/-- The middleware after the handler, up to the rotated record. -/
def rotate (index sid : Nat) (record : SessionRecord Claims Metadata) (cookie : Bool) (currentMs : Nat) :
    Site Claims Metadata :=
  if cookie = false then
    { site.setPhase index .done with store := site.store.touch sid currentMs (scheme.idleExpiresAt currentMs) }
  else if record.expiresAt.any (· ≤ currentMs) then
    { site.setPhase index .done with store := site.store.revoke sid currentMs }
  else { site.setPhase index (.rotating record currentMs) with store := site.store.revoke sid currentMs }

def handled (index : Nat) (cookie : Bool) (currentMs : Nat) : Site Claims Metadata :=
  match site.requests[index]? with
  | some ⟨sid, .handling record, _⟩ => site.rotate scheme index sid record cookie currentMs
  | _ => site

/-- The rotated record; its id is drawn before the await, and new in either case. -/
def rotated (record : SessionRecord Claims Metadata) (currentMs : Nat) : SessionRecord Claims Metadata :=
  { id := site.nextToken
    claims := record.claims
    createdAt := record.createdAt
    lastSeenAt := currentMs
    expiresAt := record.expiresAt
    idleExpiresAt := scheme.idleExpiresAt currentMs
    revokedAt := none
    csrf := if scheme.csrf then some (site.nextToken + 1) else record.csrf
    metadata := record.metadata }

def create (index : Nat) : Site Claims Metadata :=
  match site.requests[index]? with
  | some ⟨sid, .rotating record currentMs, _⟩ =>
    { site.setPhase index .done with
      store := site.store.create (site.rotated scheme record currentMs)
      nextToken := site.nextToken + 2
      issued := ⟨site.rotated scheme record currentMs, some sid, decide (sid ∈ site.revoked)⟩ :: site.issued }
  | _ => site

def step : SessionEvent Claims Metadata → Site Claims Metadata
  | .signIn claims absoluteLifetimeMs metadata currentMs =>
    site.signIn scheme claims absoluteLifetimeMs metadata currentMs
  | .arrive sid current => site.arrive sid current
  | .resume index safeMethod header cookie => site.resume scheme index safeMethod header cookie
  | .revoke sid now => site.revoke sid now
  | .handled index cookie currentMs => site.handled scheme index cookie currentMs
  | .create index => site.create scheme index
  | .cleanup now => { site with store := site.store.cleanup now }

def run (maxEntries : Nat) (events : List (SessionEvent Claims Metadata)) : Site Claims Metadata :=
  events.foldl (step scheme) (start maxEntries)

end Site

end

variable {Claims Metadata : Type}

/-! ## The store -/

namespace MemorySessionStore

variable {store : MemorySessionStore Claims Metadata} {record : SessionRecord Claims Metadata}

variable {id : Nat}

lemma mem_of_load (h : store.load id = some record) : record ∈ store.sessions ∧ record.id = id :=
  ⟨mem_of_find?_eq_some h, by simpa using find?_some h⟩

lemma ne_of_load_none (h : store.load id = none) (hRecord : record ∈ store.sessions) : record.id ≠ id := by
  simpa using find?_eq_none.mp h record hRecord

variable {new : SessionRecord Claims Metadata}

lemma mem_set (h : record ∈ (store.set new).sessions) :
    record = new ∨ record ∈ store.sessions ∧ record.id ≠ new.id := by
  unfold set at h
  cases hLoad : store.load new.id with
  | none =>
    rw [hLoad] at h
    rcases mem_append.mp h with hOld | hNew
    · exact Or.inr ⟨hOld, ne_of_load_none hLoad hOld⟩
    · exact Or.inl (mem_singleton.mp hNew)
  | some =>
    rw [hLoad] at h
    obtain ⟨old, hOld, rfl⟩ := mem_map.mp h
    split
    · exact Or.inl rfl
    · exact Or.inr ⟨hOld, by assumption⟩

lemma mem_create (h : record ∈ (store.create new).sessions) : record = new ∨ record ∈ store.sessions :=
  (mem_set (mem_of_mem_drop h)).imp_right And.left

lemma mem_revoke {revokedAt : Nat} (h : record ∈ (store.revoke id revokedAt).sessions) :
    record ∈ store.sessions ∧ record.id ≠ id ∨
      ∃ old ∈ store.sessions, old.id = id ∧ record = { old with revokedAt := some revokedAt } := by
  unfold revoke at h
  split at h
  next hNone =>
    exact Or.inl ⟨h, ne_of_load_none hNone h⟩
  rename_i old hOld
  obtain ⟨hMem, hId⟩ := mem_of_load hOld
  rcases mem_set h with rfl | ⟨hSame, hOther⟩
  · exact Or.inr ⟨old, hMem, hId, rfl⟩
  · exact Or.inl ⟨hSame, fun hEq => hOther (hEq.trans hId.symm)⟩

lemma mem_touch {lastSeenAt : Nat} {idleExpiresAt : Option Nat}
    (h : record ∈ (store.touch id lastSeenAt idleExpiresAt).sessions) :
    record ∈ store.sessions ∨ ∃ old ∈ store.sessions,
      record = { old with lastSeenAt := lastSeenAt, idleExpiresAt := idleExpiresAt } := by
  unfold touch at h
  split at h
  · exact Or.inl h
  rename_i old hOld
  split at h
  · exact Or.inl h
  · rcases mem_set h with rfl | ⟨hSame, -⟩
    · exact Or.inr ⟨old, (mem_of_load hOld).1, rfl⟩
    · exact Or.inl hSame

/-- Records change in what is no claim and no absolute expiry, and stay revoked. -/
def Keeps (store next : MemorySessionStore Claims Metadata) : Prop :=
  ∀ record ∈ next.sessions, ∃ old ∈ store.sessions, record.id = old.id ∧ record.claims = old.claims ∧
    record.expiresAt = old.expiresAt ∧ (old.revokedAt.isSome = true → record.revokedAt.isSome = true)

section

variable (store : MemorySessionStore Claims Metadata)

lemma Keeps.refl : store.Keeps store :=
  fun record h => ⟨record, h, rfl, rfl, rfl, id⟩

lemma keeps_revoke (id revokedAt : Nat) : store.Keeps (store.revoke id revokedAt) := by
  intro record hRecord
  rcases mem_revoke hRecord with ⟨hSame, -⟩ | ⟨old, hOld, -, rfl⟩
  · exact Keeps.refl store record hSame
  · exact ⟨old, hOld, rfl, rfl, rfl, fun _ => rfl⟩

lemma keeps_touch (id lastSeenAt : Nat) (idleExpiresAt : Option Nat) :
    store.Keeps (store.touch id lastSeenAt idleExpiresAt) := by
  intro record hRecord
  rcases mem_touch hRecord with hSame | ⟨old, hOld, rfl⟩
  · exact Keeps.refl store record hSame
  · exact ⟨old, hOld, rfl, rfl, rfl, fun hRevoked => hRevoked⟩

lemma keeps_cleanup (now : Nat) : store.Keeps (store.cleanup now) :=
  fun record hRecord => Keeps.refl store record (mem_of_mem_filter hRecord)

end

end MemorySessionStore

/-! ## Records as they were issued -/

namespace Phase

def record? : Phase Claims Metadata → Option (SessionRecord Claims Metadata)
  | loading _ record => record
  | handling record | rotating record _ => some record
  | done => none

def isRotating : Phase Claims Metadata → Bool
  | rotating _ _ => true
  | _ => false

end Phase

def AsIssued (issued : List (Issue Claims Metadata)) (record : SessionRecord Claims Metadata) : Prop :=
  ∃ issue ∈ issued, issue.record.id = record.id ∧ issue.record.claims = record.claims ∧
    issue.record.expiresAt = record.expiresAt

lemma AsIssued.cons {issued : List (Issue Claims Metadata)} {record : SessionRecord Claims Metadata}
    (h : AsIssued issued record) (issue : Issue Claims Metadata) : AsIssued (issue :: issued) record := by
  obtain ⟨own, hOwn, hSame⟩ := h
  exact ⟨own, mem_cons_of_mem _ hOwn, hSame⟩

/-- A rotated record comes from the one record of its parent, with its claims and its absolute expiry. -/
def Chained (issued : List (Issue Claims Metadata)) (issue : Issue Claims Metadata) : Prop :=
  ∀ parent ∈ issue.parent, ∃ old ∈ issued, old.record.id = parent ∧ issue.record.claims = old.record.claims ∧
    issue.record.expiresAt = old.record.expiresAt

namespace Site

variable {scheme : SessionScheme} {site : Site Claims Metadata}

/-- What is stored and what requests hold is as it was issued, and no id was issued twice. -/
structure Kept (site : Site Claims Metadata) : Prop where
  stored : ∀ record ∈ site.store.sessions, AsIssued site.issued record
  held : ∀ request ∈ site.requests, ∀ record ∈ request.phase.record?,
    record.id = request.sid ∧ AsIssued site.issued record
  chained : ∀ issue ∈ site.issued, Chained site.issued issue
  fresh : ∀ issue ∈ site.issued, issue.record.id < site.nextToken
  distinct : site.issued.Pairwise fun later earlier => later.record.id ≠ earlier.record.id

lemma kept_start (maxEntries : Nat) : (start maxEntries : Site Claims Metadata).Kept :=
  ⟨forall_mem_nil _, forall_mem_nil _, forall_mem_nil _,
    forall_mem_nil _, List.Pairwise.nil⟩

variable {index : Nat} {phase : Phase Claims Metadata}

lemma forall_setPhase {P : SessionRequest Claims Metadata → Prop} {own : SessionRequest Claims Metadata}
    (h : ∀ req ∈ site.requests, P req) (hOwn : site.requests[index]? = some own)
    (hNew : P { own with phase := phase }) :
    ∀ req ∈ (site.setPhase index phase).requests, P req := by
  intro req hReq
  rw [Site.setPhase] at hReq
  obtain ⟨pos, hPos, rfl⟩ := mem_iff_getElem.mp hReq
  rw [getElem_modify]
  split
  next hSame =>
    subst hSame
    rw [(List.getElem_of_getElem? hOwn).2]
    exact hNew
  · exact h _ (getElem_mem _)

lemma AsIssued.keeps {issued : List (Issue Claims Metadata)} {store next : MemorySessionStore Claims Metadata}
    (h : ∀ record ∈ store.sessions, AsIssued issued record) (hKeeps : store.Keeps next) :
    ∀ record ∈ next.sessions, AsIssued issued record := by
  intro record hRecord
  obtain ⟨old, hOld, hId, hClaims, hExpires, -⟩ := hKeeps record hRecord
  obtain ⟨issue, hIssue, hIssueId, hIssueClaims, hIssueExpires⟩ := h old hOld
  exact ⟨issue, hIssue, hIssueId.trans hId.symm, hIssueClaims.trans hClaims.symm, hIssueExpires.trans hExpires.symm⟩

variable {own : SessionRequest Claims Metadata}

section

variable (h : site.Kept)
include h

lemma Kept.move {store : MemorySessionStore Claims Metadata} (hStore : site.store.Keeps store)
    (hOwn : site.requests[index]? = some own) (hPhase : ∀ record ∈ phase.record?, record ∈ own.phase.record?) :
    Kept { site.setPhase index phase with store := store } :=
  ⟨AsIssued.keeps h.stored hStore,
    forall_setPhase h.held hOwn fun record hRecord =>
      h.held own (mem_of_getElem? hOwn) record (hPhase record hRecord),
    h.chained, h.fresh, h.distinct⟩

lemma Kept.issue (issue : Issue Claims Metadata) (hId : issue.record.id = site.nextToken)
    (hChained : Chained site.issued issue) :
    Kept { site with
      store := site.store.create issue.record, nextToken := site.nextToken + 2, issued := issue :: site.issued } := by
  refine ⟨?_, ?_, ?_, ?_, ?_⟩
  · intro record hRecord
    rcases MemorySessionStore.mem_create hRecord with rfl | hOld
    · exact ⟨issue, mem_cons_self, rfl, rfl, rfl⟩
    · exact (h.stored record hOld).cons issue
  · intro req hReq record hRecord
    obtain ⟨hSid, hIssued⟩ := h.held req hReq record hRecord
    exact ⟨hSid, hIssued.cons issue⟩
  · intro other hOther parent hParent
    have hBefore : Chained site.issued other := by
      rcases mem_cons.mp hOther with rfl | hOld
      · exact hChained
      · exact h.chained other hOld
    obtain ⟨old, hOld, hSame⟩ := hBefore parent hParent
    exact ⟨old, mem_cons_of_mem _ hOld, hSame⟩
  · intro other hOther
    rcases mem_cons.mp hOther with rfl | hOld
    · rw [hId]
      exact Nat.lt_add_of_pos_right (by decide)
    · exact Nat.lt_add_right 2 (h.fresh other hOld)
  · refine pairwise_cons.mpr ⟨fun other hOther => ?_, h.distinct⟩
    rw [hId]
    exact Nat.ne_of_gt (h.fresh other hOther)

lemma Kept.signIn (claims : Claims) (absoluteLifetimeMs : Nat) (metadata : Option Metadata)
    (currentMs : Nat) : (site.signIn scheme claims absoluteLifetimeMs metadata currentMs).Kept :=
  h.issue ⟨site.signedIn scheme claims absoluteLifetimeMs metadata currentMs, none, false⟩ rfl
    fun _ hParent => by cases hParent

lemma Kept.arrive (sid cur : Nat) : (site.arrive sid cur).Kept := by
  refine ⟨h.stored, forall_mem_append.mpr ⟨h.held, forall_mem_singleton.mpr ?_⟩, h.chained, h.fresh, h.distinct⟩
  intro record hRecord
  obtain ⟨hMem, hId⟩ := MemorySessionStore.mem_of_load hRecord
  exact ⟨hId, h.stored record hMem⟩

lemma Kept.resume (index : Nat) (safeMethod : Bool) (hdr cookie : Option Nat) :
    (site.resume scheme index safeMethod hdr cookie).Kept := by
  unfold Site.resume
  split
  next hOwn =>
    have hDone {store : MemorySessionStore Claims Metadata} (hStore : site.store.Keeps store) :
        Kept { site.setPhase index .done with store := store } :=
      h.move hStore hOwn fun _ hRecord => by cases hRecord
    unfold Site.verified
    split
    · exact hDone (.refl _)
    split
    · exact hDone (MemorySessionStore.keeps_revoke _ _ _)
    split
    · exact hDone (.refl _)
    · exact h.move (.refl _) hOwn fun _ hRecord => hRecord
  · exact h

lemma Kept.revoke (sid now : Nat) : (site.revoke sid now).Kept := by
  unfold Site.revoke
  split
  · refine ⟨AsIssued.keeps h.stored (MemorySessionStore.keeps_revoke _ _ _), ?_, h.chained, h.fresh, h.distinct⟩
    intro req hReq record hRecord
    obtain ⟨own, hOwn, rfl⟩ := mem_map.mp hReq
    split at hRecord
    · rw [if_pos (by assumption)]
      exact h.held own hOwn record hRecord
    · rw [if_neg (by assumption)]
      exact h.held own hOwn record hRecord
  · exact h

lemma Kept.handled (index : Nat) (cookie : Bool) (currentMs : Nat) :
    (site.handled scheme index cookie currentMs).Kept := by
  unfold Site.handled
  split
  next hOwn =>
    unfold Site.rotate
    split
    · exact h.move (MemorySessionStore.keeps_touch _ _ _ _) hOwn fun _ hRecord => by cases hRecord
    split
    · exact h.move (MemorySessionStore.keeps_revoke _ _ _) hOwn fun _ hRecord => by cases hRecord
    · exact h.move (MemorySessionStore.keeps_revoke _ _ _) hOwn fun _ hRecord => hRecord
  · exact h

lemma Kept.create (index : Nat) : (site.create scheme index).Kept := by
  unfold Site.create
  split
  next sid record currentMs overtaken hOwn =>
    obtain ⟨hId, issue, hIssue, hIssueId, hClaims, hExpires⟩ := h.held _ (mem_of_getElem? hOwn) record rfl
    have hMoved : Kept { site.setPhase index .done with store := site.store } :=
      h.move (.refl _) hOwn fun _ hRecord => by cases hRecord
    refine hMoved.issue ⟨site.rotated scheme record currentMs, some sid, decide (sid ∈ site.revoked)⟩ rfl ?_
    rintro _ ⟨⟩
    exact ⟨issue, hIssue, hIssueId.trans hId, hClaims.symm, hExpires.symm⟩
  · exact h

lemma Kept.step (event : SessionEvent Claims Metadata) : (site.step scheme event).Kept := by
  cases event with
  | signIn claims absoluteLifetimeMs metadata currentMs => exact h.signIn claims absoluteLifetimeMs metadata currentMs
  | arrive sid cur => exact h.arrive sid cur
  | resume index safeMethod hdr cookie => exact h.resume index safeMethod hdr cookie
  | revoke sid now => exact h.revoke sid now
  | handled index cookie currentMs => exact h.handled index cookie currentMs
  | create index => exact h.create index
  | cleanup =>
    exact ⟨AsIssued.keeps h.stored (MemorySessionStore.keeps_cleanup _ _), h.held, h.chained, h.fresh, h.distinct⟩

end

/-! ## Revocation by hand -/

/-- A request with an id that was revoked by hand: it was overtaken, or what it loaded shows the revocation, and it is
not about to create a record. -/
def Outlived (revoked : List Nat) (request : SessionRequest Claims Metadata) : Prop :=
  request.sid ∈ revoked →
    match request.phase with
    | .loading _ record => request.overtaken = true ∨ ∀ loaded ∈ record, loaded.revokedAt.isSome = true
    | .handling _ => request.overtaken = true
    | .rotating _ _ => False
    | .done => True

structure Settled (site : Site Claims Metadata) : Prop where
  known : ∀ sid ∈ site.revoked, sid < site.nextToken
  gone : ∀ record ∈ site.store.sessions, record.id ∈ site.revoked → record.revokedAt.isSome = true
  outlived : ∀ request ∈ site.requests, Outlived site.revoked request
  inTime : ∀ issue ∈ site.issued, issue.late = false

/-- A revocation by hand does not fall between the return of a handler of that session and the rotated record, and a
handler that was overtaken returns no result with cookies within the lifetime of its session. -/
def Undisturbed (site : Site Claims Metadata) : SessionEvent Claims Metadata → Prop
  | .revoke sid _ => ∀ request ∈ site.requests, request.sid = sid → request.phase.isRotating = false
  | .handled index true currentMs =>
    ∀ request ∈ site.requests[index]?, request.overtaken = true →
      ∀ record ∈ request.phase.record?, record.expiresAt.any (· ≤ currentMs) = true
  | _ => True

lemma settled_start (maxEntries : Nat) : (start maxEntries : Site Claims Metadata).Settled :=
  ⟨forall_mem_nil _, forall_mem_nil _, forall_mem_nil _,
    forall_mem_nil _⟩

lemma gone_keeps {revoked : List Nat} {store next : MemorySessionStore Claims Metadata}
    (h : ∀ record ∈ store.sessions, record.id ∈ revoked → record.revokedAt.isSome = true) (hKeeps : store.Keeps next) :
    ∀ record ∈ next.sessions, record.id ∈ revoked → record.revokedAt.isSome = true := by
  intro record hRecord hRevoked
  obtain ⟨old, hOld, hId, -, -, hStays⟩ := hKeeps record hRecord
  exact hStays (h old hOld (hId ▸ hRevoked))

section

variable (h : site.Settled)
include h

lemma Settled.move {store : MemorySessionStore Claims Metadata} (hStore : site.store.Keeps store)
    (hOwn : site.requests[index]? = some own) (hPhase : Outlived site.revoked { own with phase := phase }) :
    Settled { site.setPhase index phase with store := store } :=
  ⟨h.known, gone_keeps h.gone hStore, forall_setPhase h.outlived hOwn hPhase, h.inTime⟩

lemma Settled.done {store : MemorySessionStore Claims Metadata} (hStore : site.store.Keeps store)
    (hOwn : site.requests[index]? = some own) : Settled { site.setPhase index .done with store := store } :=
  h.move hStore hOwn fun _ => trivial

lemma Settled.issue (issue : Issue Claims Metadata) (hId : issue.record.id = site.nextToken)
    (hInTime : issue.late = false) :
    Settled { site with
      store := site.store.create issue.record, nextToken := site.nextToken + 2, issued := issue :: site.issued } := by
  refine ⟨fun sid hSid => Nat.lt_add_right 2 (h.known sid hSid), ?_, h.outlived, ?_⟩
  · intro record hRecord hRevoked
    rcases MemorySessionStore.mem_create hRecord with rfl | hOld
    · have hKnown := h.known _ hRevoked
      rw [hId] at hKnown
      exact absurd hKnown (Nat.lt_irrefl _)
    · exact h.gone record hOld hRevoked
  · exact forall_mem_cons.mpr ⟨hInTime, h.inTime⟩

lemma Settled.arrive (sid cur : Nat) : (site.arrive sid cur).Settled := by
  refine ⟨h.known, h.gone, forall_mem_append.mpr ⟨h.outlived, forall_mem_singleton.mpr ?_⟩, h.inTime⟩
  refine fun hRevoked => Or.inr fun loaded hLoaded => ?_
  obtain ⟨hMem, rfl⟩ := MemorySessionStore.mem_of_load hLoaded
  exact h.gone loaded hMem hRevoked

lemma Settled.resume (index : Nat) (safeMethod : Bool) (hdr cookie : Option Nat) :
    (site.resume scheme index safeMethod hdr cookie).Settled := by
  unfold Site.resume
  split
  next hOwn =>
    unfold Site.verified
    split
    · exact h.done (.refl _) hOwn
    rename_i record
    split
    · exact h.done (MemorySessionStore.keeps_revoke _ _ _) hOwn
    rename_i hLive
    split
    · exact h.done (.refl _) hOwn
    refine h.move (.refl _) hOwn fun hRevoked => ?_
    rcases h.outlived _ (mem_of_getElem? hOwn) hRevoked with hOvertaken | hShown
    · exact hOvertaken
    · have hExpired := hShown record rfl
      simp [sessionRecordExpired, hExpired] at hLive
  · exact h

lemma Settled.revoke {sid : Nat} (now : Nat)
    (hNone : ∀ req ∈ site.requests, req.sid = sid → req.phase.isRotating = false) :
    (site.revoke sid now).Settled := by
  unfold Site.revoke
  split
  next hHanded =>
    refine ⟨?_, ?_, ?_, h.inTime⟩
    · exact forall_mem_cons.mpr ⟨hHanded, h.known⟩
    · intro record hRecord hRevoked
      rcases MemorySessionStore.mem_revoke hRecord with ⟨hSame, hOther⟩ | ⟨old, hOld, -, rfl⟩
      · exact h.gone record hSame ((mem_cons.mp hRevoked).resolve_left hOther)
      · rfl
    · intro req hReq
      obtain ⟨own, hOwn, rfl⟩ := mem_map.mp hReq
      split
      next hSid =>
        intro _
        have hPhase := hNone own hOwn hSid
        cases hCase : own.phase with
        | loading => exact Or.inl rfl
        | handling => rfl
        | rotating => simp [hCase, Phase.isRotating] at hPhase
        | done => trivial
      next hSid =>
        exact fun hRevoked => h.outlived own hOwn ((mem_cons.mp hRevoked).resolve_left hSid)
  · exact h

lemma Settled.handled {cookie : Bool} {currentMs : Nat}
    (hUndisturbed : site.Undisturbed (.handled index cookie currentMs)) :
    (site.handled scheme index cookie currentMs).Settled := by
  unfold Site.handled
  split
  next record overtaken hOwn =>
    unfold Site.rotate
    cases cookie with
    | false => exact h.done (MemorySessionStore.keeps_touch _ _ _ _) hOwn
    | true =>
      rw [if_neg (by decide)]
      split
      · exact h.done (MemorySessionStore.keeps_revoke _ _ _) hOwn
      next hLeft =>
        refine h.move (MemorySessionStore.keeps_revoke _ _ _) hOwn fun hRevoked => ?_
        have hOvertaken := h.outlived _ (mem_of_getElem? hOwn) hRevoked
        exact hLeft (hUndisturbed _ hOwn hOvertaken record rfl)
  · exact h

lemma Settled.create (index : Nat) : (site.create scheme index).Settled := by
  unfold Site.create
  split
  next sid record currentMs overtaken hOwn =>
    have hMoved := h.done (.refl _) hOwn
    refine hMoved.issue ⟨site.rotated scheme record currentMs, some sid, decide (sid ∈ site.revoked)⟩ rfl ?_
    exact decide_eq_false fun hRevoked => h.outlived _ (mem_of_getElem? hOwn) hRevoked
  · exact h

lemma Settled.step {event : SessionEvent Claims Metadata} (hUndisturbed : site.Undisturbed event) :
    (site.step scheme event).Settled := by
  cases event with
  | signIn claims absoluteLifetimeMs metadata currentMs =>
    exact h.issue ⟨site.signedIn scheme claims absoluteLifetimeMs metadata currentMs, none, false⟩ rfl rfl
  | arrive sid cur => exact h.arrive sid cur
  | resume index safeMethod hdr cookie => exact h.resume index safeMethod hdr cookie
  | revoke sid now => exact h.revoke now hUndisturbed
  | handled => exact h.handled hUndisturbed
  | create index => exact h.create index
  | cleanup => exact ⟨h.known, gone_keeps h.gone (MemorySessionStore.keeps_cleanup _ _), h.outlived, h.inTime⟩

end

/-- Along every rotation the absolute expiry stays what it was, and so does who is signed in. -/
def ExpiryKept (site : Site Claims Metadata) : Prop :=
  (∀ issue ∈ site.issued, Chained site.issued issue) ∧
    site.issued.Pairwise fun later earlier => later.record.id ≠ earlier.record.id

/-- No record was created by rotation after the session it comes from was revoked by hand. -/
def RevocationFinal (site : Site Claims Metadata) : Prop := ∀ issue ∈ site.issued, issue.late = false

/-- Rotation keeps the absolute expiry in every run, and revocation is final in every run in which it does not
overtake a request that then rotates. -/
theorem expiry_kept_and_revocation_final (scheme : SessionScheme) (maxEntries : Nat)
    (events : List (SessionEvent Claims Metadata)) :
    (run scheme maxEntries events).ExpiryKept ∧
      (Admits Undisturbed (step scheme) (start maxEntries) events →
        (run scheme maxEntries events).RevocationFinal) := by
  constructor
  · have hKept : (run scheme maxEntries events).Kept :=
      foldlRecOn (motive := Kept) events _ (kept_start maxEntries) fun _ h event _ => h.step event
    exact ⟨hKept.chained, hKept.distinct⟩
  · intro hEvents
    have hSettled : (run scheme maxEntries events).Settled :=
      @foldl_invariant _ _ _ _ Settled (fun _ _ h hEvent => h.step hEvent) _ (settled_start maxEntries) _ hEvents
    exact hSettled.inTime

instance (site : Site Claims Metadata) : (event : SessionEvent Claims Metadata) → Decidable (site.Undisturbed event)
  | .revoke sid _ =>
    inferInstanceAs (Decidable (∀ request ∈ site.requests, request.sid = sid → request.phase.isRotating = false))
  | .handled index true currentMs =>
    inferInstanceAs (Decidable (∀ request ∈ site.requests[index]?, request.overtaken = true →
      ∀ record ∈ request.phase.record?, record.expiresAt.any (· ≤ currentMs) = true))
  | .signIn _ _ _ _ | .arrive _ _ | .resume _ _ _ _ | .handled _ false _ | .create _ | .cleanup _ =>
    inferInstanceAs (Decidable True)

def plainScheme : SessionScheme := ⟨some 3600000, false⟩

def signedInRun : List (SessionEvent String Unit) :=
  [.signIn "ada" 86400000 none 0, .arrive 0 10, .resume 0 false none none]

def logoutRun : List (SessionEvent String Unit) := signedInRun ++ [.revoke 0 20, .handled 0 true 20, .create 0]

def rotatedRun : List (SessionEvent String Unit) :=
  signedInRun ++ [.handled 0 true 20, .create 0, .arrive 2 30, .resume 1 false none none, .revoke 2 40,
    .handled 1 false 40, .arrive 2 50, .resume 2 false none none, .arrive 0 50, .resume 3 false none none]

theorem expiry_kept_and_revocation_final_rotatedRun :
    (run plainScheme 4096 rotatedRun).issued.length = 2 ∧ (run plainScheme 4096 rotatedRun).ExpiryKept ∧
      (run plainScheme 4096 rotatedRun).RevocationFinal :=
  ⟨by decide +kernel, (expiry_kept_and_revocation_final plainScheme 4096 rotatedRun).1,
    (expiry_kept_and_revocation_final plainScheme 4096 rotatedRun).2 (by decide +kernel)⟩

theorem logout_creates_live_session :
    (run plainScheme 4096 logoutRun).revoked = [0] ∧ ((run plainScheme 4096 logoutRun).store.load 2).any
        (fun record => record.claims == "ada" && !sessionRecordExpired record 20) = true ∧
      (run plainScheme 4096 logoutRun).issued.map Issue.late = [true, false] := by decide +kernel

end Site

end Sloppy.Auth
