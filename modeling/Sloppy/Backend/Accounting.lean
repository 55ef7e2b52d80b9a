import Sloppy.Backend.Server
import Sloppy.Lib.Admission

/-! # Admission accounting

The backend seen as two pools, one of connections and one of requests, and the state that admission
depends on. Every operation is one step of these books, whatever the other operations are doing.
-/

namespace Sloppy.Backend

open Http Lib Lib.Admission List

structure Books where
  state : BackendState
  connections : Pool
  requests : Pool
  deriving DecidableEq

def Books.settle (books : Books) : Books :=
  if books.state = .stopping ∧ books.connections.active = 0 ∧ books.requests.active = 0 then
    { books with state := .stopped }
  else books

inductive Books.Step (books : Books) : Books → Prop where
  | stay : Step books books
  | settle : Step books books.settle
  | start (hState : books.state = .initialized ∨ books.state = .stopped) : Step books { books with state := .started }
  | stop (hState : books.state = .started ∨ books.state = .stopping) :
      Step books { books with state := .stopping }.settle
  | dispose (hConnections : books.connections.active = 0) (hRequests : books.requests.active = 0) :
      Step books { books with state := .disposed }
  | refuseConnection : Step books { books with connections := books.connections.refuse }
  | acceptConnection (hState : books.state = .started) (hRoom : books.connections.active < books.connections.limit) :
      Step books { books with connections := books.connections.enter }
  | releaseConnection (place id : Nat) (hHeld : books.connections.holders[place]? = some (id, true)) :
      Step books { books with connections := books.connections.release place id }.settle
  | refuseRequest : Step books { books with requests := books.requests.refuse }
  | beginRequest (hState : books.state = .started) (hRoom : books.requests.active < books.requests.limit) :
      Step books { books with requests := books.requests.enter }
  | releaseRequest (place id : Nat) (hHeld : books.requests.holders[place]? = some (id, true)) :
      Step books { books with requests := books.requests.release place id }.settle

structure Books.Sound (books : Books) : Prop where
  connections : books.connections.Sound
  requests : books.requests.Sound
  stopping : books.state = .stopping → books.connections.active ≠ 0 ∨ books.requests.active ≠ 0
  idle : books.state ≠ .started → books.state ≠ .stopping → books.connections.active = 0 ∧ books.requests.active = 0

lemma Books.sound_settle {books : Books} (hConns : books.connections.Sound) (hReqs : books.requests.Sound)
    (hIdle : books.state ≠ .started → books.state ≠ .stopping →
      books.connections.active = 0 ∧ books.requests.active = 0) : books.settle.Sound := by
  rw [Books.settle]
  split
  next hDone =>
    exact ⟨hConns, hReqs, fun h => (nomatch h), fun _ _ => hDone.2⟩
  rename_i hBusy
  refine ⟨hConns, hReqs, ?_, hIdle⟩
  intro hStopping
  by_contra hNone
  rw [not_or, not_not, not_not] at hNone
  exact hBusy ⟨hStopping, hNone⟩

lemma Books.Sound.step {books after : Books} (h : books.Sound) (hStep : books.Step after) : after.Sound := by
  cases hStep with
  | stay => exact h
  | settle => exact sound_settle h.connections h.requests h.idle
  | start hState => exact ⟨h.connections, h.requests, fun h => (nomatch h), fun h => absurd rfl h⟩
  | stop hState => exact sound_settle h.connections h.requests fun _ h => absurd rfl h
  | dispose hConns hReqs =>
    exact ⟨h.connections, h.requests, fun h => (nomatch h), fun _ _ => ⟨hConns, hReqs⟩⟩
  | refuseConnection => exact ⟨h.connections.refuse, h.requests, h.stopping, h.idle⟩
  | acceptConnection hState hRoom =>
    exact ⟨h.connections.enter hRoom, h.requests, fun _ => .inl (Nat.succ_ne_zero _), fun h => absurd hState h⟩
  | releaseConnection place id hHeld =>
    apply @sound_settle { books with connections := books.connections.release place id }
      (h.connections.release hHeld) h.requests
    intro hStarted hStopping
    exact absurd (h.idle hStarted hStopping).1 (Nat.ne_of_gt (h.connections.active_pos hHeld))
  | refuseRequest => exact ⟨h.connections, h.requests.refuse, h.stopping, h.idle⟩
  | beginRequest hState hRoom =>
    exact ⟨h.connections, h.requests.enter hRoom, fun _ => .inr (Nat.succ_ne_zero _), fun h => absurd hState h⟩
  | releaseRequest place id hHeld =>
    apply @sound_settle { books with requests := books.requests.release place id }
      h.connections (h.requests.release hHeld)
    intro hStarted hStopping
    exact absurd (h.idle hStarted hStopping).2 (Nat.ne_of_gt (h.requests.active_pos hHeld))

variable (backend : HttpBackend)

def booksOf (slots holders : List (Nat × Bool)) : Books where
  state := backend.state
  connections := ⟨backend.options.maxConnections, backend.activeConnections, backend.nextConnectionId, slots⟩
  requests := ⟨backend.options.maxActiveRequests, backend.activeRequests, backend.nextRequestId, holders⟩

def Lives.slots (lives : Lives) : List (Nat × Bool) :=
  lives.connections.map fun connection => (connection.id, connection.slotAdmitted)

def Lives.holders (lives : Lives) : List (Nat × Bool) :=
  lives.requests.map fun request => (request.id, request.admitted)

def Lives.books (lives : Lives) : Books := booksOf lives.backend lives.slots lives.holders

/-- Only what points to the backend holds anything of it, and it has a number. -/
def Connection.Proper (connection : Connection) : Prop :=
  (connection.slotAdmitted = true → connection.attached = true) ∧ (connection.attached = true → connection.id ≠ 0)

def RequestLifecycle.Proper (request : RequestLifecycle) : Prop :=
  (request.admitted = true → request.connection ≠ none) ∧ (request.connection ≠ none → request.id ≠ 0)

structure Lives.Linked (lives : Lives) : Prop where
  connections : ∀ connection ∈ lives.connections, connection.Proper
  requests : ∀ request ∈ lives.requests, request.Proper
  pointers : ∀ request ∈ lives.requests, ∀ place, request.connection = some place →
    ∃ connection, lives.connections[place]? = some connection ∧ connection.attached = true

lemma booksOf_maybeFinishStop (slots holders : List (Nat × Bool)) :
    booksOf (maybeFinishStop backend) slots holders = (booksOf backend slots holders).settle := by
  rw [maybeFinishStop]
  split
  next hDone =>
    exact (if_pos hDone).symm
  next hBusy =>
    exact (if_neg hBusy).symm

lemma activeRequests_pred :
    (if backend.activeRequests > 0 then { backend with activeRequests := backend.activeRequests - 1 }
      else backend) = { backend with activeRequests := backend.activeRequests - 1 } := by
  split
  · rfl
  · have hSame : backend.activeRequests - 1 = backend.activeRequests := by omega
    rw [hSame]

lemma activeConnections_pred : (if true = true ∧ backend.activeConnections > 0 then
        { backend with activeConnections := backend.activeConnections - 1 }
      else backend) = { backend with activeConnections := backend.activeConnections - 1 } := by
  split
  · rfl
  next hZero =>
    rw [and_iff_right rfl] at hZero
    have hSame : backend.activeConnections - 1 = backend.activeConnections := by omega
    rw [hSame]

/-- What a request's operation does to the books: nothing, or it releases the request. -/
inductive AccountEffect (scope after : RequestScope) : Prop where
  | kept (hBackend : after.backend = scope.backend) (hAdmitted : after.request.admitted = scope.request.admitted)
  | released (connection : Connection) (hConnection : scope.connection = some connection)
      (hHeld : scope.request.admitted = true) (hAdmitted : after.request.admitted = false)
      (hBackend : after.backend =
        if connection.attached then
          maybeFinishStop { scope.backend with activeRequests := scope.backend.activeRequests - 1 }
        else scope.backend)

lemma releaseAdmission_account {scope moved : RequestScope} (hBackend : moved.backend = scope.backend)
    (hAdmitted : moved.request.admitted = scope.request.admitted)
    (hConn : moved.connection.map Connection.attached = scope.connection.map Connection.attached) :
    AccountEffect scope (releaseAdmission moved) := by
  rw [releaseAdmission]
  split
  · exact .kept hBackend hAdmitted
  rename_i hMoved
  split
  · exact .kept hBackend hAdmitted
  rename_i hHeld
  rw [hMoved, Option.map_some] at hConn
  obtain ⟨before, hBefore, hAttached⟩ := Option.map_eq_some_iff.mp hConn.symm
  refine .released before hBefore (hAdmitted ▸ Bool.not_eq_false _ ▸ hHeld) rfl ?_
  rw [activeRequests_pred, hBackend, hAttached]

variable {origin : Origin}

lemma RequestEffect.account {scope after : RequestScope} (h : RequestEffect origin scope after) :
    AccountEffect scope after := by
  cases h with
  | recorded | advanced | rejected => exact .kept rfl rfl
  | cancelled =>
    refine releaseAdmission_account ?_ ?_ ?_
    · rfl
    · rfl
    · simp [RequestScope.setConnection, RequestScope.setState, RequestScope.recorded, Function.comp_def]
  | ended =>
    refine releaseAdmission_account ?_ ?_ ?_
    · rfl
    · rfl
    · simp [RequestScope.setConnection, RequestScope.setState, RequestScope.setHead, Function.comp_def]
  | closed =>
    have hRelease := @releaseAdmission_account scope scope rfl rfl rfl
    cases hRelease with
    | kept hBackend hAdmitted => exact .kept hBackend hAdmitted
    | released conn hConn hHeld hAdmitted hBackend =>
      exact .released conn hConn hHeld hAdmitted hBackend

variable {lives : Lives} {request : RequestLifecycle}

lemma putScope_slots {after : RequestScope} (h : RequestEffect origin (lives.scopeOf request) after) (place : Nat) :
    (lives.putScope place request after).slots = lives.slots := by
  obtain ⟨state, hConn⟩ := h.connection_eq
  apply ext_getElem?
  intro p
  simp only [Lives.slots, getElem?_map, putScope_connections hConn]
  cases lives.connections[p]? with
  | none => rfl
  | some =>
    split <;> rfl

lemma putScope_holders {after : RequestScope} (h : RequestEffect origin (lives.scopeOf request) after) (place : Nat) :
    (lives.putScope place request after).holders = lives.holders.set place (request.id, after.request.admitted) := by
  obtain ⟨state, head, token, admitted, hReq⟩ := h.request_eq
  rw [Lives.holders, Lives.putScope, hReq, map_set]
  rfl

variable {after : Lives} {place : Nat}

lemma books_target (hLinked : lives.Linked) (h : TargetEffect origin lives place after) :
    lives.books.Step after.books := by
  obtain rfl | ⟨request, scope, hReq, hEffect, rfl⟩ := h
  · exact .stay
  have hHolder : lives.holders[place]? = some (request.id, request.admitted) := by
    rw [Lives.holders, getElem?_map, hReq]
    rfl
  have hBooks : (lives.putScope place request scope).books =
      booksOf scope.backend lives.slots (lives.holders.set place (request.id, scope.request.admitted)) := by
    rw [← putScope_slots hEffect place, ← putScope_holders hEffect place]
    rfl
  rw [hBooks]
  cases hEffect.account with
  | kept hBackend hAdmitted =>
    rw [hBackend, hAdmitted]
    change lives.books.Step (booksOf lives.backend lives.slots (lives.holders.set place (request.id, request.admitted)))
    rw [set_of_getElem? hHolder]
    exact .stay
  | released conn hConn hHeld hAdmitted hBackend =>
    obtain ⟨p, hPointer, hAt⟩ := Option.bind_eq_some_iff.mp hConn
    obtain ⟨linked, hLink, hAttached⟩ := hLinked.pointers request (mem_of_getElem? hReq) p hPointer
    cases hAt.symm.trans hLink
    rw [hBackend, if_pos hAttached, hAdmitted, booksOf_maybeFinishStop]
    change request.admitted = true at hHeld
    rw [hHeld] at hHolder
    exact .releaseRequest place request.id hHolder

lemma Lives.Linked.of_kept (h : lives.Linked) (hConns : ∀ conn ∈ after.connections, conn.Proper)
    (hAttached : ∀ (p : Nat) (conn : Connection), lives.connections[p]? = some conn →
      ∃ later, after.connections[p]? = some later ∧ later.attached = conn.attached)
    (hReqs : ∀ request ∈ after.requests, request.Proper ∧
      ∃ before ∈ lives.requests, request.connection = before.connection) : after.Linked := by
  refine ⟨hConns, fun request hReq => (hReqs request hReq).1, ?_⟩
  intro request hReq place hPlace
  obtain ⟨-, before, hBefore, hSame⟩ := hReqs request hReq
  obtain ⟨conn, hAt, hLink⟩ := h.pointers before hBefore place (hSame ▸ hPlace)
  obtain ⟨later, hLater, hStill⟩ := hAttached place conn hAt
  exact ⟨later, hLater, hStill.trans hLink⟩

lemma RequestEffect.proper {scope after : RequestScope} (h : RequestEffect origin scope after)
    (hProper : scope.request.Proper) : after.request.Proper := by
  obtain ⟨state, head, token, admitted, hReq⟩ := h.request_eq
  have hAdmitted : after.request.admitted = true → scope.request.admitted = true := by
    cases h.account with
    | kept hBackend hSame => exact fun hHeld => hSame ▸ hHeld
    | released conn hConn hHeld => exact fun _ => hHeld
  rw [hReq] at hAdmitted ⊢
  exact ⟨fun hHeld => hProper.1 (hAdmitted hHeld), hProper.2⟩

lemma Lives.Linked.target (hLinked : lives.Linked) (h : TargetEffect origin lives place after) : after.Linked := by
  obtain rfl | ⟨request, scope, hReq, hEffect, rfl⟩ := h
  · exact hLinked
  have hMem := mem_of_getElem? hReq
  obtain ⟨state, hConn⟩ := hEffect.connection_eq
  have hMove := putScope_connections hConn place
  refine hLinked.of_kept ?_ ?_ ?_
  · intro conn hConn
    obtain ⟨p, hAt⟩ := mem_iff_getElem?.mp hConn
    rw [hMove, Option.map_eq_some_iff] at hAt
    obtain ⟨before, hBefore, rfl⟩ := hAt
    have hProper := hLinked.connections before (mem_of_getElem? hBefore)
    split
    · exact hProper
    · exact hProper
  · intro p conn hAt
    refine ⟨_, (hMove p).trans (congrArg _ hAt), ?_⟩
    split <;> rfl
  · intro other hOther
    obtain hOld | rfl := mem_or_eq_of_mem_set hOther
    · exact ⟨hLinked.requests other hOld, other, hOld, rfl⟩
    · obtain ⟨_, _, _, _, hSame⟩ := hEffect.request_eq
      exact ⟨hEffect.proper (hLinked.requests request hMem), request, hMem, by rw [hSame]; rfl⟩

variable {connection : Connection}

lemma slots_getElem? (hAt : lives.connections[place]? = some connection) :
    lives.slots[place]? = some (connection.id, connection.slotAdmitted) := by
  rw [Lives.slots, getElem?_map, hAt]
  rfl

lemma slots_set (lives : Lives) (backend : HttpBackend) (place : Nat) (conn : Connection) :
    (⟨backend, lives.connections.set place conn, lives.requests⟩ : Lives).books =
      booksOf backend (lives.slots.set place (conn.id, conn.slotAdmitted)) lives.holders := by
  rw [Lives.books, Lives.slots, map_set]
  rfl

lemma books_releaseSlot (hLinked : lives.Linked) (hAt : lives.connections[place]? = some connection)
    (state : ConnectionState) :
    lives.books.Step (⟨(releaseSlot lives.backend connection state).1,
      lives.connections.set place (releaseSlot lives.backend connection state).2, lives.requests⟩ : Lives).books := by
  have hSlot := slots_getElem? hAt
  have hAttached := (hLinked.connections connection (mem_of_getElem? hAt)).1
  rw [slots_set, releaseSlot]
  cases hHeld : connection.slotAdmitted with
  | true =>
    rw [hHeld] at hSlot
    rw [if_pos (hAttached hHeld)]
    rw [activeConnections_pred, booksOf_maybeFinishStop]
    exact .releaseConnection place connection.id hSlot
  | false =>
    rw [hHeld] at hSlot
    split
    · rw [booksOf_maybeFinishStop, set_of_getElem? hSlot]
      exact .settle
    · rw [set_of_getElem? hSlot]
      exact .stay

variable {next : Connection}

lemma Lives.Linked.setConnection (h : lives.Linked) (backend : HttpBackend)
    (hAt : lives.connections[place]? = some connection) (hAttached : next.attached = connection.attached)
    (hProper : connection.Proper → next.Proper) :
    (⟨backend, lives.connections.set place next, lives.requests⟩ : Lives).Linked := by
  refine h.of_kept ?_ ?_ fun request hReq => ⟨h.requests request hReq, request, hReq, rfl⟩
  · exact forall_mem_set h.connections (hProper (h.connections connection (mem_of_getElem? hAt)))
  · intro p other hOther
    refine exists_getElem?_set hAt hOther ?_ fun _ => rfl
    rintro rfl rfl
    exact hAttached

lemma Lives.Linked.addConnection (h : lives.Linked) (backend : HttpBackend) (hProper : next.Proper) :
    (⟨backend, lives.connections ++ [next], lives.requests⟩ : Lives).Linked := by
  refine h.of_kept ?_ ?_ fun request hReq => ⟨h.requests request hReq, request, hReq, rfl⟩
  · exact forall_mem_append.mpr ⟨h.connections, forall_mem_singleton.mpr hProper⟩
  · intro p other hOther
    exact ⟨other, getElem?_append_some hOther _, rfl⟩

lemma Lives.Linked.addRequest (h : lives.Linked) {next : RequestLifecycle} (hProper : next.Proper)
    (hPointer : ∀ place, next.connection = some place →
      ∃ connection, lives.connections[place]? = some connection ∧ connection.attached = true) :
    (⟨lives.backend, lives.connections, lives.requests ++ [next]⟩ : Lives).Linked := by
  refine ⟨h.connections, ?_, ?_⟩
  · exact forall_mem_append.mpr ⟨h.requests, forall_mem_singleton.mpr hProper⟩
  · exact forall_mem_append.mpr ⟨h.pointers, forall_mem_singleton.mpr hPointer⟩

lemma slots_append (lives : Lives) (backend : HttpBackend) (next : Connection) :
    (⟨backend, lives.connections ++ [next], lives.requests⟩ : Lives).books =
      booksOf backend (lives.slots ++ [(next.id, next.slotAdmitted)]) lives.holders := by
  rw [Lives.books, Lives.slots, map_append]
  rfl

lemma holders_append (lives : Lives) (next : RequestLifecycle) :
    (⟨lives.backend, lives.connections, lives.requests ++ [next]⟩ : Lives).books =
      booksOf lives.backend lives.slots (lives.holders ++ [(next.id, next.admitted)]) := by
  rw [Lives.books, Lives.holders, map_append]
  rfl

structure Lives.Accounted (lives : Lives) : Prop where
  linked : lives.Linked
  sound : lives.books.Sound

lemma Lives.Accounted.of_step (h : lives.Accounted) (hLinked : after.Linked) (hStep : lives.books.Step after.books) :
    after.Accounted :=
  ⟨hLinked, h.sound.step hStep⟩

lemma Lives.Linked.setBackend (h : lives.Linked) (backend : HttpBackend) :
    (⟨backend, lives.connections, lives.requests⟩ : Lives).Linked :=
  ⟨h.connections, h.requests, h.pointers⟩

variable {srv : Server}

section

variable (h : srv.Accounted)
include h

lemma accounted_onBackend {run : HttpBackend → HttpBackend × Except Failure Unit}
    (hRun : ∀ (backend : HttpBackend) (slots holders : List (Nat × Bool)),
      (booksOf backend slots holders).Step (booksOf (run backend).1 slots holders)) :
    (srv.onBackend run).1.Accounted :=
  h.of_step (h.linked.setBackend _) (hRun srv.backend srv.slots srv.holders)

lemma accounted_start : (srv.onBackend backendStart).1.Accounted := by
  apply accounted_onBackend h
  intro backend slots holders
  rw [backendStart]
  split
  · exact .stay
  · exact .start (by tauto)

lemma accounted_stop : (srv.onBackend backendStop).1.Accounted := by
  apply accounted_onBackend h
  intro backend slots holders
  rw [backendStop]
  split
  · exact .stay
  · rw [booksOf_maybeFinishStop]
    exact .stop (by tauto)

lemma accounted_dispose : (srv.onBackend backendDispose).1.Accounted := by
  apply accounted_onBackend h
  intro backend slots holders
  rw [backendDispose]
  split
  · exact .stay
  next hState =>
    simp only [not_or, not_not] at hState
    exact .dispose hState.1 hState.2.1

lemma accounted_accept : srv.accept.1.Accounted := by
  rw [Server.accept]
  obtain ⟨failure, hRefused⟩ | ⟨hState, hRoom, hAdmitted⟩ := acceptConnection_cases srv.backend
  · rw [hRefused]
    refine h.of_step (h.linked.addConnection _ ?_) ?_
    · exact ⟨fun hSlot => (nomatch hSlot), fun hAttached => (nomatch hAttached)⟩
    · rw [slots_append]
      exact .refuseConnection
  · rw [hAdmitted]
    have hNum : srv.backend.nextConnectionId ≠ 0 := Nat.ne_of_gt h.sound.connections.positive
    refine h.of_step (h.linked.addConnection _ ⟨fun _ => rfl, fun _ => hNum⟩) ?_
    rw [slots_append]
    exact .acceptConnection hState hRoom

lemma accounted_onConnection (place : Nat) {run : HttpBackend → Connection → HttpBackend × Connection}
    (hRun : ∀ backend connection, run backend connection = (backend, connection) ∨
      ∃ state, run backend connection = releaseSlot backend connection state) :
    (srv.onConnection place run).1.Accounted := by
  rw [Server.onConnection]
  split
  · exact h
  rename_i connection hAt
  obtain hSame | ⟨state, hRelease⟩ := hRun srv.backend connection
  · rw [hSame]
    rw [set_of_getElem? hAt]
    exact h
  · rw [hRelease]
    refine h.of_step (h.linked.setConnection _ hAt ?_ ?_) (books_releaseSlot h.linked hAt state)
    · rw [releaseSlot]
      split <;> rfl
    · rintro ⟨-, hNum⟩
      rw [releaseSlot]
      split
      · exact ⟨fun hSlot => (nomatch hSlot), hNum⟩
      · exact ⟨fun hSlot => (nomatch hSlot), hNum⟩

lemma accounted_setMultiplexing (place : Nat) (enabled : Bool) : (srv.onConnection place fun backend connection =>
      (backend, connectionSetMultiplexing connection enabled)).1.Accounted := by
  rw [Server.onConnection]
  split
  · exact h
  rename_i connection hAt
  refine h.of_step (h.linked.setConnection _ hAt rfl id) ?_
  rw [slots_set]
  change srv.books.Step (booksOf srv.backend (srv.slots.set place (connection.id, connection.slotAdmitted)) srv.holders)
  rw [set_of_getElem? (slots_getElem? hAt)]
  exact .stay

lemma accounted_begin (place arena : Nat) : (srv.begin place arena).1.Accounted := by
  rw [Server.begin]
  split
  · exact h
  rename_i connection hAt
  obtain ⟨failure, hRefused⟩ | ⟨hBegin, hRoom, scheme, hAdmitted⟩ :=
    requestBegin_cases srv.backend place connection arena
  · rw [hRefused]
    dsimp only
    rw [set_of_getElem? hAt]
    refine h.of_step (h.linked.addRequest ?_ fun _ hNone => (nomatch hNone)) ?_
    · exact ⟨fun hHeld => (nomatch hHeld), fun hBegun => absurd rfl hBegun⟩
    · rw [holders_append]
      exact .refuseRequest
  · rw [hAdmitted]
    obtain ⟨hAttached, -, hState, -⟩ := connectionCanBeginRequest_iff.mp hBegin
    have hLinked := h.linked.setConnection { srv.backend with
        activeRequests := srv.backend.activeRequests + 1
        nextRequestId := srv.backend.nextRequestId + 1 } hAt
      (show connection.begun.attached = connection.attached from rfl) id
    have hNum : srv.backend.nextRequestId ≠ 0 := Nat.ne_of_gt h.sound.requests.positive
    refine h.of_step (hLinked.addRequest ⟨fun _ hNone => (nomatch hNone), fun _ => hNum⟩ ?_) ?_
    · intro p hPlace
      cases hPlace
      exact ⟨connection.begun, getElem?_set_self (List.getElem_of_getElem? hAt).1, hAttached⟩
    · have hSlot : srv.slots[place]? = some (connection.begun.id, connection.begun.slotAdmitted) :=
        @slots_getElem? _ _ connection hAt
      rw [holders_append ⟨_, srv.connections.set place connection.begun, srv.requests⟩, Lives.slots,
        map_set, ← Lives.slots, set_of_getElem? hSlot]
      exact .beginRequest hState hRoom

end

lemma accounted_step (parser : HeadParser) (h : srv.Accounted) (op : Operation) :
    (step parser srv op).1.Accounted := by
  rcases step_cases parser srv op with hServes | ⟨origin, place, hEffect⟩
  · cases hServes with
    | start => exact accounted_start h
    | stop => exact accounted_stop h
    | dispose => exact accounted_dispose h
    | accept => exact accounted_accept h
    | connectionClose =>
      apply accounted_onConnection h
      intro backend connection
      rw [connectionClose]
      split
      · exact .inl rfl
      · exact .inr ⟨_, rfl⟩
    | connectionFail place => exact accounted_onConnection h place fun _ _ => .inr ⟨_, rfl⟩
    | setMultiplexing place enabled => exact accounted_setMultiplexing h place enabled
    | begin place arena => exact accounted_begin h place arena
  · exact h.of_step (h.linked.target hEffect) (books_target h.linked hEffect)

lemma accounted_init (opts : Option BackendOptions) (arenas : Nat → Arena) :
    (Server.init opts arenas).Accounted where
  linked := ⟨fun _ h => (nomatch h), fun _ h => (nomatch h), fun _ h => (nomatch h)⟩
  sound :=
    { connections := Pool.sound_empty _ Nat.one_pos
      requests := Pool.sound_empty _ Nat.one_pos
      stopping := fun h => (nomatch h)
      idle := fun _ _ => ⟨rfl, rfl⟩ }

lemma accounted_runOps (parser : HeadParser) (h : srv.Accounted) (ops : List Operation) :
    (runOps parser srv ops).Accounted :=
  foldlRecOn (motive := fun reached : Server => reached.Accounted) ops _ h
    fun _ hReached op _ => accounted_step parser hReached op

variable {r : Nat}

/-- The request a target's effect leaves at a place was there before, and it is admitted only if it was. -/
lemma TargetEffect.admitted (h : TargetEffect origin lives place after) (hAt : after.requests[r]? = some request)
    (hAdmitted : request.admitted = true) : ∃ before, lives.requests[r]? = some before ∧ before.admitted = true := by
  obtain rfl | ⟨record, scope, hRecord, hEffect, rfl⟩ := h
  · exact ⟨request, hAt, hAdmitted⟩
  obtain ⟨rfl, rfl⟩ | ⟨-, hOld⟩ := getElem?_set_cases hAt
  · refine ⟨record, hRecord, ?_⟩
    cases hEffect.account with
    | kept hBackend hSame => exact hSame.symm.trans hAdmitted
    | released connection hConn hHeld => exact hHeld
  · exact ⟨request, hOld, hAdmitted⟩

variable {α : Type}

/-- A request that a step admits is begun on a connection with a slot, while the backend is started. -/
lemma admitted_step (parser : HeadParser) (srv : Server) (op : Operation)
    (hAt : (step parser srv op).1.requests[r]? = some request) (hAdmitted : request.admitted = true)
    (hBefore : ∀ before, srv.requests[r]? = some before → before.admitted = false) :
    srv.backend.state = .started ∧ ∃ place connection, request.connection = some place ∧
      srv.connections[place]? = some connection ∧ connection.slotAdmitted = true := by
  have hOld : srv.requests[r]? ≠ some request := by
    intro hSame
    rw [hBefore request hSame] at hAdmitted
    cases hAdmitted
  rcases step_cases parser srv op with hServes | ⟨origin, place, hEffect⟩
  · cases hServes with
    | start | stop | dispose | accept => exact absurd hAt hOld
    | connectionClose | connectionFail | setMultiplexing =>
      rw [step, Server.onConnection] at hAt
      split at hAt
      · exact absurd hAt hOld
      · exact absurd hAt hOld
    | begin place arena =>
      rw [step, Server.begin] at hAt
      split at hAt
      · exact absurd hAt hOld
      rename_i connection hConn
      obtain ⟨failure, hRefused⟩ | ⟨hBegin, -, scheme, hBegun⟩ := requestBegin_cases srv.backend place connection arena
      · rw [hRefused] at hAt
        obtain hFound | ⟨-, hNew⟩ := getElem?_concat hAt
        · exact absurd hFound hOld
        · rw [hNew] at hAdmitted
          cases hAdmitted
      · rw [hBegun] at hAt
        obtain hFound | ⟨-, rfl⟩ := getElem?_concat hAt
        · exact absurd hFound hOld
        · obtain ⟨-, hSlot, hState, -⟩ := connectionCanBeginRequest_iff.mp hBegin
          exact ⟨hState, place, connection, rfl, hConn, hSlot⟩
  · obtain ⟨before, hFound, hHeld⟩ := hEffect.admitted hAt hAdmitted
    rw [hBefore before hFound] at hHeld
    cases hHeld

lemma issued_nodup {records : List α} {id : α → Nat} {held linked : α → Bool} {pool : Pool} (hPool : pool.Sound)
    (hHolders : pool.holders = records.map fun record => (id record, held record))
    (hNumbered : ∀ record ∈ records, linked record = true → id record ≠ 0) :
    ((records.filter linked).map id).Nodup := by
  have hIssued : pool.issued = (records.filter fun record => decide (id record ≠ 0)).map id := by
    rw [Pool.issued, hHolders, map_map, filter_map]
    rfl
  have hNodup := hPool.nodup
  rw [hIssued] at hNodup
  refine List.Nodup.sublist (List.Sublist.map id ?_) hNodup
  have hFilter : records.filter linked = (records.filter fun record => decide (id record ≠ 0)).filter linked := by
    rw [filter_filter]
    apply filter_congr
    intro record hMem
    cases hLinked : linked record with
    | false => rfl
    | true => simp [hNumbered record hMem hLinked]
  rw [hFilter]
  exact filter_sublist

/-- The counts of a backend agree with the flags of its connections and requests, numbers are given out
once, and the counts decide when a stopping backend is stopped. -/
structure Lives.AdmissionHolds (lives : Lives) : Prop where
  connections : lives.backend.activeConnections = lives.connections.countP Connection.slotAdmitted
  connectionsWithin : lives.backend.activeConnections ≤ lives.backend.options.maxConnections
  requests : lives.backend.activeRequests = lives.requests.countP RequestLifecycle.admitted
  requestsWithin : lives.backend.activeRequests ≤ lives.backend.options.maxActiveRequests
  connectionIds : ((lives.connections.filter Connection.attached).map Connection.id).Nodup
  requestIds : ((lives.requests.filter fun request => request.connection.isSome).map RequestLifecycle.id).Nodup
  stopped : lives.backend.state = .stopping ∨ lives.backend.state = .stopped → (lives.backend.state = .stopped ↔
      lives.backend.activeConnections = 0 ∧ lives.backend.activeRequests = 0)

lemma Lives.Accounted.admissionHolds (h : lives.Accounted) : lives.AdmissionHolds where
  connections := h.sound.connections.active_eq.trans (countP_map ..)
  connectionsWithin := h.sound.connections.within
  requests := h.sound.requests.active_eq.trans (countP_map ..)
  requestsWithin := h.sound.requests.within
  connectionIds := issued_nodup h.sound.connections rfl
    fun connection hMem => (h.linked.connections connection hMem).2
  requestIds := issued_nodup h.sound.requests rfl
    fun request hMem hBegun => (h.linked.requests request hMem).2 (Option.isSome_iff_ne_none.mp hBegun)
  stopped := by
    rintro (hStopping | hStopped)
    · have hBusy := h.sound.stopping hStopping
      refine iff_of_false (fun hStopped => ?_) (fun hNone => ?_)
      · rw [hStopping] at hStopped
        cases hStopped
      · exact hBusy.elim (absurd hNone.1) (absurd hNone.2)
    · refine iff_of_true hStopped (h.sound.idle ?_ ?_)
      · exact fun hStarted => nomatch hStopped.symm.trans hStarted
      · exact fun hStopping => nomatch hStopped.symm.trans hStopping

/-- In every state that operations lead to the accounts hold, and the next operation admits a request only
on a connection that has its slot and while the backend is started. -/
theorem admission_accounting (parser : HeadParser) (options : Option BackendOptions) (arenas : Nat → Arena)
    (ops : List Operation) (op : Operation) :
    (runOps parser (Server.init options arenas) ops).AdmissionHolds ∧
    ∀ (r : Nat) (request : RequestLifecycle),
      (runOps parser (Server.init options arenas) (ops ++ [op])).requests[r]? = some request →
      request.admitted = true →
      (∀ before, (runOps parser (Server.init options arenas) ops).requests[r]? = some before →
        before.admitted = false) →
      (runOps parser (Server.init options arenas) ops).backend.state = .started ∧
      ∃ place connection, request.connection = some place ∧
        (runOps parser (Server.init options arenas) ops).connections[place]? = some connection ∧
        connection.slotAdmitted = true := by
  refine ⟨(accounted_runOps parser (accounted_init options arenas) ops).admissionHolds, ?_⟩
  intro r request hAt hAdmitted hBefore
  rw [runOps, foldl_append] at hAt
  exact admitted_step parser _ op hAt hAdmitted hBefore

/-- The first request of the first connection. -/
theorem admission_accounting_first :
    (runOps refusingParser (Server.init none emptyArenas) [.start, .accept]).AdmissionHolds ∧
    (runOps refusingParser (Server.init none emptyArenas) [.start, .accept]).backend.state = .started ∧
    ∃ place connection, some 0 = some place ∧
      (runOps refusingParser (Server.init none emptyArenas) [.start, .accept]).connections[place]? =
        some connection ∧ connection.slotAdmitted = true := by
  have hAccounts := admission_accounting refusingParser none emptyArenas [.start, .accept] (.begin 0 0)
  refine ⟨hAccounts.1, hAccounts.2 0 _ rfl rfl ?_⟩
  intro before hBefore
  cases hBefore

end Sloppy.Backend
