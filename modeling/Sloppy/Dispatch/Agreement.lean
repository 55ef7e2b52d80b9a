import Sloppy.Dispatch.Reference

/-! # Agreement of the two lookups, and the route of a request

Over a built table the lookup through the indexes and the reference scan select the same route. Their mismatch flags
may differ beside a selected one, so the mode that compares both rejects some requests. The front of
`sl_http_dispatch_request_core` selects the route or gives the failure.
-/

namespace Sloppy.Dispatch

open Route Lib List

section

variable {table : DispatchTable}

lemma findExact_empty (h : table.exactBuckets = []) (method : HttpMethod) (path : List UInt8) :
    findExactRouteForMethod table method path = none := by
  rw [findExactRouteForMethod, h]
  rfl

lemma exactOther_empty (h : table.exactBuckets = []) (method : HttpMethod) (path : List UInt8) :
    exactPathHasOtherMethod table method path = false := by
  simp only [exactPathHasOtherMethod, findExact_empty h, Option.isSome_none, Bool.and_false]
  split
  · rfl
  · exact any_eq_false.mpr fun _ _ => Bool.false_ne_true

lemma findRouteCompiled_eq (table : DispatchTable) (copy : Option CopyParams) (req : RequestHead) :
    findRouteCompiled table copy req =
      match findExactRouteForMethod table (routeMatchMethod req.method) req.path with
      | some index => .ok ⟨some index, false, none⟩
      | none => findRouteCompiledParams table copy req
          (exactPathHasOtherMethod table (routeMatchMethod req.method) req.path) := by
  rw [findRouteCompiled]
  split
  · rfl
  next hEmpty =>
    have hEmpty := not_not.mp hEmpty
    rw [findExact_empty hEmpty, exactOther_empty hEmpty]

variable {index : Nat}

lemma TableShape.lt_paramStart (hShape : TableShape table) (hBuckets : table.paramBuckets = [])
    {binding : RouteBinding} (hAt : table.routes[index]? = some binding) : index < table.paramStart := by
  refine Nat.lt_of_not_le fun hStart => ?_
  have hMem := ((hShape.candidates_spec (candidateKey binding).1 (candidateKey binding).2).2 index).mpr
    ⟨hStart, binding, hAt, rfl⟩
  rw [candidates, findParamBucket_none hBuckets] at hMem
  exact absurd hMem not_mem_nil

/-- The route match of a lookup through the indexes: exact routes have none. -/
def routeMatchOf (table : DispatchTable) (copy : Option CopyParams) (path : List UInt8) :
    Option Nat → Except StatusCode (Option (List RouteParam))
  | none => .ok none
  | some index =>
    if index < table.paramStart then .ok none
    else
      match table.routes[index]? with
      | none => .error .internal
      | some binding =>
        captureResult (if table.handlerCacheTrusted then copy else none) binding.pattern path

lemma selectResult_eq {copy : Option CopyParams} {path : List UInt8} (hStart : table.paramStart ≤ index) :
    selectResult table.routes (if table.handlerCacheTrusted then copy else none) path (some index) =
      (routeMatchOf table copy path (some index)).map fun params => some (index, params) := by
  simp only [selectResult, routeMatchOf, if_neg (Nat.not_lt.mpr hStart)]
  cases table.routes[index]? with
  | none => rfl
  | some binding =>
    dsimp only
    cases captureResult _ binding.pattern path <;> rfl

variable {req : RequestHead}

/-- A lookup through the indexes selects the first route that matches. With an exact route its flag is unset; with a
parameter route it reports the exact routes of other methods, and with none all routes of other methods. -/
structure Selects (table : DispatchTable) (copy : Option CopyParams) (req : RequestHead)
    (lookup : Except StatusCode Found) (binding : Option Nat) (flag : Bool) : Prop where
  first : IsFirst (Matches table.routes (routeMatchMethod req.method) req.path) binding
  other : flag = true ↔ ∃ j, MatchesOther table.routes (routeMatchMethod req.method) req.path j ∧
    ∀ i, binding = some i → j < table.paramStart ∧ table.paramStart ≤ i
  run : lookup = (routeMatchOf table copy req.path binding).map (Found.mk binding flag)

variable {copy : Option CopyParams}

lemma selects_none {flag : Bool} (hNone : ∀ i, ¬Matches table.routes (routeMatchMethod req.method) req.path i)
    (hFlag : flag = true ↔ ∃ j, MatchesOther table.routes (routeMatchMethod req.method) req.path j) :
    Selects table copy req (.ok ⟨none, flag, none⟩) none flag :=
  ⟨⟨fun _ h => (by cases h), fun i hi => absurd hi (hNone i)⟩, by simpa using hFlag, rfl⟩

lemma TableShape.findCompiledParams (hShape : TableShape table) (copy : Option CopyParams)
    (hPath : req.path.head? = some slash) (hExact : ∀ i, Matches table.routes (routeMatchMethod req.method) req.path i →
      table.paramStart ≤ i) :
    ∃ binding flag, Selects table copy req (findRouteCompiledParams table copy req
      (exactPathHasOtherMethod table (routeMatchMethod req.method) req.path)) binding flag := by
  have hOther := hShape.exactOther hPath (routeMatchMethod req.method)
  rw [findRouteCompiledParams]
  split
  · obtain ⟨result, hFirst, hFind⟩ := hShape.findParam copy hPath (routeMatchMethod req.method)
    have hFirst := hFirst.congr fun i => and_iff_left_of_imp (hExact i)
    rw [hFind]
    cases result with
    | some index =>
      have hStart := hExact index (hFirst.found index rfl)
      refine ⟨some index, _, hFirst, by simpa [hStart] using hOther, ?_⟩
      rw [selectResult_eq hStart]
      cases routeMatchOf table copy req.path (some index) <;> rfl
    | none =>
      obtain ⟨flag, hRun, hFlag⟩ := hShape.paramOther hPath (routeMatchMethod req.method)
      rw [selectResult, hRun]
      refine ⟨none, _, selects_none (hFirst.none_iff.mp rfl) ?_⟩
      rw [Bool.or_eq_true, hOther, hFlag, ← exists_or]
      exact exists_congr fun j => and_or_left.symm.trans (and_iff_left (Nat.lt_or_ge j _))
  next hBuckets =>
    have hBuckets := not_not.mp hBuckets
    have hNone : ∀ i, ¬Matches table.routes (routeMatchMethod req.method) req.path i := by
      intro i hi
      obtain ⟨binding, hAt, -⟩ := id hi
      exact absurd (hExact i hi) (Nat.not_le.mpr (hShape.lt_paramStart hBuckets hAt))
    split
    · obtain ⟨binding, flag, hRun, hFirst, hFlag⟩ := hShape.findLinear req
      obtain rfl := hFirst.none_iff.mpr hNone
      exact ⟨none, flag, hRun ▸ selects_none hNone (by simpa using hFlag)⟩
    · have hEmpty : table.paramRoutes = [] := by
        refine eq_nil_iff_forall_not_mem.mpr fun binding hMem => ?_
        obtain ⟨i, hi⟩ := mem_iff_getElem?.mp hMem
        rw [DispatchTable.paramRoutes, getElem?_drop] at hi
        exact absurd (hShape.lt_paramStart hBuckets hi) (by omega)
      rw [hEmpty]
      refine ⟨none, _, selects_none hNone (hOther.trans (exists_congr fun j => and_iff_left_of_imp ?_))⟩
      rintro ⟨binding, hAt, -⟩
      exact hShape.lt_paramStart hBuckets hAt

lemma TableShape.findCompiled (hShape : TableShape table) (copy : Option CopyParams)
    (hPath : req.path.head? = some slash) :
    ∃ binding flag, Selects table copy req (findRouteCompiled table copy req) binding flag := by
  have hExact := hShape.findExact hPath (routeMatchMethod req.method)
  rw [findRouteCompiled_eq]
  cases hFind : findExactRouteForMethod table (routeMatchMethod req.method) req.path with
  | none =>
    have hNone := hExact.none_iff.mp hFind
    exact hShape.findCompiledParams copy hPath fun i hi =>
      Nat.le_of_not_lt fun hLt => hNone i ⟨hi, hLt⟩
  | some index =>
    obtain ⟨hMatch, hStart⟩ := hExact.found index hFind
    refine ⟨some index, false, ⟨fun i hi => Option.some.inj hi ▸ hMatch, fun i hi => ?_⟩, ?_, ?_⟩
    · obtain ⟨first, hFirst, hLe⟩ | hLate : (∃ first, some index = some first ∧ first ≤ i) ∨ table.paramStart ≤ i := by
        rcases Nat.lt_or_ge i table.paramStart with hLt | hGe
        · exact Or.inl (hFind ▸ hExact.least i ⟨hi, hLt⟩)
        · exact Or.inr hGe
      · exact ⟨first, hFirst, hLe⟩
      · exact ⟨index, rfl, by omega⟩
    · refine ⟨fun h => absurd h Bool.false_ne_true, ?_⟩
      rintro ⟨j, -, hBefore⟩
      have := hBefore index rfl
      omega
    · rw [routeMatchOf, if_pos hStart]
      rfl

end

def CopyFails (table : DispatchTable) (copy : Option CopyParams) (path : List UInt8) (index : Nat)
    (code : StatusCode) : Prop :=
  table.paramStart ≤ index ∧ table.handlerCacheTrusted = true ∧
    ∃ binding arena, table.routes[index]? = some binding ∧ copy = some arena ∧
      copyRouteParams arena (capturedParams binding.pattern path) = .error code

variable {copy : Option CopyParams} {path : List UInt8} {code : StatusCode}

lemma captureResult_error {pat : RoutePattern} : captureResult copy pat path = .error code ↔
      ∃ arena, copy = some arena ∧ copyRouteParams arena (capturedParams pat path) = .error code := by
  cases copy with
  | none => simp [captureResult]
  | some arena =>
    cases h : copyRouteParams arena (capturedParams pat path) <;> simp [captureResult, h]

variable {table : DispatchTable} {index : Nat}

lemma routeMatchOf_error (hIndex : index < table.routes.length) :
    routeMatchOf table copy path (some index) = .error code ↔ CopyFails table copy path index code := by
  rw [routeMatchOf, CopyFails, List.getElem?_eq_getElem hIndex]
  by_cases hStart : index < table.paramStart
  · simp [hStart]
  · cases hTrusted : table.handlerCacheTrusted with
    | false => simp [hStart, captureResult]
    | true => simp [hStart, captureResult_error, Nat.le_of_not_lt hStart]

variable {method : HttpMethod}

lemma Matches.lt_length {routes : List RouteBinding} (h : Matches routes method path index) :
    index < routes.length := by
  obtain ⟨binding, hAt, -⟩ := h
  exact (List.getElem_of_getElem? hAt).1

/-- The compiled lookup selects the binding of the reference scan, and without a binding it reports
the same mismatch; it fails only where the arena cannot hold the parameters of that binding. -/
theorem findRouteCompiled_agrees {qsort : List RouteTableEntry → List RouteTableEntry}
    (hSort : SortsByCompare qsort) {plan : Plan} {table : DispatchTable}
    (hBuild : routeTableBuild qsort plan = .ok table) (copy : Option CopyParams)
    {request : RequestHead} (hPath : request.path.head? = some slash) :
    ∃ classic, findRouteLinear table request = .ok classic ∧
      match findRouteCompiled table copy request with
      | .ok compiled =>
        compiled.binding = classic.binding ∧ (classic.binding = none → compiled.methodMismatch = classic.methodMismatch)
      | .error code =>
        ∃ index, classic.binding = some index ∧ CopyFails table copy request.path index code := by
  have hShape := routeTableBuild_shape hSort hBuild
  obtain ⟨binding, flag, hRun, hFirst, hFlag⟩ := hShape.findLinear request
  obtain ⟨selected, compiledFlag, hSelected, hCompiledFlag, hCompiled⟩ := hShape.findCompiled copy hPath
  obtain rfl := hSelected.unique hFirst
  refine ⟨_, hRun, ?_⟩
  rw [hCompiled]
  cases hMatch : routeMatchOf table copy request.path selected with
  | error =>
    cases selected with
    | none => cases hMatch
    | some index =>
      exact ⟨index, rfl, (routeMatchOf_error (hFirst.found index rfl).lt_length).mp hMatch⟩
  | ok =>
    refine ⟨rfl, fun hNone => Bool.eq_iff_iff.mpr ?_⟩
    obtain rfl : selected = none := hNone
    rw [hCompiledFlag, hFlag]
    simp

def overlappingPlan : Plan where
  handlers := [1]
  routes := [⟨HttpMethod.get.name, ascii ['/', 'a', '/', '\x7b', 'x', '\x7d'], [], 1⟩,
    ⟨HttpMethod.get.name, ascii ['/', 'a', '/', '\x7b', 'y', ':', 'i', 'n', 't', '\x7d'], [], 1⟩,
    ⟨HttpMethod.post.name, ascii ['/', 'a', '/', '5'], [], 1⟩,
    ⟨HttpMethod.get.name, ascii ['/'], [], 1⟩]

theorem findRouteCompiled_agrees_overlapping :
    ∃ table, routeTableBuild insertionSortEntries overlappingPlan = .ok table ∧
      ∃ classic, findRouteLinear table ⟨.get, ascii ['/', 'a', '/', '5']⟩ = .ok classic ∧
        match findRouteCompiled table (some fun _ => .ok ()) ⟨.get, ascii ['/', 'a', '/', '5']⟩ with
        | .ok compiled =>
          compiled.binding = classic.binding ∧
            (classic.binding = none → compiled.methodMismatch = classic.methodMismatch)
        | .error code => ∃ index, classic.binding = some index ∧
            CopyFails table (some fun _ => .ok ()) (ascii ['/', 'a', '/', '5']) index code := by
  obtain ⟨table, hBuild, -⟩ := @exists_ok _ _ (routeTableBuild insertionSortEntries overlappingPlan) (fun _ => true)
    (by decide +kernel)
  exact ⟨table, hBuild, findRouteCompiled_agrees insertionSort_sortsByCompare hBuild _ rfl⟩

/-- The requests for which the flags of the two lookups agree: with a selected route, no route before
it matches with another method, or it has parameters and an exact route matches with another method.
A failed copy ends the lookup before the flags are compared. -/
def FlagsAgree (table : DispatchTable) (copy : Option CopyParams) (request : RequestHead) : Prop :=
  ∀ i, IsFirst (Matches table.routes (routeMatchMethod request.method) request.path) (some i) →
    (∃ code, CopyFails table copy request.path i code) ∨
    (∀ j, MatchesOther table.routes (routeMatchMethod request.method) request.path j → i ≤ j) ∨
    (table.paramStart ≤ i ∧ ∃ j, j < table.paramStart ∧
      MatchesOther table.routes (routeMatchMethod request.method) request.path j)

lemma flags_eq_iff {i : Nat} {compiled classic : Bool}
    (hCompiled : compiled = true ↔ ∃ j, MatchesOther table.routes method path j ∧
      ∀ k, some i = some k → j < table.paramStart ∧ table.paramStart ≤ k)
    (hClassic : classic = true ↔ ∃ j, MatchesOther table.routes method path j ∧ ∀ k, some i = some k → j < k) :
    compiled = classic ↔ (∀ j, MatchesOther table.routes method path j → i ≤ j) ∨
      (table.paramStart ≤ i ∧ ∃ j, j < table.paramStart ∧ MatchesOther table.routes method path j) := by
  simp only [Option.some.injEq, forall_eq'] at hCompiled hClassic
  constructor
  · rintro rfl
    cases compiled with
    | false =>
      left
      intro j hj
      exact Nat.le_of_not_lt fun hLt => Bool.false_ne_true (hClassic.mpr ⟨j, hj, hLt⟩)
    | true =>
      obtain ⟨j, hj, hBefore, hStart⟩ := hCompiled.mp rfl
      exact Or.inr ⟨hStart, j, hBefore, hj⟩
  · rintro (hNone | ⟨hStart, j, hBefore, hj⟩)
    · have hFalse : classic = false := Bool.eq_false_iff.mpr fun h => by
        obtain ⟨j, hj, hLt⟩ := hClassic.mp h
        exact absurd (hNone j hj) (Nat.not_le.mpr hLt)
      rw [hFalse]
      refine Bool.eq_false_iff.mpr fun h => ?_
      obtain ⟨j, hj, hBefore, hStart⟩ := hCompiled.mp h
      exact absurd (hNone j hj) (by omega)
    · rw [hCompiled.mpr ⟨j, hj, hBefore, hStart⟩, hClassic.mpr ⟨j, hj, by omega⟩]

lemma findRoute_validate (hShape : TableShape table) (copy : Option CopyParams) {req : RequestHead}
    (hPath : req.path.head? = some slash) :
    (∃ code, findRoute .validate table copy req = .error code ∧
      findRoute .compiled table copy req = .error code ∧ FlagsAgree table copy req ∧
      ∃ index, CopyFails table copy req.path index code) ∨
    ∃ compiled, findRoute .compiled table copy req = .ok compiled ∧
      ((FlagsAgree table copy req ∧ findRoute .validate table copy req = .ok compiled) ∨ (¬FlagsAgree table copy req ∧
          findRoute .validate table copy req = .error .internal)) := by
  obtain ⟨binding, flag, hRun, hFirst, hFlag⟩ := hShape.findLinear req
  obtain ⟨selected, compiledFlag, hSelected, hCompiledFlag, hCompiled⟩ := hShape.findCompiled copy hPath
  obtain rfl := hSelected.unique hFirst
  have hIndex : ∀ i, selected = some i → i < table.routes.length := fun i hi =>
    (hFirst.found i hi).lt_length
  simp only [findRoute, hCompiled, hRun]
  cases hMatch : routeMatchOf table copy req.path selected with
  | error code =>
    cases selected with
    | none => cases hMatch
    | some index =>
      have hFails := (routeMatchOf_error (hIndex index rfl)).mp hMatch
      refine Or.inl ⟨code, rfl, rfl, fun i hi => Or.inl ⟨code, ?_⟩, index, hFails⟩
      rwa [Option.some.inj (hi.unique hFirst)]
  | ok =>
    have hSame : FlagsAgree table copy req ↔ compiledFlag = flag := by
      cases selected with
      | none =>
        refine ⟨fun _ => Bool.eq_iff_iff.mpr ?_, fun _ i hi => absurd (hi.unique hFirst) (by simp)⟩
        rw [hCompiledFlag, hFlag]
        simp
      | some index =>
        have hFlags := flags_eq_iff hCompiledFlag hFlag
        refine ⟨fun h => hFlags.mpr ((h index hFirst).resolve_left ?_), fun h i hi => ?_⟩
        · rintro ⟨code, hFails⟩
          cases hMatch.symm.trans ((routeMatchOf_error (hIndex index rfl)).mpr hFails)
        · obtain rfl := Option.some.inj (hi.unique hFirst)
          exact Or.inr (hFlags.mp h)
    refine Or.inr ⟨_, rfl, ?_⟩
    by_cases hFlags : compiledFlag = flag
    · exact Or.inl ⟨hSame.mpr hFlags, by simp [Except.map, hFlags]⟩
    · exact Or.inr ⟨fun h => hFlags (hSame.mp h), by simp [Except.map, hFlags]⟩

/-- The comparing mode returns what the compiled mode returns exactly where the flags agree; with an
arena that does not fail with an internal error itself, it reports a mismatch everywhere else and
only there. -/
theorem findRoute_validate_iff {qsort : List RouteTableEntry → List RouteTableEntry}
    (hSort : SortsByCompare qsort) {plan : Plan} {table : DispatchTable}
    (hBuild : routeTableBuild qsort plan = .ok table) (copy : Option CopyParams)
    {request : RequestHead} (hPath : request.path.head? = some slash) :
    (findRoute .validate table copy request = findRoute .compiled table copy request ↔ FlagsAgree table copy request) ∧
    ((∀ arena, copy = some arena → ∀ params, arena params ≠ .error .internal) →
      (findRoute .validate table copy request ≠ .error .internal ↔ FlagsAgree table copy request)) := by
  rcases findRoute_validate (routeTableBuild_shape hSort hBuild) copy hPath with
    ⟨code, hValidate, hCompiled, hAgree, index, hFails⟩ | ⟨compiled, hCompiled, hCase⟩
  · rw [hValidate, hCompiled]
    refine ⟨iff_of_true rfl hAgree, fun hArena => iff_of_true ?_ hAgree⟩
    obtain ⟨-, -, binding, arena, -, hCopy, hError⟩ := hFails
    rw [copyRouteParams] at hError
    split at hError
    · cases hError
    · exact fun hInternal => hArena arena hCopy _ (Except.error.inj hInternal ▸ hError)
  · rw [hCompiled]
    rcases hCase with ⟨hAgree, hValidate⟩ | ⟨hDiffer, hValidate⟩
    · rw [hValidate]
      exact ⟨iff_of_true rfl hAgree, fun _ => iff_of_true (fun h => by cases h) hAgree⟩
    · rw [hValidate]
      exact ⟨iff_of_false (fun h => by cases h) hDiffer, fun _ => iff_of_false (fun h => h rfl) hDiffer⟩

def twoMethodsPlan : Plan where
  handlers := [1]
  routes := [⟨HttpMethod.get.name, ascii ['/', 'a'], [], 1⟩, ⟨HttpMethod.post.name, ascii ['/', 'a'], [], 1⟩]

theorem findRoute_validate_iff_twoMethods : ∃ table, routeTableBuild insertionSortEntries twoMethodsPlan = .ok table ∧
      (findRoute .validate table none ⟨.get, ascii ['/', 'a']⟩ =
          findRoute .compiled table none ⟨.get, ascii ['/', 'a']⟩ ↔
        FlagsAgree table none ⟨.get, ascii ['/', 'a']⟩) ∧
      (findRoute .validate table none ⟨.get, ascii ['/', 'a']⟩ ≠ .error .internal ↔
        FlagsAgree table none ⟨.get, ascii ['/', 'a']⟩) := by
  obtain ⟨table, hBuild, -⟩ := @exists_ok _ _ (routeTableBuild insertionSortEntries twoMethodsPlan) (fun _ => true)
    (by decide +kernel)
  have hIff := @findRoute_validate_iff _ insertionSort_sortsByCompare _ _ hBuild none ⟨.get, ascii ['/', 'a']⟩ rfl
  exact ⟨table, hBuild, hIff.1, hIff.2 fun _ h => by cases h⟩

/-- `POST /a` is served in the compiled mode and rejected in the comparing one. -/
theorem findRoute_validate_rejects : ∃ table, routeTableBuild insertionSortEntries twoMethodsPlan = .ok table ∧
      findRoute .compiled table none ⟨.post, ascii ['/', 'a']⟩ = .ok ⟨some 1, false, none⟩ ∧
      findRoute .validate table none ⟨.post, ascii ['/', 'a']⟩ = .error .internal := by
  obtain ⟨table, hBuild, hBoth⟩ := @exists_ok _ _ (routeTableBuild insertionSortEntries twoMethodsPlan)
    (fun table => findRoute .compiled table none ⟨.post, ascii ['/', 'a']⟩ == .ok ⟨some 1, false, none⟩ &&
      findRoute .validate table none ⟨.post, ascii ['/', 'a']⟩ == .error .internal) (by decide +kernel)
  rw [Bool.and_eq_true, beq_iff_eq, beq_iff_eq] at hBoth
  exact ⟨table, hBuild, hBoth⟩

inductive RequestDiagCode where
  | httpRouteNotFound | httpMethodNotAllowed | httpUnsupportedMethod | routeValidateMismatch
  deriving DecidableEq

structure RequestDiag where
  code : RequestDiagCode
  message : String
  hint : String
  deriving DecidableEq

structure RequestFailure where
  status : StatusCode
  diag : Option RequestDiag
  deriving DecidableEq

def missingRoute : RequestFailure :=
  ⟨.outOfRange, some ⟨.httpRouteNotFound, "no matching HTTP route was found",
    "register a route binding for the parsed request path"⟩⟩

def methodNotAllowed : RequestFailure :=
  ⟨.unsupported, some ⟨.httpMethodNotAllowed, "HTTP method is not allowed for this route",
    "register a route with matching method metadata before serving"⟩⟩

def unsupportedRequestMethod : RequestFailure :=
  ⟨.unsupported, some ⟨.httpUnsupportedMethod, "HTTP method is not supported by the framework runtime",
    "supported request methods are GET, HEAD, POST, PUT, PATCH, DELETE, and OPTIONS"⟩⟩

def validateMismatch : RequestFailure :=
  ⟨.internal, some ⟨.routeValidateMismatch, "compiled and classic route dispatch disagreed",
    "rebuild route artifacts or force classic dispatch for triage"⟩⟩

def requestCore (mode : DispatchMode) (table : DispatchTable) (request : RequestHead) : Except RequestFailure Nat :=
  if !requestMethodRunnable request.method then .error unsupportedRequestMethod
  else if request.path.head? ≠ some slash then .error ⟨.invalidArgument, none⟩
  else
    match findRoute mode table none request with
    | .error .internal => .error validateMismatch
    | .error code => .error ⟨code, none⟩
    | .ok found =>
      match found.binding with
      | some index => .ok index
      | none => if found.methodMismatch then .error methodNotAllowed else .error missingRoute

/-- The comparing mode lets a request pass only where its two lookups raise the same flag. -/
def Accepted (mode : DispatchMode) (table : DispatchTable) (request : RequestHead) : Prop :=
  mode = .validate → FlagsAgree table none request

lemma TableShape.findRoute_none {table : DispatchTable} (hShape : TableShape table) {req : RequestHead}
    (hPath : req.path.head? = some slash) (mode : DispatchMode) :
    ∃ selected flag, IsFirst (Matches table.routes (routeMatchMethod req.method) req.path) selected ∧
      (selected = none → (flag = true ↔ ∃ j, MatchesOther table.routes (routeMatchMethod req.method) req.path j)) ∧
      (Accepted mode table req → ∃ params, findRoute mode table none req = .ok ⟨selected, flag, params⟩) ∧
      (¬Accepted mode table req → findRoute mode table none req = .error .internal) := by
  obtain ⟨selected, flag, hFirst, hFlag, hCompiled⟩ := hShape.findCompiled none hPath
  have hMatch : ∃ params, routeMatchOf table none req.path selected = .ok params := by
    cases hResult : routeMatchOf table none req.path selected with
    | ok params => exact ⟨params, rfl⟩
    | error =>
      cases selected with
      | none => cases hResult
      | some index =>
        obtain ⟨-, -, binding, arena, -, hNone, -⟩ := (routeMatchOf_error (hFirst.found index rfl).lt_length).mp hResult
        cases hNone
  obtain ⟨params, hParams⟩ := hMatch
  have hRun : findRouteCompiled table none req = .ok ⟨selected, flag, params⟩ := by
    rw [hCompiled, hParams]
    rfl
  have hOther : selected = none → (flag = true ↔
      ∃ j, MatchesOther table.routes (routeMatchMethod req.method) req.path j) := by
    rintro rfl
    rw [hFlag]
    exact exists_congr fun j => and_iff_left fun _ h => nomatch h
  cases mode with
  | compiled => exact ⟨selected, flag, hFirst, hOther, fun _ => ⟨params, hRun⟩, fun h => absurd (fun h => nomatch h) h⟩
  | classic =>
    obtain ⟨binding, scanFlag, hScan, hScanFirst, hScanFlag⟩ := hShape.findLinear req
    refine ⟨binding, scanFlag, hScanFirst, ?_, fun _ => ⟨none, hScan⟩, fun h => absurd (fun h => nomatch h) h⟩
    rintro rfl
    rw [hScanFlag]
    exact exists_congr fun j => and_iff_left fun _ h => nomatch h
  | validate =>
    rcases findRoute_validate hShape none hPath with ⟨code, -, hFailed, -⟩ | ⟨compiled, hDone, hCase⟩
    · cases hRun.symm.trans hFailed
    cases hRun.symm.trans hDone
    refine ⟨selected, flag, hFirst, hOther, fun hAccepted => ?_, fun hRejected => ?_⟩
    · rcases hCase with ⟨-, hValidate⟩ | ⟨hDiffer, -⟩
      · exact ⟨params, hValidate⟩
      · exact absurd (hAccepted rfl) hDiffer
    · rcases hCase with ⟨hAgree, -⟩ | ⟨-, hValidate⟩
      · exact absurd (fun _ => hAgree) hRejected
      · exact hValidate

lemma TableShape.requestCore_eq {table : DispatchTable} (hShape : TableShape table) {req : RequestHead}
    (hPath : req.path.head? = some slash) (hMethod : requestMethodRunnable req.method = true)
    (mode : DispatchMode) :
    ∃ selected, IsFirst (Matches table.routes (routeMatchMethod req.method) req.path) selected ∧
      (¬Accepted mode table req → requestCore mode table req = .error validateMismatch) ∧
      (Accepted mode table req → ∀ index, selected = some index → requestCore mode table req = .ok index) ∧
      (selected = none → Accepted mode table req ∧
        ((∃ j, MatchesOther table.routes (routeMatchMethod req.method) req.path j) →
          requestCore mode table req = .error methodNotAllowed) ∧
        ((¬∃ j, MatchesOther table.routes (routeMatchMethod req.method) req.path j) →
          requestCore mode table req = .error missingRoute)) := by
  obtain ⟨selected, flag, hFirst, hFlag, hFound, hRejected⟩ := hShape.findRoute_none hPath mode
  refine ⟨selected, hFirst, ?_, ?_, ?_⟩
  · intro hNot
    rw [requestCore, hMethod, hRejected hNot]
    simp [hPath]
  · rintro hAccepted index rfl
    obtain ⟨params, hRun⟩ := hFound hAccepted
    rw [requestCore, hMethod, hRun]
    simp [hPath]
  · rintro rfl
    have hAccepted : Accepted mode table req := fun _ i hi => nomatch hi.unique hFirst
    obtain ⟨params, hRun⟩ := hFound hAccepted
    refine ⟨hAccepted, fun hOther => ?_, fun hNone => ?_⟩
    · rw [requestCore, hMethod, hRun, (hFlag rfl).mpr hOther]
      simp [hPath]
    · rw [requestCore, hMethod, hRun, Bool.eq_false_iff.mpr (fun h => hNone ((hFlag rfl).mp h))]
      simp [hPath]

end Sloppy.Dispatch
