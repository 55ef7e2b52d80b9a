import Sloppy.Core.Growing
import Sloppy.Dispatch.Permuted
import Sloppy.Route.OneMatcher

/-! # The Allow header

`sl_http_dispatch_allow_header_for_path` asks the public matcher for every route of the table, where
dispatch asks its indexes. The methods it lists are those that dispatch finds a route for.
-/

namespace Sloppy.Dispatch

open Route Lib Growing List

structure AllowSet where
  get : Bool
  head : Bool
  post : Bool
  put : Bool
  patch : Bool
  delete : Bool
  options : Bool
  deriving DecidableEq

def AllowSet.none : AllowSet := ⟨false, false, false, false, false, false, false⟩

def allowSetAdd (methods : AllowSet) : HttpMethod → AllowSet
  | .get => { methods with get := true, head := true }
  | .head => { methods with head := true }
  | .post => { methods with post := true }
  | .put => { methods with put := true }
  | .patch => { methods with patch := true }
  | .delete => { methods with delete := true }
  | .options => { methods with options := true }
  | .unknown => methods

def AllowSet.tokens (methods : AllowSet) : List HttpMethod :=
  [(methods.get, HttpMethod.get), (methods.head, .head), (methods.post, .post), (methods.put, .put),
    (methods.patch, .patch), (methods.delete, .delete), (methods.options, .options)].filterMap
    fun (flag, method) => if flag then some method else .none

def allowSpans : List HttpMethod → List (List UInt8)
  | [] => []
  | method :: rest => method.name :: rest.flatMap fun other => [ascii [',', ' '], other.name]

def formatAllowHeader (arena : Arena) (methods : AllowSet) : Arena × Except StatusCode (List UInt8) :=
  if methods = .none then (arena, .ok [])
  else
    match byteBuilderInitArena arena 32 128 with
    | (arena, .error code) => (arena, .error code)
    | (arena, .ok builder) =>
      match byteBuilderAppendAll ⟨builder, arena⟩ (allowSpans methods.tokens) with
      | (state, .error code) => (state.arena, .error code)
      | (state, .ok ()) => (state.arena, .ok state.builder.content)

/-- The methods of the routes that match the path; captured parameters go into the arena. -/
def allowLoop (path : List UInt8) (arena : Arena) : List RouteBinding → AllowSet → Arena × Except StatusCode AllowSet
  | [], methods => (arena, .ok methods)
  | binding :: rest, methods =>
    if !bindingValid binding then (arena, .error .invalidArgument)
    else
      match routePatternMatch arena binding.pattern path with
      | (arena, .error code) => (arena, .error code)
      | (arena, .ok .none) => allowLoop path arena rest methods
      | (arena, .ok (some _)) => allowLoop path arena rest (allowSetAdd methods binding.method)

def allowHeaderForPath (arena : Arena) (table : DispatchTable) (path : List UInt8) :
    Arena × Except StatusCode (List UInt8) :=
  if path.head? ≠ some slash then (arena, .error .invalidArgument)
  else
    match allowLoop path arena table.routes .none with
    | (after, .error code) => ((arenaResetTo after (arenaMark arena)).1, .error code)
    | (after, .ok methods) =>
      match arenaResetTo after (arenaMark arena) with
      | (after, .error code) => (after, .error code)
      | (after, .ok ()) => formatAllowHeader after methods

def headerItems (text : List UInt8) : List (List UInt8) :=
  if text = [] then [] else (text.splitOn ','.toUInt8).map fun item => item.dropWhile (· == ' '.toUInt8)

def Listed (text : List UInt8) (method : HttpMethod) : Prop := method.name ∈ headerItems text

instance (text : List UInt8) (method : HttpMethod) : Decidable (Listed text method) :=
  inferInstanceAs (Decidable (_ ∈ _))

def AllowSet.has (methods : AllowSet) : HttpMethod → Bool
  | .get => methods.get
  | .head => methods.head
  | .post => methods.post
  | .put => methods.put
  | .patch => methods.patch
  | .delete => methods.delete
  | .options => methods.options
  | .unknown => false

lemma listed_iff (methods : AllowSet) (method : HttpMethod) :
    Listed (allowSpans methods.tokens).flatten method ↔ methods.has method = true := by
  obtain ⟨get, head, post, put, patch, delete, options⟩ := methods
  cases method <;> (revert get head post put patch delete options; decide +kernel)

lemma text_eq_nil_iff (methods : AllowSet) : (allowSpans methods.tokens).flatten = [] ↔ methods = .none := by
  obtain ⟨get, head, post, put, patch, delete, options⟩ := methods
  revert get head post put patch delete options
  decide +kernel

lemma has_none (method : HttpMethod) : AllowSet.none.has method = false := by
  cases method <;> rfl

variable {methods : AllowSet}

lemma exists_has (h : methods ≠ .none) : ∃ method, methods.has method = true := by
  by_contra hNone
  have hAll : ∀ method, methods.has method = false := fun method =>
    Bool.eq_false_iff.mpr fun hHas => hNone ⟨method, hHas⟩
  obtain ⟨get, head, post, put, patch, delete, options⟩ := methods
  have hGet := hAll .get
  have hHead := hAll .head
  have hPost := hAll .post
  have hPut := hAll .put
  have hPatch := hAll .patch
  have hDelete := hAll .delete
  have hOpts := hAll .options
  simp only [AllowSet.has] at hGet hHead hPost hPut hPatch hDelete hOpts
  exact h (by rw [hGet, hHead, hPost, hPut, hPatch, hDelete, hOpts]; rfl)

lemma has_add (methods : AllowSet) {added : HttpMethod} (hAdded : bindingMethodRunnable added = true)
    (method : HttpMethod) :
    (allowSetAdd methods added).has method = true ↔ methods.has method = true ∨ added = routeMatchMethod method := by
  cases added <;> cases method <;> first
    | (exfalso; revert hAdded; decide)
    | simp [allowSetAdd, AllowSet.has, routeMatchMethod]

variable {text : List UInt8}

lemma formatAllowHeader_ok {arena after : Arena} (h : formatAllowHeader arena methods = (after, .ok text)) :
    text = (allowSpans methods.tokens).flatten := by
  rw [formatAllowHeader] at h
  split at h
  next hNone =>
    cases h
    exact ((text_eq_nil_iff methods).mpr hNone).symm
  · split at h
    · cases h
    rename_i hInit
    split at h
    · cases h
    rename_i hAppend
    cases h
    have hContent := byteBuilderAppendAll_content (congrArg Prod.snd hAppend)
    rw [hAppend, byteBuilderInitArena_content hInit] at hContent
    exact hContent

variable {path : List UInt8} {routes : List RouteBinding}

lemma allowLoop_ok (hPath : path.head? = some slash) (hQuery : path.contains question = false)
    (hParsed : ∀ binding ∈ routes, ∃ text, patternParse text = .ok binding.pattern)
    (hValid : ∀ binding ∈ routes, bindingValid binding = true) {arena after : Arena} {start : AllowSet}
    (h : allowLoop path arena routes start = (after, .ok methods)) (method : HttpMethod) :
    methods.has method = true ↔ start.has method = true ∨ ∃ binding ∈ routes,
      binding.method = routeMatchMethod method ∧ patternCouldMatch binding.pattern path = true := by
  induction routes generalizing arena start with
  | nil =>
    cases h
    simp
  | cons binding rest ih =>
    obtain ⟨⟨text, hText⟩, hRestParsed⟩ := forall_mem_cons.mp hParsed
    obtain ⟨hHere, hRestValid⟩ := forall_mem_cons.mp hValid
    have hRunnable := bindingMethodRunnable_of_valid hHere
    rw [allowLoop, hHere] at h
    simp only [exists_mem_cons_iff]
    rcases routePatternMatch_cases hText hPath hQuery arena with
      ⟨hCould, hMatch⟩ | ⟨hCould, captures, ⟨-, hMatch⟩ | ⟨code, -, hMatch⟩⟩
    · rw [hMatch] at h
      rw [ih hRestParsed hRestValid h, hCould]
      simp
    · rw [hMatch] at h
      rw [ih hRestParsed hRestValid h, has_add start hRunnable, hCould]
      simp only [and_true, or_assoc]
    · rw [hMatch] at h
      cases h

variable {qsort : List RouteTableEntry → List RouteTableEntry} {plan : Plan} {table : DispatchTable}

lemma routeTableBuild_parsed (hSort : SortsByCompare qsort) (h : routeTableBuild qsort plan = .ok table)
    {binding : RouteBinding} (hBinding : binding ∈ table.routes) : ∃ text, patternParse text = .ok binding.pattern := by
  have hMem := (routeTableBuild_contents hSort h).mem_iff.mp (mem_map_of_mem hBinding)
  obtain ⟨route, -, hContent⟩ := mem_map.mp hMem
  rw [planContent] at hContent
  split at hContent
  next hPat =>
    have hSame := congrArg RouteContent.pattern (Option.some.inj hContent)
    exact ⟨route.pattern, hPat.trans (congrArg Except.ok hSame)⟩
  · cases hContent

lemma listed_iff_matches (hSort : SortsByCompare qsort) (hBuild : routeTableBuild qsort plan = .ok table)
    (hPath : path.head? = some slash) (hQuery : path.contains question = false) {arena after : Arena}
    (h : allowHeaderForPath arena table path = (after, .ok text)) :
    (∀ method, Listed text method ↔ ∃ index, Matches table.routes (routeMatchMethod method) path index) ∧
    (text ≠ [] ↔ ∃ binding ∈ table.routes, patternCouldMatch binding.pattern path = true) := by
  have hShape := routeTableBuild_shape hSort hBuild
  rw [allowHeaderForPath, if_neg (not_not.mpr hPath)] at h
  split at h
  · cases h
  rename_i hLoop
  split at h
  · cases h
  obtain rfl := formatAllowHeader_ok h
  have hHas := allowLoop_ok hPath hQuery (fun binding hBinding => routeTableBuild_parsed hSort hBuild hBinding)
    hShape.routes.valid hLoop
  simp only [has_none, Bool.false_eq_true, false_or] at hHas
  constructor
  · intro method
    rw [listed_iff, hHas]
    constructor
    · rintro ⟨binding, hBinding, hMethod, hCould⟩
      obtain ⟨index, hAt⟩ := mem_iff_getElem?.mp hBinding
      exact ⟨index, binding, hAt, hMethod, hCould⟩
    · rintro ⟨index, binding, hAt, hMethod, hCould⟩
      exact ⟨binding, mem_of_getElem? hAt, hMethod, hCould⟩
  · rw [ne_eq, text_eq_nil_iff]
    constructor
    · intro hSome
      obtain ⟨method, hMethod⟩ := exists_has hSome
      obtain ⟨binding, hBinding, -, hCould⟩ := (hHas method).mp hMethod
      exact ⟨binding, hBinding, hCould⟩
    · rintro ⟨binding, hBinding, hCould⟩ rfl
      have hRunnable := bindingMethodRunnable_of_valid (hShape.routes.valid binding hBinding)
      have hMethod : binding.method = routeMatchMethod binding.method := by
        revert hRunnable
        cases binding.method <;> decide
      have hFalse := (hHas binding.method).mpr ⟨binding, hBinding, hMethod, hCould⟩
      rw [has_none] at hFalse
      cases hFalse

lemma could_iff_matchesOther {method : HttpMethod} (hNone : ¬∃ index, Matches routes method path index) :
    (∃ binding ∈ routes, patternCouldMatch binding.pattern path = true) ↔
      ∃ index, MatchesOther routes method path index := by
  constructor
  · rintro ⟨binding, hBinding, hCould⟩
    obtain ⟨index, hAt⟩ := mem_iff_getElem?.mp hBinding
    exact ⟨index, binding, hAt, fun hMethod => hNone ⟨index, binding, hAt, hMethod, hCould⟩, hCould⟩
  · rintro ⟨index, binding, hAt, -, hCould⟩
    exact ⟨binding, mem_of_getElem? hAt, hCould⟩

/-- The header and dispatch agree on a method: it is listed exactly if dispatch finds a route, and a
method that is not listed is answered as not allowed exactly if some method is. -/
def AllowAgrees (mode : DispatchMode) (table : DispatchTable) (path text : List UInt8) (method : HttpMethod) : Prop :=
  (Listed text method ↔ ∃ index, requestCore mode table ⟨method, path⟩ = .ok index) ∧
  (¬Listed text method → (requestCore mode table ⟨method, path⟩ = .error methodNotAllowed ↔ text ≠ []))

/-- Over a built table the Allow header lists HEAD exactly with GET, and it agrees with dispatch exactly
for the requests that the comparing mode accepts and whose method is one that requests may have, or
that no route matches. -/
theorem allowHeader_agrees {qsort : List RouteTableEntry → List RouteTableEntry}
    (hSort : SortsByCompare qsort) {plan : Plan} {table : DispatchTable}
    (hBuild : routeTableBuild qsort plan = .ok table) {path : List UInt8} (hPath : path.head? = some slash)
    (hQuery : path.contains question = false) {arena after : Arena} {text : List UInt8}
    (hHeader : allowHeaderForPath arena table path = (after, .ok text)) (mode : DispatchMode)
    (method : HttpMethod) :
    (Listed text .head ↔ Listed text .get) ∧
    (AllowAgrees mode table path text method ↔ Accepted mode table ⟨method, path⟩ ∧
      (requestMethodRunnable method = true ∨
        ∀ binding ∈ table.routes, patternCouldMatch binding.pattern path = false)) := by
  have hShape := routeTableBuild_shape hSort hBuild
  obtain ⟨hListed, hText⟩ := listed_iff_matches hSort hBuild hPath hQuery hHeader
  refine ⟨(hListed .head).trans (hListed .get).symm, ?_⟩
  rw [AllowAgrees, hListed, hText]
  cases hMethod : requestMethodRunnable method with
  | false =>
    have hNone := @not_matches_of_unrunnable table hShape ⟨method, path⟩ hMethod
    have hRun : requestCore mode table ⟨method, path⟩ = .error unsupportedRequestMethod := by
      rw [requestCore, hMethod]
      rfl
    have hAccepted : Accepted mode table ⟨method, path⟩ := accepted_of_noMatch mode hNone
    have hDiffer : ¬(Except.error unsupportedRequestMethod : Except RequestFailure Nat) = .error methodNotAllowed := by
      decide
    rw [hRun]
    simp only [hDiffer, hNone, hAccepted, exists_false, reduceCtorEq, not_false_eq_true, true_and, false_iff,
      true_implies,
      Bool.false_eq_true, false_or, not_exists, not_and, Bool.not_eq_true]
  | true =>
    obtain ⟨selected, hFirst, hRejected, hSelected, hMissing⟩ :=
      @TableShape.requestCore_eq table hShape ⟨method, path⟩ hPath hMethod mode
    cases selected with
    | some index =>
      have hMatch : ∃ index, Matches table.routes (routeMatchMethod method) path index :=
        ⟨index, hFirst.found index rfl⟩
      by_cases hAccepted : Accepted mode table ⟨method, path⟩
      · simp [hMatch, hAccepted, hSelected hAccepted index rfl]
      · simp [hMatch, hAccepted, hRejected hAccepted]
    | none =>
      obtain ⟨hAccepted, hOther, hNotFound⟩ := hMissing rfl
      have hNone : ¬∃ index, Matches table.routes (routeMatchMethod method) path index := by
        rintro ⟨index, hMatch⟩
        obtain ⟨first, hFound, -⟩ := hFirst.least index hMatch
        cases hFound
      have hCould := could_iff_matchesOther hNone
      by_cases hSome : ∃ index, MatchesOther table.routes (routeMatchMethod method) path index
      · simp [hNone, hAccepted, hOther hSome, hCould.mpr hSome]
      · have hDiffer : ¬(Except.error missingRoute : Except RequestFailure Nat) = .error methodNotAllowed := by decide
        simp [hNone, hAccepted, hNotFound hSome, hCould, hSome, hDiffer]

/-- `GET, HEAD, POST` for a path with two routes, and what it says of a `PUT` request. -/
theorem allowHeader_agrees_twoMethods :
    ∃ table after text, routeTableBuild insertionSortEntries twoMethodsPlan = .ok table ∧
      allowHeaderForPath ⟨4096, 1024, 0, 0, 1⟩ table (ascii ['/', 'a']) = (after, .ok text) ∧
      (Listed text .head ↔ Listed text .get) ∧
      (AllowAgrees .compiled table (ascii ['/', 'a']) text .put ↔
        Accepted .compiled table ⟨.put, ascii ['/', 'a']⟩ ∧ (requestMethodRunnable .put = true ∨
          ∀ binding ∈ table.routes, patternCouldMatch binding.pattern (ascii ['/', 'a']) = false)) := by
  have hRun : (routeTableBuild insertionSortEntries twoMethodsPlan).toOption.any (fun table =>
      (allowHeaderForPath ⟨4096, 1024, 0, 0, 1⟩ table (ascii ['/', 'a'])).2.toOption.any fun _ => true) = true := by
    decide +kernel
  obtain ⟨table, hBuild, hTable⟩ := exists_ok hRun
  obtain ⟨text, hText, -⟩ := exists_ok hTable
  have hHeader : allowHeaderForPath ⟨4096, 1024, 0, 0, 1⟩ table (ascii ['/', 'a']) = (_, .ok text) := Prod.ext rfl hText
  exact ⟨table, _, text, hBuild, hHeader,
    allowHeader_agrees insertionSort_sortsByCompare hBuild rfl (by decide) hHeader .compiled .put⟩

/-- The header lists `POST`, and the comparing mode answers `POST /a` with an internal error. -/
theorem allowHeader_validate_rejects :
    ∃ table after text, routeTableBuild insertionSortEntries twoMethodsPlan = .ok table ∧
      allowHeaderForPath ⟨4096, 1024, 0, 0, 1⟩ table (ascii ['/', 'a']) = (after, .ok text) ∧
      Listed text .post ∧
      requestCore .validate table ⟨.post, ascii ['/', 'a']⟩ = .error validateMismatch := by
  have hRun : (routeTableBuild insertionSortEntries twoMethodsPlan).toOption.any (fun table =>
      (allowHeaderForPath ⟨4096, 1024, 0, 0, 1⟩ table (ascii ['/', 'a'])).2.toOption.any (fun text =>
        decide (Listed text .post ∧
          requestCore .validate table ⟨.post, ascii ['/', 'a']⟩ = .error validateMismatch))) = true := by
    decide +kernel
  obtain ⟨table, hBuild, hTable⟩ := exists_ok hRun
  obtain ⟨text, hHeader, hText⟩ := exists_ok hTable
  exact ⟨table, _, text, hBuild, Prod.ext rfl hHeader, of_decide_eq_true hText⟩

end Sloppy.Dispatch
