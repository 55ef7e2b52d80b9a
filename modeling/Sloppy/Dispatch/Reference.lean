import Sloppy.Dispatch.Buckets
import Sloppy.Dispatch.Walk

/-! # The reference scan, and the routes of other methods

The scan selects the first route of the request's method that matches, and its flag reports the routes of other methods
before it. The indexes answer the same two questions.
-/

namespace Sloppy.Dispatch

open Route Lib List

def MatchesOther (routes : List RouteBinding) (method : HttpMethod) (path : List UInt8) (index : Nat) : Prop :=
  ∃ binding, routes[index]? = some binding ∧ binding.method ≠ method ∧ patternCouldMatch binding.pattern path = true

variable {index : Nat} {method : HttpMethod} {path : List UInt8} {routes : List RouteBinding}

lemma MatchesOther.exists_method (h : MatchesOther routes method path index) :
    ∃ other, other ≠ method ∧ Matches routes other path index := by
  obtain ⟨binding, hAt, hMethod, hCould⟩ := h
  exact ⟨binding.method, hMethod, binding, hAt, rfl, hCould⟩

lemma Matches.other {other : HttpMethod} (h : Matches routes other path index) (hOther : other ≠ method) :
    MatchesOther routes method path index := by
  obtain ⟨binding, hAt, rfl, hCould⟩ := h
  exact ⟨binding, hAt, hOther, hCould⟩

/-- A scan from the first route on has met the route it selects, and before it the routes its flag reports. -/
structure Scanned (routes : List RouteBinding) (method : HttpMethod) (path : List UInt8) (binding : Option Nat)
    (flag : Bool) : Prop where
  first : IsFirst (Matches routes method path) binding
  other : flag = true ↔ ∃ j, MatchesOther routes method path j ∧ ∀ i, binding = some i → j < i

lemma Scanned.later {binding : RouteBinding} {found : Option Nat} {flag : Bool}
    (h : Scanned routes method path found flag) (passed : Bool) (hNot : ¬Matches (binding :: routes) method path 0)
    (hPassed : passed = true ↔ MatchesOther (binding :: routes) method path 0) :
    Scanned (binding :: routes) method path (found.map (· + 1)) (passed || flag) := by
  refine ⟨h.first.succ hNot, Iff.trans ?_ Nat.or_exists_add_one⟩
  rw [Bool.or_eq_true, hPassed, h.other]
  simp [MatchesOther]

lemma findRouteLinearFrom_spec (req : RequestHead) (hValid : ∀ binding ∈ routes, bindingValid binding = true)
    (mismatch : Bool) : ∃ binding flag, Scanned routes (routeMatchMethod req.method) req.path binding flag ∧
      findRouteLinearFrom req routes index mismatch = .ok ⟨binding.map (· + index), mismatch || flag, none⟩ := by
  induction routes generalizing index mismatch with
  | nil => exact ⟨none, false, ⟨⟨by simp, by simp [Matches]⟩, by simp [MatchesOther]⟩, by simp [findRouteLinearFrom]⟩
  | cons binding rest ih =>
    obtain ⟨hHere, hRest⟩ := forall_mem_cons.mp hValid
    simp only [findRouteLinearFrom, hHere, Bool.not_true, Bool.false_eq_true, if_false]
    split
    next hCould =>
      obtain ⟨found, flag, hScanned, hRun⟩ := @ih (index + 1) hRest mismatch
      refine ⟨_, _, hScanned.later false ?_ ?_, ?_⟩
      · simp_all [Matches]
      · simp_all [MatchesOther]
      · simp [hRun, Function.comp_def, Nat.add_assoc, Nat.add_comm 1]
    split
    next hCould hMethod =>
      obtain ⟨found, flag, hScanned, hRun⟩ := @ih (index + 1) hRest true
      refine ⟨_, _, hScanned.later true ?_ ?_, ?_⟩
      · simp_all [Matches]
      · simp_all [MatchesOther]
      · simp [hRun, Function.comp_def, Nat.add_assoc, Nat.add_comm 1]
    next hCould hMethod =>
      refine ⟨some 0, false, ⟨⟨?_, fun i _ => ⟨0, rfl, Nat.zero_le i⟩⟩, by simp⟩, by simp⟩
      simp_all [Matches]

variable {table : DispatchTable}

/-- The reference scan returns the first route that matches; its flag says whether a route of another
method matches before that. -/
lemma TableShape.findLinear (hShape : TableShape table) (req : RequestHead) :
    ∃ binding flag, findRouteLinear table req = .ok ⟨binding, flag, none⟩ ∧
      Scanned table.routes (routeMatchMethod req.method) req.path binding flag := by
  obtain ⟨binding, flag, hScanned, hRun⟩ := @findRouteLinearFrom_spec 0 _ req hShape.routes.valid false
  exact ⟨binding, flag, by simpa [findRouteLinear] using hRun, hScanned⟩

lemma TableShape.findParam (hShape : TableShape table) (copy : Option CopyParams) (hPath : path.head? = some slash)
    (method : HttpMethod) :
    ∃ result, IsFirst (fun i => Matches table.routes method path i ∧ table.paramStart ≤ i) result ∧
      findParamRouteForMethod table copy path method =
        selectResult table.routes (if table.handlerCacheTrusted then copy else none) path result := by
  obtain ⟨arena, hArena⟩ : ∃ arena, arena = if table.handlerCacheTrusted then copy else none := ⟨_, rfl⟩
  simp only [findParamRouteForMethod, ← hArena]
  cases hTrie : matchParamTrieForMethod table path method with
  | some index =>
    have hFirst := hShape.matchTrie hPath hTrie
    obtain ⟨⟨binding, hAt, -, hCould⟩, -⟩ := hFirst.found index rfl
    have hMem := mem_of_getElem? hAt
    obtain ⟨text, hParsed⟩ := hShape.routes.parsed binding hMem
    refine ⟨some index, hFirst, ?_⟩
    simp only [hAt, hShape.routes.valid binding hMem, Bool.not_true, Bool.false_eq_true, if_false, selectResult]
    cases arena with
    | none => rfl
    | some arena =>
      dsimp only
      rw [captureResult, matchTrustedPattern_eq arena hPath hParsed.count hParsed.bound, if_pos hCould]
      cases copyRouteParams arena (capturedParams binding.pattern path) <;> rfl
  | none =>
    obtain ⟨result, hFirst, hScan⟩ := hShape.scan arena hPath method
    refine ⟨result, hFirst, ?_⟩
    rw [← hScan, pathCandidates, candidates, candidates]
    dsimp only
    split <;> rfl

lemma or_and_eq_zero {x y mask : UInt32} (h : (x ||| y) &&& mask = 0) : x &&& mask = 0 ∧ y &&& mask = 0 := by
  have hSplit : (x ||| y) &&& mask = (x &&& mask) ||| (y &&& mask) := by
    apply UInt32.toBitVec_inj.mp
    ext i hi
    simp [Bool.and_or_distrib_right]
  exact UInt32.or_eq_zero_iff.mp (hSplit ▸ h)

lemma methodBits_and_eq_zero {mask : UInt32} (routes : List RouteBinding) {bits : UInt32}
    (h : routes.foldl (fun bits binding => bits ||| methodBit binding.method) bits &&& mask = 0) :
    bits &&& mask = 0 ∧ ∀ binding ∈ routes, methodBit binding.method &&& mask = 0 := by
  induction routes generalizing bits with
  | nil => exact ⟨h, forall_mem_nil _⟩
  | cons binding rest ih =>
    obtain ⟨hBits, hRest⟩ := ih h
    obtain ⟨hFirst, hBinding⟩ := or_and_eq_zero hBits
    exact ⟨hFirst, forall_mem_cons.mpr ⟨hBinding, hRest⟩⟩

lemma method_eq_of_bits {left right : HttpMethod} (hRunnable : bindingMethodRunnable left = true)
    (h : methodBit left &&& ~~~(methodBit right) = 0) : left = right := by
  cases left <;> cases right <;> first
    | rfl
    | (revert hRunnable h; decide)

lemma bindingMethodRunnable_of_valid {binding : RouteBinding} (h : bindingValid binding = true) :
    bindingMethodRunnable binding.method = true :=
  (Bool.and_eq_true_iff.mp h).1

lemma TableShape.onlyMethod (hShape : TableShape table) (h : onlyMethod table method = true) (path : List UInt8)
    (index : Nat) : ¬MatchesOther table.routes method path index := by
  simp only [Dispatch.onlyMethod, hShape.bits, methodBitsOf, Bool.and_eq_true, beq_iff_eq] at h
  rintro ⟨binding, hAt, hMethod, -⟩
  have hMem := mem_of_getElem? hAt
  exact hMethod (method_eq_of_bits (bindingMethodRunnable_of_valid (hShape.routes.valid binding hMem))
    ((methodBits_and_eq_zero table.routes h.2).2 binding hMem))

lemma mem_dispatchMethods (h : bindingMethodRunnable method = true) : method ∈ dispatchMethods := by
  cases method <;> first
    | decide
    | (revert h; decide)

lemma TableShape.method_mem (hShape : TableShape table) (h : Matches table.routes method path index) :
    method ∈ dispatchMethods := by
  obtain ⟨binding, hAt, rfl, -⟩ := h
  exact mem_dispatchMethods (bindingMethodRunnable_of_valid (hShape.routes.valid binding (mem_of_getElem? hAt)))

lemma TableShape.exactOther (hShape : TableShape table) (hPath : path.head? = some slash) (method : HttpMethod) :
    exactPathHasOtherMethod table method path = true ↔
      ∃ j, MatchesOther table.routes method path j ∧ j < table.paramStart := by
  rw [exactPathHasOtherMethod]
  split
  next hOnly =>
    exact ⟨fun h => absurd h Bool.false_ne_true, fun ⟨j, hOther, _⟩ => absurd hOther (hShape.onlyMethod hOnly path j)⟩
  · rw [any_eq_true]
    constructor
    · rintro ⟨other, -, hFound⟩
      rw [Bool.and_eq_true, bne_iff_ne] at hFound
      obtain ⟨j, hj⟩ := Option.isSome_iff_exists.mp hFound.2
      obtain ⟨hMatch, hStart⟩ := (hShape.findExact hPath other).found j hj
      exact ⟨j, hMatch.other hFound.1, hStart⟩
    · rintro ⟨j, hOther, hStart⟩
      obtain ⟨other, hDiffer, hMatch⟩ := hOther.exists_method
      refine ⟨other, hShape.method_mem hMatch, ?_⟩
      obtain ⟨first, hFirst, -⟩ := (hShape.findExact hPath other).least j ⟨hMatch, hStart⟩
      rw [hFirst, bne_iff_ne.mpr hDiffer]
      rfl

lemma selectResult_none_arena {result : Option Nat} (h : ∀ i, result = some i → i < routes.length) :
    selectResult routes none path result = .ok (result.map fun index => (index, none)) := by
  cases result with
  | none => rfl
  | some index =>
    rw [selectResult, getElem?_eq_getElem (h index rfl)]
    rfl

section

variable (hShape : TableShape table) (hPath : path.head? = some slash) (method : HttpMethod)
include hShape hPath

lemma TableShape.findParam_none :
    ∃ result, IsFirst (fun i => Matches table.routes method path i ∧ table.paramStart ≤ i) result ∧
      findParamRouteForMethod table none path method = .ok (result.map fun index => (index, none)) := by
  obtain ⟨result, hFirst, hRun⟩ := hShape.findParam none hPath method
  refine ⟨result, hFirst, ?_⟩
  rw [hRun, ite_self, selectResult_none_arena]
  intro i hi
  obtain ⟨⟨binding, hAt, -⟩, -⟩ := hFirst.found i hi
  exact (List.getElem_of_getElem? hAt).1

lemma TableShape.anyParamMethod (methods : List HttpMethod) :
    ∃ flag, anyParamMethod table path method methods = .ok flag ∧ (flag = true ↔ ∃ other ∈ methods, other ≠ method ∧
        ∃ j, Matches table.routes other path j ∧ table.paramStart ≤ j) := by
  induction methods with
  | nil => exact ⟨false, rfl, by simp⟩
  | cons other rest ih =>
    obtain ⟨flag, hRun, hFlag⟩ := ih
    rw [Dispatch.anyParamMethod]
    by_cases hSame : other = method
    · rw [if_pos hSame]
      refine ⟨flag, hRun, hFlag.trans ?_⟩
      simp [hSame]
    · rw [if_neg hSame]
      obtain ⟨result, hFirst, hFind⟩ := hShape.findParam_none hPath other
      rw [hFind]
      cases result with
      | none =>
        refine ⟨flag, hRun, hFlag.trans ?_⟩
        have hNone := hFirst.none_iff.mp rfl
        simp only [mem_cons, exists_eq_or_imp]
        refine ⟨Or.inr, fun h => h.resolve_left ?_⟩
        rintro ⟨-, j, hMatch, hStart⟩
        exact hNone j ⟨hMatch, hStart⟩
      | some index =>
        obtain ⟨hMatch, hStart⟩ := hFirst.found index rfl
        exact ⟨true, rfl, fun _ => ⟨other, mem_cons_self, hSame, index, hMatch, hStart⟩, fun _ => rfl⟩

lemma TableShape.paramOther : ∃ flag, paramPathHasOtherMethod table path method = .ok flag ∧
      (flag = true ↔ ∃ j, MatchesOther table.routes method path j ∧ table.paramStart ≤ j) := by
  rw [paramPathHasOtherMethod]
  split
  next hOnly =>
    exact ⟨false, rfl, fun h => absurd h Bool.false_ne_true,
      fun ⟨j, hOther, _⟩ => absurd hOther (hShape.onlyMethod hOnly path j)⟩
  · obtain ⟨flag, hRun, hFlag⟩ := hShape.anyParamMethod hPath method dispatchMethods
    refine ⟨flag, hRun, hFlag.trans ?_⟩
    constructor
    · rintro ⟨other, -, hDiffer, j, hMatch, hStart⟩
      exact ⟨j, hMatch.other hDiffer, hStart⟩
    · rintro ⟨j, hOther, hStart⟩
      obtain ⟨other, hDiffer, hMatch⟩ := hOther.exists_method
      exact ⟨other, hShape.method_mem hMatch, hDiffer, j, hMatch, hStart⟩

end

end Sloppy.Dispatch
