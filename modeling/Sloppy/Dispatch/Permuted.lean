import Mathlib.Data.List.Pairwise
import Sloppy.Dispatch.Agreement

/-! # The order of registration

Two plans with the same routes in different orders have tables with the same contents. Two routes of one method that
both match a path and are not told apart by the sort have the same shape: the constrained kinds exclude each other.
-/

namespace Sloppy.Dispatch

open Route Lib List

/-- What a binding says of its route, apart from its place in the plan. -/
structure RouteContent where
  method : HttpMethod
  pattern : RoutePattern
  handlerId : Nat
  deriving DecidableEq

def contentOf (binding : RouteBinding) : RouteContent :=
  ⟨binding.method, binding.pattern, binding.handlerId⟩

def planContent (route : PlanRoute) : Option RouteContent :=
  match methodFromPlan route.method, patternParse route.pattern with
  | .ok method, .ok pattern => some ⟨method, pattern, route.handlerId⟩
  | _, _ => none

def shapeOf (pattern : RoutePattern) : List TrieLabel := pattern.segments.map labelOf

/-- Two routes, if they are runnable and have one method, differ in shape. -/
def ShapesDiffer (left right : Option RouteContent) : Prop :=
  ∀ first second : RouteContent, left = some first → right = some second →
    first.method = second.method → shapeOf first.pattern ≠ shapeOf second.pattern

instance : DecidableRel ShapesDiffer
  | none, _ => .isTrue fun _ _ h => nomatch h
  | some _, none => .isTrue fun _ _ _ h => nomatch h
  | some first, some second =>
    decidable_of_iff (first.method = second.method → shapeOf first.pattern ≠ shapeOf second.pattern)
      ⟨fun h _ _ hFirst hSecond => Option.some.inj hFirst ▸ Option.some.inj hSecond ▸ h,
        fun h => h first second rfl rfl⟩

/-- No two runnable routes with one method have one shape. -/
def ShapesDistinct (routes : List PlanRoute) : Prop := (routes.map planContent).Pairwise ShapesDiffer

instance (routes : List PlanRoute) : Decidable (ShapesDistinct routes) :=
  inferInstanceAs (Decidable (List.Pairwise _ _))

variable {index : Nat}

lemma fillEntries_contents {handlers : List Nat} {routes : List PlanRoute} {entries : List RouteTableEntry}
    (h : fillEntries handlers routes index = .ok entries) :
    entries.map (fun entry => some (contentOf entry.binding)) = routes.map planContent := by
  induction routes generalizing index entries with
  | nil =>
    cases h
    rfl
  | cons route rest ih =>
    rw [fillEntries] at h
    split at h
    · cases h
    split at h
    · cases h
    split at h
    · cases h
    rename_i hPat
    split at h
    · cases h
    rename_i hMethod
    split at h
    · cases h
    next hOthers =>
      cases h
      rw [map_cons, map_cons, ih hOthers, planContent, hMethod, hPat]
      rfl

variable {table : DispatchTable}

lemma buildExactIndex_routes {bindings : List RouteBinding} (h : buildExactIndex bindings = .ok table) :
    table.routes = bindings := by
  rw [buildExactIndex] at h
  split at h
  · cases h
  split at h
  · cases h
  · cases h
    rfl

lemma routeTableBuild_contents {qsort : List RouteTableEntry → List RouteTableEntry} (hSort : SortsByCompare qsort)
    {plan : Plan} (h : routeTableBuild qsort plan = .ok table) :
    (table.routes.map fun binding => some (contentOf binding)).Perm (plan.routes.map planContent) := by
  rw [routeTableBuild] at h
  split at h
  · cases h
  · cases h
  · split at h
    · cases h
    split at h
    · cases h
    split at h
    next hEmpty =>
      cases h
      rw [hEmpty]
      exact List.Perm.nil
    · split at h
      · cases h
      rename_i entries hEntries
      split at h
      · cases h
      rename_i hBuilt
      cases h
      obtain ⟨start, hOrdered⟩ := orderEntries_ordered hSort entries
      rw [buildExactIndex_routes hBuilt, map_map, ← fillEntries_contents hEntries]
      exact hOrdered.perm.map _

lemma ShapesDistinct.eq_of_shape {routes : List PlanRoute} (h : ShapesDistinct routes)
    {first second : RouteContent} (hFirst : some first ∈ routes.map planContent)
    (hSecond : some second ∈ routes.map planContent) (hMethod : first.method = second.method)
    (hShape : shapeOf first.pattern = shapeOf second.pattern) : first = second := by
  have hSymm : Std.Symm ShapesDiffer :=
    ⟨fun _ _ hBoth first second hLeft hRight hSame => (hBoth second first hRight hLeft hSame.symm).symm⟩
  by_contra hDiffer
  have hPair : ShapesDiffer (some first) (some second) :=
    List.Pairwise.forall h hFirst hSecond (fun hSame => hDiffer (Option.some.inj hSame))
  exact hPair first second rfl rfl hMethod hShape

def shapeKey (segments : List RouteSegment) : List (List Nat) := segments.map segmentKey ++ [[3]]

variable {left right : List RouteSegment}

lemma routeKey_lt (order otherOrder : Nat) (h : shapeKey left < shapeKey right) :
    routeKey left order < routeKey right otherOrder := by
  induction left generalizing right with
  | nil =>
    cases right with
    | nil => exact absurd h (lt_irrefl _)
    | cons seg =>
      have hEnd := segmentKey_lt_end seg
      rcases cons_lt_cons_iff.mp h with hLess | ⟨hSame, -⟩
      · exact absurd hLess hEnd.not_gt
      · exact absurd hSame hEnd.ne'
  | cons seg segs ih =>
    cases right with
    | nil => exact cons_lt_cons_iff.mpr (Or.inl (segmentKey_lt_end seg))
    | cons =>
      rcases cons_lt_cons_iff.mp h with hLess | ⟨hSame, hRest⟩
      · exact cons_lt_cons_iff.mpr (Or.inl hLess)
      · exact cons_lt_cons_iff.mpr (Or.inr ⟨hSame, ih hRest⟩)

lemma shapeKey_le {order otherOrder : Nat} (h : routeKey left order ≤ routeKey right otherOrder) :
    shapeKey left ≤ shapeKey right :=
  not_lt.mp fun hLess => absurd (routeKey_lt otherOrder order hLess) (not_lt.mpr h)

lemma labelOf_eq {left right : RouteSegment} {part : List UInt8} (hLeft : left.matches part = true)
    (hRight : right.matches part = true) (hKey : segmentKey left = segmentKey right) :
    labelOf left = labelOf right := by
  rw [matches_eq_labelMatches] at hLeft hRight
  refine label_eq_of_rank hLeft hRight (Nat.le_antisymm ?_ ?_)
  · exact Nat.le_of_not_lt fun hLess => (segmentKey_lt_of_rank hLess).ne' hKey
  · exact Nat.le_of_not_lt fun hLess => (segmentKey_lt_of_rank hLess).ne hKey

lemma labels_eq {parts : List (List UInt8)} (hLeft : partsMatch left parts = true)
    (hRight : partsMatch right parts = true) (hKeys : left.map segmentKey = right.map segmentKey) :
    left.map labelOf = right.map labelOf := by
  induction left generalizing right parts with
  | nil =>
    rw [map_eq_nil_iff.mp hKeys.symm]
  | cons seg segs ih =>
    cases right with
    | nil => cases hKeys
    | cons =>
      obtain ⟨part, rest, rfl, -, hMatch, hRest⟩ := partsMatch_cons hLeft
      obtain ⟨_, _, hParts, -, hOther, hOthers⟩ := partsMatch_cons hRight
      cases hParts
      obtain ⟨hKey, hMore⟩ := List.cons.inj hKeys
      rw [map_cons, map_cons, labelOf_eq hMatch hOther hKey, ih hRest hOthers hMore]

variable {path : List UInt8}

lemma shape_eq_of_exact {left right : RouteBinding} {text otherText : List UInt8}
    (hLeft : ParsedFrom text left.pattern) (hRight : ParsedFrom otherText right.pattern)
    (hLeftExact : bindingExactStatic left = true) (hRightExact : bindingExactStatic right = true)
    (hPath : path.head? = some slash) (hLeftMatch : patternCouldMatch left.pattern path = true)
    (hRightMatch : patternCouldMatch right.pattern path = true) : shapeOf left.pattern = shapeOf right.pattern := by
  have hLeftCount : left.pattern.paramCount = 0 := beq_iff_eq.mp hLeftExact
  have hRightCount : right.pattern.paramCount = 0 := beq_iff_eq.mp hRightExact
  have hSource : text = otherText := by
    rw [← hLeft.source, ← hRight.source, (hLeft.couldMatch_static hLeftCount hPath).mp hLeftMatch,
      (hRight.couldMatch_static hRightCount hPath).mp hRightMatch]
  rw [shapeOf, shapeOf, forall₂_static hLeft.segments (hLeft.count ▸ hLeftCount),
    forall₂_static hRight.segments (hRight.count ▸ hRightCount), hSource]

variable {routes : List RouteBinding}

lemma RouteList.key_le {start : Nat} (h : RouteList routes start) {first later : Nat} {left right : RouteBinding}
    (hStart : start ≤ first) (hLe : first ≤ later) (hLeft : routes[first]? = some left)
    (hRight : routes[later]? = some right) : bindingKey left ≤ bindingKey right := by
  refine not_lt.mp fun hLess => absurd (h.lt_of_key hRight hLeft (hStart.trans hLe) hStart hLess) ?_
  exact Nat.not_lt.mpr hLe

/-- A table and a route of it that comes first among those of a method that match a path. -/
structure FirstRoute (table : DispatchTable) (method : HttpMethod) (path : List UInt8) (index : Nat)
    (binding : RouteBinding) : Prop where
  at_index : table.routes[index]? = some binding
  first : IsFirst (Matches table.routes method path) (some index)

variable {binding : RouteBinding} {method : HttpMethod}

lemma FirstRoute.matches (h : FirstRoute table method path index binding) :
    binding.method = method ∧ patternCouldMatch binding.pattern path = true := by
  obtain ⟨other, hAt, hMethod, hCould⟩ := h.first.found index rfl
  obtain rfl := Option.some.inj (h.at_index.symm.trans hAt)
  exact ⟨hMethod, hCould⟩

variable {other : DispatchTable} {otherBinding : RouteBinding} {otherIndex : Nat}

lemma FirstRoute.exists_other (h : FirstRoute table method path index binding)
    (hOther : FirstRoute other method path otherIndex otherBinding)
    (hMem : contentOf binding ∈ other.routes.map contentOf) :
    ∃ place twin, otherIndex ≤ place ∧ other.routes[place]? = some twin ∧ contentOf twin = contentOf binding := by
  obtain ⟨hMethod, hCould⟩ := h.matches
  obtain ⟨twin, hTwin, hContent⟩ := mem_map.mp hMem
  obtain ⟨place, hPlace⟩ := mem_iff_getElem?.mp hTwin
  have hTwinMethod : twin.method = method := (congrArg RouteContent.method hContent).trans hMethod
  have hTwinCould : patternCouldMatch twin.pattern path = true := by
    rw [show twin.pattern = binding.pattern from congrArg RouteContent.pattern hContent]
    exact hCould
  obtain ⟨first, hFirst, hLe⟩ := hOther.first.least place ⟨twin, hPlace, hTwinMethod, hTwinCould⟩
  cases hFirst
  exact ⟨place, twin, hLe, hPlace, hContent⟩

lemma bindingExactStatic_eq {left right : RouteBinding} (h : contentOf left = contentOf right) :
    bindingExactStatic left = bindingExactStatic right := by
  rw [bindingExactStatic, bindingExactStatic,
    show left.pattern = right.pattern from congrArg RouteContent.pattern h]

section

variable (hOtherShape : TableShape other) (h : FirstRoute table method path index binding)
  (hOther : FirstRoute other method path otherIndex otherBinding)
  (hMem : contentOf binding ∈ other.routes.map contentOf)
include hOtherShape h hOther hMem

lemma FirstRoute.exact_of_exact (hExact : bindingExactStatic binding = true) :
    bindingExactStatic otherBinding = true := by
  obtain ⟨place, twin, hLe, hPlace, hContent⟩ := h.exists_other hOther hMem
  have hTwin := (hOtherShape.routes.exactFirst place twin hPlace).mp ((bindingExactStatic_eq hContent).trans hExact)
  exact (hOtherShape.routes.exactFirst otherIndex otherBinding hOther.at_index).mpr (by omega)

lemma FirstRoute.shapeKey_le (hParams : ¬bindingExactStatic otherBinding = true) :
    shapeKey otherBinding.pattern.segments ≤ shapeKey binding.pattern.segments := by
  obtain ⟨place, twin, hLe, hPlace, hContent⟩ := h.exists_other hOther hMem
  have hStart : other.paramStart ≤ otherIndex := Nat.le_of_not_lt fun hLess =>
    hParams ((hOtherShape.routes.exactFirst otherIndex otherBinding hOther.at_index).mpr hLess)
  have hKeys := hOtherShape.routes.key_le hStart hLe hOther.at_index hPlace
  rw [← show twin.pattern = binding.pattern from congrArg RouteContent.pattern hContent]
  exact Dispatch.shapeKey_le hKeys

end

lemma FirstRoute.content_eq (hShape : TableShape table) (hOtherShape : TableShape other)
    (hPerm : (table.routes.map contentOf).Perm (other.routes.map contentOf))
    (hUnique : ∀ first ∈ table.routes.map contentOf, ∀ second ∈ table.routes.map contentOf,
      first.method = second.method → shapeOf first.pattern = shapeOf second.pattern → first = second)
    (hPath : path.head? = some slash) (h : FirstRoute table method path index binding)
    (hOther : FirstRoute other method path otherIndex otherBinding) : contentOf binding = contentOf otherBinding := by
  have hMem : contentOf binding ∈ table.routes.map contentOf := mem_map_of_mem (mem_of_getElem? h.at_index)
  have hOtherMem : contentOf otherBinding ∈ other.routes.map contentOf :=
    mem_map_of_mem (mem_of_getElem? hOther.at_index)
  obtain ⟨hMethod, hCould⟩ := h.matches
  obtain ⟨hOtherMethod, hOtherCould⟩ := hOther.matches
  refine hUnique _ hMem _ (hPerm.mem_iff.mpr hOtherMem) (hMethod.trans hOtherMethod.symm) ?_
  by_cases hExact : bindingExactStatic binding = true
  · obtain ⟨text, hParsed⟩ := hShape.routes.parsed binding (mem_of_getElem? h.at_index)
    obtain ⟨otherText, hOtherParsed⟩ := hOtherShape.routes.parsed otherBinding (mem_of_getElem? hOther.at_index)
    have hOtherExact := h.exact_of_exact hOtherShape hOther (hPerm.mem_iff.mp hMem) hExact
    exact shape_eq_of_exact hParsed hOtherParsed hExact hOtherExact hPath hCould hOtherCould
  · have hOtherParams : ¬bindingExactStatic otherBinding = true := fun hOtherExact =>
      hExact (hOther.exact_of_exact hShape h (hPerm.mem_iff.mpr hOtherMem) hOtherExact)
    have hKeys := le_antisymm (hOther.shapeKey_le hShape h (hPerm.mem_iff.mpr hOtherMem) hExact)
      (h.shapeKey_le hOtherShape hOther (hPerm.mem_iff.mp hMem) hOtherParams)
    rw [patternCouldMatch_eq hPath] at hCould hOtherCould
    exact labels_eq hCould hOtherCould (append_cancel_right hKeys)

def dispatched (mode : DispatchMode) (table : DispatchTable) (request : RequestHead) : Option RouteContent :=
  match requestCore mode table request with
  | .ok index => table.routes[index]?.map contentOf
  | .error _ => none

lemma accepted_of_noMatch {req : RequestHead} (mode : DispatchMode)
    (h : ∀ index, ¬Matches table.routes (routeMatchMethod req.method) req.path index) :
    Accepted mode table req := fun _ index hFirst => absurd (hFirst.found index rfl) (h index)

lemma not_matches_of_unrunnable {table : DispatchTable} (hShape : TableShape table) {req : RequestHead}
    (hMethod : requestMethodRunnable req.method = false) (index : Nat) :
    ¬Matches table.routes (routeMatchMethod req.method) req.path index := by
  rintro ⟨binding, hAt, hSame, -⟩
  have hRunnable := bindingMethodRunnable_of_valid (hShape.routes.valid binding (mem_of_getElem? hAt))
  rw [hSame] at hRunnable
  revert hMethod hRunnable
  cases req.method <;> decide

lemma not_matches_of_unrooted {routes : List RouteBinding} {method : HttpMethod} {path : List UInt8}
    (hPath : path.head? ≠ some slash) (index : Nat) : ¬Matches routes method path index := by
  rintro ⟨binding, -, -, hCould⟩
  rw [patternCouldMatch, if_pos hPath] at hCould
  cases hCould

lemma TableShape.dispatched_cases (hShape : TableShape table) (mode : DispatchMode) (req : RequestHead) :
    (Accepted mode table req ∧ dispatched mode table req = none ∧
      ∀ index, ¬Matches table.routes (routeMatchMethod req.method) req.path index) ∨
    ∃ index binding, FirstRoute table (routeMatchMethod req.method) req.path index binding ∧
      (Accepted mode table req → dispatched mode table req = some (contentOf binding)) ∧
      (¬Accepted mode table req → dispatched mode table req = none) := by
  cases hMethod : requestMethodRunnable req.method with
  | false =>
    have hNone := not_matches_of_unrunnable hShape hMethod
    refine Or.inl ⟨accepted_of_noMatch mode hNone, ?_, hNone⟩
    rw [dispatched, requestCore, hMethod]
    rfl
  | true =>
    by_cases hPath : req.path.head? = some slash
    · obtain ⟨selected, hFirst, hRejected, hSelected, hMissing⟩ := hShape.requestCore_eq hPath hMethod mode
      cases selected with
      | none =>
        obtain ⟨hAccepted, hOther, hNoOther⟩ := hMissing rfl
        refine Or.inl ⟨hAccepted, ?_, hFirst.none_iff.mp rfl⟩
        rw [dispatched]
        by_cases hAny : ∃ j, MatchesOther table.routes (routeMatchMethod req.method) req.path j
        · rw [hOther hAny]
        · rw [hNoOther hAny]
      | some index =>
        obtain ⟨binding, hAt, -⟩ := hFirst.found index rfl
        refine Or.inr ⟨index, binding, ⟨hAt, hFirst⟩, fun hAccepted => ?_, fun hNot => ?_⟩
        · rw [dispatched, hSelected hAccepted index rfl]
          exact congrArg (Option.map contentOf) hAt
        · rw [dispatched, hRejected hNot]
    · have hNone := @not_matches_of_unrooted table.routes (routeMatchMethod req.method) req.path hPath
      refine Or.inl ⟨accepted_of_noMatch mode hNone, ?_, hNone⟩
      rw [dispatched, requestCore, hMethod, if_pos hPath]
      rfl

lemma contents_perm (h : (table.routes.map fun binding => some (contentOf binding)).Perm
      (other.routes.map fun binding => some (contentOf binding))) :
    (table.routes.map contentOf).Perm (other.routes.map contentOf) := by
  have hBack := h.filterMap id
  simpa [filterMap_map, Function.comp_def, filterMap_eq_map] using hBack

lemma exists_matches_iff : (∃ index, Matches routes method path index) ↔ ∃ content ∈ routes.map contentOf,
      content.method = method ∧ patternCouldMatch content.pattern path = true := by
  constructor
  · rintro ⟨index, binding, hAt, hMethod, hCould⟩
    exact ⟨contentOf binding, mem_map_of_mem (mem_of_getElem? hAt), hMethod, hCould⟩
  · rintro ⟨content, hMem, hMethod, hCould⟩
    obtain ⟨binding, hBinding, rfl⟩ := mem_map.mp hMem
    obtain ⟨index, hAt⟩ := mem_iff_getElem?.mp hBinding
    exact ⟨index, binding, hAt, hMethod, hCould⟩

/-- Plans with the same routes in different orders, no two of one method with one shape: a request is
dispatched to the same method, pattern and handler, or to no route in both, exactly if the comparing
mode accepts it for both tables or for neither. The other modes accept every request. -/
theorem dispatched_perm {qsort : List RouteTableEntry → List RouteTableEntry} (hSort : SortsByCompare qsort)
    {plan other : Plan} (hPerm : plan.routes.Perm other.routes) (hShapes : ShapesDistinct plan.routes)
    {table otherTable : DispatchTable} (hBuild : routeTableBuild qsort plan = .ok table)
    (hOtherBuild : routeTableBuild qsort other = .ok otherTable) (mode otherMode : DispatchMode)
    (request : RequestHead) :
    dispatched mode table request = dispatched otherMode otherTable request ↔
      (Accepted mode table request ↔ Accepted otherMode otherTable request) := by
  have hShape := routeTableBuild_shape hSort hBuild
  have hOtherShape := routeTableBuild_shape hSort hOtherBuild
  have hPlan := routeTableBuild_contents hSort hBuild
  have hContents := contents_perm
    ((hPlan.trans (hPerm.map planContent)).trans (routeTableBuild_contents hSort hOtherBuild).symm)
  have hUnique : ∀ first ∈ table.routes.map contentOf, ∀ second ∈ table.routes.map contentOf,
      first.method = second.method → shapeOf first.pattern = shapeOf second.pattern → first = second := by
    intro first hFirst second hSecond
    obtain ⟨binding, hBinding, rfl⟩ := mem_map.mp hFirst
    obtain ⟨later, hLater, rfl⟩ := mem_map.mp hSecond
    exact hShapes.eq_of_shape (hPlan.mem_iff.mp (mem_map_of_mem hBinding)) (hPlan.mem_iff.mp (mem_map_of_mem hLater))
  have hSame : (∃ index, Matches table.routes (routeMatchMethod request.method) request.path index) ↔
      ∃ index, Matches otherTable.routes (routeMatchMethod request.method) request.path index := by
    rw [exists_matches_iff, exists_matches_iff]
    exact exists_congr fun content => and_congr_left fun _ => hContents.mem_iff
  rcases hShape.dispatched_cases mode request with
    ⟨hAccepted, hNothing, hNone⟩ | ⟨index, binding, hFirst, hServed, hRejected⟩
  · rcases hOtherShape.dispatched_cases otherMode request with
      ⟨hOtherAccepted, hOtherNothing, -⟩ | ⟨otherIndex, otherBinding, hOther, -⟩
    · rw [hNothing, hOtherNothing]
      exact iff_of_true rfl (iff_of_true hAccepted hOtherAccepted)
    · obtain ⟨place, hMatch⟩ := hSame.mpr ⟨otherIndex, hOther.first.found otherIndex rfl⟩
      exact absurd hMatch (hNone place)
  · rcases hOtherShape.dispatched_cases otherMode request with
      ⟨-, -, hNone⟩ | ⟨otherIndex, otherBinding, hOther, hOtherServed, hOtherRejected⟩
    · obtain ⟨place, hMatch⟩ := hSame.mp ⟨index, hFirst.first.found index rfl⟩
      exact absurd hMatch (hNone place)
    · by_cases hPath : request.path.head? = some slash
      · have hContent := hFirst.content_eq hShape hOtherShape hContents hUnique hPath hOther
        by_cases hAccepted : Accepted mode table request
        · by_cases hOtherAccepted : Accepted otherMode otherTable request
          · rw [hServed hAccepted, hOtherServed hOtherAccepted, hContent]
            exact iff_of_true rfl (iff_of_true hAccepted hOtherAccepted)
          · rw [hServed hAccepted, hOtherRejected hOtherAccepted]
            exact iff_of_false (fun h => nomatch h) (fun h => hOtherAccepted (h.mp hAccepted))
        · by_cases hOtherAccepted : Accepted otherMode otherTable request
          · rw [hRejected hAccepted, hOtherServed hOtherAccepted]
            exact iff_of_false (fun h => nomatch h) (fun h => hAccepted (h.mpr hOtherAccepted))
          · rw [hRejected hAccepted, hOtherRejected hOtherAccepted]
            exact iff_of_true rfl (iff_of_false hAccepted hOtherAccepted)
      · exact absurd (hFirst.first.found index rfl) (not_matches_of_unrooted hPath index)

/-- The overlapping routes in reverse, in the mode that serves requests. -/
theorem dispatched_perm_overlapping :
    ∃ table otherTable, routeTableBuild insertionSortEntries overlappingPlan = .ok table ∧
      routeTableBuild insertionSortEntries ⟨[1], overlappingPlan.routes.reverse⟩ = .ok otherTable ∧
      (dispatched .compiled table ⟨.get, ascii ['/', 'a', '/', '5']⟩ =
          dispatched .compiled otherTable ⟨.get, ascii ['/', 'a', '/', '5']⟩ ↔
        (Accepted .compiled table ⟨.get, ascii ['/', 'a', '/', '5']⟩ ↔
          Accepted .compiled otherTable ⟨.get, ascii ['/', 'a', '/', '5']⟩)) := by
  obtain ⟨table, hBuild, -⟩ := @exists_ok _ _ (routeTableBuild insertionSortEntries overlappingPlan) (fun _ => true)
    (by decide +kernel)
  obtain ⟨otherTable, hOther, -⟩ := @exists_ok _ _
    (routeTableBuild insertionSortEntries ⟨[1], overlappingPlan.routes.reverse⟩) (fun _ => true) (by decide +kernel)
  have hShapes : ShapesDistinct overlappingPlan.routes := by decide +kernel
  exact ⟨table, otherTable, hBuild, hOther, dispatched_perm insertionSort_sortsByCompare
    (reverse_perm _).symm hShapes hBuild hOther .compiled .compiled _⟩

/-- The comparing mode serves `POST /a` if it is registered before `GET /a`, and rejects it otherwise. -/
theorem dispatched_validate_order : ShapesDistinct twoMethodsPlan.routes ∧
    ∃ table otherTable, routeTableBuild insertionSortEntries twoMethodsPlan = .ok table ∧
      routeTableBuild insertionSortEntries ⟨[1], twoMethodsPlan.routes.reverse⟩ = .ok otherTable ∧
      dispatched .validate table ⟨.post, ascii ['/', 'a']⟩ = none ∧
      (dispatched .validate otherTable ⟨.post, ascii ['/', 'a']⟩).isSome = true := by
  obtain ⟨table, hBuild, hNone⟩ := @exists_ok _ _ (routeTableBuild insertionSortEntries twoMethodsPlan)
    (fun table => (dispatched .validate table ⟨.post, ascii ['/', 'a']⟩).isNone) (by decide +kernel)
  obtain ⟨otherTable, hOther, hSome⟩ := @exists_ok _ _
    (routeTableBuild insertionSortEntries ⟨[1], twoMethodsPlan.routes.reverse⟩)
    (fun table => (dispatched .validate table ⟨.post, ascii ['/', 'a']⟩).isSome) (by decide +kernel)
  exact ⟨by decide +kernel, table, otherTable, hBuild, hOther, Option.isNone_iff_eq_none.mp hNone, hSome⟩

end Sloppy.Dispatch
