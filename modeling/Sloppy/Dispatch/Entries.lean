import Sloppy.Route.Matching
import Sloppy.Lib.Probing

/-! # Entries of the route table

What `sl_http_route_table_build` makes of a plan before it builds its indexes. A handler of the plan is its id, and a
pointer to a plan route is its index. Arena allocations are left out.
-/

namespace Sloppy.Dispatch

open Route Lib

structure Plan where
  handlers : List Nat
  routes : List PlanRoute
  deriving DecidableEq

/-- A failed status with the diagnostic that describes it, if there is one. -/
structure Failure where
  status : StatusCode
  diag : Option Diag
  deriving DecidableEq

structure RouteBinding where
  method : HttpMethod
  pattern : RoutePattern
  handlerId : Nat
  routeIndex : Nat
  deriving DecidableEq

structure RouteTableEntry where
  binding : RouteBinding
  sourceOrder : Nat
  hasParams : Bool
  deriving DecidableEq

def duplicateRoute : Failure :=
  ⟨.invalidState, some ⟨.duplicateRoute, "duplicate HTTP route",
    "route method and pattern pairs must be unique before serving"⟩⟩

def duplicateHandler : Failure :=
  ⟨.invalidState, some ⟨.duplicateHandlerId, "duplicate handler id metadata was found",
    "deduplicate handler ids before building a route dispatch table"⟩⟩

def invalidRoute : Failure :=
  ⟨.invalidArgument, some ⟨.invalidRoutePattern, "HTTP route table contains an invalid route",
    "plan routes must use the supported alpha route syntax"⟩⟩

def missingHandler : Failure :=
  ⟨.invalidState, some ⟨.engineCallError, "HTTP route table references a missing plan handler",
    "routes[].handlerId must reference handlers[].id"⟩⟩

def unsupportedMethod : Failure :=
  ⟨.unsupported, some ⟨.httpUnsupportedMethod, "HTTP method is not supported by the framework runtime",
    "supported request methods are GET, HEAD, POST, PUT, PATCH, DELETE, and OPTIONS"⟩⟩

def handlerIdValid (id : Nat) : Bool := id != 0

def bindingMethodRunnable (method : HttpMethod) : Bool :=
  method == .options || httpMethodSupported method

def requestMethodRunnable (method : HttpMethod) : Bool :=
  method == .head || method == .options || httpMethodSupported method

def methodFromPlan (method : List UInt8) : Except StatusCode HttpMethod :=
  match httpMethodFromStr method with
  | .error code => .error code
  | .ok parsed => if bindingMethodRunnable parsed then .ok parsed else .error .unsupported

def planFindHandlerById (handlers : List Nat) (id : Nat) : Except StatusCode Nat :=
  if !handlerIdValid id then .error .invalidArgument
  else if handlers.contains id then .ok id
  else .error .outOfRange

def planHasDuplicateHandlerIds : List Nat → Bool
  | [] => false
  | id :: rest => rest.contains id || planHasDuplicateHandlerIds rest

def hashStep (hash : UInt64) (byte : UInt8) : UInt64 := (hash ^^^ byte.toUInt64) * 16777619

def exactHash (method : HttpMethod) (path : List UInt8) : UInt64 :=
  path.foldl hashStep (hashStep 2166136261 (UInt8.ofNat method.code))

def planRouteHash (route : PlanRoute) : UInt64 :=
  route.pattern.foldl hashStep (hashStep (route.method.foldl hashStep 2166136261) 255)

def powerOfTwo (value : Nat) : Bool := value != 0 && value &&& (value - 1) == 0

def doubleUpTo (target : Nat) : Nat → Nat → Option Nat
  | 0, _ => none
  | fuel + 1, count =>
    if count < target then
      if count > sizeMax / 2 then none else doubleUpTo target fuel (count * 2)
    else some count

def nextBucketCount (value : Nat) : Option Nat :=
  let target := value * 2 % (sizeMax + 1)
  if value ≠ 0 ∧ target / 2 ≠ value then none else doubleUpTo target 65 1

/-- The slots tried for a hash: `(hash + probe) & (count - 1)`. -/
def probeSlot (count : Nat) (hash : UInt64) (probe : Nat) : Nat :=
  (hash + UInt64.ofNat probe).toNat &&& (count - 1)

/-- One route of the duplicate check: `none` if an equal route is met before an empty slot. -/
def duplicateProbe (hash : PlanRoute → UInt64) (routes : List PlanRoute) (slots : List (Option Nat))
    (route : PlanRoute) (index : Nat) : Nat → Nat → Except StatusCode (Option (List (Option Nat)))
  | 0, _ => .error .capacityExceeded
  | fuel + 1, probe =>
    let slot := probeSlot slots.length (hash route) probe
    match slots[slot]? with
    | some (some other) =>
      match routes[other]? with
      | none => .error .internal
      | some existing =>
        if existing.method = route.method ∧ existing.pattern = route.pattern then .ok none
        else duplicateProbe hash routes slots route index fuel (probe + 1)
    | _ => .ok (some (slots.set slot (some index)))

def duplicateLoop (hash : PlanRoute → UInt64) (routes : List PlanRoute) :
    List PlanRoute → Nat → List (Option Nat) → Except StatusCode Bool
  | [], _, _ => .ok false
  | route :: rest, index, slots =>
    match duplicateProbe hash routes slots route index slots.length 0 with
    | .error code => .error code
    | .ok none => .ok true
    | .ok (some slots) => duplicateLoop hash routes rest (index + 1) slots

/-- `arena` says what comes of the allocation of that many slots. -/
def duplicateCheck (arena : Nat → Except StatusCode Unit) (hash : PlanRoute → UInt64) (routes : List PlanRoute) :
    Except StatusCode Bool :=
  if routes.length < 2 then .ok false
  else
    match nextBucketCount routes.length with
    | none => .error .capacityExceeded
    | some count =>
      match arena count with
      | .error code => .error code
      | .ok () => duplicateLoop hash routes routes 0 (List.replicate count none)

/-- In an arena that has the room. -/
def hasDuplicatePlanRoutes (routes : List PlanRoute) : Except StatusCode Bool :=
  duplicateCheck (fun _ => .ok ()) planRouteHash routes

/-- `sl_http_route_table_fill_entries` from the plan route with the given index on. -/
def fillEntries (handlers : List Nat) : List PlanRoute → Nat → Except Failure (List RouteTableEntry)
  | [], _ => .ok []
  | route :: rest, index =>
    if !planRouteMethodSupported route.method then .error unsupportedMethod
    else
      match planFindHandlerById handlers route.handlerId with
      | .error _ => .error missingHandler
      | .ok _ =>
        match patternParse route.pattern with
        | .error _ => .error invalidRoute
        | .ok pattern =>
          match methodFromPlan route.method with
          | .error _ => .error unsupportedMethod
          | .ok method =>
            match fillEntries handlers rest (index + 1) with
            | .error failure => .error failure
            | .ok entries =>
              .ok (⟨⟨method, pattern, route.handlerId, index⟩, index, pattern.paramCount != 0⟩ :: entries)

def strCompare : List UInt8 → List UInt8 → Int
  | [], [] => 0
  | [], _ :: _ => -1
  | _ :: _, [] => 1
  | left :: lefts, right :: rights =>
    if left < right then -1 else if right < left then 1 else strCompare lefts rights

def isConstrained : RouteSegment → Bool
  | .static _ => false
  | .param _ kind => kind != .string

def segmentText : RouteSegment → List UInt8
  | .static text => text
  | .param _ _ => []

/-- The segment loop of `sl_http_route_entry_less`; the shorter pattern runs out first. -/
def segmentsLess (sourceLess : Bool) : List RouteSegment → List RouteSegment → Bool
  | left :: lefts, right :: rights =>
    if left.isParam != right.isParam then !left.isParam
    else if left.isParam && isConstrained left != isConstrained right then isConstrained left
    else if !left.isParam && !right.isParam && segmentText left != segmentText right then
      decide (strCompare (segmentText left) (segmentText right) < 0)
    else segmentsLess sourceLess lefts rights
  | [], [] => sourceLess
  | lefts, rights => decide (lefts.length > rights.length)

def entryLess (left right : RouteTableEntry) : Bool :=
  segmentsLess (decide (left.sourceOrder < right.sourceOrder)) left.binding.pattern.segments
    right.binding.pattern.segments

def entryCompare (left right : RouteTableEntry) : Int :=
  if entryLess left right then -1 else if entryLess right left then 1 else 0

/-- The swaps of `sl_http_route_table_partition_exact_first`, for the given number of positions. -/
def partitionLoop : Nat → List RouteTableEntry → Nat → Nat → List RouteTableEntry × Nat
  | 0, entries, _, exactCount => (entries, exactCount)
  | fuel + 1, entries, index, exactCount =>
    match entries[index]?, entries[exactCount]? with
    | some item, some front =>
      if item.hasParams then partitionLoop fuel entries (index + 1) exactCount
      else
        partitionLoop fuel ((entries.set index front).set exactCount item) (index + 1) (exactCount + 1)
    | _, _ => (entries, exactCount)

def partitionExactFirst (entries : List RouteTableEntry) : List RouteTableEntry × Nat :=
  partitionLoop entries.length entries 0 0

/-- `qsort` with the comparator of the table; fewer than two entries are left alone. -/
def sortParamEntries (qsort : List RouteTableEntry → List RouteTableEntry)
    (entries : List RouteTableEntry) : List RouteTableEntry :=
  if entries.length < 2 then entries else qsort entries

/-- What `qsort` promises: it permutes the entries into an order its comparator accepts. -/
structure SortsByCompare (qsort : List RouteTableEntry → List RouteTableEntry) : Prop where
  perm : ∀ entries, (qsort entries).Perm entries
  sorted : ∀ entries, (qsort entries).Pairwise fun left right => entryCompare left right ≤ 0

end Sloppy.Dispatch
