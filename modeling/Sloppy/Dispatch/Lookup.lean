import Sloppy.Dispatch.Build

/-! # Finding the route of a request

The reference scan, the lookup through the indexes, and the dispatch modes. A binding is its index in the table. The
caller's arena enters with its answer to the copy of captured parameters.
-/

namespace Sloppy.Dispatch

open Route Lib

inductive DispatchMode where
  | compiled | classic | validate
  deriving DecidableEq

structure RequestHead where
  method : HttpMethod
  path : List UInt8
  deriving DecidableEq

structure Found where
  binding : Option Nat
  methodMismatch : Bool
  routeMatch : Option (List RouteParam)
  deriving DecidableEq

def routeMatchMethod (method : HttpMethod) : HttpMethod := if method = .head then .get else method

def exactRouteMatches (routes : List RouteBinding) (method : HttpMethod) (path : List UInt8) (index : Nat) : Bool :=
  match routes[index]? with
  | none => false
  | some binding => binding.method == method && binding.pattern.source == path

variable (table : DispatchTable)

def findExactRouteForMethod (method : HttpMethod) (path : List UInt8) : Option Nat :=
  if !powerOfTwo table.exactBuckets.length then none
  else
    Probing.lookup table.exactBuckets (probeSlot table.exactBuckets.length (exactHash method path))
      (exactRouteMatches table.routes method path)

def dispatchMethods : List HttpMethod := [.get, .post, .put, .patch, .delete, .options]

def onlyMethod (method : HttpMethod) : Bool :=
  table.methodBits != 0 && table.methodBits &&& ~~~(methodBit method) == 0

def exactPathHasOtherMethod (method : HttpMethod) (path : List UInt8) : Bool :=
  if onlyMethod table method then false
  else
    dispatchMethods.any fun other =>
      other != method && (findExactRouteForMethod table other path).isSome

def firstPathSegment (path : List UInt8) : List UInt8 :=
  if path.length ≤ 1 ∨ path.head? ≠ some slash then [] else segmentAt path 1

def bucketMatches (buckets : List RouteCandidateBucket) (method : HttpMethod) (segment : List UInt8)
    (index : Nat) : Bool :=
  match buckets[index]? with
  | none => false
  | some bucket => bucketHolds method segment bucket

def findParamBucket (method : HttpMethod) (segment : List UInt8) : Option RouteCandidateBucket :=
  if powerOfTwo table.paramBucketSlots.length then
    match Probing.lookup table.paramBucketSlots (probeSlot table.paramBucketSlots.length (exactHash method segment))
        (bucketMatches table.paramBuckets method segment) with
    | none => none
    | some index => table.paramBuckets[index]?
  else table.paramBuckets.find? (bucketHolds method segment)

/-- `next_param_candidate` until it returns null: the candidates of two buckets in table order. -/
def mergeFrom : Nat → List Nat → List Nat → List Nat
  | _, [], generic => generic
  | _, first, [] => first
  | 0, _, _ => []
  | fuel + 1, first :: firsts, generic :: generics =>
    if first ≤ generic then first :: mergeFrom fuel firsts (generic :: generics)
    else generic :: mergeFrom fuel (first :: firsts) generics

def mergeCandidates (first generic : List Nat) : List Nat :=
  mergeFrom (first.length + generic.length) first generic

/-- The edge taken for a path segment: an equal text at once, else the first constrained parameter
that matches, else the first string parameter. -/
def findBestTrieEdgeFrom (edges : List (Cell RouteTrieEdge)) (part : List UInt8) :
    Nat → Option Nat → Option RouteTrieEdge → Option RouteTrieEdge → Option RouteTrieEdge
  | _, none, constrained, stringParam => constrained.or stringParam
  | 0, some _, _, _ => none
  | fuel + 1, some index, constrained, stringParam =>
    match edges[index]? with
    | none => none
    | some cell =>
      match cell.value.label with
      | .static text =>
        if text = part then some cell.value
        else findBestTrieEdgeFrom edges part fuel cell.next constrained stringParam
      | .param kind =>
        if kind ≠ .string ∧ constrained = none ∧ segmentMatchesKind kind part then
          findBestTrieEdgeFrom edges part fuel cell.next (some cell.value) stringParam
        else if kind = .string ∧ stringParam = none ∧ segmentMatchesKind kind part then
          findBestTrieEdgeFrom edges part fuel cell.next constrained (some cell.value)
        else findBestTrieEdgeFrom edges part fuel cell.next constrained stringParam

def findBestTrieEdge (trie : RouteTrie) (node : RouteTrieNode) (part : List UInt8) : Option RouteTrieEdge :=
  findBestTrieEdgeFrom trie.edges part trie.edges.length node.firstEdge none none

/-- The walk down the trie from a node; no step is taken back. -/
def walkTrie (trie : RouteTrie) (path : List UInt8) : Nat → Nat → Nat → Option Nat
  | 0, _, _ => none
  | fuel + 1, nodeIndex, pos =>
    match trie.nodes[nodeIndex]? with
    | none => none
    | some node =>
      if pos < path.length then
        if segmentAt path pos = [] then none
        else
          match findBestTrieEdge trie node (segmentAt path pos) with
          | none => none
          | some edge => walkTrie trie path fuel edge.childIndex (nextPos path pos)
      else if path.getLast? = some slash then none
      else node.terminal

def matchParamTrieForMethod (path : List UInt8) (method : HttpMethod) : Option Nat :=
  match table.trie.roots.find? (·.method == method) with
  | none => none
  | some root =>
    if path.head? ≠ some slash then none
    else if path.length = 1 then
      match table.trie.nodes[root.rootIndex]? with
      | none => none
      | some node => node.terminal
    else walkTrie table.trie path (path.length + 1) root.rootIndex 1

/-- The test of one candidate: with an arena it captures the parameters, without one it does not. -/
def matchCandidate (copy : Option CopyParams) (pattern : RoutePattern) (path : List UInt8) :
    Except StatusCode (Option (Option (List RouteParam))) :=
  match copy with
  | none => .ok (if patternCouldMatch pattern path then some none else none)
  | some copy =>
    match matchTrustedPattern copy pattern path with
    | .error code => .error code
    | .ok none => .ok none
    | .ok (some params) => .ok (some (some params))

def scanCandidates (table : DispatchTable) (copy : Option CopyParams) (path : List UInt8) :
    List Nat → Except StatusCode (Option (Nat × Option (List RouteParam)))
  | [] => .ok none
  | index :: rest =>
    match table.routes[index]? with
    | none => .error .internal
    | some binding =>
      if !bindingValid binding then .error .invalidArgument
      else
        match matchCandidate copy binding.pattern path with
        | .error code => .error code
        | .ok (some params) => .ok (some (index, params))
        | .ok none => scanCandidates table copy path rest

/-- `sl_http_dispatch_find_param_route_for_method`; `copy` is the arena if the caller gave one. -/
def findParamRouteForMethod (copy : Option CopyParams) (path : List UInt8)
    (method : HttpMethod) : Except StatusCode (Option (Nat × Option (List RouteParam))) :=
  -- parameters are captured only in a table whose handlers are trusted
  let copy := if table.handlerCacheTrusted then copy else none
  match matchParamTrieForMethod table path method with
  | some index =>
    match table.routes[index]? with
    | none => .error .internal
    | some binding =>
      if !bindingValid binding then .error .invalidArgument
      else
        match copy with
        | none => .ok (some (index, none))
        | some copy =>
          match matchTrustedPattern copy binding.pattern path with
          | .error code => .error code
          | .ok none => .error .internal
          | .ok (some params) => .ok (some (index, some params))
  | none =>
    let segment := firstPathSegment path
    let first := if segment = [] then none else findParamBucket table method segment
    let generic := findParamBucket table method []
    scanCandidates table copy path
      (mergeCandidates ((first.map (·.routes)).getD []) ((generic.map (·.routes)).getD []))

def anyParamMethod (table : DispatchTable) (path : List UInt8) (method : HttpMethod) :
    List HttpMethod → Except StatusCode Bool
  | [] => .ok false
  | other :: rest =>
    if other = method then anyParamMethod table path method rest
    else
      match findParamRouteForMethod table none path other with
      | .error code => .error code
      | .ok (some _) => .ok true
      | .ok none => anyParamMethod table path method rest

def paramPathHasOtherMethod (path : List UInt8) (method : HttpMethod) : Except StatusCode Bool :=
  if onlyMethod table method then .ok false else anyParamMethod table path method dispatchMethods

def findRouteLinearFrom (request : RequestHead) : List RouteBinding → Nat → Bool → Except StatusCode Found
  | [], _, mismatch => .ok ⟨none, mismatch, none⟩
  | binding :: rest, index, mismatch =>
    if !bindingValid binding then .error .invalidArgument
    else if !patternCouldMatch binding.pattern request.path then
      findRouteLinearFrom request rest (index + 1) mismatch
    else if binding.method ≠ routeMatchMethod request.method then
      findRouteLinearFrom request rest (index + 1) true
    else .ok ⟨some index, mismatch, none⟩

def findRouteLinear (request : RequestHead) : Except StatusCode Found :=
  findRouteLinearFrom request table.routes 0 false

/-- The last loop of the compiled lookup, over parameter routes that have no buckets. -/
def scanParamRoutesFrom (table : DispatchTable) (copy : Option CopyParams) (request : RequestHead) :
    List RouteBinding → Nat → Bool → Except StatusCode Found
  | [], _, mismatch => .ok ⟨none, mismatch, none⟩
  | binding :: rest, index, mismatch =>
    if !bindingValid binding then .error .invalidArgument
    else if binding.method ≠ routeMatchMethod request.method then
      scanParamRoutesFrom table copy request rest (index + 1)
        (mismatch || patternCouldMatch binding.pattern request.path)
    else
      match matchCandidate (if table.handlerCacheTrusted then copy else none) binding.pattern request.path with
      | .error code => .error code
      | .ok none => scanParamRoutesFrom table copy request rest (index + 1) mismatch
      | .ok (some params) => .ok ⟨some index, mismatch, params⟩

/-- `sl_http_dispatch_find_route_compiled` behind the exact index. -/
def findRouteCompiledParams (copy : Option CopyParams) (request : RequestHead)
    (mismatch : Bool) : Except StatusCode Found :=
  let method := routeMatchMethod request.method
  if table.paramBuckets ≠ [] then
    match findParamRouteForMethod table copy request.path method with
    | .error code => .error code
    | .ok (some (index, params)) => .ok ⟨some index, mismatch, params⟩
    | .ok none =>
      match paramPathHasOtherMethod table request.path method with
      | .error code => .error code
      | .ok other => .ok ⟨none, mismatch || other, none⟩
  else if table.exactBuckets = [] then findRouteLinear table request
  else scanParamRoutesFrom table copy request table.paramRoutes table.paramStart mismatch

def findRouteCompiled (copy : Option CopyParams) (request : RequestHead) : Except StatusCode Found :=
  let method := routeMatchMethod request.method
  if table.exactBuckets ≠ [] then
    match findExactRouteForMethod table method request.path with
    | some index => .ok ⟨some index, false, none⟩
    | none =>
      findRouteCompiledParams table copy request (exactPathHasOtherMethod table method request.path)
  else findRouteCompiledParams table copy request false

def findRoute (mode : DispatchMode) (table : DispatchTable) (copy : Option CopyParams)
    (request : RequestHead) : Except StatusCode Found :=
  match mode with
  | .classic => findRouteLinear table request
  | .compiled => findRouteCompiled table copy request
  | .validate =>
    match findRouteCompiled table copy request with
    | .error code => .error code
    | .ok compiled =>
      match findRouteLinear table request with
      | .error code => .error code
      | .ok classic =>
        if compiled.binding ≠ classic.binding ∨ compiled.methodMismatch ≠ classic.methodMismatch
        then .error .internal
        else .ok compiled

end Sloppy.Dispatch
