import Mathlib.Algebra.GroupWithZero.Nat
import Sloppy.Dispatch.Entries
import Sloppy.Lib.Chain

/-! # Building the route table

`sl_http_route_table_build`: the entries of the plan as bindings with three indexes over them: a hash table of the
routes without parameters, buckets of the others, and a trie for each method. A pointer to a binding is its index.
-/

namespace Sloppy.Dispatch

open Route Lib

structure RouteCandidateBucket where
  method : HttpMethod
  firstStaticSegment : List UInt8
  routes : List Nat
  deriving DecidableEq

/-- What a trie edge keeps of a segment: the text or the parameter kind, not the name. -/
inductive TrieLabel where
  | static (text : List UInt8)
  | param (kind : RouteParamKind)
  deriving DecidableEq

def labelOf : RouteSegment → TrieLabel
  | .static text => .static text
  | .param _ kind => .param kind

structure RouteTrieEdge where
  label : TrieLabel
  childIndex : Nat
  deriving DecidableEq

structure RouteTrieNode where
  terminal : Option Nat
  firstEdge : Option Nat
  deriving DecidableEq

structure RouteTrieRoot where
  method : HttpMethod
  rootIndex : Nat
  deriving DecidableEq

/-- The trie arrays; a cell of `edges` is an edge with its `next_edge`. -/
structure RouteTrie where
  roots : List RouteTrieRoot
  nodes : List RouteTrieNode
  nodeLastEdges : List (Option Nat)
  edges : List (Cell RouteTrieEdge)
  deriving DecidableEq

def RouteTrie.empty : RouteTrie := ⟨[], [], [], []⟩

def bindingValid (binding : RouteBinding) : Bool :=
  bindingMethodRunnable binding.method && handlerIdValid binding.handlerId

def bindingExactStatic (binding : RouteBinding) : Bool := binding.pattern.paramCount == 0

def insertSlot (slots : List (Option Nat)) (hash : UInt64) (entry : Nat) : Except StatusCode (List (Option Nat)) :=
  if !powerOfTwo slots.length then .error .invalidArgument
  else
    match Probing.insert slots (probeSlot slots.length hash) entry with
    | none => .error .capacityExceeded
    | some slots => .ok slots

def insertSlots : List (Nat × UInt64) → List (Option Nat) → Except StatusCode (List (Option Nat))
  | [], slots => .ok slots
  | (entry, hash) :: rest, slots =>
    match insertSlot slots hash entry with
    | .error code => .error code
    | .ok slots => insertSlots rest slots

def exactEntries (bindings : List RouteBinding) : List (Nat × UInt64) :=
  (bindings.zipIdx.filter fun item => bindingExactStatic item.1).map fun item =>
    (item.2, exactHash item.1.method item.1.pattern.source)

def firstStaticSegment (binding : RouteBinding) : List UInt8 :=
  match binding.pattern.segments with
  | .static text :: _ => text
  | _ => []

def bucketHolds (method : HttpMethod) (segment : List UInt8) (bucket : RouteCandidateBucket) : Bool :=
  bucket.method == method && bucket.firstStaticSegment == segment

def openBuckets : List RouteBinding → List RouteCandidateBucket → List RouteCandidateBucket
  | [], buckets => buckets
  | binding :: rest, buckets =>
    if buckets.any (bucketHolds binding.method (firstStaticSegment binding)) then
      openBuckets rest buckets
    else openBuckets rest (buckets ++ [⟨binding.method, firstStaticSegment binding, []⟩])

def fillBuckets : List RouteBinding → Nat → List RouteCandidateBucket → Except StatusCode (List RouteCandidateBucket)
  | [], _, buckets => .ok buckets
  | binding :: rest, index, buckets =>
    match buckets.findIdx? (bucketHolds binding.method (firstStaticSegment binding)) with
    | none => .error .internal
    | some place =>
      fillBuckets rest (index + 1)
        (buckets.modify place fun bucket => { bucket with routes := bucket.routes ++ [index] })

def bucketEntries (buckets : List RouteCandidateBucket) : List (Nat × UInt64) :=
  buckets.zipIdx.map fun item => (item.2, exactHash item.1.method item.1.firstStaticSegment)

/-- `sl_http_route_table_build_param_index`; `start` is the table index of the first param route. -/
def buildParamIndex (paramRoutes : List RouteBinding) (start : Nat) :
    Except StatusCode (List RouteCandidateBucket × List (Option Nat)) :=
  match fillBuckets paramRoutes start (openBuckets paramRoutes []) with
  | .error code => .error code
  | .ok buckets =>
    match nextBucketCount buckets.length with
    | none => .error .capacityExceeded
    | some count =>
      match insertSlots (bucketEntries buckets) (List.replicate count none) with
      | .error code => .error code
      | .ok slots => .ok (buckets, slots)

def addNode (trie : RouteTrie) : RouteTrie :=
  { trie with
    nodes := trie.nodes ++ [⟨none, none⟩]
    nodeLastEdges := trie.nodeLastEdges ++ [none] }

def addRoot (trie : RouteTrie) (method : HttpMethod) : RouteTrie where
  roots := trie.roots ++ [⟨method, trie.nodes.length⟩]
  nodes := (addNode trie).nodes
  nodeLastEdges := (addNode trie).nodeLastEdges
  edges := trie.edges

def findTrieEdgeFrom (edges : List (Cell RouteTrieEdge)) (label : TrieLabel) : Nat → Option Nat → Option RouteTrieEdge
  | _, none | 0, some _ => none
  | fuel + 1, some index =>
    match edges[index]? with
    | none => none
    | some cell =>
      if cell.value.label = label then some cell.value
      else findTrieEdgeFrom edges label fuel cell.next

def findTrieEdge (trie : RouteTrie) (nodeIndex : Nat) (segment : RouteSegment) : Option RouteTrieEdge :=
  match trie.nodes[nodeIndex]? with
  | none => none
  | some node => findTrieEdgeFrom trie.edges (labelOf segment) trie.edges.length node.firstEdge

def appendTrieEdge (trie : RouteTrie) (parent edgeIndex : Nat) : Except StatusCode RouteTrie :=
  match trie.nodes[parent]? with
  | none => .error .invalidArgument
  | some node =>
    let nodeLastEdges := trie.nodeLastEdges.set parent (some edgeIndex)
    match node.firstEdge with
    | none =>
      .ok { trie with
        nodes := trie.nodes.set parent { node with firstEdge := some edgeIndex }
        nodeLastEdges := nodeLastEdges }
    | some _ =>
      match trie.nodeLastEdges[parent]? with
      | some (some last) =>
        .ok { trie with
          edges := Chain.relink trie.edges last edgeIndex
          nodeLastEdges := nodeLastEdges }
      | _ => .error .internal

def addNodeWithEdge (trie : RouteTrie) (label : TrieLabel) : RouteTrie where
  roots := trie.roots
  nodes := (addNode trie).nodes
  nodeLastEdges := (addNode trie).nodeLastEdges
  edges := trie.edges ++ [⟨⟨label, trie.nodes.length⟩, none⟩]

def addTrieChild (trie : RouteTrie) (parent : Nat) (segment : RouteSegment) : Except StatusCode RouteTrie :=
  appendTrieEdge (addNodeWithEdge trie (labelOf segment)) parent trie.edges.length

def insertTrieSegments (segmentCapacity nodeCapacity : Nat) : List RouteSegment → RouteTrie → Nat →
    Except StatusCode (RouteTrie × Nat)
  | [], trie, nodeIndex => .ok (trie, nodeIndex)
  | segment :: segments, trie, nodeIndex =>
    match findTrieEdge trie nodeIndex segment with
    | some edge => insertTrieSegments segmentCapacity nodeCapacity segments trie edge.childIndex
    | none =>
      if trie.edges.length ≥ segmentCapacity ∨ trie.nodes.length ≥ nodeCapacity then
        .error .capacityExceeded
      else
        match addTrieChild trie nodeIndex segment with
        | .error code => .error code
        | .ok grown =>
          insertTrieSegments segmentCapacity nodeCapacity segments grown trie.nodes.length

def trieRootFor (rootCapacity nodeCapacity : Nat) (trie : RouteTrie) (method : HttpMethod) :
    Except StatusCode (RouteTrie × Nat) :=
  match trie.roots.find? (·.method == method) with
  | some root => .ok (trie, root.rootIndex)
  | none =>
    if trie.roots.length ≥ rootCapacity ∨ trie.nodes.length ≥ nodeCapacity then
      .error .capacityExceeded
    else .ok (addRoot trie method, trie.nodes.length)

/-- The terminal of a node is the first route that ends there. -/
def setTerminal (trie : RouteTrie) (nodeIndex index : Nat) : Except StatusCode RouteTrie :=
  match trie.nodes[nodeIndex]? with
  | none => .error .internal
  | some node =>
    .ok { trie with nodes := trie.nodes.set nodeIndex { node with
      terminal := node.terminal.or (some index) } }

def insertTrieRoute (rootCapacity segmentCapacity : Nat) (trie : RouteTrie)
    (binding : RouteBinding) (index : Nat) : Except StatusCode RouteTrie :=
  if !bindingValid binding then .error .invalidArgument
  else
    match trieRootFor rootCapacity (segmentCapacity + rootCapacity) trie binding.method with
    | .error code => .error code
    | .ok (trie, root) =>
      match insertTrieSegments segmentCapacity (segmentCapacity + rootCapacity)
          binding.pattern.segments trie root with
      | .error code => .error code
      | .ok (trie, nodeIndex) => setTerminal trie nodeIndex index

def insertTrieRoutes (rootCapacity segmentCapacity : Nat) : List RouteBinding → Nat → RouteTrie →
    Except StatusCode RouteTrie
  | [], _, trie => .ok trie
  | binding :: rest, index, trie =>
    match insertTrieRoute rootCapacity segmentCapacity trie binding index with
    | .error code => .error code
    | .ok trie => insertTrieRoutes rootCapacity segmentCapacity rest (index + 1) trie

def trieSegmentCapacity (paramRoutes : List RouteBinding) : Nat :=
  (paramRoutes.map fun binding => binding.pattern.segments.length).sum

def buildParamTrie (paramRoutes : List RouteBinding) (start : Nat) : Except StatusCode RouteTrie :=
  if trieSegmentCapacity paramRoutes > sizeMax - paramRoutes.length then .error .capacityExceeded
  else insertTrieRoutes paramRoutes.length (trieSegmentCapacity paramRoutes) paramRoutes start .empty

structure DispatchTable where
  routes : List RouteBinding
  /-- The method bits of `runtime_reserved0`. -/
  methodBits : UInt32
  handlerCacheTrusted : Bool
  paramStart : Nat
  exactBuckets : List (Option Nat)
  paramBuckets : List RouteCandidateBucket
  paramBucketSlots : List (Option Nat)
  trie : RouteTrie
  deriving DecidableEq

def DispatchTable.paramRoutes (table : DispatchTable) : List RouteBinding :=
  table.routes.drop table.paramStart

def DispatchTable.empty : DispatchTable := ⟨[], 0, false, 0, [], [], [], .empty⟩

def methodBit : HttpMethod → UInt32
  | .get => 1
  | .post => 2
  | .put => 4
  | .patch => 8
  | .delete => 16
  | .options => 32
  | _ => 0

def methodBitsOf (bindings : List RouteBinding) : UInt32 :=
  bindings.foldl (fun bits binding => bits ||| methodBit binding.method) 0

def paramStartOf (bindings : List RouteBinding) : Nat :=
  bindings.findIdx fun binding => !bindingExactStatic binding

def buildExactBuckets (bindings : List RouteBinding) : Except StatusCode (List (Option Nat)) :=
  let exactCount := bindings.countP bindingExactStatic
  if exactCount = 0 then .ok []
  else
    match nextBucketCount exactCount with
    | none => .error .capacityExceeded
    | some count => insertSlots (exactEntries bindings) (List.replicate count none)

/-- The indexes over the parameter routes; a table without parameter routes has none. -/
def buildParamIndexes (paramRoutes : List RouteBinding) (start : Nat) :
    Except StatusCode (List RouteCandidateBucket × List (Option Nat) × RouteTrie) :=
  if paramRoutes = [] then .ok ([], [], .empty)
  else
    match buildParamIndex paramRoutes start with
    | .error code => .error code
    | .ok (buckets, slots) =>
      match buildParamTrie paramRoutes start with
      | .error code => .error code
      | .ok trie => .ok (buckets, slots, trie)

def buildExactIndex (bindings : List RouteBinding) : Except StatusCode DispatchTable :=
  let start := paramStartOf bindings
  match buildParamIndexes (bindings.drop start) start with
  | .error code => .error code
  | .ok (buckets, slots, trie) =>
    match buildExactBuckets bindings with
    | .error code => .error code
    | .ok exact => .ok ⟨bindings, methodBitsOf bindings, true, start, exact, buckets, slots, trie⟩

def orderEntries (qsort : List RouteTableEntry → List RouteTableEntry)
    (entries : List RouteTableEntry) : List RouteTableEntry :=
  let (entries, paramStart) := partitionExactFirst entries
  entries.take paramStart ++ sortParamEntries qsort (entries.drop paramStart)

def routeTableBuild (qsort : List RouteTableEntry → List RouteTableEntry) (plan : Plan) :
    Except Failure DispatchTable :=
  match hasDuplicatePlanRoutes plan.routes with
  | .error code => .error ⟨code, none⟩
  | .ok true => .error duplicateRoute
  | .ok false =>
    if planHasDuplicateHandlerIds plan.handlers then .error duplicateHandler
    else if plan.routes.any fun route => !planRouteMethodSupported route.method then
      .error unsupportedMethod
    else if plan.routes = [] then .ok .empty
    else
      match fillEntries plan.handlers plan.routes 0 with
      | .error failure => .error failure
      | .ok entries =>
        match buildExactIndex ((orderEntries qsort entries).map (·.binding)) with
        | .error code => .error ⟨code, none⟩
        | .ok table => .ok table

end Sloppy.Dispatch
