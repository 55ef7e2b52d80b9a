import Sloppy.Dispatch.Hashing
import Mathlib.Logic.Function.Basic

/-! # The parameter trie

The edges of a node form a chain in the edge array. Every node has an address, a method with a list of labels, and
different nodes have different addresses. Inserting the routes in their order keeps the first terminal of an address.
-/

namespace Sloppy.Dispatch

open Route Lib Lib.Chain List

section

abbrev EdgeChains := Nat → List (Nat × RouteTrieEdge)

structure LinksOk (trie : RouteTrie) (chain : EdgeChains) : Prop where
  lastLength : trie.nodeLastEdges.length = trie.nodes.length
  linked : ∀ (v : Nat) (node : RouteTrieNode), trie.nodes[v]? = some node → Linked trie.edges node.firstEdge (chain v)
  last : ∀ (v : Nat) (last : Option Nat), trie.nodeLastEdges[v]? = some last →
    last = ((chain v).map Prod.fst).getLast?
  nodup : ∀ v, ((chain v).map Prod.fst).Nodup
  disjoint : ∀ v w, v ≠ w → ∀ index ∈ (chain v).map Prod.fst, index ∉ (chain w).map Prod.fst
  bound : ∀ v, ∀ index ∈ (chain v).map Prod.fst, index < trie.edges.length
  outside : ∀ v, trie.nodes.length ≤ v → chain v = []

lemma linksOk_empty : LinksOk .empty fun _ => [] where
  lastLength := rfl
  linked := fun _ _ h => (by cases h)
  last := fun _ _ h => (by cases h)
  nodup := fun _ => nodup_nil
  disjoint := fun _ _ _ _ h => absurd h not_mem_nil
  bound := fun _ _ h => absurd h not_mem_nil
  outside := fun _ _ => rfl

variable {index : Nat}

lemma addNode_length (trie : RouteTrie) : (addNode trie).nodes.length = trie.nodes.length + 1 := by
  simp [addNode]

lemma LinksOk.addNode {trie : RouteTrie} {chain : EdgeChains} (h : LinksOk trie chain) :
    LinksOk (addNode trie) chain where
  lastLength := by
    simp only [Dispatch.addNode, length_append, h.lastLength, length_singleton]
  linked := fun v node hNode => by
    rcases getElem?_concat hNode with hOld | ⟨rfl, rfl⟩
    · exact h.linked v node hOld
    · rw [h.outside _ (Nat.le_refl _)]
      exact .nil
  last := fun v last hLast => by
    rcases getElem?_concat hLast with hOld | ⟨rfl, rfl⟩
    · exact h.last v last hOld
    · rw [h.outside _ (Nat.le_of_eq h.lastLength.symm)]
      rfl
  nodup := h.nodup
  disjoint := h.disjoint
  bound := h.bound
  outside := fun v hOut => h.outside v (by
    rw [addNode_length] at hOut
    omega)

lemma LinksOk.addRoot {trie : RouteTrie} {chain : EdgeChains} (h : LinksOk trie chain)
    (method : HttpMethod) : LinksOk (addRoot trie method) chain :=
  { h.addNode with }

def growChain (chain : EdgeChains) (parent index : Nat) (edge : RouteTrieEdge) : EdgeChains :=
  Function.update chain parent (chain parent ++ [(index, edge)])

lemma growChain_self (chain : EdgeChains) (parent index : Nat) (edge : RouteTrieEdge) :
    growChain chain parent index edge parent = chain parent ++ [(index, edge)] :=
  Function.update_self ..

lemma growChain_ne (chain : EdgeChains) {parent v : Nat} (index : Nat) (edge : RouteTrieEdge)
    (h : v ≠ parent) : growChain chain parent index edge v = chain v :=
  Function.update_of_ne h ..

lemma mem_growChain {chain : EdgeChains} {parent v : Nat} {edge : RouteTrieEdge} {item : Nat × RouteTrieEdge} :
    item ∈ growChain chain parent index edge v ↔ item ∈ chain v ∨ v = parent ∧ item = (index, edge) := by
  by_cases hSame : v = parent
  · subst hSame
    simp [growChain_self]
  · simp [growChain_ne chain index edge hSame, hSame]

lemma growChain_indices {chain : EdgeChains} {parent v found : Nat} {edge : RouteTrieEdge}
    (h : found ∈ (growChain chain parent index edge v).map Prod.fst) :
    found ∈ (chain v).map Prod.fst ∨ v = parent ∧ found = index := by
  obtain ⟨item, hItem, rfl⟩ := mem_map.mp h
  rcases mem_growChain.mp hItem with hOld | ⟨hSame, rfl⟩
  · exact Or.inl (mem_map_of_mem hOld)
  · exact Or.inr ⟨hSame, rfl⟩

lemma growChain_last {chain : EdgeChains} {parent : Nat} (edge : RouteTrieEdge) {lasts : List (Option Nat)}
    (hLast : ∀ (v : Nat) (last : Option Nat), lasts[v]? = some last →
      last = ((chain v).map Prod.fst).getLast?) (v : Nat) (last : Option Nat)
    (hAt : (lasts.set parent (some index))[v]? = some last) :
    last = ((growChain chain parent index edge v).map Prod.fst).getLast? := by
  obtain ⟨rfl, rfl⟩ | ⟨hOther, hOld⟩ := getElem?_set_cases hAt
  · rw [growChain_self, map_append]
    exact getLast?_concat.symm
  · rw [growChain_ne chain _ edge (Ne.symm hOther)]
    exact hLast v last hOld

lemma appendTrieEdge_cases {trie grown : RouteTrie} {parent : Nat} (h : appendTrieEdge trie parent index = .ok grown) :
    ∃ node, trie.nodes[parent]? = some node ∧ (node.firstEdge = none ∧ grown = { trie with
          nodes := trie.nodes.set parent { node with firstEdge := some index }
          nodeLastEdges := trie.nodeLastEdges.set parent (some index) } ∨
        ∃ first last, node.firstEdge = some first ∧ trie.nodeLastEdges[parent]? = some (some last) ∧ grown = { trie with
            edges := relink trie.edges last index
            nodeLastEdges := trie.nodeLastEdges.set parent (some index) }) := by
  rw [appendTrieEdge] at h
  split at h
  · cases h
  rename_i node hNode
  refine ⟨node, hNode, ?_⟩
  split at h
  next hFirst =>
    exact Or.inl ⟨hFirst, (Except.ok.inj h).symm⟩
  rename_i first hFirst
  split at h
  next last hLast =>
    exact Or.inr ⟨first, last, hFirst, hLast, (Except.ok.inj h).symm⟩
  · cases h

lemma linked_none {cells : List (Cell α)} {entries : List (Nat × α)} (h : Linked cells none entries) :
    entries = [] := by
  cases h
  rfl

lemma LinksOk.grow {trie grown : RouteTrie} {chain : EdgeChains} {parent : Nat} {edge : RouteTrieEdge}
    (h : LinksOk trie chain) (hParent : parent < trie.nodes.length)
    (hNodes : grown.nodes.length = trie.nodes.length + 1)
    (hEdges : grown.edges.length = trie.edges.length + 1)
    (hLasts : grown.nodeLastEdges = (Dispatch.addNode trie).nodeLastEdges.set parent (some trie.edges.length))
    (hLinked : ∀ (v : Nat) (node : RouteTrieNode), grown.nodes[v]? = some node →
      Linked grown.edges node.firstEdge (growChain chain parent trie.edges.length edge v)) :
    LinksOk grown (growChain chain parent trie.edges.length edge) where
  lastLength := by rw [hLasts, length_set, h.addNode.lastLength, addNode_length, hNodes]
  linked := hLinked
  last := by
    rw [hLasts]
    exact growChain_last edge h.addNode.last
  nodup := fun v => by
    by_cases hSame : v = parent
    · subst hSame
      rw [growChain_self, map_append, nodup_append]
      refine ⟨h.nodup v, nodup_singleton _, ?_⟩
      rintro index hIndex other hOther rfl
      have hLess := h.bound v index hIndex
      rw [mem_singleton.mp hOther] at hLess
      exact absurd hLess (Nat.lt_irrefl _)
    · rw [growChain_ne chain _ edge hSame]
      exact h.nodup v
  disjoint := fun v w hDiffer index hLeft hRight => by
    rcases growChain_indices hLeft with hOld | ⟨rfl, rfl⟩
    · rcases growChain_indices hRight with hOther | ⟨rfl, rfl⟩
      · exact h.disjoint v w hDiffer index hOld hOther
      · exact absurd (h.bound v _ hOld) (Nat.lt_irrefl _)
    · rcases growChain_indices hRight with hOther | ⟨rfl, -⟩
      · exact absurd (h.bound w _ hOther) (Nat.lt_irrefl _)
      · exact hDiffer rfl
  bound := fun v index hIndex => by
    rw [hEdges]
    rcases growChain_indices hIndex with hOld | ⟨-, rfl⟩
    · exact Nat.lt_succ_of_lt (h.bound v index hOld)
    · exact Nat.lt_succ_self _
  outside := fun v hOut => by
    rw [growChain_ne chain _ edge (by omega)]
    exact h.outside v (by omega)

lemma LinksOk.addChild {trie grown : RouteTrie} {chain : EdgeChains} (h : LinksOk trie chain)
    {parent : Nat} (hParent : parent < trie.nodes.length) {seg : RouteSegment}
    (hGrown : addTrieChild trie parent seg = .ok grown) :
    LinksOk grown (growChain chain parent trie.edges.length ⟨labelOf seg, trie.nodes.length⟩) := by
  have hNodes := h.addNode
  obtain ⟨node, hNode, hCases⟩ := appendTrieEdge_cases hGrown
  rcases hCases with ⟨hFirst, rfl⟩ | ⟨first, last, hFirst, hLast, rfl⟩
  · refine h.grow hParent (length_set.trans (addNode_length trie)) length_append rfl fun v node' hNode' => ?_
    obtain ⟨rfl, rfl⟩ | ⟨hOther, hOld⟩ := getElem?_set_cases hNode'
    · have hBefore := hNodes.linked v node hNode
      rw [hFirst] at hBefore
      rw [growChain_self, linked_none hBefore]
      exact linked_new _ _
    · rw [growChain_ne chain _ _ (Ne.symm hOther)]
      exact (hNodes.linked v node' hOld).append _
  · have hLastIn : ((chain parent).map Prod.fst).getLast? = some last := (hNodes.last parent _ hLast).symm
    refine h.grow hParent (addNode_length trie) ?_ rfl fun v node' hNode' => ?_
    · simp only [relink_length, addNodeWithEdge, length_append, length_singleton]
    by_cases hSame : v = parent
    · subst hSame
      rw [growChain_self]
      exact (hNodes.linked v node' hNode').grow (h.nodup v) hLastIn _
    · rw [growChain_ne chain _ _ hSame]
      refine (hNodes.linked v node' hNode').frame ?_ _ _
      exact h.disjoint parent v (Ne.symm hSame) last (mem_of_getLast? hLastIn)

end

abbrev Address := HttpMethod × List TrieLabel

structure AddressesOk (count : Nat) (roots : List RouteTrieRoot) (chain : EdgeChains)
    (addr : Nat → Address) : Prop where
  child : ∀ v, ∀ item ∈ chain v, item.2.childIndex < count ∧
    addr item.2.childIndex = ((addr v).1, (addr v).2 ++ [item.2.label])
  unique : ∀ v w, v < count → w < count → addr v = addr w → v = w
  parent : ∀ (w : Nat) (method : HttpMethod) (labels : List TrieLabel) (label : TrieLabel),
    w < count → addr w = (method, labels ++ [label]) →
    ∃ v < count, addr v = (method, labels) ∧ ∃ item ∈ chain v, item.2.label = label ∧ item.2.childIndex = w
  root : ∀ root ∈ roots, root.rootIndex < count ∧ addr root.rootIndex = (root.method, [])
  rootOf : ∀ (v : Nat) (method : HttpMethod), v < count → addr v = (method, []) → ∃ root ∈ roots, root.method = method

structure TrieOk (trie : RouteTrie) (chain : EdgeChains) (addr : Nat → Address) : Prop where
  links : LinksOk trie chain
  addresses : AddressesOk trie.nodes.length trie.roots chain addr

lemma trieOk_empty (addr : Nat → Address) : TrieOk .empty (fun _ => []) addr where
  links := linksOk_empty
  addresses := {
    child := fun _ _ h => absurd h not_mem_nil
    unique := fun _ _ h => absurd h (Nat.not_lt_zero _)
    parent := fun _ _ _ _ h => absurd h (Nat.not_lt_zero _)
    root := forall_mem_nil _
    rootOf := fun _ _ h => absurd h (Nat.not_lt_zero _) }

def terminalAt (trie : RouteTrie) (v : Nat) : Option Nat := (trie.nodes[v]?).bind (·.terminal)

structure Grown (trie grown : RouteTrie) (addr addr' : Nat → Address) : Prop where
  length : trie.nodes.length ≤ grown.nodes.length
  address : ∀ v < trie.nodes.length, addr' v = addr v
  terminal : ∀ v, terminalAt grown v = terminalAt trie v

variable {trie : RouteTrie}

lemma Grown.refl (trie : RouteTrie) (addr : Nat → Address) : Grown trie trie addr addr :=
  ⟨Nat.le_refl _, fun _ _ => rfl, fun _ => rfl⟩

variable {grown : RouteTrie}

lemma Grown.trans {middle : RouteTrie} {addr addr₁ addr₂ : Nat → Address} (h₁ : Grown trie middle addr addr₁)
    (h₂ : Grown middle grown addr₁ addr₂) : Grown trie grown addr addr₂ := by
  have hLen := h₁.length
  refine ⟨Nat.le_trans hLen h₂.length, fun v hv => ?_, fun v => (h₂.terminal v).trans (h₁.terminal v)⟩
  rw [h₂.address v (by omega), h₁.address v hv]

lemma terminalAt_addNode (trie : RouteTrie) (v : Nat) : terminalAt (addNode trie) v = terminalAt trie v := by
  simp only [terminalAt, addNode]
  rcases Nat.lt_trichotomy v trie.nodes.length with hLess | rfl | hGreater
  · rw [getElem?_append_left hLess]
  · rw [getElem?_concat_length, getElem?_eq_none (Nat.le_refl _)]
    rfl
  · rw [getElem?_eq_none (by rw [length_append, length_singleton]; omega), getElem?_eq_none (Nat.le_of_lt hGreater)]

variable {parent : Nat}

lemma terminalAt_set {node : RouteTrieNode} {first : Option Nat} (hNode : trie.nodes[parent]? = some node)
    (hNodes : grown.nodes = trie.nodes.set parent { node with firstEdge := first }) (v : Nat) :
    terminalAt grown v = terminalAt trie v := by
  rw [terminalAt, terminalAt, hNodes, getElem?_set]
  split
  next hSame =>
    rw [if_pos (List.getElem_of_getElem? hNode).1, ← hSame, hNode]
    rfl
  · rfl

variable {seg : RouteSegment}

lemma addTrieChild_nodes (h : addTrieChild trie parent seg = .ok grown) :
    grown.nodes.length = trie.nodes.length + 1 ∧ grown.roots = trie.roots ∧
      ∀ v, terminalAt grown v = terminalAt trie v := by
  obtain ⟨node, hNode, ⟨-, rfl⟩ | ⟨first, last, -, -, rfl⟩⟩ := appendTrieEdge_cases h
  · refine ⟨by rw [length_set]; exact addNode_length trie, rfl, fun v => ?_⟩
    exact (terminalAt_set hNode rfl v).trans (terminalAt_addNode trie v)
  · exact ⟨addNode_length trie, rfl, fun v => terminalAt_addNode trie v⟩

variable {addr : Nat → Address} {chain : EdgeChains}

/-- A new node, with an address that no node has, either hangs on a node that is there or is a root. -/
lemma AddressesOk.grow {count : Nat} {roots roots' : List RouteTrieRoot} (h : AddressesOk count roots chain addr)
    (hOutside : ∀ v, count ≤ v → chain v = []) {chain' : EdgeChains} {new : Address}
    (hFresh : ∀ v < count, addr v ≠ new)
    (hChain : ∀ v, ∀ item ∈ chain v, item ∈ chain' v)
    (hChild : ∀ v, ∀ item ∈ chain' v, item ∈ chain v ∨
      v < count ∧ item.2.childIndex = count ∧ new = ((addr v).1, (addr v).2 ++ [item.2.label]))
    (hParent : ∀ method labels label, new = (method, labels ++ [label]) → ∃ v < count, addr v = (method, labels) ∧
      ∃ item ∈ chain' v, item.2.label = label ∧ item.2.childIndex = count)
    (hRoots : ∀ root ∈ roots, root ∈ roots')
    (hRoot : ∀ root ∈ roots', root ∈ roots ∨ root.rootIndex = count ∧ new = (root.method, []))
    (hRootOf : ∀ method, new = (method, []) → ∃ root ∈ roots', root.method = method) :
    AddressesOk (count + 1) roots' chain' (Function.update addr count new) := by
  generalize hAddr' : Function.update addr count new = addr'
  have hOld : ∀ v, v < count → addr' v = addr v := fun v hv => by
    rw [← hAddr', Function.update_of_ne (Nat.ne_of_lt hv)]
  have hAt : addr' count = new := by rw [← hAddr', Function.update_self]
  constructor
  · intro v item hItem
    rcases hChild v item hItem with hOldItem | ⟨hv, hIndex, hNew⟩
    · have hv : v < count := by
        by_contra hOut
        rw [hOutside v (Nat.not_lt.mp hOut)] at hOldItem
        cases hOldItem
      obtain ⟨hIndex, hAddr⟩ := h.child v item hOldItem
      rw [hOld _ hIndex, hOld v hv]
      exact ⟨by omega, hAddr⟩
    · rw [hIndex, hAt, hOld v hv]
      exact ⟨by omega, hNew⟩
  · intro v w hv hw hSame
    rcases Nat.lt_succ_iff_lt_or_eq.mp hv with hv | rfl <;> rcases Nat.lt_succ_iff_lt_or_eq.mp hw with hw | rfl
    · rw [hOld v hv, hOld w hw] at hSame
      exact h.unique v w hv hw hSame
    · rw [hOld v hv, hAt] at hSame
      exact absurd hSame (hFresh v hv)
    · rw [hOld w hw, hAt] at hSame
      exact absurd hSame.symm (hFresh w hw)
    · rfl
  · intro w method labels label hw hAddr
    obtain ⟨v, hv, hAddrV, item, hItem, hLabel, hIndex⟩ : ∃ v < count, addr v = (method, labels) ∧
        ∃ item ∈ chain' v, item.2.label = label ∧ item.2.childIndex = w := by
      rcases Nat.lt_succ_iff_lt_or_eq.mp hw with hw | rfl
      · rw [hOld w hw] at hAddr
        obtain ⟨v, hv, hAddrV, item, hItem, hLabel⟩ := h.parent w method labels label hw hAddr
        exact ⟨v, hv, hAddrV, item, hChain v item hItem, hLabel⟩
      · rw [hAt] at hAddr
        exact hParent method labels label hAddr
    exact ⟨v, by omega, (hOld v hv).trans hAddrV, item, hItem, hLabel, hIndex⟩
  · intro root hMem
    rcases hRoot root hMem with hOldRoot | ⟨hIndex, hNew⟩
    · obtain ⟨hIndex, hAddr⟩ := h.root root hOldRoot
      rw [hOld _ hIndex]
      exact ⟨by omega, hAddr⟩
    · rw [hIndex, hAt]
      exact ⟨by omega, hNew⟩
  · intro v method hv hAddr
    rcases Nat.lt_succ_iff_lt_or_eq.mp hv with hv | rfl
    · rw [hOld v hv] at hAddr
      obtain ⟨root, hMem, hMethod⟩ := h.rootOf v method hv hAddr
      exact ⟨root, hRoots root hMem, hMethod⟩
    · rw [hAt] at hAddr
      exact hRootOf method hAddr

lemma TrieOk.addChild (h : TrieOk trie chain addr) (hParent : parent < trie.nodes.length)
    (hNew : ∀ item ∈ chain parent, item.2.label ≠ labelOf seg) (hGrown : addTrieChild trie parent seg = .ok grown) :
    ∃ chain' addr', TrieOk grown chain' addr' ∧ Grown trie grown addr addr' ∧ trie.nodes.length < grown.nodes.length ∧
      addr' trie.nodes.length = ((addr parent).1, (addr parent).2 ++ [labelOf seg]) := by
  obtain ⟨hLen, hRoots, hTerminal⟩ := addTrieChild_nodes hGrown
  refine ⟨_, _, ⟨h.links.addChild hParent hGrown, ?_⟩,
    ⟨by omega, fun v hv => Function.update_of_ne (Nat.ne_of_lt hv) ..,
    hTerminal⟩, by omega, Function.update_self ..⟩
  rw [hLen, hRoots]
  refine h.addresses.grow h.links.outside ?_ (fun v item hItem => mem_growChain.mpr (Or.inl hItem)) ?_ ?_
    (fun _ hMem => hMem) (fun _ hMem => Or.inl hMem) ?_
  · intro v hv hSame
    obtain ⟨w, hw, hAddr, item, hItem, hLabel, -⟩ := h.addresses.parent v _ _ _ hv hSame
    obtain rfl := h.addresses.unique w parent hw hParent hAddr
    exact hNew item hItem hLabel
  · intro v item hItem
    rcases mem_growChain.mp hItem with hOldItem | ⟨rfl, rfl⟩
    · exact Or.inl hOldItem
    · exact Or.inr ⟨hParent, rfl, rfl⟩
  · intro method labels label hAddr
    rw [Prod.mk.injEq] at hAddr
    obtain ⟨rfl, hLabels⟩ := hAddr
    obtain ⟨rfl, hLast⟩ := append_inj' hLabels rfl
    exact ⟨parent, hParent, rfl, _, mem_growChain.mpr (Or.inr ⟨rfl, rfl⟩), (List.cons.inj hLast).1, rfl⟩
  · intro method hAddr
    rw [Prod.mk.injEq] at hAddr
    exact absurd hAddr.2 (by simp)

lemma TrieOk.addRoot (h : TrieOk trie chain addr) {method : HttpMethod}
    (hNew : ∀ root ∈ trie.roots, root.method ≠ method) :
    ∃ addr', TrieOk (addRoot trie method) chain addr' ∧ Grown trie (Dispatch.addRoot trie method) addr addr' ∧
      addr' trie.nodes.length = (method, []) := by
  have hLen : (Dispatch.addRoot trie method).nodes.length = trie.nodes.length + 1 := addNode_length trie
  refine ⟨_, ⟨h.links.addRoot method, ?_⟩, ⟨by omega, fun v hv => Function.update_of_ne (Nat.ne_of_lt hv) ..,
    terminalAt_addNode trie⟩, Function.update_self ..⟩
  rw [hLen]
  refine h.addresses.grow h.links.outside ?_ (fun _ _ hItem => hItem) (fun _ _ hItem => Or.inl hItem) ?_
    (fun _ hMem => mem_append_left _ hMem) ?_ ?_
  · intro v hv hSame
    obtain ⟨root, hRoot, hMethod⟩ := h.addresses.rootOf v method hv hSame
    exact hNew root hRoot hMethod
  · intro other labels label hAddr
    rw [Prod.mk.injEq] at hAddr
    exact absurd hAddr.2 (by simp)
  · intro root hMem
    rcases mem_append.mp hMem with hOldRoot | hNewRoot
    · exact Or.inl hOldRoot
    · obtain rfl := mem_singleton.mp hNewRoot
      exact Or.inr ⟨rfl, rfl⟩
  · intro other hAddr
    rw [Prod.mk.injEq] at hAddr
    exact ⟨_, mem_append_right _ (mem_singleton.mpr rfl), hAddr.1⟩

lemma findTrieEdgeFrom_eq {edges : List (Cell RouteTrieEdge)} (label : TrieLabel)
    {start : Option Nat} {entries : List (Nat × RouteTrieEdge)} (h : Linked edges start entries)
    {fuel : Nat} (hFuel : entries.length ≤ fuel) :
    findTrieEdgeFrom edges label fuel start = (entries.map Prod.snd).find? fun edge => edge.label = label := by
  induction h generalizing fuel with
  | nil => cases fuel <;> rfl
  | cons hCell hRest ih =>
    cases fuel with
    | zero => exact absurd hFuel (by simp)
    | succ fuel =>
      rw [findTrieEdgeFrom, hCell, map_cons, find?_cons, ← ih (Nat.le_of_succ_le_succ hFuel)]
      dsimp only
      split <;> simp_all

variable {addr : Nat → Address} {chain : EdgeChains} {trie : RouteTrie} {v : Nat}

lemma TrieOk.findTrieEdge (h : TrieOk trie chain addr) (hv : v < trie.nodes.length) (seg : RouteSegment) :
    (∀ edge, findTrieEdge trie v seg = some edge → edge.childIndex < trie.nodes.length ∧
          addr edge.childIndex = ((addr v).1, (addr v).2 ++ [labelOf seg])) ∧
      (Dispatch.findTrieEdge trie v seg = none → ∀ item ∈ chain v, item.2.label ≠ labelOf seg) := by
  have hNode := getElem?_eq_getElem hv
  have hLinked := h.links.linked v _ hNode
  have hFuel := hLinked.length_le (h.links.nodup v)
  rw [Dispatch.findTrieEdge, hNode]
  dsimp only [Option.bind_some]
  rw [findTrieEdgeFrom_eq (labelOf seg) hLinked hFuel]
  refine ⟨fun edge hEdge => ?_, fun hNone item hItem => ?_⟩
  · obtain ⟨item, hItem, rfl⟩ := mem_map.mp (mem_of_find?_eq_some hEdge)
    have hLabel : item.2.label = labelOf seg := by simpa using find?_some hEdge
    have hChild := h.addresses.child v item hItem
    rwa [hLabel] at hChild
  · simpa using find?_eq_none.mp hNone item.2 (mem_map_of_mem hItem)

variable {grown : RouteTrie} {segmentCapacity : Nat} {nodeCapacity : Nat}

lemma TrieOk.insertSegments (segs : List RouteSegment) (h : TrieOk trie chain addr) {w : Nat}
    (hv : v < trie.nodes.length)
    (hInsert : insertTrieSegments segmentCapacity nodeCapacity segs trie v = .ok (grown, w)) :
    ∃ chain' addr', TrieOk grown chain' addr' ∧ Grown trie grown addr addr' ∧
      w < grown.nodes.length ∧ addr' w = ((addr v).1, (addr v).2 ++ segs.map labelOf) := by
  induction segs generalizing trie chain addr v with
  | nil =>
    obtain ⟨rfl, rfl⟩ := hInsert
    exact ⟨chain, addr, h, Grown.refl _ _, hv, by simp⟩
  | cons seg segs ih =>
    obtain ⟨hFound, hMissing⟩ := h.findTrieEdge hv seg
    rw [insertTrieSegments] at hInsert
    split at hInsert
    next edge hEdge =>
      obtain ⟨hChild, hAddr⟩ := hFound edge hEdge
      obtain ⟨chain', addr', hOk, hGrown, hw, hAddr'⟩ := ih h hChild hInsert
      refine ⟨chain', addr', hOk, hGrown, hw, ?_⟩
      rw [hAddr', hAddr, map_cons, append_assoc]
      rfl
    next hNone =>
      split at hInsert
      · cases hInsert
      split at hInsert
      · cases hInsert
      rename_i hMiddle
      obtain ⟨chain₁, addr₁, hOk₁, hGrown₁, hLess, hAddr₁⟩ := h.addChild hv (hMissing hNone) hMiddle
      obtain ⟨chain', addr', hOk, hGrown, hw, hAddr'⟩ := ih hOk₁ hLess hInsert
      refine ⟨chain', addr', hOk, hGrown₁.trans hGrown, hw, ?_⟩
      rw [hAddr', hAddr₁, map_cons, append_assoc]
      rfl

def routeAddress (binding : RouteBinding) : Address :=
  (binding.method, binding.pattern.segments.map labelOf)

/-- Every terminal is the first route that ends at its node, and every route ends at a node. -/
structure TerminalsOk (routes : List RouteBinding) (start limit : Nat) (trie : RouteTrie)
    (addr : Nat → Address) : Prop where
  first : ∀ v < trie.nodes.length, IsFirst (KeyedRoute routeAddress routes start limit (addr v)) (terminalAt trie v)
  covered : ∀ (index : Nat) (address : Address), KeyedRoute routeAddress routes start limit address index →
    ∃ v < trie.nodes.length, addr v = address

variable {limit start : Nat} {routes : List RouteBinding}

lemma TerminalsOk.grow {addr' : Nat → Address} (h : TerminalsOk routes start limit trie addr)
    (hOk : TrieOk grown chain addr') (hGrown : Grown trie grown addr addr') :
    TerminalsOk routes start limit grown addr' := by
  have hLen := hGrown.length
  constructor
  · intro v hv
    by_cases hOld : v < trie.nodes.length
    · rw [hGrown.terminal v, hGrown.address v hOld]
      exact h.first v hOld
    rw [hGrown.terminal v, terminalAt, getElem?_eq_none (Nat.not_lt.mp hOld), Option.bind_none]
    refine ⟨fun _ hSome => (by cases hSome), fun index hEnds => ?_⟩
    -- a route that ends here would have its node among the old ones
    obtain ⟨w, hw, hAddr⟩ := h.covered index _ hEnds
    rw [← hGrown.address w hw] at hAddr
    exact absurd (hOk.addresses.unique w v (by omega) hv hAddr ▸ hw) hOld
  · intro index address hEnds
    obtain ⟨v, hv, hAddr⟩ := h.covered index address hEnds
    exact ⟨v, by omega, by rw [hGrown.address v hv, hAddr]⟩

variable {trie' : RouteTrie}

lemma setTerminal_spec {index : Nat} (h : setTerminal trie v index = .ok trie') :
    v < trie.nodes.length ∧ trie'.nodes.length = trie.nodes.length ∧
      (∀ chain addr, TrieOk trie chain addr → TrieOk trie' chain addr) ∧
      terminalAt trie' v = (terminalAt trie v).or (some index) ∧
      ∀ w, w ≠ v → terminalAt trie' w = terminalAt trie w := by
  rw [setTerminal] at h
  split at h
  · cases h
  rename_i node hNode
  obtain rfl := Except.ok.inj h
  have hv := (List.getElem_of_getElem? hNode).1
  have hLen : (trie.nodes.set v { node with terminal := node.terminal.or (some index) }).length =
      trie.nodes.length := length_set
  refine ⟨hv, hLen, fun chain addr hOk => ⟨?_, ?_⟩, ?_, ?_⟩
  · refine { hOk.links with lastLength := ?_, linked := ?_, outside := ?_ }
    · exact hOk.links.lastLength.trans hLen.symm
    · intro w other hOther
      obtain ⟨rfl, rfl⟩ | ⟨-, hOld⟩ := getElem?_set_cases hOther
      · exact hOk.links.linked w node hNode
      · exact hOk.links.linked w other hOld
    · exact fun w hw => hOk.links.outside w (hLen ▸ hw)
  · rw [hLen]
    exact hOk.addresses
  · rw [terminalAt, terminalAt, getElem?_set_self hv, hNode]
    rfl
  · intro w hDiffer
    rw [terminalAt, terminalAt, getElem?_set_ne (Ne.symm hDiffer)]

variable {binding : RouteBinding}

lemma TerminalsOk.set (h : TerminalsOk routes start limit trie addr) (hOk : TrieOk trie chain addr)
    (hStart : start ≤ limit) (hAt : routes[limit]? = some binding) (hAddr : addr v = routeAddress binding)
    (hSet : setTerminal trie v limit = .ok trie') : TerminalsOk routes start (limit + 1) trie' addr := by
  obtain ⟨hv, hLen, -, hHere, hElse⟩ := setTerminal_spec hSet
  constructor
  · intro w hw
    rw [hLen] at hw
    by_cases hSame : w = v
    · subst hSame
      rw [hHere]
      have hNew : IsFirst (fun index => index = limit) (some limit) :=
        ⟨fun index hIndex => (Option.some.inj hIndex).symm, fun index hIndex => ⟨limit, rfl, Nat.le_of_eq hIndex.symm⟩⟩
      refine ((h.first w hw).or hNew ?_).congr fun index => ?_
      · rintro index later hIndex rfl
        exact Nat.le_of_lt hIndex.1.2
      · rw [keyedRoute_succ hStart hAt, and_iff_left hAddr.symm]
    · rw [hElse w hSame]
      refine (h.first w hw).congr fun index => ?_
      rw [keyedRoute_succ hStart hAt]
      refine ⟨Or.inl, fun hEither => hEither.resolve_right fun hBoth => hSame ?_⟩
      exact hOk.addresses.unique w v hw hv (hBoth.2.symm.trans hAddr.symm)
  · intro index address hIndex
    rw [hLen]
    rcases (keyedRoute_succ hStart hAt).mp hIndex with hOld | ⟨-, rfl⟩
    · exact h.covered index address hOld
    · exact ⟨v, hv, hAddr⟩

variable {rootCapacity : Nat}

lemma TrieOk.rootFor (h : TrieOk trie chain addr) {method : HttpMethod}
    (hRoot : trieRootFor rootCapacity nodeCapacity trie method = .ok (grown, v)) :
    ∃ chain' addr', TrieOk grown chain' addr' ∧ Grown trie grown addr addr' ∧
      v < grown.nodes.length ∧ addr' v = (method, []) := by
  rw [trieRootFor] at hRoot
  split at hRoot
  next root hFind =>
    obtain ⟨rfl, rfl⟩ := hRoot
    have hMethod : root.method = method := by simpa using find?_some hFind
    obtain ⟨hIndex, hAddr⟩ := h.addresses.root root (mem_of_find?_eq_some hFind)
    exact ⟨chain, addr, h, Grown.refl _ _, hIndex, by rw [hAddr, hMethod]⟩
  next hNone =>
    split at hRoot
    · cases hRoot
    obtain ⟨rfl, rfl⟩ := hRoot
    have hNew : ∀ root ∈ trie.roots, root.method ≠ method := fun root hMem hSame =>
      find?_eq_none.mp hNone root hMem (beq_iff_eq.mpr hSame)
    obtain ⟨addr', hOk, hGrown, hAddr⟩ := h.addRoot hNew
    refine ⟨chain, addr', hOk, hGrown, ?_, hAddr⟩
    change trie.nodes.length < (addNode trie).nodes.length
    rw [addNode_length]
    exact Nat.lt_succ_self _

def TrieBuilt (routes : List RouteBinding) (start limit : Nat) (trie : RouteTrie) : Prop :=
  ∃ chain addr, TrieOk trie chain addr ∧ TerminalsOk routes start limit trie addr

lemma trieBuilt_empty (routes : List RouteBinding) (start : Nat) : TrieBuilt routes start start .empty := by
  refine ⟨_, fun _ => (.unknown, []), trieOk_empty _, fun _ h => absurd h (Nat.not_lt_zero _), ?_⟩
  rintro index addr ⟨hRange, -⟩
  omega

lemma TrieBuilt.insertRoute (h : TrieBuilt routes start limit trie) (hStart : start ≤ limit)
    (hAt : routes[limit]? = some binding)
    (hInsert : insertTrieRoute rootCapacity segmentCapacity trie binding limit = .ok grown) :
    TrieBuilt routes start (limit + 1) grown := by
  obtain ⟨chain, addr, hOk, hTerminals⟩ := h
  rw [insertTrieRoute] at hInsert
  split at hInsert
  · cases hInsert
  split at hInsert
  · cases hInsert
  rename_i hRoot
  obtain ⟨chain₁, addr₁, hOk₁, hGrown₁, hv₁, hAddr₁⟩ := hOk.rootFor hRoot
  split at hInsert
  · cases hInsert
  rename_i v hSegs
  obtain ⟨chain₂, addr₂, hOk₂, hGrown₂, hv₂, hAddr₂⟩ := hOk₁.insertSegments _ hv₁ hSegs
  have hEnd : addr₂ v = routeAddress binding := by
    rw [hAddr₂, hAddr₁]
    rfl
  have hMiddle := hTerminals.grow hOk₂ (hGrown₁.trans hGrown₂)
  exact ⟨chain₂, addr₂, (setTerminal_spec hInsert).2.2.1 _ _ hOk₂, hMiddle.set hOk₂ hStart hAt hEnd hInsert⟩

lemma TrieBuilt.insertRoutes (rest : List RouteBinding) (hRest : routes.drop limit = rest) (hStart : start ≤ limit)
    (h : TrieBuilt routes start limit trie)
    (hInsert : insertTrieRoutes rootCapacity segmentCapacity rest limit trie = .ok grown) :
    TrieBuilt routes start (limit + rest.length) grown := by
  induction rest generalizing limit trie with
  | nil =>
    obtain rfl := Except.ok.inj hInsert
    exact h
  | cons binding rest ih =>
    obtain ⟨hAt, hNext⟩ := drop_eq_cons hRest
    rw [insertTrieRoutes] at hInsert
    split at hInsert
    · cases hInsert
    next hMiddle =>
      have hBuilt := ih hNext (by omega) (h.insertRoute hStart hAt hMiddle) hInsert
      rwa [length_cons, Nat.add_comm rest.length 1, ← Nat.add_assoc]

lemma TableShape.trieBuilt {table : DispatchTable} (hShape : TableShape table) (hSome : table.paramRoutes ≠ []) :
    TrieBuilt table.routes table.paramStart table.routes.length table.trie := by
  rcases hShape.indexes with ⟨hNone, -⟩ | ⟨-, -, hTrie⟩
  · exact absurd hNone hSome
  rw [buildParamTrie] at hTrie
  split at hTrie
  · cases hTrie
  have hBuilt := TrieBuilt.insertRoutes table.paramRoutes rfl (Nat.le_refl _)
    (trieBuilt_empty table.routes table.paramStart) hTrie
  have hLen : table.paramStart + table.paramRoutes.length = table.routes.length := by
    have hPositive := length_pos_iff.mpr hSome
    rw [DispatchTable.paramRoutes, length_drop] at hPositive ⊢
    omega
  rwa [hLen] at hBuilt

end Sloppy.Dispatch
