import Sloppy.Dispatch.Trie
import Mathlib.Data.List.Induction

/-! # The walk down the trie

The walk takes the best edge at every node and never steps back. No other edge that matches is as good, so a walk that
ends at a terminal has found the first route of the table that matches.
-/

namespace Sloppy.Dispatch

open Route Lib Lib.Chain List

section

def labelMatches (label : TrieLabel) (part : List UInt8) : Bool :=
  match label with
  | .static text => text == part
  | .param kind => segmentMatchesKind kind part

/-- Static labels come before constrained parameters, these before string parameters. -/
def labelRank : TrieLabel → Nat
  | .static _ => 0
  | .param kind => if kind = .string then 2 else 1

def labelsMatch : List TrieLabel → List (List UInt8) → Bool
  | [], [] => true
  | label :: labels, part :: parts =>
    part != [] && labelMatches label part && labelsMatch labels parts
  | _, _ => false

lemma matches_eq_labelMatches (seg : RouteSegment) (part : List UInt8) :
    seg.matches part = labelMatches (labelOf seg) part := by
  cases seg <;> rfl

lemma partsMatch_eq_labelsMatch (segs : List RouteSegment) (parts : List (List UInt8)) :
    partsMatch segs parts = labelsMatch (segs.map labelOf) parts := by
  induction segs generalizing parts with
  | nil => cases parts <;> rfl
  | cons seg segs ih =>
    cases parts with
    | nil => rfl
    | cons =>
      rw [partsMatch, map_cons, labelsMatch, matches_eq_labelMatches, ih]

variable {part : List UInt8}

lemma label_eq_of_rank {left right : TrieLabel} (hLeft : labelMatches left part = true)
    (hRight : labelMatches right part = true) (hRank : labelRank left = labelRank right) : left = right := by
  cases left with
  | static =>
    cases right with
    | static => rw [beq_iff_eq.mp hLeft, beq_iff_eq.mp hRight]
    | param =>
      simp only [labelRank] at hRank
      split at hRank <;> cases hRank
  | param kind =>
    cases right with
    | static =>
      simp only [labelRank] at hRank
      split at hRank <;> cases hRank
    | param other =>
      simp only [labelRank] at hRank
      by_cases hKind : kind = .string
      · by_cases hOther : other = .string
        · rw [hKind, hOther]
        · rw [if_pos hKind, if_neg hOther] at hRank
          cases hRank
      · by_cases hOther : other = .string
        · rw [if_neg hKind, if_pos hOther] at hRank
          cases hRank
        · rw [← constrainedKind_eq hLeft hKind, ← constrainedKind_eq hRight hOther]

def Beats (result : Option RouteTrieEdge) (label : TrieLabel) : Prop :=
  ∃ edge, result = some edge ∧ (edge.label = label ∨ labelRank edge.label < labelRank label)

/-- The best of the edges seen: it matches, and none of them that matches is better. -/
structure IsBest (part : List UInt8) (seen : List RouteTrieEdge) (result : Option RouteTrieEdge) :
    Prop where
  found : ∀ edge, result = some edge → edge ∈ seen ∧ labelMatches edge.label part = true
  best : ∀ edge ∈ seen, labelMatches edge.label part = true → Beats result edge.label

lemma labelRank_le (label : TrieLabel) : labelRank label ≤ 2 := by
  cases label with
  | static => exact Nat.zero_le 2
  | param =>
    rw [labelRank]
    split <;> decide

/-- The first edge of a rank that matches. -/
def edgeOfRank (part : List UInt8) (seen : List RouteTrieEdge) (rank : Nat) : Option RouteTrieEdge :=
  seen.find? fun edge => labelRank edge.label == rank && labelMatches edge.label part

lemma edgeOfRank_cons (edge : RouteTrieEdge) (seen : List RouteTrieEdge) (rank : Nat) :
    edgeOfRank part (edge :: seen) rank =
      if labelRank edge.label = rank ∧ labelMatches edge.label part = true then some edge
      else edgeOfRank part seen rank := by
  rw [edgeOfRank, find?_cons]
  split
  next hHit => rw [if_pos (by simpa using hHit)]
  next hMiss => rw [if_neg (by simpa using hMiss), edgeOfRank]

lemma findBestTrieEdgeFrom_eq {edges : List (Cell RouteTrieEdge)} {start : Option Nat}
    {entries : List (Nat × RouteTrieEdge)} (h : Linked edges start entries) {fuel : Nat}
    (hFuel : entries.length ≤ fuel) (constrained stringParam : Option RouteTrieEdge) :
    findBestTrieEdgeFrom edges part fuel start constrained stringParam =
      (edgeOfRank part (entries.map Prod.snd) 0).or ((constrained.or (edgeOfRank part (entries.map Prod.snd) 1)).or
        (stringParam.or (edgeOfRank part (entries.map Prod.snd) 2))) := by
  induction h generalizing fuel constrained stringParam with
  | nil => cases fuel <;> simp [findBestTrieEdgeFrom, edgeOfRank]
  | @cons index edge next rest hCell hRest ih =>
    cases fuel with
    | zero => cases hFuel
    | succ fuel =>
      simp only [findBestTrieEdgeFrom, hCell, ih (Nat.le_of_succ_le_succ hFuel), map_cons, edgeOfRank_cons]
      cases hLabel : edge.label with
      | static text => by_cases hText : text = part <;> simp [labelRank, labelMatches, hText]
      | param kind =>
        by_cases hKind : kind = .string
        · cases stringParam <;> cases hMatch : segmentMatchesKind kind part <;> simp_all [labelRank, labelMatches]
        · cases constrained <;> cases hMatch : segmentMatchesKind kind part <;> simp_all [labelRank, labelMatches]

lemma isBest_edgeOfRank (seen : List RouteTrieEdge) :
    IsBest part seen ((edgeOfRank part seen 0).or ((edgeOfRank part seen 1).or (edgeOfRank part seen 2))) := by
  have hOf {rank : Nat} {edge : RouteTrieEdge} (h : edgeOfRank part seen rank = some edge) :
      labelRank edge.label = rank ∧ labelMatches edge.label part = true := by
    simpa using find?_some h
  constructor
  · intro edge hEdge
    have hMem : ∃ rank, edgeOfRank part seen rank = some edge := by
      rcases Option.or_eq_some_iff.mp hEdge with hFirst | ⟨-, hRest⟩
      · exact ⟨0, hFirst⟩
      · exact (Option.or_eq_some_iff.mp hRest).elim (⟨1, ·⟩) (⟨2, ·.2⟩)
    obtain ⟨rank, hRank⟩ := hMem
    exact ⟨mem_of_find?_eq_some hRank, (hOf hRank).2⟩
  · intro edge hEdge hMatch
    have hGood {rank : Nat} {found : RouteTrieEdge} (h : edgeOfRank part seen rank = some found)
        (hLe : rank ≤ labelRank edge.label) :
        found.label = edge.label ∨ labelRank found.label < labelRank edge.label :=
      (Nat.eq_or_lt_of_le hLe).imp (fun hSame => label_eq_of_rank (hOf h).2 hMatch ((hOf h).1.trans hSame))
        fun hLess => (hOf h).1.trans_lt hLess
    have hNone {rank : Nat} (h : edgeOfRank part seen rank = none) : labelRank edge.label ≠ rank := fun hRank =>
      find?_eq_none.mp h edge hEdge (by simp [hRank, hMatch])
    cases hStatic : edgeOfRank part seen 0 with
    | some found => exact ⟨found, rfl, hGood hStatic (Nat.zero_le _)⟩
    | none =>
      have hPositive := Nat.pos_of_ne_zero (hNone hStatic)
      cases hConstrained : edgeOfRank part seen 1 with
      | some found => exact ⟨found, rfl, hGood hConstrained hPositive⟩
      | none =>
        have hTwo := Nat.lt_of_le_of_ne hPositive (hNone hConstrained).symm
        cases hString : edgeOfRank part seen 2 with
        | some found => exact ⟨found, rfl, hGood hString hTwo⟩
        | none => exact absurd (Nat.le_antisymm (labelRank_le _) hTwo) (hNone hString)

lemma TrieOk.bestEdge {trie : RouteTrie} {chain : EdgeChains} {addr : Nat → Address}
    (h : TrieOk trie chain addr) {v : Nat} {node : RouteTrieNode} (hNode : trie.nodes[v]? = some node)
    (part : List UInt8) :
    IsBest part ((chain v).map Prod.snd) (findBestTrieEdge trie node part) := by
  have hLinked := h.links.linked v node hNode
  rw [findBestTrieEdge, findBestTrieEdgeFrom_eq hLinked (hLinked.length_le (h.links.nodup v))]
  exact isBest_edgeOfRank _

end

variable {addr : Nat → Address} {chain : EdgeChains} {trie : RouteTrie} {method : HttpMethod} {labels : List TrieLabel}

lemma AddressesOk.ancestor {count : Nat} {roots : List RouteTrieRoot} (h : AddressesOk count roots chain addr)
    (more : List TrieLabel) {w : Nat} (hw : w < count) (hAddr : addr w = (method, labels ++ more)) :
    ∃ v < count, addr v = (method, labels) := by
  induction more using reverseRecOn generalizing w with
  | nil => exact ⟨w, hw, by rw [hAddr, append_nil]⟩
  | append_singleton more label ih =>
    rw [← append_assoc] at hAddr
    obtain ⟨v, hv, hParent, -⟩ := h.parent w method _ label hw hAddr
    exact ih hv hParent

lemma TrieOk.edge_towards (h : TrieOk trie chain addr) {v w : Nat} (hv : v < trie.nodes.length)
    (hw : w < trie.nodes.length) {label : TrieLabel} {more : List TrieLabel}
    (hAddr : addr w = ((addr v).1, (addr v).2 ++ label :: more)) : ∃ item ∈ chain v, item.2.label = label := by
  rw [← singleton_append, ← append_assoc] at hAddr
  obtain ⟨x, hx, hMiddle⟩ := h.addresses.ancestor more hw hAddr
  obtain ⟨u, hu, hSame, item, hItem, hLabel, -⟩ := h.addresses.parent x _ _ _ hx hMiddle
  obtain rfl := h.addresses.unique u v hu hv hSame
  exact ⟨item, hItem, hLabel⟩

/-- Equal lists of labels, or the left one has the smaller rank where they part. -/
def LabelsBefore : List TrieLabel → List TrieLabel → Prop
  | [], [] => True
  | left :: lefts, right :: rights =>
    labelRank left < labelRank right ∨ left = right ∧ LabelsBefore lefts rights
  | _, _ => False

lemma labelsMatch_cons {part : List UInt8} {parts : List (List UInt8)} (h : labelsMatch labels (part :: parts) = true) :
    ∃ label rest, labels = label :: rest ∧ labelMatches label part = true ∧ labelsMatch rest parts = true := by
  cases labels with
  | nil => cases h
  | cons label rest =>
    simp only [labelsMatch, Bool.and_eq_true] at h
    exact ⟨label, rest, rfl, h.1.2, h.2⟩

variable {path : List UInt8} {index : Nat}

/-- A terminal below a node whose labels match the parts, before every other node below it that matches them. -/
def WalkEnds (trie : RouteTrie) (addr : Nat → Address) (start : Address) (parts : List (List UInt8))
    (index : Nat) : Prop :=
  ∃ w labels, w < trie.nodes.length ∧ addr w = (start.1, start.2 ++ labels) ∧ terminalAt trie w = some index ∧
    labelsMatch labels parts = true ∧ ∀ others, labelsMatch others parts = true →
      (∃ u < trie.nodes.length, addr u = (start.1, start.2 ++ others)) → LabelsBefore labels others

lemma walkEnds_here {v : Nat} (hv : v < trie.nodes.length) (h : trie.nodes[v].terminal = some index) :
    WalkEnds trie addr (addr v) [] index := by
  refine ⟨v, [], hv, by rw [append_nil], ?_, rfl, fun others hOther _ => ?_⟩
  · rw [terminalAt, getElem?_eq_getElem hv]
    exact h
  · cases others with
    | nil => trivial
    | cons => cases hOther

lemma TrieOk.walk (h : TrieOk trie chain addr) {fuel v pos : Nat} (hv : v < trie.nodes.length)
    (hPos : pos ≤ path.length) (hWalk : walkTrie trie path fuel v pos = some index) :
    WalkEnds trie addr (addr v) (partsFrom path pos) index := by
  induction fuel generalizing v pos with
  | zero => cases hWalk
  | succ fuel ih =>
    have hNode := getElem?_eq_getElem hv
    rw [walkTrie, hNode] at hWalk
    dsimp only at hWalk
    split at hWalk
    next hLess =>
      split at hWalk
      · cases hWalk
      rename_i hSeg
      have hBest := h.bestEdge hNode (segmentAt path pos)
      split at hWalk
      · cases hWalk
      rename_i edge hEdge
      obtain ⟨hMem, hMatch⟩ := hBest.found edge hEdge
      obtain ⟨⟨place, found⟩, hItem, rfl⟩ := mem_map.mp hMem
      obtain ⟨hChild, hAddr⟩ := h.addresses.child v _ hItem
      obtain ⟨w, labels, hw, hEnd, hTerminal, hLabels, hOthers⟩ := ih hChild (nextPos_le hPos) hWalk
      rw [hAddr, append_assoc] at hEnd
      rw [partsFrom_step hLess hSeg]
      refine ⟨w, found.label :: labels, hw, hEnd, hTerminal, ?_, ?_⟩
      · rw [labelsMatch, hMatch, hLabels, bne_iff_ne.mpr hSeg]
        rfl
      · rintro others hOther ⟨u, hu, hFar⟩
        obtain ⟨label, rest, rfl, hFirst, hRest⟩ := labelsMatch_cons hOther
        obtain ⟨item, hIn, rfl⟩ := h.edge_towards hv hu hFar
        obtain ⟨taken, hTaken, hBetter⟩ := hBest.best item.2 (mem_map_of_mem hIn) hFirst
        rw [hEdge] at hTaken
        obtain rfl := Option.some.inj hTaken
        rcases hBetter with hSame | hRank
        · refine Or.inr ⟨hSame, hOthers rest hRest ⟨u, hu, ?_⟩⟩
          rw [hFar, hAddr, hSame, append_assoc]
          rfl
        · exact Or.inl hRank
    · obtain rfl : pos = path.length := by omega
      split at hWalk
      · cases hWalk
      rename_i hLast
      rw [partsFrom_end, if_neg hLast]
      exact walkEnds_here hv hWalk

lemma segmentKey_lt_of_rank {left right : RouteSegment} (h : labelRank (labelOf left) < labelRank (labelOf right)) :
    segmentKey left < segmentKey right := by
  cases left with
  | static =>
    cases right with
    | static => exact absurd h (Nat.lt_irrefl _)
    | param =>
      rw [segmentKey, segmentKey]
      split <;> exact cons_lt_cons_iff.mpr (Or.inl (by decide))
  | param =>
    cases right with
    | static => exact absurd h (Nat.not_lt_zero _)
    | param =>
      simp only [labelOf, labelRank] at h
      simp only [segmentKey]
      split at h <;> split at h <;> simp_all [cons_lt_cons_iff]

lemma segmentKey_eq_of_label {left right : RouteSegment} (h : labelOf left = labelOf right) :
    segmentKey left = segmentKey right := by
  cases left <;> cases right <;> simp_all [labelOf, segmentKey]

lemma routeKey_lt_of_before {left right : List RouteSegment}
    (h : LabelsBefore (left.map labelOf) (right.map labelOf)) :
    left.map labelOf = right.map labelOf ∨ ∀ order otherOrder, routeKey left order < routeKey right otherOrder := by
  induction left generalizing right with
  | nil =>
    cases right with
    | nil => exact Or.inl rfl
    | cons => exact absurd h id
  | cons seg segs ih =>
    cases right with
    | nil => exact absurd h id
    | cons other others =>
      have hCons : ∀ order otherOrder, routeKey (seg :: segs) order <
          routeKey (other :: others) otherOrder ↔ segmentKey seg < segmentKey other ∨
            segmentKey seg = segmentKey other ∧ routeKey segs order < routeKey others otherOrder := fun _ _ =>
        cons_lt_cons_iff
      rcases h with hRank | ⟨hLabel, hRest⟩
      · exact Or.inr fun order otherOrder =>
          (hCons order otherOrder).mpr (Or.inl (segmentKey_lt_of_rank hRank))
      · rcases ih hRest with hSame | hLess
        · exact Or.inl (by rw [map_cons, map_cons, hLabel, hSame])
        · exact Or.inr fun order otherOrder => (hCons order otherOrder).mpr
            (Or.inr ⟨segmentKey_eq_of_label hLabel, hLess order otherOrder⟩)

lemma RouteList.lt_of_key {routes : List RouteBinding} {start i j : Nat}
    (h : RouteList routes start) {left right : RouteBinding} (hLeft : routes[i]? = some left)
    (hRight : routes[j]? = some right) (hi : start ≤ i) (hj : start ≤ j)
    (hKey : bindingKey left < bindingKey right) : i < j := by
  obtain ⟨a, rfl⟩ := Nat.exists_eq_add_of_le hi
  obtain ⟨b, rfl⟩ := Nat.exists_eq_add_of_le hj
  rw [← getElem?_drop] at hLeft hRight
  obtain ⟨ha, rfl⟩ := List.getElem_of_getElem? hLeft
  obtain ⟨hb, rfl⟩ := List.getElem_of_getElem? hRight
  rcases Nat.lt_trichotomy a b with hLess | rfl | hGreater
  · omega
  · exact absurd hKey (lt_irrefl _)
  · exact absurd hKey (pairwise_iff_getElem.mp h.sorted b a hb ha hGreater).not_gt

lemma TableShape.matchTrie {table : DispatchTable} (hShape : TableShape table) (hPath : path.head? = some slash)
    (h : matchParamTrieForMethod table path method = some index) :
    IsFirst (fun i => Matches table.routes method path i ∧ table.paramStart ≤ i) (some index) := by
  have hSome : table.paramRoutes ≠ [] := by
    intro hNone
    rcases hShape.indexes with ⟨-, -, hTrie⟩ | ⟨hSome, -⟩
    · rw [matchParamTrieForMethod, hTrie] at h
      cases h
    · exact hSome hNone
  obtain ⟨chain, addr, hOk, hTerminals⟩ := hShape.trieBuilt hSome
  -- the walk from the root, which has the empty list of labels
  obtain ⟨w, labels, hw, hAddr, hTerminal, hLabels, hOthers⟩ :
      WalkEnds table.trie addr (method, []) (pathParts path) index := by
    rw [matchParamTrieForMethod] at h
    split at h
    · cases h
    rename_i root hFind
    have hMethod : root.method = method := by simpa using find?_some hFind
    obtain ⟨hRoot, hRootAddr⟩ := hOk.addresses.root root (mem_of_find?_eq_some hFind)
    rw [← hMethod, ← hRootAddr]
    simp only [hPath, ne_eq, not_true_eq_false, if_false] at h
    split at h
    next hLen =>
      rw [getElem?_eq_getElem hRoot] at h
      rw [pathParts, if_pos hLen]
      exact walkEnds_here hRoot h
    next hLen =>
      have hPositive : 1 ≤ path.length := by
        cases path with
        | nil => cases hPath
        | cons => simp
      rw [pathParts_eq_partsFrom hLen]
      exact hOk.walk hRoot hPositive h
  simp only [nil_append] at hAddr hOthers
  have hFirst := hTerminals.first w hw
  rw [hTerminal] at hFirst
  obtain ⟨⟨hStart, -⟩, binding, hAt, hEnds⟩ := hFirst.found index rfl
  obtain ⟨hMethod, hSegs⟩ := Prod.mk.inj (hEnds.trans hAddr)
  constructor
  · intro found hFound
    obtain rfl := Option.some.inj hFound
    refine ⟨⟨binding, hAt, hMethod, ?_⟩, hStart⟩
    rw [patternCouldMatch_eq hPath, partsMatch_eq_labelsMatch, hSegs]
    exact hLabels
  · rintro other ⟨⟨otherBinding, hOtherAt, hOtherMethod, hCould⟩, hOtherStart⟩
    refine ⟨index, rfl, ?_⟩
    rw [patternCouldMatch_eq hPath, partsMatch_eq_labelsMatch] at hCould
    have hOtherEnds :
        KeyedRoute routeAddress table.routes table.paramStart table.routes.length (routeAddress otherBinding) other :=
      ⟨⟨hOtherStart, (List.getElem_of_getElem? hOtherAt).1⟩, otherBinding, hOtherAt, rfl⟩
    obtain ⟨u, hu, hFar⟩ := hTerminals.covered other _ hOtherEnds
    have hBefore := hOthers _ hCould ⟨u, hu, by rw [hFar, routeAddress, hOtherMethod]⟩
    rw [← hSegs] at hBefore
    rcases routeKey_lt_of_before hBefore with hSame | hLess
    · -- both routes end at the node, whose terminal is the first of them
      have hHere : KeyedRoute routeAddress table.routes table.paramStart table.routes.length (addr w) other := by
        rw [hAddr, ← hSegs, hSame, ← hOtherMethod]
        exact hOtherEnds
      obtain ⟨first, hFound, hLe⟩ := hFirst.least other hHere
      obtain rfl := Option.some.inj hFound
      exact hLe
    · exact Nat.le_of_lt (hShape.routes.lt_of_key hAt hOtherAt hStart hOtherStart (hLess _ _))

end Sloppy.Dispatch
