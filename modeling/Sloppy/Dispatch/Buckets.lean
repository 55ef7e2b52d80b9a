import Sloppy.Dispatch.Hashing

/-! # The candidate buckets

A bucket holds, in table order, the parameter routes of one method with one first static segment; those that start with
a parameter share the bucket of the empty segment. The scan over two buckets merged finds the first that matches.
-/

namespace Sloppy.Dispatch

open Route Lib List

section

def bucketKey (bucket : RouteCandidateBucket) : HttpMethod × List UInt8 :=
  (bucket.method, bucket.firstStaticSegment)

def candidateKey (binding : RouteBinding) : HttpMethod × List UInt8 :=
  (binding.method, firstStaticSegment binding)

variable {method : HttpMethod} {seg : List UInt8}

lemma bucketHolds_iff {bucket : RouteCandidateBucket} :
    bucketHolds method seg bucket = true ↔ bucketKey bucket = (method, seg) := by
  simp [bucketHolds, bucketKey]

lemma openBuckets_spec (rest : List RouteBinding) (buckets : List RouteCandidateBucket)
    (hKeys : (buckets.map bucketKey).Nodup) (hEmpty : ∀ bucket ∈ buckets, bucket.routes = []) :
    ((openBuckets rest buckets).map bucketKey).Nodup ∧ (∀ bucket ∈ openBuckets rest buckets, bucket.routes = []) ∧
      (∀ bucket ∈ buckets, bucketKey bucket ∈ (openBuckets rest buckets).map bucketKey) ∧
      ∀ binding ∈ rest, candidateKey binding ∈ (openBuckets rest buckets).map bucketKey := by
  induction rest generalizing buckets with
  | nil =>
    exact ⟨hKeys, hEmpty, fun bucket hBucket => mem_map_of_mem hBucket, forall_mem_nil _⟩
  | cons binding rest ih =>
    rw [openBuckets]
    split
    next hAny =>
      obtain ⟨hKeys', hEmpty', hOld, hNew⟩ := ih _ hKeys hEmpty
      refine ⟨hKeys', hEmpty', hOld, forall_mem_cons.mpr ⟨?_, hNew⟩⟩
      obtain ⟨bucket, hBucket, hHolds⟩ := any_eq_true.mp hAny
      have hMem := hOld bucket hBucket
      rwa [bucketHolds_iff.mp hHolds] at hMem
    next hNone =>
      have hFresh : candidateKey binding ∉ buckets.map bucketKey := by
        intro hMem
        obtain ⟨bucket, hBucket, hKey⟩ := mem_map.mp hMem
        exact hNone (any_eq_true.mpr ⟨bucket, hBucket, bucketHolds_iff.mpr hKey⟩)
      have hKeys₁ : ((buckets ++ [RouteCandidateBucket.mk binding.method
          (firstStaticSegment binding) []]).map bucketKey).Nodup := by
        rw [map_append, map_singleton, ← concat_eq_append]
        exact hKeys.concat hFresh
      have hEmpty₁ : ∀ bucket ∈ buckets ++ [⟨binding.method, firstStaticSegment binding, []⟩], bucket.routes = [] :=
        forall_mem_append.mpr ⟨hEmpty, forall_mem_singleton.mpr rfl⟩
      obtain ⟨hKeys', hEmpty', hOld, hNew⟩ := ih _ hKeys₁ hEmpty₁
      exact ⟨hKeys', hEmpty', fun bucket hBucket => hOld bucket (mem_append_left _ hBucket), forall_mem_cons.mpr
          ⟨hOld _ (mem_append_right _ (mem_singleton.mpr rfl)), hNew⟩⟩

/-- The indices from `start` on of the routes with a key. -/
def keyedIndices (rest : List RouteBinding) (start : Nat) (key : HttpMethod × List UInt8) : List Nat :=
  ((rest.zipIdx start).filter fun item => candidateKey item.1 = key).map Prod.snd

variable {rest : List RouteBinding} {start : Nat} {key : HttpMethod × List UInt8}

lemma mem_keyedIndices {index : Nat} : index ∈ keyedIndices rest start key ↔
    start ≤ index ∧ ∃ binding, rest[index - start]? = some binding ∧ candidateKey binding = key := by
  simp [keyedIndices, mk_mem_zipIdx_iff_le_and_getElem?_sub, and_assoc]

lemma keyedIndices_increasing : (keyedIndices rest start key).Pairwise (· < ·) :=
  pairwise_map.mpr ((zipIdx_increasing rest start).filter _)

lemma keyedIndices_cons (binding : RouteBinding) : keyedIndices (binding :: rest) start key =
    if candidateKey binding = key then start :: keyedIndices rest (start + 1) key
    else keyedIndices rest (start + 1) key := by
  by_cases hKey : candidateKey binding = key <;> simp [keyedIndices, hKey]

variable {buckets : List RouteCandidateBucket}

lemma modify_eq_map {place : Nat} (hKeys : (buckets.map bucketKey).Nodup)
    (h : buckets.findIdx? (bucketHolds method seg) = some place) (f : RouteCandidateBucket → RouteCandidateBucket) :
    buckets.modify place f =
      buckets.map fun bucket => if bucketKey bucket = (method, seg) then f bucket else bucket := by
  induction buckets generalizing place with
  | nil => cases h
  | cons bucket buckets ih =>
    obtain ⟨hFresh, hKeys⟩ := nodup_cons.mp hKeys
    rw [findIdx?_cons] at h
    split at h
    next hHolds =>
      cases h
      have hKey := bucketHolds_iff.mp hHolds
      rw [modify_zero_cons, map_cons, if_pos hKey, map_congr_left (g := id), map_id]
      intro other hOther
      refine if_neg fun hSame => hFresh ?_
      rw [hKey, ← hSame]
      exact mem_map_of_mem hOther
    next hOther =>
      obtain ⟨later, hLater, rfl⟩ := Option.map_eq_some_iff.mp h
      rw [modify_succ_cons, map_cons, if_neg (mt bucketHolds_iff.mpr hOther), ih hKeys hLater]

lemma fillBuckets_eq {index : Nat} {filled : List RouteCandidateBucket} (hKeys : (buckets.map bucketKey).Nodup)
    (h : fillBuckets rest index buckets = .ok filled) : filled = buckets.map fun bucket =>
      { bucket with routes := bucket.routes ++ keyedIndices rest index (bucketKey bucket) } := by
  induction rest generalizing index buckets with
  | nil =>
    cases h
    simp [keyedIndices]
  | cons binding rest ih =>
    rw [fillBuckets] at h
    split at h
    · cases h
    next hPlace =>
      rw [modify_eq_map hKeys hPlace, ← candidateKey] at h
      rw [ih ?_ h, map_map]
      · refine map_congr_left fun bucket _ => ?_
        rw [Function.comp_apply, keyedIndices_cons]
        by_cases hKey : candidateKey binding = bucketKey bucket
        · rw [if_pos hKey, if_pos hKey.symm, append_cons _ index (keyedIndices _ _ _)]
          rfl
        · rw [if_neg hKey, if_neg (Ne.symm hKey)]
      · rw [map_map, map_congr_left (g := bucketKey)]
        · exact hKeys
        · intro bucket _
          rw [Function.comp_apply]
          split <;> rfl

lemma bucketEntries_eq (buckets : List RouteCandidateBucket) : bucketEntries buckets =
    hashedEntries (fun _ => true) (fun bucket => exactHash bucket.method bucket.firstStaticSegment) buckets := by
  simp [bucketEntries, hashedEntries]

lemma bucketMatches_eq (method : HttpMethod) (seg : List UInt8) (index : Nat) :
    bucketMatches buckets method seg index = buckets[index]?.elim false (bucketHolds method seg) := by
  rw [bucketMatches]
  cases buckets[index]? <;> rfl

variable {count : Nat} {slots : List (Option Nat)}

lemma lookup_bucket (hSome : buckets ≠ [])
    (h : insertSlots (bucketEntries buckets) (List.replicate count none) = .ok slots) (method : HttpMethod)
    (seg : List UInt8) :
    powerOfTwo slots.length = true ∧ IsFirst (fun index => ∃ bucket, buckets[index]? = some bucket ∧
          bucketKey bucket = (method, seg))
        (Probing.lookup slots (probeSlot slots.length (exactHash method seg)) (bucketMatches buckets method seg)) := by
  obtain ⟨first, hMem⟩ := exists_mem_of_ne_nil _ hSome
  obtain ⟨hPower, hFirst⟩ := insertSlots_lookup (bucketEntries_eq buckets) ⟨first, hMem, rfl⟩ h
    (bucketMatches_eq method seg) (exactHash method seg) fun bucket hHolds => by
      obtain ⟨rfl, rfl⟩ := Prod.mk.inj (bucketHolds_iff.mp hHolds)
      rfl
  refine ⟨hPower, hFirst.congr fun index => exists_congr fun bucket => and_congr_right fun _ => ?_⟩
  rw [and_iff_right rfl, bucketHolds_iff]

variable {table : DispatchTable}

lemma findParamBucket_none (h : table.paramBuckets = []) : findParamBucket table method seg = none := by
  rw [findParamBucket, h]
  split
  · split
    · rfl
    · rfl
  · rfl

def candidates (table : DispatchTable) (method : HttpMethod) (segment : List UInt8) : List Nat :=
  ((findParamBucket table method segment).map (·.routes)).getD []

lemma buildParamIndex_spec (h : buildParamIndex rest start = .ok (buckets, slots)) :
    (∀ bucket ∈ buckets, bucket.routes = keyedIndices rest start (bucketKey bucket)) ∧
      (∀ binding ∈ rest, candidateKey binding ∈ buckets.map bucketKey) ∧
      ∃ count, insertSlots (bucketEntries buckets) (List.replicate count none) = .ok slots := by
  obtain ⟨hKeys, hEmpty, -, hCovered⟩ := openBuckets_spec rest [] nodup_nil (by simp)
  rw [buildParamIndex] at h
  split at h
  · cases h
  rename_i hFilled
  split at h
  · cases h
  rename_i count hCount
  split at h
  · cases h
  rename_i hInserted
  obtain ⟨rfl, rfl⟩ := h
  refine ⟨?_, ?_, count, hInserted⟩
  · rw [fillBuckets_eq hKeys hFilled]
    refine forall_mem_map.mpr fun bucket hBucket => ?_
    rw [hEmpty bucket hBucket]
    rfl
  · rw [fillBuckets_eq hKeys hFilled, map_map]
    exact hCovered

lemma findParamBucket_spec (hSome : table.paramBuckets ≠ [])
    (h : insertSlots (bucketEntries table.paramBuckets) (List.replicate count none) =
      .ok table.paramBucketSlots) (method : HttpMethod) (seg : List UInt8) :
    (∀ bucket, findParamBucket table method seg = some bucket →
        bucket ∈ table.paramBuckets ∧ bucketKey bucket = (method, seg)) ∧
      (findParamBucket table method seg = none → (method, seg) ∉ table.paramBuckets.map bucketKey) := by
  obtain ⟨hPower, hFirst⟩ := lookup_bucket hSome h method seg
  rw [findParamBucket, if_pos hPower]
  constructor
  · intro bucket hBucket
    split at hBucket
    · cases hBucket
    rename_i index hIndex
    obtain ⟨found, hAt, hKey⟩ := hFirst.found index hIndex
    rw [hAt] at hBucket
    obtain rfl := Option.some.inj hBucket
    exact ⟨mem_of_getElem? hAt, hKey⟩
  · intro hNone hMem
    obtain ⟨bucket, hBucket, hKey⟩ := mem_map.mp hMem
    obtain ⟨place, hAt⟩ := mem_iff_getElem?.mp hBucket
    obtain ⟨index, hIndex, -⟩ := hFirst.least place ⟨bucket, hAt, hKey⟩
    obtain ⟨found, hFound, -⟩ := hFirst.found index hIndex
    simp only [hIndex, hFound] at hNone
    cases hNone

lemma TableShape.candidates_spec (hShape : TableShape table) (method : HttpMethod) (seg : List UInt8) :
    (candidates table method seg).Pairwise (· < ·) ∧
      ∀ index, index ∈ candidates table method seg ↔ table.paramStart ≤ index ∧
        ∃ binding, table.routes[index]? = some binding ∧ candidateKey binding = (method, seg) := by
  rcases hShape.indexes with ⟨hNone, hBuckets, -⟩ | ⟨hSome, hIndex, -⟩
  · rw [candidates, findParamBucket_none hBuckets]
    refine ⟨.nil, fun index => ⟨fun h => absurd h not_mem_nil, ?_⟩⟩
    rintro ⟨hStart, binding, hAt, -⟩
    have hLen := drop_eq_nil_iff.mp hNone
    have := (List.getElem_of_getElem? hAt).1
    omega
  · obtain ⟨hRoutes, hCovered, count, hSlots⟩ := buildParamIndex_spec hIndex
    have hBuckets : table.paramBuckets ≠ [] := by
      intro hEmpty
      obtain ⟨binding, rest, hParams⟩ := exists_cons_of_ne_nil hSome
      have hMem := hCovered binding (by rw [hParams]; simp)
      rw [hEmpty] at hMem
      cases hMem
    obtain ⟨hFound, hMissing⟩ := findParamBucket_spec hBuckets hSlots method seg
    rw [candidates]
    cases hBucket : findParamBucket table method seg with
    | none =>
      refine ⟨.nil, fun index => ⟨fun h => absurd h not_mem_nil, ?_⟩⟩
      rintro ⟨hStart, binding, hAt, hKey⟩
      refine absurd ?_ (hMissing hBucket)
      rw [← hKey]
      refine hCovered binding (mem_iff_getElem?.mpr ⟨index - table.paramStart, ?_⟩)
      rw [DispatchTable.paramRoutes, getElem?_drop, Nat.add_sub_cancel' hStart, hAt]
    | some bucket =>
      obtain ⟨hMem, hKey⟩ := hFound bucket hBucket
      rw [Option.map_some, Option.getD_some, hRoutes bucket hMem, hKey]
      refine ⟨keyedIndices_increasing, fun index => mem_keyedIndices.trans (and_congr_right fun hStart => ?_)⟩
      rw [DispatchTable.paramRoutes, getElem?_drop, Nat.add_sub_cancel' hStart]

end

variable {first generic : List Nat}

lemma mergeFrom_eq_merge {fuel : Nat} (hFuel : first.length + generic.length ≤ fuel) :
    mergeFrom fuel first generic = first.merge generic fun left right => decide (left ≤ right) := by
  induction fuel generalizing first generic with
  | zero =>
    rw [eq_nil_of_length_eq_zero (l := first) (by omega)]
    simp [mergeFrom]
  | succ fuel ih =>
    cases first with
    | nil => simp [mergeFrom]
    | cons =>
      cases generic with
      | nil => simp [mergeFrom]
      | cons =>
        simp only [length_cons] at hFuel
        rw [mergeFrom, cons_merge_cons]
        simp only [decide_eq_true_eq]
        split
        · rw [ih (by rw [length_cons]; omega)]
        · rw [ih (by rw [length_cons]; omega)]

variable {index : Nat}

lemma mem_mergeCandidates : index ∈ mergeCandidates first generic ↔ index ∈ first ∨ index ∈ generic := by
  rw [mergeCandidates, mergeFrom_eq_merge (Nat.le_refl _), mem_merge]

lemma mergeCandidates_increasing (hFirst : first.Pairwise (· < ·)) (hGeneric : generic.Pairwise (· < ·)) :
    (mergeCandidates first generic).Pairwise (· ≤ ·) := by
  have hMerged : (first.merge generic fun left right => decide (left ≤ right)).Pairwise
      fun left right => decide (left ≤ right) = true := by
    refine pairwise_merge ?_ ?_ first generic ?_ ?_
    · intro left middle right hLeft hRight
      exact decide_eq_true ((of_decide_eq_true hLeft).trans (of_decide_eq_true hRight))
    · intro left right
      simp only [Bool.or_eq_true, decide_eq_true_eq]
      omega
    · exact hFirst.imp fun h => decide_eq_true (Nat.le_of_lt h)
    · exact hGeneric.imp fun h => decide_eq_true (Nat.le_of_lt h)
  rw [mergeCandidates, mergeFrom_eq_merge (Nat.le_refl _)]
  exact hMerged.imp of_decide_eq_true

variable {path : List UInt8}

lemma firstPathSegment_eq {part : List UInt8} {parts : List (List UInt8)} (hPath : path.head? = some slash)
    (h : pathParts path = part :: parts) : firstPathSegment path = part := by
  have hLen : path.length ≠ 1 := by
    intro hOne
    rw [pathParts, if_pos hOne] at h
    cases h
  have hLong : ¬(path.length ≤ 1 ∨ path.head? ≠ some slash) := by
    rintro (hShort | hOther)
    · cases path with
      | nil => cases hPath
      | cons => simp at hShort hLen; exact hLen hShort
    · exact hOther hPath
  rw [pathParts, if_neg hLen, splitSlash_step] at h
  rw [firstPathSegment, if_neg hLong, segmentAt]
  split at h
  next hAll =>
    rw [untilSlash_eq_self hAll]
    exact (List.cons.inj h).1
  · exact (List.cons.inj h).1

/-- The candidates for a path: the bucket of its first segment merged with the generic bucket. -/
def pathCandidates (table : DispatchTable) (method : HttpMethod) (path : List UInt8) : List Nat :=
  mergeCandidates (if firstPathSegment path = [] then [] else candidates table method (firstPathSegment path))
    (candidates table method [])

variable {table : DispatchTable} {method : HttpMethod}

lemma TableShape.mem_pathCandidates (hShape : TableShape table) (hPath : path.head? = some slash)
    (hMatch : Matches table.routes method path index) (hStart : table.paramStart ≤ index) :
    index ∈ pathCandidates table method path := by
  obtain ⟨binding, hAt, rfl, hCould⟩ := hMatch
  rw [patternCouldMatch_eq hPath] at hCould
  obtain ⟨text, hParsed⟩ := hShape.routes.parsed binding (mem_of_getElem? hAt)
  have hParams : ¬bindingExactStatic binding = true := fun hExact =>
    absurd ((hShape.routes.exactFirst index binding hAt).mp hExact) (by omega)
  rw [pathCandidates, mem_mergeCandidates]
  cases hSegments : binding.pattern.segments with
  | nil =>
    have hCount := hParsed.count
    rw [hSegments] at hCount
    exact absurd (beq_iff_eq.mpr hCount) hParams
  | cons seg =>
    rw [hSegments] at hCould
    obtain ⟨part, rest, hParts, hPart, hFirst, -⟩ := partsMatch_cons hCould
    have hSeg := firstPathSegment_eq hPath hParts
    cases seg with
    | static literal =>
      left
      have hText : literal = part := beq_iff_eq.mp hFirst
      rw [hSeg, if_neg hPart, (hShape.candidates_spec _ _).2]
      exact ⟨hStart, binding, hAt, by rw [candidateKey, firstStaticSegment, hSegments, hText]⟩
    | param =>
      right
      rw [(hShape.candidates_spec _ _).2]
      exact ⟨hStart, binding, hAt, by rw [candidateKey, firstStaticSegment, hSegments]⟩

lemma TableShape.pathCandidates_increasing (hShape : TableShape table) (method : HttpMethod) (path : List UInt8) :
    (pathCandidates table method path).Pairwise (· ≤ ·) := by
  refine mergeCandidates_increasing ?_ (hShape.candidates_spec _ _).1
  split
  · exact .nil
  · exact (hShape.candidates_spec _ _).1

lemma TableShape.route_of_pathCandidate (hShape : TableShape table) (h : index ∈ pathCandidates table method path) :
    table.paramStart ≤ index ∧ ∃ binding, table.routes[index]? = some binding ∧ binding.method = method := by
  have hCand : ∃ seg, index ∈ candidates table method seg := by
    rcases mem_mergeCandidates.mp h with hFirst | hGeneric
    · split at hFirst
      · cases hFirst
      · exact ⟨_, hFirst⟩
    · exact ⟨_, hGeneric⟩
  obtain ⟨seg, hIn⟩ := hCand
  obtain ⟨hStart, binding, hAt, hKey⟩ := ((hShape.candidates_spec method seg).2 index).mp hIn
  exact ⟨hStart, binding, hAt, (Prod.mk.inj hKey).1⟩

def captureResult (copy : Option CopyParams) (pattern : RoutePattern) (path : List UInt8) :
    Except StatusCode (Option (List RouteParam)) :=
  match copy with
  | none => .ok none
  | some copy =>
    match copyRouteParams copy (capturedParams pattern path) with
    | .error code => .error code
    | .ok () => .ok (some (capturedParams pattern path))

def selectResult (routes : List RouteBinding) (copy : Option CopyParams) (path : List UInt8) :
    Option Nat → Except StatusCode (Option (Nat × Option (List RouteParam)))
  | none => .ok none
  | some index =>
    match routes[index]? with
    | none => .error .internal
    | some binding =>
      match captureResult copy binding.pattern path with
      | .error code => .error code
      | .ok params => .ok (some (index, params))

lemma matchCandidate_eq (copy : Option CopyParams) {text : List UInt8} {pat : RoutePattern}
    (hParsed : ParsedFrom text pat) (hPath : path.head? = some slash) :
    matchCandidate copy pat path =
      if patternCouldMatch pat path then
        match captureResult copy pat path with
        | .error code => .error code
        | .ok params => .ok (some params)
      else .ok none := by
  cases copy with
  | none =>
    rw [matchCandidate]
    split <;> rfl
  | some copy =>
    rw [matchCandidate, matchTrustedPattern_eq copy hPath hParsed.count hParsed.bound, captureResult]
    by_cases hMatch : patternCouldMatch pat path = true
    · simp only [hMatch, if_true]
      cases copyRouteParams copy (capturedParams pat path) <;> rfl
    · simp only [hMatch, Bool.false_eq_true, if_false]

def couldMatchAt (routes : List RouteBinding) (path : List UInt8) (index : Nat) : Bool :=
  match routes[index]? with
  | none => false
  | some binding => patternCouldMatch binding.pattern path

section

variable (hShape : TableShape table) (copy : Option CopyParams) (hPath : path.head? = some slash)
include hShape hPath

lemma scanCandidates_eq (indices : List Nat) (hIndices : ∀ index ∈ indices, index < table.routes.length) :
    scanCandidates table copy path indices =
      selectResult table.routes copy path (indices.find? (couldMatchAt table.routes path)) := by
  induction indices with
  | nil => rfl
  | cons index rest ih =>
    obtain ⟨hIndex, hRest⟩ := forall_mem_cons.mp hIndices
    have hAt := getElem?_eq_getElem hIndex
    have hMem := getElem_mem hIndex
    obtain ⟨text, hParsed⟩ := hShape.routes.parsed _ hMem
    have hValid := hShape.routes.valid _ hMem
    simp only [scanCandidates, hAt, hValid, Bool.not_true, Bool.false_eq_true, if_false,
      matchCandidate_eq copy hParsed hPath, find?_cons, couldMatchAt]
    cases hMatch : patternCouldMatch (table.routes[index]).pattern path with
    | false =>
      exact ih hRest
    | true =>
      simp only [if_true, selectResult, hAt]
      cases captureResult copy (table.routes[index]).pattern path <;> rfl

lemma TableShape.scan (method : HttpMethod) :
    ∃ result, IsFirst (fun index => Matches table.routes method path index ∧ table.paramStart ≤ index) result ∧
      scanCandidates table copy path (pathCandidates table method path) =
        selectResult table.routes copy path result := by
  refine ⟨_, ?_, scanCandidates_eq hShape copy hPath _ fun index hIndex => ?_⟩
  · refine isFirst_find (hShape.pathCandidates_increasing method path) fun index => ?_
    constructor
    · rintro ⟨hMatch, hStart⟩
      refine ⟨hShape.mem_pathCandidates hPath hMatch hStart, ?_⟩
      obtain ⟨binding, hAt, -, hCould⟩ := hMatch
      rw [couldMatchAt, hAt]
      exact hCould
    · rintro ⟨hMem, hCould⟩
      obtain ⟨hStart, binding, hAt, hMethod⟩ := hShape.route_of_pathCandidate hMem
      rw [couldMatchAt, hAt] at hCould
      exact ⟨⟨binding, hAt, hMethod, hCould⟩, hStart⟩
  · obtain ⟨-, binding, hAt, -⟩ := hShape.route_of_pathCandidate hIndex
    exact (List.getElem_of_getElem? hAt).1

end

end Sloppy.Dispatch
