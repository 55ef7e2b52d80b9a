import Sloppy.Core.Arena
import Sloppy.Route.Matching

/-! # The three matchers

`sl_route_pattern_match` checks the pattern it is given, matches, and copies the captured parameters into the arena. On
parsed patterns it and the two matchers of dispatch say what the list of the segments of the path says.
-/

namespace Sloppy.Route

open List

section PublicMatch

def matchParam (kind : RouteParamKind) (segment : List UInt8) : Bool :=
  if segment = [] then false
  else
    match kind with
    | .int => segmentInt segment
    | .uuid => segmentUuid segment
    | .alpha => segmentAlpha segment
    | .float => segmentFloat segment
    | .string => true

/-- The check of one segment, with the parameters counted so far. -/
def validateSegments (paramCount : Nat) : List RouteSegment → Nat → Except StatusCode Nat
  | [], actual => .ok actual
  | .static text :: rest, actual =>
    if text = [] then .error .invalidArgument else validateSegments paramCount rest actual
  | .param name _ :: rest, actual =>
    if !paramNameValid name then .error .invalidArgument
    else if actual + 1 > paramCount ∨ actual + 1 > maxParams then .error .invalidArgument
    else validateSegments paramCount rest (actual + 1)

def validateForMatch (pattern : RoutePattern) : Except StatusCode Nat :=
  if pattern.source.head? ≠ some slash ∨ pattern.source.contains question then .error .invalidArgument
  else if pattern.segments.length > maxSegments ∨ pattern.paramCount > maxParams then
    .error .invalidArgument
  else if pattern.segments = [] then
    if pattern.paramCount ≠ 0 ∨ pattern.source ≠ [slash] then .error .invalidArgument else .ok 0
  else validateSegments pattern.paramCount pattern.segments 0

def matchOneSegment (segment : RouteSegment) (part : List UInt8) (captures : List RouteParam) :
    Option (List RouteParam) :=
  if part = [] then none
  else
    match segment with
    | .static text => if text = part then some captures else none
    | .param name kind => if matchParam kind part then some (captures ++ [⟨name, part, kind⟩]) else none

def matchSegments (path : List UInt8) : List RouteSegment → Nat → List RouteParam → Option (List RouteParam)
  | [], pos, captures =>
    if pos = path.length ∧ path.getLast? ≠ some slash then some captures else none
  | segment :: segments, pos, captures =>
    if pos ≥ path.length then none
    else
      match matchOneSegment segment (segmentAt path pos) captures with
      | none => none
      | some captures => matchSegments path segments (nextPos path pos) captures

def routeParamSize : Nat := 40

def copyMatchParams (arena : Arena) (captures : List RouteParam) : Arena × Except StatusCode Unit :=
  if captures = [] then (arena, .ok ())
  else
    match checkedMulSize captures.length routeParamSize with
    | .error code => (arena, .error code)
    | .ok size => ((arenaAlloc arena size 8).1, (arenaAlloc arena size 8).2.map fun _ => ())

def routePatternMatch (arena : Arena) (pattern : RoutePattern) (path : List UInt8) :
    Arena × Except StatusCode (Option (List RouteParam)) :=
  if path.head? ≠ some slash ∨ path.contains question then (arena, .error .invalidArgument)
  else
    match validateForMatch pattern with
    | .error code => (arena, .error code)
    | .ok _ =>
      if pattern.segments = [] then (arena, .ok (if path.length = 1 then some [] else none))
      else
        match matchSegments path pattern.segments 1 [] with
        | none => (arena, .ok none)
        | some captures =>
          match copyMatchParams arena captures with
          | (arena, .error code) => (arena, .error code)
          | (arena, .ok ()) => (arena, .ok (some captures))

lemma matchParam_eq (kind : RouteParamKind) (seg : List UInt8) :
    matchParam kind seg = segmentMatchesKind kind seg := by
  rw [matchParam.eq_def]
  split
  next hEmpty =>
    rw [hEmpty]
    cases kind <;> rfl
  next hSome =>
    cases kind with
    | string => exact (bne_iff_ne.mpr hSome).symm
    | _ => rfl

variable {segs : List RouteSegment}

lemma matchSegments_eq (path : List UInt8) (pos : Nat) {caps : List RouteParam}
    (hRoom : caps.length + segs.countP RouteSegment.isParam ≤ maxParams) :
    matchSegments path segs pos caps = captureFrom path segs pos caps := by
  induction segs generalizing pos caps with
  | nil =>
    rw [captureFrom, matchSegments]
    by_cases hEnd : pos = path.length <;> by_cases hLast : path.getLast? = some slash <;> simp [hEnd, hLast]
  | cons seg segs ih =>
    rw [captureFrom, matchSegments, matchOneSegment.eq_def]
    split
    · rfl
    by_cases hPart : segmentAt path pos = []
    · simp only [if_pos hPart]
    simp only [if_neg hPart]
    cases seg with
    | static text =>
      by_cases hText : text = segmentAt path pos
      · simp [hText, ih _ hRoom]
      · simp [hText]
    | param name kind =>
      obtain ⟨hMore, hNext⟩ := room_param ⟨name, segmentAt path pos, kind⟩ hRoom
      cases hKind : segmentMatchesKind kind (segmentAt path pos) with
      | false => simp [hKind, matchParam_eq]
      | true => simp [hKind, matchParam_eq, hMore, ih (nextPos path pos) hNext]

def SegmentValid : RouteSegment → Prop
  | .static text => text ≠ []
  | .param name _ => paramNameValid name = true

lemma validateSegments_ok {paramCount : Nat} (hMax : paramCount ≤ maxParams) {actual : Nat}
    (hValid : ∀ seg ∈ segs, SegmentValid seg)
    (hCount : actual + segs.countP RouteSegment.isParam ≤ paramCount) :
    validateSegments paramCount segs actual = .ok (actual + segs.countP RouteSegment.isParam) := by
  induction segs generalizing actual with
  | nil => rfl
  | cons seg segs ih =>
    obtain ⟨hFirst, hRest⟩ := forall_mem_cons.mp hValid
    rw [countP_cons] at hCount ⊢
    cases seg with
    | static =>
      rw [validateSegments, if_neg hFirst, ih hRest (by simpa [RouteSegment.isParam] using hCount)]
      simp [RouteSegment.isParam]
    | param name =>
      have hName : paramNameValid name = true := hFirst
      simp only [RouteSegment.isParam, if_true] at hCount ⊢
      rw [validateSegments, hName, if_neg (by decide), if_neg (by omega), ih hRest (by omega)]
      exact congrArg Except.ok (by omega)

lemma forall₂_valid {parts : List (List UInt8)} (h : List.Forall₂ SegmentGrammar parts segs) :
    ∀ segment ∈ segs, SegmentValid segment := by
  induction h with
  | nil => exact forall_mem_nil _
  | cons hFirst _ ih =>
    refine forall_mem_cons.mpr ⟨?_, ih⟩
    cases hFirst with
    | static hText => exact hText
    | untyped hName => exact hName
    | typed hName => exact hName

variable {pat : RoutePattern} {text : List UInt8}

lemma validateForMatch_ok (h : patternParse text = .ok pat) : ∃ count, validateForMatch pat = .ok count := by
  obtain ⟨hGrammar, hPat⟩ := patternParse_iff.mp h
  obtain ⟨parts, rfl, -, hAll⟩ := hGrammar.parts
  have hSource : ¬((joinParts parts).head? ≠ some slash ∨ (joinParts parts).contains question = true) := by
    rintro (hOther | hContains)
    · exact hOther (joinParts_head parts)
    · exact hGrammar.query (contains_iff_mem.mp hContains)
  have hFew := hGrammar.few
  have hParams := hGrammar.params
  rw [hPat, validateForMatch, if_neg hSource, if_neg (by dsimp only; omega)]
  generalize pat.segments = segs at hAll hParams
  cases hAll with
  | nil => exact ⟨0, by rfl⟩
  | cons hFirst hRest =>
    exact ⟨_, validateSegments_ok hParams (forall₂_valid (.cons hFirst hRest)) (Nat.le_of_eq (Nat.zero_add _))⟩

variable {path : List UInt8}

lemma captureParts_root (hLen : path.length ≠ 1) : captureParts [] (pathParts path) = none := by
  obtain ⟨part, parts, hSplit⟩ := exists_cons_of_ne_nil (splitSlash_ne_nil (path.drop 1))
  rw [pathParts, if_neg hLen, hSplit]
  rfl

lemma captureParts_partsFrom (hPath : path.head? = some slash) (hSome : segs ≠ []) :
    captureParts segs (partsFrom path 1) = captureParts segs (pathParts path) := by
  by_cases hLen : path.length = 1
  · obtain ⟨seg, segs, rfl⟩ := exists_cons_of_ne_nil hSome
    obtain ⟨b, rfl⟩ := List.length_eq_one_iff.mp hLen
    obtain rfl := Option.some.inj hPath
    rw [pathParts, if_pos hLen, captureParts_none, show partsFrom [slash] 1 = [[]] from rfl, captureParts_empty]
  · rw [pathParts_eq_partsFrom hLen]

section

variable (h : patternParse text = .ok pat) (hPath : path.head? = some slash)
include h hPath

lemma captureFrom_parsed (hRoot : pat.segments ≠ []) :
    matchSegments path pat.segments 1 [] = captureParts pat.segments (pathParts path) ∧
      captureFrom path pat.segments 1 [] = captureParts pat.segments (pathParts path) := by
  have hRoom : ([] : List RouteParam).length + pat.segments.countP RouteSegment.isParam ≤ maxParams := by
    rw [length_nil, Nat.zero_add]
    exact (patternParse_iff.mp h).1.params
  rw [matchSegments_eq path 1 hRoom, captureFrom_eq (length_pos_of_rooted hPath) hRoom,
    captureParts_partsFrom hPath hRoot]
  simp

lemma routePatternMatch_eq (hQuery : path.contains question = false) (arena : Arena) :
    routePatternMatch arena pat path =
      match captureParts pat.segments (pathParts path) with
      | none => (arena, .ok none)
      | some caps =>
        ((copyMatchParams arena caps).1, (copyMatchParams arena caps).2.map fun _ => some caps) := by
  obtain ⟨count, hValid⟩ := validateForMatch_ok h
  have hRooted : ¬(path.head? ≠ some slash ∨ path.contains question = true) := by
    rintro (hOther | hContains)
    · exact hOther hPath
    · rw [hQuery] at hContains
      cases hContains
  rw [routePatternMatch, if_neg hRooted, hValid]
  by_cases hRoot : pat.segments = []
  · rw [if_pos hRoot, hRoot]
    by_cases hLength : path.length = 1
    · rw [if_pos hLength, pathParts, if_pos hLength]
      rfl
    · rw [if_neg hLength, captureParts_root hLength]
  · rw [if_neg hRoot, (captureFrom_parsed h hPath hRoot).1]
    cases captureParts pat.segments (pathParts path) with
    | none => rfl
    | some caps =>
      dsimp only
      rcases copyMatchParams arena caps with ⟨after, _ | _⟩ <;> rfl

lemma routePatternMatch_cases (hQuery : path.contains question = false) (arena : Arena) :
    (patternCouldMatch pat path = false ∧ routePatternMatch arena pat path = (arena, .ok none)) ∨
    (patternCouldMatch pat path = true ∧ ∃ caps, ((copyMatchParams arena caps).2 = .ok () ∧
        routePatternMatch arena pat path = ((copyMatchParams arena caps).1, .ok (some caps))) ∨
      ∃ code, (copyMatchParams arena caps).2 = .error code ∧
        routePatternMatch arena pat path = ((copyMatchParams arena caps).1, .error code)) := by
  rw [routePatternMatch_eq h hPath hQuery, patternCouldMatch_eq hPath, ← captureParts_isSome]
  cases captureParts pat.segments (pathParts path) with
  | none => exact Or.inl ⟨rfl, rfl⟩
  | some caps =>
    refine Or.inr ⟨rfl, caps, ?_⟩
    dsimp only
    cases (copyMatchParams arena caps).2 with
    | ok => exact Or.inl ⟨rfl, rfl⟩
    | error code => exact Or.inr ⟨code, rfl, rfl⟩

end

end PublicMatch

/-- The path has as many segments as the pattern, none is empty, and each is what the pattern has there. -/
def SegmentsMatch (segments : List RouteSegment) (parts : List (List UInt8)) : Prop :=
  List.Forall₂ (fun segment part => part ≠ [] ∧ segment.matches part = true) segments parts

lemma partsMatch_iff (segs : List RouteSegment) (parts : List (List UInt8)) :
    partsMatch segs parts = true ↔ SegmentsMatch segs parts := by
  unfold SegmentsMatch
  induction segs generalizing parts with
  | nil =>
    cases parts with
    | nil => exact ⟨fun _ => .nil, fun _ => rfl⟩
    | cons => exact ⟨nofun, nofun⟩
  | cons seg segs ih =>
    cases parts with
    | nil => exact ⟨nofun, nofun⟩
    | cons => simp [partsMatch, ih, and_assoc]

def answer {α : Type} (captured : Option (List RouteParam)) (copy : List RouteParam → Except StatusCode α) :
    Except StatusCode (Option (List RouteParam)) :=
  match captured with
  | none => .ok none
  | some captures => (copy captures).map fun _ => some captures

lemma answer_some {α : Type} {captured : Option (List RouteParam)} {copy : List RouteParam → Except StatusCode α}
    {caps : List RouteParam} (h : answer captured copy = .ok (some caps)) : captured = some caps := by
  cases captured with
  | none => cases h
  | some others =>
    rw [answer] at h
    cases hCopy : copy others with
    | error =>
      rw [hCopy] at h
      cases h
    | ok =>
      rw [hCopy] at h
      cases h
      rfl

lemma routePatternMatch_answer {text : List UInt8} {pat : RoutePattern} (h : patternParse text = .ok pat)
    {path : List UInt8} (hPath : path.head? = some slash) (hQuery : path.contains question = false) (arena : Arena) :
    (routePatternMatch arena pat path).2 =
      answer (captureParts pat.segments (pathParts path)) fun caps => (copyMatchParams arena caps).2 := by
  rw [routePatternMatch_eq h hPath hQuery]
  cases captureParts pat.segments (pathParts path) <;> rfl

lemma matchTrustedPattern_answer {text : List UInt8} {pat : RoutePattern} (h : patternParse text = .ok pat)
    {path : List UInt8} (hPath : path.head? = some slash) (copy : CopyParams) :
    matchTrustedPattern copy pat path =
      answer (captureParts pat.segments (pathParts path)) (copyRouteParams copy) := by
  have hBound := (patternParse_ok h).bound
  have hGuard : ¬(pat.paramCount > maxParams ∨ path.head? ≠ some slash) := by
    rintro (hMany | hOther)
    · omega
    · exact hOther hPath
  rw [matchTrustedPattern, if_neg hGuard]
  by_cases hRoot : pat.segments = []
  · rw [if_pos hRoot, hRoot]
    by_cases hLength : path.length = 1
    · rw [if_pos hLength, pathParts, if_pos hLength]
      rfl
    · rw [if_neg hLength, captureParts_root hLength]
      rfl
  · rw [if_neg hRoot, (captureFrom_parsed h hPath hRoot).2]
    cases captureParts pat.segments (pathParts path) with
    | none => rfl
    | some caps =>
      simp only [answer]
      rcases copyRouteParams copy caps with _ | _ <;> rfl

/-- On a parsed pattern and a path without a query the matchers agree with the segments of the path, and with
each other on the parameters; only the copy of the parameters into an arena can fail. -/
theorem matchers_agree {text : List UInt8} {pattern : RoutePattern} (h : patternParse text = .ok pattern)
    {path : List UInt8} (hPath : path.head? = some slash) (hQuery : path.contains question = false) (arena : Arena)
    (copy : CopyParams) :
    let captured := captureParts pattern.segments (pathParts path)
    (patternCouldMatch pattern path = true ↔ SegmentsMatch pattern.segments (pathParts path)) ∧
      captured.isSome = patternCouldMatch pattern path ∧
      (routePatternMatch arena pattern path).2 = answer captured (fun captures => (copyMatchParams arena captures).2) ∧
      matchTrustedPattern copy pattern path = answer captured (copyRouteParams copy) := by
  refine ⟨?_, ?_, routePatternMatch_answer h hPath hQuery arena, matchTrustedPattern_answer h hPath copy⟩
  · rw [patternCouldMatch_eq hPath, partsMatch_iff]
  · rw [captureParts_isSome, patternCouldMatch_eq hPath]

theorem matchers_agree_user :
    matchTrustedPattern (fun _ => .ok ())
        ⟨ascii "/u/\x7bid:int\x7d".toList, [.static (ascii ['u']), .param (ascii ['i', 'd']) .int], 1⟩
        (ascii "/u/42".toList) = .ok (some [⟨ascii ['i', 'd'], ascii ['4', '2'], .int⟩]) := by
  have hParsed : patternParse (ascii "/u/\x7bid:int\x7d".toList) = .ok
      ⟨ascii "/u/\x7bid:int\x7d".toList, [.static (ascii ['u']), .param (ascii ['i', 'd']) .int], 1⟩ := by
    decide +kernel
  have hPath : (ascii "/u/42".toList).head? = some slash := by decide
  obtain ⟨-, -, -, hTrusted⟩ := matchers_agree hParsed hPath (by decide) ⟨0, 64, 0, 0, 0⟩ (fun _ => .ok ())
  rw [hTrusted]
  decide +kernel

end Sloppy.Route
