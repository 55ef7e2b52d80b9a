import Sloppy.Codec.Percent
import Sloppy.Core.Room
import Sloppy.Dispatch.Allow
import Sloppy.Http.Wire

/-! # URLs of named routes

`sl_http_dispatch_generate_url`: the segments of the named route with the encoded parameters in their places,
checked against the pattern by the public matcher.
-/

namespace Sloppy.Dispatch

open Route Lib Growing List
open Http (appendStr written appendStr_appends)
open Percent (encode decode)

def findUrlParam (params : List RouteParam) (name : List UInt8) : Option RouteParam :=
  params.find? fun param => param.name = name

variable (pattern : RoutePattern)

def patternHasParam (name : List UInt8) : Bool := nameDuplicate pattern.segments name

def urlParamsValid (params : List RouteParam) : Bool :=
  params.length == pattern.paramCount &&
    params.all (fun param => param.name != [] && patternHasParam pattern param.name) &&
    decide (params.map RouteParam.name).Nodup

def findNamedBinding (routes : List RouteBinding) (plan : List PlanRoute) (name : List UInt8) : Option RouteBinding :=
  if name = [] then none
  else routes.find? fun binding => (plan[binding.routeIndex]?.map PlanRoute.name) = some name

def urlAppendEncoded (value : List UInt8) : Action BuilderState StatusCode Unit :=
  fun state => byteBuilderAppendAll state ((encode value).map fun b => [b])

def appendSegment (params : List RouteParam) (segment : RouteSegment) : Action BuilderState StatusCode Unit := do
  appendStr [slash]
  match segment with
  | .static text => appendStr text
  | .param name _ =>
    match findUrlParam params name with
    | none => .fail .invalidArgument
    | some param => if param.value = [] then .fail .invalidArgument else urlAppendEncoded param.value

def appendSegments (params : List RouteParam) : List RouteSegment → Action BuilderState StatusCode Unit
  | [] => pure ()
  | segment :: segments => do
    appendSegment params segment
    appendSegments params segments

def maxTargetLength : Nat := 2048

def appendPattern (params : List RouteParam) : Action BuilderState StatusCode Unit :=
  if pattern.segments = [] then appendStr [slash] else appendSegments params pattern.segments

def buildUrl (params : List RouteParam) : Action Arena StatusCode (List UInt8) := fun arena =>
  match byteBuilderInitArena arena (pattern.source.length + 16) maxTargetLength with
  | (arena, .error code) => (arena, .error code)
  | (arena, .ok builder) =>
    match appendPattern pattern params ⟨builder, arena⟩ with
    | (state, .error code) => (state.arena, .error code)
    | (state, .ok ()) =>
      match routePatternMatch state.arena pattern state.builder.content with
      | (matched, outcome) =>
        match arenaResetTo matched (arenaMark state.arena) with
        | (reset, .error code) => (reset, .error code)
        | (reset, .ok ()) =>
          match outcome with
          | .error code => (reset, .error code)
          | .ok none => (reset, .error .invalidArgument)
          | .ok (some _) => (reset, .ok state.builder.content)

structure GeneratedUrl where
  arena : Arena
  status : Except StatusCode Unit
  url : List UInt8

/-- The verdict on the table itself is an input. -/
def generateUrl (tableStatus : Except StatusCode Unit) (routes : List RouteBinding) (plan : List PlanRoute)
    (arena : Arena) (name : List UInt8) (params : List RouteParam) : GeneratedUrl :=
  match tableStatus with
  | .error code => ⟨arena, .error code, []⟩
  | .ok () =>
    match findNamedBinding routes plan name with
    | none => ⟨arena, .error .outOfRange, []⟩
    | some binding =>
      if !urlParamsValid binding.pattern params then ⟨arena, .error .invalidArgument, []⟩
      else
        match buildUrl binding.pattern params arena with
        | (after, .ok url) => ⟨after, .ok (), url⟩
        | (after, .error code) =>
          match arenaResetTo after (arenaMark arena) with
          | (reset, .error other) => ⟨reset, .error other, []⟩
          | (reset, .ok ()) => ⟨reset, .error code, []⟩

section Building

structure Within (start : Arena) (state : BuilderState) : Prop where
  since : Since start state.arena
  limit : state.builder.maxCapacity = maxTargetLength
  capacity : state.builder.capacity ≤ maxTargetLength
  content : state.builder.content.length ≤ maxTargetLength

lemma doubleUntil_le {required maxCap fuel cand : Nat} (h : cand ≤ maxCap) :
    doubleUntil required maxCap fuel cand ≤ maxCap := by
  induction fuel generalizing cand with
  | zero => exact h
  | succ fuel ih =>
    rw [doubleUntil]
    split
    · split
      · exact Nat.le_refl _
      · split
        · exact Nat.le_refl _
        · exact ih (by omega)
    · exact h

lemma byteBuilderNextCapacity_le {builder : Growing.ByteBuilder} {required cap : Nat}
    (h : byteBuilderNextCapacity builder required = .ok cap) :
    required ≤ cap ∧ cap ≤ builder.maxCapacity := by
  rw [byteBuilderNextCapacity] at h
  split at h
  · cases h
  dsimp only at h
  have hStart : (if (if builder.capacity = 0 then minGrowCapacity else builder.capacity) > builder.maxCapacity then
      builder.maxCapacity else if builder.capacity = 0 then minGrowCapacity else builder.capacity) ≤
      builder.maxCapacity := by
    generalize (if builder.capacity = 0 then minGrowCapacity else builder.capacity) = start
    split <;> omega
  generalize (if (if builder.capacity = 0 then minGrowCapacity else builder.capacity) > builder.maxCapacity then
    builder.maxCapacity else if builder.capacity = 0 then minGrowCapacity else builder.capacity) = start at h hStart
  split at h
  · cases h
  next hEnough =>
    cases h
    exact ⟨Nat.le_of_not_lt hEnough, doubleUntil_le hStart⟩

lemma Within.reserve {start : Arena} {state : BuilderState} (h : Within start state) (additional : Nat) :
    Within start (Growing.byteBuilderReserve state additional).1 ∧
      ((Growing.byteBuilderReserve state additional).2 = .ok () →
        state.builder.content.length + additional ≤ maxTargetLength) := by
  have hCap := h.capacity
  rw [Growing.byteBuilderReserve]
  split
  · exact ⟨h, by rintro ⟨⟩⟩
  rename_i hRequired
  rw [checkedAddSize_ok hRequired]
  split
  · exact ⟨h, fun _ => by omega⟩
  rw [byteBuilderGrow.eq_def]
  split
  · exact ⟨h, by rintro ⟨⟩⟩
  · exact ⟨h, by rintro ⟨⟩⟩
  · split
    · exact ⟨h, by rintro ⟨⟩⟩
    rename_i capacity hNext
    obtain ⟨hEnough, hMost⟩ := byteBuilderNextCapacity_le hNext
    have hSince := h.since.arenaAlloc capacity 1
    rw [h.limit] at hMost
    split
    next hFailed =>
      rw [hFailed] at hSince
      exact ⟨⟨hSince, h.limit, hCap, h.content⟩, by rintro ⟨⟩⟩
    next hDone =>
      rw [hDone] at hSince
      exact ⟨⟨hSince, h.limit, hMost, h.content⟩, fun _ => Nat.le_trans hEnough hMost⟩

lemma keeps_appendStr (start : Arena) (text : List UInt8) : Action.Keeps (Within start) (appendStr text) := by
  intro state h
  obtain ⟨hReserved, hFits⟩ := h.reserve text.length
  have hContent := byteBuilderReserve_content state text.length
  rw [appendStr, Growing.byteBuilderAppendBytes]
  split
  · exact h
  split
  next hFailed =>
    rwa [hFailed] at hReserved
  rename_i hDone
  rw [hDone] at hReserved hFits hContent
  refine ⟨hReserved.since, hReserved.limit, hReserved.capacity, ?_⟩
  rw [length_append, hContent]
  exact hFits rfl

lemma keeps_appendAll (start : Arena) (spans : List (List UInt8)) :
    Action.Keeps (Within start) fun state => byteBuilderAppendAll state spans := by
  induction spans with
  | nil => exact .pure ()
  | cons bytes rest ih =>
    intro state h
    have hFirst := keeps_appendStr start bytes state h
    rw [appendStr] at hFirst
    dsimp only
    rw [byteBuilderAppendAll]
    split
    next hFailed =>
      rwa [hFailed] at hFirst
    next hDone =>
      rw [hDone] at hFirst
      exact ih _ hFirst

lemma keeps_appendSegments (start : Arena) (params : List RouteParam) (segs : List RouteSegment) :
    Action.Keeps (Within start) (appendSegments params segs) := by
  induction segs with
  | nil => exact .pure ()
  | cons seg segs ih =>
    refine ((keeps_appendStr start _).bind fun _ => ?_).bind fun _ => ih
    split
    · exact keeps_appendStr start _
    split
    · exact .fail _
    · split
      · exact .fail _
      · exact keeps_appendAll start _

def urlPart (params : List RouteParam) : RouteSegment → List UInt8
  | .static text => text
  | .param name _ => encode (((findUrlParam params name).map RouteParam.value).getD [])

/-- A parameter has a value, and one that is not empty. -/
def Supplied (params : List RouteParam) : RouteSegment → Prop
  | .static _ => True
  | .param name _ => ∃ param, findUrlParam params name = some param ∧ param.value ≠ []

lemma urlAppendEncoded_appends (value : List UInt8) :
    Action.Appends written (urlAppendEncoded value) (encode value) := by
  intro before after result h
  change byteBuilderAppendAll before _ = _ at h
  have hContent := @byteBuilderAppendAll_content before ((encode value).map fun b => [b]) (by rw [h])
  rw [h, ← flatMap_def, flatMap_singleton'] at hContent
  exact hContent

variable {params : List RouteParam}

lemma appendSegment_ok {seg : RouteSegment} {before after : BuilderState}
    (h : appendSegment params seg before = (after, .ok ())) :
    written after = written before ++ slash :: urlPart params seg ∧ Supplied params seg := by
  obtain ⟨mid, _, hSlash, hRest⟩ := Action.bind_ok h
  have hFirst := appendStr_appends [slash] before mid _ hSlash
  have hJoin : ∀ part, written after = written mid ++ part → written after = written before ++ slash :: part := by
    intro part hPart
    rw [hPart, hFirst, append_assoc]
    rfl
  cases seg with
  | static text => exact ⟨hJoin _ (appendStr_appends text mid after _ hRest), trivial⟩
  | param name =>
    cases hParam : findUrlParam params name with
    | none =>
      simp only [hParam] at hRest
      cases hRest
    | some param =>
      simp only [hParam] at hRest
      by_cases hValue : param.value = []
      · rw [if_pos hValue] at hRest
        cases hRest
      · rw [if_neg hValue] at hRest
        refine ⟨hJoin _ ?_, param, hParam, hValue⟩
        rw [urlPart, hParam]
        exact urlAppendEncoded_appends param.value mid after _ hRest

lemma appendSegments_ok {segs : List RouteSegment} {before after : BuilderState}
    (h : appendSegments params segs before = (after, .ok ())) :
    written after = written before ++ (segs.map (urlPart params)).flatMap (slash :: ·) ∧
      ∀ seg ∈ segs, Supplied params seg := by
  induction segs generalizing before with
  | nil =>
    rw [(Action.pure_ok h).1]
    exact ⟨(append_nil _).symm, forall_mem_nil _⟩
  | cons seg segs ih =>
    obtain ⟨mid, _, hSeg, hRest⟩ := Action.bind_ok h
    obtain ⟨hFirst, hSupplied⟩ := appendSegment_ok hSeg
    obtain ⟨hMore, hAll⟩ := ih hRest
    refine ⟨?_, forall_mem_cons.mpr ⟨hSupplied, hAll⟩⟩
    rw [hMore, hFirst, append_assoc]
    rfl

end Building

section Matching

/-- A captured parameter decodes to the value supplied for its name. -/
def Captured (params : List RouteParam) (capture : RouteParam) (name : List UInt8) : Prop :=
  capture.name = name ∧
    ∃ supplied, findUrlParam params name = some supplied ∧ decode capture.value = some supplied.value

variable {params caps : List RouteParam} {segs : List RouteSegment}

lemma captureParts_urlPart (hSupplied : ∀ seg ∈ segs, Supplied params seg)
    (h : captureParts segs (segs.map (urlPart params)) = some caps) :
    List.Forall₂ (Captured params) caps (paramNames segs) := by
  induction segs generalizing caps with
  | nil =>
    cases h
    exact .nil
  | cons seg segs ih =>
    obtain ⟨hFirst, hRest⟩ := forall_mem_cons.mp hSupplied
    rw [map_cons] at h
    cases seg with
    | static =>
      rw [captureParts] at h
      split at h
      · exact ih hRest h
      · cases h
    | param =>
      rw [captureParts] at h
      split at h
      · obtain ⟨more, hMore, rfl⟩ := Option.map_eq_some_iff.mp h
        obtain ⟨supplied, hFound, -⟩ := hFirst
        refine .cons ⟨rfl, supplied, hFound, ?_⟩ (ih hRest hMore)
        rw [urlPart, hFound]
        exact Percent.decode_encode supplied.value
      · cases h

lemma encode_ne_nil {value : List UInt8} (h : value ≠ []) : encode value ≠ [] := by
  intro hEmpty
  have hDecoded := Percent.decode_encode value
  rw [hEmpty] at hDecoded
  exact h (Option.some.inj hDecoded).symm

lemma slash_notMem_encode (value : List UInt8) : slash ∉ encode value := by
  intro h
  rcases Percent.mem_encode h with hPlain | hPercent
  · exact absurd hPlain (by decide)
  · exact absurd hPercent (by decide)

lemma urlPart_clean {part : List UInt8} {seg : RouteSegment} (hGrammar : SegmentGrammar part seg)
    (hPart : slash ∉ part) (hSupplied : Supplied params seg) :
    slash ∉ urlPart params seg ∧ urlPart params seg ≠ [] := by
  have hParam : ∀ {name kind}, seg = .param name kind → slash ∉ urlPart params seg ∧ urlPart params seg ≠ [] := by
    rintro name kind rfl
    obtain ⟨supplied, hFound, hValue⟩ := hSupplied
    rw [urlPart, hFound]
    exact ⟨slash_notMem_encode _, encode_ne_nil hValue⟩
  cases hGrammar with
  | static hText => exact ⟨hPart, hText⟩
  | untyped | typed => exact hParam rfl

lemma urlParts_clean {parts : List (List UInt8)} (hGrammar : List.Forall₂ SegmentGrammar parts segs)
    (hParts : ∀ part ∈ parts, slash ∉ part) (hSupplied : ∀ segment ∈ segs, Supplied params segment) :
    ∀ part ∈ segs.map (urlPart params), slash ∉ part ∧ part ≠ [] := by
  induction hGrammar with
  | nil => exact forall_mem_nil _
  | cons hFirst _ ih =>
    obtain ⟨hPart, hOthers⟩ := forall_mem_cons.mp hParts
    obtain ⟨hOne, hMore⟩ := forall_mem_cons.mp hSupplied
    exact forall_mem_cons.mpr ⟨urlPart_clean hFirst hPart hOne, ih hOthers hMore⟩

variable {arena : Arena}

lemma byteBuilderInitArena_within {start after : Arena} {initial : Nat} {builder : Growing.ByteBuilder}
    (hSince : Since start arena) (h : byteBuilderInitArena arena initial maxTargetLength = (after, .ok builder)) :
    Within start ⟨builder, after⟩ ∧ builder.content = [] := by
  have hAlloc := hSince.arenaAlloc initial 1
  rw [byteBuilderInitArena] at h
  split at h
  · cases h
  rename_i hInitial
  split at h
  · split at h
    · cases h
    next hDone =>
      rw [hDone] at hAlloc
      cases h
      exact ⟨⟨hAlloc, rfl, Nat.le_of_not_lt hInitial, Nat.zero_le _⟩, rfl⟩
  · cases h
    exact ⟨⟨hSince, rfl, Nat.le_of_not_lt hInitial, Nat.zero_le _⟩, rfl⟩

lemma since_routePatternMatch {start : Arena} (h : Since start arena) (pat : RoutePattern) (path : List UInt8) :
    Since start (routePatternMatch arena pat path).1 := by
  have hCopy : ∀ caps, Since start (copyMatchParams arena caps).1 := by
    intro caps
    rw [copyMatchParams]
    split
    · exact h
    · split
      · exact h
      · exact h.arenaAlloc _ _
  rw [routePatternMatch]
  split
  · exact h
  split
  · exact h
  split
  · exact h
  split
  · exact h
  rename_i caps _
  have hAfter := hCopy caps
  split
  next hFailed =>
    rwa [hFailed] at hAfter
  next hDone =>
    rwa [hDone] at hAfter

lemma buildUrl_spec (pat : RoutePattern) (params : List RouteParam) (arena : Arena) :
    Since arena (buildUrl pat params arena).1 ∧ ∀ url, (buildUrl pat params arena).2 = .ok url →
        ∃ before after captures, Within arena after ∧ written before = [] ∧
          appendPattern pat params before = (after, .ok ()) ∧ url = written after ∧
          (routePatternMatch after.arena pat url).2 = .ok (some captures) := by
  have hInit := since_byteBuilderInitArena (.refl arena) (pat.source.length + 16) maxTargetLength
  rw [buildUrl]
  split
  next hFailed =>
    rw [hFailed] at hInit
    exact ⟨hInit, nofun⟩
  next after builder hBuilder =>
    obtain ⟨hWithin, hEmpty⟩ := byteBuilderInitArena_within (.refl arena) hBuilder
    have hKept : Within arena (appendPattern pat params ⟨builder, after⟩).1 := by
      rw [appendPattern]
      split
      · exact keeps_appendStr arena _ _ hWithin
      · exact keeps_appendSegments arena _ _ _ hWithin
    split
    next hFailed =>
      rw [hFailed] at hKept
      exact ⟨hKept.since, nofun⟩
    next state hAppended =>
      rw [hAppended] at hKept
      have hMatched := since_routePatternMatch hKept.since pat state.builder.content
      have hReset := @Since.resetAbove _ _ hMatched (arenaMark state.arena) hKept.since.above
      cases hMatch : routePatternMatch state.arena pat state.builder.content with
      | mk matched outcome =>
        rw [hMatch] at hReset
        dsimp only at hReset ⊢
        cases hBack : arenaResetTo matched (arenaMark state.arena) with
        | mk reset result =>
          rw [hBack] at hReset
          cases result with
          | error => exact ⟨hReset, nofun⟩
          | ok =>
            rcases outcome with code | _ | captures
            · exact ⟨hReset, nofun⟩
            · exact ⟨hReset, nofun⟩
            · refine ⟨hReset, fun url hUrl => ?_⟩
              cases hUrl
              exact ⟨⟨builder, after⟩, state, captures, hKept, hEmpty, hAppended, rfl, by rw [hMatch]⟩

variable {pat : RoutePattern}

lemma appendPattern_ok {before after : BuilderState} (hEmpty : written before = [])
    (h : appendPattern pat params before = (after, .ok ())) :
    written after = joinParts (pat.segments.map (urlPart params)) ∧ ∀ seg ∈ pat.segments, Supplied params seg := by
  rw [appendPattern] at h
  split at h
  next hRoot =>
    rw [hRoot, appendStr_appends _ _ _ _ h, hEmpty]
    exact ⟨rfl, forall_mem_nil _⟩
  next hSome =>
    obtain ⟨hText, hSupplied⟩ := appendSegments_ok h
    obtain ⟨seg, segs, hSegs⟩ := exists_cons_of_ne_nil hSome
    refine ⟨?_, hSupplied⟩
    rw [hText, hEmpty, hSegs]
    rfl

lemma routePatternMatch_rooted {path : List UInt8} (h : (routePatternMatch arena pat path).2 = .ok (some caps)) :
    path.head? = some slash ∧ path.contains question = false := by
  rw [routePatternMatch] at h
  split at h
  · cases h
  next hRooted =>
    rw [not_or, not_not, Bool.not_eq_true] at hRooted
    exact hRooted

lemma findNamedBinding_mem {routes : List RouteBinding} {plan : List PlanRoute} {name : List UInt8}
    {binding : RouteBinding} (h : findNamedBinding routes plan name = some binding) : binding ∈ routes := by
  rw [findNamedBinding] at h
  split at h
  · cases h
  · exact mem_of_find?_eq_some h

end Matching

/-- A generated URL is short, matches the pattern of its route and captures the encoded parameters; a failure
leaves no URL and the arena at its mark. -/
theorem generateUrl_matches (tableStatus : Except StatusCode Unit) {routes : List RouteBinding}
    (hParsed : ∀ binding ∈ routes, ∃ text, patternParse text = .ok binding.pattern) (plan : List PlanRoute)
    (arena : Arena) (name : List UInt8) (params : List RouteParam) :
    let result := generateUrl tableStatus routes plan arena name params
    (result.status = .ok () →
      ∃ binding, findNamedBinding routes plan name = some binding ∧ result.url.length ≤ maxTargetLength ∧
        ∃ captures, matchTrustedPattern (fun _ => .ok ()) binding.pattern result.url = .ok (some captures) ∧
          List.Forall₂ (Captured params) captures (paramNames binding.pattern.segments)) ∧
      (result.status ≠ .ok () → result.url = [] ∧ arenaMark result.arena = arenaMark arena) := by
  intro result
  cases tableStatus with
  | error code => exact ⟨by rintro ⟨⟩, fun _ => ⟨rfl, rfl⟩⟩
  | ok done =>
    cases hFound : findNamedBinding routes plan name with
    | none =>
      have hResult : result = ⟨arena, .error .outOfRange, []⟩ := by simp only [result, generateUrl, hFound]
      rw [hResult]
      exact ⟨by rintro ⟨⟩, fun _ => ⟨rfl, rfl⟩⟩
    | some binding =>
      by_cases hValid : urlParamsValid binding.pattern params = true
      · obtain ⟨hSince, hBuilt⟩ := buildUrl_spec binding.pattern params arena
        have hStep : result = match buildUrl binding.pattern params arena with
            | (after, .ok url) => ⟨after, .ok (), url⟩
            | (after, .error code) =>
              match arenaResetTo after (arenaMark arena) with
              | (reset, .error other) => ⟨reset, .error other, []⟩
              | (reset, .ok ()) => ⟨reset, .error code, []⟩ := by
          simp only [result, generateUrl, hFound, hValid]
          rfl
        rw [hStep]
        cases hBuild : buildUrl binding.pattern params arena with
        | mk after outcome =>
          rw [hBuild] at hSince hBuilt
          cases outcome with
          | error =>
            have hReset := hSince.arenaResetTo
            dsimp only at hReset ⊢
            cases hBack : arenaResetTo after (arenaMark arena) with
            | mk reset answer =>
              rw [hBack] at hReset
              cases answer with
              | error other => exact ⟨by rintro ⟨⟩, fun _ => ⟨rfl, hReset⟩⟩
              | ok done => exact ⟨by rintro ⟨⟩, fun _ => ⟨rfl, hReset⟩⟩
          | ok url =>
            refine ⟨fun _ => ⟨binding, rfl, ?_⟩, fun h => absurd rfl h⟩
            obtain ⟨before, built, captures, hWithin, hEmpty, hAppended, rfl, hMatch⟩ := hBuilt url rfl
            obtain ⟨hText, hSupplied⟩ := appendPattern_ok hEmpty hAppended
            obtain ⟨hRooted, hQuery⟩ := routePatternMatch_rooted hMatch
            obtain ⟨text, hPattern⟩ := hParsed binding (findNamedBinding_mem hFound)
            have hParts : captureParts binding.pattern.segments (pathParts (written built)) = some captures := by
              rw [routePatternMatch_answer hPattern hRooted hQuery] at hMatch
              exact answer_some hMatch
            refine ⟨hWithin.content, captures, ?_, ?_⟩
            · rw [matchTrustedPattern_answer hPattern hRooted, hParts, answer, copyRouteParams, ite_self]
              rfl
            · obtain ⟨parts, -, hFree, hGrammar⟩ := (patternParse_iff.mp hPattern).1.parts
              have hClean := urlParts_clean hGrammar hFree hSupplied
              rw [hText, pathParts_join (fun part h => (hClean part h).1) (fun part h => (hClean part h).2)] at hParts
              exact captureParts_urlPart hSupplied hParts
      · have hResult : result = ⟨arena, .error .invalidArgument, []⟩ := by
          simp only [result, generateUrl, hFound, Bool.not_eq_true _ ▸ hValid]
          rfl
        rw [hResult]
        exact ⟨by rintro ⟨⟩, fun _ => ⟨rfl, rfl⟩⟩

theorem generateUrl_matches_user :
    let routes : List RouteBinding :=
      [⟨.get, ⟨ascii "/u/\x7bid\x7d".toList, [.static (ascii ['u']), .param (ascii ['i', 'd']) .string], 1⟩, 1, 0⟩]
    let result := generateUrl (.ok ()) routes [⟨[], [], ascii ['n'], 1⟩] ⟨16, 256, 0, 0, 1⟩ (ascii ['n'])
      [⟨ascii ['i', 'd'], ascii ['a', '/'], .string⟩]
    result.status = .ok () ∧ result.url = ascii "/u/a%2F".toList ∧ result.url.length ≤ maxTargetLength := by
  intro routes result
  have hStatus : result.status = .ok () := by decide +kernel
  have hParsed : ∀ binding ∈ routes, ∃ text, patternParse text = .ok binding.pattern := by
    intro binding hBinding
    rw [mem_singleton.mp hBinding]
    exact ⟨ascii "/u/\x7bid\x7d".toList, by decide +kernel⟩
  obtain ⟨binding, -, hLength, -⟩ := (generateUrl_matches (.ok ()) hParsed _ _ _ _).1 hStatus
  exact ⟨hStatus, by decide +kernel, hLength⟩

lemma generateUrl_ok {tableStatus : Except StatusCode Unit} {routes : List RouteBinding} {plan : List PlanRoute}
    {arena : Arena} {name : List UInt8} {params : List RouteParam}
    (h : (generateUrl tableStatus routes plan arena name params).status = .ok ()) :
    ∃ binding, findNamedBinding routes plan name = some binding ∧
      (buildUrl binding.pattern params arena).2 = .ok (generateUrl tableStatus routes plan arena name params).url := by
  rw [generateUrl.eq_def] at h ⊢
  split at h
  · cases h
  split at h
  · cases h
  next binding hFound =>
    refine ⟨binding, hFound, ?_⟩
    split at h
    · cases h
    next hValid =>
      rw [if_neg hValid]
      split at h
      next hBuilt => rw [hBuilt]
      · split at h <;> cases h

/-- A request for a generated URL with the method of its route is served, by that route or one before it. -/
theorem generateUrl_served {qsort : List RouteTableEntry → List RouteTableEntry} (hSort : SortsByCompare qsort)
    {plan : Plan} {table : DispatchTable} (hBuild : routeTableBuild qsort plan = .ok table)
    {tableStatus : Except StatusCode Unit} {arena : Arena} {name : List UInt8} {params : List RouteParam}
    (hUrl : (generateUrl tableStatus table.routes plan.routes arena name params).status = .ok ())
    (mode : DispatchMode) :
    ∃ named binding, table.routes[named]? = some binding ∧
      findNamedBinding table.routes plan.routes name = some binding ∧
      let request := ⟨binding.method, (generateUrl tableStatus table.routes plan.routes arena name params).url⟩
      Accepted mode table request → ∃ index ≤ named, requestCore mode table request = .ok index := by
  obtain ⟨binding, hFound, hBuilt⟩ := generateUrl_ok hUrl
  obtain ⟨-, built, captures, -, -, -, -, hMatch⟩ := (buildUrl_spec binding.pattern params arena).2 _ hBuilt
  obtain ⟨hRooted, hQuery⟩ := routePatternMatch_rooted hMatch
  have hMember := findNamedBinding_mem hFound
  obtain ⟨named, hNamed⟩ := mem_iff_getElem?.mp hMember
  obtain ⟨text, hPattern⟩ := routeTableBuild_parsed hSort hBuild hMember
  have hShape := routeTableBuild_shape hSort hBuild
  have hMethod : requestMethodRunnable binding.method = true ∧ binding.method = routeMatchMethod binding.method := by
    have hRunnable := bindingMethodRunnable_of_valid (hShape.routes.valid binding hMember)
    revert hRunnable
    cases binding.method <;> decide
  refine ⟨named, binding, hNamed, hFound, ?_⟩
  intro request hAccepted
  obtain ⟨selected, hFirst, -, hServed, -⟩ := @TableShape.requestCore_eq table hShape request hRooted hMethod.1 mode
  rw [routePatternMatch_answer hPattern hRooted hQuery] at hMatch
  obtain ⟨index, rfl, hLe⟩ := hFirst.least named ⟨binding, hNamed, hMethod.2, by
    rw [patternCouldMatch_eq hRooted, ← captureParts_isSome, answer_some hMatch, Option.isSome_some]⟩
  exact ⟨index, hLe, hServed hAccepted index rfl⟩

def userPlan : Plan := ⟨[1], [⟨HttpMethod.get.name, ascii "/u/\x7bid\x7d".toList, ascii ['n'], 1⟩]⟩

def userUrl (table : DispatchTable) : GeneratedUrl := generateUrl (.ok ()) table.routes userPlan.routes
  ⟨16, 256, 0, 0, 1⟩ (ascii ['n']) [⟨ascii ['i', 'd'], ascii ['a', '/'], .string⟩]

theorem generateUrl_served_user : ∃ table binding index, routeTableBuild insertionSortEntries userPlan = .ok table ∧
    requestCore .compiled table ⟨RouteBinding.method binding, (userUrl table).url⟩ = .ok index := by
  obtain ⟨table, hBuild, hUrl⟩ := @exists_ok _ _ (routeTableBuild insertionSortEntries userPlan)
    (fun table => decide ((userUrl table).status = .ok ())) (by decide +kernel)
  obtain ⟨_, binding, -, -, hServed⟩ :=
    generateUrl_served insertionSort_sortsByCompare hBuild (of_decide_eq_true hUrl) .compiled
  obtain ⟨index, -, hIndex⟩ := hServed (by rintro ⟨⟩)
  exact ⟨table, binding, index, hBuild, hIndex⟩

end Sloppy.Dispatch
