import Sloppy.Core.Room
import Sloppy.Route.Grammar

/-! # Parsing a pattern into an arena

`sl_route_pattern_parse` with its copies. A failure zeroes the pattern and goes back to the mark taken at the start; a
diagnostic the caller asked for is written from there.
-/

namespace Sloppy.Route

open Lib List

/-- A pattern that is refused, or a copy the arena has no room for. -/
inductive ParseFailure where
  | pattern (diag : Diag)
  | arena (code : StatusCode)
  deriving DecidableEq

def onArena (call : Action Arena StatusCode Unit) : Action Arena ParseFailure Unit := fun arena =>
  match call arena with
  | (arena, .ok ()) => (arena, .ok ())
  | (arena, .error code) => (arena, .error (.arena code))

def copySegment (segment : RouteSegment) : Action Arena StatusCode Unit := do
  let _ ← strCopyViewToArena (match segment with | .static text => text | .param name _ => name)
  pure ()

/-- The loop of `sl_route_parse_pattern_segments`. -/
def parseSegmentsInto : List (List UInt8) → List RouteSegment → Nat →
    Action Arena ParseFailure (List RouteSegment × Nat)
  | [], segments, paramCount => pure (segments, paramCount)
  | text :: texts, segments, paramCount =>
    if segments.length ≥ maxSegments then
      .fail (.pattern ⟨.invalidRoutePattern, "route pattern has too many segments",
        "split large route shapes before registering native routes"⟩)
    else
      match parseSegment text segments with
      | .error diag => .fail (.pattern diag)
      | .ok segment => do
        onArena (copySegment segment)
        if segment.isParam then
          if paramCount ≥ maxParams then
            .fail (.pattern ⟨.invalidRoutePattern, "route pattern has too many parameters",
              "keep one route pattern within the supported parameter bound"⟩)
          else parseSegmentsInto texts (segments ++ [segment]) (paramCount + 1)
        else parseSegmentsInto texts (segments ++ [segment]) paramCount

def parsePatternSegmentsInto (text : List UInt8) : Action Arena ParseFailure (List RouteSegment × Nat) :=
  if text.head? ≠ some slash then
    .fail (.pattern ⟨.invalidRoutePattern, "route pattern must start with slash",
      "route patterns must be absolute paths such as /users/\x7bid\x7d"⟩)
  else if text.contains question then
    .fail (.pattern ⟨.invalidRoutePattern, "route pattern must not include query string",
      "query strings are not part of route pattern matching"⟩)
  else if text.length = 1 then pure ([], 0)
  else parseSegmentsInto (splitSlash (text.drop 1)) [] 0

def routeSegmentSize : Nat := 40

def finalizePattern (text : List UInt8) (count : Nat) : Action Arena StatusCode Unit := do
  let _ ← strCopyViewToArena text
  if count ≠ 0 then arenaTake (count * routeSegmentSize) 8 else pure ()

def parseInto (text : List UInt8) : Action Arena ParseFailure RoutePattern :=
  if text = [] then
    .fail (.pattern ⟨.invalidRoutePattern, "route pattern must not be empty",
      "route patterns must be absolute paths such as / or /users/\x7bid\x7d"⟩)
  else do
    let (segments, paramCount) ← parsePatternSegmentsInto text
    onArena (finalizePattern text segments.length)
    pure ⟨text, segments, paramCount⟩

def copyDiag (diag : Diag) : Action Arena StatusCode Unit := do
  arenaTake diag.message.utf8ByteSize 1
  arenaTake diag.hint.utf8ByteSize 1

def zeroPattern : RoutePattern := ⟨[], [], 0⟩

structure PatternParse where
  arena : Arena
  status : Except StatusCode Unit
  pattern : RoutePattern
  diag : Option Diag

def routePatternParse (wantsDiag : Bool) (arena : Arena) (text : List UInt8) : PatternParse :=
  match parseInto text arena with
  | (after, .ok pattern) => ⟨after, .ok (), pattern, none⟩
  | (after, .error failure) =>
    match arenaResetTo after (arenaMark arena) with
    | (reset, .error code) => ⟨reset, .error code, zeroPattern, none⟩
    | (reset, .ok ()) =>
      match failure with
      | .arena code => ⟨reset, .error code, zeroPattern, none⟩
      | .pattern diag =>
        if wantsDiag then
          match copyDiag diag reset with
          | (written, .error code) => ⟨written, .error code, zeroPattern, none⟩
          | (written, .ok ()) => ⟨written, .error .invalidArgument, zeroPattern, some diag⟩
        else ⟨reset, .error .invalidArgument, zeroPattern, none⟩

section Parse

def copySegments : List RouteSegment → Action Arena StatusCode Unit
  | [] => pure ()
  | segment :: segments => do
    copySegment segment
    copySegments segments

variable {after arena : Arena} {call : Action Arena StatusCode Unit}

lemma onArena_ok : onArena call arena = (after, .ok ()) ↔ call arena = (after, .ok ()) := by
  rw [onArena]
  split
  next h =>
    rw [h]
    simp
  next h =>
    rw [h]
    simp

variable {diag : Diag}

lemma onArena_pattern : onArena call arena ≠ (after, .error (.pattern diag)) := by
  rw [onArena]
  split <;> simp

variable {paramCount : Nat} {segs : List RouteSegment} {texts : List (List UInt8)}

variable {parsed : List RouteSegment} {total : Nat}

lemma parseSegments_extends (h : parseSegments texts segs paramCount = .ok (parsed, total)) :
    ∃ added, parsed = segs ++ added := by
  induction texts generalizing segs paramCount with
  | nil =>
    cases h
    exact ⟨[], (append_nil _).symm⟩
  | cons text texts ih =>
    rw [parseSegments] at h
    repeat' split at h
    all_goals try cases h
    all_goals
      obtain ⟨added, rfl⟩ := ih h
      exact ⟨_ :: added, append_assoc ..⟩

lemma parseSegmentsInto_ok : parseSegmentsInto texts segs paramCount arena = (after, .ok (parsed, total)) ↔
      ∃ added, parsed = segs ++ added ∧ parseSegments texts segs paramCount = .ok (parsed, total) ∧
        copySegments added arena = (after, .ok ()) := by
  induction texts generalizing segs paramCount arena with
  | nil =>
    constructor
    · intro h
      cases h
      exact ⟨[], (append_nil _).symm, rfl, rfl⟩
    · rintro ⟨added, hParsed, hPure, hCopies⟩
      cases hPure
      obtain rfl := self_eq_append_right.mp hParsed
      cases hCopies
      rfl
  | cons text texts ih =>
    rw [parseSegmentsInto, parseSegments]
    by_cases hMany : segs.length ≥ maxSegments
    · rw [if_pos hMany, if_pos hMany]
      exact iff_of_false (by rintro ⟨⟩) (by rintro ⟨_, -, ⟨⟩, -⟩)
    rw [if_neg hMany, if_neg hMany]
    cases parseSegment text segs with
    | error => exact iff_of_false (by rintro ⟨⟩) (by rintro ⟨_, -, ⟨⟩, -⟩)
    | ok seg =>
      have hNext : ∀ count, (onArena (copySegment seg) >>= fun _ =>
          parseSegmentsInto texts (segs ++ [seg]) count) arena = (after, .ok (parsed, total)) ↔
          ∃ added, parsed = segs ++ added ∧ parseSegments texts (segs ++ [seg]) count = .ok (parsed, total) ∧
            copySegments added arena = (after, .ok ()) := by
        intro count
        constructor
        · intro h
          obtain ⟨mid, _, hCopy, hRest⟩ := Action.bind_ok h
          obtain ⟨added, hParsed, hPure, hCopies⟩ := ih.mp hRest
          refine ⟨seg :: added, by rw [hParsed, append_assoc]; rfl, hPure, ?_⟩
          exact (Action.bind_eq_of_ok (onArena_ok.mp hCopy)).trans hCopies
        · rintro ⟨added, hParsed, hPure, hCopies⟩
          obtain ⟨rest, hRest⟩ := parseSegments_extends hPure
          rw [hRest, append_assoc, append_cancel_left_eq] at hParsed
          obtain rfl := hParsed
          obtain ⟨mid, _, hCopy, hCopies⟩ := Action.bind_ok hCopies
          exact (Action.bind_eq_of_ok (onArena_ok.mpr hCopy)).trans (ih.mpr ⟨rest, hRest, hPure, hCopies⟩)
      by_cases hParam : seg.isParam = true
      · simp only [if_pos hParam]
        by_cases hFull : paramCount ≥ maxParams
        · simp only [if_pos hFull]
          refine ⟨fun h => ?_, by rintro ⟨_, -, ⟨⟩, -⟩⟩
          obtain ⟨mid, _, -, hFail⟩ := Action.bind_ok h
          exact absurd hFail Action.fail_ok
        · simp only [if_neg hFull]
          exact hNext (paramCount + 1)
      · simp only [if_neg hParam]
        exact hNext paramCount

lemma parseSegmentsInto_pattern
    (h : parseSegmentsInto texts segs paramCount arena = (after, .error (.pattern diag))) :
    parseSegments texts segs paramCount = .error diag := by
  induction texts generalizing segs paramCount arena with
  | nil => cases h
  | cons text texts ih =>
    rw [parseSegmentsInto] at h
    rw [parseSegments]
    split at h
    · cases h
      rw [if_pos (by assumption)]
    rw [if_neg (by assumption)]
    cases hSegment : parseSegment text segs with
    | error =>
      rw [hSegment] at h
      cases h
      rfl
    | ok =>
      rw [hSegment] at h
      rcases Action.bind_error h with hCopy | ⟨mid, _, -, hRest⟩
      · exact absurd hCopy onArena_pattern
      dsimp only at hRest ⊢
      split at hRest
      · rw [if_pos (by assumption)]
        split at hRest
        · cases hRest
          rw [if_pos (by assumption)]
        · rw [if_neg (by assumption)]
          exact ih hRest
      · rw [if_neg (by assumption)]
        exact ih hRest

variable {text : List UInt8}

lemma parsePatternSegmentsInto_ok {count : Nat} : parsePatternSegmentsInto text arena = (after, .ok (segs, count)) ↔
      parsePatternSegments text = .ok (segs, count) ∧ copySegments segs arena = (after, .ok ()) := by
  rw [parsePatternSegmentsInto, parsePatternSegments]
  split
  · exact iff_of_false (by rintro ⟨⟩) (by rintro ⟨⟨⟩, -⟩)
  split
  · exact iff_of_false (by rintro ⟨⟩) (by rintro ⟨⟨⟩, -⟩)
  split
  · constructor
    · intro h
      cases h
      exact ⟨rfl, rfl⟩
    · rintro ⟨hParsed, hCopies⟩
      cases hParsed
      cases hCopies
      rfl
  · rw [parseSegmentsInto_ok]
    constructor
    · rintro ⟨_, rfl, h⟩
      exact h
    · exact fun h => ⟨segs, rfl, h⟩

lemma parsePatternSegmentsInto_pattern (h : parsePatternSegmentsInto text arena = (after, .error (.pattern diag))) :
    parsePatternSegments text = .error diag := by
  rw [parsePatternSegmentsInto] at h
  rw [parsePatternSegments]
  split at h
  · cases h
    rw [if_pos (by assumption)]
  rw [if_neg (by assumption)]
  split at h
  · cases h
    rw [if_pos (by assumption)]
  rw [if_neg (by assumption)]
  split at h
  · cases h
  · rw [if_neg (by assumption)]
    exact parseSegmentsInto_pattern h

/-- Everything a successful parse copies, in order. -/
def patternCopies (text : List UInt8) (segments : List RouteSegment) : Action Arena StatusCode Unit := do
  copySegments segments
  finalizePattern text segments.length

lemma parseInto_ok {pat : RoutePattern} : parseInto text arena = (after, .ok pat) ↔
      patternParse text = .ok pat ∧ patternCopies text pat.segments arena = (after, .ok ()) := by
  rw [parseInto, patternParse]
  split
  · exact iff_of_false (by rintro ⟨⟩) (by rintro ⟨⟨⟩, -⟩)
  constructor
  · intro h
    obtain ⟨mid, ⟨segs, count⟩, hSegs, hRest⟩ := Action.bind_ok h
    obtain ⟨last, _, hFinal, hPat⟩ := Action.bind_ok hRest
    obtain ⟨rfl, rfl⟩ := Action.pure_ok hPat
    obtain ⟨hParsed, hCopies⟩ := parsePatternSegmentsInto_ok.mp hSegs
    rw [hParsed]
    exact ⟨rfl, (Action.bind_eq_of_ok hCopies).trans (onArena_ok.mp hFinal)⟩
  · rintro ⟨hParsed, hCopies⟩
    split at hParsed
    · cases hParsed
    rename_i hSegs
    cases hParsed
    obtain ⟨mid, _, hCopied, hFinal⟩ := Action.bind_ok hCopies
    refine (Action.bind_eq_of_ok (parsePatternSegmentsInto_ok.mpr ⟨hSegs, hCopied⟩)).trans ?_
    exact Action.bind_eq_of_ok (onArena_ok.mpr hFinal)

lemma parseInto_pattern (h : parseInto text arena = (after, .error (.pattern diag))) :
    patternParse text = .error diag := by
  rw [parseInto] at h
  rw [patternParse]
  split at h
  · cases h
    rw [if_pos (by assumption)]
  rw [if_neg (by assumption)]
  rcases Action.bind_error h with hSegments | ⟨mid, ⟨segs, count⟩, -, hRest⟩
  · rw [parsePatternSegmentsInto_pattern hSegments]
  · rcases Action.bind_error hRest with hFinal | ⟨_, _, -, hPure⟩
    · exact absurd hFinal onArena_pattern
    · cases hPure

end Parse

lemma keeps_onArena {start : Arena} {call : Action Arena StatusCode Unit} (h : Action.Keeps (Since start) call) :
    Action.Keeps (Since start) (onArena call) := by
  intro arena hArena
  have hAfter := h arena hArena
  rw [onArena]
  split
  next hCall =>
    rwa [hCall] at hAfter
  next hCall =>
    rwa [hCall] at hAfter

lemma keeps_parseSegmentsInto (start : Arena) (texts : List (List UInt8)) (segs : List RouteSegment)
    (paramCount : Nat) : Action.Keeps (Since start) (parseSegmentsInto texts segs paramCount) := by
  induction texts generalizing segs paramCount with
  | nil => exact .pure _
  | cons text texts ih =>
    rw [parseSegmentsInto]
    split
    · exact .fail _
    split
    · exact .fail _
    refine (keeps_onArena ((keeps_strCopyViewToArena _ _).bind fun _ => .pure _)).bind fun _ => ?_
    split
    · split
      · exact .fail _
      · exact ih _ _
    · exact ih _ _

lemma keeps_parseInto (start : Arena) (text : List UInt8) : Action.Keeps (Since start) (parseInto text) := by
  rw [parseInto]
  split
  · exact .fail _
  refine Action.Keeps.bind ?_ fun _ => (keeps_onArena ?_).bind fun _ => .pure _
  · rw [parsePatternSegmentsInto]
    split
    · exact .fail _
    split
    · exact .fail _
    · split
      · exact .pure _
      · exact keeps_parseSegmentsInto _ _ _ _
  · refine (keeps_strCopyViewToArena _ _).bind fun _ => ?_
    split
    · exact keeps_arenaTake _ _ _
    · exact .pure _

/-- What a failed parse leaves: the arena at its mark, below nothing but a diagnostic that was asked for. -/
def PatternParse.RestoredTo (result : PatternParse) (arena : Arena) (wantsDiag : Bool) (text : List UInt8) : Prop :=
  arenaMark result.arena = arenaMark arena ∨
    wantsDiag = true ∧ ∃ diag reset, patternParse text = .error diag ∧ arenaMark reset = arenaMark arena ∧
      result.arena = (copyDiag diag reset).1

lemma routePatternParse_failed {wantsDiag : Bool} {arena after : Arena} {text : List UInt8} {failure : ParseFailure}
    (h : parseInto text arena = (after, .error failure)) :
    (routePatternParse wantsDiag arena text).status ≠ .ok () ∧
      (routePatternParse wantsDiag arena text).pattern = zeroPattern ∧
      (routePatternParse wantsDiag arena text).RestoredTo arena wantsDiag text := by
  have hSince : Since arena after := by
    have hKept := keeps_parseInto arena text arena (.refl arena)
    rwa [h] at hKept
  have hReset := hSince.arenaResetTo
  simp only [routePatternParse, h]
  cases hBack : arenaResetTo after (arenaMark arena) with
  | mk reset outcome =>
    rw [hBack] at hReset
    cases outcome with
    | error => exact ⟨nofun, rfl, Or.inl hReset⟩
    | ok =>
      cases failure with
      | arena => exact ⟨nofun, rfl, Or.inl hReset⟩
      | pattern diag =>
        cases wantsDiag with
        | false => exact ⟨nofun, rfl, Or.inl hReset⟩
        | true =>
          simp only [if_pos]
          split
          next hDiag =>
            have hWritten := (congrArg Prod.fst hDiag).symm
            exact ⟨nofun, rfl, Or.inr ⟨rfl, diag, reset, parseInto_pattern h, hReset, hWritten⟩⟩
          next hDiag =>
            have hWritten := (congrArg Prod.fst hDiag).symm
            exact ⟨nofun, rfl, Or.inr ⟨rfl, diag, reset, parseInto_pattern h, hReset, hWritten⟩⟩

/-- The parse succeeds on the texts of the grammar for which the arena has room, and its segments render to the
text without the default type. -/
theorem routePatternParse_accepts (wantsDiag : Bool) (arena : Arena) (text : List UInt8) :
    let result := routePatternParse wantsDiag arena text
    (result.status = .ok () ↔
        ∃ segments, RouteGrammar text segments ∧ (patternCopies text segments arena).2 = .ok ()) ∧
      (∀ segments, result.status = .ok () → RouteGrammar text segments →
        result.pattern = ⟨text, segments, segments.countP RouteSegment.isParam⟩ ∧
          joinParts (segments.map renderSegment) = joinParts ((pathParts text).map withoutDefault)) ∧
      (result.status ≠ .ok () → result.pattern = zeroPattern ∧ result.RestoredTo arena wantsDiag text) := by
  intro result
  cases hInto : parseInto text arena with
  | mk after outcome =>
    cases outcome with
    | error =>
      obtain ⟨hStatus, hPattern, hRestored⟩ := @routePatternParse_failed wantsDiag _ _ _ _ hInto
      refine ⟨⟨fun h => absurd h hStatus, ?_⟩, fun _ h => absurd h hStatus, fun _ => ⟨hPattern, hRestored⟩⟩
      rintro ⟨segments, hGrammar, hCopies⟩
      have hParsed : patternParse text = .ok ⟨text, segments, segments.countP RouteSegment.isParam⟩ :=
        patternParse_iff.mpr ⟨hGrammar, rfl⟩
      have hDone := parseInto_ok.mpr ⟨hParsed, Prod.ext rfl hCopies⟩
      rw [hInto] at hDone
      cases hDone
    | ok pattern =>
      obtain ⟨hParsed, hCopies⟩ := parseInto_ok.mp hInto
      have hResult : result = ⟨after, .ok (), pattern, none⟩ := by
        simp only [result, routePatternParse, hInto]
      rw [hResult]
      refine ⟨⟨fun _ => ⟨pattern.segments, (patternParse_iff.mp hParsed).1, by rw [hCopies]⟩, fun _ => rfl⟩, ?_,
        fun h => absurd rfl h⟩
      intro segments _ hGrammar
      have hSame : patternParse text = .ok ⟨text, segments, segments.countP RouteSegment.isParam⟩ :=
        patternParse_iff.mpr ⟨hGrammar, rfl⟩
      rw [hParsed] at hSame
      exact ⟨Except.ok.inj hSame, hGrammar.render⟩

/-- A parameter that names the default type renders without it, an arena may be too small, and a diagnostic is
written behind the mark. -/
theorem routePatternParse_typed :
    ((routePatternParse false ⟨16, 256, 0, 0, 1⟩ (ascii "/\x7bid:str\x7d".toList)).status = .ok () ∧
        joinParts ((routePatternParse false ⟨16, 256, 0, 0, 1⟩
          (ascii "/\x7bid:str\x7d".toList)).pattern.segments.map renderSegment) = ascii "/\x7bid\x7d".toList) ∧
      (routePatternParse false ⟨16, 8, 0, 0, 1⟩ (ascii "/\x7bid:str\x7d".toList)).status = .error .outOfMemory ∧
      (routePatternParse true ⟨16, 256, 0, 0, 1⟩ (ascii "users".toList)).arena.offset ≠ 0 := by
  decide +kernel

end Sloppy.Route
