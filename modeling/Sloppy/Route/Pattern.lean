import Sloppy.Core.Plan

/-! # Paths and route patterns

`sl_route_pattern_parse` and the two matchers dispatch uses. A request path is read with a position that moves behind
the next slash. The copies into the arena are left out of parsing.
-/

namespace Sloppy.Route

open List

section Path

def segmentAt (path : List UInt8) (pos : Nat) : List UInt8 := untilSlash (path.drop pos)

/-- `path_pos = segment_end == path.length ? segment_end : segment_end + 1`. -/
def nextPos (path : List UInt8) (pos : Nat) : Nat :=
  let segmentEnd := pos + (segmentAt path pos).length
  if segmentEnd = path.length then segmentEnd else segmentEnd + 1

def partsFrom (path : List UInt8) (pos : Nat) : List (List UInt8) :=
  if pos = path.length ∧ path.getLast? ≠ some slash then [] else splitSlash (path.drop pos)

/-- The segments of a rooted path; the root path has none. -/
def pathParts (path : List UInt8) : List (List UInt8) :=
  if path.length = 1 then [] else splitSlash (path.drop 1)

lemma segmentAt_length_le (path : List UInt8) (pos : Nat) : (segmentAt path pos).length ≤ path.length - pos := by
  have h := untilSlash_length_le (path.drop pos)
  rwa [length_drop] at h

variable {path : List UInt8} {pos : Nat}

lemma nextPos_le (hPos : pos ≤ path.length) : nextPos path pos ≤ path.length := by
  have h := segmentAt_length_le path pos
  simp only [nextPos]
  split <;> omega

lemma pathParts_eq_partsFrom (hLen : path.length ≠ 1) : pathParts path = partsFrom path 1 := by
  rw [pathParts, partsFrom, if_neg hLen, if_neg (fun h => hLen h.1.symm)]

lemma partsFrom_end (path : List UInt8) :
    partsFrom path path.length = if path.getLast? = some slash then [[]] else [] := by
  rw [partsFrom, drop_length]
  by_cases hLast : path.getLast? = some slash
  · rw [if_neg (fun h => h.2 hLast), if_pos hLast]
    rfl
  · rw [if_pos ⟨rfl, hLast⟩, if_neg hLast]

lemma partsFrom_empty (hPos : pos < path.length) (hSeg : segmentAt path pos = []) :
    ∃ parts, partsFrom path pos = [] :: parts := by
  have hNotEnd : ¬(pos = path.length ∧ path.getLast? ≠ some slash) := fun h => by omega
  have hShort : (segmentAt path pos).length ≠ (path.drop pos).length := by
    rw [hSeg, length_drop, length_nil]
    omega
  rw [partsFrom, if_neg hNotEnd, splitSlash_step, ← segmentAt, if_neg hShort, hSeg]
  exact ⟨_, rfl⟩

lemma getLast_of_segment_to_end (hSeg : segmentAt path pos ≠ []) (hAll : segmentAt path pos = path.drop pos) :
    path.getLast? ≠ some slash := by
  intro hLast
  have hDrop : path.drop pos ≠ [] := hAll ▸ hSeg
  have hSame : (path.drop pos).getLast? = path.getLast? := by
    rw [getLast?_drop, if_neg]
    intro hLe
    exact hDrop (drop_eq_nil_of_le hLe)
  have hMem : slash ∈ segmentAt path pos := by
    rw [hAll]
    exact mem_of_getLast? (hSame.trans hLast)
  exact slash_notMem_untilSlash _ hMem

lemma getLast_of_slash_at_end (hPos : pos < path.length)
    (hEnd : pos + (segmentAt path pos).length + 1 = path.length)
    (hStop : (path.drop pos)[(segmentAt path pos).length]? = some slash) : path.getLast? = some slash := by
  rw [getElem?_drop] at hStop
  rw [getLast?_eq_getElem?, ← hStop]
  congr 1
  omega

lemma partsFrom_step (hPos : pos < path.length) (hSeg : segmentAt path pos ≠ []) :
    partsFrom path pos = segmentAt path pos :: partsFrom path (nextPos path pos) := by
  have hNotEnd : ¬(pos = path.length ∧ path.getLast? ≠ some slash) := fun h => by omega
  rw [partsFrom, if_neg hNotEnd, splitSlash_step, ← segmentAt]
  split
  next hAll =>
    have hWhole : segmentAt path pos = path.drop pos := untilSlash_eq_self hAll
    have hNext : nextPos path pos = path.length := by
      rw [length_drop] at hAll
      simp only [nextPos]
      split <;> omega
    rw [hNext, partsFrom_end, if_neg (getLast_of_segment_to_end hSeg hWhole), ← hWhole]
  next hSome =>
    have hStop : (path.drop pos)[(segmentAt path pos).length]? = some slash := untilSlash_stop hSome
    rw [length_drop] at hSome
    have hNext : nextPos path pos = pos + (segmentAt path pos).length + 1 := by
      simp only [nextPos]
      rw [if_neg (by omega)]
    rw [hNext, partsFrom, drop_drop, ← Nat.add_assoc]
    rw [if_neg]
    rintro ⟨hEnd, hLast⟩
    exact hLast (getLast_of_slash_at_end hPos hEnd hStop)

end Path

inductive RouteParamKind where
  | string | int | uuid | alpha | float
  deriving DecidableEq

inductive RouteSegment where
  | static (text : List UInt8)
  | param (name : List UInt8) (kind : RouteParamKind)
  deriving DecidableEq

def RouteSegment.isParam : RouteSegment → Bool
  | .static _ => false
  | .param _ _ => true

structure RoutePattern where
  source : List UInt8
  segments : List RouteSegment
  paramCount : Nat
  deriving DecidableEq

inductive DiagCode where
  | invalidRoutePattern | duplicateRouteParam | duplicateRoute | duplicateHandlerId | engineCallError
  | httpUnsupportedMethod
  deriving DecidableEq

structure Diag where
  code : DiagCode
  message : String
  hint : String
  deriving DecidableEq

def maxSegments : Nat := 64

def maxParams : Nat := 32

def openBrace : UInt8 := 123

def closeBrace : UInt8 := 125

def colon : UInt8 := ':'.toUInt8

def question : UInt8 := '?'.toUInt8

def isDigit (b : UInt8) : Bool := 48 ≤ b && b ≤ 57

def isLetter (b : UInt8) : Bool := (65 ≤ b && b ≤ 90) || (97 ≤ b && b ≤ 122)

def isHex (b : UInt8) : Bool := isDigit b || (65 ≤ b && b ≤ 70) || (97 ≤ b && b ≤ 102)

def invalidPattern (message hint : String) : Except Diag RouteSegment :=
  .error ⟨.invalidRoutePattern, message, hint⟩

def isNameStart (b : UInt8) : Bool := isLetter b || b == 95

def isNameContinue (b : UInt8) : Bool := isNameStart b || isDigit b

def paramNameValid : List UInt8 → Bool
  | [] => false
  | b :: rest => isNameStart b && rest.all isNameContinue

def nameDuplicate (segments : List RouteSegment) (name : List UInt8) : Bool :=
  segments.any fun segment =>
    match segment with
    | .static _ => false
    | .param other _ => other == name

def parseParamType (type : List UInt8) : Except Diag RouteParamKind :=
  if type = ascii ['i', 'n', 't'] then .ok .int
  else if type = ascii ['s', 't', 'r'] then .ok .string
  else if type = ascii ['u', 'u', 'i', 'd'] then .ok .uuid
  else if type = ascii ['a', 'l', 'p', 'h', 'a'] then .ok .alpha
  else if type = ascii ['f', 'l', 'o', 'a', 't'] then .ok .float
  else .error ⟨.invalidRoutePattern, "unknown route parameter type",
    "supported route parameter types are str, int, uuid, alpha, and float"⟩

/-- The scan of a parameter's inside: no braces, at most one colon; the position of the colon. -/
def scanColon : List UInt8 → Nat → Option Nat → Except Diag (Option Nat)
  | [], _, found => .ok found
  | b :: rest, index, found =>
    if b = openBrace ∨ b = closeBrace then
      .error ⟨.invalidRoutePattern, "malformed route parameter",
        "nested braces are not supported in route parameters"⟩
    else if b = colon then
      match found with
      | some _ => .error ⟨.invalidRoutePattern, "malformed route parameter",
          "route parameters support at most one type separator"⟩
      | none => scanColon rest (index + 1) (some index)
    else scanColon rest (index + 1) found

def paramName (inner : List UInt8) : Option Nat → List UInt8
  | some index => inner.take index
  | none => inner

def paramKind (inner : List UInt8) : Option Nat → Except Diag RouteParamKind
  | none => .ok .string
  | some index =>
    if index + 1 ≥ inner.length then
      .error ⟨.invalidRoutePattern, "malformed route parameter", "route parameter type must be non-empty"⟩
    else parseParamType (inner.drop (index + 1))

variable (segment : List UInt8)

def parseParamSegment (segments : List RouteSegment) : Except Diag RouteSegment :=
  if segment.length < 3 ∨ segment.head? ≠ some openBrace ∨ segment.getLast? ≠ some closeBrace then
    invalidPattern "malformed route parameter"
      "parameters must occupy a whole segment like \x7bid\x7d or \x7bid:int\x7d"
  else
    let inner := (segment.drop 1).take (segment.length - 2)
    match scanColon inner 0 none with
    | .error diag => .error diag
    | .ok found =>
      if !paramNameValid (paramName inner found) then
        invalidPattern "invalid route parameter name" "parameter names must start with a letter or underscore"
      else
        match paramKind inner found with
        | .error diag => .error diag
        | .ok kind =>
          if nameDuplicate segments (paramName inner found) then
            .error ⟨.duplicateRouteParam, "duplicate route parameter",
              "route parameter names must be unique within one pattern"⟩
          else .ok (.param (paramName inner found) kind)

def parseStaticSegment : Except Diag RouteSegment :=
  if segment.contains openBrace || segment.contains closeBrace then
    invalidPattern "malformed route parameter" "braces are only valid around a whole route parameter segment"
  else .ok (.static segment)

def parseSegment (segments : List RouteSegment) : Except Diag RouteSegment :=
  if segment = [] then
    invalidPattern "empty route segment" "empty segments are not supported except for the root pattern"
  else if segment.head? = some openBrace ∨ segment.getLast? = some closeBrace then
    parseParamSegment segment segments
  else parseStaticSegment segment

/-- The segment loop over the texts between slashes, with the segments parsed so far. -/
def parseSegments : List (List UInt8) → List RouteSegment → Nat → Except Diag (List RouteSegment × Nat)
  | [], segments, paramCount => .ok (segments, paramCount)
  | text :: texts, segments, paramCount =>
    if segments.length ≥ maxSegments then
      .error ⟨.invalidRoutePattern, "route pattern has too many segments",
        "split large route shapes before registering native routes"⟩
    else
      match parseSegment text segments with
      | .error diag => .error diag
      | .ok segment =>
        if segment.isParam then
          if paramCount ≥ maxParams then
            .error ⟨.invalidRoutePattern, "route pattern has too many parameters",
              "keep one route pattern within the supported parameter bound"⟩
          else parseSegments texts (segments ++ [segment]) (paramCount + 1)
        else parseSegments texts (segments ++ [segment]) paramCount

def parsePatternSegments (pattern : List UInt8) : Except Diag (List RouteSegment × Nat) :=
  if pattern.head? ≠ some slash then
    .error ⟨.invalidRoutePattern, "route pattern must start with slash",
      "route patterns must be absolute paths such as /users/\x7bid\x7d"⟩
  else if pattern.contains question then
    .error ⟨.invalidRoutePattern, "route pattern must not include query string",
      "query strings are not part of route pattern matching"⟩
  else if pattern.length = 1 then .ok ([], 0)
  else parseSegments (splitSlash (pattern.drop 1)) [] 0

def patternParse (pattern : List UInt8) : Except Diag RoutePattern :=
  if pattern = [] then
    .error ⟨.invalidRoutePattern, "route pattern must not be empty",
      "route patterns must be absolute paths such as / or /users/\x7bid\x7d"⟩
  else
    match parsePatternSegments pattern with
    | .error diag => .error diag
    | .ok (segments, paramCount) => .ok ⟨pattern, segments, paramCount⟩

def segmentInt : Bool := segment != [] && segment.all isDigit

def segmentAlpha : Bool := segment != [] && segment.all isLetter

/-- The positions of the dashes are 8, 13, 18 and 23; every other byte is hexadecimal. -/
def segmentUuid : Bool :=
  segment.length == 36 && segment.zipIdx.all fun (b, index) =>
    if index = 8 ∨ index = 13 ∨ index = 18 ∨ index = 23 then b == '-'.toUInt8 else isHex b

def floatLoop : List UInt8 → Bool → Bool → Bool
  | [], sawDigit, sawDot => sawDigit && sawDot
  | b :: rest, sawDigit, sawDot =>
    if isDigit b then floatLoop rest true sawDot
    else if b = '.'.toUInt8 ∧ sawDot = false then floatLoop rest sawDigit true
    else false

def segmentFloat : Bool := segment != [] && floatLoop segment false false

def segmentMatchesKind (kind : RouteParamKind) (segment : List UInt8) : Bool :=
  match kind with
  | .string => segment != []
  | .int => segmentInt segment
  | .uuid => segmentUuid segment
  | .alpha => segmentAlpha segment
  | .float => segmentFloat segment

/-- One segment of a pattern against one nonempty segment of a path. -/
def RouteSegment.matches (segment : RouteSegment) (part : List UInt8) : Bool :=
  match segment with
  | .static text => text == part
  | .param _ kind => segmentMatchesKind kind part

/-- The loop of `sl_http_dispatch_pattern_could_match`. -/
def couldMatchFrom (path : List UInt8) : List RouteSegment → Nat → Bool
  | [], pos => pos == path.length && path.getLast? != some slash
  | segment :: segments, pos =>
    if pos ≥ path.length then false
    else if segmentAt path pos = [] then false
    else if segment.matches (segmentAt path pos) then couldMatchFrom path segments (nextPos path pos)
    else false

def patternCouldMatch (pattern : RoutePattern) (path : List UInt8) : Bool :=
  if path.head? ≠ some slash then false
  else if pattern.segments = [] then path.length == 1
  else couldMatchFrom path pattern.segments 1

structure RouteParam where
  name : List UInt8
  value : List UInt8
  kind : RouteParamKind
  deriving DecidableEq

/-- The loop of `sl_http_dispatch_match_trusted_pattern`; `none` if the path does not match. -/
def captureFrom (path : List UInt8) : List RouteSegment → Nat → List RouteParam → Option (List RouteParam)
  | [], pos, captures =>
    if pos ≠ path.length ∨ path.getLast? = some slash then none else some captures
  | segment :: segments, pos, captures =>
    if pos ≥ path.length then none
    else
      let part := segmentAt path pos
      if part = [] then none
      else
        match segment with
        | .static text =>
          if text ≠ part then none else captureFrom path segments (nextPos path pos) captures
        | .param name kind =>
          if captures.length ≥ maxParams ∨ segmentMatchesKind kind part = false then none
          else captureFrom path segments (nextPos path pos) (captures ++ [⟨name, part, kind⟩])

/-- The answer of the caller's arena to the copy of the captured parameters. -/
abbrev CopyParams := List RouteParam → Except StatusCode Unit

def copyRouteParams (copy : CopyParams) (captures : List RouteParam) : Except StatusCode Unit :=
  if captures = [] then .ok () else copy captures

def matchTrustedPattern (copy : CopyParams) (pattern : RoutePattern) (path : List UInt8) :
    Except StatusCode (Option (List RouteParam)) :=
  if pattern.paramCount > maxParams ∨ path.head? ≠ some slash then .error .invalidArgument
  else if pattern.segments = [] then .ok (if path.length = 1 then some [] else none)
  else
    match captureFrom path pattern.segments 1 [] with
    | none => .ok none
    | some captures =>
      match copyRouteParams copy captures with
      | .error code => .error code
      | .ok () => .ok (some captures)

end Sloppy.Route
