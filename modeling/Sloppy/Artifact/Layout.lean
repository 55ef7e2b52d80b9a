import Sloppy.Artifact.Soundness

/-! # The route artifact emitter

`emit_route_artifact` of the compiler: a header, one entry of fixed size per route, and the strings of the routes. The
lemmas say where the emitter puts what the validator reads.
-/

namespace Sloppy.Artifact

open Lib.LittleEndian List

inductive ProjectKind where
  | web | program
  deriving DecidableEq

structure ResponseMetadata where
  kind : List UInt8
  nativeBody : Option (List UInt8)
  deriving DecidableEq

/-- A route of the extracted application; only the presence of provider effects is read. -/
structure Route where
  method : List UInt8
  pattern : List UInt8
  name : Option (List UInt8)
  response : Option ResponseMetadata
  effects : List (List UInt8)
  deriving DecidableEq

structure ExtractedApp where
  kind : ProjectKind
  routes : List Route
  deriving DecidableEq

structure Diagnostic where
  code : String
  message : String
  deriving DecidableEq

inductive RouteExecutionKind where
  | v8Handler | nativeStaticText | nativeStaticJson | nativeStaticEmpty | nativeStaticProblem
  deriving DecidableEq

def RouteExecutionKind.artifactCode : RouteExecutionKind → Nat
  | .v8Handler => 1
  | .nativeStaticText => 2
  | .nativeStaticJson => 3
  | .nativeStaticEmpty => 4
  | .nativeStaticProblem => 5

def routeExecutionKind (responseKind nativeBody : Option (List UInt8))
    (hasProviderEffects : Bool) : RouteExecutionKind :=
  if hasProviderEffects then .v8Handler
  else
    match responseKind, nativeBody with
    | some kind, some _ =>
      if kind = ascii ['t', 'e', 'x', 't'] then .nativeStaticText
      else if kind = ascii ['j', 's', 'o', 'n'] then .nativeStaticJson
      else if kind = ascii ['e', 'm', 'p', 't', 'y'] then .nativeStaticEmpty
      else if kind = ascii ['p', 'r', 'o', 'b', 'l', 'e', 'm'] then .nativeStaticProblem
      else .v8Handler
    | _, _ => .v8Handler

def isBracedSegment (segment : List UInt8) : Bool :=
  segment.head? == some 123 && segment.getLast? == some 125

def routePatternParamCount (pattern : List UInt8) : Nat :=
  ((splitSlash pattern).drop 1).countP isBracedSegment

def routePatternHasParams (pattern : List UInt8) : Bool := routePatternParamCount pattern != 0

def artifactError (message : String) : Diagnostic := ⟨"SLOPPYC_E_ROUTE_ARTIFACT", message⟩

def checkedU32 (value : Nat) (label : String) : Except Diagnostic Nat :=
  if value ≤ uint32Max then .ok value
  else .error (artifactError ("route artifact " ++ label ++ " exceeds uint32"))

def textOf (bytes : List UInt8) : String := String.ofList (bytes.map fun b => Char.ofNat b.toNat)

def routeMethodCode (method : List UInt8) : Except Diagnostic Nat :=
  if method = HttpMethod.get.name then .ok 1
  else if method = HttpMethod.post.name then .ok 2
  else if method = HttpMethod.put.name then .ok 3
  else if method = HttpMethod.delete.name then .ok 4
  else if method = HttpMethod.patch.name then .ok 5
  else if method = HttpMethod.options.name then .ok 6
  else if method = HttpMethod.head.name then .ok 7
  else .error (artifactError ("cannot emit route artifact for unsupported method " ++ textOf method))

def routeArtifactPatternMetadata (pattern : List UInt8) : Except Diagnostic (Nat × Nat) := do
  let paramCount ← checkedU32 (routePatternParamCount pattern) "route parameter count"
  pure (if routePatternHasParams pattern then 2 else 1, paramCount)

structure RouteEntry where
  method : Nat
  handlerId : Nat
  patternOffset : Nat
  patternLen : Nat
  nameOffset : Nat
  nameLen : Nat
  strategy : Nat
  executionKind : Nat
  paramCount : Nat
  flags : Nat
  deriving DecidableEq

def emitEntry (route : Route) (index : Nat) (strings : List UInt8) : Except Diagnostic (RouteEntry × List UInt8) := do
  let patternOffset ← checkedU32 strings.length "route pattern string offset"
  let strings := strings ++ route.pattern
  let patternLen ← checkedU32 route.pattern.length "route pattern string length"
  let name := route.name.getD []
  let nameOffset ← checkedU32 strings.length "route name string offset"
  let strings := strings ++ name
  let nameLen ← checkedU32 name.length "route name string length"
  let (strategy, paramCount) ← routeArtifactPatternMetadata route.pattern
  let method ← routeMethodCode route.method
  let handlerId ← checkedU32 (index + 1) "handler id"
  let executionKind := routeExecutionKind (route.response.map (·.kind))
    (route.response.bind (·.nativeBody)) (!route.effects.isEmpty)
  pure (⟨method, handlerId, patternOffset, patternLen, nameOffset, nameLen, strategy,
    executionKind.artifactCode, paramCount, 0⟩, strings)

def emitEntries : List Route → Nat → List UInt8 → Except Diagnostic (List RouteEntry × List UInt8)
  | [], _, strings => .ok ([], strings)
  | route :: rest, index, strings => do
    let (entry, strings) ← emitEntry route index strings
    let (entries, strings) ← emitEntries rest (index + 1) strings
    pure (entry :: entries, strings)

def words (values : List Nat) : List UInt8 := values.flatMap (toBytes 4)

def RouteEntry.words (entry : RouteEntry) : List Nat :=
  [entry.method, entry.handlerId, entry.patternOffset, entry.patternLen, entry.nameOffset,
    entry.nameLen, entry.strategy, entry.executionKind, entry.paramCount, entry.flags, 0, 0]

def entryBytes (entry : RouteEntry) : List UInt8 := Artifact.words entry.words

/-- `fnv1a64_with_zeroed_checksum`: a fold over the enumerated bytes. -/
def fnv1a64WithZeroedChecksum (bytes : List UInt8) : UInt64 :=
  bytes.zipIdx.foldl (fun hash indexed => fnvRound hash indexed.2 indexed.1) fnvOffsetBasis

def withChecksum (bytes : List UInt8) (checksum : UInt64) : List UInt8 :=
  bytes.take checksumOffset ++ toBytes 8 checksum.toNat ++ bytes.drop (checksumOffset + 8)

def saturatingMul (a b : Nat) : Nat := min (a * b) sizeMax

def emitRouteArtifact (app : ExtractedApp) : Except Diagnostic (Option (List UInt8)) :=
  if app.kind ≠ .web then .ok none
  else do
    let routeCount ← checkedU32 app.routes.length "route count"
    let routeTableOffset ← checkedU32 routeArtifactHeaderSize "route table offset"
    let routeTableSize ← checkedU32 (saturatingMul app.routes.length routeArtifactEntrySize) "route table size"
    let stringTableOffset ← checkedU32
      (routeArtifactHeaderSize + app.routes.length * routeArtifactEntrySize) "string table offset"
    let (entries, strings) ← emitEntries app.routes 0 []
    let stringTableSize ← checkedU32 strings.length "string table size"
    let bytes := slrtMagic ++
      words [routeArtifactVersion, routeArtifactEndianMarker, routeArtifactHeaderSize, routeCount,
        routeCount, routeTableOffset, routeTableSize, stringTableOffset, stringTableSize] ++
      toBytes 8 0 ++ words [0, 0, stringTableOffset, stringTableSize] ++
      entries.flatMap entryBytes ++ strings
    pure (some (withChecksum bytes (fnv1a64WithZeroedChecksum bytes)))

def planRoutes (app : ExtractedApp) : List PlanRoute :=
  app.routes.mapIdx fun index route =>
    ⟨route.method, route.pattern, route.name.getD [], index + 1⟩

lemma slice_middle (before middle after : List UInt8) :
    slice (before ++ (middle ++ after)) before.length middle.length = middle := by
  rw [slice, drop_left, take_left]

lemma slice_right (before after : List UInt8) (offset size : Nat) :
    slice (before ++ after) (before.length + offset) size = slice after offset size := by
  rw [slice, slice, drop_append, Nat.add_sub_cancel_left, drop_eq_nil_of_le (Nat.le_add_right _ _), nil_append]

lemma slice_left {before : List UInt8} {offset size : Nat} (after : List UInt8)
    (h : offset + size ≤ before.length) :
    slice (before ++ after) offset size = slice before offset size := by
  rw [slice, slice, drop_append_of_le_length (by omega), take_append_of_le_length]
  rw [length_drop]
  omega

@[simp] lemma words_length (values : List Nat) : (words values).length = 4 * values.length := by
  induction values with
  | nil => rfl
  | cons value rest ih =>
    change (toBytes 4 value ++ words rest).length = _
    rw [length_append, toBytes_length, ih, length_cons]
    omega

lemma wordAt_words (before after : List UInt8) (values : List Nat) (i value : Nat)
    (hValue : values[i]? = some value) (hFits : value ≤ uint32Max) :
    wordAt (before ++ (words values ++ after)) (before.length + 4 * i) = value := by
  induction values generalizing before i with
  | nil => cases hValue
  | cons first rest ih =>
    have hWords : words (first :: rest) = toBytes 4 first ++ words rest := rfl
    cases i with
    | zero =>
      cases hValue
      rw [hWords, append_assoc, wordAt, Nat.mul_zero, Nat.add_zero]
      have hSlice := slice_middle before (toBytes 4 value) (words rest ++ after)
      rw [toBytes_length] at hSlice
      rw [hSlice]
      exact fromBytes_toBytes_of_lt (by simp only [uint32Max] at hFits; omega)
    | succ i =>
      have hRest := ih (before ++ toBytes 4 first) i hValue
      rw [length_append, toBytes_length, append_assoc] at hRest
      rw [hWords, append_assoc, show before.length + 4 * (i + 1) = before.length + 4 + 4 * i by omega]
      exact hRest

lemma entryBytes_length (entry : RouteEntry) : (entryBytes entry).length = 48 := by
  rfl

lemma table_length (entries : List RouteEntry) : (entries.flatMap entryBytes).length = entries.length * 48 := by
  induction entries with
  | nil => rfl
  | cons entry rest ih =>
    rw [flatMap_cons, length_append, entryBytes_length, ih, length_cons]
    omega

lemma wordAt_table (before after : List UInt8) {entries : List RouteEntry} {i k value : Nat}
    {entry : RouteEntry} (hEntry : entries[i]? = some entry) (hValue : entry.words[k]? = some value)
    (hFits : value ≤ uint32Max) :
    wordAt (before ++ (entries.flatMap entryBytes ++ after)) (before.length + i * 48 + 4 * k) =
      value := by
  obtain ⟨hBound, hGet⟩ := List.getElem_of_getElem? hEntry
  have hSplit : entries = entries.take i ++ entry :: entries.drop (i + 1) := by
    rw [← hGet, getElem_cons_drop, take_append_drop]
  have hWord := wordAt_words (before ++ (entries.take i).flatMap entryBytes)
    ((entries.drop (i + 1)).flatMap entryBytes ++ after) entry.words k value hValue hFits
  rw [length_append, table_length, length_take, Nat.min_eq_left (Nat.le_of_lt hBound)] at hWord
  rw [hSplit]
  simp only [flatMap_append, flatMap_cons, append_assoc] at hWord ⊢
  exact hWord

lemma fnvFrom_append (index : Nat) (hash : UInt64) (first second : List UInt8) :
    fnvFrom index hash (first ++ second) = fnvFrom (index + first.length) (fnvFrom index hash first) second := by
  induction first generalizing index hash with
  | nil => rfl
  | cons b rest ih =>
    rw [cons_append, fnvFrom, ih, fnvFrom, length_cons,
      show index + 1 + rest.length = index + (rest.length + 1) by omega]

lemma fnvFrom_field (index : Nat) (hash : UInt64) (left right : List UInt8)
    (hLen : left.length = right.length) (hFrom : checksumOffset ≤ index)
    (hTo : index + left.length ≤ checksumOffset + 8) :
    fnvFrom index hash left = fnvFrom index hash right := by
  induction left generalizing index hash right with
  | nil =>
    cases right with
    | nil => rfl
    | cons => cases hLen
  | cons b rest ih =>
    cases right with
    | nil => cases hLen
    | cons b' rest' =>
      rw [length_cons] at hTo
      have hRound : fnvRound hash index b = fnvRound hash index b' := by
        simp only [fnvRound]
        rw [if_pos ⟨hFrom, by omega⟩, if_pos ⟨hFrom, by omega⟩]
      rw [fnvFrom, fnvFrom, hRound]
      exact ih (index + 1) _ rest' (by simpa using hLen) (by omega) (by omega)

lemma fnv1a64_eq_fnvFrom (bytes : List UInt8) :
    fnv1a64WithZeroedChecksum bytes = fnvFrom 0 fnvOffsetBasis bytes := by
  have hFold : ∀ (rest : List UInt8) (index : Nat) (hash : UInt64),
      (rest.zipIdx index).foldl (fun hash indexed => fnvRound hash indexed.2 indexed.1) hash =
        fnvFrom index hash rest := by
    intro rest
    induction rest with
    | nil => exact fun _ _ => rfl
    | cons b rest ih => exact fun index hash => ih (index + 1) (fnvRound hash index b)
  exact hFold bytes 0 fnvOffsetBasis

lemma withChecksum_eq {before after : List UInt8} (checksum : UInt64) (hLen : before.length = checksumOffset) :
    withChecksum (before ++ (toBytes 8 0 ++ after)) checksum = before ++ (toBytes 8 checksum.toNat ++ after) := by
  have hDrop : (before ++ (toBytes 8 0 ++ after)).drop (before.length + 8) = after := by
    rw [← append_assoc, show before.length + 8 = (before ++ toBytes 8 0).length by
      rw [length_append, toBytes_length]]
    exact drop_left
  rw [withChecksum, ← hLen, hDrop, take_left, append_assoc]

lemma fnvFrom_withChecksum {before after : List UInt8} (checksum : UInt64) (hLen : before.length = checksumOffset) :
    fnvFrom 0 fnvOffsetBasis (before ++ (toBytes 8 checksum.toNat ++ after)) =
      fnvFrom 0 fnvOffsetBasis (before ++ (toBytes 8 0 ++ after)) := by
  rw [fnvFrom_append, fnvFrom_append, fnvFrom_append, fnvFrom_append, Nat.zero_add, hLen,
    toBytes_length, toBytes_length]
  rw [fnvFrom_field checksumOffset _ (toBytes 8 checksum.toNat) (toBytes 8 0)
    (by rw [toBytes_length, toBytes_length]) (Nat.le_refl _) (by rw [toBytes_length])]

end Sloppy.Artifact
