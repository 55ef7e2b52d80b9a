import Sloppy.Codec.Percent
import Sloppy.Core.Room
import Mathlib.Data.List.Forall2
import Mathlib.Data.List.Induction

/-! # Query parsing

`sl_http_query_parse`: the pairs between ampersands, each cut at its first equals sign and decoded; a name that
is already there gets the new value. An empty pair has an empty name like any other.
-/

namespace Sloppy.Query

open Lib List
open Percent (Escapes decode)

structure QueryParam where
  name : List UInt8
  value : List UInt8
  deriving DecidableEq

def ampersand : UInt8 := '&'.toUInt8

def equals : UInt8 := '='.toUInt8

def queryOf (target : List UInt8) : List UInt8 := (target.dropWhile (· != '?'.toUInt8)).drop 1

def queryDecode (encoded : List UInt8) : Action Arena StatusCode (List UInt8) :=
  if encoded = [] then pure []
  else do
    arenaTake encoded.length 1
    match decode encoded with
    | none => .fail .invalidArgument
    | some text => pure text

def pairCount (query : List UInt8) : Nat := if query = [] then 0 else query.count ampersand + 1

def setParam (name value : List UInt8) : List QueryParam → List QueryParam
  | [] => [⟨name, value⟩]
  | param :: params =>
    if param.name = name then ⟨param.name, value⟩ :: params else param :: setParam name value params

variable (pair : List UInt8)

def encodedName : List UInt8 := pair.takeWhile (· != equals)

def encodedValue : List UInt8 := (pair.dropWhile (· != equals)).drop 1

def parsePair (params : List QueryParam) : Action Arena StatusCode (List QueryParam) := do
  let name ← queryDecode (encodedName pair)
  let value ← queryDecode (encodedValue pair)
  pure (setParam name value params)

def parsePairs : List (List UInt8) → List QueryParam → Action Arena StatusCode (List QueryParam)
  | [], params => pure params
  | pair :: pairs, params => do
    let params ← parsePair pair params
    parsePairs pairs params

def maxQueryParams : Nat := 64

def queryParamSize : Nat := 32

def queryParse (arena : Arena) (target : List UInt8) : Arena × Except StatusCode (List QueryParam) :=
  let query := queryOf target
  if query = [] then (arena, .ok [])
  else if pairCount query > maxQueryParams then (arena, .error .capacityExceeded)
  else
    match arenaTake (pairCount query * queryParamSize) 8 arena with
    | (allocated, .error code) => (allocated, .error code)
    | (allocated, .ok ()) =>
      match parsePairs (query.splitOn ampersand) [] allocated with
      | (after, .error code) => ((arenaResetTo after (arenaMark arena)).1, .error code)
      | (after, .ok params) => (after, .ok params)

variable (decoded : List QueryParam)

def lastValue (name : List UInt8) : List UInt8 :=
  ((decoded.reverse.find? (·.name == name)).map QueryParam.value).getD []

/-- Every name once, where it comes first, with its last value. -/
def lastValues : List QueryParam :=
  (decoded.map QueryParam.name).eraseDups.map fun name => ⟨name, lastValue decoded name⟩

lemma eraseDups_concat (names : List (List UInt8)) (name : List UInt8) :
    (names ++ [name]).eraseDups = names.eraseDups ++ if name ∈ names then [] else [name] := by
  rw [eraseDups_append]
  split
  next hThere =>
    simp [removeAll, hThere]
  next hNew =>
    simp [removeAll, hNew, eraseDups_cons]

lemma eraseDups_nodup (names : List (List UInt8)) : names.eraseDups.Nodup := by
  induction names using reverseRecOn with
  | nil => exact nodup_nil
  | append_singleton names name ih =>
    rw [eraseDups_concat]
    split
    · rwa [append_nil]
    rename_i hNew
    refine nodup_append.mpr ⟨ih, pairwise_singleton _ _, ?_⟩
    rintro other hOther _ hName rfl
    rw [mem_singleton] at hName
    exact hNew (hName ▸ mem_eraseDups.mp hOther)

lemma setParam_map {names : List (List UInt8)} (hNames : names.Nodup) (valueOf : List UInt8 → List UInt8)
    (name value : List UInt8) :
    setParam name value (names.map fun other => ⟨other, valueOf other⟩) =
      (names ++ if name ∈ names then [] else [name]).map fun other =>
        ⟨other, if other = name then value else valueOf other⟩ := by
  induction names with
  | nil => simp [setParam]
  | cons first names ih =>
    obtain ⟨hFirst, hRest⟩ := nodup_cons.mp hNames
    rw [map_cons, setParam]
    by_cases hSame : first = name
    · have hTail : ∀ other ∈ names, (if other = name then value else valueOf other) = valueOf other := by
        intro other hOther
        rw [if_neg]
        rintro rfl
        exact hFirst (hSame ▸ hOther)
      simp only [hSame, mem_cons, true_or, if_true, append_nil, map_cons]
      exact congrArg _ (map_congr_left fun other hOther => by rw [hTail other hOther])
    · simp only [if_neg hSame, ih hRest, mem_cons, Ne.symm hSame, false_or, cons_append, map_cons]

lemma lastValue_concat (param : QueryParam) (name : List UInt8) :
    lastValue (decoded ++ [param]) name = if name = param.name then param.value else lastValue decoded name := by
  rw [lastValue, reverse_append, reverse_singleton, singleton_append, find?_cons]
  by_cases hSame : name = param.name
  · rw [if_pos hSame, hSame, beq_self_eq_true]
    rfl
  · rw [if_neg hSame, beq_eq_false_iff_ne.mpr (Ne.symm hSame)]
    rfl

lemma foldl_setParam :
    decoded.foldl (fun params param => setParam param.name param.value params) [] = lastValues decoded := by
  induction decoded using reverseRecOn with
  | nil => rfl
  | append_singleton decoded param ih =>
    rw [foldl_append, ih, foldl_cons, foldl_nil, lastValues, lastValues, setParam_map (eraseDups_nodup _)]
    simp only [map_append, map_cons, map_nil, eraseDups_concat, mem_eraseDups, lastValue_concat]

lemma escapes_pair : Escapes pair ↔ Escapes (encodedName pair) ∧ Escapes (encodedValue pair) := by
  have hSplit := takeWhile_append_dropWhile (p := (· != equals)) (l := pair)
  rw [encodedName, encodedValue]
  cases hRest : pair.dropWhile (· != equals) with
  | nil =>
    rw [hRest, append_nil] at hSplit
    rw [hSplit]
    exact ⟨fun h => ⟨h, Percent.escapes_nil⟩, fun h => h.1⟩
  | cons b =>
    have hByte : b = equals := by
      have hHead := head?_dropWhile_not (fun c => c != equals) pair
      rw [hRest] at hHead
      simpa using hHead
    rw [hRest, hByte] at hSplit
    rw [← hSplit, Percent.escapes_append (by decide) (by decide), hSplit]
    rfl

lemma escapes_join {pairs : List (List UInt8)} (hSome : pairs ≠ []) :
    Escapes ([ampersand].intercalate pairs) ↔ ∀ pair ∈ pairs, Escapes pair := by
  induction pairs with
  | nil => exact absurd rfl hSome
  | cons pair pairs ih =>
    cases pairs with
    | nil => simp
    | cons =>
      rw [intercalate_cons_cons, append_assoc, singleton_append,
        Percent.escapes_append (by decide) (by decide), ih (cons_ne_nil _ _)]
      exact forall_mem_cons.symm

def Decodes (param : QueryParam) : Prop :=
  decode (encodedName pair) = some param.name ∧ decode (encodedValue pair) = some param.value

lemma decodes_iff : (∃ param, Decodes pair param) ↔ Escapes pair := by
  rw [escapes_pair, ← Percent.decode_isSome, ← Percent.decode_isSome, Option.isSome_iff_exists,
    Option.isSome_iff_exists]
  constructor
  · rintro ⟨param, hName, hValue⟩
    exact ⟨⟨_, hName⟩, _, hValue⟩
  · rintro ⟨⟨name, hName⟩, value, hValue⟩
    exact ⟨⟨name, value⟩, hName, hValue⟩

lemma forall₂_decodes (pairs : List (List UInt8)) :
    (∃ decoded, List.Forall₂ Decodes pairs decoded) ↔ ∀ pair ∈ pairs, Escapes pair := by
  induction pairs with
  | nil => exact ⟨fun _ _ hPair => absurd hPair not_mem_nil, fun _ => ⟨[], .nil⟩⟩
  | cons pair pairs ih =>
    rw [forall_mem_cons, ← ih, ← decodes_iff]
    constructor
    · rintro ⟨_, hDecoded⟩
      cases hDecoded with
      | cons hFirst hRest => exact ⟨⟨_, hFirst⟩, _, hRest⟩
    · rintro ⟨⟨param, hFirst⟩, decoded, hRest⟩
      exact ⟨param :: decoded, .cons hFirst hRest⟩

def takeText (encoded : List UInt8) : Action Arena StatusCode Unit :=
  if encoded = [] then pure () else arenaTake encoded.length 1

def takePairs : List (List UInt8) → Action Arena StatusCode Unit
  | [] => pure ()
  | pair :: pairs => do
    takeText (encodedName pair)
    takeText (encodedValue pair)
    takePairs pairs

lemma queryDecode_ok {encoded text : List UInt8} {arena after : Arena} :
    queryDecode encoded arena = (after, .ok text) ↔
      decode encoded = some text ∧ takeText encoded arena = (after, .ok ()) := by
  rw [queryDecode, takeText]
  split
  next hEmpty =>
    subst hEmpty
    constructor
    · intro h
      cases h
      exact ⟨rfl, rfl⟩
    · rintro ⟨hText, hTake⟩
      cases hText
      cases hTake
      rfl
  · constructor
    · intro h
      obtain ⟨mid, _, hTake, hText⟩ := Action.bind_ok h
      cases hDecode : decode encoded with
      | none =>
        rw [hDecode] at hText
        cases hText
      | some =>
        rw [hDecode] at hText
        cases hText
        exact ⟨rfl, hTake⟩
    · rintro ⟨hText, hTake⟩
      rw [Action.bind_eq_of_ok hTake, hText]
      rfl

lemma parsePairs_ok {pairs : List (List UInt8)} {params result : List QueryParam} {arena after : Arena} :
    parsePairs pairs params arena = (after, .ok result) ↔ ∃ decoded, List.Forall₂ Decodes pairs decoded ∧
        result = decoded.foldl (fun params param => setParam param.name param.value params) params ∧
        takePairs pairs arena = (after, .ok ()) := by
  induction pairs generalizing params arena with
  | nil =>
    constructor
    · intro h
      cases h
      exact ⟨[], .nil, rfl, rfl⟩
    · rintro ⟨_, hDecoded, rfl, hTake⟩
      cases hDecoded
      cases hTake
      rfl
  | cons pair pairs ih =>
    constructor
    · intro h
      obtain ⟨mid, _, hPair, hRest⟩ := Action.bind_ok h
      obtain ⟨named, name, hName, hPair⟩ := Action.bind_ok hPair
      obtain ⟨valued, value, hValue, hPair⟩ := Action.bind_ok hPair
      obtain ⟨rfl, rfl⟩ := Action.pure_ok hPair
      obtain ⟨hName, hTakeName⟩ := queryDecode_ok.mp hName
      obtain ⟨hValue, hTakeValue⟩ := queryDecode_ok.mp hValue
      obtain ⟨decoded, hDecoded, rfl, hTake⟩ := ih.mp hRest
      refine ⟨⟨name, value⟩ :: decoded, .cons ⟨hName, hValue⟩ hDecoded, rfl, ?_⟩
      exact (Action.bind_eq_of_ok hTakeName).trans ((Action.bind_eq_of_ok hTakeValue).trans hTake)
    · rintro ⟨_, hDecoded, rfl, hTake⟩
      cases hDecoded with
      | @cons _ param _ decoded hFirst hRest =>
        obtain ⟨named, _, hTakeName, hTake⟩ := Action.bind_ok hTake
        obtain ⟨valued, _, hTakeValue, hTake⟩ := Action.bind_ok hTake
        have hName := queryDecode_ok.mpr ⟨hFirst.1, hTakeName⟩
        have hValue := queryDecode_ok.mpr ⟨hFirst.2, hTakeValue⟩
        have hPair : parsePair pair params arena = (valued, .ok (setParam param.name param.value params)) :=
          (Action.bind_eq_of_ok hName).trans (Action.bind_eq_of_ok hValue)
        exact (Action.bind_eq_of_ok hPair).trans (ih.mpr ⟨decoded, hRest, rfl, hTake⟩)

lemma keeps_parsePairs (start : Arena) (pairs : List (List UInt8)) (params : List QueryParam) :
    Action.Keeps (Since start) (parsePairs pairs params) := by
  have hDecode : ∀ encoded, Action.Keeps (Since start) (queryDecode encoded) := by
    intro encoded
    rw [queryDecode]
    split
    · exact .pure _
    refine (keeps_arenaTake _ _ _).bind fun _ => ?_
    split
    · exact .fail _
    · exact .pure _
  induction pairs generalizing params with
  | nil => exact .pure _
  | cons pair pairs ih =>
    exact ((hDecode _).bind fun _ => (hDecode _).bind fun _ => .pure _).bind fun _ => ih _

def queryPairs (query : List UInt8) : List (List UInt8) := if query = [] then [] else query.splitOn ampersand

def queryRoom (query : List UInt8) : Action Arena StatusCode Unit :=
  if query = [] then pure ()
  else do
    arenaTake (pairCount query * queryParamSize) 8
    takePairs (query.splitOn ampersand)

/-- Parsing succeeds if every escape is well formed, the pairs are few enough and the arena has room; it gives
the decoded pairs with each name once. A failure leaves the arena at its mark. -/
theorem queryParse_folds (arena : Arena) (target : List UInt8) :
    let query := queryOf target
    ((∃ params, (queryParse arena target).2 = .ok params) ↔
        Escapes query ∧ pairCount query ≤ maxQueryParams ∧ (queryRoom query arena).2 = .ok ()) ∧
      (∀ params, (queryParse arena target).2 = .ok params →
        ∃ decoded, List.Forall₂ Decodes (queryPairs query) decoded ∧ params = lastValues decoded) ∧
      ∀ code, (queryParse arena target).2 = .error code → arenaMark (queryParse arena target).1 = arenaMark arena := by
  intro query
  by_cases hEmpty : query = []
  · have hParse : queryParse arena target = (arena, .ok []) := if_pos hEmpty
    rw [hParse, queryRoom, if_pos hEmpty, queryPairs, if_pos hEmpty, hEmpty]
    refine ⟨⟨fun _ => ⟨Percent.escapes_nil, Nat.zero_le _, rfl⟩, fun _ => ⟨[], rfl⟩⟩, ?_, nofun⟩
    intro params h
    cases h
    exact ⟨[], .nil, rfl⟩
  by_cases hMany : pairCount query > maxQueryParams
  · have hParse : queryParse arena target = (arena, .error .capacityExceeded) := (if_neg hEmpty).trans (if_pos hMany)
    rw [hParse]
    exact ⟨⟨nofun, fun h => absurd h.2.1 (Nat.not_le.mpr hMany)⟩, nofun, fun _ _ => rfl⟩
  have hEscapes : Escapes query ↔ ∃ decoded, List.Forall₂ Decodes (query.splitOn ampersand) decoded := by
    have hJoined : [ampersand].intercalate (query.splitOn ampersand) = query := intercalate_splitOn ampersand
    rw [forall₂_decodes, ← escapes_join, hJoined]
    intro hNone
    rw [hNone] at hJoined
    exact hEmpty hJoined.symm
  rw [queryRoom, if_neg hEmpty, queryPairs, if_neg hEmpty]
  cases hTake : arenaTake (pairCount query * queryParamSize) 8 arena with
  | mk allocated outcome =>
    cases outcome with
    | error code =>
      have hParse : queryParse arena target = (allocated, .error code) := by
        simp only [queryParse]
        rw [if_neg hEmpty, if_neg hMany, hTake]
      rw [hParse, Action.bind_eq_of_error hTake, arenaTake_error hTake]
      exact ⟨⟨nofun, fun h => absurd h.2.2 nofun⟩, nofun, fun _ _ => rfl⟩
    | ok =>
      have hTaken := keeps_arenaTake arena (pairCount query * queryParamSize) 8 arena (.refl arena)
      rw [hTake] at hTaken
      have hKept := keeps_parsePairs arena (query.splitOn ampersand) [] allocated hTaken
      rw [Action.bind_eq_of_ok hTake]
      cases hPairs : parsePairs (query.splitOn ampersand) [] allocated with
      | mk after outcome =>
        rw [hPairs] at hKept
        cases outcome with
        | error code =>
          have hParse : queryParse arena target = ((arenaResetTo after (arenaMark arena)).1, .error code) := by
            simp only [queryParse]
            rw [if_neg hEmpty, if_neg hMany, hTake]
            simp only [show parsePairs ((queryOf target).splitOn ampersand) [] allocated = _ from hPairs]
          rw [hParse]
          refine ⟨⟨nofun, ?_⟩, nofun, fun _ _ => hKept.arenaResetTo⟩
          rintro ⟨hWell, -, hRoom⟩
          obtain ⟨decoded, hDecoded⟩ := hEscapes.mp hWell
          have hDone := (@parsePairs_ok _ [] _ _ _).mpr ⟨decoded, hDecoded, rfl, Prod.ext rfl hRoom⟩
          rw [hPairs] at hDone
          cases hDone
        | ok params =>
          have hParse : queryParse arena target = (after, .ok params) := by
            simp only [queryParse]
            rw [if_neg hEmpty, if_neg hMany, hTake]
            simp only [show parsePairs ((queryOf target).splitOn ampersand) [] allocated = _ from hPairs]
          obtain ⟨decoded, hDecoded, hParams, hRoom⟩ := parsePairs_ok.mp hPairs
          rw [foldl_setParam] at hParams
          rw [hParse, hRoom]
          refine ⟨⟨fun _ => ⟨hEscapes.mpr ⟨decoded, hDecoded⟩, Nat.le_of_not_lt hMany, rfl⟩, fun _ => ⟨_, rfl⟩⟩, ?_,
            nofun⟩
          intro other hOther
          cases hOther
          exact ⟨decoded, hDecoded, hParams⟩

/-- An empty pair is a parameter without a name, and an arena may be too small for a query without escapes. -/
theorem queryParse_emptyPair : (queryParse ⟨16, 256, 0, 0, 1⟩ (ascii "/?a=1&&b=2".toList)).2 =
        .ok [⟨ascii ['a'], ascii ['1']⟩, ⟨[], []⟩, ⟨ascii ['b'], ascii ['2']⟩] ∧
      (queryParse ⟨16, 32, 0, 0, 1⟩ (ascii "/?a=1".toList)).2 = .error .outOfMemory := by
  decide +kernel

end Sloppy.Query
