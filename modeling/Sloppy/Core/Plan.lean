import Sloppy.Core.Status
import Mathlib.Data.List.Basic

/-! # Methods, plan routes and paths

The HTTP methods with their wire codes, and the part of a plan route that dispatch and the route artifact read. Paths
are divided by slashes: the list of parts and a cursor that skips one slash at a time agree.
-/

namespace Sloppy

def ascii (text : List Char) : List UInt8 := text.map Char.toUInt8

inductive HttpMethod where
  | unknown | get | post | put | delete | patch | options | head
  deriving DecidableEq

def HttpMethod.code : HttpMethod → Nat
  | .unknown => 0
  | .get => 1
  | .post => 2
  | .put => 3
  | .delete => 4
  | .patch => 5
  | .options => 6
  | .head => 7

def HttpMethod.name : HttpMethod → List UInt8
  | .unknown => []
  | .get => ascii ['G', 'E', 'T']
  | .post => ascii ['P', 'O', 'S', 'T']
  | .put => ascii ['P', 'U', 'T']
  | .delete => ascii ['D', 'E', 'L', 'E', 'T', 'E']
  | .patch => ascii ['P', 'A', 'T', 'C', 'H']
  | .options => ascii ['O', 'P', 'T', 'I', 'O', 'N', 'S']
  | .head => ascii ['H', 'E', 'A', 'D']

def httpMethodFromStr (method : List UInt8) : Except StatusCode HttpMethod :=
  if method.length = 3 then
    if method = HttpMethod.get.name then .ok .get
    else if method = HttpMethod.put.name then .ok .put
    else .error .unsupported
  else if method.length = 4 then
    if method = HttpMethod.post.name then .ok .post
    else if method = HttpMethod.head.name then .ok .head
    else .error .unsupported
  else if method.length = 5 then
    if method = HttpMethod.patch.name then .ok .patch else .error .unsupported
  else if method.length = 6 then
    if method = HttpMethod.delete.name then .ok .delete else .error .unsupported
  else if method.length = 7 then
    if method = HttpMethod.options.name then .ok .options else .error .unsupported
  else .error .unsupported

def httpMethodSupported : HttpMethod → Bool
  | .get | .post | .put | .patch | .delete => true
  | _ => false

def planRouteMethodSupported (method : List UInt8) : Bool :=
  match httpMethodFromStr method with
  | .ok parsed => httpMethodSupported parsed || parsed == .options
  | .error _ => false

structure PlanRoute where
  method : List UInt8
  pattern : List UInt8
  name : List UInt8
  handlerId : Nat
  deriving DecidableEq

lemma httpMethodFromStr_ok_iff {method : List UInt8} {parsed : HttpMethod} :
    httpMethodFromStr method = .ok parsed ↔ method = parsed.name ∧ parsed ≠ .unknown := by
  constructor
  · intro h
    unfold httpMethodFromStr at h
    split_ifs at h
    all_goals
      cases h
      exact ⟨by assumption, by decide⟩
  · rintro ⟨rfl, hKnown⟩
    cases parsed with
    | unknown => exact absurd rfl hKnown
    | _ => rfl

open List

def slash : UInt8 := '/'.toUInt8

def splitSlash : List UInt8 → List (List UInt8)
  | [] => [[]]
  | b :: rest =>
    if b = slash then [] :: splitSlash rest
    else
      match splitSlash rest with
      | [] => [[b]]
      | part :: parts => (b :: part) :: parts

def untilSlash (text : List UInt8) : List UInt8 := text.takeWhile (· != slash)

lemma splitSlash_ne_nil (text : List UInt8) : splitSlash text ≠ [] := by
  cases text with
  | nil => exact cons_ne_nil _ _
  | cons =>
    rw [splitSlash]
    split
    · exact cons_ne_nil _ _
    · split <;> exact cons_ne_nil _ _

lemma splitSlash_slash (rest : List UInt8) :
    splitSlash (slash :: rest) = [] :: splitSlash rest := by
  rw [splitSlash, if_pos rfl]

variable {b : UInt8}

lemma splitSlash_cons {rest part : List UInt8} {parts : List (List UInt8)} (hByte : b ≠ slash)
    (hRest : splitSlash rest = part :: parts) : splitSlash (b :: rest) = (b :: part) :: parts := by
  rw [splitSlash, if_neg hByte, hRest]

lemma untilSlash_slash (rest : List UInt8) : untilSlash (slash :: rest) = [] := by
  simp [untilSlash]

lemma untilSlash_cons (hByte : b ≠ slash) (rest : List UInt8) : untilSlash (b :: rest) = b :: untilSlash rest := by
  simp [untilSlash, hByte]

lemma untilSlash_length_le (text : List UInt8) : (untilSlash text).length ≤ text.length :=
  (takeWhile_sublist _).length_le

lemma splitSlash_step (text : List UInt8) :
    splitSlash text =
      if (untilSlash text).length = text.length then [text]
      else untilSlash text :: splitSlash (text.drop ((untilSlash text).length + 1)) := by
  induction text with
  | nil => rfl
  | cons b rest ih =>
    by_cases hByte : b = slash
    · subst hByte
      simp [splitSlash_slash, untilSlash_slash]
    rw [untilSlash_cons hByte]
    simp only [length_cons, Nat.add_right_cancel_iff, drop_succ_cons]
    split at ih
    next hAll =>
      rw [if_pos hAll, splitSlash_cons hByte ih]
    next hSome =>
      rw [if_neg hSome, splitSlash_cons hByte ih]

variable {text : List UInt8}

lemma untilSlash_stop (h : (untilSlash text).length ≠ text.length) :
    text[(untilSlash text).length]? = some slash := by
  induction text with
  | nil => exact absurd rfl h
  | cons b rest ih =>
    by_cases hByte : b = slash
    · subst hByte
      simp [untilSlash_slash]
    · rw [untilSlash_cons hByte] at h ⊢
      simp only [length_cons, ne_eq, Nat.add_right_cancel_iff] at h
      simpa using ih h

lemma slash_notMem_untilSlash (text : List UInt8) : slash ∉ untilSlash text := by
  intro h
  have hAll := all_eq_true.mp (all_takeWhile (p := (· != slash)) (l := text)) slash h
  simp at hAll

lemma untilSlash_eq_self (h : (untilSlash text).length = text.length) : untilSlash text = text :=
  (takeWhile_sublist _).eq_of_length h

lemma flatMap_splitSlash (text : List UInt8) : (splitSlash text).flatMap (slash :: ·) = slash :: text := by
  induction text with
  | nil => rfl
  | cons b rest ih =>
    by_cases hByte : b = slash
    · rw [hByte, splitSlash_slash, flatMap_cons, ih]
      rfl
    obtain ⟨part, parts, hRest⟩ := exists_cons_of_ne_nil (splitSlash_ne_nil rest)
    rw [hRest, flatMap_cons, cons_append, List.cons.injEq] at ih
    rw [splitSlash_cons hByte hRest, flatMap_cons, cons_append, cons_append, ih.2]

lemma splitSlash_length (text : List UInt8) : (splitSlash text).length ≤ text.length + 1 := by
  induction text with
  | nil => exact Nat.le_refl _
  | cons b rest ih =>
    rw [splitSlash]
    split
    · rw [length_cons, length_cons]
      omega
    split
    · rw [length_cons, length_nil]
      omega
    next hSplit =>
      rw [hSplit] at ih
      simp only [length_cons] at ih ⊢
      omega

end Sloppy
