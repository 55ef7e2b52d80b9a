import Sloppy.Route.Grammar

/-! # What a pattern matches

The loops over path positions compare the segments of a pattern with those of the path one by one, so a pattern
without parameters matches its own text only. The constrained parameter kinds exclude each other.
-/

namespace Sloppy.Route

open List

/-- The segments of a pattern match the segments of a path, pairwise and none of them empty. -/
def partsMatch : List RouteSegment → List (List UInt8) → Bool
  | [], [] => true
  | segment :: segments, part :: parts =>
    part != [] && segment.matches part && partsMatch segments parts
  | _, _ => false

variable {segments : List RouteSegment}

lemma partsMatch_cons {seg : RouteSegment} {parts : List (List UInt8)}
    (h : partsMatch (seg :: segments) parts = true) :
    ∃ part rest, parts = part :: rest ∧ part ≠ [] ∧ seg.matches part = true ∧ partsMatch segments rest = true := by
  cases parts with
  | nil => simp [partsMatch] at h
  | cons part rest =>
    simp only [partsMatch, Bool.and_eq_true, bne_iff_ne] at h
    exact ⟨part, rest, rfl, h.1.1, h.1.2, h.2⟩

variable (segs : List RouteSegment)

lemma partsMatch_emptyPart (parts : List (List UInt8)) : partsMatch segs ([] :: parts) = false := by
  cases segs <;> simp [partsMatch]

variable {path : List UInt8} {pos : Nat}

lemma couldMatchFrom_eq (hPos : pos ≤ path.length) :
    couldMatchFrom path segs pos = partsMatch segs (partsFrom path pos) := by
  induction segs generalizing pos with
  | nil =>
    rw [couldMatchFrom]
    by_cases hEnd : pos = path.length
    · rw [hEnd, partsFrom_end]
      split <;> simp_all [partsMatch]
    have hNonempty := splitSlash_ne_nil (path.drop pos)
    obtain ⟨part, parts, hSplit⟩ := exists_cons_of_ne_nil hNonempty
    rw [partsFrom, if_neg (fun h => hEnd h.1), hSplit]
    simp [partsMatch, hEnd]
  | cons seg segs ih =>
    rw [couldMatchFrom]
    by_cases hEnd : pos = path.length
    · rw [if_pos (Nat.le_of_eq hEnd.symm), hEnd, partsFrom_end]
      split
      · rw [partsMatch_emptyPart]
      · rfl
    · have hLt : pos < path.length := by omega
      rw [if_neg (by omega)]
      by_cases hSeg : segmentAt path pos = []
      · obtain ⟨parts, hParts⟩ := partsFrom_empty hLt hSeg
        rw [if_pos hSeg, hParts, partsMatch_emptyPart]
      · rw [if_neg hSeg, partsFrom_step hLt hSeg, ih (nextPos_le hPos), partsMatch]
        cases hMatch : seg.matches (segmentAt path pos) <;> simp [hSeg]

lemma length_pos_of_rooted (hPath : path.head? = some slash) : 1 ≤ path.length := by
  cases path with
  | nil => cases hPath
  | cons => exact Nat.succ_pos _

lemma patternCouldMatch_eq (hPath : path.head? = some slash) (pat : RoutePattern) :
    patternCouldMatch pat path = partsMatch pat.segments (pathParts path) := by
  have hPositive := length_pos_of_rooted hPath
  simp only [patternCouldMatch, hPath, ne_eq, not_true_eq_false, if_false]
  by_cases hLen : path.length = 1
  · obtain ⟨b, rfl⟩ := List.length_eq_one_iff.mp hLen
    split
    next hRoot =>
      rw [hRoot]
      rfl
    next hSome =>
      obtain ⟨seg, segments, hSegs⟩ := exists_cons_of_ne_nil hSome
      rw [hSegs]
      rfl
  · split
    next hRoot =>
      obtain ⟨part, parts, hSplit⟩ := exists_cons_of_ne_nil (splitSlash_ne_nil (path.drop 1))
      rw [hRoot, pathParts, if_neg hLen, hSplit]
      simp [partsMatch, hLen]
    · rw [couldMatchFrom_eq _ hPositive, pathParts_eq_partsFrom hLen]

/-- Each segment of the path is not empty and is the text or of the kind that the pattern has there; the
parameters in their order. -/
def captureParts : List RouteSegment → List (List UInt8) → Option (List RouteParam)
  | [], [] => some []
  | .static text :: segments, part :: parts => if part ≠ [] ∧ text = part then captureParts segments parts else none
  | .param name kind :: segments, part :: parts =>
    if part ≠ [] ∧ segmentMatchesKind kind part = true then
      (captureParts segments parts).map (⟨name, part, kind⟩ :: ·)
    else none
  | _, _ => none

lemma captureParts_isSome (parts : List (List UInt8)) :
    (captureParts segs parts).isSome = partsMatch segs parts := by
  induction segs generalizing parts with
  | nil => cases parts <;> rfl
  | cons seg segs ih =>
    cases parts with
    | nil => cases seg <;> rfl
    | cons =>
      rw [partsMatch, ← ih]
      cases seg with
      | static =>
        rw [captureParts]
        split
        next h =>
          simp [h.1, h.2, RouteSegment.matches]
        next h =>
          simpa [RouteSegment.matches] using fun hPart hText => absurd ⟨hPart, hText⟩ h
      | param =>
        rw [captureParts]
        split
        next h =>
          simp [h.1, h.2, RouteSegment.matches]
        next h =>
          simpa [RouteSegment.matches] using fun hPart hKind => absurd ⟨hPart, hKind⟩ h

lemma captureParts_empty (parts : List (List UInt8)) : captureParts segs ([] :: parts) = none := by
  rcases segs with _ | ⟨_ | _, segs⟩ <;> simp [captureParts]

lemma captureParts_none (seg : RouteSegment) (segs : List RouteSegment) : captureParts (seg :: segs) [] = none := by
  cases seg <;> rfl

variable {caps : List RouteParam} {kind : RouteParamKind}

lemma room_param {segs : List RouteSegment} {name : List UInt8} (capture : RouteParam)
    (hRoom : caps.length + (RouteSegment.param name kind :: segs).countP RouteSegment.isParam ≤ maxParams) :
    ¬maxParams ≤ caps.length ∧ (caps ++ [capture]).length + segs.countP RouteSegment.isParam ≤ maxParams := by
  simp only [countP_cons, RouteSegment.isParam, if_true, length_append, length_singleton] at hRoom ⊢
  omega

lemma captureFrom_eq (hPos : pos ≤ path.length)
    (hRoom : caps.length + segments.countP RouteSegment.isParam ≤ maxParams) :
    captureFrom path segments pos caps = (captureParts segments (partsFrom path pos)).map (caps ++ ·) := by
  induction segments generalizing pos caps with
  | nil =>
    rw [captureFrom]
    by_cases hEnd : pos = path.length
    · rw [hEnd, partsFrom_end]
      by_cases hLast : path.getLast? = some slash <;> simp [hLast, captureParts]
    · obtain ⟨part, parts, hSplit⟩ := exists_cons_of_ne_nil (splitSlash_ne_nil (path.drop pos))
      rw [if_pos (Or.inl hEnd), partsFrom, if_neg fun h => hEnd h.1, hSplit, captureParts.eq_def]
      rfl
  | cons seg segments ih =>
    rw [captureFrom]
    split
    · obtain rfl : pos = path.length := by omega
      rw [partsFrom_end]
      split
      · rw [captureParts_empty]
        rfl
      · rw [captureParts_none]
        rfl
    next hInside =>
      by_cases hPart : segmentAt path pos = []
      · obtain ⟨parts, hParts⟩ := partsFrom_empty (Nat.lt_of_not_le hInside) hPart
        rw [hParts, captureParts_empty]
        simp only [if_pos hPart]
        rfl
      · rw [partsFrom_step (Nat.lt_of_not_le hInside) hPart]
        cases seg with
        | static text =>
          by_cases hText : text = segmentAt path pos
          · simp [captureParts, hPart, hText, ih (nextPos_le hPos) hRoom]
          · simp [captureParts, hText]
        | param name kind =>
          obtain ⟨hMore, hNext⟩ := room_param ⟨name, segmentAt path pos, kind⟩ hRoom
          cases hKind : segmentMatchesKind kind (segmentAt path pos) with
          | false => simp [captureParts, hKind]
          | true =>
            simp [captureParts, hPart, hKind, hMore, ih (nextPos_le hPos) hNext, Option.map_map, Function.comp_def]

def capturedParams (pattern : RoutePattern) (path : List UInt8) : List RouteParam :=
  (captureFrom path pattern.segments 1 []).getD []

variable {pat : RoutePattern}

lemma matchTrustedPattern_eq (copy : CopyParams) (hPath : path.head? = some slash)
    (hCount : pat.paramCount = pat.segments.countP RouteSegment.isParam)
    (hBound : pat.paramCount ≤ maxParams) :
    matchTrustedPattern copy pat path =
      if patternCouldMatch pat path then
        match copyRouteParams copy (capturedParams pat path) with
        | .error code => .error code
        | .ok () => .ok (some (capturedParams pat path))
      else .ok none := by
  have hGuard : ¬(pat.paramCount > maxParams ∨ path.head? ≠ some slash) := by
    rintro (h | h)
    · omega
    · exact h hPath
  have hRoom : ([] : List RouteParam).length + pat.segments.countP RouteSegment.isParam ≤
      maxParams := by
    rw [length_nil]
    omega
  have hSome : (captureFrom path pat.segments 1 []).isSome = couldMatchFrom path pat.segments 1 := by
    have hPositive := length_pos_of_rooted hPath
    rw [captureFrom_eq hPositive hRoom, Option.isSome_map, captureParts_isSome, couldMatchFrom_eq _ hPositive]
  rw [matchTrustedPattern, if_neg hGuard]
  simp only [patternCouldMatch, hPath, ne_eq, not_true_eq_false, if_false]
  split
  next hRoot =>
    by_cases hLen : path.length = 1
    · obtain ⟨b, rfl⟩ := List.length_eq_one_iff.mp hLen
      obtain rfl : b = slash := Option.some.inj hPath
      simp [capturedParams, hRoot, captureFrom, copyRouteParams]
    · simp [hLen]
  · rw [← hSome, capturedParams]
    cases captureFrom path pat.segments 1 [] <;> rfl

def SegmentOf (text : List UInt8) (segment : RouteSegment) : Prop :=
  text ≠ [] ∧ (segment.isParam = true ∨ segment = .static text)

structure ParsedFrom (text : List UInt8) (pattern : RoutePattern) : Prop where
  source : pattern.source = text
  rooted : text.head? = some slash
  count : pattern.paramCount = pattern.segments.countP RouteSegment.isParam
  bound : pattern.paramCount ≤ maxParams
  segments : List.Forall₂ SegmentOf (pathParts text) pattern.segments

variable {text : List UInt8}

lemma segmentOf_of_grammar {seg : RouteSegment} (h : SegmentGrammar text seg) : SegmentOf text seg := by
  refine ⟨segmentGrammar_nonempty h, ?_⟩
  cases h with
  | static => exact Or.inr rfl
  | untyped | typed => exact Or.inl rfl

lemma patternParse_ok (h : patternParse text = .ok pat) : ParsedFrom text pat := by
  obtain ⟨hGrammar, hPat⟩ := patternParse_iff.mp h
  obtain ⟨parts, rfl, hFree, hAll⟩ := hGrammar.parts
  rw [hPat]
  refine ⟨rfl, joinParts_head parts, rfl, hGrammar.params, ?_⟩
  rw [pathParts_join hFree (forall₂_nonempty hAll)]
  exact hAll.imp fun _ _ => segmentOf_of_grammar

variable {texts : List (List UInt8)}

lemma forall₂_texts (h : List.Forall₂ SegmentOf texts segments) : ∀ text ∈ texts, text ≠ [] := by
  induction h with
  | nil => exact forall_mem_nil _
  | cons hFirst _ ih => exact forall_mem_cons.mpr ⟨hFirst.1, ih⟩

lemma forall₂_static (h : List.Forall₂ SegmentOf texts segments)
    (hStatic : segments.countP RouteSegment.isParam = 0) : segments = texts.map .static := by
  induction h with
  | nil => rfl
  | @cons text seg texts segments hFirst hRest ih =>
    rw [countP_cons] at hStatic
    obtain ⟨-, hParam | rfl⟩ := hFirst
    · rw [if_pos hParam] at hStatic
      omega
    · rw [map_cons, ih (by omega)]

lemma partsMatch_static (hTexts : ∀ text ∈ texts, text ≠ []) (parts : List (List UInt8)) :
    partsMatch (texts.map .static) parts = (texts == parts) := by
  induction texts generalizing parts with
  | nil => cases parts <;> rfl
  | cons text texts ih =>
    cases parts with
    | nil => rfl
    | cons part =>
      have hText := hTexts text mem_cons_self
      rw [map_cons, partsMatch, ih (fun other h => hTexts other (mem_cons_of_mem _ h)), cons_beq_cons]
      by_cases hSame : text = part
      · subst hSame
        simp [RouteSegment.matches, hText]
      · have hDiffer : (text == part) = false := beq_eq_false_iff_ne.mpr hSame
        simp [RouteSegment.matches, hDiffer]

lemma ParsedFrom.couldMatch_static (h : ParsedFrom text pat) (hStatic : pat.paramCount = 0)
    (hPath : path.head? = some slash) : patternCouldMatch pat path = true ↔ pat.source = path := by
  rw [patternCouldMatch_eq hPath, forall₂_static h.segments (h.count ▸ hStatic),
    partsMatch_static (forall₂_texts h.segments), beq_iff_eq, h.source]
  refine ⟨fun hSame => ?_, fun hSame => hSame ▸ rfl⟩
  rw [← joinParts_pathParts h.rooted, hSame, joinParts_pathParts hPath]

lemma not_letter_of_digit {b : UInt8} (h : isDigit b = true) : isLetter b = false := by
  simp only [isDigit, Bool.and_eq_true, decide_eq_true_eq, UInt8.le_iff_toNat_le] at h
  simp only [isLetter, Bool.or_eq_false_iff, Bool.and_eq_false_iff, decide_eq_false_iff_not, UInt8.le_iff_toNat_le]
  simp only [UInt8.reduceToNat] at h ⊢
  omega

variable {seg : List UInt8}

lemma dash_mem_of_uuid (h : segmentUuid seg = true) : '-'.toUInt8 ∈ seg := by
  simp only [segmentUuid, Bool.and_eq_true, beq_iff_eq, all_eq_true] at h
  obtain ⟨hLen, hAll⟩ := h
  have hAt : 8 < seg.length := by omega
  have hByte := hAll (seg[8], 8) (mk_mem_zipIdx_iff_getElem?.mpr (by simp))
  simp only [true_or, if_true, beq_iff_eq] at hByte
  exact hByte ▸ getElem_mem hAt

lemma floatLoop_bytes {sawDigit sawDot : Bool} (h : floatLoop seg sawDigit sawDot = true) :
    (∀ b ∈ seg, isDigit b = true ∨ b = '.'.toUInt8) ∧ (sawDot = true ∨ '.'.toUInt8 ∈ seg) := by
  induction seg generalizing sawDigit sawDot with
  | nil =>
    simp only [floatLoop, Bool.and_eq_true] at h
    exact ⟨forall_mem_nil _, Or.inl h.2⟩
  | cons b rest ih =>
    rw [floatLoop] at h
    split at h
    next hDigit =>
      obtain ⟨hBytes, hDot⟩ := ih h
      exact ⟨forall_mem_cons.mpr ⟨Or.inl hDigit, hBytes⟩, hDot.imp_right (mem_cons_of_mem _)⟩
    · split at h
      next hByte =>
        exact ⟨forall_mem_cons.mpr ⟨Or.inr hByte.1, (ih h).1⟩, Or.inr (hByte.1 ▸ mem_cons_self)⟩
      · cases h

/-- The constrained kind a segment can have: the one its bytes betray. -/
def constrainedKind (segment : List UInt8) : RouteParamKind :=
  if '-'.toUInt8 ∈ segment then .uuid
  else if '.'.toUInt8 ∈ segment then .float
  else if segment.all isDigit then .int
  else .alpha

lemma constrainedKind_int (h : segmentInt seg = true) : constrainedKind seg = .int := by
  simp only [segmentInt, Bool.and_eq_true] at h
  have hDigit := all_eq_true.mp h.2
  rw [constrainedKind, if_neg (fun hDash => absurd (hDigit _ hDash) (by decide)),
    if_neg (fun hDot => absurd (hDigit _ hDot) (by decide)), if_pos h.2]

lemma constrainedKind_alpha (h : segmentAlpha seg = true) : constrainedKind seg = .alpha := by
  simp only [segmentAlpha, Bool.and_eq_true, bne_iff_ne] at h
  have hLetter := all_eq_true.mp h.2
  obtain ⟨b, rest, rfl⟩ := exists_cons_of_ne_nil h.1
  have hFirst := hLetter b mem_cons_self
  rw [constrainedKind, if_neg (fun hDash => absurd (hLetter _ hDash) (by decide)),
    if_neg (fun hDot => absurd (hLetter _ hDot) (by decide)), if_neg]
  intro hDigits
  rw [not_letter_of_digit (all_eq_true.mp hDigits b mem_cons_self)] at hFirst
  cases hFirst

lemma constrainedKind_float (h : segmentFloat seg = true) : constrainedKind seg = .float := by
  simp only [segmentFloat, Bool.and_eq_true] at h
  obtain ⟨hBytes, hDot⟩ := floatLoop_bytes h.2
  rw [constrainedKind, if_neg (fun hDash => absurd (hBytes _ hDash) (by decide)),
    if_pos (hDot.resolve_left (by decide))]

lemma constrainedKind_eq (h : segmentMatchesKind kind seg = true) (hKind : kind ≠ .string) :
    constrainedKind seg = kind := by
  cases kind with
  | string => exact absurd rfl hKind
  | int => exact constrainedKind_int h
  | uuid => exact if_pos (dash_mem_of_uuid h)
  | alpha => exact constrainedKind_alpha h
  | float => exact constrainedKind_float h

end Sloppy.Route
