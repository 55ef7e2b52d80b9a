import Sloppy.Route.Pattern
import Mathlib.Data.List.Forall2

/-! # The grammar of route patterns

What `sl_route_pattern_parse` accepts, as a relation between a text and its segments, and what the segments
render to.
-/

namespace Sloppy.Route

open List

def RouteParamKind.text : RouteParamKind → List UInt8
  | .string => ascii ['s', 't', 'r']
  | .int => ascii ['i', 'n', 't']
  | .uuid => ascii ['u', 'u', 'i', 'd']
  | .alpha => ascii ['a', 'l', 'p', 'h', 'a']
  | .float => ascii ['f', 'l', 'o', 'a', 't']

def braced (inner : List UInt8) : List UInt8 := openBrace :: (inner ++ [closeBrace])

inductive SegmentGrammar : List UInt8 → RouteSegment → Prop
  | static {text : List UInt8} (hText : text ≠ []) (hOpen : openBrace ∉ text) (hClose : closeBrace ∉ text) :
      SegmentGrammar text (.static text)
  | untyped {name : List UInt8} (hName : paramNameValid name = true) :
      SegmentGrammar (braced name) (.param name .string)
  | typed {name : List UInt8} (hName : paramNameValid name = true) (kind : RouteParamKind) :
      SegmentGrammar (braced (name ++ colon :: kind.text)) (.param name kind)

def joinParts : List (List UInt8) → List UInt8
  | [] => [slash]
  | parts => parts.flatMap (slash :: ·)

def paramNames (segments : List RouteSegment) : List (List UInt8) :=
  segments.filterMap fun segment =>
    match segment with
    | .static _ => none
    | .param name _ => some name

structure RouteGrammar (text : List UInt8) (segments : List RouteSegment) : Prop where
  parts : ∃ parts, text = joinParts parts ∧ (∀ part ∈ parts, slash ∉ part) ∧ List.Forall₂ SegmentGrammar parts segments
  names : (paramNames segments).Nodup
  few : segments.length ≤ maxSegments
  params : segments.countP RouteSegment.isParam ≤ maxParams
  query : question ∉ text

section Parts

variable {part : List UInt8}

lemma splitSlash_append (hPart : slash ∉ part) (rest : List UInt8) :
    splitSlash (part ++ slash :: rest) = part :: splitSlash rest := by
  induction part with
  | nil => exact splitSlash_slash rest
  | cons b part ih =>
    rw [mem_cons, not_or] at hPart
    exact splitSlash_cons (fun h => hPart.1 h.symm) (ih hPart.2)

lemma splitSlash_one (hPart : slash ∉ part) : splitSlash part = [part] := by
  induction part with
  | nil => rfl
  | cons b part ih =>
    rw [mem_cons, not_or] at hPart
    exact splitSlash_cons (fun h => hPart.1 h.symm) (ih hPart.2)

variable {parts : List (List UInt8)}

lemma splitSlash_join (hParts : ∀ other ∈ part :: parts, slash ∉ other) :
    splitSlash (part ++ parts.flatMap (slash :: ·)) = part :: parts := by
  induction parts generalizing part with
  | nil =>
    rw [flatMap_nil, append_nil]
    exact splitSlash_one (hParts part mem_cons_self)
  | cons next parts ih =>
    rw [flatMap_cons, cons_append, splitSlash_append (hParts part mem_cons_self),
      ih fun other hOther => hParts other (mem_cons_of_mem _ hOther)]

lemma pathParts_join (hParts : ∀ part ∈ parts, slash ∉ part) (hSome : ∀ part ∈ parts, part ≠ []) :
    pathParts (joinParts parts) = parts := by
  cases parts with
  | nil => rfl
  | cons part =>
    have hPart := length_pos_iff.mpr (hSome part mem_cons_self)
    rw [joinParts, pathParts, flatMap_cons, cons_append, drop_succ_cons, drop_zero, splitSlash_join hParts, if_neg]
    · rw [length_cons, length_append]
      omega
    · exact cons_ne_nil _ _

lemma slash_notMem_splitSlash (text : List UInt8) : ∀ part ∈ splitSlash text, slash ∉ part := by
  induction text with
  | nil => simp [splitSlash]
  | cons b rest ih =>
    obtain ⟨part, parts, hRest⟩ := exists_cons_of_ne_nil (splitSlash_ne_nil rest)
    by_cases hByte : b = slash
    · rw [hByte, splitSlash_slash]
      exact forall_mem_cons.mpr ⟨not_mem_nil, ih⟩
    rw [hRest] at ih
    obtain ⟨hPart, hParts⟩ := forall_mem_cons.mp ih
    rw [splitSlash_cons hByte hRest]
    refine forall_mem_cons.mpr ⟨?_, hParts⟩
    rw [mem_cons, not_or]
    exact ⟨fun h => hByte h.symm, hPart⟩

lemma slash_notMem_pathParts (text : List UInt8) : ∀ part ∈ pathParts text, slash ∉ part := by
  rw [pathParts]
  split
  · exact forall_mem_nil _
  · exact slash_notMem_splitSlash _

lemma joinParts_head (parts : List (List UInt8)) : (joinParts parts).head? = some slash := by
  cases parts <;> rfl

lemma joinParts_pathParts {text : List UInt8} (h : text.head? = some slash) : joinParts (pathParts text) = text := by
  obtain ⟨tail, rfl⟩ := head?_eq_some_iff.mp h
  simp only [pathParts, length_cons, Nat.add_eq_right, length_eq_zero_iff, drop_succ_cons, drop_zero]
  split
  next hNil => rw [hNil, joinParts]
  · obtain ⟨part, parts, hTail⟩ := exists_cons_of_ne_nil (splitSlash_ne_nil tail)
    rw [← flatMap_splitSlash, hTail, joinParts]
    exact cons_ne_nil _ _

end Parts

section Segments

variable {kind : RouteParamKind}

lemma parseParamType_iff {type : List UInt8} : parseParamType type = .ok kind ↔ type = kind.text := by
  constructor
  · intro h
    unfold parseParamType at h
    repeat' split at h
    all_goals cases h
    all_goals assumption
  · rintro rfl
    cases kind <;> rfl

lemma nameChar_plain {b : UInt8} (h : isNameContinue b = true) : b ≠ openBrace ∧ b ≠ closeBrace ∧ b ≠ colon := by
  refine ⟨?_, ?_, ?_⟩ <;> rintro rfl <;> exact absurd h (by decide)

variable {name : List UInt8}

lemma nameChar_of_valid (h : paramNameValid name = true) : ∀ b ∈ name, isNameContinue b = true := by
  cases name with
  | nil => exact forall_mem_nil _
  | cons =>
    rw [paramNameValid, Bool.and_eq_true, all_eq_true] at h
    refine forall_mem_cons.mpr ⟨?_, h.2⟩
    rw [isNameContinue, h.1, Bool.true_or]

lemma scanColon_name (hName : ∀ b ∈ name, isNameContinue b = true) (rest : List UInt8) (index : Nat)
    (found : Option Nat) : scanColon (name ++ rest) index found = scanColon rest (index + name.length) found := by
  induction name generalizing index with
  | nil => rfl
  | cons b name ih =>
    obtain ⟨hFirst, hMore⟩ := forall_mem_cons.mp hName
    obtain ⟨hOpen, hClose, hColon⟩ := nameChar_plain hFirst
    rw [cons_append, scanColon.eq_def]
    dsimp only
    rw [if_neg (not_or.mpr ⟨hOpen, hClose⟩), if_neg hColon, ih hMore, length_cons]
    congr 1
    omega

variable {found : Option Nat}

lemma scanColon_some {rest : List UInt8} {index place : Nat} (h : scanColon rest index found = .ok (some place)) :
    found = some place ∨ index ≤ place ∧ rest[place - index]? = some colon := by
  induction rest generalizing index found with
  | nil => exact Or.inl (Except.ok.inj h)
  | cons b rest ih =>
    rw [scanColon.eq_def] at h
    dsimp only at h
    split at h
    · cases h
    split at h
    next hColon =>
      split at h
      · cases h
      rcases ih h with hHere | ⟨hLater, hByte⟩
      · obtain rfl := Option.some.inj hHere
        exact Or.inr ⟨Nat.le_refl _, by rw [Nat.sub_self, hColon]; rfl⟩
      · refine Or.inr ⟨by omega, ?_⟩
        rw [show place - index = place - (index + 1) + 1 by omega, getElem?_cons_succ]
        exact hByte
    · rcases ih h with hFound | ⟨hLater, hByte⟩
      · exact Or.inl hFound
      · refine Or.inr ⟨by omega, ?_⟩
        rw [show place - index = place - (index + 1) + 1 by omega, getElem?_cons_succ]
        exact hByte

lemma braced_inner (inner : List UInt8) : ((braced inner).drop 1).take ((braced inner).length - 2) = inner := by
  simp [braced]

variable {text : List UInt8}

lemma braced_of_ends (hLong : ¬text.length < 3) (hHead : text.head? = some openBrace)
    (hLast : text.getLast? = some closeBrace) : text = braced ((text.drop 1).take (text.length - 2)) := by
  obtain ⟨rest, rfl⟩ := head?_eq_some_iff.mp hHead
  rcases eq_nil_or_concat rest with rfl | ⟨inner, last, rfl⟩
  · simp at hLong
  · rw [concat_eq_append, ← cons_append, getLast?_concat] at hLast
    rw [Option.some.inj hLast]
    simp [braced]

variable {segs : List RouteSegment}

lemma parseParamSegment_braced {inner : List UInt8} (hFound : scanColon inner 0 none = .ok found)
    (hName : paramNameValid (paramName inner found) = true) (hKind : paramKind inner found = .ok kind)
    (hFresh : nameDuplicate segs (paramName inner found) = false) :
    parseParamSegment (braced inner) segs = .ok (.param (paramName inner found) kind) := by
  have hSome : inner ≠ [] := by
    rintro rfl
    cases found <;> simp [paramName, paramNameValid] at hName
  have hEnds : ¬((braced inner).length < 3 ∨ (braced inner).head? ≠ some openBrace ∨
      (braced inner).getLast? ≠ some closeBrace) := by
    have hLong := length_pos_iff.mpr hSome
    rintro (hShort | hHead | hLast)
    · simp only [braced, length_cons, length_append, length_nil] at hShort
      omega
    · exact hHead rfl
    · exact hLast (by rw [braced, ← cons_append, getLast?_concat])
  rw [parseParamSegment, if_neg hEnds]
  simp only [braced_inner, hFound, hName, hKind, hFresh]
  rfl

variable {seg : RouteSegment}

lemma parseParamSegment_iff : parseParamSegment text segs = .ok seg ↔
      ∃ name kind, paramNameValid name = true ∧ nameDuplicate segs name = false ∧ seg = .param name kind ∧
        (text = braced name ∧ kind = .string ∨ text = braced (name ++ colon :: kind.text)) := by
  constructor
  · intro h
    simp only [parseParamSegment, invalidPattern] at h
    split at h
    · cases h
    rename_i hEnds
    rw [not_or, not_or, not_not, not_not] at hEnds
    have hBraced := braced_of_ends hEnds.1 hEnds.2.1 hEnds.2.2
    generalize (text.drop 1).take (text.length - 2) = inner at h hBraced
    split at h
    · cases h
    rename_i found hFound
    split at h
    · cases h
    rename_i hName
    rw [Bool.not_eq_true, Bool.not_eq_false'] at hName
    split at h
    · cases h
    rename_i kind hKind
    split at h
    · cases h
    rename_i hFresh
    refine ⟨_, kind, hName, Bool.not_eq_true _ ▸ hFresh, (Except.ok.inj h).symm, ?_⟩
    cases found with
    | none => exact Or.inl ⟨hBraced, (Except.ok.inj hKind).symm⟩
    | some =>
      obtain hNone | ⟨-, hColon⟩ := scanColon_some hFound
      · cases hNone
      rw [paramKind] at hKind
      split at hKind
      · cases hKind
      refine Or.inr ?_
      rw [Nat.sub_zero] at hColon
      obtain ⟨hInside, hByte⟩ := List.getElem_of_getElem? hColon
      rw [← parseParamType_iff.mp hKind, paramName, ← hByte, ← drop_eq_getElem_cons hInside, take_append_drop, hBraced]
  · rintro ⟨name, kind, hName, hFresh, rfl, hText⟩
    have hChars := nameChar_of_valid hName
    rcases hText with ⟨rfl, rfl⟩ | rfl
    · have hFound : scanColon name 0 none = .ok none := by
        rw [← append_nil name, scanColon_name hChars]
        rfl
      exact parseParamSegment_braced hFound hName rfl hFresh
    · have hFound : scanColon (name ++ colon :: kind.text) 0 none = .ok (some name.length) := by
        rw [scanColon_name hChars, Nat.zero_add]
        cases kind <;> rfl
      have hTake : paramName (name ++ colon :: kind.text) (some name.length) = name := take_left
      have hKind : paramKind (name ++ colon :: kind.text) (some name.length) = .ok kind := by
        have hDrop : (name ++ colon :: kind.text).drop (name.length + 1) = kind.text := by
          rw [← drop_drop, drop_left]
          rfl
        have hLong : ¬name.length + 1 ≥ (name ++ colon :: kind.text).length := by
          cases kind <;> simp [RouteParamKind.text, ascii]
        rw [paramKind, if_neg hLong, hDrop, parseParamType_iff]
      have hParsed := parseParamSegment_braced hFound (by rwa [hTake]) hKind (by rwa [hTake])
      rwa [hTake] at hParsed

lemma parseSegment_iff : parseSegment text segs = .ok seg ↔
      SegmentGrammar text seg ∧ ∀ name kind, seg = .param name kind → nameDuplicate segs name = false := by
  constructor
  · intro h
    rw [parseSegment] at h
    split at h
    · cases h
    rename_i hText
    split at h
    · obtain ⟨name, kind, hName, hFresh, rfl, hBraced⟩ := parseParamSegment_iff.mp h
      refine ⟨?_, fun other _ hSame => by cases hSame; exact hFresh⟩
      rcases hBraced with ⟨rfl, rfl⟩ | rfl
      · exact .untyped hName
      · exact .typed hName kind
    · rw [parseStaticSegment] at h
      split at h
      · cases h
      next hBraces =>
        rw [Bool.or_eq_true, contains_iff_mem, contains_iff_mem, not_or] at hBraces
        cases h
        exact ⟨.static hText hBraces.1 hBraces.2, nofun⟩
  · rintro ⟨hGrammar, hFresh⟩
    have hBraced : ∀ inner, parseSegment (braced inner) segs = parseParamSegment (braced inner) segs := by
      intro inner
      have hSome : braced inner ≠ [] := cons_ne_nil _ _
      have hHead : (braced inner).head? = some openBrace := rfl
      rw [parseSegment, if_neg hSome, if_pos (Or.inl hHead)]
    cases hGrammar with
    | static hText hOpen hClose =>
      have hEnds : ¬(text.head? = some openBrace ∨ text.getLast? = some closeBrace) := by
        rintro (hHead | hLast)
        · exact hOpen (mem_of_mem_head? hHead)
        · exact hClose (mem_of_getLast? hLast)
      rw [parseSegment, if_neg hText, if_neg hEnds, parseStaticSegment, if_neg]
      simpa using ⟨hOpen, hClose⟩
    | @untyped name hName =>
      rw [hBraced, parseParamSegment_iff]
      exact ⟨name, _, hName, hFresh name _ rfl, rfl, Or.inl ⟨rfl, rfl⟩⟩
    | @typed name hName kind =>
      rw [hBraced, parseParamSegment_iff]
      exact ⟨name, kind, hName, hFresh name _ rfl, rfl, Or.inr rfl⟩

lemma nameDuplicate_false : nameDuplicate segs name = false ↔ name ∉ paramNames segs := by
  rw [nameDuplicate, any_eq_false, paramNames, mem_filterMap]
  constructor
  · rintro h ⟨seg, hMem, hName⟩
    have hOther := h seg hMem
    cases seg with
    | static => cases hName
    | param =>
      obtain rfl := Option.some.inj hName
      exact hOther (beq_self_eq_true _)
  · rintro h seg hMem
    cases seg with
    | static => exact Bool.false_ne_true
    | param =>
      intro hSame
      exact h ⟨_, hMem, congrArg some (beq_iff_eq.mp hSame)⟩

lemma paramNames_concat (hNames : (paramNames segs).Nodup) :
    (paramNames (segs ++ [seg])).Nodup ↔ ∀ name kind, seg = .param name kind → nameDuplicate segs name = false := by
  cases seg with
  | static => simpa [paramNames] using hNames
  | param name kind =>
    have hAppend : paramNames (segs ++ [.param name kind]) = paramNames segs ++ [name] := by
      simp [paramNames]
    rw [hAppend, perm_append_comm.nodup_iff, singleton_append, nodup_cons, ← nameDuplicate_false]
    constructor
    · rintro ⟨hFresh, -⟩ _ _ hSame
      cases hSame
      exact hFresh
    · exact fun h => ⟨h name kind rfl, hNames⟩

lemma parseSegments_cons {texts : List (List UInt8)} {paramCount : Nat} {result : List RouteSegment × Nat}
    (hParams : paramCount ≤ maxParams) :
    parseSegments (text :: texts) segs paramCount = .ok result ↔
      segs.length < maxSegments ∧ ∃ seg, parseSegment text segs = .ok seg ∧
        paramCount + [seg].countP RouteSegment.isParam ≤ maxParams ∧
        parseSegments texts (segs ++ [seg]) (paramCount + [seg].countP RouteSegment.isParam) = .ok result := by
  rw [parseSegments]
  rcases Nat.lt_or_ge segs.length maxSegments with hLess | hFull
  · rw [if_neg (Nat.not_le.mpr hLess)]
    cases parseSegment text segs with
    | error => simp
    | ok seg =>
      by_cases hParam : seg.isParam = true
      · rcases Nat.lt_or_ge paramCount maxParams with hRoom | hMany
        · simp [hLess, hParam, Nat.not_le.mpr hRoom, Nat.succ_le_of_lt hRoom]
        · simp [hParam, hMany, Nat.not_le.mpr (Nat.lt_succ_of_le hMany)]
      · simp [hLess, hParam, hParams]
  · simp [hFull, Nat.not_lt.mpr hFull]

lemma parseSegments_iff {texts : List (List UInt8)} {segs parsed : List RouteSegment} {paramCount total : Nat}
    (hNames : (paramNames segs).Nodup) (hFew : segs.length ≤ maxSegments) (hParams : paramCount ≤ maxParams) :
    parseSegments texts segs paramCount = .ok (parsed, total) ↔
      ∃ added, parsed = segs ++ added ∧ List.Forall₂ SegmentGrammar texts added ∧
        (paramNames (segs ++ added)).Nodup ∧ (segs ++ added).length ≤ maxSegments ∧
        total = paramCount + added.countP RouteSegment.isParam ∧ total ≤ maxParams := by
  induction texts generalizing segs paramCount parsed with
  | nil =>
    rw [parseSegments]
    constructor
    · intro h
      cases h
      exact ⟨[], by simp, .nil, by simpa using hNames, by simpa using hFew, rfl, hParams⟩
    · rintro ⟨added, rfl, hAdded, -, -, rfl, -⟩
      cases hAdded
      simp
  | cons text texts ih =>
    rw [parseSegments_cons hParams]
    constructor
    · rintro ⟨hLess, seg, hSeg, hRoom, h⟩
      obtain ⟨hGrammar, hFresh⟩ := parseSegment_iff.mp hSeg
      obtain ⟨added, rfl, hAdded, hRest⟩ :=
        (ih ((paramNames_concat hNames).mpr hFresh) (by simpa [Nat.succ_le_iff] using hLess) hRoom).mp h
      rw [append_assoc, Nat.add_assoc, ← countP_append] at hRest
      exact ⟨seg :: added, append_assoc .., .cons hGrammar hAdded, hRest⟩
    · rintro ⟨_, rfl, hAll, hRest⟩
      cases hAll with
      | @cons _ seg _ added hGrammar hAdded =>
        rw [append_cons, ← singleton_append (l := added), countP_append, ← Nat.add_assoc] at hRest
        obtain ⟨hNodup, hCount, hTotal, hLimit⟩ := hRest
        have hConcat : (paramNames (segs ++ [seg])).Nodup := by
          rw [paramNames, filterMap_append] at hNodup
          exact (nodup_append.mp hNodup).1
        have hSize : segs.length + 1 + added.length ≤ maxSegments := by
          rwa [length_append, length_append, length_singleton] at hCount
        refine ⟨by omega, seg, parseSegment_iff.mpr ⟨hGrammar, (paramNames_concat hNames).mp hConcat⟩, by omega, ?_⟩
        rw [ih hConcat (by simp; omega) (by omega), append_cons]
        exact ⟨added, rfl, hAdded, hNodup, hCount, hTotal, hLimit⟩

lemma segmentGrammar_nonempty (h : SegmentGrammar text seg) : text ≠ [] := by
  cases h with
  | static hText => exact hText
  | untyped | typed => exact cons_ne_nil _ _

lemma forall₂_nonempty {parts : List (List UInt8)} (h : List.Forall₂ SegmentGrammar parts segs) :
    ∀ part ∈ parts, part ≠ [] := by
  induction h with
  | nil => exact forall_mem_nil _
  | cons hFirst _ ih => exact forall_mem_cons.mpr ⟨segmentGrammar_nonempty hFirst, ih⟩

lemma parsePatternSegments_iff {count : Nat} : parsePatternSegments text = .ok (segs, count) ↔
      RouteGrammar text segs ∧ count = segs.countP RouteSegment.isParam := by
  have hLoop : ∀ texts, parseSegments texts [] 0 = .ok (segs, count) ↔ _ := fun texts =>
    @parseSegments_iff texts [] segs 0 count nodup_nil (Nat.zero_le _) (Nat.zero_le _)
  rw [parsePatternSegments]
  constructor
  · intro h
    split at h
    · cases h
    rename_i hRooted
    split at h
    · cases h
    rename_i hQuery
    rw [contains_iff_mem] at hQuery
    split at h
    next hLen =>
      obtain ⟨b, rfl⟩ := List.length_eq_one_iff.mp hLen
      obtain rfl := Option.some.inj (not_not.mp hRooted)
      cases h
      exact ⟨⟨⟨[], rfl, forall_mem_nil _, .nil⟩, nodup_nil, Nat.zero_le _, Nat.zero_le _, hQuery⟩, rfl⟩
    next hLen =>
      obtain ⟨_, rfl, hAll, hNames, hFew, hTotal, hLimit⟩ := (hLoop _).mp h
      have hParts : pathParts text = splitSlash (text.drop 1) := by rw [pathParts, if_neg hLen]
      have hFree := slash_notMem_pathParts text
      rw [← hParts] at hAll
      rw [Nat.zero_add] at hTotal
      have hText := (joinParts_pathParts (not_not.mp hRooted)).symm
      exact ⟨⟨⟨pathParts text, hText, hFree, hAll⟩, hNames, hFew, hTotal ▸ hLimit, hQuery⟩, hTotal⟩
  · rintro ⟨⟨⟨parts, rfl, hFree, hAll⟩, hNames, hFew, hParams, hQuery⟩, rfl⟩
    have hParts := pathParts_join hFree (forall₂_nonempty hAll)
    rw [if_neg (not_not.mpr (joinParts_head parts)), if_neg (by rwa [contains_iff_mem])]
    rw [pathParts] at hParts
    split at hParts
    · subst hParts
      cases hAll
      rfl
    next hLen =>
      rw [if_neg hLen, hParts, hLoop]
      exact ⟨segs, rfl, hAll, hNames, hFew, (Nat.zero_add _).symm, hParams⟩

lemma patternParse_iff {pat : RoutePattern} : patternParse text = .ok pat ↔ RouteGrammar text pat.segments ∧
        pat = ⟨text, pat.segments, pat.segments.countP RouteSegment.isParam⟩ := by
  rw [patternParse]
  constructor
  · intro h
    split at h
    · cases h
    split at h
    · cases h
    rename_i hSegs
    cases h
    obtain ⟨hGrammar, rfl⟩ := parsePatternSegments_iff.mp hSegs
    exact ⟨hGrammar, rfl⟩
  · rintro ⟨hGrammar, hPat⟩
    have hText : text ≠ [] := by
      obtain ⟨parts, rfl, -⟩ := hGrammar.parts
      exact fun h => by cases parts <;> cases h
    rw [if_neg hText, parsePatternSegments_iff.mpr ⟨hGrammar, rfl⟩]
    exact congrArg Except.ok hPat.symm

end Segments

def renderSegment : RouteSegment → List UInt8
  | .static text => text
  | .param name .string => braced name
  | .param name kind => braced (name ++ colon :: kind.text)

/-- The part without the type that a parameter has by default. -/
def withoutDefault (part : List UInt8) : List UInt8 :=
  if (ascii [':', 's', 't', 'r'] ++ [closeBrace]).isSuffixOf part then part.take (part.length - 5) ++ [closeBrace]
  else part

lemma withoutDefault_of_not_mem {part : List UInt8} {b : UInt8}
    (hByte : b ∈ ascii [':', 's', 't', 'r'] ++ [closeBrace]) (hPart : b ∉ part) : withoutDefault part = part := by
  rw [withoutDefault, if_neg]
  intro hSuffix
  exact hPart ((isSuffixOf_iff_suffix.mp hSuffix).subset hByte)

lemma renderSegment_eq {part : List UInt8} {seg : RouteSegment} (h : SegmentGrammar part seg) :
    renderSegment seg = withoutDefault part := by
  cases h with
  | static hText hOpen hClose => exact (withoutDefault_of_not_mem (by decide) hClose).symm
  | @untyped name hName =>
    change braced name = _
    refine (withoutDefault_of_not_mem (b := colon) (by decide) ?_).symm
    intro hColon
    rw [braced, mem_cons, mem_append, mem_singleton] at hColon
    rcases hColon with hOpen | hInside | hClose
    · exact absurd hOpen (by decide)
    · exact (nameChar_plain (nameChar_of_valid hName _ hInside)).2.2 rfl
    · exact absurd hClose (by decide)
  | @typed name hName kind =>
    have hReverse : (braced (name ++ colon :: kind.text)).reverse =
        closeBrace :: (kind.text.reverse ++ colon :: (name.reverse ++ [openBrace])) := by
      simp [braced]
    rw [withoutDefault, isSuffixOf, hReverse]
    cases kind with
    | string =>
      rw [if_pos (by rfl)]
      simp [braced, renderSegment, RouteParamKind.text, ascii]
    | int | uuid | alpha | float => rfl

lemma render_eq {parts : List (List UInt8)} {segs : List RouteSegment}
    (h : List.Forall₂ SegmentGrammar parts segs) : segs.map renderSegment = parts.map withoutDefault := by
  induction h with
  | nil => rfl
  | cons hFirst _ ih => rw [map_cons, map_cons, renderSegment_eq hFirst, ih]

lemma RouteGrammar.render {text : List UInt8} {segs : List RouteSegment} (h : RouteGrammar text segs) :
    joinParts (segs.map renderSegment) = joinParts ((pathParts text).map withoutDefault) := by
  obtain ⟨parts, rfl, hFree, hAll⟩ := h.parts
  rw [pathParts_join hFree (forall₂_nonempty hAll), render_eq hAll]

end Sloppy.Route
