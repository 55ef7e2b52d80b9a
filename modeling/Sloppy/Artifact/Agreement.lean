import Sloppy.Artifact.Layout

/-! # Compiler and runtime agree on the route artifact

The emitter succeeds on every web application whose sizes fit its words, each entry it emits describes its route,
and the validator accepts what it emits against the plan emitted with it.
-/

namespace Sloppy.Artifact

open Lib Lib.Traced Lib.LittleEndian List

section

variable {artifact : List UInt8}

variable {summary : RouteArtifactSummary}

lemma readHeader_returns (h : HeaderDecodes artifact summary) :
    Returns (Access.Safe artifact.length) (readHeader artifact) summary := by
  have hLong : 64 ≤ artifact.length := h.complete
  have hWord : ∀ offset, offset + 4 ≤ 64 → Returns (Access.Safe artifact.length) (slrtU32At artifact offset)
        (wordAt artifact offset) := by
    intro offset hOffset
    exact slrtU32At_returns (by omega) (by simp only [sizeMax]; omega)
  refine (Returns.require h.complete _).bind ?_
  refine (bytesAt_returns (by omega)).bind ((Returns.require h.magic _).bind ?_)
  refine (hWord 4 (by omega)).bind ?_
  refine (Returns.require (h.version.1 ▸ h.version.2) _).bind ?_
  refine (hWord 8 (by omega)).bind ((Returns.require h.endian _).bind ?_)
  refine (hWord 12 (by omega)).bind ((Returns.require h.headerSize _).bind ?_)
  refine (hWord 16 (by omega)).bind ((hWord 20 (by omega)).bind ?_)
  refine (hWord 24 (by omega)).bind ((hWord 28 (by omega)).bind ?_)
  refine (hWord 32 (by omega)).bind ((hWord 36 (by omega)).bind ?_)
  refine (slrtU64At_returns (by simp only [checksumOffset]; omega)
    (by simp only [checksumOffset, sizeMax]; omega)).bind ?_
  rw [← h.version.1, ← h.routeCount, ← h.endpointCount, ← h.routeTableOffset, ← h.routeTableSize,
    ← h.stringTableOffset, ← h.stringTableSize, ← h.checksum]
  exact Returns.pure _

variable {α : Type} {x : α}

lemma requireRange_returns {bits len offset size : Nat} {failure : Failure} {next : Unit → Check α}
    (hWord : len < 2 ^ bits) (hRange : offset + size ≤ len)
    (hNext : Returns (Access.Safe artifact.length) (next ()) x) :
    Returns (Access.Safe artifact.length)
      (slrtRangeValid bits len offset size >>= fun valid => require (valid = true) failure >>= next)
      x :=
  (slrtRangeValid_returns hWord).bind ((Returns.require (decide_eq_true hRange) _).bind hNext)

variable {routes : Nat}

lemma checkSections_returns (hHdr : HeaderDecodes artifact summary) (hLen : artifact.length ≤ sizeMax)
    (h : SectionsFit artifact summary routes) :
    Returns (Access.Safe artifact.length) (checkSections artifact summary routes) () := by
  have hBounds := hHdr.bounds
  have hWord : artifact.length < 2 ^ 64 := by
    simp only [sizeMax] at hLen
    omega
  have hTable : summary.routeCount * routeArtifactEntrySize = summary.routeTableSize := by
    rw [h.tableSize, h.routeCount]
  have hMul : summary.routeCount * routeArtifactEntrySize ≤ sizeMax := by
    simp only [uint32Max, sizeMax] at hBounds ⊢
    omega
  have hRoutesInside := h.routesInside
  have hStringsInside := h.stringsInside
  refine (checkedMul_returns _ hMul).bind ?_
  refine (checkedAdd_returns _ (by omega)).bind ((checkedAdd_returns _ (by omega)).bind ?_)
  refine (Returns.require ⟨h.routeCount, h.endpointCount, hTable.symm⟩ _).bind ?_
  refine requireRange_returns hWord h.routesInside ?_
  refine requireRange_returns hWord h.stringsInside ?_
  exact Returns.require h.apart _

lemma readField_returns {entry delta : Nat} {next : Nat → Check α} (hDelta : delta + 4 ≤ routeArtifactEntrySize)
    (hFile : entry + routeArtifactEntrySize ≤ artifact.length) (hSize : entry + routeArtifactEntrySize ≤ sizeMax)
    (hNext : Returns (Access.Safe artifact.length) (next (wordAt artifact (entry + delta))) x) :
    Returns (Access.Safe artifact.length)
      (addSize entry delta >>= fun offset => slrtU32At artifact offset >>= next) x :=
  (addSize_returns (by omega)).bind ((slrtU32At_returns (by omega) (by omega)).bind hNext)

variable {index : Nat}

lemma entryOffsetOf_returns (hLen : artifact.length ≤ sizeMax) (hSections : SectionsFit artifact summary routes)
    (hTable : entryAt summary index + routeArtifactEntrySize ≤ summary.routeTableOffset + summary.routeTableSize) :
    Returns (Access.Safe artifact.length) (entryOffsetOf artifact summary index) (entryAt summary index) := by
  have hInside := hSections.routesInside
  have hEntry : entryAt summary index = summary.routeTableOffset + index * routeArtifactEntrySize := rfl
  refine (checkedMul_returns _ (by omega)).bind ((checkedAdd_returns _ (by omega)).bind ?_)
  refine (checkedAdd_returns _ (by omega)).bind ((checkedAdd_returns _ (by omega)).bind ?_)
  exact (Returns.require (by omega) _).bind (Returns.pure _)

section

variable (hHdr : HeaderDecodes artifact summary) (hLen : artifact.length ≤ sizeMax)
include hHdr hLen

lemma stringRangeOf_returns (hSections : SectionsFit artifact summary routes)
    {patternOffset patternLen nameOffset nameLen : Nat} (hPat : patternOffset + patternLen ≤ summary.stringTableSize)
    (hName : nameOffset + nameLen ≤ summary.stringTableSize) :
    Returns (Access.Safe artifact.length) (stringRangeOf artifact summary patternOffset patternLen nameOffset nameLen)
      (summary.stringTableOffset + patternOffset, summary.stringTableOffset + nameOffset) := by
  have hBounds := hHdr.bounds
  have hInside := hSections.stringsInside
  have hWord : artifact.length < 2 ^ 64 := by
    simp only [sizeMax] at hLen
    omega
  have hTable : summary.stringTableSize < 2 ^ 32 := by
    simp only [uint32Max] at hBounds
    omega
  refine (checkedAdd_returns _ (by omega)).bind ((checkedAdd_returns _ (by omega)).bind ?_)
  refine requireRange_returns hWord (by omega) (requireRange_returns hWord (by omega) ?_)
  exact requireRange_returns hTable hPat (requireRange_returns hTable hName (Returns.pure _))

lemma slrtValidateEntry_returns (hSections : SectionsFit artifact summary routes) {route : PlanRoute}
    (h : EntryDecodes artifact summary route index) :
    Returns (Access.Safe artifact.length) (slrtValidateEntry artifact summary route index) () := by
  have hInside := hSections.routesInside
  have hStrings := hSections.stringsInside
  have hTable := h.inTable
  have hPat := h.patternInside
  have hName := h.nameInside
  have hEntry : 48 = routeArtifactEntrySize := rfl
  have hFile : entryAt summary index + routeArtifactEntrySize ≤ artifact.length := by omega
  have hSize : entryAt summary index + routeArtifactEntrySize ≤ sizeMax := by omega
  refine (entryOffsetOf_returns hLen hSections hTable).bind ?_
  refine (slrtU32At_returns (by omega) (by omega)).bind ?_
  refine readField_returns (by decide) hFile hSize (readField_returns (by decide) hFile hSize ?_)
  refine readField_returns (by decide) hFile hSize (readField_returns (by decide) hFile hSize ?_)
  refine readField_returns (by decide) hFile hSize (readField_returns (by decide) hFile hSize ?_)
  refine (Returns.require ⟨h.method, h.handlerId⟩ _).bind ?_
  refine (Returns.require h.executionKind _).bind ?_
  refine (stringRangeOf_returns hHdr hLen hSections hPat hName).bind ?_
  refine (strEqualAt_returns _ (by omega)).bind ?_
  refine (Returns.require (decide_eq_true h.pattern.symm) _).bind ?_
  refine (strEqualAt_returns _ (by omega)).bind ?_
  exact Returns.require (decide_eq_true h.name.symm) _

lemma validateEntries_returns {count : Nat} (hSections : SectionsFit artifact summary count) (routes : List PlanRoute)
    (start : Nat) (h : ∀ i route, routes[i]? = some route → EntryDecodes artifact summary route (start + i)) :
    Returns (Access.Safe artifact.length) (validateEntries artifact summary routes start) () := by
  induction routes generalizing start with
  | nil => exact Returns.pure _
  | cons route rest ih =>
    refine (slrtValidateEntry_returns hHdr hLen hSections (h 0 route rfl)).bind ?_
    refine ih (start + 1) fun i other hOther => ?_
    rw [show start + 1 + i = start + (i + 1) by omega]
    exact h (i + 1) other hOther

end

lemma routeArtifactValidate_returns {routes : List PlanRoute} (sha256 : List UInt8 → Except StatusCode (List UInt8))
    (hLen : artifact.length ≤ sizeMax) (h : Accepted artifact summary routes)
    (hChecksum : (fnvFrom 0 fnvOffsetBasis artifact).toNat = summary.checksum) :
    Returns (Access.Safe artifact.length) (routeArtifactValidate sha256 artifact [] routes)
      summary := by
  refine (readHeader_returns h.header).bind ?_
  refine (checkSections_returns h.header hLen h.sections).bind ?_
  refine slrtChecksum_returns.bind ((Returns.require hChecksum _).bind ?_)
  refine (validateEntries_returns h.header hLen h.sections routes 0 ?_).bind (Returns.pure _)
  intro i route hRoute
  rw [Nat.zero_add]
  exact h.entries i route hRoute

end

def stringBytes (routes : List Route) : Nat :=
  (routes.map fun route => route.pattern.length + (route.name.getD []).length).sum

/-- An emitted entry describes its route; its strings are in the string table. -/
structure EntryFor (route : Route) (index : Nat) (strings : List UInt8) (entry : RouteEntry) :
    Prop where
  method : entry.method = slrtMethodCode route.method
  handlerId : entry.handlerId = index + 1
  executionKind : 1 ≤ entry.executionKind ∧ entry.executionKind ≤ 5
  patternInside : entry.patternOffset + entry.patternLen ≤ strings.length
  nameInside : entry.nameOffset + entry.nameLen ≤ strings.length
  pattern : slice strings entry.patternOffset entry.patternLen = route.pattern
  name : slice strings entry.nameOffset entry.nameLen = route.name.getD []
  fits : ∀ word ∈ entry.words, word ≤ uint32Max

variable {route : Route} {strings : List UInt8} {entry : RouteEntry}

lemma EntryFor.grow {index : Nat} (h : EntryFor route index strings entry) (more : List UInt8) :
    EntryFor route index (strings ++ more) entry := by
  have hPat := h.patternInside
  have hName := h.nameInside
  refine { h with patternInside := ?_, nameInside := ?_, pattern := ?_, name := ?_ }
  · rw [length_append]
    omega
  · rw [length_append]
    omega
  · rw [slice_left more hPat]
    exact h.pattern
  · rw [slice_left more hName]
    exact h.name

lemma routePatternParamCount_le (pat : List UInt8) : routePatternParamCount pat ≤ pat.length := by
  have hCount := countP_le_length (p := isBracedSegment) (l := (splitSlash pat).drop 1)
  have hSplit := splitSlash_length pat
  rw [length_drop] at hCount
  rw [routePatternParamCount]
  omega

lemma artifactCode_bounds (kind : RouteExecutionKind) : 1 ≤ kind.artifactCode ∧ kind.artifactCode ≤ 5 := by
  cases kind <;> decide

variable {parsed : HttpMethod}

lemma routeMethodCode_of_known {method : List UInt8} (h : httpMethodFromStr method = .ok parsed) :
    routeMethodCode method = .ok (slrtMethodCode method) ∧ slrtMethodCode method ≤ 7 := by
  obtain ⟨rfl, hKnown⟩ := httpMethodFromStr_ok_iff.mp h
  cases parsed with
  | unknown => exact absurd rfl hKnown
  | _ => exact ⟨rfl, by decide⟩

lemma checkedU32_of_le {value : Nat} (h : value ≤ uint32Max) (label : String) :
    checkedU32 value label = .ok value := by
  rw [checkedU32, if_pos h]

lemma emitEntry_ok (index : Nat) (strings : List UInt8) (hMethod : httpMethodFromStr route.method = .ok parsed)
    (hIndex : index + 1 ≤ uint32Max)
    (hStrings : strings.length + route.pattern.length + (route.name.getD []).length ≤ uint32Max) :
    ∃ entry, emitEntry route index strings = .ok (entry, strings ++ route.pattern ++ route.name.getD []) ∧
      EntryFor route index (strings ++ route.pattern ++ route.name.getD []) entry := by
  have hParams := routePatternParamCount_le route.pattern
  obtain ⟨hCode, hSmall⟩ := routeMethodCode_of_known hMethod
  have hMetadata : routeArtifactPatternMetadata route.pattern =
      .ok (if routePatternHasParams route.pattern then 2 else 1, routePatternParamCount route.pattern) := by
    rw [routeArtifactPatternMetadata, checkedU32_of_le (by omega)]
    rfl
  have hPatternOffset : strings.length ≤ uint32Max := by omega
  have hPatternLen : route.pattern.length ≤ uint32Max := by omega
  have hNameOffset : (strings ++ route.pattern).length ≤ uint32Max := by
    rw [length_append]
    omega
  have hNameLen : (route.name.getD []).length ≤ uint32Max := by omega
  simp only [emitEntry, checkedU32_of_le hPatternOffset, checkedU32_of_le hPatternLen,
    checkedU32_of_le hNameOffset, checkedU32_of_le hNameLen, hMetadata, hCode,
    checkedU32_of_le hIndex, bind, Except.bind]
  refine ⟨_, rfl, ?_⟩
  have hKind := artifactCode_bounds (routeExecutionKind (route.response.map (·.kind))
    (route.response.bind (·.nativeBody)) (!route.effects.isEmpty))
  constructor
  · rfl
  · rfl
  · exact hKind
  · simp only [length_append]
    omega
  · simp only [length_append]
    omega
  · rw [append_assoc]
    exact slice_middle strings route.pattern (route.name.getD [])
  · have hName := slice_middle (strings ++ route.pattern) (route.name.getD []) []
    rwa [append_nil] at hName
  · intro word hWord
    simp only [RouteEntry.words, mem_cons, not_mem_nil, or_false] at hWord
    have hStrategy : (if routePatternHasParams route.pattern then 2 else 1) ≤ 2 := by
      split <;> omega
    simp only [uint32Max] at *
    omega

lemma emitEntries_ok (routes : List Route) (index : Nat) (strings : List UInt8)
    (hMethods : ∀ route ∈ routes, ∃ parsed, httpMethodFromStr route.method = .ok parsed)
    (hIndex : index + routes.length ≤ uint32Max)
    (hStrings : strings.length + stringBytes routes ≤ uint32Max) :
    ∃ entries more, emitEntries routes index strings = .ok (entries, strings ++ more) ∧
      more.length = stringBytes routes ∧ entries.length = routes.length ∧
      ∀ i route, routes[i]? = some route → ∃ entry, entries[i]? = some entry ∧
        EntryFor route (index + i) (strings ++ more) entry := by
  induction routes generalizing index strings with
  | nil =>
    refine ⟨[], [], ?_, rfl, rfl, fun i route hRoute => by cases hRoute⟩
    rw [emitEntries, append_nil]
  | cons route rest ih =>
    have hBytes : stringBytes (route :: rest) =
      route.pattern.length + (route.name.getD []).length + stringBytes rest := rfl
    rw [length_cons] at hIndex
    obtain ⟨parsed, hParsed⟩ := hMethods route mem_cons_self
    obtain ⟨entry, hEntry, hFor⟩ := emitEntry_ok index strings hParsed (by omega) (by omega)
    obtain ⟨entries, more, hRest, hMore, hLen, hAll⟩ := ih (index + 1) (strings ++ route.pattern ++ route.name.getD [])
        (fun other hOther => hMethods other (mem_cons_of_mem _ hOther)) (by omega)
        (by simp only [length_append]; omega)
    refine ⟨entry :: entries, route.pattern ++ route.name.getD [] ++ more, ?_, ?_, ?_, ?_⟩
    · rw [emitEntries, hEntry]
      simp only [bind, Except.bind, hRest]
      simp only [pure, Except.pure, append_assoc]
    · rw [hBytes, length_append, length_append, hMore]
    · rw [length_cons, length_cons, hLen]
    · have hGrown : strings ++ (route.pattern ++ route.name.getD [] ++ more) =
          strings ++ route.pattern ++ route.name.getD [] ++ more := by
        simp only [append_assoc]
      rw [hGrown]
      intro i other hOther
      cases i with
      | zero =>
        cases hOther
        exact ⟨entry, rfl, hFor.grow more⟩
      | succ i =>
        rw [show index + (i + 1) = index + 1 + i by omega]
        exact hAll i other hOther

def emittedHeader (routes strings : Nat) : List Nat :=
  [routeArtifactVersion, routeArtifactEndianMarker, routeArtifactHeaderSize, routes, routes,
    routeArtifactHeaderSize, routes * routeArtifactEntrySize,
    routeArtifactHeaderSize + routes * routeArtifactEntrySize, strings]

def emittedTail (routes strings : Nat) : List Nat :=
  [0, 0, routeArtifactHeaderSize + routes * routeArtifactEntrySize, strings]

def emittedFront (routes strings : Nat) (checksum : UInt64) : List UInt8 :=
  slrtMagic ++ (words (emittedHeader routes strings) ++
    (toBytes 8 checksum.toNat ++ words (emittedTail routes strings)))

def emittedSummary (routes strings : Nat) (checksum : UInt64) : RouteArtifactSummary :=
  ⟨routeArtifactVersion, routes, routes, routeArtifactHeaderSize, routes * routeArtifactEntrySize,
    routeArtifactHeaderSize + routes * routeArtifactEntrySize, strings, checksum.toNat⟩

lemma emittedFront_length (routes strings : Nat) (checksum : UInt64) :
    (emittedFront routes strings checksum).length = 64 := by
  simp [emittedFront, emittedHeader, emittedTail, slrtMagic, ascii]

lemma emitted_header (routes strings : Nat) (checksum : UInt64) (rest : List UInt8)
    (hTable : routeArtifactHeaderSize + routes * routeArtifactEntrySize ≤ uint32Max)
    (hStrings : strings ≤ uint32Max) :
    HeaderDecodes (emittedFront routes strings checksum ++ rest) (emittedSummary routes strings checksum) := by
  have hShape : emittedFront routes strings checksum ++ rest = slrtMagic ++ (words (emittedHeader routes strings) ++
        (toBytes 8 checksum.toNat ++ (words (emittedTail routes strings) ++ rest))) := by
    simp only [emittedFront, append_assoc]
  have hRoutes : routes ≤ uint32Max := by
    simp only [routeArtifactHeaderSize, routeArtifactEntrySize, uint32Max] at *
    omega
  have hWord : ∀ i value, (emittedHeader routes strings)[i]? = some value → value ≤ uint32Max →
      wordAt (emittedFront routes strings checksum ++ rest) (4 + 4 * i) = value := by
    intro i value hValue hFits
    exact wordAt_words slrtMagic _ (emittedHeader routes strings) i value hValue hFits
  have hSize : routeArtifactHeaderSize ≤ uint32Max := by decide
  constructor
  · rw [length_append, emittedFront_length]
    exact Nat.le_add_right _ _
  · exact slice_middle [] slrtMagic _
  · exact ⟨(hWord 0 _ rfl (by decide)).symm, rfl⟩
  · exact hWord 1 _ rfl (by decide)
  · exact hWord 2 _ rfl hSize
  · exact (hWord 3 _ rfl hRoutes).symm
  · exact (hWord 4 _ rfl hRoutes).symm
  · exact (hWord 5 _ rfl hSize).symm
  · exact (hWord 6 _ rfl (Nat.le_trans (Nat.le_add_left _ _) hTable)).symm
  · exact (hWord 7 _ rfl hTable).symm
  · exact (hWord 8 _ rfl hStrings).symm
  · have hSlice := slice_middle (slrtMagic ++ words (emittedHeader routes strings))
      (toBytes 8 checksum.toNat) (words (emittedTail routes strings) ++ rest)
    rw [length_append, words_length, toBytes_length, append_assoc] at hSlice
    rw [hShape]
    change checksum.toNat = fromBytes (slice _ 40 8)
    rw [show (40 : Nat) = slrtMagic.length + 4 * (emittedHeader routes strings).length from rfl, hSlice]
    exact (fromBytes_toBytes_of_lt checksum.toNat_lt).symm

variable {routes : Nat} {checksum : UInt64}

lemma emitted_sections {strings : Nat} {table text : List UInt8}
    (hTable : table.length = routes * routeArtifactEntrySize) (hText : text.length = strings) :
    SectionsFit (emittedFront routes strings checksum ++ (table ++ text))
      (emittedSummary routes strings checksum) routes := by
  have hFront := emittedFront_length routes strings checksum
  have hHdr : routeArtifactHeaderSize = 64 := rfl
  constructor
  · rfl
  · rfl
  · rfl
  · simp only [emittedSummary, length_append]
    omega
  · simp only [emittedSummary, length_append]
    omega
  · exact Nat.le_refl _

variable {entries : List RouteEntry}

lemma emitted_entry (hLen : entries.length = routes) {i : Nat} (hEntry : entries[i]? = some entry)
    (h : EntryFor route i strings entry) :
    EntryDecodes (emittedFront routes strings.length checksum ++ (entries.flatMap entryBytes ++ strings))
      (emittedSummary routes strings.length checksum)
      ⟨route.method, route.pattern, route.name.getD [], i + 1⟩ i := by
  have hFront := emittedFront_length routes strings.length checksum
  have hWord : ∀ k value, entry.words[k]? = some value → wordAt (emittedFront routes strings.length checksum ++
        (entries.flatMap entryBytes ++ strings))
        (entryAt (emittedSummary routes strings.length checksum) i + 4 * k) = value := by
    intro k value hValue
    have hFits := h.fits value (mem_of_getElem? hValue)
    have hRead := wordAt_table (emittedFront routes strings.length checksum) strings hEntry hValue hFits
    exact hRead
  have hText : ∀ offset size, slice (emittedFront routes strings.length checksum ++
      (entries.flatMap entryBytes ++ strings))
      ((emittedSummary routes strings.length checksum).stringTableOffset + offset) size =
        slice strings offset size := by
    intro offset size
    have hSlice := slice_right (emittedFront routes strings.length checksum ++
      entries.flatMap entryBytes) strings offset size
    rw [length_append, hFront, table_length, hLen, append_assoc] at hSlice
    exact hSlice
  obtain ⟨hBound, _⟩ := List.getElem_of_getElem? hEntry
  constructor
  · simp only [entryAt, emittedSummary, routeArtifactEntrySize, routeArtifactHeaderSize]
    omega
  · exact (hWord 0 _ rfl).trans h.method
  · exact (hWord 1 _ rfl).trans h.handlerId
  · rw [hWord 7 _ rfl]
    exact h.executionKind
  · rw [hWord 2 _ rfl, hWord 3 _ rfl]
    exact h.patternInside
  · rw [hWord 4 _ rfl, hWord 5 _ rfl]
    exact h.nameInside
  · rw [hWord 2 _ rfl, hWord 3 _ rfl, hText]
    exact h.pattern
  · rw [hWord 4 _ rfl, hWord 5 _ rfl, hText]
    exact h.name

lemma emitRouteArtifact_shape {app : ExtractedApp} (hWeb : app.kind = .web)
    (hEntries : emitEntries app.routes 0 [] = .ok (entries, strings))
    (hTable : routeArtifactHeaderSize + app.routes.length * routeArtifactEntrySize ≤ uint32Max)
    (hStrings : strings.length ≤ uint32Max) :
    ∃ checksum, emitRouteArtifact app = .ok (some (emittedFront app.routes.length strings.length checksum ++
          (entries.flatMap entryBytes ++ strings))) ∧
      fnvFrom 0 fnvOffsetBasis (emittedFront app.routes.length strings.length checksum ++
        (entries.flatMap entryBytes ++ strings)) = checksum := by
  have hRoutes : app.routes.length ≤ uint32Max := by
    simp only [routeArtifactHeaderSize, routeArtifactEntrySize, uint32Max] at *
    omega
  have hSaturating : saturatingMul app.routes.length routeArtifactEntrySize =
      app.routes.length * routeArtifactEntrySize := by
    exact Nat.min_eq_left (by simp only [uint32Max, sizeMax] at *; omega)
  have hSize : app.routes.length * routeArtifactEntrySize ≤ uint32Max := by omega
  have hHdr : routeArtifactHeaderSize ≤ uint32Max := by decide
  let before := slrtMagic ++ words (emittedHeader app.routes.length strings.length)
  let after := words (emittedTail app.routes.length strings.length) ++ (entries.flatMap entryBytes ++ strings)
  have hBefore : before.length = checksumOffset := by
    rfl
  let checksum := fnvFrom 0 fnvOffsetBasis (before ++ (toBytes 8 0 ++ after))
  have hFinished : ∀ value : UInt64, emittedFront app.routes.length strings.length value ++
      (entries.flatMap entryBytes ++ strings) = before ++ (toBytes 8 value.toNat ++ after) := by
    intro value
    simp only [emittedFront, before, after, append_assoc]
  refine ⟨checksum, ?_, ?_⟩
  · rw [hFinished, ← withChecksum_eq checksum hBefore]
    simp only [emitRouteArtifact, hWeb, ne_eq, not_true_eq_false, if_false, hSaturating,
      checkedU32_of_le hRoutes, checkedU32_of_le hHdr, checkedU32_of_le hSize,
      checkedU32_of_le hTable, hEntries, checkedU32_of_le hStrings, bind, Except.bind,
      fnv1a64_eq_fnvFrom]
    rfl
  · exact fnvFrom_withChecksum checksum hBefore

/-- For every web application with known methods whose tables and strings fit 32-bit sizes, an
artifact is emitted, the runtime accepts it against the plan of the same routes, and the summary it
returns is the emitted header. -/
theorem emitRouteArtifact_accepted (sha256 : List UInt8 → Except StatusCode (List UInt8))
    (app : ExtractedApp) (hWeb : app.kind = .web)
    (hMethods : ∀ route ∈ app.routes, ∃ parsed, httpMethodFromStr route.method = .ok parsed)
    (hTable : routeArtifactHeaderSize + app.routes.length * routeArtifactEntrySize ≤ uint32Max)
    (hStrings : stringBytes app.routes ≤ uint32Max) :
    ∃ artifact summary, emitRouteArtifact app = .ok (some artifact) ∧
      (routeArtifactValidate sha256 artifact [] (planRoutes app)).result = .ok summary ∧
      HeaderDecodes artifact summary ∧ summary.routeCount = app.routes.length ∧
      summary.endpointCount = app.routes.length ∧
      summary.stringTableSize = stringBytes app.routes := by
  have hHeader : 64 + app.routes.length * 48 ≤ uint32Max := hTable
  obtain ⟨entries, strings, hEntries, hMore, hLength, hAll⟩ :=
    emitEntries_ok app.routes 0 [] hMethods (by omega) (by simpa using hStrings)
  rw [nil_append] at hEntries hAll
  obtain ⟨checksum, hEmit, hChecksum⟩ := emitRouteArtifact_shape hWeb hEntries hTable (hMore ▸ hStrings)
  have hAccepted : Accepted (emittedFront app.routes.length strings.length checksum ++
      (entries.flatMap entryBytes ++ strings))
      (emittedSummary app.routes.length strings.length checksum) (planRoutes app) := by
    constructor
    · exact emitted_header _ _ _ _ hTable (hMore ▸ hStrings)
    · rw [planRoutes, length_mapIdx]
      exact emitted_sections (by rw [table_length, hLength]; rfl) rfl
    · intro i planRoute hPlan
      rw [planRoutes, getElem?_mapIdx, Option.map_eq_some_iff] at hPlan
      obtain ⟨route, hRoute, rfl⟩ := hPlan
      obtain ⟨entry, hEntry, hFor⟩ := hAll i route hRoute
      rw [Nat.zero_add] at hFor
      exact emitted_entry hLength hEntry hFor
  have hSize : (emittedFront app.routes.length strings.length checksum ++
      (entries.flatMap entryBytes ++ strings)).length ≤ sizeMax := by
    rw [length_append, length_append, emittedFront_length, table_length, hLength]
    simp only [uint32Max, sizeMax] at *
    omega
  have hReturns := routeArtifactValidate_returns sha256 hSize hAccepted (by rw [hChecksum]; rfl)
  exact ⟨_, _, hEmit, hReturns.result, hAccepted.header, rfl, rfl, hMore⟩

/-- An application with a static and a parameter route. -/
theorem emitRouteArtifact_accepted_twoRoutes :
    ∃ artifact summary, emitRouteArtifact ⟨.web, [⟨HttpMethod.get.name, ascii ['/', 'a'], none, none, []⟩,
          ⟨HttpMethod.post.name, [47, 123, 105, 125], some (ascii ['n']), none, []⟩]⟩ =
        .ok (some artifact) ∧
      (routeArtifactValidate (fun _ => .ok []) artifact [] (planRoutes ⟨.web,
        [⟨HttpMethod.get.name, ascii ['/', 'a'], none, none, []⟩,
          ⟨HttpMethod.post.name, [47, 123, 105, 125], some (ascii ['n']), none, []⟩]⟩)).result =
        .ok summary ∧
      HeaderDecodes artifact summary ∧ summary.routeCount = 2 ∧ summary.endpointCount = 2 ∧
      summary.stringTableSize = 7 :=
  emitRouteArtifact_accepted (fun _ => .ok []) _ rfl
    (by simp only [forall_mem_cons]; exact ⟨⟨.get, rfl⟩, ⟨.post, rfl⟩, by simp⟩)
    (by decide) (by decide)

end Sloppy.Artifact
