import Sloppy.Artifact.Validate

/-! # Soundness of the validator

The artifact is untrusted. Whatever its bytes, the validator stays inside them and no size it
computes wraps; what it accepts decodes, entry by entry, to the plan's routes.
-/

namespace Sloppy.Artifact

open Lib Lib.Traced Lib.LittleEndian

def methodOfCode : Nat → Option HttpMethod
  | 1 => some .get
  | 2 => some .post
  | 3 => some .put
  | 4 => some .delete
  | 5 => some .patch
  | 6 => some .options
  | 7 => some .head
  | _ => none

def entryAt (summary : RouteArtifactSummary) (index : Nat) : Nat :=
  summary.routeTableOffset + index * routeArtifactEntrySize

structure HeaderDecodes (artifact : List UInt8) (summary : RouteArtifactSummary) : Prop where
  complete : routeArtifactHeaderSize ≤ artifact.length
  magic : slice artifact 0 4 = slrtMagic
  version : summary.version = wordAt artifact 4 ∧ summary.version = routeArtifactVersion
  endian : wordAt artifact 8 = routeArtifactEndianMarker
  headerSize : wordAt artifact 12 = routeArtifactHeaderSize
  routeCount : summary.routeCount = wordAt artifact 16
  endpointCount : summary.endpointCount = wordAt artifact 20
  routeTableOffset : summary.routeTableOffset = wordAt artifact 24
  routeTableSize : summary.routeTableSize = wordAt artifact 28
  stringTableOffset : summary.stringTableOffset = wordAt artifact 32
  stringTableSize : summary.stringTableSize = wordAt artifact 36
  checksum : summary.checksum = fromBytes (slice artifact checksumOffset 8)

/-- The two sections are in the file, apart, and sized for the plan. -/
structure SectionsFit (artifact : List UInt8) (summary : RouteArtifactSummary) (routes : Nat) :
    Prop where
  routeCount : summary.routeCount = routes
  endpointCount : summary.endpointCount = routes
  tableSize : summary.routeTableSize = routes * routeArtifactEntrySize
  routesInside : summary.routeTableOffset + summary.routeTableSize ≤ artifact.length
  stringsInside : summary.stringTableOffset + summary.stringTableSize ≤ artifact.length
  apart : summary.routeTableOffset + summary.routeTableSize ≤ summary.stringTableOffset

/-- Entry `index` decodes to a plan route, and its strings lie in the string table. -/
structure EntryDecodes (artifact : List UInt8) (summary : RouteArtifactSummary) (route : PlanRoute)
    (index : Nat) : Prop where
  inTable : entryAt summary index + routeArtifactEntrySize ≤ summary.routeTableOffset + summary.routeTableSize
  method : wordAt artifact (entryAt summary index) = slrtMethodCode route.method
  handlerId : wordAt artifact (entryAt summary index + 4) = route.handlerId
  executionKind : 1 ≤ wordAt artifact (entryAt summary index + 28) ∧ wordAt artifact (entryAt summary index + 28) ≤ 5
  patternInside : wordAt artifact (entryAt summary index + 8) +
    wordAt artifact (entryAt summary index + 12) ≤ summary.stringTableSize
  nameInside : wordAt artifact (entryAt summary index + 16) +
    wordAt artifact (entryAt summary index + 20) ≤ summary.stringTableSize
  pattern : slice artifact (summary.stringTableOffset + wordAt artifact (entryAt summary index + 8))
    (wordAt artifact (entryAt summary index + 12)) = route.pattern
  name : slice artifact (summary.stringTableOffset + wordAt artifact (entryAt summary index + 16))
    (wordAt artifact (entryAt summary index + 20)) = route.name

variable {artifact : List UInt8}

lemma methodOfCode_slrtMethodCode (method : List UInt8) (parsed : HttpMethod) :
    methodOfCode (slrtMethodCode method) = some parsed ↔ method = parsed.name ∧ parsed ≠ .unknown := by
  rw [← httpMethodFromStr_ok_iff]
  unfold slrtMethodCode
  split
  next found hFound =>
    obtain ⟨_, hKnown⟩ := httpMethodFromStr_ok_iff.mp hFound
    have hCode : methodOfCode found.code = some found := by
      cases found with
      | unknown => exact absurd rfl hKnown
      | _ => rfl
    rw [hCode, hFound, Option.some.injEq, Except.ok.injEq]
  next hFailed =>
    rw [hFailed]
    constructor <;> intro h <;> cases h

lemma readHeader_spec : Spec (Access.Safe artifact.length) (readHeader artifact) (HeaderDecodes artifact) := by
  refine (Spec.require _ _).bind fun _ hComplete => ?_
  have hLong : 64 ≤ artifact.length := hComplete
  have hWord : ∀ offset, offset + 4 ≤ 64 → Spec (Access.Safe artifact.length) (slrtU32At artifact offset)
        (fun value => value = wordAt artifact offset) := by
    intro offset hOffset
    exact (slrtU32At_returns (by omega) (by simp only [sizeMax]; omega)).spec
  refine (bytesAt_returns (by omega)).spec.bind fun _ hBytes => ?_
  refine (Spec.require _ _).bind fun _ hMagic => ?_
  refine (hWord 4 (by omega)).bind fun version hVersion => ?_
  refine (Spec.require _ _).bind fun _ hKnown => ?_
  refine (hWord 8 (by omega)).bind fun _ hMarker => (Spec.require _ _).bind fun _ hEndian => ?_
  refine (hWord 12 (by omega)).bind fun _ hSize => (Spec.require _ _).bind fun _ hHdr => ?_
  refine (hWord 16 (by omega)).bind fun routeCount hRouteCount => ?_
  refine (hWord 20 (by omega)).bind fun endpointCount hEndpointCount => ?_
  refine (hWord 24 (by omega)).bind fun routeTableOffset hRouteTableOffset => ?_
  refine (hWord 28 (by omega)).bind fun routeTableSize hRouteTableSize => ?_
  refine (hWord 32 (by omega)).bind fun stringTableOffset hStringTableOffset => ?_
  refine (hWord 36 (by omega)).bind fun stringTableSize hStringTableSize => ?_
  refine (slrtU64At_returns (by simp only [checksumOffset]; omega)
    (by simp only [checksumOffset, sizeMax]; omega)).spec.bind fun checksum hChecksum => ?_
  exact Spec.pure ⟨hComplete, hBytes ▸ hMagic, ⟨hVersion, hKnown⟩, hMarker ▸ hEndian,
    hSize ▸ hHdr, hRouteCount, hEndpointCount, hRouteTableOffset, hRouteTableSize,
    hStringTableOffset, hStringTableSize, hChecksum⟩

variable {summary : RouteArtifactSummary}

lemma HeaderDecodes.bounds (h : HeaderDecodes artifact summary) :
    summary.routeCount ≤ uint32Max ∧ summary.routeTableOffset ≤ uint32Max ∧
      summary.routeTableSize ≤ uint32Max ∧ summary.stringTableOffset ≤ uint32Max ∧
      summary.stringTableSize ≤ uint32Max := by
  rw [h.routeCount, h.routeTableOffset, h.routeTableSize, h.stringTableOffset, h.stringTableSize]
  exact ⟨wordAt_le _ _, wordAt_le _ _, wordAt_le _ _, wordAt_le _ _, wordAt_le _ _⟩

variable {α : Type} {Q : α → Prop}

lemma requireRange_spec {bits len offset size : Nat} {failure : Failure} {next : Unit → Check α}
    (hWord : len < 2 ^ bits) (hNext : offset + size ≤ len → Spec (Access.Safe artifact.length) (next ()) Q) :
    Spec (Access.Safe artifact.length)
      (slrtRangeValid bits len offset size >>= fun valid => require (valid = true) failure >>= next)
      Q := by
  refine (slrtRangeValid_returns hWord).spec.bind fun valid hValid => ?_
  refine (Spec.require _ _).bind fun _ hTrue => hNext ?_
  rw [hValid] at hTrue
  exact of_decide_eq_true hTrue

section

variable (h : HeaderDecodes artifact summary)
include h

lemma checkSections_spec (hLen : artifact.length ≤ sizeMax) (routes : Nat) :
    Spec (Access.Safe artifact.length) (checkSections artifact summary routes)
      (fun _ => SectionsFit artifact summary routes) := by
  have hBounds := h.bounds
  have hWord : artifact.length < 2 ^ 64 := by
    simp only [sizeMax] at hLen
    omega
  simp only [uint32Max] at hBounds
  refine (checkedMul_spec _).bind fun expected hExpected => ?_
  refine (checkedAdd_spec _ (by simp only [sizeMax]; omega)).bind fun tableEnd hTableEnd => ?_
  refine (checkedAdd_spec _ (by simp only [sizeMax]; omega)).bind fun _ _ => ?_
  refine (Spec.require _ _).bind fun _ hCounts => ?_
  obtain ⟨hRoutes, hEndpoints, hSize⟩ := hCounts
  refine requireRange_spec hWord fun hRoutesInside => ?_
  refine requireRange_spec hWord fun hStringsInside => ?_
  refine (Spec.require _ _).mono fun _ hApart => ?_
  refine ⟨hRoutes, hEndpoints, ?_, hRoutesInside, hStringsInside, hTableEnd.1 ▸ hApart⟩
  rw [hSize, hExpected.1, hRoutes]

lemma entryOffsetOf_spec (index : Nat) : Spec (Access.Safe artifact.length) (entryOffsetOf artifact summary index)
      (fun offset => offset = entryAt summary index ∧ offset + routeArtifactEntrySize ≤ artifact.length ∧
        offset + routeArtifactEntrySize ≤ sizeMax ∧
        offset + routeArtifactEntrySize ≤ summary.routeTableOffset + summary.routeTableSize) := by
  have hBounds := h.bounds
  simp only [uint32Max] at hBounds
  refine (checkedMul_spec _).bind fun delta hDelta => ?_
  refine (checkedAdd_spec _ (hDelta.1 ▸ hDelta.2)).bind fun offset hOffset => ?_
  refine (checkedAdd_spec _ (by decide)).bind fun entryEnd hEnd => ?_
  refine (checkedAdd_spec _ (by simp only [sizeMax]; omega)).bind fun tableEnd hTableEnd => ?_
  refine (Spec.require _ _).bind fun _ hInside => ?_
  obtain ⟨hFile, _, hTable⟩ := hInside
  refine Spec.pure ⟨?_, hEnd.1 ▸ hFile, hEnd.2, ?_⟩
  · rw [hOffset.1, hDelta.1]
    rfl
  · rw [← hEnd.1, ← hTableEnd.1]
    exact hTable

lemma stringRangeOf_spec (hLen : artifact.length ≤ sizeMax)
    {patternOffset patternLen nameOffset nameLen : Nat} (hPat : patternOffset ≤ uint32Max)
    (hName : nameOffset ≤ uint32Max) :
    Spec (Access.Safe artifact.length) (stringRangeOf artifact summary patternOffset patternLen nameOffset nameLen)
      (fun ranges => ranges = (summary.stringTableOffset + patternOffset, summary.stringTableOffset + nameOffset) ∧
        summary.stringTableOffset + patternOffset + patternLen ≤ artifact.length ∧
        summary.stringTableOffset + nameOffset + nameLen ≤ artifact.length ∧
        patternOffset + patternLen ≤ summary.stringTableSize ∧
        nameOffset + nameLen ≤ summary.stringTableSize) := by
  have hBounds := h.bounds
  simp only [uint32Max] at hBounds hPat hName
  have hWord : artifact.length < 2 ^ 64 := by
    simp only [sizeMax] at hLen
    omega
  have hTable : summary.stringTableSize < 2 ^ 32 := by omega
  refine (checkedAdd_spec _ (by simp only [sizeMax]; omega)).bind fun patternAbs hPatternAbs => ?_
  refine (checkedAdd_spec _ (by simp only [sizeMax]; omega)).bind fun nameAbs hNameAbs => ?_
  refine requireRange_spec hWord fun hPatternFile => ?_
  refine requireRange_spec hWord fun hNameFile => ?_
  refine requireRange_spec hTable fun hPatternTable => ?_
  refine requireRange_spec hTable fun hNameTable => ?_
  rw [hPatternAbs.1] at hPatternFile ⊢
  rw [hNameAbs.1] at hNameFile ⊢
  exact Spec.pure ⟨rfl, hPatternFile, hNameFile, hPatternTable, hNameTable⟩

end

lemma strEqualAt_returns (text : List UInt8) {offset len : Nat} (h : offset + len ≤ artifact.length) :
    Returns (Access.Safe artifact.length) (strEqualAt artifact text offset len)
      (decide (text = slice artifact offset len)) := by
  have hSlice := slice_length h
  unfold strEqualAt
  split
  next hDiffer =>
    rw [decide_eq_false (fun hEq => hDiffer (by rw [hEq, hSlice]))]
    exact Returns.pure _
  next hSame =>
    split
    next hZero =>
      rw [decide_eq_true]
      · exact Returns.pure _
      · rw [List.length_eq_zero_iff.mp ((not_not.mp hSame).trans hZero),
          List.length_eq_zero_iff.mp (hSlice.trans hZero)]
    · exact (bytesAt_returns h).bind (Returns.pure _)

lemma readField_spec {entry delta : Nat} {next : Nat → Check α} (hDelta : delta + 4 ≤ routeArtifactEntrySize)
    (hFile : entry + routeArtifactEntrySize ≤ artifact.length) (hSize : entry + routeArtifactEntrySize ≤ sizeMax)
    (hNext : Spec (Access.Safe artifact.length) (next (wordAt artifact (entry + delta))) Q) :
    Spec (Access.Safe artifact.length)
      (addSize entry delta >>= fun offset => slrtU32At artifact offset >>= next) Q := by
  refine (addSize_returns (by omega)).spec.bind ?_
  rintro _ rfl
  refine (slrtU32At_returns (by omega) (by omega)).spec.bind ?_
  rintro _ rfl
  exact hNext

lemma slrtValidateEntry_spec (h : HeaderDecodes artifact summary) (hLen : artifact.length ≤ sizeMax)
    (route : PlanRoute) (index : Nat) :
    Spec (Access.Safe artifact.length) (slrtValidateEntry artifact summary route index)
      (fun _ => EntryDecodes artifact summary route index) := by
  refine (entryOffsetOf_spec h index).bind ?_
  rintro _ ⟨rfl, hFile, hSize, hTable⟩
  have hEntry : 48 = routeArtifactEntrySize := rfl
  refine (slrtU32At_returns (by omega) (by omega)).spec.bind ?_
  rintro _ rfl
  refine readField_spec (by decide) hFile hSize (readField_spec (by decide) hFile hSize ?_)
  refine readField_spec (by decide) hFile hSize (readField_spec (by decide) hFile hSize ?_)
  refine readField_spec (by decide) hFile hSize (readField_spec (by decide) hFile hSize ?_)
  refine (Spec.require _ _).bind fun _ hEndpoint => ?_
  refine (Spec.require _ _).bind fun _ hKind => ?_
  refine (stringRangeOf_spec h hLen (wordAt_le _ _) (wordAt_le _ _)).bind ?_
  rintro _ ⟨rfl, hPatternFile, hNameFile, hPatternTable, hNameTable⟩
  refine (strEqualAt_returns _ hPatternFile).spec.bind ?_
  rintro _ rfl
  refine (Spec.require _ _).bind fun _ hPat => ?_
  refine (strEqualAt_returns _ hNameFile).spec.bind ?_
  rintro _ rfl
  refine (Spec.require _ _).mono fun _ hName => ?_
  exact ⟨hTable, hEndpoint.1, hEndpoint.2, hKind, hPatternTable, hNameTable,
    (of_decide_eq_true hPat).symm, (of_decide_eq_true hName).symm⟩

lemma validateEntries_spec (h : HeaderDecodes artifact summary) (hLen : artifact.length ≤ sizeMax)
    (routes : List PlanRoute) (start : Nat) :
    Spec (Access.Safe artifact.length) (validateEntries artifact summary routes start)
      (fun _ => ∀ i route, routes[i]? = some route → EntryDecodes artifact summary route (start + i)) := by
  induction routes generalizing start with
  | nil => exact Spec.pure (fun i route hRoute => by cases hRoute)
  | cons route rest ih =>
    refine (slrtValidateEntry_spec h hLen route start).bind fun _ hFirst => ?_
    refine (ih (start + 1)).mono fun _ hRest => ?_
    intro i other hOther
    cases i with
    | zero =>
      cases hOther
      exact hFirst
    | succ i =>
      rw [show start + (i + 1) = start + 1 + i by omega]
      exact hRest i other hOther

variable (sha256 : List UInt8 → Except StatusCode (List UInt8))

lemma slrtValidateHash_safe (expectedHash : List UInt8) :
    Spec (Access.Safe artifact.length) (slrtValidateHash sha256 artifact expectedHash) (fun _ => True) := by
  unfold slrtValidateHash
  split
  · exact Spec.pure trivial
  refine (Spec.require _ _).bind fun _ _ => ?_
  refine (bytesAt_returns (Nat.le_of_eq (Nat.zero_add _))).spec.bind fun bytes _ => ?_
  split
  · exact Spec.fail _
  · exact (Spec.require _ _).mono fun _ _ => trivial

structure Accepted (artifact : List UInt8) (summary : RouteArtifactSummary)
    (routes : List PlanRoute) : Prop where
  header : HeaderDecodes artifact summary
  sections : SectionsFit artifact summary routes.length
  entries : ∀ i route, routes[i]? = some route → EntryDecodes artifact summary route i

lemma routeArtifactValidate_spec (hLen : artifact.length ≤ sizeMax) (expectedHash : List UInt8)
    (routes : List PlanRoute) :
    Spec (Access.Safe artifact.length) (routeArtifactValidate sha256 artifact expectedHash routes)
      (fun summary => Accepted artifact summary routes) := by
  refine readHeader_spec.bind fun summary hHdr => ?_
  refine (checkSections_spec hHdr hLen routes.length).bind fun _ hSections => ?_
  refine slrtChecksum_returns.spec.bind fun checksum _ => ?_
  refine (Spec.require _ _).bind fun _ _ => ?_
  refine (slrtValidateHash_safe sha256 expectedHash).bind fun _ _ => ?_
  refine (validateEntries_spec hHdr hLen routes 0).bind fun _ hEntries => ?_
  refine Spec.pure ⟨hHdr, hSections, ?_⟩
  intro i route hRoute
  have hEntry := hEntries i route hRoute
  rwa [Nat.zero_add] at hEntry

/-- An accepted artifact, whatever its bytes: every read was inside it, no size wrapped, it has one
entry per plan route, and entry `i` holds the method, handler, pattern and name of route `i` with
both strings inside the string table. -/
theorem routeArtifactValidate_sound (artifact expectedHash : List UInt8) (routes : List PlanRoute)
    (hLength : artifact.length ≤ sizeMax) (summary : RouteArtifactSummary)
    (hAccepted : (routeArtifactValidate sha256 artifact expectedHash routes).result = .ok summary) :
    (∀ access ∈ (routeArtifactValidate sha256 artifact expectedHash routes).trace, access.Safe artifact.length) ∧
    summary.routeCount = routes.length ∧
    summary.stringTableOffset + summary.stringTableSize ≤ artifact.length ∧
    ∀ i route, routes[i]? = some route → EntryDecodes artifact summary route i ∧
      ∀ parsed, methodOfCode (wordAt artifact (entryAt summary i)) = some parsed ↔
        route.method = parsed.name ∧ parsed ≠ .unknown := by
  have hSpec := routeArtifactValidate_spec sha256 hLength expectedHash routes
  have hFacts := hSpec.post summary hAccepted
  refine ⟨hSpec.safe, hFacts.sections.routeCount, hFacts.sections.stringsInside, ?_⟩
  intro i route hRoute
  have hEntry := hFacts.entries i route hRoute
  refine ⟨hEntry, fun parsed => ?_⟩
  rw [hEntry.method]
  exact methodOfCode_slrtMethodCode route.method parsed

def singleRouteArtifact : List UInt8 :=
  [83, 76, 82, 84, 1, 0, 0, 0, 4, 3, 2, 1, 64, 0, 0, 0, 1, 0, 0, 0, 1, 0, 0, 0, 64, 0, 0, 0,
    48, 0, 0, 0, 112, 0, 0, 0, 1, 0, 0, 0, 174, 5, 31, 5, 104, 134, 43, 223, 0, 0, 0, 0, 0, 0, 0, 0,
    112, 0, 0, 0, 1, 0, 0, 0,
    1, 0, 0, 0, 1, 0, 0, 0, 0, 0, 0, 0, 1, 0, 0, 0, 1, 0, 0, 0, 0, 0, 0, 0, 1, 0, 0, 0, 1, 0, 0, 0,
    0, 0, 0, 0, 0, 0, 0, 0, 0, 0, 0, 0, 0, 0, 0, 0,
    47]

theorem routeArtifactValidate_sound_singleRoute :
    (∀ access ∈ (routeArtifactValidate (fun _ => .ok []) singleRouteArtifact []
        [⟨HttpMethod.get.name, ascii ['/'], [], 1⟩]).trace,
      access.Safe singleRouteArtifact.length) ∧
    EntryDecodes singleRouteArtifact ⟨1, 1, 1, 64, 48, 112, 1, 16081094675777127854⟩
      ⟨HttpMethod.get.name, ascii ['/'], [], 1⟩ 0 := by
  have hSound := routeArtifactValidate_sound (fun _ => .ok []) singleRouteArtifact []
    [⟨HttpMethod.get.name, ascii ['/'], [], 1⟩] (by decide)
    ⟨1, 1, 1, 64, 48, 112, 1, 16081094675777127854⟩ (by decide +kernel)
  exact ⟨hSound.1, (hSound.2.2.2 0 _ rfl).1⟩

end Sloppy.Artifact
