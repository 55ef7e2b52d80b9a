import Sloppy.Core.Plan
import Sloppy.Lib.Traced
import Sloppy.Lib.Endian

/-! # The route artifact validator

`sl_route_artifact_validate` over the bytes of `routes.slrt`. Every byte it reads and every size it computes is
recorded: a read outside the artifact and an operation that wraps are values of the model. Sizes are 64-bit.
-/

namespace Sloppy.Artifact

open Lib Lib.Traced Lib.LittleEndian List

section

/-- What the validator does to its input: a read of `size` bytes at `offset`, or the operands of a
size computation. -/
inductive Access where
  | read (offset size : Nat)
  | add (a b : Nat)
  | sub (a b : Nat)
  | mul (a b : Nat)
  deriving DecidableEq

structure Failure where
  message : String
  hint : String
  deriving DecidableEq

structure RouteArtifactSummary where
  version : Nat
  routeCount : Nat
  endpointCount : Nat
  routeTableOffset : Nat
  routeTableSize : Nat
  stringTableOffset : Nat
  stringTableSize : Nat
  checksum : Nat
  deriving DecidableEq

abbrev Check (α : Type) := Traced Access Failure α

def routeArtifactVersion : Nat := 1

def routeArtifactHeaderSize : Nat := 64

def routeArtifactEntrySize : Nat := 48

def routeArtifactEndianMarker : Nat := 0x01020304

def checksumOffset : Nat := 40

def fnvOffsetBasis : UInt64 := 0xcbf29ce484222325

def fnvPrime : UInt64 := 0x00000100000001b3

def slrtMagic : List UInt8 := ascii ['S', 'L', 'R', 'T']

def addSize (a b : Nat) : Check Nat := do
  emit (.add a b)
  pure ((a + b) % 2 ^ 64)

def subWord (bits a b : Nat) : Check Nat := do
  emit (.sub a b)
  pure ((a + 2 ^ bits - b) % 2 ^ bits)

def checkedAdd (a b : Nat) (failure : Failure) : Check Nat :=
  match checkedAddSize a b with
  | .error _ => fail failure
  | .ok sum => do
    emit (.add a b)
    pure sum

def checkedMul (a b : Nat) (failure : Failure) : Check Nat :=
  match checkedMulSize a b with
  | .error _ => fail failure
  | .ok product => do
    emit (.mul a b)
    pure product

variable (artifact : List UInt8)

def bytesAt (offset size : Nat) : Check (List UInt8) := do
  emit (.read offset size)
  pure ((artifact.drop offset).take size)

def byteAt (offset : Nat) : Check UInt8 := do
  emit (.read offset 1)
  pure (artifact.getD offset 0)

def slrtRangeValid (bits length offset size : Nat) : Check Bool :=
  if offset ≤ length then do
    let room ← subWord bits length offset
    pure (decide (size ≤ room))
  else pure false

def slrtU32At (offset : Nat) : Check Nat := do
  let b0 ← byteAt artifact offset
  let b1 ← byteAt artifact (← addSize offset 1)
  let b2 ← byteAt artifact (← addSize offset 2)
  let b3 ← byteAt artifact (← addSize offset 3)
  pure (b0.toNat ||| (b1.toNat <<< 8) ||| (b2.toNat <<< 16) ||| (b3.toNat <<< 24))

/-- The loop of the 64-bit read, `remaining` bytes before its end. -/
def slrtU64Loop (artifact : List UInt8) (offset : Nat) : Nat → Nat → Nat → Check Nat
  | 0, _, value => pure value
  | remaining + 1, index, value => do
    let b ← byteAt artifact (← addSize offset index)
    slrtU64Loop artifact offset remaining (index + 1) (value ||| (b.toNat <<< (index * 8)))

def slrtU64At (offset : Nat) : Check Nat :=
  slrtU64Loop artifact offset 8 0 0

/-- One round of the checksum; the bytes of the checksum field itself count as zero. -/
def fnvRound (hash : UInt64) (index : Nat) (byte : UInt8) : UInt64 :=
  let value := if checksumOffset ≤ index ∧ index < checksumOffset + 8 then 0 else byte
  (hash ^^^ value.toUInt64) * fnvPrime

def slrtChecksumLoop (artifact : List UInt8) : Nat → Nat → UInt64 → Check UInt64
  | 0, _, hash => pure hash
  | remaining + 1, index, hash => do
    let b ← byteAt artifact index
    slrtChecksumLoop artifact remaining (index + 1) (fnvRound hash index b)

def slrtChecksum : Check UInt64 :=
  slrtChecksumLoop artifact artifact.length 0 fnvOffsetBasis

def hexDigit (value : Nat) : UInt8 :=
  if value < 10 then UInt8.ofNat (48 + value) else UInt8.ofNat (87 + value)

def cryptoHexEncode (data : List UInt8) : List UInt8 :=
  data.flatMap fun b => [hexDigit (b.toNat / 16), hexDigit (b.toNat % 16)]

def sha256Label : List UInt8 := ascii ['s', 'h', 'a', '2', '5', '6', ':']

def hashMismatch : Failure :=
  ⟨"SLRT hash mismatch", "routeDispatch.artifact.hash must match routes.slrt bytes"⟩

/-- `sha256` is the crypto backend's hash of the whole artifact. -/
def slrtValidateHash (sha256 : List UInt8 → Except StatusCode (List UInt8))
    (artifact expectedHash : List UInt8) : Check Unit :=
  if expectedHash.length = 0 then pure ()
  else do
    require (expectedHash.length = 71) hashMismatch
    let bytes ← bytesAt artifact 0 artifact.length
    match sha256 bytes with
    | .error _ => fail hashMismatch
    | .ok digest => require (expectedHash = sha256Label ++ cryptoHexEncode digest) hashMismatch

def slrtMethodCode (method : List UInt8) : Nat :=
  match httpMethodFromStr method with
  | .ok parsed => parsed.code
  | .error _ => 0

/-- Equality of a plan text with a range of the artifact; the bytes are read only when the lengths
agree and are not zero. -/
def strEqualAt (artifact text : List UInt8) (offset length : Nat) : Check Bool :=
  if text.length ≠ length then pure false
  else if length = 0 then pure true
  else do
    let bytes ← bytesAt artifact offset length
    pure (decide (text = bytes))

def entryOverflow : Failure :=
  ⟨"invalid SLRT route table range", "route artifact entry offsets must not overflow size bounds"⟩

def entryOutside : Failure :=
  ⟨"invalid SLRT route table range", "route artifact entries must stay inside the declared route table"⟩

def endpointMismatch : Failure :=
  ⟨"invalid SLRT route endpoint", "route artifact endpoint entries must match Plan routes by index"⟩

def unknownExecutionKind : Failure :=
  ⟨"invalid SLRT execution kind", "route artifact execution kinds must be known by this runtime"⟩

def stringOutside : Failure :=
  ⟨"invalid SLRT string range", "route artifact string offsets must stay within the string table"⟩

def metadataMismatch : Failure :=
  ⟨"SLRT route metadata mismatch", "route artifact pattern and name strings must match app.plan.json"⟩

def entryOffsetOf (summary : RouteArtifactSummary) (routeIndex : Nat) : Check Nat := do
  let entryDelta ← checkedMul routeIndex routeArtifactEntrySize entryOverflow
  let entryOffset ← checkedAdd summary.routeTableOffset entryDelta entryOutside
  let entryEnd ← checkedAdd entryOffset routeArtifactEntrySize entryOutside
  let routeTableEnd ← checkedAdd summary.routeTableOffset summary.routeTableSize entryOutside
  require (entryEnd ≤ artifact.length ∧ summary.routeTableOffset ≤ entryOffset ∧
    entryEnd ≤ routeTableEnd) entryOutside
  pure entryOffset

/-- A string range must fit the artifact and the string table; its absolute offset is returned. -/
def stringRangeOf (summary : RouteArtifactSummary)
    (patternOffset patternLen nameOffset nameLen : Nat) : Check (Nat × Nat) := do
  let patternAbs ← checkedAdd summary.stringTableOffset patternOffset stringOutside
  let nameAbs ← checkedAdd summary.stringTableOffset nameOffset stringOutside
  require ((← slrtRangeValid 64 artifact.length patternAbs patternLen) = true) stringOutside
  require ((← slrtRangeValid 64 artifact.length nameAbs nameLen) = true) stringOutside
  require ((← slrtRangeValid 32 summary.stringTableSize patternOffset patternLen) = true) stringOutside
  require ((← slrtRangeValid 32 summary.stringTableSize nameOffset nameLen) = true) stringOutside
  pure (patternAbs, nameAbs)

def slrtValidateEntry (summary : RouteArtifactSummary) (route : PlanRoute) (routeIndex : Nat) : Check Unit := do
  let entryOffset ← entryOffsetOf artifact summary routeIndex
  let method ← slrtU32At artifact entryOffset
  let handlerId ← slrtU32At artifact (← addSize entryOffset 4)
  let patternOffset ← slrtU32At artifact (← addSize entryOffset 8)
  let patternLen ← slrtU32At artifact (← addSize entryOffset 12)
  let nameOffset ← slrtU32At artifact (← addSize entryOffset 16)
  let nameLen ← slrtU32At artifact (← addSize entryOffset 20)
  let executionKind ← slrtU32At artifact (← addSize entryOffset 28)
  require (method = slrtMethodCode route.method ∧ handlerId = route.handlerId) endpointMismatch
  require (1 ≤ executionKind ∧ executionKind ≤ 5) unknownExecutionKind
  let (patternAbs, nameAbs) ← stringRangeOf artifact summary patternOffset patternLen nameOffset nameLen
  require ((← strEqualAt artifact route.pattern patternAbs patternLen) = true) metadataMismatch
  require ((← strEqualAt artifact route.name nameAbs nameLen) = true) metadataMismatch

def truncatedArtifact : Failure :=
  ⟨"truncated SLRT route artifact", "routes.slrt must contain a complete header"⟩

def invalidMagic : Failure :=
  ⟨"invalid SLRT route artifact magic", "routes.slrt must start with the SLRT magic"⟩

def unsupportedVersion : Failure :=
  ⟨"unsupported SLRT route artifact version", "regenerate the artifacts with a compatible sloppyc"⟩

def invalidHeader : Failure :=
  ⟨"invalid SLRT route artifact header", "routes.slrt header size and endian marker must match runtime"⟩

def sectionOverflow : Failure :=
  ⟨"invalid SLRT section range", "route artifact section sizes must not overflow size bounds"⟩

def countMismatch : Failure :=
  ⟨"SLRT route count mismatch", "route artifact counts must match app.plan.json routes"⟩

def sectionOutside : Failure :=
  ⟨"invalid SLRT section range", "route artifact sections must be inside the file"⟩

def overlappingSections : Failure :=
  ⟨"overlapping SLRT sections", "route table and string table sections must not overlap"⟩

def checksumMismatch : Failure :=
  ⟨"SLRT checksum mismatch", "routes.slrt is corrupted or was not emitted with app.plan.json"⟩

def readHeader : Check RouteArtifactSummary := do
  require (routeArtifactHeaderSize ≤ artifact.length) truncatedArtifact
  require ((← bytesAt artifact 0 4) = slrtMagic) invalidMagic
  let version ← slrtU32At artifact 4
  require (version = routeArtifactVersion) unsupportedVersion
  require ((← slrtU32At artifact 8) = routeArtifactEndianMarker) invalidHeader
  require ((← slrtU32At artifact 12) = routeArtifactHeaderSize) invalidHeader
  let routeCount ← slrtU32At artifact 16
  let endpointCount ← slrtU32At artifact 20
  let routeTableOffset ← slrtU32At artifact 24
  let routeTableSize ← slrtU32At artifact 28
  let stringTableOffset ← slrtU32At artifact 32
  let stringTableSize ← slrtU32At artifact 36
  let checksum ← slrtU64At artifact checksumOffset
  pure ⟨version, routeCount, endpointCount, routeTableOffset, routeTableSize, stringTableOffset,
    stringTableSize, checksum⟩

def checkSections (summary : RouteArtifactSummary) (routeCount : Nat) : Check Unit := do
  let expectedSize ← checkedMul summary.routeCount routeArtifactEntrySize sectionOverflow
  let routeTableEnd ← checkedAdd summary.routeTableOffset summary.routeTableSize sectionOverflow
  let _ ← checkedAdd summary.stringTableOffset summary.stringTableSize sectionOverflow
  require (summary.routeCount = routeCount ∧ summary.endpointCount = routeCount ∧
    summary.routeTableSize = expectedSize) countMismatch
  require ((← slrtRangeValid 64 artifact.length summary.routeTableOffset
    summary.routeTableSize) = true) sectionOutside
  require ((← slrtRangeValid 64 artifact.length summary.stringTableOffset
    summary.stringTableSize) = true) sectionOutside
  require (routeTableEnd ≤ summary.stringTableOffset) overlappingSections

def validateEntries (artifact : List UInt8) (summary : RouteArtifactSummary) : List PlanRoute → Nat → Check Unit
  | [], _ => pure ()
  | route :: rest, index => do
    slrtValidateEntry artifact summary route index
    validateEntries artifact summary rest (index + 1)

def routeArtifactValidate (sha256 : List UInt8 → Except StatusCode (List UInt8))
    (artifact expectedHash : List UInt8) (routes : List PlanRoute) :
    Check RouteArtifactSummary := do
  let summary ← readHeader artifact
  checkSections artifact summary routes.length
  let checksum ← slrtChecksum artifact
  require (checksum.toNat = summary.checksum) checksumMismatch
  slrtValidateHash sha256 artifact expectedHash
  validateEntries artifact summary routes 0
  pure summary

end

/-- A read inside the artifact, or a size computation whose exact result fits its word. -/
def Access.Safe (length : Nat) : Access → Prop
  | .read offset size => offset + size ≤ length
  | .add a b => a + b ≤ sizeMax
  | .sub a b => b ≤ a
  | .mul a b => a * b ≤ sizeMax

def slice (artifact : List UInt8) (offset size : Nat) : List UInt8 :=
  (artifact.drop offset).take size

def wordAt (artifact : List UInt8) (offset : Nat) : Nat := fromBytes (slice artifact offset 4)

lemma wordAt_le (artifact : List UInt8) (offset : Nat) : wordAt artifact offset ≤ uint32Max := by
  have hLt := fromBytes_lt (slice artifact offset 4)
  have hLen : (slice artifact offset 4).length ≤ 4 := by
    rw [slice, length_take]
    exact Nat.min_le_left _ _
  have hPow := Nat.pow_le_pow_right (show 0 < 256 by decide) hLen
  rw [wordAt]
  simp only [uint32Max]
  omega

variable {artifact : List UInt8}

variable {a b : Nat}

lemma addSize_returns (h : a + b ≤ sizeMax) : Returns (Access.Safe artifact.length) (addSize a b) (a + b) := by
  have hWord : (a + b) % 2 ^ 64 = a + b := Nat.mod_eq_of_lt (by simp only [sizeMax] at h; omega)
  refine (Returns.emit (show Access.Safe artifact.length (.add a b) from h)).bind ?_
  rw [hWord]
  exact Returns.pure _

lemma subWord_returns {bits : Nat} (hLe : b ≤ a) (hWord : a < 2 ^ bits) :
    Returns (Access.Safe artifact.length) (subWord bits a b) (a - b) := by
  have hValue : (a + 2 ^ bits - b) % 2 ^ bits = a - b := by
    rw [show a + 2 ^ bits - b = (a - b) + 2 ^ bits by omega, Nat.add_mod_right]
    exact Nat.mod_eq_of_lt (by omega)
  refine (Returns.emit (show Access.Safe artifact.length (.sub a b) from hLe)).bind ?_
  rw [hValue]
  exact Returns.pure _

lemma checkedAdd_spec (failure : Failure) (hb : b ≤ sizeMax) :
    Spec (Access.Safe artifact.length) (checkedAdd a b failure) (fun r => r = a + b ∧ a + b ≤ sizeMax) := by
  unfold checkedAdd
  split
  · exact Spec.fail failure
  next hSum =>
    have hLe := checkedAddSize_le hSum hb
    refine (Spec.emit (show Access.Safe artifact.length (.add a b) from hLe)).bind ?_
    exact fun _ _ => Spec.pure ⟨checkedAddSize_ok hSum, hLe⟩

lemma checkedAdd_returns (failure : Failure) (h : a + b ≤ sizeMax) :
    Returns (Access.Safe artifact.length) (checkedAdd a b failure) (a + b) := by
  unfold checkedAdd
  rw [checkedAddSize_of_le h]
  exact (Returns.emit (show Access.Safe artifact.length (.add a b) from h)).bind (Returns.pure _)

lemma checkedMul_spec (failure : Failure) :
    Spec (Access.Safe artifact.length) (checkedMul a b failure) (fun r => r = a * b ∧ a * b ≤ sizeMax) := by
  unfold checkedMul
  split
  · exact Spec.fail failure
  next hProduct =>
    have hOk := checkedMulSize_ok hProduct
    refine (Spec.emit (show Access.Safe artifact.length (.mul a b) from hOk.2)).bind ?_
    exact fun _ _ => Spec.pure hOk

lemma checkedMul_returns (failure : Failure) (h : a * b ≤ sizeMax) :
    Returns (Access.Safe artifact.length) (checkedMul a b failure) (a * b) := by
  unfold checkedMul
  rw [checkedMulSize_of_le h]
  exact (Returns.emit (show Access.Safe artifact.length (.mul a b) from h)).bind (Returns.pure _)

variable {offset size : Nat}

lemma bytesAt_returns (h : offset + size ≤ artifact.length) :
    Returns (Access.Safe artifact.length) (bytesAt artifact offset size) (slice artifact offset size) :=
  (Returns.emit (show Access.Safe artifact.length (.read offset size) from h)).bind (Returns.pure _)

lemma byteAt_returns (h : offset < artifact.length) :
    Returns (Access.Safe artifact.length) (byteAt artifact offset) (artifact.getD offset 0) :=
  (Returns.emit (show Access.Safe artifact.length (.read offset 1) from h)).bind (Returns.pure _)

lemma slice_succ (h : offset + size < artifact.length) :
    slice artifact offset (size + 1) = slice artifact offset size ++ [artifact.getD (offset + size) 0] := by
  have hInside : size < (artifact.drop offset).length := by
    rw [length_drop]
    omega
  rw [slice, slice, take_succ_eq_append_getElem hInside, getElem_drop, getD_eq_getElem _ _ h]

lemma slice_length (h : offset + size ≤ artifact.length) : (slice artifact offset size).length = size := by
  rw [slice, length_take, length_drop]
  omega

lemma fromBytes_slice_succ (h : offset + size < artifact.length) :
    fromBytes (slice artifact offset size) ||| ((artifact.getD (offset + size) 0).toNat <<< (size * 8))
      = fromBytes (slice artifact offset (size + 1)) := by
  have hPow : 256 ^ size = 2 ^ (size * 8) := by
    rw [Nat.mul_comm, Nat.pow_mul]
  have hLen := slice_length (Nat.le_of_lt h)
  have hLt : fromBytes (slice artifact offset size) < 2 ^ (size * 8) := by
    have hBytes := fromBytes_lt (slice artifact offset size)
    rwa [hLen, hPow] at hBytes
  rw [or_shiftLeft hLt, slice_succ h, fromBytes_append, hLen, hPow, fromBytes, fromBytes]
  rfl

lemma slrtU32At_returns (h : offset + 4 ≤ artifact.length) (hSize : offset + 3 ≤ sizeMax) :
    Returns (Access.Safe artifact.length) (slrtU32At artifact offset) (wordAt artifact offset) := by
  have hFirst : (artifact.getD offset 0).toNat = fromBytes (slice artifact offset 1) := by
    rw [slice_succ (show offset + 0 < artifact.length by omega)]
    simp [slice, fromBytes]
  refine (byteAt_returns (by omega)).bind ?_
  refine (addSize_returns (by omega)).bind ((byteAt_returns (by omega)).bind ?_)
  refine (addSize_returns (by omega)).bind ((byteAt_returns (by omega)).bind ?_)
  refine (addSize_returns (by omega)).bind ((byteAt_returns (by omega)).bind ?_)
  rw [hFirst, fromBytes_slice_succ (show offset + 1 < artifact.length by omega),
    fromBytes_slice_succ (show offset + 2 < artifact.length by omega),
    fromBytes_slice_succ (show offset + 3 < artifact.length by omega)]
  exact Returns.pure _

lemma slrtU64Loop_returns (remaining index : Nat) (h : offset + index + remaining ≤ artifact.length)
    (hSize : offset + index + remaining ≤ sizeMax) :
    Returns (Access.Safe artifact.length)
      (slrtU64Loop artifact offset remaining index (fromBytes (slice artifact offset index)))
      (fromBytes (slice artifact offset (index + remaining))) := by
  induction remaining generalizing index with
  | zero => exact Returns.pure _
  | succ remaining ih =>
    refine (addSize_returns (by omega)).bind ((byteAt_returns (by omega)).bind ?_)
    rw [fromBytes_slice_succ (by omega), show index + (remaining + 1) = index + 1 + remaining by omega]
    exact ih (index + 1) (by omega) (by omega)

lemma slrtU64At_returns (h : offset + 8 ≤ artifact.length) (hSize : offset + 8 ≤ sizeMax) :
    Returns (Access.Safe artifact.length) (slrtU64At artifact offset) (fromBytes (slice artifact offset 8)) :=
  slrtU64Loop_returns 8 0 h hSize

def fnvFrom : Nat → UInt64 → List UInt8 → UInt64
  | _, hash, [] => hash
  | index, hash, b :: rest => fnvFrom (index + 1) (fnvRound hash index b) rest

lemma slrtChecksumLoop_returns (remaining index : Nat) (hash : UInt64) (h : index + remaining = artifact.length) :
    Returns (Access.Safe artifact.length) (slrtChecksumLoop artifact remaining index hash)
      (fnvFrom index hash (artifact.drop index)) := by
  induction remaining generalizing index hash with
  | zero =>
    rw [drop_eq_nil_of_le (by omega)]
    exact Returns.pure _
  | succ remaining ih =>
    refine (byteAt_returns (by omega)).bind ?_
    rw [drop_eq_getElem_cons (by omega), fnvFrom, getD_eq_getElem _ _ (by omega)]
    exact ih (index + 1) _ (by omega)

lemma slrtChecksum_returns :
    Returns (Access.Safe artifact.length) (slrtChecksum artifact) (fnvFrom 0 fnvOffsetBasis artifact) := by
  exact slrtChecksumLoop_returns artifact.length 0 fnvOffsetBasis (Nat.zero_add _)

lemma slrtRangeValid_returns {bits len : Nat} (hWord : len < 2 ^ bits) :
    Returns (Access.Safe artifact.length) (slrtRangeValid bits len offset size) (decide (offset + size ≤ len)) := by
  unfold slrtRangeValid
  split
  next hLe =>
    refine (subWord_returns hLe hWord).bind ?_
    rw [show decide (size ≤ len - offset) = decide (offset + size ≤ len) by
      rw [decide_eq_decide]; omega]
    exact Returns.pure _
  · rw [show decide (offset + size ≤ len) = false by rw [decide_eq_false_iff_not]; omega]
    exact Returns.pure _

end Sloppy.Artifact
