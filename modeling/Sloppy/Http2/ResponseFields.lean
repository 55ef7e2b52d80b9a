import Sloppy.Http2.RequestMapping
import Sloppy.Http.Wire
import Sloppy.Stream.Transfers

/-! # The header fields of a response

What the mapping to HTTP/2 has checked when it succeeds and what it then returns, and that it succeeds
whenever the checks do and the arena has room for the copies.
-/

namespace Sloppy.Http2

open Http Growing Lib Lib.Decimal Sloppy.Stream List

section StreamBody

variable {readable : ReadableStream}

lemma drainReadable_ok {rounds : Nat} {before after : BuilderState}
    (hEnded : readable.state = .ended → unread readable = [])
    (h : drainReadable rounds readable before = (after, .ok ())) :
    written after = written before ++ unread readable := by
  induction rounds generalizing readable before with
  | zero => exact absurd h Action.fail_ok
  | succ rounds ih =>
    obtain ⟨status, bytes, next, hRead⟩ : ∃ status bytes next,
      readableStreamRead readable none = (status, bytes, next) := ⟨_, _, _, rfl⟩
    have hMoves := readableStreamRead_moves hEnded hRead
    rw [drainReadable, hRead] at h
    cases status with
    | eof => rw [(Action.pure_ok h).1, ← hMoves.kept nofun, hMoves.eof rfl, append_nil]
    | ok =>
      obtain ⟨mid, value, hAppend, hRest⟩ := Action.bind_ok h
      rw [ih hMoves.ended hRest, appendStr_appends bytes before mid value hAppend, append_assoc, hMoves.moved rfl]
    | _ => cases h

lemma drainReadable_growable {rounds maxCap room : Nat} {readable : ReadableStream} {before : BuilderState}
    (hOpen : readable.state = .opened) (hChunk : 0 < readable.maxChunkBytes)
    (hRounds : (unread readable).length < rounds)
    (hFits : (written before).length + (unread readable).length ≤ maxCap)
    (h : Growable maxCap before room) :
    ∃ after, drainReadable rounds readable before = (after, .ok ()) ∧ Growable maxCap after room := by
  induction rounds generalizing readable before with
  | zero => exact absurd hRounds (Nat.not_lt_zero _)
  | succ rounds ih =>
    obtain ⟨status, bytes, next, hRead⟩ : ∃ status bytes next,
      readableStreamRead readable none = (status, bytes, next) := ⟨_, _, _, rfl⟩
    have hMoves := readableStreamRead_moves (fun hIs => by rw [hOpen] at hIs; cases hIs) hRead
    rw [drainReadable, hRead]
    obtain rfl | ⟨rfl, hSome, hNext, hSame⟩ := readableStreamRead_opened hOpen hChunk hRead
    · exact ⟨before, rfl, h⟩
    have hLen := congrArg List.length (hMoves.moved rfl)
    rw [length_append] at hLen
    have hPositive := length_pos_of_ne_nil hSome
    obtain ⟨mid, hAppend, hMid⟩ := byteBuilderAppendBytes_growable
      (show before.builder.content.length + bytes.length ≤ maxCap by
        change before.builder.content.length + _ ≤ _ at hFits
        omega) h
    have hWritten := congrArg List.length (appendStr_appends bytes before mid () hAppend)
    rw [length_append] at hWritten
    obtain ⟨after, hAfter, hRoom⟩ := ih hNext (by omega) (by omega) (by omega) hMid
    exact ⟨after, (Action.bind_eq_of_ok hAppend).trans hAfter, hRoom⟩

lemma unread_init (chunks : List (List UInt8)) (opts : Option StreamOptions) :
    unread (memoryReadableStreamInit chunks opts) = chunks.flatten := by
  cases chunks <;> rfl

variable {resp : Response}

lemma responseStreamReadableInit_ok {opts : StreamOptions} (h : responseStreamReadableInit resp opts = .ok readable) :
    readable = memoryReadableStreamInit resp.streamChunks (some opts) := by
  rw [responseStreamReadableInit] at h
  split at h
  · cases h
  · split at h
    · cases h
    · exact (Except.ok.inj h).symm

variable {maxBody : Nat} {body : List UInt8}

lemma responseStreamBody_ok {before after : Arena} (h : responseStreamBody resp maxBody before = (after, .ok body)) :
    body = resp.streamChunks.flatten ∧ 256 ≤ maxBody := by
  obtain ⟨arena, builder, hInit, h⟩ := Action.bind_ok h
  obtain ⟨mid, readable, hReadable, h⟩ := Action.bind_ok h
  have hContent := byteBuilderInitArena_content hInit
  have hLimit : 256 ≤ maxBody := by
    rw [byteBuilderInitArena] at hInit
    split at hInit
    · cases hInit
    · omega
  have hIs := responseStreamReadableInit_ok (Action.ofExcept_ok hReadable)
  rw [inBuilder] at h
  split at h
  · cases h
  rename_i hDrain
  cases h
  have hAll := drainReadable_ok (fun hEnded => by rw [hIs] at hEnded; cases hEnded) hDrain
  rw [hIs, unread_init, written, written, hContent, nil_append] at hAll
  exact ⟨hAll, hLimit⟩

variable {suppress : Bool}

lemma responseBody_ok {before after : Arena} (h : responseBody resp suppress maxBody before = (after, .ok body)) :
    body = resp.carried suppress ∧ (resp.kind = .stream → suppress = false → statusHasNoBody resp.status = false →
        256 ≤ maxBody) := by
  rw [responseBody] at h
  rw [Response.carried, Response.content]
  split at h
  next hNone =>
    rw [if_pos hNone, (Action.pure_ok h).2]
    refine ⟨rfl, fun _ hShown hBody => ?_⟩
    rw [hShown, hBody] at hNone
    exact absurd hNone (by decide)
  next hSome =>
    rw [if_neg hSome]
    split at h
    next hKind =>
      obtain ⟨hBody, hLimit⟩ := responseStreamBody_ok h
      rw [if_pos hKind]
      exact ⟨hBody, fun _ _ _ => hLimit⟩
    next hKind =>
      rw [if_neg hKind]
      split at h
      · exact absurd h Action.fail_ok
      · exact ⟨(Action.pure_ok h).2, fun hStream => absurd hStream hKind⟩

lemma responseStreamBody_affords {len : Nat} (hStream : resp.kind = .stream)
    (hMeasured : streamValidateAndMeasure resp = .ok len)
    (hFits : resp.streamChunks.flatten.length ≤ maxBody) (hSize : maxBody ≤ sizeMax)
    (hLimit : 256 ≤ maxBody) :
    Action.Affords Roomy (responseStreamBody resp maxBody) (3 * maxBody) resp.streamChunks.flatten := by
  intro arena rest h
  obtain ⟨mid, hInit, hMid⟩ := byteBuilderInitArena_growable (by omega) hLimit hSize h
  have hReadable : responseStreamReadableInit resp (responseStreamOptions resp maxBody) =
      .ok (memoryReadableStreamInit resp.streamChunks (some (responseStreamOptions resp maxBody))) := by
    rw [responseStreamReadableInit, if_neg (not_not_intro hStream), hMeasured]
  have hChunk : 0 < (memoryReadableStreamInit resp.streamChunks
      (some (responseStreamOptions resp maxBody))).maxChunkBytes := by
    change 0 < if (if maxBody = 0 then streamDefaultMaxChunkBytes else maxBody) = 0
      then streamDefaultMaxChunkBytes else (if maxBody = 0 then streamDefaultMaxChunkBytes else maxBody)
    split <;> omega
  have hUnread := unread_init resp.streamChunks (some (responseStreamOptions resp maxBody))
  obtain ⟨after, hDrain, hRoom⟩ := @drainReadable_growable (resp.streamChunks.flatten.length + 1)
    maxBody rest _ _ rfl hChunk (by rw [hUnread]; omega) (by rw [hUnread]; simpa [written] using hFits) hMid
  have hAll := drainReadable_ok (fun hEnded => by cases hEnded) hDrain
  rw [hUnread] at hAll
  have hRun : responseStreamBody resp maxBody arena = inBuilder ⟨[], 256, maxBody, .arena⟩
      (drainReadable (resp.streamChunks.flatten.length + 1) (memoryReadableStreamInit resp.streamChunks
        (some (responseStreamOptions resp maxBody)))) mid :=
    (Action.bind_eq_of_ok hInit).trans (Action.bind_eq_of_ok (congrArg (Prod.mk mid) hReadable))
  rw [hRun, inBuilder, hDrain]
  exact ⟨after.arena, congrArg (fun body => (after.arena, Except.ok body)) hAll, hRoom.2.mono (Nat.le_add_left _ _)⟩

lemma responseBody_affords (hMeasured : resp.kind = .stream → streamValidateAndMeasure resp = .ok resp.content.length)
    (hFits : resp.content.length ≤ maxBody) (hSize : maxBody ≤ sizeMax)
    (hLimit : resp.kind = .stream → suppress = false → statusHasNoBody resp.status = false → 256 ≤ maxBody) :
    Action.Affords Roomy (responseBody resp suppress maxBody) (3 * maxBody) (resp.carried suppress) := by
  rw [responseBody, Response.carried]
  split
  · exact (Action.Affords.pure []).mono Roomy.of_le (Nat.zero_le _)
  rename_i hSome
  rw [not_or, Bool.not_eq_true, Bool.not_eq_true] at hSome
  rw [Response.content] at hFits ⊢
  split
  next hKind =>
    rw [if_pos hKind] at hFits
    exact responseStreamBody_affords hKind (hMeasured hKind) hFits hSize (hLimit hKind hSome.1 hSome.2)
  next hKind =>
    rw [if_neg hKind] at hFits
    rw [if_neg (by omega)]
    exact (Action.Affords.pure resp.body).mono Roomy.of_le (Nat.zero_le _)

end StreamBody

section Fields

def toField (header : Header) : HeaderField := ⟨header.name, header.value, false⟩

def headerRoom (header : Header) : Nat := header.name.length + header.value.length + 14

variable {after before : Arena} {name : List UInt8}

lemma copyH2Header_ok {value : List UInt8} {field : HeaderField}
    (h : copyH2Header name value before = (after, .ok field)) : field = ⟨name, value, false⟩ := by
  obtain ⟨first, copiedName, hName, h⟩ := Action.bind_ok h
  obtain ⟨second, copiedValue, hValue, h⟩ := Action.bind_ok h
  rw [(Action.pure_ok h).2, strCopyViewToArena_ok hName, strCopyViewToArena_ok hValue]

lemma copyH2Header_affords (hdr : Header) :
    Action.Affords Roomy (copyH2Header hdr.name hdr.value) (headerRoom hdr) (toField hdr) := by
  have hCopies : Action.Affords Roomy (copyH2Header hdr.name hdr.value)
      (hdr.name.length + 7 + (hdr.value.length + 7 + 0)) (toField hdr) := by
    apply (strCopyViewToArena_affords hdr.name).bind
    apply (strCopyViewToArena_affords hdr.value).bind
    exact .pure _
  apply hCopies.mono Roomy.of_le
  rw [headerRoom]
  omega

variable {text : List UInt8} {value : Except StatusCode (List UInt8)} {fields : List HeaderField}

lemma copyFieldIf_ok {condition : Bool} (h : copyFieldIf condition name value before = (after, .ok fields))
    (hText : ∀ {result}, value = .ok result → result = text) :
    fields = if condition then [⟨name, text, false⟩] else [] := by
  cases condition with
  | false => exact (Action.pure_ok h).2
  | true =>
    obtain ⟨first, result, hResult, h⟩ := Action.bind_ok h
    obtain ⟨second, field, hField, h⟩ := Action.bind_ok h
    rw [(Action.pure_ok h).2, copyH2Header_ok hField, hText (Action.ofExcept_ok hResult)]
    rfl

lemma copyFieldIf_affords (condition : Bool) (h : value = .ok text) :
    Action.Affords Roomy (copyFieldIf condition name value) (headerRoom ⟨name, text⟩)
      (if condition then [⟨name, text, false⟩] else []) := by
  cases condition with
  | false => exact (Action.Affords.pure []).mono Roomy.of_le (Nat.zero_le _)
  | true =>
    have hCopies : Action.Affords Roomy (copyFieldIf true name value) (0 + (headerRoom ⟨name, text⟩ + 0))
        [⟨name, text, false⟩] := by
      apply (Action.Affords.ofExcept h).bind
      apply (copyH2Header_affords ⟨name, text⟩).bind
      exact .pure _
    exact hCopies.mono Roomy.of_le (by omega)

def Permitted (header : Header) : Prop :=
  fieldNameValid header.name = true ∧ fieldValueValid header.value = true ∧ responseHeaderManaged header.name = false

lemma permitted_iff (hdr : Header) : Permitted hdr ↔ ¬(!fieldNameValid hdr.name || !fieldValueValid hdr.value ||
      responseHeaderManaged hdr.name) = true := by
  simp only [Permitted, Bool.not_eq_true, Bool.or_eq_false_iff, Bool.not_eq_false', and_assoc]

variable {headers : List Header}

lemma copyResponseHeaders_ok (h : copyResponseHeaders headers before = (after, .ok fields)) :
    (∀ hdr ∈ headers, Permitted hdr) ∧ fields = headers.map toField := by
  induction headers generalizing before after fields with
  | nil => exact ⟨nofun, (Action.pure_ok h).2⟩
  | cons hdr headers ih =>
    rw [copyResponseHeaders] at h
    split at h
    · exact absurd h Action.fail_ok
    rename_i hPermitted
    obtain ⟨first, field, hField, h⟩ := Action.bind_ok h
    obtain ⟨second, rest, hRest, h⟩ := Action.bind_ok h
    obtain ⟨hAll, rfl⟩ := ih hRest
    rw [(Action.pure_ok h).2, copyH2Header_ok hField]
    refine ⟨?_, rfl⟩
    simp only [mem_cons]
    rintro other (rfl | hOther)
    · exact (permitted_iff other).mpr hPermitted
    · exact hAll other hOther

def headersRoom (headers : List Header) : Nat := (headers.map headerRoom).sum

lemma copyResponseHeaders_affords (h : ∀ hdr ∈ headers, Permitted hdr) :
    Action.Affords Roomy (copyResponseHeaders headers) (headersRoom headers) (headers.map toField) := by
  induction headers with
  | nil => exact .pure []
  | cons hdr headers ih =>
    rw [copyResponseHeaders, if_neg ((permitted_iff hdr).mp (h hdr (mem_cons_self ..)))]
    change Action.Affords Roomy _ (headerRoom hdr + (headersRoom headers + 0)) _
    apply (copyH2Header_affords hdr).bind
    apply (ih fun other hOther => h other (mem_cons_of_mem _ hOther)).bind
    exact .pure _

end Fields

section Response

lemma stringFormatU64_ok {cap value : Nat} {text : List UInt8}
    (h : stringFormatU64 cap value = .ok text) : text = decimal 20 value := by
  rw [stringFormatU64] at h
  split at h
  · cases h
  · exact (Except.ok.inj h).symm

lemma stringFormatU64_of_lt {cap digits value : Nat} (hValue : value < 10 ^ digits) (hDigits : 0 < digits)
    (hRange : value < 10 ^ 20) (hCap : digits < cap) :
    stringFormatU64 cap value = .ok (decimal 20 value) := by
  have hLen := length_decimal_le digits value
  rw [← decimal_bound hRange hValue (by decide) hDigits] at hLen
  rw [stringFormatU64, if_neg (by omega)]

variable {resp : Response}

lemma fieldBytes_ok (h : 40 * (resp.headers.length + 3) ≤ sizeMax) :
    ∃ size, fieldBytes resp = .ok size ∧ 0 < size ∧ size ≤ 40 * (resp.headers.length + 3) := by
  obtain ⟨type, hType, hTypeIs⟩ : ∃ type, type ≤ 1 ∧
      (if resp.contentType.length = 0 then 0 else 1) = type := ⟨_, by split <;> omega, rfl⟩
  obtain ⟨length, hLen, hLengthIs⟩ : ∃ length, length ≤ 1 ∧
      (if statusHasNoBody resp.status then 0 else 1) = length := ⟨_, by split <;> omega, rfl⟩
  have hBytes : fieldBytes resp = (checkedAddSize resp.headers.length 1).bind fun capacity =>
        (checkedAddSize capacity type).bind fun capacity =>
          (checkedAddSize capacity length).bind fun capacity => checkedMulSize capacity 40 := by
    rw [← hTypeIs, ← hLengthIs]
    rfl
  rw [hBytes, checkedAddSize_of_le (by omega)]
  change ∃ size, (checkedAddSize _ type).bind _ = .ok size ∧ _
  rw [checkedAddSize_of_le (by omega)]
  change ∃ size, (checkedAddSize _ length).bind _ = .ok size ∧ _
  rw [checkedAddSize_of_le (by omega)]
  change ∃ size, checkedMulSize _ 40 = .ok size ∧ _
  rw [checkedMulSize_of_le (by omega)]
  exact ⟨_, rfl, by omega, by omega⟩

def declaredLength (response : Response) (suppressBody : Bool) : Nat :=
  if suppressBody then response.body.length else (response.carried suppressBody).length

def responseFields (response : Response) (suppressBody : Bool) : List HeaderField :=
  ⟨literal ":status", decimal 20 response.status.toNat, false⟩ ::
    (response.described (literal "content-type") (literal "content-length")
      (decimal 20 (declaredLength response suppressBody))).map toField

lemma responseFields_eq (resp : Response) (suppress : Bool) :
    responseFields resp suppress = (if true then [⟨literal ":status", decimal 20 resp.status.toNat, false⟩] else []) ++
      ((if !statusHasNoBody resp.status && resp.contentType.length != 0
        then [⟨literal "content-type", resp.contentType, false⟩] else []) ++
      (resp.headers.map toField ++
      if !statusHasNoBody resp.status then [⟨literal "content-length",
        decimal 20 (if suppress then resp.body.length else (resp.carried suppress).length), false⟩]
        else [])) := by
  rw [responseFields, Response.described, Bool.and_comm, map_append, map_append,
    apply_ite (map toField), apply_ite (map toField)]
  rfl

structure Mapped (response : Response) (suppressBody : Bool) (maxBodyBytes : Nat) : Prop where
  status : mappingStatusSupported response.status = true
  contentType : fieldValueValid response.contentType = true
  headers : ∀ header ∈ response.headers, Permitted header
  limit : response.kind = .stream → suppressBody = false → statusHasNoBody response.status = false →
    256 ≤ maxBodyBytes

variable {suppress : Bool}

lemma responseToHeaders_ok {maxBody : Nat} {before after : Arena} {fields : List HeaderField} {body : List UInt8}
    (h : responseToHeaders resp suppress maxBody before = (after, .ok (fields, body))) :
    Mapped resp suppress maxBody ∧ fields = responseFields resp suppress ∧ body = resp.carried suppress := by
  rw [responseToHeaders] at h
  split at h
  · exact absurd h Action.fail_ok
  rename_i hChecked
  rw [Bool.not_eq_true, Bool.or_eq_false_iff, Bool.not_eq_false', Bool.not_eq_false'] at hChecked
  obtain ⟨a1, carried, hBody, h⟩ := Action.bind_ok h
  obtain ⟨a2, size, -, h⟩ := Action.bind_ok h
  obtain ⟨a3, -, -, h⟩ := Action.bind_ok h
  obtain ⟨a4, status, hStatus, h⟩ := Action.bind_ok h
  obtain ⟨a5, type, hType, h⟩ := Action.bind_ok h
  obtain ⟨a6, headers, hHeaders, h⟩ := Action.bind_ok h
  obtain ⟨a7, length, hLen, h⟩ := Action.bind_ok h
  obtain ⟨rfl, hLimit⟩ := responseBody_ok hBody
  obtain ⟨hPermitted, rfl⟩ := copyResponseHeaders_ok hHeaders
  have hFields := (Action.pure_ok h).2
  rw [Prod.mk.injEq] at hFields
  rw [copyFieldIf_ok hStatus stringFormatU64_ok, copyFieldIf_ok hLen stringFormatU64_ok,
    copyFieldIf_ok hType fun hIs => (Except.ok.inj hIs).symm] at hFields
  rw [responseFields_eq]
  exact ⟨⟨hChecked.1, hChecked.2, hPermitted, hLimit⟩, hFields.1, hFields.2⟩

def responseRoom (response : Response) (maxBodyBytes : Nat) : Nat :=
  3 * maxBodyBytes + 40 * (response.headers.length + 3) + headersRoom response.headers +
    response.contentType.length + 122

lemma carried_length_le (resp : Response) (suppress : Bool) :
    (resp.carried suppress).length ≤ resp.content.length := by
  rw [Response.carried]
  split
  · exact Nat.zero_le _
  · exact Nat.le_refl _

lemma responseToHeaders_affords {maxBody : Nat} (hMapped : Mapped resp suppress maxBody)
    (hMeasured : resp.kind = .stream → streamValidateAndMeasure resp = .ok resp.content.length)
    (hFits : resp.content.length ≤ maxBody) (hSize : maxBody ≤ sizeMax)
    (hFields : 40 * (resp.headers.length + 3) ≤ sizeMax) :
    Action.Affords Roomy (responseToHeaders resp suppress maxBody) (responseRoom resp maxBody)
      (responseFields resp suppress, resp.carried suppress) := by
  obtain ⟨size, hBytes, hSome, hLeast⟩ := fieldBytes_ok hFields
  have hStatus : stringFormatU64 8 resp.status.toNat = .ok (decimal 20 resp.status.toNat) := by
    have hLess := resp.status.toNat_lt
    exact @stringFormatU64_of_lt 8 5 _ (by omega) (by decide) (by omega) (by decide)
  have hCarried := carried_length_le resp suppress
  have hDeclared : declaredLength resp suppress < 10 ^ 20 := by
    have hBody := resp.bodySize
    rw [sizeMax] at hBody hSize
    rw [declaredLength]
    split <;> omega
  have hLen : stringFormatU64 32 (declaredLength resp suppress) = .ok (decimal 20 (declaredLength resp suppress)) :=
    stringFormatU64_of_lt hDeclared (by decide) hDeclared (by decide)
  have hNames : (literal ":status").length = 7 ∧ (literal "content-type").length = 12 ∧
    (literal "content-length").length = 14 := ⟨rfl, rfl, rfl⟩
  have hStatusDigits : (decimal 20 resp.status.toNat).length ≤ 20 := length_decimal_le 20 _
  have hLengthDigits := length_decimal_le 20 (declaredLength resp suppress)
  have hRuns : Action.Affords Roomy (responseToHeaders resp suppress maxBody)
      (3 * maxBody + (0 + (size + (8 - 1) + (headerRoom ⟨literal ":status", decimal 20 resp.status.toNat⟩ +
        (headerRoom ⟨literal "content-type", resp.contentType⟩ + (headersRoom resp.headers +
          (headerRoom ⟨literal "content-length", decimal 20 (declaredLength resp suppress)⟩ + 0)))))))
      (responseFields resp suppress, resp.carried suppress) := by
    rw [responseToHeaders, hMapped.status, hMapped.contentType, if_neg (by decide), responseFields_eq]
    apply (responseBody_affords hMeasured hFits hSize hMapped.limit).bind
    apply (Action.Affords.ofExcept hBytes).bind
    apply (arenaTake_affords hSome (by decide)).bind
    apply (copyFieldIf_affords true hStatus).bind
    apply (copyFieldIf_affords _ rfl).bind
    apply (copyResponseHeaders_affords hMapped.headers).bind
    apply (copyFieldIf_affords _ hLen).bind
    exact .pure _
  apply hRuns.mono Roomy.of_le
  simp only [headerRoom, responseRoom, hNames]
  omega

end Response

end Sloppy.Http2
