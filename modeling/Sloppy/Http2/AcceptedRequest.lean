import Sloppy.Http2.RequestMapping
import Sloppy.Backend.Server

/-! # Requests that the HTTP/2 mapping accepts

What an accepted list of header fields has been checked for, and the head and the body of the request that
it becomes.
-/

namespace Sloppy.Http2

open Http Backend Growing Lib List

section Body

variable {after s : ReaderScope}

lemma bodyReaderFail_ne_ok {state : BodyReaderState} {failure : Failure} :
    bodyReaderFail s state failure ≠ (after, .ok ()) := by
  intro h
  obtain ⟨raised, hRaised⟩ := bodyReaderFail_error s state failure
  rw [h] at hRaised
  cases hRaised

lemma afterCheck_ok {next : ReaderScope → ReaderScope × Except Failure Unit}
    (h : afterCheck s next = (after, .ok ())) : next s = (after, .ok ()) := by
  rw [afterCheck] at h
  obtain hPassed | ⟨⟨raised, hRaised⟩, -⟩ := @bodyReaderCheckTerminal_cases .reader s (.inr rfl)
  · rw [hPassed] at h
    exact h
  · obtain ⟨stopped, hStopped⟩ : ∃ stopped, bodyReaderCheckTerminal s = (stopped, .error raised) :=
      ⟨_, Prod.ext rfl hRaised⟩
    rw [hStopped] at h
    cases h

lemma requestBodyReaderBegin_ok {scope : RequestScope} {arena : Arena} {place : Nat} {contentType : List UInt8}
    {contentLength : Nat} (h : requestBodyReaderBegin scope arena place contentType contentLength = (after, .ok ())) :
    after.scope = scope ∧ after.reader.builder.content = [] ∧
      bodyReaderClassify contentType contentLength = .ok after.reader.bodyKind := by
  rw [requestBodyReaderBegin] at h
  split at h
  · cases h
  split at h
  · cases h
  have hNext := afterCheck_ok h
  split at hNext
  · exact absurd hNext bodyReaderFail_ne_ok
  split at hNext
  · exact absurd hNext bodyReaderFail_ne_ok
  rename_i hKind
  split at hNext
  · exact absurd hNext bodyReaderFail_ne_ok
  next hInit =>
    cases hNext
    exact ⟨rfl, byteBuilderInitArena_content hInit, hKind⟩

lemma requestBodyReaderAppend_ok {chunk : List UInt8} (h : requestBodyReaderAppend s chunk = (after, .ok ())) :
    after.scope = s.scope ∧ after.reader.builder.content = s.reader.builder.content ++ chunk ∧
      after.reader.bodyKind = s.reader.bodyKind := by
  rw [requestBodyReaderAppend] at h
  split at h
  · cases h
  have hNext := afterCheck_ok h
  split at hNext
  · exact absurd hNext bodyReaderFail_ne_ok
  split at hNext
  · exact absurd hNext bodyReaderFail_ne_ok
  split at hNext
  · exact absurd hNext bodyReaderFail_ne_ok
  split at hNext
  · exact absurd hNext bodyReaderFail_ne_ok
  rename_i hAppend
  have hContent := byteBuilderAppendBytes_content ⟨s.reader.builder, s.arena⟩ chunk
  rw [hAppend] at hContent
  obtain ⟨code, hFailed, -⟩ | ⟨-, hDone⟩ := hContent
  · cases hFailed
  · cases hNext
    exact ⟨rfl, hDone, rfl⟩

lemma requestBodyReaderFinish_ok (h : requestBodyReaderFinish s = (after, .ok ())) :
    after.scope.request.head = { s.scope.request.head with body := s.reader.builder.content } ∧
      after.reader.bodyKind = s.reader.bodyKind := by
  rw [requestBodyReaderFinish] at h
  split at h
  · cases h
  have hNext := afterCheck_ok h
  split at hNext
  · exact absurd hNext bodyReaderFail_ne_ok
  · cases hNext
    exact ⟨rfl, rfl⟩

lemma readBody_ok {places : Places} {contentType : Option (List UInt8)} {body : List UInt8}
    (h : readBody places contentType body s = (after, .ok ())) :
    after.scope.request.head = { s.scope.request.head with body := body } ∧
      bodyReaderClassify (contentType.getD (literal "application/octet-stream")) body.length =
        .ok after.reader.bodyKind := by
  obtain ⟨begun, _, hBegin, h⟩ := Action.bind_ok h
  obtain ⟨read, _, hAppend, h⟩ := Action.bind_ok h
  obtain ⟨hScope, hEmpty, hKind⟩ := requestBodyReaderBegin_ok hBegin
  obtain ⟨hSame, hContent, hKept⟩ := requestBodyReaderAppend_ok hAppend
  obtain ⟨hHead, hFinal⟩ := requestBodyReaderFinish_ok h
  rw [hHead, hContent, hEmpty, hSame, hScope, hFinal, hKept, hKind]
  exact ⟨rfl, rfl⟩

end Body

section Head

variable {Value : Type}

variable {after s : ReaderScope} {value : Value}

lemma onArena_ok {call : Action Arena StatusCode Value} (h : onArena call s = (after, .ok value)) :
    after.scope = s.scope ∧ ∃ arena, call s.arena = (arena, .ok value) := by
  rw [onArena] at h
  split at h
  · cases h
  next arena result hCall =>
    cases h
    exact ⟨rfl, arena, hCall⟩

lemma onScope_ok {call : RequestScope → RequestScope × Except Failure Unit} (h : onScope call s = (after, .ok ())) :
    call s.scope = (after.scope, .ok ()) := by
  have hScope : (call s.scope).1 = after.scope := congrArg (fun pair => pair.1.scope) h
  have hResult : (call s.scope).2 = .ok () := congrArg Prod.snd h
  exact Prod.ext hScope hResult

lemma failing_ok {call : Action ReaderScope Failure Value} (h : failing call s = (after, .ok value)) :
    call s = (after, .ok value) := by
  rw [failing] at h
  split at h
  · cases h
  next hCall =>
    rw [hCall]
    exact h

variable {before : Arena}

lemma copyHeader_ok {name value : List UInt8} {after : Arena} {hdr : Header}
    (h : copyHeader name value before = (after, .ok hdr)) : hdr = ⟨name, value⟩ := by
  obtain ⟨first, copiedName, hName, h⟩ := Action.bind_ok h
  obtain ⟨second, copiedValue, hValue, h⟩ := Action.bind_ok h
  rw [(Action.pure_ok h).2, strCopyViewToArena_ok hName, strCopyViewToArena_ok hValue]

def toHeader (field : HeaderField) : Header := ⟨field.name, field.value⟩

variable {fields : List HeaderField}

lemma copyFields_ok {after : Arena} {headers : List Header} (h : copyFields fields before = (after, .ok headers)) :
    headers = fields.map toHeader := by
  induction fields generalizing before after headers with
  | nil => exact (Action.pure_ok h).2
  | cons field fields ih =>
    obtain ⟨first, hdr, hHdr, h⟩ := Action.bind_ok h
    obtain ⟨second, rest, hRest, h⟩ := Action.bind_ok h
    rw [(Action.pure_ok h).2, copyHeader_ok hHdr, ih hRest]
    rfl

def requestHeaders (authority : List UInt8) (fields : List HeaderField) : List Header :=
  ⟨literal "host", authority⟩ :: (fields.filter (isCopied authority)).map toHeader

lemma copyRequestHeaders_ok {auth : List UInt8} {after : Arena} {headers : List Header} (hSome : auth.isEmpty = false)
    (h : copyRequestHeaders auth fields before = (after, .ok headers)) : headers = requestHeaders auth fields := by
  rw [copyRequestHeaders, hSome, if_neg nofun] at h
  obtain ⟨first, host, hHost, h⟩ := Action.bind_ok h
  obtain ⟨second, rest, hRest, h⟩ := Action.bind_ok h
  rw [(Action.pure_ok h).2, copyHeader_ok hHost, copyFields_ok hRest]
  rfl

lemma requestHeadMapped_ok {scope after : RequestScope} {head : RequestHead}
    (h : requestHeadMapped scope head = (after, .ok ())) : after.request.head = head := by
  rw [requestHeadMapped] at h
  split at h
  · cases h
  · cases h
    rfl

lemma updateHead_ok {update : RequestHead → RequestHead} (h : updateHead update s = (after, .ok ())) :
    after.scope.request.head = update s.scope.request.head := by
  have hHead := congrArg (fun result => result.1.request.head) (onScope_ok h)
  exact hHead.symm

lemma fillRequest_ok {places : Places} {limits : ParseOptions} {fields : RequestFields} {headers : List HeaderField}
    {body : List UInt8} (hSome : fields.effectiveAuthority.isEmpty = false)
    (h : fillRequest places limits fields headers body s = (after, .ok ())) :
    after.scope.request.head.headers = requestHeaders fields.effectiveAuthority headers ∧
      after.scope.request.head.rawTarget = fields.target ∧
      after.scope.request.head.path = pathFromTarget fields.target ∧
      after.scope.request.head.body = body ∧
      bodyReaderClassify (fields.contentType.getD (literal "application/octet-stream")) body.length =
        .ok after.reader.bodyKind := by
  obtain ⟨s1, method, -, h⟩ := Action.bind_ok h
  obtain ⟨s2, _, -, h⟩ := Action.bind_ok h
  obtain ⟨s3, _, -, h⟩ := Action.bind_ok h
  obtain ⟨s4, _, -, h⟩ := Action.bind_ok h
  obtain ⟨s5, copied, hCopied, h⟩ := Action.bind_ok h
  obtain ⟨s6, rawTarget, hRawTarget, h⟩ := Action.bind_ok h
  obtain ⟨s7, _, hRawHead, h⟩ := Action.bind_ok h
  obtain ⟨s8, path, hPath, h⟩ := Action.bind_ok h
  obtain ⟨s9, _, hPathHead, h⟩ := Action.bind_ok h
  obtain ⟨s10, _, hMapped, h⟩ := Action.bind_ok h
  obtain ⟨-, arena, hCopy⟩ := onArena_ok hCopied
  obtain ⟨-, rawArena, hRawCopy⟩ := onArena_ok hRawTarget
  obtain ⟨hSame, pathArena, hPathCopy⟩ := onArena_ok hPath
  have hHead := requestHeadMapped_ok (onScope_ok hMapped)
  obtain ⟨hFinal, hKind⟩ := readBody_ok h
  rw [hFinal, hHead, copyRequestHeaders_ok hSome hCopy, updateHead_ok hPathHead, hSame, updateHead_ok hRawHead,
    strCopyViewToArena_ok hRawCopy, strCopyViewToArena_ok hPathCopy]
  exact ⟨rfl, rfl, rfl, rfl, hKind⟩

end Head

section Fields

def fieldNamed (name : List UInt8) (field : HeaderField) : Bool := equalCiAscii field.name name

structure FieldRead (before : RequestFields) (field : HeaderField) (after : RequestFields) : Prop where
  contentType : after.contentType =
    if fieldNamed (literal "content-type") field then some field.value else before.contentType
  decimal : fieldNamed (literal "content-length") field = true → (parseDecimalSize field.value).isSome = true
  encoding : fieldNamed (literal "transfer-encoding") field = false

variable {after : RequestFields} {fields : RequestFields}

lemma readPseudo_taken {read : RequestFields} {cur : List UInt8} (h : readPseudo fields cur read = .ok after) :
    fields.regularSeen = false ∧ cur = [] ∧ after = read := by
  rw [readPseudo] at h
  split at h
  · cases h
  next hOpen =>
    simp only [Bool.or_eq_true, Bool.not_eq_true', not_or, Bool.not_eq_true, Bool.not_eq_false,
      List.isEmpty_iff] at hOpen
    exact ⟨hOpen.1, hOpen.2, (Except.ok.inj h).symm⟩

variable {before : RequestFields} {field : HeaderField}

lemma FieldRead.pseudo {name : List UInt8} (hName : field.name = name)
    (hOther : equalCiAscii name (literal "content-type") = false ∧
      equalCiAscii name (literal "content-length") = false ∧ equalCiAscii name (literal "transfer-encoding") = false)
    (hSame : after.contentType = before.contentType) : FieldRead before field after := by
  obtain ⟨hType, hLen, hEncoding⟩ := hOther
  rw [← hName] at hType hLen hEncoding
  constructor
  · rw [hSame, fieldNamed, hType]
    rfl
  · intro h
    rw [fieldNamed, hLen] at h
    cases h
  · exact hEncoding

lemma readContentLength_taken (h : readContentLength before field = .ok after) :
    after = { before with contentLength := after.contentLength } ∧ (fieldNamed (literal "content-length") field = true →
        before.contentLength = none ∧ after.contentLength = parseDecimalSize field.value ∧ after.contentLength ≠ none) ∧
      (fieldNamed (literal "content-length") field = false → after.contentLength = before.contentLength) := by
  rw [readContentLength] at h
  split at h
  next hNamed =>
    split at h
    · cases h
    rename_i hFirst
    split at h
    · cases h
    next hLen =>
      cases h
      rw [Bool.not_eq_true, Option.isSome_eq_false_iff, Option.isNone_iff_eq_none] at hFirst
      exact ⟨rfl, fun _ => ⟨hFirst, hLen.symm, Option.some_ne_none _⟩,
        fun hOther => absurd (hNamed.symm.trans hOther) (by decide)⟩
  next hOther =>
    cases h
    exact ⟨rfl, fun hNamed => absurd hNamed hOther, fun _ => rfl⟩

def SlotRead (named : Bool) (before value after : List UInt8) : Prop :=
  if named then before = [] ∧ after = value else after = before

lemma readHost_taken (h : readHost before field = .ok after) : after = { before with host := after.host } ∧
      SlotRead (fieldNamed (literal "host") field) before.host field.value after.host := by
  rw [readHost] at h
  rw [fieldNamed, SlotRead]
  split at h
  next hNamed =>
    split at h
    · cases h
    rename_i hOpen
    cases h
    rw [Bool.not_eq_true', Bool.not_eq_false, List.isEmpty_iff] at hOpen
    rw [if_pos hNamed]
    exact ⟨rfl, hOpen, rfl⟩
  next hOther =>
    cases h
    rw [if_neg hOther]
    exact ⟨rfl, rfl⟩

lemma readRegular_ok (h : readRegular before field = .ok after) : FieldRead before field after := by
  rw [readRegular] at h
  split at h
  · cases h
  rename_i hChecked
  split at h
  · cases h
  rename_i hLen
  split at h
  · cases h
  rename_i hHost
  cases h
  obtain ⟨hType, hDecimal, -⟩ := readContentLength_taken hLen
  constructor
  · rw [(readHost_taken hHost).1, hType, readContentType, fieldNamed]
    split <;> rfl
  · intro hNamed
    obtain ⟨-, hParsed, hSome⟩ := hDecimal hNamed
    exact hParsed ▸ Option.isSome_iff_ne_none.mpr hSome
  · simp only [Bool.or_eq_true, not_or, Bool.not_eq_true, requestHeaderForbidden] at hChecked
    exact hChecked.2.1.1.2

variable {limits : ParseOptions}

lemma readField_ok (h : readField limits before field = .ok after) : FieldRead before field after := by
  rw [readField] at h
  split at h
  · cases h
  split at h
  · cases h
  split at h
  next hName =>
    exact .pseudo hName (by decide) (by rw [(readPseudo_taken h).2.2])
  split at h
  next hName =>
    exact .pseudo hName (by decide) (by rw [(readPseudo_taken h).2.2])
  split at h
  next hName =>
    exact .pseudo hName (by decide) (by rw [(readPseudo_taken h).2.2])
  split at h
  next hName =>
    exact .pseudo hName (by decide) (by rw [(readPseudo_taken h).2.2])
  · obtain ⟨hType, hDecimal, hEncoding⟩ := readRegular_ok h
    exact ⟨hType, hDecimal, hEncoding⟩

def contentTypes (headers : List HeaderField) : List (List UInt8) :=
  (headers.filter (fieldNamed (literal "content-type"))).map HeaderField.value

variable {headers : List HeaderField}

lemma readFields_contentType (h : readFields limits before headers = .ok after) :
    after.contentType = (contentTypes headers).getLast?.or before.contentType := by
  induction headers generalizing before with
  | nil =>
    cases h
    rfl
  | cons field headers ih =>
    rw [readFields] at h
    split at h
    · cases h
    rename_i hNext
    rw [ih h, (readField_ok hNext).contentType, contentTypes, contentTypes, filter_cons]
    split
    · rw [map_cons, getLast?_cons]
      cases ((headers.filter (fieldNamed (literal "content-type"))).map HeaderField.value).getLast? <;> rfl
    · rfl

lemma readFields_forall {P : HeaderField → Prop}
    (hField : ∀ {before field after}, readField limits before field = .ok after → P field)
    (h : readFields limits before headers = .ok after) : ∀ field ∈ headers, P field := by
  induction headers generalizing before with
  | nil => nofun
  | cons field headers ih =>
    rw [readFields] at h
    split at h
    · cases h
    rename_i hNext
    exact forall_mem_cons.mpr ⟨hField hNext, ih h⟩

lemma readFields_fields (h : readFields limits before headers = .ok after) : ∀ field ∈ headers,
      (fieldNamed (literal "content-length") field = true → (parseDecimalSize field.value).isSome = true) ∧
        fieldNamed (literal "transfer-encoding") field = false :=
  readFields_forall (fun hNext => ⟨(readField_ok hNext).decimal, (readField_ok hNext).encoding⟩) h

structure Accepted (limits : ParseOptions) (list : List HeaderField) (content : List UInt8)
    (fields : RequestFields) (after : ReaderScope) : Prop where
  reads : readFields limits .zero list = .ok fields
  size : content.length ≤ limits.maxBodyLength
  headers : after.scope.request.head.headers = requestHeaders fields.effectiveAuthority list
  body : after.scope.request.head.body = content
  kind : bodyReaderClassify (fields.contentType.getD (literal "application/octet-stream")) content.length =
    .ok after.reader.bodyKind

lemma effectiveAuthority_some {scheme : List UInt8} {len : Nat}
    (h : requestFieldsValid limits scheme len fields = true) : fields.effectiveAuthority.isEmpty = false := by
  simp only [requestFieldsValid, Bool.and_eq_true] at h
  obtain ⟨⟨⟨-, hSome⟩, -⟩, -⟩ := h
  rw [RequestFields.effectiveAuthority]
  cases hAuthority : fields.authority.isEmpty with
  | false =>
    exact hAuthority
  | true =>
    rw [hAuthority, Bool.true_and, Bool.not_eq_true'] at hSome
    exact hSome

lemma requestFromHeaders_filled {places : Places} {body : List UInt8} {s after : ReaderScope}
    {conn : Backend.Connection} (hConn : s.scope.connection = some conn)
    (h : requestFromHeaders places headers body s = (after, .ok ())) :
    ∃ fields begun, readFields (http2EffectiveParseOptions s.scope.backend conn) .zero headers = .ok fields ∧
      body.length ≤ (http2EffectiveParseOptions s.scope.backend conn).maxBodyLength ∧
      requestFieldsValid (http2EffectiveParseOptions s.scope.backend conn) conn.scheme body.length fields = true ∧
      fillRequest places (http2EffectiveParseOptions s.scope.backend conn) fields headers body begun =
        (after, .ok ()) := by
  rw [requestFromHeaders, hConn] at h
  dsimp only at h
  split at h
  · cases h
  split at h
  · cases h
  rename_i fields hFields
  split at h
  · cases h
  next hValid =>
    obtain ⟨begun, _, -, h⟩ := Action.bind_ok h
    exact ⟨fields, begun, hFields, by omega, Bool.eq_true_of_not_eq_false hValid, failing_ok h⟩

lemma requestFromHeaders_ok {places : Places} {headers : List HeaderField} {body : List UInt8}
    {s after : ReaderScope} {conn : Backend.Connection} (hConn : s.scope.connection = some conn)
    (h : requestFromHeaders places headers body s = (after, .ok ())) :
    ∃ fields, Accepted (http2EffectiveParseOptions s.scope.backend conn) headers body fields after := by
  obtain ⟨fields, begun, hFields, hSize, hValid, hFilled⟩ := requestFromHeaders_filled hConn h
  obtain ⟨hHeaders, -, -, hBody, hKind⟩ := fillRequest_ok (effectiveAuthority_some hValid) hFilled
  exact ⟨fields, hFields, hSize, hHeaders, hBody, hKind⟩

end Fields

end Sloppy.Http2
