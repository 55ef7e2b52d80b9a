import Sloppy.Http2.ResponseFields

/-! # Responses over HTTP/1 and HTTP/2

A response that the HTTP/1 writer accepts is compared with what HTTP/2 gets for it. The mapping to HTTP/2 has its own
table of statuses and rules for header names, and declares another length when the body of a stream is suppressed.
-/

namespace Sloppy.Http2

open Http Lib Lib.Decimal List

def fieldsMessage : List HeaderField → List UInt8 → Option Message
  | [], _ => none
  | field :: fields, body =>
    if field.name = literal ":status" then
      some ⟨field.value, fields.map fun field => ⟨field.name, field.value⟩, body⟩
    else none

def named (name : List UInt8) (header : Header) : Bool := equalCiAscii header.name name

def lowered (header : Header) : Header := ⟨header.name.map asciiLower, header.value⟩

def valuesOf (message : Message) (name : List UInt8) : List (List UInt8) :=
  (message.headers.filter (named name)).map Header.value

/-- The headers that neither protocol adds of its own. -/
def isCustom (header : Header) : Bool :=
  !(named (literal "connection") header || named (literal "content-type") header ||
    named (literal "content-length") header)

def customHeaders (message : Message) : List Header := (message.headers.filter isCustom).map lowered

/-- The same status, content type, headers, content length and body. -/
structure SameResponse (http1 http2 : Message) : Prop where
  status : http1.status = http2.status
  contentType : valuesOf http1 (literal "content-type") = valuesOf http2 (literal "content-type")
  headers : customHeaders http1 = customHeaders http2
  contentLength : valuesOf http1 (literal "content-length") = valuesOf http2 (literal "content-length")
  body : http1.body = http2.body

lemma filter_described {test : Header → Bool} {resp : Response} {typeName lengthName lengthText : List UInt8}
    {type own len : Bool} (hType : test ⟨typeName, resp.contentType⟩ = type)
    (hOwn : ∀ hdr ∈ resp.headers, test hdr = own) (hLen : test ⟨lengthName, lengthText⟩ = len) :
    (resp.described typeName lengthName lengthText).filter test =
      (if type && (resp.contentType.length != 0 && !statusHasNoBody resp.status)
        then [⟨typeName, resp.contentType⟩] else []) ++
      ((if own then resp.headers else []) ++
        if len && !statusHasNoBody resp.status then [⟨lengthName, lengthText⟩] else []) := by
  have hHeaders : resp.headers.filter test = if own then resp.headers else [] := by
    cases own with
    | false =>
      rw [if_neg nofun, filter_eq_nil_iff]
      intro hdr hHdr
      rw [hOwn hdr hHdr]
      nofun
    | true =>
      rw [if_pos rfl, filter_eq_self]
      exact hOwn
  rw [Response.described, filter_append, filter_append, hHeaders, apply_ite (filter test),
    apply_ite (filter test), filter_nil, filter_cons, filter_cons, filter_nil, hType,
    hLen]
  cases type <;> cases len <;> simp

lemma headersValid_named {headers : List Header} (h : headersValid headers = true) {hdr : Header}
    (hHdr : hdr ∈ headers) :
    named (literal "connection") hdr = false ∧ named (literal "content-type") hdr = false ∧
      named (literal "content-length") hdr = false := by
  have hValid := all_eq_true.mp h hdr hHdr
  simp only [Bool.and_eq_true, headerManaged, Bool.not_eq_true', Bool.or_eq_false_iff] at hValid
  obtain ⟨⟨-, ⟨⟨⟨hConn, -⟩, hType⟩, -⟩, hLen⟩, -⟩ := hValid
  exact ⟨(equalCiAscii_of_lower (by decide) _).trans hConn,
    (equalCiAscii_of_lower (by decide) _).trans hType, (equalCiAscii_of_lower (by decide) _).trans hLen⟩

/-- The names that the two protocols give to the headers they add. -/
structure ProtocolNames (typeName lengthName : List UInt8) : Prop where
  typeName : typeName.map asciiLower = literal "content-type"
  lengthName : lengthName.map asciiLower = literal "content-length"

section Described

variable {resp : Response} {typeName lengthName lengthText : List UInt8}

section

variable (hNames : ProtocolNames typeName lengthName) (hHeaders : headersValid resp.headers = true)
include hNames hHeaders

lemma values_contentType :
    ((resp.described typeName lengthName lengthText).filter (named (literal "content-type"))).map Header.value =
      if resp.contentType.length != 0 && !statusHasNoBody resp.status then [resp.contentType] else [] := by
  have hType : named (literal "content-type") ⟨typeName, resp.contentType⟩ = true := by
    rw [named, equalCiAscii, hNames.typeName]
    decide
  have hLen : named (literal "content-type") ⟨lengthName, lengthText⟩ = false := by
    rw [named, equalCiAscii, hNames.lengthName]
    decide
  rw [filter_described hType (fun hdr hHdr => (headersValid_named hHeaders hHdr).2.1) hLen]
  simp [apply_ite (map Header.value)]

lemma values_contentLength :
    ((resp.described typeName lengthName lengthText).filter (named (literal "content-length"))).map Header.value =
      if !statusHasNoBody resp.status then [lengthText] else [] := by
  have hType : named (literal "content-length") ⟨typeName, resp.contentType⟩ = false := by
    rw [named, equalCiAscii, hNames.typeName]
    decide
  have hLen : named (literal "content-length") ⟨lengthName, lengthText⟩ = true := by
    rw [named, equalCiAscii, hNames.lengthName]
    decide
  rw [filter_described hType (fun hdr hHdr => (headersValid_named hHeaders hHdr).2.2) hLen]
  simp [apply_ite (map Header.value)]

lemma custom_described : (resp.described typeName lengthName lengthText).filter isCustom = resp.headers := by
  have hType : isCustom ⟨typeName, resp.contentType⟩ = false := by
    simp only [isCustom, named, equalCiAscii, hNames.typeName]
    decide
  have hLen : isCustom ⟨lengthName, lengthText⟩ = false := by
    simp only [isCustom, named, equalCiAscii, hNames.lengthName]
    decide
  have hOwn : ∀ hdr ∈ resp.headers, isCustom hdr = true := by
    intro hdr hHdr
    obtain ⟨hConn, hType, hLen⟩ := headersValid_named hHeaders hHdr
    rw [isCustom, hConn, hType, hLen]
    rfl
  rw [filter_described hType hOwn hLen]
  simp

end

end Described

lemma sameResponse_iff {resp : Response} (hHeaders : headersValid resp.headers = true)
    (hContent : resp.content.length ≤ sizeMax) {declared : Nat} (hDeclared : declared ≤ sizeMax)
    (policy : ConnectionPolicy) (body : List UInt8) :
    SameResponse ⟨decimal 32 resp.status.toNat, resp.http1Headers policy, body⟩
      ⟨decimal 20 resp.status.toNat, resp.described (literal "content-type") (literal "content-length")
        (decimal 20 declared), body⟩ ↔
      (statusHasNoBody resp.status = false → resp.content.length = declared) := by
  have hUpper : ProtocolNames (literal "Content-Type") (literal "Content-Length") := ⟨by decide, by decide⟩
  have hLower : ProtocolNames (literal "content-type") (literal "content-length") := ⟨by decide, by decide⟩
  rw [sizeMax] at hContent hDeclared
  have hStatus : decimal 32 resp.status.toNat = decimal 20 resp.status.toNat := by
    have hLess := resp.status.toNat_lt
    exact decimal_bound (by omega) (by omega) (by decide) (by decide)
  have hFilter : ∀ (test : Header → Bool), test ⟨literal "Connection", policyText policy⟩ = false →
        (resp.http1Headers policy).filter test = (resp.described (literal "Content-Type")
          (literal "Content-Length") (decimal 32 resp.content.length)).filter test := by
    intro test hTest
    rw [Response.http1Headers, filter_cons, hTest, if_neg Bool.false_ne_true]
  constructor
  · intro h hBody
    have hLen := h.contentLength
    rw [valuesOf, valuesOf, hFilter _ rfl, values_contentLength hUpper hHeaders,
      values_contentLength hLower hHeaders, hBody] at hLen
    have hTexts : decimal 32 resp.content.length = decimal 20 declared := singleton_inj.mp hLen
    rw [← @readDecimal_decimal 32 resp.content.length (by omega), hTexts, readDecimal_decimal (by omega)]
  · intro h
    constructor
    · exact hStatus
    · rw [valuesOf, valuesOf, hFilter _ rfl, values_contentType hUpper hHeaders, values_contentType hLower hHeaders]
    · rw [customHeaders, customHeaders, hFilter _ rfl, custom_described hUpper hHeaders,
        custom_described hLower hHeaders]
    · rw [valuesOf, valuesOf, hFilter _ rfl, values_contentLength hUpper hHeaders,
        values_contentLength hLower hHeaders]
      cases hBody : statusHasNoBody resp.status with
      | true => rfl
      | false =>
        rw [h hBody, @decimal_bound 32 20 declared (by omega) (by omega) (by decide) (by decide)]
    · rfl

section Portability

def isUpper (b : UInt8) : Prop := 'A'.toUInt8 ≤ b ∧ b ≤ 'Z'.toUInt8

instance (b : UInt8) : Decidable (isUpper b) := inferInstanceAs (Decidable (_ ∧ _))

/-- The responses that both protocols carry alike, for a limit on the bytes of a body. -/
structure Portable (response : Response) (suppressBody : Bool) (maxBodyBytes : Nat) : Prop where
  status : response.status ≠ 401 ∧ response.status ≠ 403 ∧ response.status ≠ 503
  lowerCase : ∀ header ∈ response.headers, ∀ b ∈ header.name, ¬isUpper b
  forwarded : ∀ header ∈ response.headers, equalCiAscii header.name (literal "upgrade") = false ∧
    equalCiAscii header.name (literal "proxy-connection") = false
  limit : response.kind = .stream → suppressBody = false → statusHasNoBody response.status = false →
    256 ≤ maxBodyBytes
  suppressed : response.kind = .stream → suppressBody = true → statusHasNoBody response.status = false →
    response.streamChunks.flatten.length = response.body.length

variable {reason : List UInt8}

lemma mappingStatusSupported_iff {status : UInt16} (h : responseReason status = some reason) :
    mappingStatusSupported status = true ↔ status ≠ 401 ∧ status ≠ 403 ∧ status ≠ 503 := by
  rw [responseReason] at h
  split at h <;> rename_i hStatus <;> try cases h
  all_goals
    simp only [mappingStatusSupported, hStatus, ne_eq, ← UInt16.toNat_inj]
    decide

lemma fieldNameCharValid_iff {b : UInt8} (h : headerNameCharValid b = true) :
    fieldNameCharValid b = true ↔ ¬isUpper b := by
  have hSymbols : ∀ b ∈ headerNameSymbols, ¬('A'.toUInt8 ≤ b ∧ b ≤ 'Z'.toUInt8) := by decide +kernel
  simp only [headerNameCharValid, Bool.or_eq_true, Bool.and_eq_true, decide_eq_true_eq, contains_iff_mem] at h
  simp only [fieldNameCharValid, Bool.or_eq_true, Bool.and_eq_true, decide_eq_true_eq, contains_iff_mem, isUpper]
  constructor
  · rintro ((hLetter | hDigit) | hSymbol) hUpper
    · exact absurd (UInt8.le_trans hLetter.1 hUpper.2) (by decide)
    · exact absurd (UInt8.le_trans hUpper.1 hDigit.2) (by decide)
    · exact hSymbols b hSymbol hUpper
  · intro hNotUpper
    rcases h with ((hUpper | hLetter) | hDigit) | hSymbol
    · exact absurd hUpper hNotUpper
    · exact Or.inl (Or.inl hLetter)
    · exact Or.inl (Or.inr hDigit)
    · exact Or.inr hSymbol

lemma permitted_iff_of_valid {headers : List Header} (h : headersValid headers = true) {hdr : Header}
    (hHdr : hdr ∈ headers) :
    Permitted hdr ↔ (∀ b ∈ hdr.name, ¬isUpper b) ∧ equalCiAscii hdr.name (literal "upgrade") = false ∧
      equalCiAscii hdr.name (literal "proxy-connection") = false := by
  have hValid := all_eq_true.mp h hdr hHdr
  simp only [Bool.and_eq_true, headerNameValid, headerManaged, Bool.not_eq_true', Bool.or_eq_false_iff,
    all_eq_true] at hValid
  obtain ⟨⟨⟨hSome, hName⟩, ⟨⟨⟨hConn, hKeepAlive⟩, hType⟩, hEncoding⟩, hLen⟩, hValue⟩ := hValid
  have hManaged : responseHeaderManaged hdr.name = (equalCiAscii hdr.name (literal "upgrade") ||
      equalCiAscii hdr.name (literal "proxy-connection")) := by
    rw [responseHeaderManaged, (equalCiAscii_of_lower (by decide) _).trans hConn,
      (equalCiAscii_of_lower (by decide) _).trans hKeepAlive, (equalCiAscii_of_lower (by decide) _).trans hType,
      (equalCiAscii_of_lower (by decide) _).trans hEncoding, (equalCiAscii_of_lower (by decide) _).trans hLen]
    rfl
  have hNames : fieldNameValid hdr.name = true ↔ ∀ b ∈ hdr.name, ¬isUpper b := by
    rw [fieldNameValid, hSome, Bool.not_false, Bool.true_and, all_eq_true]
    exact forall₂_congr fun b hb => fieldNameCharValid_iff (hName b hb)
  rw [Permitted, hNames, hManaged, Bool.or_eq_false_iff, fieldValueValid, and_iff_right hValue]

lemma fieldValueValid_of_contentType {contentType : List UInt8} (h : contentTypeValid contentType = true) :
    fieldValueValid contentType = true := by
  rw [contentTypeValid, all_eq_true] at h
  rw [fieldValueValid, headerValueValid, all_eq_true]
  intro b hb
  have hByte := h b hb
  simp only [Bool.not_eq_true', Bool.or_eq_false_iff] at hByte ⊢
  rw [hByte.1]
  exact ⟨rfl, hByte.2⟩

lemma content_length_eq_declared_iff (resp : Response) (suppress : Bool) : (statusHasNoBody resp.status = false →
      resp.content.length = declaredLength resp suppress) ↔
    (resp.kind = .stream → suppress = true → statusHasNoBody resp.status = false →
      resp.streamChunks.flatten.length = resp.body.length) := by
  rw [declaredLength, Response.carried, Response.content]
  cases suppress with
  | true =>
    constructor
    · intro h hKind _ hBody
      have hLen := h hBody
      rw [if_pos hKind] at hLen
      exact hLen
    · intro h hBody
      split
      next hKind =>
        exact h hKind rfl hBody
      · rfl
  | false =>
    constructor
    · intro _ _ hSuppressed
      cases hSuppressed
    · intro _ hBody
      rw [hBody]
      rfl

lemma mapped_iff {resp : Response} {opts : Option WriteOptions} {out : List UInt8} (h : Written resp opts reason out)
    (suppress : Bool) (maxBody : Nat) :
    Mapped resp suppress maxBody ∧ (statusHasNoBody resp.status = false →
      resp.content.length = declaredLength resp suppress) ↔
    Portable resp suppress maxBody := by
  rw [content_length_eq_declared_iff]
  constructor
  · rintro ⟨hMapped, hSuppressed⟩
    have hHeaders := fun hdr hHdr =>
      (permitted_iff_of_valid h.headers hHdr).mp (hMapped.headers hdr hHdr)
    exact ⟨(mappingStatusSupported_iff h.reason).mp hMapped.status, fun hdr hHdr => (hHeaders hdr hHdr).1,
      fun hdr hHdr => (hHeaders hdr hHdr).2, hMapped.limit, hSuppressed⟩
  · intro hPortable
    have hHeaders : ∀ hdr ∈ resp.headers, Permitted hdr := fun hdr hHdr =>
      (permitted_iff_of_valid h.headers hHdr).mpr ⟨hPortable.lowerCase hdr hHdr, hPortable.forwarded hdr hHdr⟩
    exact ⟨⟨(mappingStatusSupported_iff h.reason).mpr hPortable.status,
      fieldValueValid_of_contentType h.contentType, hHeaders, hPortable.limit⟩, hPortable.suppressed⟩

end Portability

/-- The mapping succeeds, and its fields and body say the same as the HTTP/1 text. -/
def Agrees (response : Response) (suppressBody : Bool) (maxBodyBytes : Nat) (arena : Arena) (out : List UInt8) : Prop :=
  ∃ after fields body http1 http2,
    responseToHeaders response suppressBody maxBodyBytes arena = (after, .ok (fields, body)) ∧
    readMessage out = some http1 ∧ fieldsMessage fields body = some http2 ∧ SameResponse http1 http2

lemma fieldsMessage_responseFields (resp : Response) (suppress : Bool) (body : List UInt8) :
    fieldsMessage (responseFields resp suppress) body =
      some ⟨decimal 20 resp.status.toNat, resp.described (literal "content-type")
        (literal "content-length") (decimal 20 (declaredLength resp suppress)), body⟩ := by
  rw [responseFields, fieldsMessage, if_pos rfl, map_map]
  change some (Message.mk _ (map id _) _) = _
  rw [map_id]

theorem response_parity_iff (response : Response) (options : Option WriteOptions) (capacity maxBodyBytes : Nat)
    (arena : Arena) (out : List UInt8) (hWrite : responseWriteWithOptions response options capacity = .ok out)
    (hLimit : response.content.length ≤ maxBodyBytes) (hSize : maxBodyBytes ≤ sizeMax)
    (hRoom : Roomy arena (responseRoom response maxBodyBytes)) :
    Agrees response (effectiveSuppression options) maxBodyBytes arena out ↔
      Portable response (effectiveSuppression options) maxBodyBytes := by
  obtain ⟨reason, hWritten⟩ := responseWriteWithOptions_ok hWrite
  have hDeclared : declaredLength response (effectiveSuppression options) ≤ sizeMax := by
    have hCarried := carried_length_le response (effectiveSuppression options)
    have hBody := response.bodySize
    rw [declaredLength]
    split <;> omega
  have hSame := sameResponse_iff hWritten.headers hWritten.length hDeclared (effectivePolicy options)
    (response.carried (effectiveSuppression options))
  rw [← mapped_iff hWritten]
  constructor
  · rintro ⟨after, fields, body, http1, http2, hMap, hHttp1, hHttp2, hAgree⟩
    obtain ⟨hMapped, rfl, rfl⟩ := responseToHeaders_ok hMap
    rw [hWritten.reads, Option.some_inj] at hHttp1
    rw [fieldsMessage_responseFields, Option.some_inj] at hHttp2
    rw [← hHttp1, ← hHttp2] at hAgree
    exact ⟨hMapped, hSame.mp hAgree⟩
  · rintro ⟨hMapped, hLength⟩
    have hFields : 40 * (response.headers.length + 3) ≤ sizeMax := by
      have hLeft := hRoom.left
      have hAddresses := hRoom.addresses
      rw [responseRoom] at hLeft
      omega
    obtain ⟨after, hMap, -⟩ := responseToHeaders_affords hMapped hWritten.measured hLimit hSize hFields arena 0 hRoom
    exact ⟨after, _, _, _, _, hMap, hWritten.reads, fieldsMessage_responseFields _ _ _, hSame.mpr hLength⟩

lemma sampleBody_size : (literal "no").length ≤ sizeMax := by decide

def sampleResponse (status : UInt16) : Response where
  status := status
  kind := .text
  contentType := literal "text/plain"
  headers := [⟨literal "x-id", literal "7"⟩]
  body := literal "no"
  streamChunks := []
  bodySize := sampleBody_size
  chunkSizes := noChunks_sizes

def sampleArena : Arena := ⟨4096, 1024, 0, 0, 1⟩

theorem response_parity_found : ∃ out, responseWriteWithOptions (sampleResponse 404) none 256 = .ok out ∧
      Agrees (sampleResponse 404) false 2 sampleArena out := by
  obtain ⟨out, hWrite, -⟩ := @exists_ok _ _ (responseWriteWithOptions (sampleResponse 404) none 256)
    (fun _ => true) (by decide +kernel)
  refine ⟨out, hWrite, (response_parity_iff (sampleResponse 404) none 256 2 sampleArena out hWrite (by decide)
    (by decide) ⟨by decide, by decide, by decide⟩).mpr ?_⟩
  exact ⟨by decide, by decide +kernel, by decide +kernel, nofun, nofun⟩

/-- HTTP/1 answers 401, HTTP/2 has no such response. -/
theorem response_parity_unauthorized : (∃ out, responseWriteWithOptions (sampleResponse 401) none 256 = .ok out) ∧
      (sampleResponse 401).content.length ≤ 2 ∧ Roomy sampleArena (responseRoom (sampleResponse 401) 2) ∧
      responseToHeaders (sampleResponse 401) false 2 sampleArena = (sampleArena, .error .invalidArgument) := by
  obtain ⟨out, hWrite, -⟩ := @exists_ok _ _ (responseWriteWithOptions (sampleResponse 401) none 256)
    (fun _ => true) (by decide +kernel)
  exact ⟨⟨out, hWrite⟩, by decide, ⟨by decide, by decide, by decide⟩, rfl⟩

end Sloppy.Http2
