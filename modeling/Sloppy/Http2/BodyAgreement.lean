import Sloppy.Http2.AcceptedRequest
import Sloppy.Dispatch.BodyPolicy

/-! # The two body layers of an HTTP/2 request

The mapping classifies a body by the last content type, and takes bytes for granted where there is none; the dispatcher
looks at the first, and asks for one and for a content length wherever there is a body.
-/

namespace Sloppy.Http2

open Http Backend Dispatch Lib List

section Headers

variable {auth : List UInt8}

lemma isCopied_of_named {name : List UInt8} {field : HeaderField} (hNamed : fieldNamed name field = true)
    (hFirst : (name.map asciiLower).head? ≠ some ':'.toUInt8) (hHost : equalCiAscii name (literal "host") = false) :
    isCopied auth field = true := by
  have hLower : field.name.map asciiLower = name.map asciiLower := eq_of_beq hNamed
  have hPseudo : isPseudo field.name = false := by
    apply Bool.eq_false_of_not_eq_true
    intro hIs
    apply hFirst
    rw [← hLower, head?_map, eq_of_beq hIs]
    rfl
  have hOther : equalCiAscii field.name (literal "host") = false := by
    rw [equalCiAscii, hLower]
    exact hHost
  rw [isCopied, hPseudo, hOther, Bool.and_false]
  rfl

lemma findHeader_requestHeaders {name : List UInt8} (fields : List HeaderField)
    (hFirst : (name.map asciiLower).head? ≠ some ':'.toUInt8) (hHost : equalCiAscii name (literal "host") = false) :
    findHeader (requestHeaders auth fields) name = (fields.find? (fieldNamed name)).map HeaderField.value := by
  have hNotHost : equalCiAscii (literal "host") name = false := by
    rw [equalCiAscii, Bool.beq_comm]
    exact hHost
  have hFound : (fields.filter (isCopied auth)).find? (fieldNamed name) = fields.find? (fieldNamed name) := by
    rw [find?_filter]
    congr 1
    funext field
    cases hNamed : fieldNamed name field with
    | false => simp
    | true => simp [isCopied_of_named hNamed hFirst hHost]
  rw [findHeader, requestHeaders, find?_cons, hNotHost, find?_map]
  change Option.map _ (Option.map toHeader ((fields.filter (isCopied auth)).find? (fieldNamed name))) = _
  rw [hFound, Option.map_map]
  rfl

lemma fieldNamed_of_lower {name other : List UInt8} (h : other.map asciiLower = name.map asciiLower) :
    fieldNamed other = fieldNamed name :=
  funext fun field => equalCiAscii_of_lower h field.name

lemma findHeader_transferEncoding {fields : List HeaderField}
    (h : ∀ field ∈ fields, fieldNamed (literal "transfer-encoding") field = false) :
    findHeader (requestHeaders auth fields) (literal "Transfer-Encoding") = none := by
  rw [findHeader_requestHeaders fields (by decide) (by decide),
    @fieldNamed_of_lower (literal "transfer-encoding") (literal "Transfer-Encoding") (by decide),
    Option.map_eq_none_iff, find?_eq_none]
  intro field hField
  rw [h field hField]
  nofun

lemma findHeader_contentType (fields : List HeaderField) :
    findHeader (requestHeaders auth fields) (literal "Content-Type") = (contentTypes fields).head? := by
  rw [findHeader_requestHeaders fields (by decide) (by decide),
    @fieldNamed_of_lower (literal "content-type") (literal "Content-Type") (by decide), contentTypes,
    head?_map, head?_filter]

lemma trimAsciiSpace_decimal {value : List UInt8} (h : (parseDecimalSize value).isSome = true) :
    trimAsciiSpace value ≠ [] := by
  intro hTrim
  have hBlank := isBlank_of_trimAsciiSpace hTrim
  cases value with
  | nil => cases h
  | cons b =>
    have hFirst := hBlank b (mem_cons_self ..)
    rw [parseDecimalSize, if_neg (by simp), digitsValue] at h
    rw [isBlank, Bool.or_eq_true] at hFirst
    split at h
    · cases h
    rename_i hDigit
    rcases hFirst with hSpace | hTab
    · exact hDigit (by rw [eq_of_beq hSpace]; decide)
    · exact hDigit (by rw [eq_of_beq hTab]; decide)

def declaresLength (fields : List HeaderField) : Bool := fields.any (fieldNamed (literal "content-length"))

lemma lacksContentLength_requestHeaders {fields : List HeaderField}
    (h : ∀ field ∈ fields, fieldNamed (literal "content-length") field = true →
      (parseDecimalSize field.value).isSome = true) :
    lacksContentLength (requestHeaders auth fields) = !declaresLength fields := by
  rw [lacksContentLength, findHeader_requestHeaders fields (by decide) (by decide),
    @fieldNamed_of_lower (literal "content-length") (literal "Content-Length") (by decide), declaresLength]
  cases hFind : fields.find? (fieldNamed (literal "content-length")) with
  | none =>
    rw [any_eq_false.mpr (find?_eq_none.mp hFind)]
    rfl
  | some field =>
    have hMem := mem_of_find?_eq_some hFind
    have hNamed := find?_some hFind
    rw [any_eq_true.mpr ⟨field, hMem, hNamed⟩]
    exact beq_false_of_ne (trimAsciiSpace_decimal (h field hMem hNamed))

end Headers

section Kinds

variable {media : List UInt8}

lemma mediaTypeJson_of_lower {other : List UInt8} (h : media.map asciiLower = other.map asciiLower) :
    Dispatch.mediaTypeJson media = Dispatch.mediaTypeJson other := by
  rw [Dispatch.mediaTypeJson, Dispatch.mediaTypeJson, startsWithCiAscii_of_lower h, endsWithCiAscii_of_lower h,
    equalCiAscii, equalCiAscii, h]

lemma mediaTypeJson_of_backend (h : Backend.mediaTypeJson media = true) : Dispatch.mediaTypeJson media = true := by
  rw [Backend.mediaTypeJson, Bool.or_eq_true, Bool.and_eq_true, Bool.and_eq_true] at h
  rw [Dispatch.mediaTypeJson, Bool.or_eq_true, Bool.and_eq_true]
  exact h.imp_right fun hParts => ⟨hParts.1.2, hParts.2⟩

lemma mediaTypeKind_of_classify {contentType : List UInt8} {len : Nat} {kind : BodyKind} (hLen : len ≠ 0)
    (h : bodyReaderClassify contentType len = .ok kind) : mediaTypeKind (mediaType contentType) = some kind := by
  rw [bodyReaderClassify] at h
  split at h
  · cases h
  rw [if_neg (fun hEmpty => hLen hEmpty.1)] at h
  rw [mediaTypeKind]
  have hOther : ∀ other, Dispatch.mediaTypeJson other = false → equalCiAscii (mediaType contentType) other = true →
      ¬Dispatch.mediaTypeJson (mediaType contentType) = true := by
    intro other hJson hEqual
    rw [mediaTypeJson_of_lower (eq_of_beq hEqual), hJson]
    nofun
  split at h
  next hJson =>
    cases h
    rw [if_pos (mediaTypeJson_of_backend hJson)]
  · split at h
    next hText =>
      cases h
      rw [if_neg (hOther _ (by decide) hText), if_pos hText]
    next hText =>
      split at h
      next hBytes =>
        cases h
        rw [if_neg (hOther _ (by decide) hBytes), if_neg hText, if_pos hBytes]
      next hBytes =>
        split at h
        next hForm =>
          cases h
          rw [if_neg (hOther _ (by decide) hForm), if_neg hText, if_neg hBytes, if_pos hForm]
        next hForm =>
          split at h
          next hParts =>
            cases h
            rw [if_neg (hOther _ (by decide) hParts), if_neg hText, if_neg hBytes, if_neg hForm, if_pos hParts]
          · cases h

end Kinds

section Agreement

lemma maxBodyLength_pos (backend : HttpBackend) (conn : Backend.Connection) :
    (http2EffectiveParseOptions backend conn).maxBodyLength ≠ 0 := by
  rw [http2EffectiveParseOptions]
  split
  · change orDefault _ _ ≠ 0
    rw [orDefault]
    split
    · decide
    · assumption
  · decide

variable {limits : ParseOptions} {list : List HeaderField} {content : List UInt8} {fields : RequestFields}
  {after : ReaderScope}

variable (validJson : List UInt8 → Bool)

lemma applyBodyPolicy_accepted (h : Accepted limits list content fields after) (hLimit : limits.maxBodyLength ≠ 0) :
    applyBodyPolicy validJson after.scope.request.head limits.maxBodyLength false true =
      if content.length = 0 then
        .ok (((contentTypes list).head?.map fun contentType => emptyBodyKind (mediaType contentType)).getD .none)
      else if !declaresLength list then .error unsupportedBody
      else
        match (contentTypes list).head?.bind fun contentType => mediaTypeKind (mediaType contentType) with
        | none => .error unsupportedMediaType
        | some kind => .ok kind := by
  have hFields := readFields_fields h.reads
  have hEncoding : findHeader after.scope.request.head.headers (literal "Transfer-Encoding") = none := by
    rw [h.headers]
    exact findHeader_transferEncoding fun field hField => (hFields field hField).2
  have hChunked : requestTransferEncodingChunked after.scope.request.head.headers = false := by
    rw [requestTransferEncodingChunked, hEncoding]
  have hDeclares : requestDeclaresTransferEncoding after.scope.request.head.headers = false := by
    rw [findHeader, Option.map_eq_none_iff, find?_eq_none] at hEncoding
    exact any_eq_false.mpr hEncoding
  have hSize : ¬content.length > orDefault limits.maxBodyLength defaultParseOptions.maxBodyLength := by
    rw [orDefault, if_neg hLimit]
    exact Nat.not_lt.mpr h.size
  rw [applyBodyPolicy, hDeclares, hChunked, h.body, h.headers, findHeader_contentType,
    lacksContentLength_requestHeaders fun field hField => (hFields field hField).1, Bool.false_and, if_neg nofun,
    Bool.not_false, Bool.true_and, if_neg hSize]
  cases (contentTypes list).head? with
  | none => rfl
  | some contentType =>
    simp only [Option.map_some, Option.getD_some, Option.bind_some]
    cases mediaTypeKind (mediaType contentType) with
    | none => rfl
    | some => simp

/-- The dispatcher accepts the request as well, with the kind that the reader of a body has. -/
def BodyLayersAgree (maxBodyLength : Nat) (content : List UInt8) (after : ReaderScope) : Prop :=
  ∃ kind, applyBodyPolicy validJson after.scope.request.head maxBodyLength false true = .ok kind ∧
    (content ≠ [] → after.reader.bodyKind = kind)

/-- The fields declare the length of a body, and the first and the last content type have one kind. -/
def DescribesBody (list : List HeaderField) (content : List UInt8) : Prop :=
  content ≠ [] → declaresLength list = true ∧ ∃ first last, (contentTypes list).head? = some first ∧
    (contentTypes list).getLast? = some last ∧ mediaTypeKind (mediaType first) = mediaTypeKind (mediaType last)

lemma bodyLayersAgree_accepted (h : Accepted limits list content fields after) (hLimit : limits.maxBodyLength ≠ 0) :
    BodyLayersAgree validJson limits.maxBodyLength content after ↔ DescribesBody list content := by
  rw [BodyLayersAgree, applyBodyPolicy_accepted validJson h hLimit]
  cases hContent : content with
  | nil => exact ⟨fun _ hSome => absurd rfl hSome, fun _ => ⟨_, rfl, fun hSome => absurd rfl hSome⟩⟩
  | cons b rest =>
    have hKind := h.kind
    rw [readFields_contentType h.reads] at hKind
    have hLen : (b :: rest).length ≠ 0 := Nat.succ_ne_zero _
    rw [hContent] at hKind
    cases hDeclares : declaresLength list with
    | false =>
      constructor
      · rintro ⟨kind, hError, -⟩
        cases hError
      · intro hDescribes
        exact absurd (hDeclares.symm.trans (hDescribes nofun).1) nofun
    | true =>
      cases hTypes : contentTypes list with
      | nil =>
        constructor
        · rintro ⟨kind, hError, -⟩
          cases hError
        · intro hDescribes
          obtain ⟨-, first, last, hFirst, -⟩ := hDescribes nofun
          rw [hTypes] at hFirst
          cases hFirst
      | cons first others =>
        obtain ⟨last, hLast⟩ : ∃ last, (first :: others).getLast? = some last := ⟨_, getLast?_cons ..⟩
        rw [hTypes, hLast] at hKind
        have hLastKind : mediaTypeKind (mediaType last) = some after.reader.bodyKind :=
          mediaTypeKind_of_classify hLen hKind
        rw [head?_cons, Option.bind_some, DescribesBody, hTypes, head?_cons, hLast]
        constructor
        · rintro ⟨kind, hOk, hSame⟩ -
          cases hFirstKind : mediaTypeKind (mediaType first) with
          | none =>
            rw [hFirstKind] at hOk
            cases hOk
          | some =>
            rw [hFirstKind] at hOk
            cases hOk
            exact ⟨hDeclares, first, last, rfl, rfl, by rw [hFirstKind, hLastKind, hSame nofun]⟩
        · intro hDescribes
          obtain ⟨-, head, final, hHead, hFinal, hSame⟩ := hDescribes nofun
          cases hHead
          cases hFinal
          rw [hSame, hLastKind]
          exact ⟨_, rfl, fun _ => rfl⟩

theorem body_layers_agree_iff (places : Places) (list : List HeaderField)
    (content : List UInt8) (s after : ReaderScope) (connection : Backend.Connection)
    (hConnection : s.scope.connection = some connection)
    (hAccepted : requestFromHeaders places list content s = (after, .ok ())) :
    BodyLayersAgree validJson (http2EffectiveParseOptions s.scope.backend connection).maxBodyLength content after ↔
      DescribesBody list content := by
  obtain ⟨fields, hFields⟩ := requestFromHeaders_ok hConnection hAccepted
  exact bodyLayersAgree_accepted validJson hFields (maxBodyLength_pos _ _)

def sampleConnection : Backend.Connection := ⟨true, .accepted, 1, literal "http", 0, true, true⟩

def sampleScope : ReaderScope :=
  ⟨⟨{ backendInit none with state := .started, listener := .listening, activeConnections := 1, nextConnectionId := 2 },
    some sampleConnection, .zero⟩, ⟨4096, 1024, 0, 0, 1⟩, .zero⟩

def samplePost (fields : List HeaderField) : List HeaderField :=
  [⟨literal ":method", literal "POST", false⟩, ⟨literal ":scheme", literal "http", false⟩,
    ⟨literal ":path", literal "/", false⟩, ⟨literal ":authority", literal "a", false⟩] ++ fields

lemma exists_accepted {places : Places} {list : List HeaderField} {content : List UInt8} {s : ReaderScope}
    (h : (requestFromHeaders places list content s).2.toOption.any (fun _ => true) = true) :
    ∃ after, requestFromHeaders places list content s = (after, .ok ()) := by
  obtain ⟨_, hOk, -⟩ := exists_ok h
  exact ⟨_, Prod.ext rfl hOk⟩

def sampleDeclared : List HeaderField :=
  samplePost [⟨literal "content-type", literal "text/plain", false⟩, ⟨literal "content-length", literal "2", false⟩]

def sampleUndeclared : List HeaderField := samplePost [⟨literal "content-type", literal "text/plain", false⟩]

theorem body_layers_agree_text :
    ∃ after, requestFromHeaders ⟨0, 0, 0⟩ sampleDeclared (literal "hi") sampleScope = (after, .ok ()) ∧
      BodyLayersAgree (fun _ => false) 65536 (literal "hi") after := by
  obtain ⟨after, hAfter⟩ := @exists_accepted ⟨0, 0, 0⟩ sampleDeclared (literal "hi") sampleScope (by decide +kernel)
  have hTypes : contentTypes sampleDeclared = [literal "text/plain"] := by decide +kernel
  refine ⟨after, hAfter, (body_layers_agree_iff (fun _ => false) ⟨0, 0, 0⟩ sampleDeclared (literal "hi") sampleScope
    after sampleConnection rfl hAfter).mpr ?_⟩
  intro _
  refine ⟨by decide +kernel, literal "text/plain", literal "text/plain", ?_, ?_, rfl⟩
  · rw [hTypes, head?_cons]
  · rw [hTypes, getLast?_singleton]

/-- A body without a content length is accepted by the mapping and refused by the dispatcher. -/
theorem body_layers_disagree_undeclared :
    ∃ after, requestFromHeaders ⟨0, 0, 0⟩ sampleUndeclared (literal "hi") sampleScope = (after, .ok ()) ∧
      applyBodyPolicy (fun _ => false) after.scope.request.head 65536 false true = .error unsupportedBody := by
  obtain ⟨after, hAfter⟩ := @exists_accepted ⟨0, 0, 0⟩ sampleUndeclared (literal "hi") sampleScope (by decide +kernel)
  obtain ⟨fields, hFields⟩ := @requestFromHeaders_ok _ _ _ sampleScope after sampleConnection rfl hAfter
  have hPolicy := applyBodyPolicy_accepted (fun _ => false) hFields (maxBodyLength_pos _ _)
  exact ⟨after, hAfter, hPolicy⟩

end Agreement

end Sloppy.Http2
