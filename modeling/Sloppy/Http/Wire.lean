import Sloppy.Http.Response
import Sloppy.Lib.Lines

/-! # What a recipient reads from an HTTP/1 response

The status line and the header lines end with the first empty line, the body follows. Whatever the writer
accepts reads back as the status of the response, the headers in the order they were written, and the body.
-/

namespace Sloppy.Http

open Growing Lib Lib.Decimal Lib.Lines List

structure Message where
  status : List UInt8
  headers : List Header
  body : List UInt8
  deriving DecidableEq

def colon : UInt8 := ':'.toUInt8

def space : UInt8 := ' '.toUInt8

/-- The name ends at the first colon; a blank stands between the colon and the value. -/
def readHeader (line : List UInt8) : Header :=
  ⟨line.takeWhile (· != colon), (line.dropWhile (· != colon)).drop 2⟩

def readMessage (text : List UInt8) : Option Message :=
  match readBlock text.length text with
  | some (statusLine :: lines, body) =>
    if statusLine.take 9 = literal "HTTP/1.1 " then
      some ⟨(statusLine.drop 9).takeWhile (· != space), lines.map readHeader, body⟩
    else none
  | _ => none

section Lines

def statusLine (status : UInt16) (reason : List UInt8) : List UInt8 :=
  literal "HTTP/1.1 " ++ decimal 32 status.toNat ++ literal " " ++ reason

def headerLine (header : Header) : List UInt8 := header.name ++ literal ": " ++ header.value

variable {hdr : Header}

lemma readHeader_headerLine (hName : colon ∉ hdr.name) : readHeader (headerLine hdr) = hdr := by
  have hAll : ∀ b ∈ hdr.name, (b != colon) = true := by
    intro b hb
    rw [bne_iff_ne]
    rintro rfl
    exact hName hb
  have hRest : headerLine hdr = hdr.name ++ (colon :: space :: hdr.value) := append_assoc ..
  rw [readHeader, hRest, takeWhile_append_of_pos hAll, dropWhile_append_of_pos hAll]
  cases hdr with
  | mk name value =>
    change Header.mk (name ++ []) value = _
    rw [append_nil]

lemma mem_decimal_ne {bound value : Nat} {b : UInt8} (h : b ∈ decimal bound value) : b ≠ 13 ∧ b ≠ space := by
  have hRange := (mem_decimal h).1
  constructor <;> (rintro rfl; exact absurd hRange (by decide))

variable {reason : List UInt8}

lemma statusLine_line (status : UInt16) (hReason : 13 ∉ reason) :
    statusLine status reason ≠ [] ∧ 13 ∉ statusLine status reason := by
  constructor
  · intro h
    cases h
  · simp only [statusLine, mem_append, not_or]
    exact ⟨⟨⟨by decide, fun h => (mem_decimal_ne h).1 rfl⟩, by decide⟩, hReason⟩

lemma statusLine_status (status : UInt16) (reason : List UInt8) :
    ((statusLine status reason).drop 9).takeWhile (· != space) = decimal 32 status.toNat := by
  have hDrop : (statusLine status reason).drop 9 = decimal 32 status.toNat ++ (space :: reason) := append_assoc ..
  rw [hDrop, takeWhile_append_of_pos]
  · change _ ++ [] = _
    rw [append_nil]
  · intro b hb
    rw [bne_iff_ne]
    exact (mem_decimal_ne hb).2

/-- Headers whose names and values stay apart from each other and within their lines. -/
def Plain (header : Header) : Prop :=
  header.name ≠ [] ∧ colon ∉ header.name ∧ 13 ∉ header.name ∧ 13 ∉ header.value

lemma headerLine_line (h : Plain hdr) : headerLine hdr ≠ [] ∧ 13 ∉ headerLine hdr := by
  obtain ⟨hSome, -, hName, hValue⟩ := h
  constructor
  · simp [headerLine, hSome]
  · simp only [headerLine, mem_append, not_or]
    exact ⟨⟨hName, by decide⟩, hValue⟩

lemma readMessage_block {status : UInt16} {headers : List Header} (body : List UInt8) (hReason : 13 ∉ reason)
    (hHeaders : ∀ hdr ∈ headers, Plain hdr) :
    readMessage (block (statusLine status reason :: headers.map headerLine) ++ body) =
      some ⟨decimal 32 status.toNat, headers, body⟩ := by
  have hBlock : ∀ line ∈ statusLine status reason :: headers.map headerLine, line ≠ [] ∧ 13 ∉ line := by
    simp only [mem_cons, mem_map]
    rintro line (rfl | ⟨hdr, hHdr, rfl⟩)
    · exact statusLine_line status hReason
    · exact headerLine_line (hHeaders hdr hHdr)
  have hFuel := length_lt_length_block (statusLine status reason :: headers.map headerLine)
  have hRead : headers.map (readHeader ∘ headerLine) = headers := by
    conv_rhs => rw [← map_id headers]
    apply map_congr_left
    intro hdr hHdr
    exact readHeader_headerLine (hHeaders hdr hHdr).2.1
  have hTake : (statusLine status reason).take 9 = literal "HTTP/1.1 " := rfl
  rw [readMessage, readBlock_block hBlock (by rw [length_append]; omega)]
  dsimp only
  rw [if_pos hTake, statusLine_status, map_map, hRead]

end Lines

def Response.content (response : Response) : List UInt8 :=
  if response.kind = .stream then response.streamChunks.flatten else response.body

def Response.carried (response : Response) (suppressBody : Bool) : List UInt8 :=
  if suppressBody = true ∨ statusHasNoBody response.status = true then [] else response.content

def Response.described (response : Response) (typeName lengthName lengthText : List UInt8) : List Header :=
  (if response.contentType.length != 0 && !statusHasNoBody response.status
    then [⟨typeName, response.contentType⟩] else []) ++
  (response.headers ++ if !statusHasNoBody response.status then [⟨lengthName, lengthText⟩] else [])

def policyText (policy : ConnectionPolicy) : List UInt8 :=
  if policy = .keepAlive then literal "keep-alive" else literal "close"

def Response.http1Headers (response : Response) (policy : ConnectionPolicy) : List Header :=
  ⟨literal "Connection", policyText policy⟩ ::
    response.described (literal "Content-Type") (literal "Content-Length") (decimal 32 response.content.length)

section Writer

def written (state : BuilderState) : List UInt8 := state.builder.content

lemma appendStr_appends (text : List UInt8) : Action.Appends written (appendStr text) text := by
  intro before after value h
  have hContent := byteBuilderAppendBytes_content before text
  change Growing.byteBuilderAppendBytes before text = _ at h
  rw [h] at hContent
  obtain ⟨code, hFailed, -⟩ | ⟨-, hDone⟩ := hContent
  · cases hFailed
  · exact hDone

lemma appendSize_appends (value : Nat) : Action.Appends written (appendSize value) (decimal 32 value) := by
  intro before after result h
  change byteBuilderAppendAll before _ = _ at h
  have hContent := @byteBuilderAppendAll_content before ((decimal 32 value).map fun digit => [digit]) (by rw [h])
  rw [h] at hContent
  have hDigits : ((decimal 32 value).map fun digit => [digit]).flatten = decimal 32 value := by
    rw [← flatMap_def, flatMap_singleton']
  rw [hDigits] at hContent
  exact hContent

lemma appendCustomHeaders_appends (headers : List Header) :
    Action.Appends written (appendCustomHeaders headers) ((headers.map headerLine).flatMap ended) := by
  induction headers with
  | nil => exact .pure ()
  | cons hdr headers ih =>
    have hLine : (((hdr :: headers).map headerLine).flatMap ended) =
        hdr.name ++ (literal ": " ++ (hdr.value ++ (literal "\r\n" ++ (headers.map headerLine).flatMap ended))) := by
      simp only [map_cons, flatMap_cons, ended, headerLine, append_assoc]
      rfl
    rw [hLine]
    apply (appendStr_appends hdr.name).bind
    intro _
    apply (appendStr_appends (literal ": ")).bind
    intro _
    apply (appendStr_appends hdr.value).bind
    intro _
    apply (appendStr_appends (literal "\r\n")).bind
    intro _
    exact ih

lemma appendStreamBody_appends (chunks : List (List UInt8)) :
    Action.Appends written (appendStreamBody chunks) chunks.flatten := by
  induction chunks with
  | nil => exact .pure ()
  | cons chunk rest ih =>
    rw [appendStreamBody, flatten_cons]
    split
    next hEmpty =>
      rw [length_eq_zero_iff.mp hEmpty, nil_append]
      exact ih
    · apply (appendStr_appends chunk).bind
      intro _
      exact ih

lemma appendStatusLine_appends (status : UInt16) (reason : List UInt8) (policy : ConnectionPolicy) :
    Action.Appends written (appendStatusLine status reason policy)
      (ended (statusLine status reason) ++ ended (headerLine ⟨literal "Connection", policyText policy⟩)) := by
  have hText : ended (statusLine status reason) ++ ended (headerLine ⟨literal "Connection", policyText policy⟩) =
      literal "HTTP/1.1 " ++ (decimal 32 status.toNat ++ (literal " " ++ (reason ++
        (literal "\r\nConnection: " ++ (policyText policy ++ literal "\r\n"))))) := by
    simp only [ended, statusLine, headerLine, append_assoc]
    rfl
  rw [hText]
  apply (appendStr_appends (literal "HTTP/1.1 ")).bind
  intro _
  apply (appendSize_appends status.toNat).bind
  intro _
  apply (appendStr_appends (literal " ")).bind
  intro _
  apply (appendStr_appends reason).bind
  intro _
  apply (appendStr_appends (literal "\r\nConnection: ")).bind
  intro _
  apply (appendStr_appends (policyText policy)).bind
  intro _
  exact appendStr_appends (literal "\r\n")

lemma appendContentType_appends (contentType : List UInt8) : Action.Appends written (appendContentType contentType)
      (ended (headerLine ⟨literal "Content-Type", contentType⟩)) := by
  apply (appendStr_appends (literal "Content-Type: ")).bind
  intro _
  apply (appendStr_appends contentType).bind
  intro _
  exact appendStr_appends (literal "\r\n")

lemma appendContentLength_appends (bodyLength : Nat) : Action.Appends written (appendContentLength bodyLength)
      (ended (headerLine ⟨literal "Content-Length", decimal 32 bodyLength⟩)) := by
  apply (appendStr_appends (literal "Content-Length: ")).bind
  intro _
  apply (appendSize_appends bodyLength).bind
  intro _
  exact appendStr_appends (literal "\r\n")

lemma appendHead_appends (resp : Response) (reason : List UInt8) (policy : ConnectionPolicy) (bodyLength : Nat) :
    Action.Appends written (appendHead resp reason policy
        (resp.contentType.length != 0 && !statusHasNoBody resp.status) bodyLength)
      (block (statusLine resp.status reason :: headerLine ⟨literal "Connection", policyText policy⟩ ::
        (resp.described (literal "Content-Type") (literal "Content-Length")
          (decimal 32 bodyLength)).map headerLine)) := by
  have hText : block (statusLine resp.status reason :: headerLine ⟨literal "Connection", policyText policy⟩ ::
        (resp.described (literal "Content-Type") (literal "Content-Length") (decimal 32 bodyLength)).map headerLine) =
      (ended (statusLine resp.status reason) ++ ended (headerLine ⟨literal "Connection", policyText policy⟩)) ++
      ((if resp.contentType.length != 0 && !statusHasNoBody resp.status
          then ended (headerLine ⟨literal "Content-Type", resp.contentType⟩) else []) ++
        ((resp.headers.map headerLine).flatMap ended ++ ((if !statusHasNoBody resp.status
            then ended (headerLine ⟨literal "Content-Length", decimal 32 bodyLength⟩) else []) ++
          literal "\r\n"))) := by
    simp only [block, Response.described, map_append, flatMap_append, flatMap_cons,
      append_assoc, apply_ite (map headerLine), apply_ite (flatMap ended), map_cons,
      map_nil, flatMap_nil, append_nil]
    rfl
  rw [hText]
  apply (appendStatusLine_appends resp.status reason policy).bind
  intro _
  apply ((appendContentType_appends resp.contentType).onlyIf _).bind
  intro _
  apply (appendCustomHeaders_appends resp.headers).bind
  intro _
  apply ((appendContentLength_appends bodyLength).onlyIf _).bind
  intro _
  exact appendStr_appends (literal "\r\n")

variable {resp : Response}

lemma appendResponse_appends {streamBodyLength : Nat}
    (hLen : resp.kind = .stream → streamBodyLength = resp.content.length) (reason : List UInt8)
    (policy : ConnectionPolicy) (suppress : Bool) :
    Action.Appends written (appendResponse resp reason policy suppress streamBodyLength)
      (block (statusLine resp.status reason :: (resp.http1Headers policy).map headerLine) ++
        resp.carried suppress) := by
  have hHeaders : resp.http1Headers policy = ⟨literal "Connection", policyText policy⟩ ::
      resp.described (literal "Content-Type") (literal "Content-Length")
        (decimal 32 (if resp.kind == .stream then streamBodyLength
          else (if statusHasNoBody resp.status then [] else resp.body).length)) := by
    rw [Response.http1Headers, Response.described, Response.described]
    cases hNone : statusHasNoBody resp.status with
    | true => rfl
    | false =>
      cases hKind : resp.kind == .stream with
      | true => rw [if_pos rfl, hLen (eq_of_beq hKind)]
      | false =>
        have hContent : resp.content = resp.body := if_neg (ne_of_beq_false hKind)
        rw [hContent]
        rfl
  rw [hHeaders, map_cons]
  apply (appendHead_appends resp reason policy _).bind
  intro _
  cases hNone : statusHasNoBody resp.status with
  | true =>
    rw [Response.carried, hNone, if_pos (Or.inr rfl), Bool.not_true, Bool.and_false, if_neg nofun]
    split
    · exact appendStr_appends []
    · exact appendStr_appends []
  | false =>
    cases suppress with
    | true =>
      rw [Response.carried, if_pos (Or.inl rfl), Bool.not_true, Bool.and_false, Bool.false_and, if_neg nofun]
      exact appendStr_appends []
    | false =>
      have hCarried : resp.carried false = resp.content := by
        rw [Response.carried, hNone, if_neg (by simp)]
      rw [hCarried, Response.content]
      cases hKind : resp.kind == .stream with
      | true =>
        rw [if_pos (eq_of_beq hKind)]
        exact appendStreamBody_appends resp.streamChunks
      | false =>
        rw [if_neg (ne_of_beq_false hKind)]
        exact appendStr_appends resp.body

lemma measureChunks_ok {noBody : Bool} {total len : Nat} {chunks : List (List UInt8)}
    (hChunks : ∀ chunk ∈ chunks, chunk.length ≤ sizeMax) (hTotal : total ≤ sizeMax)
    (h : measureChunks noBody total chunks = .ok len) :
    len = total + chunks.flatten.length ∧ len ≤ sizeMax := by
  induction chunks generalizing total with
  | nil =>
    cases h
    exact ⟨rfl, hTotal⟩
  | cons chunk rest ih =>
    rw [measureChunks] at h
    split at h
    · cases h
    split at h
    · cases h
    rename_i hNext
    have hChunk := checkedAddSize_le hNext (hChunks chunk (mem_cons_self ..))
    have hSum := checkedAddSize_ok hNext
    obtain ⟨hLen, hFits⟩ := ih (fun other hOther => hChunks other (mem_cons_of_mem _ hOther)) (by omega) h
    rw [flatten_cons, length_append]
    exact ⟨by omega, hFits⟩

lemma streamValidateAndMeasure_ok {len : Nat} (h : streamValidateAndMeasure resp = .ok len) :
    len = resp.content.length ∧ len ≤ sizeMax := by
  rw [streamValidateAndMeasure] at h
  split at h
  · cases h
  rename_i hKind
  obtain ⟨hSum, hFits⟩ := measureChunks_ok resp.chunkSizes (Nat.zero_le _) h
  rw [Response.content, if_pos (not_not.mp hKind)]
  exact ⟨by omega, hFits⟩

structure Written (response : Response) (options : Option WriteOptions) (phrase out : List UInt8) : Prop where
  reason : responseReason response.status = some phrase
  contentType : contentTypeValid response.contentType = true
  headers : headersValid response.headers = true
  length : response.content.length ≤ sizeMax
  measured : response.kind = .stream → streamValidateAndMeasure response = .ok response.content.length
  text : out = block (statusLine response.status phrase ::
    (response.http1Headers (effectivePolicy options)).map headerLine) ++
      response.carried (effectiveSuppression options)

lemma responseWriteWithOptions_ok {opts : Option WriteOptions} {cap : Nat} {out : List UInt8}
    (h : responseWriteWithOptions resp opts cap = .ok out) : ∃ reason, Written resp opts reason out := by
  rw [responseWriteWithOptions] at h
  split at h
  · cases h
  split at h
  · cases h
  rename_i reason hReason
  split at h
  · cases h
  rename_i hType
  split at h
  · cases h
  rename_i hHeaders
  split at h
  · cases h
  split at h
  · cases h
  rename_i length hLen
  have hContent : resp.content.length ≤ sizeMax ∧ (resp.kind = .stream →
      streamValidateAndMeasure resp = .ok length ∧ length = resp.content.length) := by
    split at hLen
    · obtain ⟨hSum, hFits⟩ := streamValidateAndMeasure_ok hLen
      exact ⟨by omega, fun _ => ⟨hLen, hSum⟩⟩
    next hKind =>
      rw [Response.content, if_neg hKind]
      exact ⟨resp.bodySize, fun h => absurd h hKind⟩
  split at h
  · cases h
  rename_i state hState
  cases h
  exact ⟨reason, hReason, Bool.eq_true_of_not_eq_false hType, Bool.eq_true_of_not_eq_false hHeaders, hContent.1,
    fun hKind => (hContent.2 hKind).2 ▸ (hContent.2 hKind).1,
    appendResponse_appends (fun hKind => (hContent.2 hKind).2) reason _ _ _ state () hState⟩

end Writer

section ReadingBack

variable {reason : List UInt8}

lemma responseReason_line {status : UInt16} (h : responseReason status = some reason) : 13 ∉ reason := by
  rw [responseReason] at h
  split at h <;> cases h <;> decide

lemma not_mem_of_all {bytes : List UInt8} {test : UInt8 → Bool} {b : UInt8} (h : bytes.all test = true)
    (hTest : test b = false) : b ∉ bytes := by
  intro hMem
  have hTrue := all_eq_true.mp h b hMem
  rw [hTest] at hTrue
  cases hTrue

lemma headersValid_plain {headers : List Header} (h : headersValid headers = true) :
    ∀ hdr ∈ headers, Plain hdr := by
  intro hdr hHdr
  have hValid := all_eq_true.mp h hdr hHdr
  simp only [Bool.and_eq_true, headerNameValid, Bool.not_eq_true', isEmpty_eq_false_iff] at hValid
  obtain ⟨⟨⟨hSome, hName⟩, -⟩, hValue⟩ := hValid
  exact ⟨hSome, not_mem_of_all hName (by decide), not_mem_of_all hName (by decide), not_mem_of_all hValue (by decide)⟩

lemma Plain.of_name {name value : List UInt8} (hName : name ≠ [] ∧ colon ∉ name ∧ 13 ∉ name)
    (hValue : 13 ∉ value) : Plain ⟨name, value⟩ :=
  ⟨hName.1, hName.2.1, hName.2.2, hValue⟩

variable {resp : Response}

lemma http1Headers_plain (hType : contentTypeValid resp.contentType = true)
    (hHeaders : headersValid resp.headers = true) (policy : ConnectionPolicy) :
    ∀ hdr ∈ resp.http1Headers policy, Plain hdr := by
  have hPolicy : 13 ∉ policyText policy := by
    rw [policyText]
    split <;> decide
  simp only [Response.http1Headers, Response.described, mem_cons, mem_append, mem_ite_nil_right, not_mem_nil, or_false]
  rintro hdr (rfl | ⟨-, rfl⟩ | hCustom | ⟨-, rfl⟩)
  · exact .of_name (by decide) hPolicy
  · exact .of_name (by decide) (not_mem_of_all hType (by decide))
  · exact headersValid_plain hHeaders hdr hCustom
  · exact .of_name (by decide) (fun h => (mem_decimal_ne h).1 rfl)

lemma Written.reads {opts : Option WriteOptions} {out : List UInt8} (h : Written resp opts reason out) :
    readMessage out = some ⟨decimal 32 resp.status.toNat, resp.http1Headers (effectivePolicy opts),
      resp.carried (effectiveSuppression opts)⟩ := by
  rw [h.text]
  exact readMessage_block _ (responseReason_line h.reason) (http1Headers_plain h.contentType h.headers _)

end ReadingBack

end Sloppy.Http
