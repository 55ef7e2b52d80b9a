import Sloppy.Http.Wire

/-! # The head of an HTTP/1 response

A recipient cuts the text at the first empty line, the head at its line ends and each header line at the first colon
and blank. For every response that the writer accepts this gives back what the response was made of.
-/

namespace Sloppy.Http

open Lib.Decimal Lib.Lines List

/-- The head, and what follows the first empty line. -/
def splitHead (text : List UInt8) : Option (List UInt8 × List UInt8) := splitFirst (crlf ++ crlf) text

def headLines (head : List UInt8) : List (List UInt8) := splitAll crlf head.length head

def cutHeader (line : List UInt8) : Option Header :=
  (splitFirst (literal ": ") line).map fun cut => ⟨cut.1, cut.2⟩

lemma cutHeader_headerLine {hdr : Header} (hName : colon ∉ hdr.name) : cutHeader (headerLine hdr) = some hdr := by
  have hLine : headerLine hdr = hdr.name ++ (colon :: [space] ++ hdr.value) := append_assoc ..
  have hCut : splitFirst (literal ": ") (headerLine hdr) = some (hdr.name, hdr.value) := by
    rw [hLine]
    refine (splitFirst_append hName _).trans ?_
    refine (congrArg (Option.map _) (splitFirst_pattern _)).trans ?_
    rw [Option.map_some, append_nil]
  rw [cutHeader, hCut]
  rfl

def valuesNamed (name : List UInt8) (headers : List Header) : List (List UInt8) :=
  (headers.filter fun header => equalCiAscii header.name name).map Header.value

structure Recovered (response : Response) (options : Option WriteOptions) (out : List UInt8) : Prop where
  /-- the body follows the first empty line; the lines before it are the status line and the headers -/
  parts : ∃ reason head, responseReason response.status = some reason ∧
    splitHead out = some (head, response.carried (effectiveSuppression options)) ∧
    headLines head = statusLine response.status reason ::
      (response.http1Headers (effectivePolicy options)).map headerLine ∧
    (headLines head).tail.map cutHeader = (response.http1Headers (effectivePolicy options)).map some
  /-- one length, that of the content, unless the status goes without content -/
  length : valuesNamed (literal "Content-Length") (response.http1Headers (effectivePolicy options)) =
    if statusHasNoBody response.status then [] else [decimal 32 response.content.length]
  /-- the head is the same whether the body is suppressed or not -/
  sameHead : ∀ other capacity text, effectivePolicy other = effectivePolicy options →
    responseWriteWithOptions response other capacity = .ok text →
    (splitHead text).map Prod.fst = (splitHead out).map Prod.fst

lemma headersValid_unmanaged {headers : List Header} (h : headersValid headers = true) :
    ∀ hdr ∈ headers, equalCiAscii hdr.name (literal "Content-Length") = false := by
  intro hdr hHdr
  have hValid := all_eq_true.mp h hdr hHdr
  simp only [Bool.and_eq_true, Bool.not_eq_true', headerManaged, Bool.or_eq_false_iff] at hValid
  exact hValid.1.2.2

variable {resp : Response}

lemma valuesNamed_http1Headers (hHeaders : headersValid resp.headers = true) (policy : ConnectionPolicy) :
    valuesNamed (literal "Content-Length") (resp.http1Headers policy) =
      if statusHasNoBody resp.status then [] else [decimal 32 resp.content.length] := by
  have hCustom : resp.headers.filter (fun hdr => equalCiAscii hdr.name (literal "Content-Length")) = [] := by
    rw [filter_eq_nil_iff]
    intro hdr hHdr
    rw [headersValid_unmanaged hHeaders hdr hHdr]
    exact Bool.false_ne_true
  rw [valuesNamed, Response.http1Headers, Response.described,
    filter_cons_of_neg (by exact Bool.false_ne_true), filter_append, filter_append,
    hCustom]
  have hTypeNone : (if resp.contentType.length != 0 && !statusHasNoBody resp.status
      then [⟨literal "Content-Type", resp.contentType⟩] else [] : List Header).filter
        (fun hdr => equalCiAscii hdr.name (literal "Content-Length")) = [] := by
    split
    · rw [filter_cons_of_neg (by exact Bool.false_ne_true), filter_nil]
    · rfl
  rw [hTypeNone]
  cases statusHasNoBody resp.status with
  | true => rfl
  | false =>
    rfl

variable {opts : Option WriteOptions}

lemma Written.splitHead {reason out : List UInt8} (h : Written resp opts reason out) :
    Http.splitHead out = some (joined (statusLine resp.status reason ::
      (resp.http1Headers (effectivePolicy opts)).map headerLine),
      resp.carried (effectiveSuppression opts)) := by
  rw [h.text]
  apply splitFirst_block
  simp only [mem_cons, mem_map]
  rintro line (rfl | ⟨hdr, hHdr, rfl⟩)
  · exact statusLine_line _ (responseReason_line h.reason)
  · exact headerLine_line (http1Headers_plain h.contentType h.headers _ hdr hHdr)

lemma Written.headLines {reason out : List UInt8} (h : Written resp opts reason out) :
    Http.headLines (joined (statusLine resp.status reason ::
      (resp.http1Headers (effectivePolicy opts)).map headerLine)) =
      statusLine resp.status reason :: (resp.http1Headers (effectivePolicy opts)).map headerLine := by
  apply splitAll_joined
  · simp only [mem_cons, mem_map]
    rintro line (rfl | ⟨hdr, hHdr, rfl⟩)
    · exact (statusLine_line _ (responseReason_line h.reason)).2
    · exact (headerLine_line (http1Headers_plain h.contentType h.headers _ hdr hHdr)).2
  · exact length_le_length_joined _ _

/-- Every response that is written is recovered from its bytes. -/
theorem recovered_of_write (response : Response) (options : Option WriteOptions) (capacity : Nat)
    (out : List UInt8) (h : responseWriteWithOptions response options capacity = .ok out) :
    Recovered response options out := by
  obtain ⟨reason, hWritten⟩ := responseWriteWithOptions_ok h
  constructor
  · refine ⟨reason, _, hWritten.reason, hWritten.splitHead, hWritten.headLines, ?_⟩
    rw [hWritten.headLines, tail_cons, map_map]
    apply map_congr_left
    intro header hHeader
    exact cutHeader_headerLine (http1Headers_plain hWritten.contentType hWritten.headers _ header hHeader).2.1
  · exact valuesNamed_http1Headers hWritten.headers _
  · intro other room text hPolicy hText
    obtain ⟨phrase, hOther⟩ := responseWriteWithOptions_ok hText
    have hPhrase : phrase = reason := Option.some.inj (hOther.reason.symm.trans hWritten.reason)
    rw [hOther.splitHead, hWritten.splitHead, hPolicy, hPhrase]
    rfl

lemma twoLines_size : (literal "one\r\n\r\ntwo").length ≤ sizeMax := by decide

/-- The body looks like the end of a head. -/
def textResponse (status : UInt16) : Response where
  status := status
  kind := .text
  contentType := literal "text/plain"
  headers := [⟨literal "x-id", literal "7"⟩]
  body := literal "one\r\n\r\ntwo"
  streamChunks := []
  bodySize := twoLines_size
  chunkSizes := noChunks_sizes

theorem recovered_of_write_text :
    ∃ out, responseWriteWithOptions (textResponse 200) none 256 = .ok out ∧ Recovered (textResponse 200) none out := by
  obtain ⟨out, hOut, -⟩ := @exists_ok _ _ (responseWriteWithOptions (textResponse 200) none 256)
    (fun _ => true) (by decide +kernel)
  exact ⟨out, hOut, recovered_of_write (textResponse 200) none 256 out hOut⟩

/-- A 204 response declares neither the type it was given nor a length. -/
theorem noContent_declares_nothing : (responseWriteWithOptions (textResponse 204) none 256).toOption.bind splitHead =
      some (literal "HTTP/1.1 204 No Content\r\nConnection: close\r\nx-id: 7", []) := by
  decide +kernel

end Sloppy.Http
