import Mathlib.Data.List.DropRight
import Sloppy.Core.Plan
import Sloppy.Core.Growing
import Sloppy.Lib.Action
import Sloppy.Lib.Decimal

/-! # HTTP messages and their writer

Headers, request heads and the limits of the parser (`http.h`), and the response record with the writer of its HTTP/1.1
text into a buffer of fixed size (`http_response.c`). The buffer is a builder by its content.
-/

namespace Sloppy.Http

open Growing Lib Lib.Decimal List

def literal (text : String) : List UInt8 := ascii text.toList

structure Header where
  name : List UInt8
  value : List UInt8
  deriving DecidableEq

structure RequestHead where
  method : HttpMethod
  versionMajor : Nat
  versionMinor : Nat
  path : List UInt8
  rawTarget : List UInt8
  headers : List Header
  body : List UInt8
  deriving DecidableEq

def RequestHead.zero : RequestHead := ⟨.unknown, 0, 0, [], [], [], []⟩

structure ParseOptions where
  maxHeaders : Nat
  maxRequestLineLength : Nat
  maxTargetLength : Nat
  maxHeaderNameLength : Nat
  maxHeaderValueLength : Nat
  maxTotalHeaderBytes : Nat
  maxBodyLength : Nat
  deriving DecidableEq

def defaultParseOptions : ParseOptions where
  maxHeaders := 32
  maxRequestLineLength := 4096
  maxTargetLength := 2048
  maxHeaderNameLength := 256
  maxHeaderValueLength := 8192
  maxTotalHeaderBytes := 16384
  maxBodyLength := 65536

def orDefault (configured default : Nat) : Nat := if configured = 0 then default else configured

/-- Limits of zero stand for the defaults; a limit of zero headers permits none. -/
def effectiveParseOptions (options : ParseOptions) : ParseOptions where
  maxHeaders := options.maxHeaders
  maxRequestLineLength := orDefault options.maxRequestLineLength defaultParseOptions.maxRequestLineLength
  maxTargetLength := orDefault options.maxTargetLength defaultParseOptions.maxTargetLength
  maxHeaderNameLength := orDefault options.maxHeaderNameLength defaultParseOptions.maxHeaderNameLength
  maxHeaderValueLength := orDefault options.maxHeaderValueLength defaultParseOptions.maxHeaderValueLength
  maxTotalHeaderBytes := orDefault options.maxTotalHeaderBytes defaultParseOptions.maxTotalHeaderBytes
  maxBodyLength := orDefault options.maxBodyLength defaultParseOptions.maxBodyLength

inductive BodyKind where
  | none | json | text | bytes | form | multipart
  deriving DecidableEq

def asciiLower (b : UInt8) : UInt8 := if b - 'A'.toUInt8 ≤ 25 then b ||| 32 else b

def equalCiAscii (left right : List UInt8) : Bool := left.map asciiLower == right.map asciiLower

lemma equalCiAscii_of_lower {name other : List UInt8} (h : other.map asciiLower = name.map asciiLower)
    (text : List UInt8) : equalCiAscii text other = equalCiAscii text name := by
  rw [equalCiAscii, equalCiAscii, h]

def startsWithCiAscii (text start : List UInt8) : Bool :=
  decide (start.length ≤ text.length) && equalCiAscii (text.take start.length) start

def endsWithCiAscii (text ending : List UInt8) : Bool :=
  decide (ending.length ≤ text.length) && equalCiAscii (text.drop (text.length - ending.length)) ending

lemma startsWithCiAscii_of_lower {text other : List UInt8} (h : text.map asciiLower = other.map asciiLower)
    (start : List UInt8) : startsWithCiAscii text start = startsWithCiAscii other start := by
  have hLen := congrArg List.length h
  rw [length_map, length_map] at hLen
  rw [startsWithCiAscii, startsWithCiAscii, equalCiAscii, equalCiAscii, map_take, map_take, h, hLen]

lemma endsWithCiAscii_of_lower {text other : List UInt8} (h : text.map asciiLower = other.map asciiLower)
    (ending : List UInt8) : endsWithCiAscii text ending = endsWithCiAscii other ending := by
  have hLen := congrArg List.length h
  rw [length_map, length_map] at hLen
  rw [endsWithCiAscii, endsWithCiAscii, equalCiAscii, equalCiAscii, map_drop, map_drop, h, hLen]

def isBlank (b : UInt8) : Bool := b == ' '.toUInt8 || b == '\t'.toUInt8

def trimAsciiSpace (text : List UInt8) : List UInt8 := ((text.dropWhile isBlank).reverse.dropWhile isBlank).reverse

lemma isBlank_of_trimAsciiSpace {text : List UInt8} (h : trimAsciiSpace text = []) : ∀ b ∈ text, isBlank b = true := by
  rw [trimAsciiSpace, reverse_eq_nil_iff, dropWhile_eq_nil_iff] at h
  have hRest : text.dropWhile isBlank = [] := by
    rw [← dropWhile_idempotent, dropWhile_eq_nil_iff]
    exact fun b hb => h b (mem_reverse.mpr hb)
  exact dropWhile_eq_nil_iff.mp hRest

def mediaType (contentType : List UInt8) : List UInt8 :=
  trimAsciiSpace (contentType.takeWhile (· != ';'.toUInt8))

inductive ResponseKind where
  | text | json | empty | problem | stream | bytes
  deriving DecidableEq

structure Response where
  status : UInt16
  kind : ResponseKind
  contentType : List UInt8
  headers : List Header
  body : List UInt8
  streamChunks : List (List UInt8)
  bodySize : body.length ≤ sizeMax
  chunkSizes : ∀ chunk ∈ streamChunks, chunk.length ≤ sizeMax

lemma noChunks_sizes : ∀ chunk ∈ ([] : List (List UInt8)), chunk.length ≤ sizeMax := List.forall_mem_nil _

inductive ConnectionPolicy where
  | close | keepAlive
  | other (value : Nat)
  deriving DecidableEq

structure WriteOptions where
  connection : ConnectionPolicy
  suppressBody : Bool
  deriving DecidableEq

def responseReason (status : UInt16) : Option (List UInt8) :=
  match status.toNat with
  | 200 => some (literal "OK")
  | 201 => some (literal "Created")
  | 202 => some (literal "Accepted")
  | 204 => some (literal "No Content")
  | 304 => some (literal "Not Modified")
  | 400 => some (literal "Bad Request")
  | 401 => some (literal "Unauthorized")
  | 403 => some (literal "Forbidden")
  | 404 => some (literal "Not Found")
  | 405 => some (literal "Method Not Allowed")
  | 408 => some (literal "Request Timeout")
  | 413 => some (literal "Payload Too Large")
  | 415 => some (literal "Unsupported Media Type")
  | 417 => some (literal "Expectation Failed")
  | 500 => some (literal "Internal Server Error")
  | 503 => some (literal "Service Unavailable")
  | 501 => some (literal "Not Implemented")
  | _ => none

def statusHasNoBody (status : UInt16) : Bool := status == 204 || status == 304

def measureChunks (noBody : Bool) : Nat → List (List UInt8) → Except StatusCode Nat
  | total, [] => .ok total
  | total, chunk :: rest =>
    if chunk.length ≠ 0 ∧ noBody = true then .error .invalidArgument
    else
      match checkedAddSize total chunk.length with
      | .error code => .error code
      | .ok total => measureChunks noBody total rest

def streamValidateAndMeasure (response : Response) : Except StatusCode Nat :=
  if response.kind ≠ .stream then .error .invalidArgument
  else measureChunks (statusHasNoBody response.status) 0 response.streamChunks

def contentTypeValid (contentType : List UInt8) : Bool := contentType.all fun b => !(b < 0x20 || b == 0x7F)

def headerNameSymbols : List UInt8 := literal "!#$%&'*+-.^_\x60|~"

def headerNameCharValid (b : UInt8) : Bool :=
  ('A'.toUInt8 ≤ b && b ≤ 'Z'.toUInt8) || ('a'.toUInt8 ≤ b && b ≤ 'z'.toUInt8) ||
    ('0'.toUInt8 ≤ b && b ≤ '9'.toUInt8) || headerNameSymbols.contains b

def headerNameValid (name : List UInt8) : Bool := !name.isEmpty && name.all headerNameCharValid

def headerValueValid (value : List UInt8) : Bool :=
  value.all fun b => !((b < 0x20 && b != '\t'.toUInt8) || b == 0x7F)

def headerManaged (name : List UInt8) : Bool :=
  equalCiAscii name (literal "Connection") || equalCiAscii name (literal "Keep-Alive") ||
    equalCiAscii name (literal "Content-Type") || equalCiAscii name (literal "Transfer-Encoding") ||
    equalCiAscii name (literal "Content-Length")

def headersValid (headers : List Header) : Bool :=
  headers.all fun header =>
    headerNameValid header.name && !headerManaged header.name && headerValueValid header.value

def connectionPolicyValid (policy : ConnectionPolicy) : Bool := policy == .close || policy == .keepAlive

def appendStr (text : List UInt8) : Action BuilderState StatusCode Unit :=
  fun state => Growing.byteBuilderAppendBytes state text

def appendSize (value : Nat) : Action BuilderState StatusCode Unit :=
  fun state => byteBuilderAppendAll state ((decimal 32 value).map fun digit => [digit])

def appendStatusLine (status : UInt16) (reason : List UInt8) (policy : ConnectionPolicy) :
    Action BuilderState StatusCode Unit := do
  appendStr (literal "HTTP/1.1 ")
  appendSize status.toNat
  appendStr (literal " ")
  appendStr reason
  appendStr (literal "\r\nConnection: ")
  appendStr (if policy = .keepAlive then literal "keep-alive" else literal "close")
  appendStr (literal "\r\n")

def appendContentType (contentType : List UInt8) : Action BuilderState StatusCode Unit := do
  appendStr (literal "Content-Type: ")
  appendStr contentType
  appendStr (literal "\r\n")

def appendCustomHeaders : List Header → Action BuilderState StatusCode Unit
  | [] => pure ()
  | header :: rest => do
    appendStr header.name
    appendStr (literal ": ")
    appendStr header.value
    appendStr (literal "\r\n")
    appendCustomHeaders rest

def appendContentLength (bodyLength : Nat) : Action BuilderState StatusCode Unit := do
  appendStr (literal "Content-Length: ")
  appendSize bodyLength
  appendStr (literal "\r\n")

def appendStreamBody : List (List UInt8) → Action BuilderState StatusCode Unit
  | [] => pure ()
  | chunk :: rest =>
    if chunk.length = 0 then appendStreamBody rest
    else do
      appendStr chunk
      appendStreamBody rest

def appendHead (response : Response) (reason : List UInt8) (policy : ConnectionPolicy)
    (hasContentType : Bool) (bodyLength : Nat) : Action BuilderState StatusCode Unit := do
  appendStatusLine response.status reason policy
  Action.onlyIf hasContentType (appendContentType response.contentType)
  appendCustomHeaders response.headers
  Action.onlyIf (!statusHasNoBody response.status) (appendContentLength bodyLength)
  appendStr (literal "\r\n")

def appendResponse (response : Response) (reason : List UInt8) (policy : ConnectionPolicy)
    (suppressBody : Bool) (streamBodyLength : Nat) : Action BuilderState StatusCode Unit :=
  let isStream := response.kind == .stream
  let noBody := statusHasNoBody response.status
  let body := if noBody then [] else response.body
  let wireBody := if suppressBody || isStream then [] else body
  let hasContentType := response.contentType.length != 0 && !noBody
  do
    appendHead response reason policy hasContentType (if isStream then streamBodyLength else body.length)
    if isStream && !suppressBody && !noBody then appendStreamBody response.streamChunks
    else appendStr wireBody

def effectivePolicy (options : Option WriteOptions) : ConnectionPolicy :=
  (options.map WriteOptions.connection).getD .close

def effectiveSuppression (options : Option WriteOptions) : Bool :=
  (options.map WriteOptions.suppressBody).getD false

def responseWriteWithOptions (response : Response) (options : Option WriteOptions) (capacity : Nat) :
    Except StatusCode (List UInt8) :=
  if capacity = 0 then .error .invalidArgument
  else
    match responseReason response.status with
    | none => .error .unsupported
    | some reason =>
      if contentTypeValid response.contentType = false then .error .invalidArgument
      else if headersValid response.headers = false then .error .invalidArgument
      else if connectionPolicyValid (effectivePolicy options) = false then .error .invalidArgument
      else
        match if response.kind = .stream then streamValidateAndMeasure response else .ok 0 with
        | .error code => .error code
        | .ok streamBodyLength =>
          match appendResponse response reason (effectivePolicy options) (effectiveSuppression options)
            streamBodyLength ⟨⟨[], capacity, capacity, .fixed⟩, ⟨0, 0, 0, 0, 0⟩⟩ with
          | (_, .error code) => .error code
          | (state, .ok ()) => .ok state.builder.content

end Sloppy.Http
