import Sloppy.Codec.Percent
import Sloppy.Http.Response
import Sloppy.Lib.Lines

/-! # Responses of the HTTP/1 client

`parseHttpResponse`, `parseHttpChunkedBody` and `readHttpResponse` of `net.js`. The head is a text with one
character for each byte. What the connection delivers is a list of reads; a read that throws ends it.
-/

namespace Sloppy.HttpClient

open Http (literal Header)
open Lib.Decimal (readDecimal)
open Lib.Lines

structure ClientError where
  name : String
  code : String
  message : String
  deriving DecidableEq

def malformed (message : String) : ClientError :=
  ⟨"HttpClientMalformedResponseError", "SLOPPY_E_HTTP_CLIENT_MALFORMED_RESPONSE", message⟩

def responseLimit (message : String) : ClientError :=
  ⟨"HttpClientResponseLimitError", "SLOPPY_E_HTTP_CLIENT_RESPONSE_BODY_LIMIT", message⟩

def bodyLimit : ClientError := responseLimit "HTTP response body exceeded the configured limit."

def headerLimit : ClientError :=
  ⟨"HttpClientHeaderLimitError", "SLOPPY_E_HTTP_CLIENT_MALFORMED_RESPONSE",
    "HTTP response headers exceeded the configured limit."⟩

/-! ## Texts -/

def lower (b : UInt8) : UInt8 :=
  if (65 ≤ b ∧ b ≤ 90) ∨ (192 ≤ b ∧ b ≤ 222 ∧ b ≠ 215) then b + 32 else b

def toLowerCase (text : List UInt8) : List UInt8 := text.map lower

def isWhiteSpace (b : UInt8) : Bool := (9 ≤ b && b ≤ 13) || b == 32 || b == 160

def trimStart (text : List UInt8) : List UInt8 := text.dropWhile isWhiteSpace

def trim (text : List UInt8) : List UInt8 := ((trimStart text).reverse.dropWhile isWhiteSpace).reverse

def isDigit (b : UInt8) : Bool := 48 ≤ b && b ≤ 57

def httpConnectionHeaderHas (value token : List UInt8) : Bool :=
  (value.splitOn ','.toUInt8).any fun part => toLowerCase (trim part) == token

def findHttpHeaderEnd (bytes : List UInt8) : Option Nat :=
  (splitFirst (crlf ++ crlf) bytes).map fun split => split.1.length + 4

/-! ## The chunked coding -/

/-- The number before the first semicolon; a longer one than a double holds exactly is out of range. -/
def chunkSize (line : List UInt8) : Option Nat :=
  ((trim (line.takeWhile (· != ';'.toUInt8))).mapM Percent.hexValue).bind fun digits =>
    if digits = [] then none else some (digits.foldl (fun value digit => value * 16 + digit) 0)

def maxSafeInteger : Nat := 2 ^ 53 - 1

def incompleteHttpChunk (complete : Bool) (message : String) : Except ClientError (Option (List UInt8)) :=
  if complete then .error (malformed message) else .ok none

def parseChunks (maxResponseBytes : Nat) (complete : Bool) :
    Nat → List UInt8 → List UInt8 → Except ClientError (Option (List UInt8))
  | 0, _, _ => .ok none
  | fuel + 1, bytes, decoded =>
    match splitLine bytes with
    | none => incompleteHttpChunk complete "HTTP chunked response ended before a chunk size."
    | some (sizeLine, rest) =>
      match chunkSize sizeLine with
      | none => .error (malformed "HTTP chunked response chunk size is malformed.")
      | some size =>
        if size > maxSafeInteger then .error bodyLimit
        else if size = 0 then
          if rest.length < 2 then incompleteHttpChunk complete "HTTP chunked response ended before trailers."
          else if rest.take 2 = crlf then .ok (some decoded)
          else
            match findHttpHeaderEnd rest with
            | none => incompleteHttpChunk complete "HTTP chunked response trailers are incomplete."
            | some _ => .ok (some decoded)
        else if decoded.length + size > maxResponseBytes then .error bodyLimit
        else if rest.length < size + 2 then
          incompleteHttpChunk complete "HTTP chunked response ended before a complete chunk."
        else if (rest.drop size).take 2 ≠ crlf then
          .error (malformed "HTTP chunked response chunk terminator is malformed.")
        else parseChunks maxResponseBytes complete fuel (rest.drop (size + 2)) (decoded ++ rest.take size)

def parseHttpChunkedBody (bodyBytes : List UInt8) (maxResponseBytes : Nat) (complete : Bool) :
    Except ClientError (Option (List UInt8)) :=
  parseChunks maxResponseBytes complete (bodyBytes.length + 1) bodyBytes []

/-! ## The head -/

structure StatusLine where
  minor : Nat
  status : Nat
  text : List UInt8
  deriving DecidableEq

/-- The match of `/^HTTP\/1\.([01]) ([0-9]{3})(?: (.*))?$/`. -/
def matchStatusLine (line : List UInt8) : Option StatusLine :=
  match line.drop 7 with
  | minor :: blank :: a :: b :: c :: rest =>
    if line.take 7 = literal "HTTP/1." ∧ (minor = 48 ∨ minor = 49) ∧ blank = 32 ∧ [a, b, c].all isDigit = true ∧
        (rest = [] ∨ rest.head? = some 32 ∧ 10 ∉ rest ∧ 13 ∉ rest) then
      some ⟨minor.toNat - 48, readDecimal [a, b, c], rest.drop 1⟩
    else none
  | _ => none

structure Head where
  line : StatusLine
  headers : List Header
  contentLength : Option Nat
  transferEncoding : Option (List UInt8)
  connection : List UInt8
  deriving DecidableEq

def contentLengthName : List UInt8 := literal "content-length"

def transferEncodingName : List UInt8 := literal "transfer-encoding"

def connectionName : List UInt8 := literal "connection"

def Head.add (head : Head) (name value : List UInt8) : Head where
  line := head.line
  headers := head.headers ++ [⟨name, value⟩]
  contentLength := if toLowerCase name = contentLengthName then some (readDecimal value) else head.contentLength
  transferEncoding :=
    if toLowerCase name = transferEncodingName then some (toLowerCase value) else head.transferEncoding
  connection := if toLowerCase name = connectionName then toLowerCase value else head.connection

def readHeaderLine (head : Head) (line : List UInt8) : Except ClientError Head :=
  if line = [] then .ok head
  else
    let name := line.takeWhile (· != ':'.toUInt8)
    let value := trimStart (line.drop (name.length + 1))
    if name = [] ∨ ':'.toUInt8 ∉ line then .error (malformed "HTTP response header is malformed.")
    else if toLowerCase name = contentLengthName ∧ ¬(value ≠ [] ∧ value.all isDigit = true) then
      .error (malformed "HTTP response Content-Length is malformed.")
    else .ok (head.add name value)

def readHeaderLines (head : Head) : List (List UInt8) → Except ClientError Head
  | [] => .ok head
  | line :: lines =>
    match readHeaderLine head line with
    | .error failure => .error failure
    | .ok next => readHeaderLines next lines

def parseHead (headBytes : List UInt8) : Except ClientError Head :=
  let lines := splitAll crlf headBytes.length headBytes
  match matchStatusLine (lines.headD []) with
  | none => .error (malformed "HTTP response status line is malformed.")
  | some line => readHeaderLines ⟨line, [], none, none, []⟩ lines.tail

/-! ## The response -/

structure ClientResponse where
  status : Nat
  statusText : List UInt8
  headers : List Header
  body : List UInt8
  connectionReusable : Bool
  deriving DecidableEq

def isInterim (status : Nat) : Bool := 100 ≤ status && status ≤ 199

def isHttpBodyForbiddenStatus (status : Nat) : Bool := isInterim status || status == 204 || status == 304

def bodyForbidden (method : String) (status : Nat) : Bool := method == "HEAD" || isHttpBodyForbiddenStatus status

def Head.connectionReusable (head : Head) : Bool :=
  if head.line.minor = 1 then !httpConnectionHeaderHas head.connection (literal "close")
  else httpConnectionHeaderHas head.connection (literal "keep-alive")

def Head.respond (head : Head) (body : List UInt8) (connectionReusable : Bool) : ClientResponse :=
  ⟨head.line.status, head.line.text, head.headers, body, connectionReusable⟩

def frameResponse (head : Head) (bodyBytes : List UInt8) (maxResponseBytes : Nat) (complete : Bool) (method : String) :
    Except ClientError (Option ClientResponse) :=
  let connectionReusable := !complete && head.connectionReusable
  if bodyForbidden method head.line.status then
    let announced := isHttpBodyForbiddenStatus head.line.status &&
      (head.contentLength.any (0 < ·) || head.transferEncoding.isSome)
    .ok (some (head.respond [] (connectionReusable && !announced && bodyBytes.isEmpty)))
  else if head.transferEncoding = some (literal "chunked") then
    match parseHttpChunkedBody bodyBytes maxResponseBytes complete with
    | .error failure => .error failure
    | .ok none => .ok none
    | .ok (some decoded) => .ok (some (head.respond decoded connectionReusable))
  else if head.transferEncoding ≠ none ∧ head.transferEncoding ≠ some (literal "identity") then
    .error (malformed "HTTP response Transfer-Encoding is not supported by this HTTP client.")
  else
    match head.contentLength with
    | some contentLength =>
      if contentLength > maxResponseBytes then .error bodyLimit
      else if bodyBytes.length < contentLength then
        if complete then
          .error (malformed "HTTP response ended before the declared Content-Length body was fully received.")
        else .ok none
      else .ok (some (head.respond (bodyBytes.take contentLength) connectionReusable))
    | none =>
      if bodyBytes.length > maxResponseBytes then .error bodyLimit
      else if complete then .ok (some (head.respond bodyBytes false))
      else .ok none

def parseHttpResponse (headBytes bodyBytes : List UInt8) (maxResponseBytes : Nat) (complete : Bool) (method : String) :
    Except ClientError (Option ClientResponse) :=
  match parseHead headBytes with
  | .error failure => .error failure
  | .ok head => frameResponse head bodyBytes maxResponseBytes complete method

/-! ## Reading -/

structure Limits where
  method : String
  maxHeaderBytes : Nat
  maxResponseBytes : Nat
  deriving DecidableEq

inductive Read where
  | chunk (bytes : List UInt8)
  | failed
  deriving DecidableEq

/-- What a call comes to with the reads given; a response comes with the bytes read and the reads left. -/
inductive Outcome where
  | waiting
  | rejected (error : ClientError)
  | returned (response : ClientResponse) (received : List UInt8) (reads : List Read)
  deriving DecidableEq

def readHttpResponse (limits : Limits) : List UInt8 → Option Nat → List Read → Outcome
  | _, _, [] => .waiting
  | _, none, .failed :: _ => .rejected (malformed "HTTP response ended before a complete head was received.")
  | received, some headerEnd, .failed :: reads =>
    match parseHttpResponse (received.take headerEnd) (received.drop headerEnd) limits.maxResponseBytes true
        limits.method with
    | .error failure => .rejected failure
    | .ok none => .waiting
    | .ok (some response) => .returned response received reads
  | before, _, .chunk bytes :: reads =>
    let received := before ++ bytes
    if received.length > limits.maxHeaderBytes + limits.maxResponseBytes then
      .rejected (responseLimit "HTTP response exceeded the configured limit.")
    else
      match findHttpHeaderEnd received with
      | none =>
        if received.length > limits.maxHeaderBytes then .rejected headerLimit
        else readHttpResponse limits received none reads
      | some headerEnd =>
        if headerEnd > limits.maxHeaderBytes then .rejected headerLimit
        else
          match parseHttpResponse (received.take headerEnd) (received.drop headerEnd) limits.maxResponseBytes false
              limits.method with
          | .error failure => .rejected failure
          | .ok none => readHttpResponse limits received (some headerEnd) reads
          | .ok (some response) => .returned response received reads

/-- A request that was answered on the connection: what was read for it, and what was made of it. -/
structure Exchange where
  limits : Limits
  received : List UInt8
  response : ClientResponse
  deriving DecidableEq

/-- The requests sent on one connection by `sendHttpRequestOnce`, each after the one before it has given the
connection back. -/
def exchanges : List Limits → List Read → List Exchange
  | [], _ => []
  | limits :: requests, reads =>
    match readHttpResponse limits [] none reads with
    | .returned response received rest =>
      ⟨limits, received, response⟩ :: if response.connectionReusable then exchanges requests rest else []
    | _ => []

end Sloppy.HttpClient
