import Sloppy.Http.Response

/-! # The body policy of the dispatcher

Whether a request with a body is dispatched, and the kind of body its handler sees
(`sl_http_dispatch_apply_body_policy`). The JSON reader of the runtime is a parameter.
-/

namespace Sloppy.Dispatch

open Http

inductive BodyDiagCode where
  | httpUnsupportedBody | httpBodyLimit | httpUnsupportedMediaType | malformedJson
  deriving DecidableEq

structure BodyFailure where
  status : StatusCode
  code : BodyDiagCode
  message : String
  hint : String
  deriving DecidableEq

def unsupportedBody : BodyFailure :=
  ⟨.unsupported, .httpUnsupportedBody, "HTTP request body framing is not supported",
    "send a bounded Content-Length body instead of transfer encoding"⟩

def bodyTooLarge : BodyFailure :=
  ⟨.capacityExceeded, .httpBodyLimit, "HTTP request body is too large",
    "keep request bodies within the documented alpha limit"⟩

def unsupportedMediaType : BodyFailure :=
  ⟨.unsupported, .httpUnsupportedMediaType, "HTTP request body content type is not supported",
    "use application/json, text/plain, application/octet-stream, application/x-www-form-urlencoded, or " ++
      "multipart/form-data for bounded request bodies"⟩

def malformedJson : BodyFailure :=
  ⟨.invalidArgument, .malformedJson, "HTTP request JSON body is malformed",
    "send valid JSON or use text/plain for raw text bodies"⟩

variable (headers : List Header)

def findHeader (name : List UInt8) : Option (List UInt8) :=
  (headers.find? fun header => equalCiAscii header.name name).map Header.value

def requestDeclaresTransferEncoding : Bool :=
  headers.any fun header => equalCiAscii header.name (literal "Transfer-Encoding")

def requestTransferEncodingChunked : Bool :=
  match findHeader headers (literal "Transfer-Encoding") with
  | none => false
  | some value => equalCiAscii (trimAsciiSpace value) (literal "chunked")

/-- Unlike the backend's test, any text between the two parts will do, and none. -/
def mediaTypeJson (media : List UInt8) : Bool :=
  equalCiAscii media (literal "application/json") ||
    (startsWithCiAscii media (literal "application/") && endsWithCiAscii media (literal "+json"))

def mediaTypeKind (media : List UInt8) : Option BodyKind :=
  if mediaTypeJson media then some .json
  else if equalCiAscii media (literal "text/plain") then some .text
  else if equalCiAscii media (literal "application/octet-stream") then some .bytes
  else if equalCiAscii media (literal "application/x-www-form-urlencoded") then some .form
  else if equalCiAscii media (literal "multipart/form-data") then some .multipart
  else none

def emptyBodyKind (media : List UInt8) : BodyKind :=
  if mediaTypeJson media then .json
  else if equalCiAscii media (literal "application/x-www-form-urlencoded") then .form
  else if equalCiAscii media (literal "multipart/form-data") then .multipart
  else .none

/-- The head declares no length, or a blank one. -/
def lacksContentLength : Bool :=
  match findHeader headers (literal "Content-Length") with
  | none => true
  | some value => trimAsciiSpace value == []

def applyBodyPolicy (validJson : List UInt8 → Bool) (request : RequestHead) (maxBodyLength : Nat)
    (jsonBodyExpected nativeJsonValidation : Bool) : Except BodyFailure BodyKind :=
  let limit := orDefault maxBodyLength defaultParseOptions.maxBodyLength
  if requestDeclaresTransferEncoding request.headers && !requestTransferEncodingChunked request.headers then
    .error unsupportedBody
  else if request.body.length = 0 then
    match findHeader request.headers (literal "Content-Type") with
    | none => .ok .none
    | some contentType =>
      if jsonBodyExpected && !mediaTypeJson (mediaType contentType) then .error unsupportedMediaType
      else .ok (emptyBodyKind (mediaType contentType))
  else if !requestTransferEncodingChunked request.headers && lacksContentLength request.headers then
    .error unsupportedBody
  else if request.body.length > limit then .error bodyTooLarge
  else
    match findHeader request.headers (literal "Content-Type") with
    | none => .error unsupportedMediaType
    | some contentType =>
      if jsonBodyExpected && !mediaTypeJson (mediaType contentType) then .error unsupportedMediaType
      else
        match mediaTypeKind (mediaType contentType) with
        | none => .error unsupportedMediaType
        | some kind =>
          if kind = .json ∧ nativeJsonValidation = false ∧ validJson request.body = false then .error malformedJson
          else .ok kind

end Sloppy.Dispatch
