import Sloppy.Codec.Utf8
import Sloppy.Lib.CodeUnits
import Sloppy.Lib.Decimal
import Sloppy.Lib.Lines
import Sloppy.Lib.Framing

/-! # The Redis protocol

Commands as `redis.js` writes them and the parser of the replies. The parser works on the bytes it has
kept: it answers with the value at their front and the bytes behind it, with nothing while bytes are
missing, or with a protocol error.
-/

namespace Sloppy.Redis

open Lib.Decimal Lib.Lines Codec
open Lib.CodeUnits (isSpace)

inductive ErrorCode
  | invalidOptions
  | protocolError
  | connectFailed
  | authFailed
  | commandFailed
  | timeout
  | closed
deriving DecidableEq

structure RedisError where
  code : ErrorCode
  message : String
deriving DecidableEq

def protocolError (message : String) : RedisError := ⟨.protocolError, message⟩

def maxSafeInteger : Nat := 9007199254740991

/-- The limits of the parser, in the range the client options are checked against. -/
structure Limits where
  maxResponseBytes : Nat
  maxArrayItems : Nat
  maxArrayDepth : Nat
  bytesSafe : maxResponseBytes ≤ maxSafeInteger
  itemsSafe : maxArrayItems ≤ maxSafeInteger
  depthPositive : 1 ≤ maxArrayDepth

def defaultLimits : Limits where
  maxResponseBytes := 16 * 1024 * 1024
  maxArrayItems := 1024 * 1024
  maxArrayDepth := 32
  bytesSafe := by decide
  itemsSafe := by decide
  depthPositive := by decide

/-- What the parser hands out; texts are lists of code points. -/
inductive Value
  | text (points : List Nat)
  | errorReply (message code : List Nat)
  | number (value : Int)
  | null
  | bytes (content : List UInt8)
  | array (items : List Value)

def natText (n : Nat) : List UInt8 := decimal (n + 1) n

def intText (n : Int) : List UInt8 := if n < 0 then 45 :: natText n.natAbs else natText n.natAbs

/-- A reply that is an error names its code first; without one the code is `ERR`. -/
def redisErrorReply (message : List Nat) : Value :=
  match message.takeWhile fun point => !isSpace point with
  | [] => .errorReply message [69, 82, 82]
  | code => .errorReply message code

def isDigit (point : Nat) : Bool := decide (48 ≤ point) && decide (point ≤ 57)

def readDigits (digits : List Nat) : Nat := Nat.ofDigits 10 (digits.reverse.map (· - 48))

def safeInteger (value : Int) (subject : String) : Except RedisError Int :=
  if value.natAbs ≤ maxSafeInteger then .ok value
  else .error (protocolError ("Redis protocol " ++ subject ++ " is outside safe integer range."))

def parseDigits (sign : Int) (digits : List Nat) (subject : String) : Except RedisError Int :=
  if digits = [] ∨ digits.all isDigit = false then
    .error (protocolError ("Redis protocol " ++ subject ++ " is malformed."))
  else safeInteger (sign * readDigits digits) subject

def parseIntegerText (text : List Nat) (subject : String) : Except RedisError Int :=
  match text with
  | 45 :: digits => parseDigits (-1) digits subject
  | digits => parseDigits 1 digits subject

def parseLine (bytes : List UInt8) : Option (List Nat × List UInt8) :=
  (splitLine bytes).map fun split => (decodeUtf8 split.1, split.2)

def parseBulk (limits : Limits) (bytes : List UInt8) : Except RedisError (Option (Value × List UInt8)) :=
  match parseLine bytes with
  | none => .ok none
  | some (text, rest) =>
    match parseIntegerText text "bulk length" with
    | .error error => .error error
    | .ok length =>
      if length = -1 then .ok (some (.null, rest))
      else if length < 0 then .error (protocolError "Redis bulk length is malformed.")
      else if limits.maxResponseBytes < length then
        .error (protocolError "Redis bulk response exceeded the configured byte limit.")
      else if rest.length < length.toNat + 2 then .ok none
      else if rest[length.toNat]? ≠ some 13 ∨ rest[length.toNat + 1]? ≠ some 10 then
        .error (protocolError "Redis bulk response is missing CRLF terminator.")
      else .ok (some (.bytes (rest.take length.toNat), rest.drop (length.toNat + 2)))

def parseItems (parse : List UInt8 → Except RedisError (Option (Value × List UInt8))) :
    Nat → List UInt8 → Except RedisError (Option (List Value × List UInt8))
  | 0, bytes => .ok (some ([], bytes))
  | count + 1, bytes =>
    match parse bytes with
    | .error error => .error error
    | .ok none => .ok none
    | .ok (some (value, rest)) =>
      match parseItems parse count rest with
      | .error error => .error error
      | .ok none => .ok none
      | .ok (some (values, last)) => .ok (some (value :: values, last))

def parseArray (limits : Limits) (parse : List UInt8 → Except RedisError (Option (Value × List UInt8)))
    (bytes : List UInt8) : Except RedisError (Option (Value × List UInt8)) :=
  match parseLine bytes with
  | none => .ok none
  | some (text, rest) =>
    match parseIntegerText text "array length" with
    | .error error => .error error
    | .ok length =>
      if length = -1 then .ok (some (.null, rest))
      else if length < 0 ∨ limits.maxArrayItems < length then
        .error (protocolError "Redis array length is outside configured limits.")
      else
        match parseItems parse length.toNat rest with
        | .error error => .error error
        | .ok none => .ok none
        | .ok (some (values, last)) => .ok (some (.array values, last))

/-- The value at the front; the first argument counts the levels of nesting still allowed. -/
def parseAt (limits : Limits) : Nat → List UInt8 → Except RedisError (Option (Value × List UInt8))
  | _, [] => .ok none
  | 0, _ :: _ => .error (protocolError "Redis response exceeded maximum array depth.")
  | levels + 1, kind :: bytes =>
    if kind = 43 then .ok ((parseLine bytes).map fun line => (.text line.1, line.2))
    else if kind = 45 then .ok ((parseLine bytes).map fun line => (redisErrorReply line.1, line.2))
    else if kind = 58 then
      match parseLine bytes with
      | none => .ok none
      | some (text, rest) =>
        match parseIntegerText text "integer" with
        | .error error => .error error
        | .ok value => .ok (some (.number value, rest))
    else if kind = 36 then parseBulk limits bytes
    else if kind = 42 then parseArray limits (parseAt limits levels) bytes
    else .error (protocolError "Redis response prefix is not valid RESP2.")

def feed (limits : Limits) (buffer chunk : List UInt8) : Except RedisError (List UInt8) :=
  if limits.maxResponseBytes < buffer.length + chunk.length then
    .error (protocolError "Redis response exceeded the configured byte limit.")
  else .ok (buffer ++ chunk)

def read (limits : Limits) (buffer : List UInt8) : Except RedisError (Option (Value × List UInt8)) :=
  parseAt limits (limits.maxArrayDepth + 1) buffer

/-- An argument of a command. A number without an integer value is `none`; a string is its code points. -/
inductive Argument
  | string (text : List Nat)
  | number (value : Option Int)
  | bigint (value : Int)
  | bytes (content : List UInt8)
  | other

def encodeInteger (value : Int) : List UInt8 := encodeUtf8 ((intText value).map UInt8.toNat)

def bytesFromArgument : Argument → Except RedisError (List UInt8)
  | .string text => .ok (encodeUtf8 text)
  | .number none => .error ⟨.invalidOptions, "Redis command argument number must be a safe integer."⟩
  | .number (some value) =>
    if value.natAbs ≤ maxSafeInteger then .ok (encodeInteger value)
    else .error ⟨.invalidOptions, "Redis command argument number must be a safe integer."⟩
  | .bigint value => .ok (encodeInteger value)
  | .bytes content => .ok content
  | .other => .error ⟨.invalidOptions, "Redis command argument must be a string, bytes, number, or bigint."⟩

def encodeHead (kind length : Nat) : List UInt8 :=
  encodeUtf8 (kind :: (natText length).map UInt8.toNat ++ [13, 10])

def encodeArguments : List Argument → Except RedisError (List UInt8)
  | [] => .ok []
  | arg :: args =>
    match bytesFromArgument arg with
    | .error error => .error error
    | .ok bytes =>
      match encodeArguments args with
      | .error error => .error error
      | .ok parts => .ok (encodeHead 36 bytes.length ++ bytes ++ encodeUtf8 [13, 10] ++ parts)

def encodeCommand (args : List Argument) : Except RedisError (List UInt8) :=
  if args = [] then .error ⟨.invalidOptions, "Redis command must contain at least a command name."⟩
  else
    match encodeArguments args with
    | .error error => .error error
    | .ok parts => .ok (encodeHead 42 args.length ++ parts)

end Sloppy.Redis
