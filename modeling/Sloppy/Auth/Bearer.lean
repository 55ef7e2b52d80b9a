import Sloppy.Lib.CodeUnits

/-! # The bearer middleware

`jwtMiddleware` of `auth.js`. The rest of the pipeline may throw, return a value or return a promise; a rejected
promise passes the middleware, an error that is thrown at once is taken for one of the verification.
-/

namespace Sloppy.Auth.Bearer

open Lib.CodeUnits

inductive Settled (Value Error : Type) where
  | fulfilled (value : Value)
  | rejected (error : Error)
  | pending
  deriving DecidableEq

/-- What a call of `next` comes to. -/
inductive Downstream (Value Error : Type) where
  | returns (value : Value)
  | throws (error : Error)
  | promises (promise : Settled Value Error)

/-- What `bearerToken` returns: `undefined`, `null` or a text. -/
inductive Token where
  | missing
  | malformed
  | found (token : Text)
  deriving DecidableEq

/-- `[A-Za-z0-9_-]` without regard to case: the long s and the Kelvin sign fold into it. -/
def isTokenUnit (unit : UInt16) : Bool :=
  (65 ≤ unit && unit ≤ 90) || (97 ≤ unit && unit ≤ 122) || (48 ≤ unit && unit ≤ 57) || unit == 95 || unit == 45 ||
    unit == 0x17f || unit == 0x212a

def foldCase (unit : UInt16) : UInt16 := if 65 ≤ unit && unit ≤ 90 then unit + 32 else unit

/-- The header is missing, or it is a text. -/
def bearerToken : Option Text → Token
  | none => .missing
  | some value =>
    let parts := (value.drop 7).splitOn 46
    if value.any (fun unit => unit == 13 || unit == 10 || unit == 44) then .malformed
    else if (value.take 7).map foldCase = asciiText "bearer " ∧ parts.length = 3 ∧
        parts.all (fun part => !part.isEmpty && part.all isTokenUnit) then .found (value.drop 7)
    else .malformed

variable {User Value Error : Type} (verifyJwt : Text → Option User) (unauthorized : String → Value)
  (header : Option Text) (next : Option User → Downstream Value Error)

/-- A promise settles as the value, the error or the promise it was resolved with. -/
def Downstream.outcome : Downstream Value Error → Settled Value Error
  | .returns value => .fulfilled value
  | .throws error => .rejected error
  | .promises promise => promise

/-- `verifyJwt` returns the user, or nothing if it rejects. The argument of `next` is the user set by then. -/
def jwtMiddleware : Settled Value Error :=
  match bearerToken header with
  | .missing => (next none).outcome
  | .malformed => .fulfilled (unauthorized "Bearer")
  | .found token =>
    match (verifyJwt token).map fun user => next (some user) with
    | none | some (.throws _) => .fulfilled (unauthorized "Bearer error=\"invalid_token\"")
    | some answer => answer.outcome

/-- The header is malformed, or its token is rejected. -/
def Refused : Prop :=
  bearerToken header = .malformed ∨ ∃ token, bearerToken header = .found token ∧ verifyJwt token = none

def signedIn : Option User :=
  match bearerToken header with
  | .found token => verifyJwt token
  | .missing | .malformed => none

/-- The middleware answers for itself exactly where it refuses the token. -/
def KeptApart : Prop :=
  (Refused verifyJwt header →
    ∃ challenge, jwtMiddleware verifyJwt unauthorized header next = .fulfilled (unauthorized challenge)) ∧
  (¬Refused verifyJwt header →
    jwtMiddleware verifyJwt unauthorized header next = (next (signedIn verifyJwt header)).outcome)

/-- Authentication errors and those of the application are kept apart exactly when the rest of the pipeline does not
throw at once for an accepted token. -/
theorem kept_apart_iff_no_throw :
    KeptApart verifyJwt unauthorized header next ↔ ∀ token, bearerToken header = .found token →
      ∀ user, verifyJwt token = some user → ∀ error, next (some user) ≠ .throws error := by
  unfold KeptApart Refused jwtMiddleware signedIn
  cases bearerToken header with
  | missing | malformed => simp
  | found token =>
    cases hUser : verifyJwt token with
    | none => simp [hUser]
    | some user => cases hNext : next (some user) <;> simp [hUser, hNext, Downstream.outcome]

theorem throw_answered_unauthorized :
    (jwtMiddleware (fun _ => some ()) id (some (asciiText "Bearer a.b.c")) fun _ => .throws "boom") =
        .fulfilled "Bearer error=\"invalid_token\"" ∧
      ¬KeptApart (fun _ => some ()) id (some (asciiText "Bearer a.b.c")) fun _ => .throws "boom" := by
  have hToken : bearerToken (some (asciiText "Bearer a.b.c")) = .found (asciiText "a.b.c") := by decide +kernel
  refine ⟨by simp [jwtMiddleware, hToken], ?_⟩
  rintro ⟨-, hPassed⟩
  have hOutcome := hPassed (by simp [Refused, hToken])
  simp [jwtMiddleware, hToken, Downstream.outcome] at hOutcome

end Sloppy.Auth.Bearer
