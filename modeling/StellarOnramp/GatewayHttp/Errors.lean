import StellarOnramp.Gateway.Issuance
import StellarOnramp.Library.Json

/-! What a handler throws, and the answer that the transport makes of it. -/

namespace StellarOnramp.GatewayHttp

open Attempts JsText Octets
open StellarOnramp.Identity StellarOnramp.Gateway

structure HttpError where
  status : Nat
  code : JsString
  retriable : Bool
  message : JsString
  deriving DecidableEq

/-- What is thrown, as far as the transport tells it apart. The texts of the other errors are
left out: no answer carries them.
-/
inductive Thrown where
  | http (error : HttpError)
  | kycProvider
  | issuance
  /-- The gate or its epoch could not be read. -/
  | chain
  | unimplemented (what : JsString)
  | unauthorized
  | forbidden
  | subjectMismatch
  | customerNotFound
  | sessionNotApproved
  | other
  deriving DecidableEq

abbrev Handling := Except Thrown

def unimplementedMessage (what : JsString) : JsString :=
  what ++ js " is NOT IMPLEMENTED. The gateway build run defines this surface as a fail-closed "
    ++ js "seam; a production deploy that reaches it gets 501, never a silent fallback to a weaker "
    ++ js "path."

/-- The single mapping of what was thrown. -/
def toHttpError : Thrown → HttpError
  | .http error => error
  | .kycProvider =>
      {
        status := 400
        code := js "kyc_provider_error"
        retriable := false
        message := js "KYC provider refused the request"
      }
  | .issuance =>
      {
        status := 400
        code := js "issuance_error"
        retriable := false
        message := js "credential issuance refused"
      }
  | .chain =>
      {
        status := 503
        code := js "chain_unavailable"
        retriable := true
        message := js "the on-chain gateway is refusing or unreachable"
      }
  | .unimplemented what =>
      {
        status := 501
        code := js "not_implemented"
        retriable := false
        message := unimplementedMessage what
      }
  | .unauthorized =>
      {
        status := 401
        code := js "unauthorized"
        retriable := false
        message := js "authentication required"
      }
  | .forbidden =>
      {
        status := 403
        code := js "forbidden"
        retriable := false
        message := js "insufficient permissions"
      }
  | .subjectMismatch =>
      {
        status := 403
        code := js "subject_mismatch"
        retriable := false
        message := js "token subject does not match the addressed account"
      }
  | .customerNotFound =>
      {
        status := 404
        code := js "not_found"
        retriable := false
        message := js "no such customer"
      }
  | .sessionNotApproved =>
      {
        status := 409
        code := js "session_not_approved"
        retriable := false
        message := js "the session is not approved; a credential cannot be issued for it yet"
      }
  | .other =>
      {
        status := 500
        code := js "internal_error"
        retriable := true
        message := js "internal error"
      }

/-- A failure of the status lists or of the identity package has no class of its own here. -/
def ofAttempt {α : Type} (attempt : Attempt α) : Handling α :=
  attempt.mapError (fun _ => .other)

/-- Of the failures of issuing only the refusals of the issuing code have a class. -/
def ofIssuing {α : Type} (issuing : Issuing α) : Handling α :=
  issuing.mapError
    (fun
    | .issuance => .issuance
    | _ => .other)

theorem ofIssuing_eq_ok {α : Type} {issuing : Issuing α} {value : α}
    : ofIssuing issuing = .ok value ↔ issuing = .ok value := by
  cases issuing <;> simp [ofIssuing, Except.mapError]

-----------------------------------------------------------------------------------------
-- Answers
-----------------------------------------------------------------------------------------

structure Response where
  status : Nat
  /-- The `allow` header. -/
  allow : Option JsString
  requestId : JsString
  /-- What `JSON.stringify` is given. -/
  body : Json.Value

def writeJson (requestId : JsString) (status : Nat) (body : Json.Value) : Response :=
  { status, allow := none, requestId, body }

def errorBody (error : HttpError) (requestId : JsString) : Json.Value :=
  .object
    [
      (js "error",
        .object
          [
            (js "code", .string error.code),
            (js "message", .string error.message),
            (js "requestId", .string requestId)
          ])
    ]

def writeError (requestId : JsString) (error : HttpError) : Response :=
  writeJson requestId error.status (errorBody error requestId)

end StellarOnramp.GatewayHttp
