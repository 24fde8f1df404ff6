import Mathlib.Logic.Function.Basic
import StellarOnramp.Identity.Binding
import StellarOnramp.GatewayHttp.Routing

/-! The session store, and what the handlers read of a request body. -/

namespace StellarOnramp.GatewayHttp

open Attempts JsText Octets
open StellarOnramp.Identity StellarOnramp.Gateway

-----------------------------------------------------------------------------------------
-- The store
-----------------------------------------------------------------------------------------

inductive SessionStatus where
  | pending
  | approved
  | rejected
  deriving DecidableEq

structure SessionRecord where
  sessionId : JsString
  walletCAddr : JsString
  status : SessionStatus
  createdAtSeconds : Number
  deriving DecidableEq

/-- The in-memory store. -/
abbrev SessionStore := JsString → Option SessionRecord

namespace SessionStore

/-- A new session is pending; `sessionId` is what the generator drew. -/
def create (store : SessionStore) (sessionId walletCAddr : JsString) (nowSeconds : Number)
    : SessionStore :=
  Function.update store sessionId
    (some { sessionId, walletCAddr, status := .pending, createdAtSeconds := nowSeconds })

/-- Refuse unless the session exists and is approved. -/
def assertApproved (store : SessionStore) (sessionId : JsString) : Handling Unit :=
  match store sessionId with
  | none => .error .sessionNotApproved
  | some session => failIf (session.status ≠ .approved) .sessionNotApproved

/-- The verdict of a session; `none` where it throws. -/
def setStatus (store : SessionStore) (sessionId : JsString) (status : SessionStatus)
    : Option SessionStore :=
  match store sessionId with
  | none => none
  | some session => some (Function.update store sessionId (some { session with status }))

theorem assertApproved_eq_ok {store : SessionStore} {sessionId : JsString}
    {session : SessionRecord} (found : store sessionId = some session)
    : assertApproved store sessionId = .ok () ↔ session.status = .approved := by
  rw [assertApproved, found, failIf_eq_ok, not_not]

end SessionStore

-----------------------------------------------------------------------------------------
-- Bodies
-----------------------------------------------------------------------------------------

def invalidJson (message : JsString) : HttpError :=
  { status := 400, code := js "invalid_json", retriable := false, message }

def missingField (key : JsString) : HttpError :=
  {
    status := 400
    code := js "missing_field"
    retriable := false
    message := js "missing or invalid \"" ++ key ++ js "\""
  }

/-- The refusal that names a field and what it must be. -/
def invalidField (key complaint : JsString) : HttpError :=
  {
    status := 400
    code := js "invalid_field"
    retriable := false
    message := js "\"" ++ key ++ js "\" must be " ++ complaint
  }

/-- A body that must be an object. -/
def parseJsonObject (parseJson : Bytes → Option Json.Value) (raw : Bytes)
    : Handling Json.Value := do
  failIf (raw = []) (.http (invalidJson (js "expected a JSON object body")))
  match parseJson raw with
  | none => .error (.http (invalidJson (js "request body is not valid JSON")))
  | some value => do
      failIf (value.isObject = false)
        (.http (invalidJson (js "request body must be a JSON object")))
      .ok value

/-- A parsed body as a bag of members. -/
def asRecord : Option Json.Value → Json.Value
  | some (.object members) => .object members
  | _ => .object []

def requireString (body : Json.Value) (key : JsString) : Handling JsString :=
  match body.get key with
  | some (.string value) => do
      failIf (value = []) (.http (missingField key))
      .ok value
  | _ => .error (.http (missingField key))

def optionalU32 (body : Json.Value) (key : JsString) : Handling (Option Number) :=
  match body.get key with
  | none => .ok none
  | some (.number value) => do
      failIf (value < 0 ∨ 0xffffffff < value)
        (.http (invalidField key (js "a non-negative u32 integer")))
      .ok (some value)
  | some _ => .error (.http (invalidField key (js "a non-negative u32 integer")))

/-- The caller's own token must belong to the wallet that is addressed. -/
def assertSessionSubjectBinding (auth : Option AuthenticatedRequest)
    (addressedSubject : JsString)
    : Handling JsString :=
  match auth with
  | none => .error .unauthorized
  | some caller => do
      failIf (caller.subject ≠ addressedSubject) .subjectMismatch
      .ok caller.subject

theorem assertSessionSubjectBinding_eq_ok {auth : Option AuthenticatedRequest}
    {addressed subject : JsString}
    (bound : assertSessionSubjectBinding auth addressed = .ok subject)
    : subject = addressed ∧ auth = some { subject := addressed } := by
  cases auth with
  | none => cases bound
  | some caller =>
      obtain ⟨same, bound⟩ := failIf_bind_eq_ok.mp bound
      cases bound
      obtain rfl := not_not.mp same
      exact ⟨rfl, rfl⟩

-----------------------------------------------------------------------------------------
-- The body of a session request
-----------------------------------------------------------------------------------------

def assertCAddress (value : Option Json.Value) (what : JsString) : Handling JsString :=
  match value with
  | some (.string text) => do
      failIf (isStrkeyC text = false)
        (.http (invalidField what (js "a Stellar contract (C) address")))
      .ok text
  | _ => .error (.http (invalidField what (js "a Stellar contract (C) address")))

def maxChainIdChars : Nat := 128

def chainIdComplaint : JsString :=
  js "a non-empty string of at most " ++ numberText maxChainIdChars
    ++ js " characters without control characters"

/-- The chain id is checked and then dropped. -/
def requireChainId (body : Json.Value) : Handling JsString :=
  match body.get (js "chain_id") with
  | none | some .null => .error (.http (missingField (js "chain_id")))
  | some (.string value) => do
      failIf
        (value = [] ∨ maxChainIdChars < value.length
          ∨ value.any (fun unit => unit < 32 || unit == 127))
        (.http (invalidField (js "chain_id") chainIdComplaint))
      .ok value
  | some _ => .error (.http (invalidField (js "chain_id") chainIdComplaint))

-----------------------------------------------------------------------------------------
-- The body of an issue request
-----------------------------------------------------------------------------------------

/-- A claim of the body; anything but a boolean is refused. -/
def readClaim (body : Json.Value) (field : ClaimName) : Handling Bool :=
  match body.get (ofOctets field.text) with
  | some (.boolean value) => .ok value
  | _ => .error (.http (invalidField (ofOctets field.text) (js "a boolean")))

def readClaimSet (body : Json.Value) : Handling ClaimSet := do
  let over18 ← readClaim body .over18
  let over21 ← readClaim body .over21
  let notSanctioned ← readClaim body .notSanctioned
  let notPep ← readClaim body .notPep
  let jurisdictionOk ← readClaim body .jurisdictionOk
  let livenessOk ← readClaim body .livenessOk
  .ok { over18, over21, notSanctioned, notPep, jurisdictionOk, livenessOk }

end StellarOnramp.GatewayHttp
