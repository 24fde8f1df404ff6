import StellarOnramp.Gateway.Jws
import StellarOnramp.GatewayHttp.Errors

/-! From a request to its route: the request id, the path, the body, the table of routes, and
the bearer token that a route may demand.
-/

namespace StellarOnramp.GatewayHttp

open Attempts JsText Octets
open StellarOnramp.Identity StellarOnramp.Gateway

-----------------------------------------------------------------------------------------
-- The request
-----------------------------------------------------------------------------------------

/-- A header as the runtime hands it over. -/
inductive HeaderValue where
  | absent
  | one (value : JsString)
  | many (values : List JsString)
  deriving DecidableEq

/-- A request whose body has been read, or whose stream has failed. -/
structure HttpRequest where
  method : Option JsString
  url : Option JsString
  xRequestId : HeaderValue
  /-- What the length header declares, where it is a finite number. -/
  contentLength : Option ℚ
  authorization : HeaderValue
  /-- The octets that arrived; `none` where the stream failed. -/
  body : Option Bytes

/-- `/^[A-Za-z0-9._-]{1,128}$/` -/
def isRequestId (text : JsString) : Bool :=
  text != [] && text.length ≤ 128
    && text.all
      (fun unit =>
        (65 ≤ unit && unit ≤ 90) || (97 ≤ unit && unit ≤ 122) || isDigit unit || unit == 46
          || unit == 95 || unit == 45)

/-- The inbound id, or the fresh one. -/
def resolveRequestId (request : HttpRequest) (fresh : JsString) : JsString :=
  match request.xRequestId with
  | .one inbound => if isRequestId inbound then inbound else fresh
  | _ => fresh

/-- The method; an HTTP method is ASCII. -/
def HttpRequest.methodOf (request : HttpRequest) : JsString :=
  (request.method.getD (js "GET")).map
    (fun unit => if 97 ≤ unit && unit ≤ 122 then unit - 32 else unit)

/-- The path without the query and without slashes at its end. -/
def HttpRequest.pathOf (request : HttpRequest) : JsString :=
  let path :=
    match request.url with
    | some url => url.takeWhile (fun unit => unit != 63)
    | none => js "/"
  match path.reverse.dropWhile (fun unit => unit == 47) with
  | [] => js "/"
  | kept => kept.reverse

-----------------------------------------------------------------------------------------
-- Percent-encoding
-----------------------------------------------------------------------------------------

/-- An escaped octet at the head of a text. -/
def escapedOctet : JsString → Option (UInt8 × JsString)
  | 37 :: high :: low :: rest => do
      let high ← hexValue high
      let low ← hexValue low
      some (high * 16 + low, rest)
  | _ => none

/-- So many continuation octets, collected behind the bits of the first octet. -/
def continuation : Nat → Nat → JsString → Option (Nat × JsString)
  | 0, point, text => some (point, text)
  | count + 1, point, text => do
      let (octet, rest) ← escapedOctet text
      if 0x80 ≤ octet && octet < 0xC0 then
        continuation count (point * 64 + (octet.toNat - 0x80)) rest
      else
        none

/-- The rest of a text behind one well-formed escaped character. -/
def escapedPoint (text : JsString) : Option JsString := do
  let (lead, rest) ← escapedOctet text
  let least ←
    if lead < 0x80 then some (0, 0, lead.toNat)
    else if 0xC0 ≤ lead && lead < 0xE0 then some (1, 0x80, lead.toNat - 0xC0)
    else if 0xE0 ≤ lead && lead < 0xF0 then some (2, 0x800, lead.toNat - 0xE0)
    else if 0xF0 ≤ lead && lead < 0xF8 then some (3, 0x10000, lead.toNat - 0xF0)
    else none
  let (point, rest) ← continuation least.1 least.2.2 rest
  if least.2.1 ≤ point ∧ point < 0x110000 ∧ ¬ (0xD800 ≤ point ∧ point < 0xE000) then
    some rest
  else
    none

/-- `decodeURIComponent` does not throw within so many characters. -/
def decodesWithin : Nat → JsString → Bool
  | _, [] => true
  | 0, _ :: _ => false
  | fuel + 1, unit :: rest =>
      if unit = 37 then
        match escapedPoint (unit :: rest) with
        | some later => decodesWithin fuel later
        | none => false
      else
        decodesWithin fuel rest

def assertValidPathEncoding (path : JsString) : Bool := decodesWithin path.length path

-----------------------------------------------------------------------------------------
-- The body
-----------------------------------------------------------------------------------------

def bodyCapBytes : Nat := 1048576

def bodyTooLarge : HttpError :=
  {
    status := 413
    code := js "body_too_large"
    retriable := false
    message := js "request body too large"
  }

/-- The declared length is refused before a body is read, the true length while it is. -/
def captureBody (request : HttpRequest) : Handling Bytes := do
  failIf (request.contentLength.any (fun declared => decide ((bodyCapBytes : ℚ) < declared)))
    (.http bodyTooLarge)
  match request.body with
  | none => .error .other
  | some body => do
      failIf (bodyCapBytes < body.length) (.http bodyTooLarge)
      .ok body

-----------------------------------------------------------------------------------------
-- The router
-----------------------------------------------------------------------------------------

/-- The handlers of the table. -/
inductive RouteName where
  | wellKnown
  | schema
  | statusList
  | healthz
  | readyz
  | session
  | issue
  deriving DecidableEq

inductive RouteAuth where
  | none
  | session
  deriving DecidableEq

/-- A compiled template: a literal and, behind it, at most one parameter. -/
structure PathTemplate where
  literal : JsString
  param : Option JsString

structure Route where
  method : JsString
  pathTemplate : PathTemplate
  jsonBody : Bool
  auth : RouteAuth
  handler : RouteName

abbrev RouteParams := List (JsString × JsString)

/-- A path may end in one more slash. -/
def withoutSlash (path : JsString) : JsString :=
  if path.getLast? = some 47 then path.dropLast else path

/-- The parameters of a path that the template matches. -/
def PathTemplate.match? (template : PathTemplate) (path : JsString) : Option RouteParams :=
  match template.param with
  | none => if path = template.literal ∨ withoutSlash path = template.literal then some [] else none
  | some name =>
      let value := withoutSlash (path.drop template.literal.length)
      if template.literal.isPrefixOf path ∧ value ≠ [] ∧ 47 ∉ value then some [(name, value)]
      else none

def literalPath (text : String) : PathTemplate := { literal := js text, param := none }

def routes : List Route :=
  [
    {
      method := js "GET"
      pathTemplate := literalPath "/v1/.well-known/issuer"
      jsonBody := false
      auth := .none
      handler := .wellKnown
    },
    {
      method := js "GET"
      pathTemplate := { literal := js "/v1/schema/", param := some (js "version") }
      jsonBody := false
      auth := .none
      handler := .schema
    },
    {
      method := js "GET"
      pathTemplate := { literal := js "/v1/status-list/", param := some (js "issuer_id") }
      jsonBody := false
      auth := .none
      handler := .statusList
    },
    {
      method := js "GET"
      pathTemplate := literalPath "/healthz"
      jsonBody := false
      auth := .none
      handler := .healthz
    },
    {
      method := js "GET"
      pathTemplate := literalPath "/readyz"
      jsonBody := false
      auth := .none
      handler := .readyz
    },
    {
      method := js "POST"
      pathTemplate := literalPath "/v1/session"
      jsonBody := true
      auth := .none
      handler := .session
    },
    {
      method := js "POST"
      pathTemplate := literalPath "/v1/credentials/issue"
      jsonBody := true
      auth := .session
      handler := .issue
    }
  ]

inductive MatchResult where
  | ok (route : Route) (params : RouteParams)
  | noPath
  | methodNotAllowed (allow : List JsString)

/-- The methods that a path has. -/
def anyMethodForPath (table : List Route) (path : JsString) : List JsString :=
  (table.filter (fun route => (route.pathTemplate.match? path).isSome)).map Route.method

/-- The first route that has both the method and the path. -/
def matchRoute (table : List Route) (method path : JsString) : MatchResult :=
  match
    table.findSome?
      (fun route =>
        match route.pathTemplate.match? path with
        | some params => if route.method = method then some (route, params) else none
        | none => none)
  with
  | some (route, params) => .ok route params
  | none =>
      match anyMethodForPath table path with
      | [] => .noPath
      | allow => .methodNotAllowed allow

theorem mem_of_matchRoute {table : List Route} {method path : JsString} {route : Route}
    {params : RouteParams} (matched : matchRoute table method path = .ok route params)
    : route ∈ table := by
  unfold matchRoute at matched
  split at matched
  case h_1 found =>
    cases matched
    obtain ⟨candidate, member, here⟩ := List.exists_of_findSome?_eq_some found
    split at here
    case h_1 =>
      split at here
      case isTrue => cases here; exact member
      case isFalse => cases here
    case h_2 => cases here
  case h_2 => split at matched <;> cases matched

-----------------------------------------------------------------------------------------
-- Authentication
-----------------------------------------------------------------------------------------

/-- What session tokens are verified with. -/
structure SessionJwtConfig where
  publicKey : KeyObject
  issuer : JsString
  audience : JsString

/-- A caller whose token verified. -/
structure AuthenticatedRequest where
  subject : JsString
  deriving DecidableEq

def maxCredentialChars : Nat := 8192

def readSingleHeaderValue : HeaderValue → Option JsString
  | .one value => some value
  | .many [value] => some value
  | _ => none

def extractBearer : Option JsString → Handling JsString
  | none => .error .unauthorized
  | some value => do
      failIf (maxCredentialChars < value.length) .unauthorized
      failIf ((js "Bearer ").isPrefixOf value = false) .unauthorized
      let token := value.drop (js "Bearer ").length
      failIf (token = [] ∨ 32 ∈ token ∨ 9 ∈ token) .unauthorized
      .ok token

/-- The options that a session token is verified with. -/
def SessionJwtConfig.options (config : SessionJwtConfig) (nowSeconds : Number)
    : VerifyJwsOptions :=
  {
    publicKey := config.publicKey
    nowSeconds
    issuer := config.issuer
    audience := config.audience
  }

/-- Session tokens are not checked for replay. -/
def noReplayStore : FirstSight → Option Bool := fun _ => none

/-- Why a token is refused is not told. -/
def verifySessionBearer (signatures : TokenSignatures) (parseJson : Bytes → Option Json.Value)
    (auth : Option SessionJwtConfig) (header : HeaderValue) (nowSeconds : Number)
    : Handling AuthenticatedRequest :=
  match auth with
  | none => .error .unauthorized
  | some config => do
      let token ← extractBearer (readSingleHeaderValue header)
      match (verifyJws signatures parseJson noReplayStore token (config.options nowSeconds)).result with
      | .ok claims => .ok { subject := claims.sub }
      | .error _ => .error .unauthorized

def enforceRouteAuth (signatures : TokenSignatures) (parseJson : Bytes → Option Json.Value)
    (auth : Option SessionJwtConfig) (mode : RouteAuth) (header : HeaderValue)
    (nowSeconds : Number)
    : Handling (Option AuthenticatedRequest) :=
  match mode with
  | .none => .ok none
  | .session =>
      (verifySessionBearer signatures parseJson auth header nowSeconds).map some

/-- A bearer token in a header that verifies at an instant, and its subject. -/
structure BearerVerified (signatures : TokenSignatures) (parseJson : Bytes → Option Json.Value)
    (auth : Option SessionJwtConfig) (header : HeaderValue) (nowSeconds : Number)
    (subject : JsString)
    : Prop where
  verified
    : ∃ config token claims,
        auth = some config
        ∧ extractBearer (readSingleHeaderValue header) = .ok token
        ∧ (verifyJws signatures parseJson noReplayStore token (config.options nowSeconds)).result
          = .ok claims
        ∧ VerifiedToken signatures parseJson token (config.options nowSeconds) claims
        ∧ claims.sub = subject

theorem verifySessionBearer_eq_ok {signatures : TokenSignatures}
    {parseJson : Bytes → Option Json.Value} {auth : Option SessionJwtConfig}
    {header : HeaderValue} {nowSeconds : Number} {caller : AuthenticatedRequest}
    (verified : verifySessionBearer signatures parseJson auth header nowSeconds = .ok caller)
    : BearerVerified signatures parseJson auth header nowSeconds caller.subject := by
  unfold verifySessionBearer at verified
  split at verified
  case h_1 => cases verified
  case h_2 config =>
    obtain ⟨token, extracted, verified⟩ := bind_eq_ok.mp verified
    split at verified
    case h_1 claims checked =>
      cases verified
      exact ⟨config, token, claims, rfl, extracted, checked, verifyJws_eq_ok checked, rfl⟩
    case h_2 => cases verified

/-- On a route that demands a session the caller's token verified. -/
theorem enforceRouteAuth_session {signatures : TokenSignatures}
    {parseJson : Bytes → Option Json.Value} {auth : Option SessionJwtConfig}
    {header : HeaderValue} {nowSeconds : Number} {outcome : Option AuthenticatedRequest}
    (enforced
      : enforceRouteAuth signatures parseJson auth .session header nowSeconds = .ok outcome)
    : ∃ caller,
        outcome = some caller
        ∧ BearerVerified signatures parseJson auth header nowSeconds caller.subject := by
  unfold enforceRouteAuth at enforced
  cases checked : verifySessionBearer signatures parseJson auth header nowSeconds with
  | error _ => simp [checked, Except.map] at enforced
  | ok caller =>
      simp only [checked, Except.map, Except.ok.injEq] at enforced
      exact ⟨caller, enforced.symm, verifySessionBearer_eq_ok checked⟩

end StellarOnramp.GatewayHttp
