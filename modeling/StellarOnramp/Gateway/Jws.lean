import Mathlib.Algebra.Order.Field.Rat
import StellarOnramp.Identity.Base64
import StellarOnramp.Library.Json

/-! Verifying a compact JWS. The algorithm is pinned by the type of the configured key, the
claims are read after the signature held, and the clock and the replay store are given.
-/

namespace StellarOnramp.Gateway

open Attempts JsText Octets
open StellarOnramp.Identity

inductive SigningAlgorithm where
  | es256
  | eddsa
  deriving DecidableEq

/-- Every way in which a token is refused. The texts are left out: every caller drops them. -/
inductive JwsRejectionReason where
  | malformedToken
  | badHeader
  | algNotEs256
  | algNotEddsa
  | notAnEcP256Key
  | signatureLength
  | signatureMismatch
  | payloadMalformed
  | claimAbsent
  | claimType
  | invalidWindow
  | unknownClaim
  | issuerMismatch
  | audienceMismatch
  | tokenNotYetValid
  | tokenExpired
  | replayDetected
  /-- The runtime or the replay store threw. -/
  | library
  deriving DecidableEq

abbrev Verdict := Except JwsRejectionReason

-----------------------------------------------------------------------------------------
-- Keys
-----------------------------------------------------------------------------------------

inductive KeyType where
  | secretKey
  | publicKey
  | privateKey
  deriving DecidableEq

inductive AsymmetricKeyType where
  | ed25519
  | ec
  | other
  deriving DecidableEq

/-- A key that the runtime holds. -/
structure KeyObject where
  type : KeyType
  asymmetricKeyType : AsymmetricKeyType
  /-- The `crv` that the JWK of its public half names. -/
  crv : JsString
  material : Bytes
  deriving DecidableEq

/-- The signature checks of the runtime; `none` where it throws. -/
structure TokenSignatures where
  /-- ECDSA over SHA-256, with a DER signature. -/
  verifyEs256 : (material message der : Bytes) → Option Bool
  verifyEddsa : (material message signature : Bytes) → Option Bool

/-- The one algorithm that a key speaks. -/
def keyAlgorithm (key : KeyObject) : Verdict SigningAlgorithm := do
  failIf (key.type ≠ .publicKey ∧ key.type ≠ .privateKey) .notAnEcP256Key
  if key.asymmetricKeyType = .ed25519 then
    .ok .eddsa
  else do
    failIf (key.asymmetricKeyType ≠ .ec) .notAnEcP256Key
    failIf (key.crv ≠ js "P-256") .notAnEcP256Key
    .ok .es256

def protectedHeaderJson : SigningAlgorithm → Bytes
  | .es256 => ascii "\x7b\"alg\":\"ES256\",\"typ\":\"JWT\"\x7d"
  | .eddsa => ascii "\x7b\"alg\":\"EdDSA\",\"typ\":\"JWT\"\x7d"

def frozenHeaderB64 (alg : SigningAlgorithm) : JsString :=
  base64urlEncode (protectedHeaderJson alg)

def SigningAlgorithm.text : SigningAlgorithm → JsString
  | .es256 => js "ES256"
  | .eddsa => js "EdDSA"

-----------------------------------------------------------------------------------------
-- Segments
-----------------------------------------------------------------------------------------

/-- The sextet of a character of the alphabet. -/
def sextetOf (unit : UInt16) : Nat := (b64urlReverse unit).getD 0

/-- The runtime's own decoder: it drops what does not make an octet. -/
def bufferFromBase64url : JsString → Bytes
  | a :: b :: c :: d :: rest =>
      beBytes 3 (sextetOf a * 2 ^ 18 + sextetOf b * 2 ^ 12 + sextetOf c * 2 ^ 6 + sextetOf d)
        ++ bufferFromBase64url rest
  | [a, b, c] => beBytes 2 ((sextetOf a * 2 ^ 12 + sextetOf b * 2 ^ 6 + sextetOf c) / 4)
  | [a, b] => beBytes 1 ((sextetOf a * 2 ^ 6 + sextetOf b) / 16)
  | _ => []

/-- The runtime writes the low octet of every unit. -/
def bufferFromAscii (text : JsString) : Bytes := text.map UInt16.toUInt8

/-- The alphabet is checked before anything is decoded. -/
def b64urlDecodeStrict (segment : JsString) : Verdict Bytes := do
  failIf (segment = [] ∨ segment.any (fun unit => (b64urlReverse unit).isNone))
    .malformedToken
  .ok (bufferFromBase64url segment)

/-- What a header says its algorithm is. -/
def parseProtectedHeader (parseJson : Bytes → Option Json.Value) (headerBytes : Bytes)
    : Verdict (Option Json.Value) :=
  match parseJson headerBytes with
  | some (.object members) => do
      let bag := Json.Value.object members
      failIf
        ((bag.get (js "jwk")).isSome ∨ (bag.get (js "jku")).isSome ∨ (bag.get (js "x5u")).isSome
          ∨ (bag.get (js "x5c")).isSome)
        .badHeader
      failIf ((bag.get (js "crit")).isSome) .badHeader
      .ok (bag.get (js "alg"))
  | _ => .error .badHeader

/-- Why a header that is not the frozen one is refused. -/
def refuseHeader (parseJson : Bytes → Option Json.Value) (expectedAlg : SigningAlgorithm)
    (headerB64 : JsString)
    : Verdict Unit := do
  let bytes ← b64urlDecodeStrict headerB64
  let alg ← parseProtectedHeader parseJson bytes
  if (alg.bind Json.Value.asString) = some expectedAlg.text then
    .error .badHeader
  else
    .error
      (match expectedAlg with
      | .es256 => .algNotEs256
      | .eddsa => .algNotEddsa)

/-- The header must be the frozen one, octet for octet. -/
def assertHeader (parseJson : Bytes → Option Json.Value) (expectedAlg : SigningAlgorithm)
    (headerB64 : JsString)
    : Verdict Unit :=
  if headerB64 = frozenHeaderB64 expectedAlg then .ok ()
  else refuseHeader parseJson expectedAlg headerB64

/-- Leading zeros are dropped, but not the last octet. -/
def stripZeros : Bytes → Bytes
  | 0 :: next :: rest => stripZeros (next :: rest)
  | octets => octets

/-- One INTEGER of a DER signature. -/
def derInteger (half : Bytes) : Verdict Bytes := do
  let v := stripZeros half
  failIf (v = [0]) .signatureLength
  let body := if 0x80 ≤ v.headD 0 then 0 :: v else v
  .ok ([0x02, UInt8.ofNat body.length] ++ body)

/-- The DER form of a signature that is two numbers of 32 octets. -/
def rawToDer (raw : Bytes) : Verdict Bytes := do
  let r ← derInteger (raw.take 32)
  let s ← derInteger (raw.drop 32)
  let body := r ++ s
  .ok ([0x30, UInt8.ofNat body.length] ++ body)

-----------------------------------------------------------------------------------------
-- Claims
-----------------------------------------------------------------------------------------

/-- Which claims must be there: all, or without `aud` and `nbf`. -/
inductive ClaimPolicy where
  | strict
  | sep10
  deriving DecidableEq

/-- What the verifier is given. -/
structure VerifyJwsOptions where
  publicKey : KeyObject
  nowSeconds : ℚ
  issuer : JsString
  audience : JsString
  claimPolicy : ClaimPolicy := .strict
  /-- The provider under which a replay store is asked, where one is configured. -/
  replay : Option JsString := none

/-- What a replay store is asked: whether this is the first sight of a token. -/
structure FirstSight where
  provider : JsString
  eventId : JsString
  nowSeconds : ℚ
  deriving DecidableEq

structure VerifiedJws where
  iss : JsString
  sub : JsString
  aud : Option JsString
  iat : Number
  nbf : Option Number
  exp : Number
  jti : Option JsString
  deriving DecidableEq

/-- A value that is a non-empty string. -/
def stringClaim : Option Json.Value → Verdict JsString
  | none => .error .claimAbsent
  | some (.string text) => do
      failIf (text = []) .claimType
      .ok text
  | some _ => .error .claimType

/-- A value that is a whole number of seconds. -/
def timeClaim : Option Json.Value → Verdict Number
  | none => .error .claimAbsent
  | some (.number seconds) => do
      failIf (¬ isSafeInteger seconds) .claimType
      .ok seconds
  | some _ => .error .claimType

/-- A claim that may be missing. -/
def whenPresent {α : Type} (read : Option Json.Value → Verdict α) (value : Option Json.Value)
    : Verdict (Option α) :=
  if value.isNone then .ok none else (read value).map some

/-- The registered claims of a payload, but for `jti`. -/
def readClaims (bag : Json.Value) : ClaimPolicy → Verdict VerifiedJws
  | .strict => do
      let iss ← stringClaim (bag.get (js "iss"))
      let sub ← stringClaim (bag.get (js "sub"))
      let aud ← stringClaim (bag.get (js "aud"))
      let iat ← timeClaim (bag.get (js "iat"))
      let nbf ← timeClaim (bag.get (js "nbf"))
      let exp ← timeClaim (bag.get (js "exp"))
      .ok { iss, sub, aud := some aud, iat, nbf := some nbf, exp, jti := none }
  | .sep10 => do
      let iss ← stringClaim (bag.get (js "iss"))
      let sub ← stringClaim (bag.get (js "sub"))
      let iat ← timeClaim (bag.get (js "iat"))
      let exp ← timeClaim (bag.get (js "exp"))
      let aud ← whenPresent stringClaim (bag.get (js "aud"))
      let nbf ← whenPresent timeClaim (bag.get (js "nbf"))
      .ok { iss, sub, aud, iat, nbf, exp, jti := none }

/-- The checks of the claims, before any replay. -/
def checkClaims (bag : Json.Value) (options : VerifyJwsOptions) : Verdict VerifiedJws := do
  let claims ← readClaims bag options.claimPolicy
  failIf (claims.iss ≠ options.issuer) .issuerMismatch
  failIf
    ((options.claimPolicy = .strict ∨ claims.aud.isSome) ∧ claims.aud ≠ some options.audience)
    .audienceMismatch
  failIf (claims.nbf.any (fun nbf => decide (options.nowSeconds < nbf))) .tokenNotYetValid
  failIf (claims.exp ≤ options.nowSeconds) .tokenExpired
  .ok claims

/-- The signature over the two segments, as the key's algorithm reads it. -/
def verifySignature (signatures : TokenSignatures) (alg : SigningAlgorithm) (key : KeyObject)
    (signingInput signature : Bytes)
    : Verdict Unit := do
  let checked ←
    match alg with
    | .es256 => do
        let der ← rawToDer signature
        .ok (signatures.verifyEs256 key.material signingInput der)
    | .eddsa => .ok (signatures.verifyEddsa key.material signingInput signature)
  match checked with
  | none => .error .library
  | some ok => failIf (ok = false) .signatureMismatch

/-- The payload of a token whose signature holds. -/
def openToken (signatures : TokenSignatures) (parseJson : Bytes → Option Json.Value)
    (token : JsString) (publicKey : KeyObject)
    : Verdict Json.Value := do
  let expectedAlg ← keyAlgorithm publicKey
  match token.splitOn 46 with
  | [headerB64, payloadB64, signatureB64] => do
      assertHeader parseJson expectedAlg headerB64
      let signature ← b64urlDecodeStrict signatureB64
      failIf (signature.length ≠ 64) .signatureLength
      let signingInput := bufferFromAscii (headerB64 ++ js "." ++ payloadB64)
      verifySignature signatures expectedAlg publicKey signingInput signature
      let payload ← b64urlDecodeStrict payloadB64
      match parseJson payload with
      | some (.object members) => .ok (.object members)
      | _ => .error .payloadMalformed
  | _ => .error .malformedToken

/-- How a verification ends, and what it asked the replay store. -/
structure JwsOutcome where
  asked : List FirstSight
  result : Verdict VerifiedJws

/-- The last check: with a store, a `jti` that it has not seen. -/
def checkReplay (store : FirstSight → Option Bool) (options : VerifyJwsOptions)
    (jti : Option Json.Value) (claims : VerifiedJws)
    : JwsOutcome :=
  match options.replay with
  | none =>
      {
        asked := []
        result := (whenPresent stringClaim jti).map (fun jti => { claims with jti })
      }
  | some provider =>
      match stringClaim jti with
      | .error _ => { asked := [], result := .error .claimAbsent }
      | .ok eventId =>
          let call := { provider, eventId, nowSeconds := options.nowSeconds }
          {
            asked := [call]
            result :=
              match store call with
              | none => .error .library
              | some false => .error .replayDetected
              | some true => .ok { claims with jti := some eventId }
          }

/-- Verify a token and read its claims. The store answers `none` where it throws. -/
def verifyJws (signatures : TokenSignatures) (parseJson : Bytes → Option Json.Value)
    (store : FirstSight → Option Bool) (token : JsString) (options : VerifyJwsOptions)
    : JwsOutcome :=
  match
    (do
      let bag ← openToken signatures parseJson token options.publicKey
      let claims ← checkClaims bag options
      .ok (bag, claims) : Verdict (Json.Value × VerifiedJws))
  with
  | .error reason => { asked := [], result := .error reason }
  | .ok (bag, claims) => checkReplay store options (bag.get (js "jti")) claims

-----------------------------------------------------------------------------------------
-- Segments of a token
-----------------------------------------------------------------------------------------

/-- Text of the alphabet is read without loss. -/
theorem b64urlDecodeStrict_eq_ok {segment : JsString} {bytes : Bytes}
    : b64urlDecodeStrict segment = .ok bytes
      ↔ segment ≠ []
        ∧ (∀ unit ∈ segment, (b64urlReverse unit).isSome)
        ∧ bufferFromBase64url segment = bytes := by
  rw [b64urlDecodeStrict, failIf_bind_eq_ok, not_or, List.any_eq_true, Except.ok.injEq]
  simp [and_assoc, Option.isSome_iff_ne_none]

/-- A character of the alphabet is one octet, and no dot. -/
theorem lt_of_b64urlReverse {unit : UInt16} (known : (b64urlReverse unit).isSome)
    : unit < 128 ∧ unit ≠ 46 := by
  unfold b64urlReverse at known
  split at known
  case isTrue small =>
    refine ⟨small, ?_⟩
    rintro rfl
    exact absurd known (by decide)
  case isFalse => cases known

theorem frozenHeaderB64_known (alg : SigningAlgorithm)
    : ∀ unit ∈ frozenHeaderB64 alg, (b64urlReverse unit).isSome :=
  base64urlEncode_known _

/-- The text that is signed is ASCII. -/
theorem signedText_ascii (alg : SigningAlgorithm) {payloadB64 : JsString}
    (known : ∀ unit ∈ payloadB64, (b64urlReverse unit).isSome)
    : ∀ unit ∈ frozenHeaderB64 alg ++ js "." ++ payloadB64, unit < 128 := by
  intro unit member
  rcases List.mem_append.mp member with early | late
  · rcases List.mem_append.mp early with first | dot
    · exact (lt_of_b64urlReverse (frozenHeaderB64_known alg unit first)).1
    · obtain rfl : unit = 46 := List.mem_singleton.mp dot
      decide
  · exact (lt_of_b64urlReverse (known unit late)).1

/-- Three segments without dots are what a token splits into. -/
theorem splitOn_dots {token header payload signature : JsString}
    (header_plain : 46 ∉ header) (payload_plain : 46 ∉ payload) (signature_plain : 46 ∉ signature)
    : token.splitOn 46 = [header, payload, signature]
      ↔ token = header ++ js "." ++ payload ++ js "." ++ signature := by
  have joined
      : ([46] : JsString).intercalate [header, payload, signature]
        = header ++ js "." ++ payload ++ js "." ++ signature := by
    have dot : js "." = [46] := by decide
    rw [dot]
    simp [List.intercalate]
  constructor
  · intro split
    rw [← joined, ← split, List.intercalate_splitOn]
  · rintro rfl
    rw [← joined]
    refine List.splitOn_intercalate 46 ?_ (List.cons_ne_nil _ _)
    simp only [List.mem_cons, List.not_mem_nil, or_false]
    rintro segment (rfl | rfl | rfl) <;> assumption

-----------------------------------------------------------------------------------------
-- Claims of a payload
-----------------------------------------------------------------------------------------

theorem stringClaim_eq_ok {value : Option Json.Value} {text : JsString}
    : stringClaim value = .ok text ↔ value = some (.string text) ∧ text ≠ [] := by
  unfold stringClaim
  split
  case h_1 => simp
  case h_2 other =>
    rw [failIf_bind_eq_ok]
    constructor
    · rintro ⟨filled, same⟩
      cases same
      exact ⟨rfl, filled⟩
    · rintro ⟨same, filled⟩
      cases same
      exact ⟨filled, rfl⟩
  case h_3 other _ differs =>
    refine iff_of_false nofun ?_
    rintro ⟨same, -⟩
    exact differs text (Option.some.inj same)

theorem timeClaim_eq_ok {value : Option Json.Value} {seconds : Number}
    : timeClaim value = .ok seconds ↔ value = some (.number seconds) ∧ isSafeInteger seconds := by
  unfold timeClaim
  split
  case h_1 => simp
  case h_2 other =>
    rw [failIf_bind_eq_ok, not_not]
    constructor
    · rintro ⟨safe, same⟩
      cases same
      exact ⟨rfl, safe⟩
    · rintro ⟨same, safe⟩
      cases same
      exact ⟨safe, rfl⟩
  case h_3 other _ differs =>
    refine iff_of_false nofun ?_
    rintro ⟨same, -⟩
    exact differs seconds (Option.some.inj same)

theorem whenPresent_eq_ok {α : Type} {read : Option Json.Value → Verdict α}
    {value : Option Json.Value} {found : Option α}
    : whenPresent read value = .ok found
      ↔ (value = none ∧ found = none)
        ∨ ∃ item present, value = some present ∧ read value = .ok item ∧ found = some item := by
  unfold whenPresent
  cases value with
  | none => simp [eq_comm]
  | some present =>
      cases read (some present) <;> simp [Except.map, eq_comm]

theorem whenPresent_stringClaim {value : Option Json.Value} {found : Option JsString}
    : whenPresent stringClaim value = .ok found
      ↔ value = found.map Json.Value.string ∧ found ≠ some [] := by
  rw [whenPresent_eq_ok]
  constructor
  · rintro (⟨rfl, rfl⟩ | ⟨text, present, -, read, rfl⟩)
    · exact ⟨rfl, nofun⟩
    · obtain ⟨rfl, filled⟩ := stringClaim_eq_ok.mp read
      exact ⟨rfl, fun empty => filled (Option.some.inj empty)⟩
  · rintro ⟨rfl, filled⟩
    cases found with
    | none => exact .inl ⟨rfl, rfl⟩
    | some text =>
        refine .inr ⟨text, _, rfl, stringClaim_eq_ok.mpr ⟨rfl, ?_⟩, rfl⟩
        exact fun empty => filled (congrArg some empty)

theorem whenPresent_timeClaim {value : Option Json.Value} {found : Option Number}
    : whenPresent timeClaim value = .ok found
      ↔ value = found.map Json.Value.number
        ∧ ∀ seconds, found = some seconds → isSafeInteger seconds := by
  rw [whenPresent_eq_ok]
  constructor
  · rintro (⟨rfl, rfl⟩ | ⟨seconds, present, -, read, rfl⟩)
    · exact ⟨rfl, nofun⟩
    · obtain ⟨rfl, safe⟩ := timeClaim_eq_ok.mp read
      refine ⟨rfl, ?_⟩
      rintro _ ⟨⟩
      exact safe
  · rintro ⟨rfl, safe⟩
    cases found with
    | none => exact .inl ⟨rfl, rfl⟩
    | some seconds => exact .inr ⟨seconds, _, rfl, timeClaim_eq_ok.mpr ⟨rfl, safe _ rfl⟩, rfl⟩

/-- The claims that a payload carries under a policy, but for `jti`. -/
structure Carries (bag : Json.Value) (claimPolicy : ClaimPolicy) (claims : VerifiedJws) : Prop where
  iss : bag.get (js "iss") = some (.string claims.iss) ∧ claims.iss ≠ []
  sub : bag.get (js "sub") = some (.string claims.sub) ∧ claims.sub ≠ []
  aud : bag.get (js "aud") = claims.aud.map Json.Value.string ∧ claims.aud ≠ some []
  iat : bag.get (js "iat") = some (.number claims.iat) ∧ isSafeInteger claims.iat
  nbf
    : bag.get (js "nbf") = claims.nbf.map Json.Value.number
      ∧ ∀ nbf, claims.nbf = some nbf → isSafeInteger nbf
  exp : bag.get (js "exp") = some (.number claims.exp) ∧ isSafeInteger claims.exp
  required : claimPolicy = .strict → claims.aud.isSome ∧ claims.nbf.isSome

/-- Reading the claims succeeds exactly where they are carried. -/
theorem readClaims_eq_ok {bag : Json.Value} {claimPolicy : ClaimPolicy} {claims : VerifiedJws}
    : readClaims bag claimPolicy = .ok claims
      ↔ Carries bag claimPolicy claims ∧ claims.jti = none := by
  cases claimPolicy with
  | strict =>
      simp only [readClaims, bind_eq_ok, stringClaim_eq_ok, timeClaim_eq_ok]
      constructor
      · rintro ⟨iss, read_iss, sub, read_sub, aud, read_aud, iat, read_iat, nbf, read_nbf, exp,
          read_exp, same⟩
        cases same
        refine ⟨?_, rfl⟩
        exact {
          iss := read_iss
          sub := read_sub
          aud := ⟨read_aud.1, fun empty => read_aud.2 (Option.some.inj empty)⟩
          iat := read_iat
          nbf := ⟨read_nbf.1, fun _ same => Option.some.inj same ▸ read_nbf.2⟩
          exp := read_exp
          required := fun _ => ⟨rfl, rfl⟩
        }
      · rintro ⟨carries, none_yet⟩
        obtain ⟨has_aud, has_nbf⟩ := carries.required rfl
        obtain ⟨iss, sub, aud, iat, nbf, exp, jti⟩ := claims
        obtain ⟨aud, rfl⟩ := Option.isSome_iff_exists.mp has_aud
        obtain ⟨nbf, rfl⟩ := Option.isSome_iff_exists.mp has_nbf
        obtain rfl : jti = none := none_yet
        refine ⟨iss, carries.iss, sub, carries.sub, aud, ⟨carries.aud.1, ?_⟩, iat, carries.iat,
          nbf, ⟨carries.nbf.1, carries.nbf.2 nbf rfl⟩, exp, carries.exp, rfl⟩
        exact fun empty => carries.aud.2 (congrArg some empty)
  | sep10 =>
      simp only [readClaims, bind_eq_ok, stringClaim_eq_ok, timeClaim_eq_ok,
        whenPresent_stringClaim, whenPresent_timeClaim]
      constructor
      · rintro ⟨iss, read_iss, sub, read_sub, iat, read_iat, exp, read_exp, aud, read_aud, nbf,
          read_nbf, same⟩
        cases same
        refine ⟨?_, rfl⟩
        exact {
          iss := read_iss
          sub := read_sub
          aud := read_aud
          iat := read_iat
          nbf := read_nbf
          exp := read_exp
          required := nofun
        }
      · rintro ⟨carries, none_yet⟩
        obtain ⟨iss, sub, aud, iat, nbf, exp, jti⟩ := claims
        obtain rfl : jti = none := none_yet
        exact ⟨iss, carries.iss, sub, carries.sub, iat, carries.iat, exp, carries.exp, aud,
          carries.aud, nbf, carries.nbf, rfl⟩

/-- Claims that are for the verifier, at its instant. -/
structure Addressed (options : VerifyJwsOptions) (claims : VerifiedJws) : Prop where
  issuer : claims.iss = options.issuer
  audience : ∀ aud, claims.aud = some aud → aud = options.audience
  begun : ∀ nbf, claims.nbf = some nbf → nbf ≤ options.nowSeconds
  unexpired : options.nowSeconds < claims.exp

theorem checkClaims_eq_ok {bag : Json.Value} {options : VerifyJwsOptions} {claims : VerifiedJws}
    : checkClaims bag options = .ok claims
      ↔ Carries bag options.claimPolicy claims ∧ Addressed options claims ∧ claims.jti = none := by
  constructor
  · intro checked
    obtain ⟨other, read, checked⟩ := bind_eq_ok.mp checked
    obtain ⟨issuer, checked⟩ := failIf_bind_eq_ok.mp checked
    obtain ⟨audience, checked⟩ := failIf_bind_eq_ok.mp checked
    obtain ⟨begun, checked⟩ := failIf_bind_eq_ok.mp checked
    obtain ⟨unexpired, same⟩ := failIf_bind_eq_ok.mp checked
    cases same
    obtain ⟨carries, none_yet⟩ := readClaims_eq_ok.mp read
    refine ⟨carries, ?_, none_yet⟩
    exact {
      issuer := not_not.mp issuer
      audience := by
        intro aud present
        by_contra foreign
        refine audience ⟨.inr (by rw [present]; rfl), ?_⟩
        rw [present]
        exact fun same => foreign (Option.some.inj same)
      begun := by
        intro nbf present
        by_contra early
        apply begun
        rw [present]
        exact decide_eq_true (not_le.mp early)
      unexpired := not_le.mp unexpired
    }
  · intro passes
    obtain ⟨carries, addressed, none_yet⟩ := passes
    refine bind_eq_ok.mpr ⟨claims, readClaims_eq_ok.mpr ⟨carries, none_yet⟩, ?_⟩
    refine failIf_bind_eq_ok.mpr ⟨not_not.mpr addressed.issuer, ?_⟩
    refine failIf_bind_eq_ok.mpr ⟨?_, failIf_bind_eq_ok.mpr ⟨?_, ?_⟩⟩
    · intro refused
      obtain ⟨present, foreign⟩ := refused
      have has : claims.aud.isSome := present.elim (fun strict => (carries.required strict).1) id
      obtain ⟨aud, found⟩ := Option.isSome_iff_exists.mp has
      exact foreign (found.trans (congrArg some (addressed.audience aud found)))
    · intro early
      cases present : claims.nbf with
      | none =>
          rw [present] at early
          cases early
      | some nbf =>
          rw [present] at early
          exact absurd (addressed.begun nbf present) (not_le.mpr (of_decide_eq_true early))
    · exact failIf_bind_eq_ok.mpr ⟨not_le.mpr addressed.unexpired, rfl⟩

-----------------------------------------------------------------------------------------
-- What a verified token says
-----------------------------------------------------------------------------------------

/-- The runtime accepts a signature under a key. -/
def SignatureHolds (signatures : TokenSignatures) (alg : SigningAlgorithm) (key : KeyObject)
    (signingInput signature : Bytes)
    : Prop :=
  match alg with
  | .es256 =>
      ∃ der,
        rawToDer signature = .ok der
        ∧ signatures.verifyEs256 key.material signingInput der = some true
  | .eddsa => signatures.verifyEddsa key.material signingInput signature = some true

theorem verifySignature_eq_ok {signatures : TokenSignatures} {alg : SigningAlgorithm}
    {key : KeyObject} {signingInput signature : Bytes}
    : verifySignature signatures alg key signingInput signature = .ok ()
      ↔ SignatureHolds signatures alg key signingInput signature := by
  have checked (answer : Option Bool)
      : (match answer with
          | none => .error .library
          | some ok => failIf (ok = false) .signatureMismatch : Verdict Unit) = .ok ()
        ↔ answer = some true := by
    rcases answer with _ | _ | _ <;> simp [failIf]
  cases alg with
  | es256 =>
      constructor
      · intro verified
        obtain ⟨der, translated, holds⟩ := bind_eq_ok.mp verified
        exact ⟨der, translated, (checked _).mp holds⟩
      · intro holds
        obtain ⟨der, translated, holds⟩ := holds
        exact bind_eq_ok.mpr ⟨der, translated, (checked _).mpr holds⟩
  | eddsa => exact checked _

/-- A token is the frozen header of the key's algorithm, a payload and a signature over exactly
the octets of both.
-/
structure SignedPayload (signatures : TokenSignatures) (parseJson : Bytes → Option Json.Value)
    (token : JsString) (publicKey : KeyObject) (bag : Json.Value)
    : Prop where
  signed
    : ∃ alg payloadB64 signatureB64 signature payload,
        keyAlgorithm publicKey = .ok alg
        ∧ token = frozenHeaderB64 alg ++ js "." ++ payloadB64 ++ js "." ++ signatureB64
        ∧ (∀ unit ∈ frozenHeaderB64 alg ++ js "." ++ payloadB64, unit < 128)
        ∧ b64urlDecodeStrict signatureB64 = .ok signature
        ∧ signature.length = 64
        ∧ SignatureHolds signatures alg publicKey
            (bufferFromAscii (frozenHeaderB64 alg ++ js "." ++ payloadB64)) signature
        ∧ b64urlDecodeStrict payloadB64 = .ok payload
        ∧ parseJson payload = some bag
  object : ∃ members, bag = .object members

/-- A header other than the frozen one is always refused. -/
theorem assertHeader_eq_ok {parseJson : Bytes → Option Json.Value} {alg : SigningAlgorithm}
    {headerB64 : JsString}
    : assertHeader parseJson alg headerB64 = .ok () ↔ headerB64 = frozenHeaderB64 alg := by
  constructor
  · intro accepted
    by_contra other
    rw [assertHeader, if_neg other] at accepted
    rcases bind_eq_ok.mp accepted with ⟨bytes, -, accepted⟩
    rcases bind_eq_ok.mp accepted with ⟨presented, -, accepted⟩
    split at accepted <;> cases accepted
  · intro same
    exact if_pos same

/-- The segments that are read have no dots, so a token splits into them. -/
theorem openToken_eq_ok {signatures : TokenSignatures} {parseJson : Bytes → Option Json.Value}
    {token : JsString} {publicKey : KeyObject} {bag : Json.Value}
    : openToken signatures parseJson token publicKey = .ok bag
      ↔ SignedPayload signatures parseJson token publicKey bag := by
  have plain {segment : JsString} {bytes : Bytes} (decoded : b64urlDecodeStrict segment = .ok bytes)
      : 46 ∉ segment :=
    fun member =>
      (lt_of_b64urlReverse ((b64urlDecodeStrict_eq_ok.mp decoded).2.1 46 member)).2 rfl
  have header_plain (alg : SigningAlgorithm) : 46 ∉ frozenHeaderB64 alg :=
    fun member => (lt_of_b64urlReverse (frozenHeaderB64_known alg 46 member)).2 rfl
  constructor
  · intro opened
    rcases bind_eq_ok.mp opened with ⟨alg, keyed, opened⟩
    split at opened
    case h_2 => cases opened
    case h_1 headerB64 payloadB64 signatureB64 segments =>
      rcases bind_eq_ok.mp opened with ⟨_, header, opened⟩
      obtain rfl := assertHeader_eq_ok.mp header
      rcases bind_eq_ok.mp opened with ⟨signature, decoded, opened⟩
      rcases failIf_bind_eq_ok.mp opened with ⟨length, opened⟩
      rcases bind_eq_ok.mp opened with ⟨_, signed, opened⟩
      rcases bind_eq_ok.mp opened with ⟨payload, read, opened⟩
      split at opened
      case h_2 => cases opened
      case h_1 members parsed =>
        cases opened
        have whole :=
          (splitOn_dots (header_plain alg) (plain read) (plain decoded)).mp segments
        have ascii := signedText_ascii alg (b64urlDecodeStrict_eq_ok.mp read).2.1
        exact {
          signed :=
            ⟨alg, payloadB64, signatureB64, signature, payload, keyed, whole, ascii, decoded,
              not_not.mp length, verifySignature_eq_ok.mp signed, read, parsed⟩
          object := ⟨members, rfl⟩
        }
  · rintro ⟨⟨alg, payloadB64, signatureB64, signature, payload, keyed, whole, -, decoded, length,
      holds, read, parsed⟩, members, rfl⟩
    have segments := (splitOn_dots (header_plain alg) (plain read) (plain decoded)).mpr whole
    refine bind_eq_ok.mpr ⟨alg, keyed, ?_⟩
    simp only [segments]
    refine bind_eq_ok.mpr ⟨(), assertHeader_eq_ok.mpr rfl, ?_⟩
    refine bind_eq_ok.mpr ⟨signature, decoded, ?_⟩
    refine failIf_bind_eq_ok.mpr ⟨not_not.mpr length, ?_⟩
    refine bind_eq_ok.mpr ⟨(), verifySignature_eq_ok.mpr holds, ?_⟩
    refine bind_eq_ok.mpr ⟨payload, read, ?_⟩
    simp only [parsed]

/-- A token that verifies under a key, for an issuer and an audience, at an instant, and the
claims that it carries.
-/
structure VerifiedToken (signatures : TokenSignatures) (parseJson : Bytes → Option Json.Value)
    (token : JsString) (options : VerifyJwsOptions) (claims : VerifiedJws)
    : Prop where
  payload
    : ∃ bag,
        SignedPayload signatures parseJson token options.publicKey bag
        ∧ Carries bag options.claimPolicy claims
        ∧ bag.get (js "jti") = claims.jti.map Json.Value.string
        ∧ claims.jti ≠ some []
  addressed : Addressed options claims

section

variable {signatures : TokenSignatures} {parseJson : Bytes → Option Json.Value}
  {store : FirstSight → Option Bool} {token : JsString} {options : VerifyJwsOptions}

/-- A verification is refused before any replay, or ends with the replay check. -/
theorem verifyJws_cases
    : (∃ reason,
        verifyJws signatures parseJson store token options
          = { asked := [], result := .error reason })
      ∨ ∃ bag claims,
          SignedPayload signatures parseJson token options.publicKey bag
          ∧ Carries bag options.claimPolicy claims
          ∧ Addressed options claims
          ∧ verifyJws signatures parseJson store token options
            = checkReplay store options (bag.get (js "jti")) claims := by
  unfold verifyJws
  split
  case h_1 reason _ => exact .inl ⟨reason, rfl⟩
  case h_2 bag claims checked =>
    obtain ⟨other, opened, checked⟩ := bind_eq_ok.mp checked
    obtain ⟨found, claimed, same⟩ := bind_eq_ok.mp checked
    cases same
    obtain ⟨carries, addressed, -⟩ := checkClaims_eq_ok.mp claimed
    exact .inr ⟨bag, claims, openToken_eq_ok.mp opened, carries, addressed, rfl⟩

/-- A payload that passes every other check is left to the replay check. -/
theorem verifyJws_of_payload {bag : Json.Value} {claims : VerifiedJws}
    (signed : SignedPayload signatures parseJson token options.publicKey bag)
    (carries : Carries bag options.claimPolicy claims) (addressed : Addressed options claims)
    (unread : claims.jti = none)
    : verifyJws signatures parseJson store token options
      = checkReplay store options (bag.get (js "jti")) claims := by
  have checked
      : (do
          let bag ← openToken signatures parseJson token options.publicKey
          let claims ← checkClaims bag options
          .ok (bag, claims) : Verdict (Json.Value × VerifiedJws))
        = .ok (bag, claims) := by
    refine bind_eq_ok.mpr ⟨bag, openToken_eq_ok.mpr signed, ?_⟩
    exact bind_eq_ok.mpr ⟨claims, checkClaims_eq_ok.mpr ⟨carries, addressed, unread⟩, rfl⟩
  rw [verifyJws, checked]

/-- The replay check passes a usable `jti` that the store has not seen. -/
theorem checkReplay_passes {found : Option JsString} {claims : VerifiedJws}
    (usable : found ≠ some [])
    (fresh
      : ∀ provider, options.replay = some provider → found.isSome ∧ ∀ call, store call = some true)
    : (checkReplay store options (found.map Json.Value.string) claims).result
      = .ok { claims with jti := found } := by
  unfold checkReplay
  split
  case h_1 =>
    have read := whenPresent_stringClaim.mpr ⟨(rfl : found.map Json.Value.string = _), usable⟩
    rw [read]
    rfl
  case h_2 provider configured =>
    obtain ⟨present, first⟩ := fresh provider configured
    obtain ⟨eventId, rfl⟩ := Option.isSome_iff_exists.mp present
    have read : stringClaim ((some eventId).map Json.Value.string) = .ok eventId :=
      stringClaim_eq_ok.mpr ⟨rfl, fun empty => usable (congrArg some empty)⟩
    rw [read]
    dsimp only
    rw [first]

/-- The store is asked for a `jti` of the payload, once. -/
theorem checkReplay_asked {jti : Option Json.Value} {claims : VerifiedJws} {call : FirstSight}
    (asked : call ∈ (checkReplay store options jti claims).asked)
    : options.replay = some call.provider
      ∧ call.nowSeconds = options.nowSeconds
      ∧ jti = some (.string call.eventId)
      ∧ call.eventId ≠ []
      ∧ (checkReplay store options jti claims).asked = [call] := by
  unfold checkReplay at asked ⊢
  split at asked
  case h_1 => cases asked
  case h_2 provider configured =>
    split at asked
    case h_1 => cases asked
    case h_2 eventId read =>
      obtain rfl := List.mem_singleton.mp asked
      obtain ⟨found, filled⟩ := stringClaim_eq_ok.mp read
      simp only [configured]
      exact ⟨trivial, trivial, found, filled, trivial⟩

/-- With a store the call resolves only on its first sight. -/
theorem checkReplay_eq_ok {jti : Option Json.Value} {claims verified : VerifiedJws}
    (passed : (checkReplay store options jti claims).result = .ok verified)
    : ∃ found,
        verified = { claims with jti := found }
        ∧ jti = found.map Json.Value.string
        ∧ found ≠ some []
        ∧ ∀ provider,
            options.replay = some provider →
            ∃ eventId,
              found = some eventId
              ∧ (checkReplay store options jti claims).asked
                = [{ provider, eventId, nowSeconds := options.nowSeconds }]
              ∧ store { provider, eventId, nowSeconds := options.nowSeconds } = some true := by
  unfold checkReplay at passed ⊢
  split at passed
  case h_1 unconfigured =>
    cases read : whenPresent stringClaim jti with
    | error reason => simp [read, Except.map] at passed
    | ok found =>
        rw [read] at passed
        cases passed
        obtain ⟨same, filled⟩ := whenPresent_stringClaim.mp read
        refine ⟨found, rfl, same, filled, ?_⟩
        rw [unconfigured]
        exact nofun
  case h_2 provider configured =>
    split at passed
    case h_1 => cases passed
    case h_2 eventId read =>
      dsimp only at passed
      split at passed
      case h_1 => cases passed
      case h_2 => cases passed
      case h_3 first =>
        cases passed
        obtain ⟨found, filled⟩ := stringClaim_eq_ok.mp read
        refine ⟨some eventId, rfl, found, fun empty => filled (Option.some.inj empty), ?_⟩
        intro other same
        obtain rfl := Option.some.inj (configured.symm.trans same)
        exact ⟨eventId, rfl, rfl, first⟩

theorem verifyJws_eq_ok {claims : VerifiedJws}
    (verified : (verifyJws signatures parseJson store token options).result = .ok claims)
    : VerifiedToken signatures parseJson token options claims := by
  rcases verifyJws_cases with ⟨reason, refused⟩ | ⟨bag, found, signed, carries, addressed, checked⟩
  · rw [refused] at verified
    cases verified
  · rw [checked] at verified
    obtain ⟨jti, rfl, same, filled, -⟩ := checkReplay_eq_ok verified
    exact {
      payload := ⟨bag, signed, { carries with }, same, filled⟩
      addressed := { addressed with }
    }

end

/-- A resolved verification vouches for everything that it checks, and the replay store is asked
at most once, after all other checks hold. Witness: the checks inverted in source order; the
replay check is the last one.
-/
theorem verifyJws_sound (signatures : TokenSignatures) (parseJson : Bytes → Option Json.Value)
    (store : FirstSight → Option Bool) (token : JsString) (options : VerifyJwsOptions)
    : (∀ claims,
        (verifyJws signatures parseJson store token options).result = .ok claims →
          VerifiedToken signatures parseJson token options claims
          ∧ ∀ provider,
              options.replay = some provider →
              ∃ jti,
                claims.jti = some jti
                ∧ (verifyJws signatures parseJson store token options).asked
                  = [{ provider, eventId := jti, nowSeconds := options.nowSeconds }]
                ∧ store { provider, eventId := jti, nowSeconds := options.nowSeconds } = some true)
      ∧ (verifyJws signatures parseJson store token options).asked.length ≤ 1
      ∧ ∀ call ∈ (verifyJws signatures parseJson store token options).asked,
          options.replay = some call.provider
          ∧ ∃ claims,
              claims.jti = some call.eventId
              ∧ VerifiedToken signatures parseJson token options claims := by
  refine ⟨fun claims verified => ⟨verifyJws_eq_ok verified, ?_⟩, ?_⟩
  · rcases verifyJws_cases with ⟨reason, refused⟩ | ⟨bag, found, -, -, -, checked⟩
    · rw [refused] at verified
      cases verified
    · rw [checked] at verified ⊢
      obtain ⟨jti, rfl, -, -, first⟩ := checkReplay_eq_ok verified
      exact first
  · rcases verifyJws_cases with
      ⟨reason, refused⟩ | ⟨bag, found, signed, carries, addressed, checked⟩
    · rw [refused]
      exact ⟨Nat.zero_le 1, fun _ member => absurd member List.not_mem_nil⟩
    · rw [checked]
      constructor
      · cases calls : (checkReplay store options (bag.get (js "jti")) found).asked with
        | nil => exact Nat.zero_le 1
        | cons call rest =>
            have asked : call ∈ (checkReplay store options (bag.get (js "jti")) found).asked :=
              calls ▸ List.mem_cons_self
            obtain ⟨-, -, -, -, once⟩ := checkReplay_asked asked
            rw [calls] at once
            rw [once]
            exact le_rfl
      · intro call member
        obtain ⟨configured, -, same, filled, -⟩ := checkReplay_asked member
        refine ⟨configured, { found with jti := some call.eventId }, rfl, ?_⟩
        exact {
          payload :=
            ⟨bag, signed, { carries with }, same, fun empty => filled (Option.some.inj empty)⟩
          addressed := { addressed with }
        }

end StellarOnramp.Gateway
