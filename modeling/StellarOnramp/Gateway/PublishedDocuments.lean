import StellarOnramp.Gateway.StatusPublisher
import StellarOnramp.Identity.StatusRoundTrip

/-! What a published document says, and which pinned signers accept it. -/

namespace StellarOnramp.Gateway

open Attempts JsText Octets
open StellarOnramp.Identity

/-- The document of a request, with the signature over it. -/
def signedDocument (request : PublishStatusListRequest) (list : BitstringStatusList)
    (signature : Bytes)
    : Json.Value :=
  (unsignedDocument request list (dateText request.validFromSeconds)
      (dateText request.validUntil)).extend
    (js "proof")
    ((proofConfigOf request (dateText request.validFromSeconds)).extend (js "proofValue")
      (.string (encodeProofValue signature)))

/-- The document of a request with any dates, and a signature in its proof. -/
def sealedDocument (request : PublishStatusListRequest) (list : BitstringStatusList)
    (validFrom validUntil : JsString) (signature : Bytes)
    : Json.Value :=
  (unsignedDocument request list validFrom validUntil).extend (js "proof")
    ((proofConfigOf request validFrom).extend (js "proofValue")
      (.string (encodeProofValue signature)))

/-- What the signature of a request is over. -/
def signedInput (sha256 : Bytes → Bytes) (request : PublishStatusListRequest)
    (list : BitstringStatusList)
    : Attempt Bytes :=
  statusListSigningInput sha256
    (unsignedDocument request list (dateText request.validFromSeconds)
      (dateText request.validUntil))
    (proofConfigOf request (dateText request.validFromSeconds))

/-- How a document was published. -/
structure Published (libraries : StatusLibraries) (request : PublishStatusListRequest)
    (list : BitstringStatusList) (input signature : Bytes) (document : Json.Value)
    : Prop where
  reachable : ∃ url, assertHttpsUrl libraries request.url (js "status list URL") = .ok url
  issuer : request.issuer ≠ []
  natural : 0 ≤ request.validFromSeconds
  window : request.validFromSeconds < request.validUntil
  encoded : encodeStatusList libraries.platform request.encoding = .ok list
  written : signedInput libraries.sha256 request list = .ok input
  signed
    : ∃ der,
        request.signingKey.privateKey = .ok der
        ∧ libraries.signatures.sign der input = some signature
  document : document = signedDocument request list signature

theorem toXsdDateTime_eq_ok {unixSeconds : Number} {text : JsString}
    (written : toXsdDateTime unixSeconds = .ok text)
    : text = dateText unixSeconds := by
  rcases failIf_bind_eq_ok.mp written with ⟨-, written⟩
  rcases failIf_bind_eq_ok.mp written with ⟨-, written⟩
  cases written
  rfl

/-- Witness: invert the checks in source order. -/
theorem publishStatusList_eq_ok {libraries : StatusLibraries}
    {request : PublishStatusListRequest} {document : Json.Value}
    (published : publishStatusList libraries request = .ok document)
    : ∃ list input signature, Published libraries request list input signature document := by
  rcases bind_eq_ok.mp published with ⟨url, reachable, published⟩
  rcases failIf_bind_eq_ok.mp published with ⟨issuer, published⟩
  rcases failIf_bind_eq_ok.mp published with ⟨-, published⟩
  rcases failIf_bind_eq_ok.mp published with ⟨natural, published⟩
  rcases failIf_bind_eq_ok.mp published with ⟨window, published⟩
  rcases bind_eq_ok.mp published with ⟨_, -, published⟩
  rcases bind_eq_ok.mp published with ⟨list, encoded, published⟩
  rcases bind_eq_ok.mp published with ⟨validFrom, fromText, published⟩
  rcases bind_eq_ok.mp published with ⟨validUntil, untilText, published⟩
  rcases bind_eq_ok.mp published with ⟨created, createdText, published⟩
  obtain rfl := toXsdDateTime_eq_ok fromText
  obtain rfl := toXsdDateTime_eq_ok untilText
  obtain rfl := toXsdDateTime_eq_ok createdText
  rcases bind_eq_ok.mp published with ⟨der, keyed, published⟩
  rcases bind_eq_ok.mp published with ⟨input, written, published⟩
  rcases bind_eq_ok.mp published with ⟨signature, signed, published⟩
  cases published
  refine ⟨list, input, signature, ?_⟩
  exact {
    reachable := ⟨url, reachable⟩
    issuer
    natural := not_lt.mp natural
    window := not_le.mp window
    encoded
    written
    signed := ⟨der, keyed, throwing_eq_ok.mp signed⟩
    document := rfl
  }

/-- The runtime verifies the signatures of a key under its raw public key. -/
structure SignsFor (signatures : Signatures) (key : SigningKey) (publicKeyRaw : Bytes) : Prop where
  length : publicKeyRaw.length = 32
  verifies
    : ∀ der message signature,
        key.privateKey = .ok der
        → signatures.sign der message = some signature
        → signature.length = 64
          ∧ signatures.verify (spkiPrologue ++ publicKeyRaw) message signature = some true

-----------------------------------------------------------------------------------------
-- The members of a document
-----------------------------------------------------------------------------------------

section Members

variable (request : PublishStatusListRequest) (list : BitstringStatusList)
  (validFrom validUntil : JsString) (signature : Bytes)

/-- The proof of the document. -/
def sealedProof : Json.Value :=
  (proofConfigOf request validFrom).extend (js "proofValue")
    (.string (encodeProofValue signature))

theorem sealedDocument_issuer
    : Json.text (sealedDocument request list validFrom validUntil signature) (js "issuer")
      = some request.issuer :=
  rfl

theorem sealedDocument_id
    : Json.text (sealedDocument request list validFrom validUntil signature) (js "id")
      = some request.url :=
  rfl

theorem sealedDocument_subject
    : (sealedDocument request list validFrom validUntil signature).get (js "credentialSubject")
      = some (credentialSubject request.url list) :=
  rfl

theorem sealedDocument_proof
    : (sealedDocument request list validFrom validUntil signature).get (js "proof")
      = some (sealedProof request validFrom signature) :=
  rfl

theorem sealedProof_verificationMethod
    : Json.text (sealedProof request validFrom signature) (js "verificationMethod")
      = some request.verificationMethod :=
  rfl

/-- The subject of a document is its list. -/
theorem toBitstringStatusList_sealedDocument
    : toBitstringStatusList (sealedDocument request list validFrom validUntil signature)
      = list := by
  obtain ⟨statusPurpose, encodedList, statusSize, statusMessage⟩ := list
  rw [toBitstringStatusList, sealedDocument_subject]
  cases statusSize <;> cases statusMessage <;> rfl

theorem toBitstringStatusList_signedDocument
    : toBitstringStatusList (signedDocument request list signature) = list :=
  toBitstringStatusList_sealedDocument request list _ _ signature

end Members

-----------------------------------------------------------------------------------------
-- Which signers accept a document
-----------------------------------------------------------------------------------------

theorem assertHttpsUrl_eq_ok {libraries : StatusLibraries} {raw what : JsString} {url : Url}
    : assertHttpsUrl libraries raw what = .ok url
      ↔ raw ≠ []
        ∧ libraries.parseUrl raw none = some url
        ∧ url.protocol = js "https:"
        ∧ url.username = []
        ∧ url.password = [] := by
  rw [assertHttpsUrl, failIf_bind_eq_ok]
  refine and_congr_right fun _ => ?_
  cases parsed : libraries.parseUrl raw none with
  | none => simp
  | some other =>
      simp only [failIf_bind_eq_ok, not_not, not_or, Except.ok.injEq, Option.some.injEq]
      constructor
      · rintro ⟨secure, ⟨username, password⟩, rfl⟩
        exact ⟨rfl, secure, username, password⟩
      · rintro ⟨rfl, secure, username, password⟩
        exact ⟨secure, ⟨username, password⟩, rfl⟩

/-- The date text of an instant is never empty. -/
theorem dateText_ne_nil (unixSeconds : Number) : dateText unixSeconds ≠ [] :=
  List.append_ne_nil_of_right_ne_nil _ (by decide)

theorem assertMember_eq_ok {document : Json.Value} {key complaint text : JsString}
    (found : Json.text document key = some text) (filled : text ≠ [])
    : assertMember document key complaint = .ok () := by
  apply failIf_eq_ok.mpr
  rw [found]
  exact filled

/-- A document with an id, an issuer and two dates has the shape. -/
theorem assertDocumentShape_sealedDocument {request : PublishStatusListRequest}
    {validFrom validUntil : JsString} (url : request.url ≠ []) (issuer : request.issuer ≠ [])
    (begins : validFrom ≠ []) (ends : validUntil ≠ []) (list : BitstringStatusList)
    (signature : Bytes)
    : assertDocumentShape (sealedDocument request list validFrom validUntil signature)
      = .ok () := by
  have context
      : memberIncludes (sealedDocument request list validFrom validUntil signature)
          (js "@context") vcV2Context
        = true := by
    have found
        : (sealedDocument request list validFrom validUntil signature).get (js "@context")
          = some (.array [.string vcV2Context]) := rfl
    rw [memberIncludes, found]
    simp [Json.Value.asArray, Json.Value.includesText, Json.Value.asString]
  have kind
      : memberIncludes (sealedDocument request list validFrom validUntil signature) (js "type")
          bitstringStatusListCredentialType
        = true := by
    have found
        : (sealedDocument request list validFrom validUntil signature).get (js "type")
          = some
              (.array
                [
                  .string (js "VerifiableCredential"),
                  .string bitstringStatusListCredentialType
                ]) := rfl
    rw [memberIncludes, found]
    simp [Json.Value.asArray, Json.Value.includesText, Json.Value.asString]
  have object
      : (sealedDocument request list validFrom validUntil signature).isObject = true := rfl
  refine failIf_bind_eq_ok.mpr ⟨ne_false_of_eq_true object, ?_⟩
  refine failIf_bind_eq_ok.mpr ⟨ne_false_of_eq_true context, ?_⟩
  refine failIf_bind_eq_ok.mpr ⟨ne_false_of_eq_true kind, ?_⟩
  refine bind_eq_ok.mpr
    ⟨(), assertMember_eq_ok (sealedDocument_id request list validFrom validUntil signature) url, ?_⟩
  refine bind_eq_ok.mpr
    ⟨(), assertMember_eq_ok (sealedDocument_issuer request list validFrom validUntil signature)
      issuer, ?_⟩
  refine bind_eq_ok.mpr ⟨(), assertMember_eq_ok rfl begins, ?_⟩
  refine bind_eq_ok.mpr ⟨(), assertMember_eq_ok rfl ends, ?_⟩
  rw [sealedDocument_subject]
  refine failIf_bind_eq_ok.mpr ⟨not_not.mpr rfl, failIf_eq_ok.mpr ?_⟩
  exact not_or.mpr ⟨Option.some_ne_none _, Option.some_ne_none _⟩

/-- The signature of a document stands in its proof. -/
theorem decodeProofValue_encodeProofValue {signature bytes : Bytes}
    : decodeProofValue (some (.string (encodeProofValue signature))) = .ok bytes
      ↔ signature.length = 64 ∧ bytes = signature := by
  simp only [encodeProofValue, decodeProofValue]
  rw [failIf_bind_eq_ok, base64urlDecode_base64urlEncode]
  constructor
  · rintro ⟨-, read⟩
    rcases failIf_bind_eq_ok.mp read with ⟨length, read⟩
    cases read
    exact ⟨not_not.mp length, rfl⟩
  · rintro ⟨length, rfl⟩
    exact ⟨by simp, failIf_bind_eq_ok.mpr ⟨not_not.mpr length, rfl⟩⟩

/-- A pinned signer that a request names. -/
structure NamesSigner (request : PublishStatusListRequest) (expected : ExpectedSigner) : Prop where
  issuer : request.issuer = expected.issuer
  method : ∀ label ∈ expected.verificationMethod, request.verificationMethod = label

theorem assertSigner_sealedDocument {request : PublishStatusListRequest}
    {list : BitstringStatusList} {validFrom validUntil : JsString} {signature : Bytes}
    {expected : ExpectedSigner}
    : assertSigner (sealedDocument request list validFrom validUntil signature)
          (sealedProof request validFrom signature) expected
        = .ok ()
      ↔ NamesSigner request expected ∧ expected.publicKeyRaw.length = 32 := by
  rw [assertSigner, failIf_bind_eq_ok, failIf_bind_eq_ok, failIf_eq_ok, not_not, not_not,
    sealedDocument_issuer, sealedProof_verificationMethod, Option.some.injEq]
  have labels
      : ¬ expected.verificationMethod.any
            (fun label => some request.verificationMethod != some label)
          = true
        ↔ ∀ label ∈ expected.verificationMethod, request.verificationMethod = label := by
    cases expected.verificationMethod <;> simp
  rw [labels]
  constructor
  · rintro ⟨issuer, method, length⟩
    exact ⟨{ issuer, method }, length⟩
  · rintro ⟨names, length⟩
    exact ⟨names.issuer, names.method, length⟩

/-- A sealed document is accepted by exactly the signers that it names and whose key verifies
its signature.
-/
theorem verify_sealedDocument {libraries : StatusLibraries} {request : PublishStatusListRequest}
    {validFrom validUntil : JsString} {list : BitstringStatusList} {input signature : Bytes}
    (url : request.url ≠ []) (issuer : request.issuer ≠ []) (begins : validFrom ≠ [])
    (ends : validUntil ≠ [])
    (written
      : statusListSigningInput libraries.sha256 (unsignedDocument request list validFrom validUntil)
          (proofConfigOf request validFrom)
        = .ok input)
    {expected : ExpectedSigner}
    : verifyStatusListCredential libraries.signatures libraries.sha256
          (sealedDocument request list validFrom validUntil signature) expected
        = .ok ()
      ↔ NamesSigner request expected
        ∧ expected.publicKeyRaw.length = 32
        ∧ signature.length = 64
        ∧ libraries.signatures.verify (spkiPrologue ++ expected.publicKeyRaw) input signature
          = some true := by
  have shape := assertDocumentShape_sealedDocument url issuer begins ends list signature
  have labels : assertProofLabels (sealedProof request validFrom signature) = .ok () := by
    refine failIf_bind_eq_ok.mpr ⟨not_not.mpr rfl, failIf_bind_eq_ok.mpr ⟨not_not.mpr rfl, ?_⟩⟩
    exact failIf_eq_ok.mpr (not_not.mpr rfl)
  have value
      : (sealedProof request validFrom signature).get (js "proofValue")
        = some (.string (encodeProofValue signature)) := rfl
  have written
      : statusListSigningInput libraries.sha256
          (sealedDocument request list validFrom validUntil signature)
          ((sealedProof request validFrom signature).without (js "proofValue"))
        = .ok input := written
  rw [verifyStatusListCredential, bind_eq_ok]
  simp only [shape, sealedDocument_proof, labels, value, written]
  constructor
  · rintro ⟨_, -, verified⟩
    rcases bind_eq_ok.mp verified with ⟨_, -, verified⟩
    rcases bind_eq_ok.mp verified with ⟨_, named, verified⟩
    rcases bind_eq_ok.mp verified with ⟨_, read, verified⟩
    rcases bind_eq_ok.mp verified with ⟨_, same, verified⟩
    rcases bind_eq_ok.mp verified with ⟨ok, checked, answered⟩
    obtain rfl := Except.ok.inj same
    obtain ⟨names, length⟩ := assertSigner_sealedDocument.mp named
    obtain ⟨signed, rfl⟩ := decodeProofValue_encodeProofValue.mp read
    have accepted := eq_true_of_ne_false (failIf_eq_ok.mp answered)
    rw [accepted] at checked
    exact ⟨names, length, signed, throwing_eq_ok.mp checked⟩
  · rintro ⟨names, length, signed, checked⟩
    refine ⟨(), trivial, bind_eq_ok.mpr ⟨(), rfl, bind_eq_ok.mpr ⟨(), ?_, ?_⟩⟩⟩
    · exact assertSigner_sealedDocument.mpr ⟨names, length⟩
    · refine bind_eq_ok.mpr ⟨signature, ?_, bind_eq_ok.mpr ⟨input, rfl, ?_⟩⟩
      · exact decodeProofValue_encodeProofValue.mpr ⟨signed, rfl⟩
      · exact bind_eq_ok.mpr ⟨true, throwing_eq_ok.mpr checked, failIf_eq_ok.mpr (by simp)⟩

/-- So is a published one. -/
theorem Published.verify_eq_ok {libraries : StatusLibraries}
    {request : PublishStatusListRequest} {list : BitstringStatusList} {input signature : Bytes}
    {document : Json.Value}
    (published : Published libraries request list input signature document)
    {expected : ExpectedSigner}
    : verifyStatusListCredential libraries.signatures libraries.sha256 document expected = .ok ()
      ↔ NamesSigner request expected
        ∧ expected.publicKeyRaw.length = 32
        ∧ signature.length = 64
        ∧ libraries.signatures.verify (spkiPrologue ++ expected.publicKeyRaw) input signature
          = some true := by
  obtain ⟨url, reachable⟩ := published.reachable
  rw [published.document]
  exact
    verify_sealedDocument (assertHttpsUrl_eq_ok.mp reachable).1 published.issuer
      (dateText_ne_nil request.validFromSeconds) (dateText_ne_nil request.validUntil)
      published.written

end StellarOnramp.Gateway
