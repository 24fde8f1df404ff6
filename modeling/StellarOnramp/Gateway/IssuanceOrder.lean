import StellarOnramp.Gateway.Issuance
import StellarOnramp.Gateway.PublishResolve

/-! A whole call of `issueKycCredential`, with the question whether its allocator was asked. What
a request is refused for afterwards costs an index of the bounded public list.
-/

namespace StellarOnramp.Gateway

open Attempts JsText Octets
open StellarOnramp.Identity

-----------------------------------------------------------------------------------------
-- The call
-----------------------------------------------------------------------------------------

/-- A request as it is made: a time is `none` where it is no whole number, and the salt where it
is left to the generator.
-/
structure IssueKycRequest where
  claims : ClaimSet
  walletAddress : JsString
  issuedAt : Option Number
  expiresAt : Option Number
  issuerSecretKey : Bytes
  issuerPublicKey : Bytes
  provider : JsString
  providerRefId : JsString
  subjectId : JsString
  subjectBindingSalt : Option Bytes

/-- The request with whole times. -/
def IssueKycRequest.whole (request : IssueKycRequest) : Issuing IssueCredentialRequest :=
  match request.issuedAt, request.expiresAt with
  | some issuedAt, some expiresAt =>
      .ok
        {
          claims := request.claims
          walletAddress := request.walletAddress
          issuedAt, expiresAt
          issuerSecretKey := request.issuerSecretKey
          issuerPublicKey := request.issuerPublicKey
          provider := request.provider
          providerRefId := request.providerRefId
          subjectId := request.subjectId
        }
  | _, _ => .error .issuance

/-- A call up to its allocator. -/
def IssueKycRequest.prepared (sha256 : Bytes → Bytes) (fresh : Bytes) (request : IssueKycRequest)
    : Issuing PreparedIssuance := do
  let whole ← request.whole
  prepareIssuance sha256 whole (request.subjectBindingSalt.getD fresh)

/-- The end of a call, and whether it asked the allocator. -/
structure IssuanceCall where
  allocated : Bool
  outcome : Issuing IssuedCredential

/-- `allocate` is what the allocator answers or throws, and `fresh` what the generator draws. -/
def issueKycCredential (bbs : BbsLibrary) (sha256 : Bytes → Bytes) (fresh : Bytes)
    (allocate : Issuing (Option Number)) (request : IssueKycRequest)
    : IssuanceCall :=
  match request.prepared sha256 fresh with
  | .error failure => { allocated := false, outcome := .error failure }
  | .ok prepared =>
      {
        allocated := true
        outcome := do
          let answer ← allocate
          completeIssuance bbs sha256 prepared answer
      }

/-- The request itself is refused: nothing is issued, whatever usable index the allocator hands
out and whatever the library signs.
-/
def RefusedForItself (bbs : BbsLibrary) (sha256 : Bytes → Bytes) (fresh : Bytes)
    (request : IssueKycRequest)
    : Prop :=
  ∀ sign index issued,
    0 ≤ index ∧ index ≤ (maxRevocationIndex : Number)
    → (issueKycCredential { bbs with sign } sha256 fresh (.ok (some index)) request).outcome
      ≠ .ok issued

-----------------------------------------------------------------------------------------
-- The checks
-----------------------------------------------------------------------------------------

/-- What `issueKycCredential` checks before it asks the allocator. -/
structure ChecksBefore (fresh : Bytes) (request : IssueKycRequest) : Prop where
  times
    : ∃ issuedAt expiresAt,
        request.issuedAt = some issuedAt
        ∧ request.expiresAt = some expiresAt
        ∧ 0 ≤ issuedAt
        ∧ issuedAt < expiresAt
  secretKey : request.issuerSecretKey.length = 32
  claims : claimBitmap request.claims ≠ 0
  salt : (request.subjectBindingSalt.getD fresh).length = subjectBindingSaltBytes
  address : isStrkeyAny request.walletAddress = true

/-- What the request is checked for afterwards: `issue` compares the keys, and the record needs
its texts and times that fit in 32 bits.
-/
structure ChecksAfter (bbs : BbsLibrary) (sha256 : Bytes → Bytes) (request : IssueKycRequest)
    : Prop where
  keys
    : ∃ publicKey,
        bbs.secretKeyToPublicKey request.issuerSecretKey = some publicKey
        ∧ issuerIdFromPublicKey sha256 publicKey
          = issuerIdFromPublicKey sha256 request.issuerPublicKey
  provider : request.provider ≠ []
  providerRefId : request.providerRefId ≠ []
  subjectId : request.subjectId ≠ []
  expiresAt : ∀ expiresAt, request.expiresAt = some expiresAt → expiresAt ≤ 0xffffffff

-----------------------------------------------------------------------------------------
-- Records
-----------------------------------------------------------------------------------------

theorem nonEmpty_eq_ok {value result : JsString}
    : nonEmpty value = .ok result ↔ value ≠ [] ∧ result = value := by
  rw [nonEmpty, failIf_bind_eq_ok, Except.ok.injEq, @eq_comm _ value result]

theorem u32_eq_ok {value result : Number}
    : u32 value = .ok result ↔ (0 ≤ value ∧ value ≤ 0xffffffff) ∧ result = value := by
  rw [u32, failIf_bind_eq_ok, Except.ok.injEq, @eq_comm _ value result, not_or, not_lt, not_lt]

theorem hex32_eq_ok {value result : JsString}
    : hex32 value = .ok result ↔ isHex32 value = true ∧ result = value := by
  rw [hex32, failIf_bind_eq_ok, Except.ok.injEq, @eq_comm _ value result, Bool.not_eq_false]

/-- What a record needs. -/
structure Recordable (args : IssuanceRecord) : Prop where
  texts
    : args.provider ≠ [] ∧ args.providerRefId ≠ [] ∧ args.subjectId ≠ [] ∧ args.walletCAddr ≠ []
      ∧ args.schemaVersion ≠ []
  bitmap : 0 ≤ args.claimBitmap ∧ args.claimBitmap ≤ 0xffffffff
  index : 0 ≤ args.revocationIndex ∧ args.revocationIndex ≤ 0xffffffff
  times : 0 ≤ args.issuedAt ∧ args.issuedAt < args.expiresAt ∧ args.expiresAt ≤ 0xffffffff
  issuer : isHex32 args.issuerId = true

theorem buildIssuanceRecord_isOk {args : IssuanceRecord}
    : (∃ record, buildIssuanceRecord args = .ok record) ↔ Recordable args := by
  simp only [buildIssuanceRecord, bind_eq_ok, nonEmpty_eq_ok, u32_eq_ok, hex32_eq_ok,
    failIf_eq_ok]
  constructor
  · rintro ⟨record, _, ⟨provider, rfl⟩, _, ⟨providerRefId, rfl⟩, _, ⟨subjectId, rfl⟩, _,
      ⟨walletCAddr, rfl⟩, _, ⟨bitmap, rfl⟩, _, ⟨version, rfl⟩, _, ⟨issuedAt, rfl⟩, _,
      ⟨expiresAt, rfl⟩, _, ⟨index, rfl⟩, _, ⟨issuer, rfl⟩, -, ordered, -⟩
    exact {
      texts := ⟨provider, providerRefId, subjectId, walletCAddr, version⟩
      bitmap
      index
      times := ⟨issuedAt.1, not_le.mp ordered, expiresAt.2⟩
      issuer
    }
  · rintro ⟨⟨provider, providerRefId, subjectId, walletCAddr, version⟩, bitmap, index,
      ⟨natural, ordered, short⟩, issuer⟩
    refine ⟨args, _, ⟨provider, rfl⟩, _, ⟨providerRefId, rfl⟩, _, ⟨subjectId, rfl⟩, _,
      ⟨walletCAddr, rfl⟩, _, ⟨bitmap, rfl⟩, _, ⟨version, rfl⟩, _, ⟨⟨natural, ?_⟩, rfl⟩, _,
      ⟨⟨?_, short⟩, rfl⟩, _, ⟨index, rfl⟩, _, ⟨issuer, rfl⟩, (), not_le.mpr ordered, rfl⟩
    · exact ordered.le.trans short
    · exact natural.trans ordered.le

-----------------------------------------------------------------------------------------
-- The halves of a call
-----------------------------------------------------------------------------------------

section

variable {bbs : BbsLibrary} {sha256 : Bytes → Bytes} {fresh : Bytes} {request : IssueKycRequest}

theorem computeSubjectBinding_eq_ok {walletAddress : JsString} {salt : Bytes} {binding : JsString}
    : computeSubjectBinding sha256 walletAddress salt = .ok binding
      ↔ isStrkeyAny walletAddress = true
        ∧ salt.length = subjectBindingSaltBytes
        ∧ binding = bytesToHex (sha256 (utf8ToBytes walletAddress ++ salt)) := by
  rw [computeSubjectBinding, failIf_bind_eq_ok, failIf_bind_eq_ok, Except.ok.injEq, not_not,
    Bool.not_eq_false, @eq_comm _ _ binding]

/-- The checks of the first half, and what they leave. -/
theorem prepareIssuance_iff {whole : IssueCredentialRequest} {salt : Bytes}
    {prepared : PreparedIssuance}
    : prepareIssuance sha256 whole salt = .ok prepared
      ↔ (0 ≤ whole.issuedAt ∧ whole.issuedAt < whole.expiresAt)
        ∧ whole.issuerSecretKey.length = 32
        ∧ claimBitmap whole.claims ≠ 0
        ∧ salt.length = subjectBindingSaltBytes
        ∧ isStrkeyAny whole.walletAddress = true
        ∧ prepared
          = {
              request := whole
              bitmap := claimBitmap whole.claims
              salt
              subjectBinding := bytesToHex (sha256 (utf8ToBytes whole.walletAddress ++ salt))
              issuerId := issuerIdFromPublicKey sha256 whole.issuerPublicKey
            } := by
  rw [prepareIssuance, failIf_bind_eq_ok, failIf_bind_eq_ok, failIf_bind_eq_ok]
  dsimp only
  rw [failIf_bind_eq_ok, failIf_bind_eq_ok, bind_eq_ok]
  simp only [ofIdentity_eq_ok, computeSubjectBinding_eq_ok, not_lt, not_le, not_not, ne_eq,
    Except.ok.injEq]
  constructor
  · rintro ⟨natural, ordered, key, bits, -, binding, ⟨address, salted, rfl⟩, rfl⟩
    exact ⟨⟨natural, ordered⟩, key, bits, salted, address, rfl⟩
  · rintro ⟨⟨natural, ordered⟩, key, bits, salted, address, rfl⟩
    exact ⟨natural, ordered, key, bits, salted, _, ⟨address, salted, rfl⟩, rfl⟩

/-- A call reaches the allocator when its checks pass. -/
theorem allocated_iff {allocate : Issuing (Option Number)}
    : (issueKycCredential bbs sha256 fresh allocate request).allocated = true
      ↔ ChecksBefore fresh request := by
  have reaches
      : (issueKycCredential bbs sha256 fresh allocate request).allocated = true
        ↔ ∃ prepared, request.prepared sha256 fresh = .ok prepared := by
    unfold issueKycCredential
    cases request.prepared sha256 fresh <;> simp
  rw [reaches]
  simp only [IssueKycRequest.prepared, bind_eq_ok, prepareIssuance_iff]
  constructor
  · rintro ⟨prepared, whole, times, ordered, key, bits, salt, address, -⟩
    unfold IssueKycRequest.whole at times
    split at times
    case h_2 => cases times
    case h_1 issuedAt expiresAt issued expires =>
      obtain rfl := Except.ok.inj times
      exact {
        times := ⟨issuedAt, expiresAt, issued, expires, ordered⟩
        secretKey := key
        claims := bits
        salt
        address
      }
  · rintro ⟨⟨issuedAt, expiresAt, issued, expires, ordered⟩, key, bits, salt, address⟩
    simp only [IssueKycRequest.whole, issued, expires]
    exact ⟨_, _, rfl, ordered, key, bits, salt, address, rfl⟩

-----------------------------------------------------------------------------------------
-- After the allocation
-----------------------------------------------------------------------------------------

theorem isHex32_digest (sized : ∀ octets, (sha256 octets).length = 32) (octets : Bytes)
    : isHex32 (bytesToHex (sha256 octets)) = true := by
  rw [isHex32, bytesToHex_length, sized, bytesToHex_all]
  rfl

theorem claimBitmap_le (claims : ClaimSet) : claimBitmap claims ≤ 0xffffffff := by
  obtain ⟨over18, over21, notSanctioned, notPep, jurisdictionOk, livenessOk⟩ := claims
  revert over18 over21 notSanctioned notPep jurisdictionOk livenessOk
  decide

/-- Claims encode when each of them does. -/
theorem exists_encodeClaims {claims : KycClaims}
    (encodes : ∀ name, ∃ text, encodeValue (claimSpec name) (claims.value name) = .ok text)
    : ∃ messages, encodeClaims claims = .ok messages := by
  choose text encoded using encodes
  refine ⟨claimSpecs.map fun spec => ofOctets spec.name.text ++ js "=" ++ text spec.name, ?_⟩
  refine mapM_eq_ok.mpr ?_
  rw [List.map_map]
  exact List.map_congr_left fun spec _ => encodeClaim_eq_ok.mpr ⟨_, encoded spec.name, rfl⟩

/-- The identity package issues what encodes, under a key whose id the claims name. -/
theorem exists_issue {claims : KycClaims} {secretKey publicKey : Bytes}
    (sized : secretKey.length = 32) (version : claims.schemaVersion = schemaVersion)
    (ordered : claims.issuedAt < claims.expiresAt)
    (encodes : ∀ name, ∃ text, encodeValue (claimSpec name) (claims.value name) = .ok text)
    (keyed : bbs.secretKeyToPublicKey secretKey = some publicKey)
    (named : claims.issuerId = issuerIdFromPublicKey sha256 publicKey)
    : ∃ credential,
        issue { bbs with sign := fun _ _ _ _ => some (List.replicate signatureBytes 0) } sha256
            claims secretKey
          = .ok credential := by
  obtain ⟨messages, encoded⟩ := exists_encodeClaims encodes
  have twelve := (encodeClaims_eq_ok encoded).1
  let signature : Bytes := List.replicate signatureBytes 0
  refine ⟨{ schemaVersion, messages, signature, issuerPublicKey := publicKey, claims }, ?_⟩
  refine failIf_bind_eq_ok.mpr ⟨not_not.mpr sized, ?_⟩
  refine failIf_bind_eq_ok.mpr ⟨not_not.mpr version, ?_⟩
  refine failIf_bind_eq_ok.mpr ⟨not_le.mpr ordered, ?_⟩
  refine bind_eq_ok.mpr ⟨messages, encoded, failIf_bind_eq_ok.mpr ⟨not_not.mpr twelve, ?_⟩⟩
  refine bind_eq_ok.mpr ⟨publicKey, throwing_eq_ok.mpr keyed, ?_⟩
  refine failIf_bind_eq_ok.mpr ⟨not_not.mpr named, ?_⟩
  refine bind_eq_ok.mpr ⟨signature, rfl, ?_⟩
  exact failIf_bind_eq_ok.mpr ⟨not_not.mpr List.length_replicate, rfl⟩

theorem encodeValue_uint {spec : ClaimSpec} {value : Number} (uint : spec.kind = .uint)
    (natural : 0 ≤ value) (short : value ≤ 0xffffffff)
    : ∃ text, encodeValue spec (.number value) = .ok text := by
  have safe : ¬ (¬ isSafeInteger value ∨ value < 0) := by
    rw [not_or, not_not, not_lt, isSafeInteger]
    have bound (whole : Int) (_ : 0 ≤ whole) (_ : whole ≤ 0xffffffff) : whole.natAbs ≤ 2 ^ 53 - 1 := by
      omega
    exact ⟨bound value natural short, natural⟩
  simp only [encodeValue, uint, if_neg safe]
  exact ⟨_, rfl⟩

theorem encodeValue_hex32 {spec : ClaimSpec} {value : JsString} (hex32 : spec.kind = .hex32)
    (hex : isHex32 value = true)
    : ∃ text, encodeValue spec (.string value) = .ok text := by
  simp only [encodeValue, hex32, hex, if_true]
  exact ⟨_, rfl⟩

/-- What a prepared issuance must still satisfy of its own. -/
structure PreparedIssuance.Storable (prepared : PreparedIssuance) : Prop where
  issuer : isHex32 prepared.issuerId = true
  binding : isHex32 prepared.subjectBinding = true
  bitmap : prepared.bitmap ≤ 0xffffffff
  address : prepared.request.walletAddress ≠ []
  natural : 0 ≤ prepared.request.issuedAt
  ordered : prepared.request.issuedAt < prepared.request.expiresAt

theorem storable_of_prepareIssuance (sized : ∀ octets, (sha256 octets).length = 32)
    {whole : IssueCredentialRequest} {salt : Bytes} {prepared : PreparedIssuance}
    (ready : prepareIssuance sha256 whole salt = .ok prepared)
    : prepared.request = whole
      ∧ prepared.issuerId = issuerIdFromPublicKey sha256 whole.issuerPublicKey
      ∧ whole.issuerSecretKey.length = 32
      ∧ prepared.Storable := by
  obtain ⟨⟨natural, ordered⟩, key, -, -, address, rfl⟩ := prepareIssuance_iff.mp ready
  refine ⟨rfl, rfl, key, ?_⟩
  exact {
    issuer := isHex32_digest sized _
    binding := isHex32_digest sized _
    bitmap := claimBitmap_le whole.claims
    address := by
      rintro (empty : whole.walletAddress = [])
      rw [empty] at address
      cases address
    natural
    ordered
  }

/-- The claims of a prepared issuance encode, by cases on the claim. -/
theorem PreparedIssuance.Storable.encodes {prepared : PreparedIssuance}
    (storable : prepared.Storable) (short : prepared.request.expiresAt ≤ 0xffffffff)
    (name : ClaimName)
    : ∃ text, encodeValue (claimSpec name) ((prepared.claims 0).value name) = .ok text := by
  have zero_le : (0 : Number) ≤ 0xffffffff := by decide
  have early := storable.ordered.le.trans short
  have late := storable.natural.trans storable.ordered.le
  cases name with
  | schemaVersion => exact ⟨_, rfl⟩
  | issuerId => exact encodeValue_hex32 rfl storable.issuer
  | revocationIndex => exact encodeValue_uint rfl le_rfl zero_le
  | issuedAt => exact encodeValue_uint rfl storable.natural early
  | expiresAt => exact encodeValue_uint rfl late short
  | subjectBinding => exact encodeValue_hex32 rfl storable.binding
  | _ => exact ⟨_, rfl⟩

/-- The first half leaves a request that the second half can only refuse for its keys, its texts
or a time that is too late.
-/
theorem exists_completeIssuance_iff (sized : ∀ octets, (sha256 octets).length = 32)
    {whole : IssueCredentialRequest} {salt : Bytes} {prepared : PreparedIssuance}
    (ready : prepareIssuance sha256 whole salt = .ok prepared)
    : (∃ sign index issued,
          (0 ≤ index ∧ index ≤ (maxRevocationIndex : Number))
          ∧ completeIssuance { bbs with sign } sha256 prepared (some index) = .ok issued)
      ↔ (∃ publicKey,
            bbs.secretKeyToPublicKey whole.issuerSecretKey = some publicKey
            ∧ issuerIdFromPublicKey sha256 publicKey
              = issuerIdFromPublicKey sha256 whole.issuerPublicKey)
        ∧ whole.provider ≠ []
        ∧ whole.providerRefId ≠ []
        ∧ whole.subjectId ≠ []
        ∧ whole.expiresAt ≤ 0xffffffff := by
  obtain ⟨rfl, issuer, key, storable⟩ := storable_of_prepareIssuance sized ready
  constructor
  · rintro ⟨sign, index, issued, -, completed⟩
    obtain ⟨usable, allowed, completed⟩ := bind_eq_ok.mp completed
    obtain ⟨credential, signed, completed⟩ := bind_eq_ok.mp completed
    obtain ⟨record, built, -⟩ := bind_eq_ok.mp completed
    obtain ⟨same, signed⟩ := issue_eq_ok (ofIdentity_eq_ok.mp signed)
    have recordable := buildIssuanceRecord_isOk.mp ⟨record, built⟩
    obtain ⟨provider, providerRefId, subjectId, -⟩ := recordable.texts
    have named := signed.named
    rw [same] at named
    exact ⟨⟨_, signed.keyed, named.symm.trans issuer⟩, provider, providerRefId, subjectId,
      recordable.times.2.2⟩
  · rintro ⟨⟨publicKey, keyed, named⟩, provider, providerRefId, subjectId, short⟩
    have usable : assertUsableRevocationIndex (some 0) = .ok 0 := rfl
    have named' : (prepared.claims 0).issuerId = issuerIdFromPublicKey sha256 publicKey :=
      issuer.trans named.symm
    obtain ⟨credential, signed⟩ :=
      exists_issue key rfl storable.ordered (storable.encodes short) keyed named'
    have version : schemaVersion ≠ [] := by decide
    have index : (0 : Number) ≤ 0xffffffff := by decide
    have recordable : Recordable (prepared.record 0) := {
      texts := ⟨provider, providerRefId, subjectId, storable.address, version⟩
      bitmap := ⟨Int.natCast_nonneg _, Int.ofNat_le.mpr storable.bitmap⟩
      index := ⟨le_rfl, index⟩
      times := ⟨storable.natural, storable.ordered, short⟩
      issuer := storable.issuer
    }
    obtain ⟨record, built⟩ := buildIssuanceRecord_isOk.mpr recordable
    let serialized := serializeCredential credential
    let issued : IssuedCredential :=
      {
        credential, serialized, record
        subjectBindingSalt := prepared.salt
        claimBitmap := prepared.bitmap
      }
    refine ⟨fun _ _ _ _ => some (List.replicate signatureBytes 0), 0, issued, ?_, ?_⟩
    · exact ⟨le_rfl, by decide⟩
    refine bind_eq_ok.mpr ⟨0, usable, ?_⟩
    refine bind_eq_ok.mpr ⟨credential, ofIdentity_eq_ok.mpr signed, ?_⟩
    exact bind_eq_ok.mpr ⟨record, built, rfl⟩

/-- A request that reaches the allocator is refused for itself when a later check fails. -/
theorem refusedForItself_iff (sized : ∀ octets, (sha256 octets).length = 32)
    (reaches : ChecksBefore fresh request)
    : RefusedForItself bbs sha256 fresh request ↔ ¬ ChecksAfter bbs sha256 request := by
  obtain ⟨⟨issuedAt, expiresAt, issued, expires, ordered⟩, key, bits, salt, address⟩ := reaches
  let whole : IssueCredentialRequest :=
    {
      claims := request.claims
      walletAddress := request.walletAddress
      issuedAt, expiresAt
      issuerSecretKey := request.issuerSecretKey
      issuerPublicKey := request.issuerPublicKey
      provider := request.provider
      providerRefId := request.providerRefId
      subjectId := request.subjectId
    }
  have asked : request.whole = .ok whole := by
    simp only [IssueKycRequest.whole, issued, expires, whole]
  obtain ⟨prepared, ready⟩
      : ∃ prepared,
          prepareIssuance sha256 whole (request.subjectBindingSalt.getD fresh) = .ok prepared :=
    ⟨_, prepareIssuance_iff.mpr ⟨ordered, key, bits, salt, address, rfl⟩⟩
  have prepares : request.prepared sha256 fresh = .ok prepared :=
    bind_eq_ok.mpr ⟨whole, asked, ready⟩
  have outcome (bbs : BbsLibrary) (index : Number)
      : (issueKycCredential bbs sha256 fresh (.ok (some index)) request).outcome
        = completeIssuance bbs sha256 prepared (some index) := by
    unfold issueKycCredential
    rw [prepares]
    rfl
  rw [← not_iff_not, not_not]
  simp only [RefusedForItself, outcome, not_forall, exists_prop, ne_eq, not_not]
  rw [exists_completeIssuance_iff sized ready]
  constructor
  · rintro ⟨keys, provider, providerRefId, subjectId, short⟩
    refine { keys, provider, providerRefId, subjectId, expiresAt := fun other same => ?_ }
    obtain rfl := Option.some.inj (expires.symm.trans same)
    exact short
  · rintro ⟨keys, provider, providerRefId, subjectId, short⟩
    exact ⟨keys, provider, providerRefId, subjectId, short expiresAt expires⟩

/-- A request that is refused for itself costs no index when the checks before the allocation
find what is wrong with it, and costs one when only a later check does.
-/
theorem refused_request_burns_no_index_iff (sized : ∀ octets, (sha256 octets).length = 32)
    : (RefusedForItself bbs sha256 fresh request
          → ∀ allocate, (issueKycCredential bbs sha256 fresh allocate request).allocated = false)
      ↔ (ChecksBefore fresh request → ChecksAfter bbs sha256 request) := by
  by_cases reaches : ChecksBefore fresh request
  · have asks (allocate : Issuing (Option Number))
        : (issueKycCredential bbs sha256 fresh allocate request).allocated = true :=
      allocated_iff.mpr reaches
    simp only [refusedForItself_iff sized reaches, asks, Bool.true_eq_false, forall_const,
      reaches]
    exact not_not
  · constructor
    · exact fun _ passes => absurd passes reaches
    · intro _ _ allocate
      exact Bool.eq_false_iff.mpr fun asks => reaches (allocated_iff.mp asks)

end

-----------------------------------------------------------------------------------------
-- An empty reference
-----------------------------------------------------------------------------------------

/-- A library whose public keys are padded secret keys. -/
def paddingBbs : BbsLibrary where
  secretKeyToPublicKey secretKey := some (beBytes 96 (beNat secretKey))
  sign _ _ _ messages := some (beBytes 80 (beNat messages.flatten))
  deriveProof _ _ _ _ _ _ := none

def sampleIssueRequest (providerRefId : JsString) : IssueKycRequest where
  claims :=
    {
      over18 := true, over21 := true, notSanctioned := true, notPep := true
      jurisdictionOk := true, livenessOk := true
    }
  walletAddress := js "CAAQCAIBAEAQCAIBAEAQCAIBAEAQCAIBAEAQCAIBAEAQCAIBAEAQC526"
  issuedAt := some 1700000000
  expiresAt := some 1731536000
  issuerSecretKey := beBytes 32 7
  issuerPublicKey := beBytes 96 7
  provider := js "kyc-provider"
  providerRefId
  subjectId := js "sub_opaque_01HX9Q2M4K"
  subjectBindingSalt := some (List.replicate 32 7)

theorem sampleSha256_length (octets : Bytes) : (sampleSha256 octets).length = 32 :=
  beBytes_length _ _

theorem sampleIssueRequest_reaches (providerRefId : JsString)
    : ChecksBefore [] (sampleIssueRequest providerRefId) where
  times := ⟨1700000000, 1731536000, rfl, rfl, by decide, by decide⟩
  secretKey := beBytes_length _ _
  claims := show claimBitmap (sampleIssueRequest []).claims ≠ 0 by decide
  salt := rfl
  address := show isStrkeyAny (sampleIssueRequest []).walletAddress = true by decide

/-- A request without a provider reference is refused for itself, and costs an index. -/
theorem empty_reference_burns_index
    : ¬ ∀ request,
          RefusedForItself paddingBbs sampleSha256 [] request
          → ∀ allocate,
              (issueKycCredential paddingBbs sampleSha256 [] allocate request).allocated
              = false := by
  intro free
  have reaches := sampleIssueRequest_reaches []
  have refused : RefusedForItself paddingBbs sampleSha256 [] (sampleIssueRequest []) :=
    (refusedForItself_iff sampleSha256_length reaches).mpr fun passes => passes.providerRefId rfl
  have asks := (@allocated_iff paddingBbs sampleSha256 _ _ (.ok (some 0))).mpr reaches
  exact Bool.false_ne_true ((free _ refused _).symm.trans asks)

theorem refused_request_burns_no_index_iff_sample
    : (∀ octets, (sampleSha256 octets).length = 32)
      ∧ ((RefusedForItself paddingBbs sampleSha256 [] (sampleIssueRequest (js "ref"))
            → ∀ allocate,
                (issueKycCredential paddingBbs sampleSha256 [] allocate
                    (sampleIssueRequest (js "ref"))).allocated
                = false)
          ↔ (ChecksBefore [] (sampleIssueRequest (js "ref"))
            → ChecksAfter paddingBbs sampleSha256 (sampleIssueRequest (js "ref")))) :=
  ⟨sampleSha256_length, refused_request_burns_no_index_iff sampleSha256_length⟩

end StellarOnramp.Gateway
