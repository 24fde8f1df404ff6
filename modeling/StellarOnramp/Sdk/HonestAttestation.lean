import StellarOnramp.Identity.Predicates
import StellarOnramp.KycGate.Runs
import StellarOnramp.Sdk.AttestArgs
import StellarOnramp.Sdk.ClaimEncoding
import StellarOnramp.Sdk.Expiry

/-! From an issued credential to an accepted attestation. The client reads the ledger once,
derives a proof and builds the arguments; the gate checks them in a later ledger.
-/

namespace StellarOnramp.Sdk

open Attempts JsText Octets Lifetimes
open StellarOnramp.Gateway
open StellarOnramp.Identity
open StellarOnramp.KycGate (World RegistryView)
open StellarOnramp.Soroban

-----------------------------------------------------------------------------------------
-- The call
-----------------------------------------------------------------------------------------

/-- The BBS library and the gate's verifier fit together. What the library signs and derives has
the layout of the ciphersuite, and the gate accepts its uncompressed form under the matching
key, header, presentation header and disclosure.
-/
structure ProofsVerify (bbs : BbsLibrary) (curves : CurveLibrary) (env : KycGate.Env) : Prop where
  verifies
    : ∀ {secretKey publicKey signature header presentationHeader octets : Bytes}
        {messages disclosed : List Bytes} {indexes : List Number} {key : BytesN 192},
        bbs.secretKeyToPublicKey secretKey = some publicKey
        → decompressG2 curves publicKey = .ok key.val
        → messages.length = schemaAttributeCount
        → bbs.sign secretKey publicKey header messages = some signature
        → indexes.Pairwise (fun left right => left < right)
        → (∀ index ∈ indexes, 0 ≤ index)
        → indexes.map (fun index => messages[index.toNat]?) = disclosed.map some
        → bbs.deriveProof publicKey signature header messages presentationHeader indexes
          = some octets
        → ∃ proof,
            IsWireForm curves octets proof
            ∧ env.verifyBbsProof key header presentationHeader (indexes.map wireIndex) disclosed
                proof
              = .ok true

/-- What a client is given, and what it makes of it. -/
structure HonestCall where
  credential : Credential
  names : List ClaimName
  subject : Address
  nonce : BytesN 32
  networkPassphrase : JsString
  /-- The ledger that both deadlines are read in. -/
  sequence : Number
  margin : Number
  ledgersAhead : Number
  predicate : Predicate
  ledgerExpiry : Number
  expiresAt : Number
  proof : Proof
  values : List ScVal

def HonestCall.binding (call : HonestCall) (contract : Address) : ProofBinding :=
  {
    nonce := bytesToHex call.nonce.val
    walletAddress := addressText call.subject
    contractId := addressText contract
    networkPassphrase := call.networkPassphrase
    ledgerExpiry := call.ledgerExpiry
  }

def HonestCall.input (call : HonestCall) (epoch : UInt32) : AttestBbsArgsInput :=
  {
    subject := addressText call.subject
    issuerId := call.credential.claims.issuerId
    claimsBitmap := deriveGrantedClaims call.proof.disclosedIndexes call.proof.disclosedMessages
    expiresAt := call.expiresAt
    revocationEpoch := epoch.toNat
    revocationIndex := call.credential.claims.revocationIndex
    proof := call.proof
    nonceHex := bytesToHex call.nonce.val
    ledgerExpiry := call.ledgerExpiry
  }

/-- Every part of the call is what the client's code computed. -/
structure HonestCall.Built (call : HonestCall) (bbs : BbsLibrary) (curves : CurveLibrary)
    (addresses : AddressReader) (env : KycGate.Env) (epoch : UInt32)
    : Prop where
  requested : gatePredicateFor call.names = .ok call.predicate
  clamped : ledgerExpiryFor call.sequence call.margin = .ok call.ledgerExpiry
  dated : recordExpiresAtFor call.sequence call.ledgersAhead = .ok call.expiresAt
  proved
    : prove bbs env.sha256 call.credential call.predicate
        (call.binding env.currentContractAddress)
      = .ok call.proof
  written : attestBbsArgs addresses curves (call.input epoch) = .ok call.values

/-- A gate that the call may be given to: the issuer is active with the key it signed with, the
nonce is fresh, both deadlines are ahead, and no live record or tombstone of the subject
expires as late.
-/
structure HonestCall.Admitted (call : HonestCall) (curves : CurveLibrary) (env : KycGate.Env)
    (activeKey : RegistryView) (world : World)
    : Prop where
  network : env.sha256 (utf8ToBytes call.networkPassphrase) = env.networkId
  active
    : ∃ registry issuerId key,
        world.gate.registry = some registry
        ∧ hexToBytes call.credential.claims.issuerId = some issuerId.val
        ∧ activeKey registry issuerId = some key
        ∧ decompressG2 curves call.credential.issuerPublicKey = .ok key.val
  fresh : has world.ledger.sequence.toNat (world.gate.nonces call.nonce) = false
  later : call.sequence ≤ world.ledger.sequence.toNat
  inTime : world.ledger.sequence.toNat ≤ call.ledgerExpiry
  unexpired : world.ledger.sequence.toNat ≤ call.expiresAt
  fresher
    : ∀ record,
        world.record call.subject = some record
        → world.ledger.sequence.toNat ≤ record.expiresAt.toNat ∨ record.claims = 0
        → record.expiresAt.toNat < call.expiresAt

-----------------------------------------------------------------------------------------
-- What a built call discloses
-----------------------------------------------------------------------------------------

section

variable {bbs : BbsLibrary} {curves : CurveLibrary} {addresses : AddressReader}
  {env : KycGate.Env} {secretKey : Bytes} {epoch : UInt32} {call : HonestCall}

/-- A presentation shows the credential's messages at its indexes. -/
theorem discloses_of_derived {sha256 : Bytes → Bytes} {credential : Credential}
    {revealed : List Number} {proof : Proof}
    (derived : Derived bbs sha256 credential revealed proof)
    : Discloses credential.messages proof.disclosedIndexes proof.disclosedMessages := by
  have natural : ∀ index ∈ proof.disclosedIndexes, 0 ≤ index := fun index member =>
    (derived.indexes.2.1 index member).1
  refine ⟨natural, ?_⟩
  have held : ∀ index ∈ proof.disclosedIndexes,
      credential.messages[index.toNat]? = (credential.messageAt index).toOption := by
    intro index member
    rw [Credential.messageAt, if_neg (Int.not_lt.mpr (natural index member))]
    cases credential.messages[index.toNat]? <;> rfl
  calc proof.disclosedIndexes.map (fun index => credential.messages[index.toNat]?)
      = (proof.disclosedIndexes.map credential.messageAt).map Except.toOption := by
        rw [List.map_map]
        exact List.map_congr_left held
    _ = proof.disclosedMessages.map some := by
        rw [derived.read, List.map_map]
        rfl

/-- A chain-backed claim is disclosed exactly when it was asked for. -/
theorem index_mem_iff {sha256 : Bytes → Bytes} {credential : Credential}
    {names : List ClaimName} {predicate : Predicate} {proof : Proof}
    (requested : gatePredicateFor names = .ok predicate)
    (derived : Derived bbs sha256 credential predicate.disclose proof) {name : ClaimName}
    {bit : Nat} (carried : claimBitByName name = some bit)
    : (claimIndex name : Number) ∈ proof.disclosedIndexes ↔ name ∈ names := by
  obtain ⟨-, -, disclose⟩ := gatePredicateFor_disclose requested
  rw [derived.indexes.1, disclose]
  have apart (name : ClaimName) (carried : (claimBitByName name).isSome = true)
      : (claimIndex name : Number) ∉ credentialAudit.disclose := by
    revert carried
    cases name <;> decide
  rw [or_iff_right (apart name (carried ▸ rfl))]
  constructor
  · intro asked
    obtain ⟨other, member, same⟩ := asked
    obtain rfl := claimIndex_injective (Int.natCast_inj.mp same)
    exact member
  · intro member
    exact ⟨name, member, rfl⟩

/-- A claim that is disclosed and true, by the chain's position for it. -/
def HonestCall.Grants (call : HonestCall) (position : Nat) : Prop :=
  ∃ name ∈ call.names, ∃ bit,
    claimBitByName name = some bit
    ∧ bit.testBit position = true
    ∧ call.credential.claims.value name = .boolean true

/-- A true claim that the chain carries has a position there. -/
theorem exists_grants {names : List ClaimName} {claims : KycClaims}
    (backed
      : ∃ name ∈ names,
          (claimBitByName name).isSome = true ∧ claims.value name = .boolean true)
    : ∃ position, ∃ name ∈ names, ∃ bit,
        claimBitByName name = some bit
        ∧ bit.testBit position = true
        ∧ claims.value name = .boolean true := by
  obtain ⟨name, asked, carried, held⟩ := backed
  have placed (name : ClaimName) (carried : (claimBitByName name).isSome = true)
      : ∃ position bit, claimBitByName name = some bit ∧ bit.testBit position = true := by
    cases name with
    | over18 => exact ⟨0, _, rfl, rfl⟩
    | over21 => exact ⟨1, _, rfl, rfl⟩
    | notSanctioned => exact ⟨2, _, rfl, rfl⟩
    | jurisdictionOk => exact ⟨3, _, rfl, rfl⟩
    | _ => cases carried
  obtain ⟨position, bit, found, set⟩ := placed name carried
  exact ⟨position, name, asked, bit, found, set, held⟩

/-- The bitmap of a presentation has exactly the true claims asked for that the chain carries. -/
theorem granted_testBit_iff {sha256 : Bytes → Bytes} {credential : Credential}
    {names : List ClaimName} {predicate : Predicate} {proof : Proof}
    (issued : Issued bbs sha256 secretKey credential)
    (requested : gatePredicateFor names = .ok predicate)
    (derived : Derived bbs sha256 credential predicate.disclose proof) (position : Nat)
    : (deriveGrantedClaims proof.disclosedIndexes proof.disclosedMessages).testBit position
        = true
      ↔ ∃ name ∈ names, ∃ bit,
          claimBitByName name = some bit
          ∧ bit.testBit position = true
          ∧ credential.claims.value name = .boolean true := by
  have discloses := discloses_of_derived derived
  have fits := discloses.fits (encodeClaims_eq_ok issued.encoded).1
  rw [deriveGrantedClaims_eq fits, discloses.derivedClaims_eq issued.encoded,
    claimBitmap_testBit]
  have disclosed (name : ClaimName) (carried : (claimBitByName name).isSome = true)
      : (disclosedClaimSet credential.claims proof.disclosedIndexes).value name = true
        ↔ credential.claims.value name = .boolean true
          ∧ (claimIndex name : Number) ∈ proof.disclosedIndexes := by
    revert carried
    cases name <;> simp [claimBitByName, disclosedClaimSet, ClaimSet.value, KycClaims.value]
  constructor
  · intro set
    obtain ⟨name, bit, carried, placed, shown⟩ := set
    obtain ⟨held, member⟩ := (disclosed name (carried ▸ rfl)).mp shown
    exact ⟨name, (index_mem_iff requested derived carried).mp member, bit, carried, placed,
      held⟩
  · intro grants
    obtain ⟨name, asked, bit, carried, placed, held⟩ := grants
    have member := (index_mem_iff requested derived carried).mpr asked
    exact ⟨name, bit, carried, placed, (disclosed name (carried ▸ rfl)).mpr ⟨held, member⟩⟩

/-- The requested bitmap of a built call. -/
theorem HonestCall.Built.granted_testBit
    (issued : Issued bbs env.sha256 secretKey call.credential)
    (built : call.Built bbs curves addresses env epoch) (position : Nat)
    : (deriveGrantedClaims call.proof.disclosedIndexes
          call.proof.disclosedMessages).testBit position
        = true
      ↔ call.Grants position :=
  granted_testBit_iff issued built.requested (derive_eq_ok built.proved).2 position

-----------------------------------------------------------------------------------------
-- What the gate reads
-----------------------------------------------------------------------------------------

/-- The gate verifies the proof of a built call. -/
theorem HonestCall.Built.verified (verify : ProofsVerify bbs curves env)
    (digests : ∀ octets, (env.sha256 octets).length = 32)
    (issued : Issued bbs env.sha256 secretKey call.credential)
    (built : call.Built bbs curves addresses env epoch)
    {args : KycGate.AttestArgs} (reads : Reads addresses curves (call.input epoch) args)
    (subject : args.subject = call.subject)
    (network : env.sha256 (utf8ToBytes call.networkPassphrase) = env.networkId)
    {key : BytesN 192} (matching : decompressG2 curves call.credential.issuerPublicKey = .ok key.val)
    : env.verifyBbsProof key args.header
          (KycGate.presentationHeader env args.subject args.nonce args.ledgerExpiry)
          args.disclosedIndexes args.disclosedMessages args.proof
        = .ok true := by
  obtain ⟨bound, derived⟩ := derive_eq_ok built.proved
  obtain ⟨header, headed, proved⟩ := derived.proved
  have discloses := discloses_of_derived derived
  have binds : BindsCall env (call.binding env.currentContractAddress) args.subject args.nonce
      args.ledgerExpiry := by
    constructor
    · exact {
        nonce := reads.nonce
        walletAddress := congrArg addressText subject.symm
        contractId := rfl
        ledgerExpiry := reads.ledgerExpiry
      }
    · exact network
  have sized : env.networkId.length < 2 ^ 32 := by
    rw [← network, digests]
    decide
  have sameHeader := binds.presentationHeader_eq (assertValidBinding_of_derive built.proved) sized
  rw [bound, sameHeader] at headed
  cases headed
  have shown
      : call.proof.disclosedIndexes.map
            (fun index => (call.credential.messages.map utf8ToBytes)[index.toNat]?)
        = (call.proof.disclosedMessages.map utf8ToBytes).map some := by
    have parallel := congrArg (List.map (Option.map utf8ToBytes)) discloses.parallel
    simpa [List.map_map, Function.comp_def] using parallel
  obtain ⟨proof, form, accepted⟩ :=
    verify.verifies issued.keyed matching
      ((List.length_map _).trans (encodeClaims_eq_ok issued.encoded).1) issued.signed
      derived.indexes.2.2 discloses.natural shown proved
  rw [reads.header, reads.disclosedIndexes, reads.disclosedMessages,
    form.eq_of_split reads.proof]
  exact accepted

/-- The gate's conditions hold of a built call. -/
theorem HonestCall.Built.accepts (verify : ProofsVerify bbs curves env)
    (digests : ∀ octets, (env.sha256 octets).length = 32)
    (issued : Issued bbs env.sha256 secretKey call.credential)
    {world : World} {activeKey : RegistryView}
    (built : call.Built bbs curves addresses env (world.epoch call.subject))
    (admitted : call.Admitted curves env activeKey world)
    (backed : ∃ position, call.Grants position)
    {args : KycGate.AttestArgs}
    (reads : Reads addresses curves (call.input (world.epoch call.subject)) args)
    (subject : args.subject = call.subject)
    : world.Accepts env activeKey args := by
  have derived := (derive_eq_ok built.proved).2
  have discloses := discloses_of_derived derived
  have fits := discloses.fits (encodeClaims_eq_ok issued.encoded).1
  have shown {name : ClaimName} (audited : (claimIndex name : Number) ∈ credentialAudit.disclose)
      : (claimIndex name : Number) ∈ call.proof.disclosedIndexes :=
    (derived.indexes.1 _).mpr
      (((gatePredicateFor_disclose built.requested).2.2 _).mpr (Or.inl audited))
  obtain ⟨registry, issuerId, key, configured, named, active, matching⟩ := admitted.active
  have issuer : args.issuerId = issuerId := by
    have spelled := reads.issuerId
    change call.credential.claims.issuerId = _ at spelled
    rw [spelled, hexToBytes_bytesToHex] at named
    exact Subtype.ext (Option.some.inj named)
  have nonce : args.nonce = call.nonce := by
    have spelled := congrArg hexToBytes reads.nonce
    change hexToBytes (bytesToHex call.nonce.val) = _ at spelled
    rw [hexToBytes_bytesToHex, hexToBytes_bytesToHex] at spelled
    exact Subtype.ext (Option.some.inj spelled.symm)
  have requested
      : args.claims.toNat
        = deriveGrantedClaims call.proof.disclosedIndexes call.proof.disclosedMessages :=
    (Int.natCast_inj.mp reads.claims).symm
  have claims : args.claims
      = KycGate.derivedClaims args.disclosedIndexes args.disclosedMessages := by
    apply UInt32.toNat_inj.mp
    rw [requested, reads.disclosedIndexes, reads.disclosedMessages]
    exact deriveGrantedClaims_eq fits
  have recordDeadline : call.expiresAt = args.expiresAt.toNat := reads.expiresAt
  have proofDeadline : call.ledgerExpiry = args.ledgerExpiry.toNat := reads.ledgerExpiry
  obtain ⟨-, -, recordWindow⟩ := clampedDeadline_within built.dated (by decide)
  obtain ⟨-, -, proofWindow⟩ := clampedDeadline_within built.clamped (by decide)
  have within (read deadline : Number) (now window : Nat) (later : read ≤ now)
      (bound : deadline ≤ read + window)
      : deadline ≤ ((now + window : Nat) : Int) := by
    push_cast
    exact le_trans bound (Int.add_le_add_right later _)
  exact {
    claimed := by
      intro empty
      obtain ⟨position, grants⟩ := backed
      have set := (built.granted_testBit issued position).mpr grants
      rw [← requested, empty, UInt32.toNat_zero, Nat.zero_testBit] at set
      cases set
    unexpired := Int.ofNat_le.mp (recordDeadline ▸ admitted.unexpired)
    horizon :=
      Int.ofNat_le.mp (recordDeadline ▸ within _ _ _ _ admitted.later recordWindow)
    fresh := Int.ofNat_le.mp (proofDeadline ▸ admitted.inTime)
    window := Int.ofNat_le.mp (proofDeadline ▸ within _ _ _ _ admitted.later proofWindow)
    unspent := nonce ▸ admitted.fresh
    parallel := by
      rw [reads.disclosedIndexes, reads.disclosedMessages, List.length_map, List.length_map]
      have lengths := congrArg List.length discloses.parallel
      rwa [List.length_map, List.length_map] at lengths
    issuerDisclosed := by
      rw [reads.disclosedIndexes, reads.disclosedMessages, issuer]
      exact (discloses.issuer_iff issued.encoded (shown (by decide)) issuerId).mpr named
    revIndexDisclosed := by
      rw [reads.disclosedIndexes, reads.disclosedMessages]
      exact (discloses.revocation_iff issued.encoded (shown (by decide)) _).mpr
        reads.revocationIndex
    derived := by
      rw [claims]
      exact (KycGate.and_not_eq_zero_iff _ _).mpr (fun _ set => set)
    verified :=
      ⟨key, ⟨registry, configured, issuer ▸ active⟩, (decompressG2_eq_ok matching).2,
        built.verified verify digests issued reads subject admitted.network matching⟩
    epoch := by
      apply UInt32.toNat_inj.mp
      rw [subject]
      exact (Int.natCast_inj.mp reads.revocationEpoch).symm
    fresher := by
      intro record stored replaced
      rw [subject] at stored
      exact Int.ofNat_lt.mp (recordDeadline ▸ admitted.fresher record stored replaced)
  }

/-- Honest attestations are accepted: for every issued credential, every request for disclosable
names of which a chain-backed one is true, and every gate, whatever its history, that has the
issuer active and the nonce fresh. The gate returns the derived claims, and until the record
expires a check answers exactly for the disclosed true claims.
-/
theorem honest_attestation_accepted (verify : ProofsVerify bbs curves env)
    (digests : ∀ octets, (env.sha256 octets).length = 32)
    (readBack : ∀ text address, addresses text = some address → text = addressText address)
    {claims : KycClaims} (issued : issue bbs env.sha256 claims secretKey = .ok call.credential)
    (backed
      : ∃ name ∈ call.names,
          (claimBitByName name).isSome = true ∧ claims.value name = .boolean true)
    {world : World} {activeKey : RegistryView}
    (built : call.Built bbs curves addresses env (world.epoch call.subject))
    (admitted : call.Admitted curves env activeKey world)
    : ∃ after granted,
        KycGate.invokeAttestBbs env world.ledger activeKey world.gate call.values
          = .ok (after, granted)
        ∧ granted.toNat
          = deriveGrantedClaims call.proof.disclosedIndexes call.proof.disclosedMessages
        ∧ ∀ (later : Ledger) mask,
            later.sequence.toNat ≤ call.expiresAt
            → (KycGate.check later after call.subject mask = true
              ↔ mask ≠ 0
                ∧ ∀ position, mask.toNat.testBit position = true → call.Grants position) := by
  obtain ⟨rfl, signed⟩ := issue_eq_ok issued
  obtain ⟨args, read, reads⟩ := attestBbsArgs_eq_ok built.written
  have subject : args.subject = call.subject :=
    (addressText_injective (readBack _ _ reads.subject)).symm
  have accepts := built.accepts verify digests signed admitted (exists_grants backed) reads subject
  have requested
      : args.claims.toNat
        = deriveGrantedClaims call.proof.disclosedIndexes call.proof.disclosedMessages :=
    (Int.natCast_inj.mp reads.claims).symm
  refine ⟨(world.attested env args).gate, args.claims, ?_, requested, ?_⟩
  · rw [KycGate.invokeAttestBbs, read]
    exact accepts.attestBbs
  · intro later mask live
    have stored := world.attested_record_self env args
    rw [subject] at stored
    have recordDeadline : call.expiresAt = args.expiresAt.toNat := reads.expiresAt
    rw [KycGate.check_eq_true_iff]
    refine and_congr_right fun _ => ?_
    have set (position : Nat)
        : args.claims.toNat.testBit position = true ↔ call.Grants position := by
      rw [requested]
      exact built.granted_testBit signed position
    constructor
    · intro answered
      obtain ⟨record, held, -, superset⟩ := answered
      obtain rfl := Option.some.inj (stored.symm.trans held)
      intro position asked
      exact (set position).mp ((KycGate.and_eq_mask_iff _ _).mp superset position asked)
    · intro granted
      refine ⟨_, stored, Int.ofNat_le.mp (recordDeadline ▸ live), ?_⟩
      exact (KycGate.and_eq_mask_iff _ _).mpr
        (fun position asked => (set position).mpr (granted position asked))

end

-----------------------------------------------------------------------------------------
-- One attestation
-----------------------------------------------------------------------------------------

namespace Sample

open Identity.Sample (networkDigest networkDigest_length testPassphrase gate)

theorem holder_valid : isStrkey (71 :: List.replicate 55 65) = true := by decide

def holder : Address := ⟨71 :: List.replicate 55 65, holder_valid⟩

theorem registryAddress_valid : isStrkey (67 :: List.replicate 55 66) = true := by decide

def registryAddress : Address := ⟨67 :: List.replicate 55 66, registryAddress_valid⟩

/-- A proof of the ciphersuite's layout with every octet zero. -/
def zeroProof (hidden : Nat) : KycGate.BbsProof :=
  let point : BytesN 96 := ⟨beBytes 48 0 ++ beBytes 48 0, rfl⟩
  {
    aBar := point
    bBar := point
    d := point
    eHat := zeroBytes 32
    r1Hat := zeroBytes 32
    r3Hat := zeroBytes 32
    mHat := List.replicate hidden (zeroBytes 32)
    challenge := zeroBytes 32
  }

def zeroOctets (hidden : Nat) : Bytes :=
  (zeroBytes 48).val ++ (zeroBytes 48).val ++ (zeroBytes 48).val ++ (zeroBytes 32).val
    ++ (zeroBytes 32).val ++ (zeroBytes 32).val
    ++ ((List.replicate hidden (zeroBytes 32)).map Subtype.val).flatten ++ (zeroBytes 32).val

def origin : Fp := ⟨0, by decide⟩

/-- Every point is at the origin. -/
def curves : CurveLibrary where
  g1 _ := some (origin, origin)
  g2 _ := some ({ c0 := origin, c1 := origin }, { c0 := origin, c1 := origin })

def bbs : BbsLibrary where
  secretKeyToPublicKey secretKey := some (beBytes 96 (beNat secretKey))
  sign _ _ _ messages := some (beBytes 80 (beNat messages.flatten))
  deriveProof _ _ _ messages _ indexes := some (zeroOctets (messages.length - indexes.length))

def env : KycGate.Env :=
  { Identity.Sample.env with verifyBbsProof := fun _ _ _ _ _ _ => .ok true }

theorem proofsVerify : ProofsVerify bbs curves env := by
  constructor
  intro secretKey publicKey signature header presentationHeader octets messages disclosed indexes
    key keyed matching schema signed ascending natural shown derived
  cases derived
  have point : Decompresses curves (zeroBytes 48) ⟨beBytes 48 0 ++ beBytes 48 0, rfl⟩ :=
    ⟨⟨origin, origin, rfl, rfl⟩⟩
  exact ⟨zeroProof _, ⟨⟨_, _, _, point, point, point, rfl⟩⟩, rfl⟩

def addresses : AddressReader := fun text =>
  if text = addressText holder then some holder else none

theorem addresses_readBack (text : JsString) (address : Address)
    (read : addresses text = some address)
    : text = addressText address := by
  unfold addresses at read
  split at read
  case isTrue same =>
    cases read
    exact same
  case isFalse => cases read

def signedClaims : KycClaims :=
  { claims with issuerId := bytesToHex (beBytes 32 0), revocationIndex := 41 }

def credential : Credential :=
  let messages := (encodeClaims signedClaims).toOption.getD []
  {
    schemaVersion
    messages
    signature := beBytes 80 (beNat (messages.map utf8ToBytes).flatten)
    issuerPublicKey := beBytes 96 7
    claims := signedClaims
  }

theorem credential_issued
    : issue bbs env.sha256 signedClaims (beBytes 32 7) = .ok credential := by
  decide +kernel

def names : List ClaimName := [.over18, .over21, .notPep]

def binding : ProofBinding :=
  {
    nonce := bytesToHex (beBytes 32 1)
    walletAddress := addressText holder
    contractId := addressText gate
    networkPassphrase := testPassphrase
    ledgerExpiry := 1720
  }

/-- The presentation hides three messages. -/
def presentation : Proof :=
  let indexes : List Number := [0, 1, 2, 3, 4, 5, 6, 7, 9]
  {
    schemaVersion
    proof := zeroOctets 3
    disclosedIndexes := indexes
    disclosedMessages := indexes.map (fun index => credential.messages.getD index.toNat [])
    totalMessages := 12
    binding
  }

/-- The deadlines are read in ledger 1000. -/
def call (values : List ScVal) : HonestCall :=
  {
    credential
    names
    subject := holder
    nonce := ⟨beBytes 32 1, beBytes_length 32 1⟩
    networkPassphrase := testPassphrase
    sequence := 1000
    margin := defaultExpiryMarginLedgers
    ledgersAhead := 5000000
    predicate := (gatePredicateFor names).toOption.getD credentialAudit
    ledgerExpiry := 1720
    expiresAt := 2074600
    proof := presentation
    values
  }

theorem exists_values
    : ∃ values, attestBbsArgs addresses curves ((call []).input 0) = .ok values := by
  have written
      : (attestBbsArgs addresses curves ((call []).input 0)).toOption.isSome = true := by
    decide +kernel
  cases built : attestBbsArgs addresses curves ((call []).input 0) with
  | error failure =>
      rw [built] at written
      cases written
  | ok values => exact ⟨values, rfl⟩

/-- The gate is initialised in ledger 900 and called in ledger 1500. -/
def world : World :=
  (KycGate.gateMachine env).run (World.genesis { sequence := 900, timestamp := 0 })
    [
      .init (fun _ => true) holder registryAddress,
      .advance { sequence := 1500, timestamp := 0 }
    ]

def activeKey : RegistryView := fun registry issuerId =>
  if registry = registryAddress ∧ issuerId = zeroBytes 32 then
    some (zeroBytes 192)
  else
    none

theorem admitted (values : List ScVal) : (call values).Admitted curves env activeKey world := by
  have vacant : world.record holder = none := rfl
  have named : hexToBytes credential.claims.issuerId = some (zeroBytes 32).val := by
    decide
  have matching
      : decompressG2 curves credential.issuerPublicKey = .ok (zeroBytes 192).val := by
    decide +kernel
  have now : (world.ledger.sequence.toNat : Number) = 1500 := rfl
  exact {
    network := rfl
    active := ⟨registryAddress, zeroBytes 32, zeroBytes 192, rfl, named, rfl, matching⟩
    fresh := rfl
    later := now ▸ (by decide : (1000 : Number) ≤ 1500)
    inTime := now ▸ (by decide : (1500 : Number) ≤ 1720)
    unexpired := now ▸ (by decide : (1500 : Number) ≤ 2074600)
    fresher := by
      intro record stored
      cases vacant.symm.trans stored
  }

theorem built {values : List ScVal}
    (written : attestBbsArgs addresses curves ((call []).input 0) = .ok values)
    : (call values).Built bbs curves addresses env (world.epoch holder) := by
  have requested : gatePredicateFor names = .ok (call []).predicate := by decide
  have clamped : ledgerExpiryFor 1000 defaultExpiryMarginLedgers = .ok 1720 :=
    ledgerExpiryFor_default (by decide) (by decide)
  have dated : recordExpiresAtFor 1000 5000000 = .ok 2074600 := by decide
  have proved
      : prove bbs env.sha256 credential (call []).predicate
          ((call []).binding env.currentContractAddress)
        = .ok presentation := by
    decide +kernel
  exact { requested, clamped, dated, proved, written }

end Sample

/-- A holder who is over 18 but not over 21 asks for both ages and one claim that the chain
does not carry; the gate grants the one.
-/
theorem honest_attestation_accepted_over18
    : ∃ values after,
        attestBbsArgs Sample.addresses Sample.curves ((Sample.call []).input 0) = .ok values
        ∧ KycGate.invokeAttestBbs Sample.env Sample.world.ledger Sample.activeKey
            Sample.world.gate values
          = .ok (after, 1)
        ∧ KycGate.check Sample.world.ledger after Sample.holder 1 = true := by
  obtain ⟨values, written⟩ := Sample.exists_values
  have backed
      : ∃ name ∈ Sample.names,
          (claimBitByName name).isSome = true
          ∧ Sample.signedClaims.value name = .boolean true := by
    decide
  obtain ⟨after, granted, accepted, requested, answers⟩ :=
    honest_attestation_accepted Sample.proofsVerify Identity.Sample.networkDigest_length
      Sample.addresses_readBack (by exact Sample.credential_issued) (by exact backed)
      (Sample.built written) (Sample.admitted values)
  have one
      : deriveGrantedClaims Sample.presentation.disclosedIndexes
            Sample.presentation.disclosedMessages
          = (1 : UInt32).toNat := by
    decide +kernel
  obtain rfl : granted = 1 := UInt32.toNat_inj.mp (requested.trans one)
  refine ⟨values, after, written, accepted, ?_⟩
  have live : (Sample.world.ledger.sequence.toNat : Number) ≤ 2074600 := by decide
  refine (answers Sample.world.ledger 1 live).mpr ⟨by decide, fun position set => ?_⟩
  obtain rfl : position = 0 := by
    cases position with
    | zero => rfl
    | succ position => simp [Nat.testBit_succ] at set
  have asked : ClaimName.over18 ∈ Sample.names := by decide
  exact ⟨.over18, asked, _, rfl, rfl, rfl⟩

end StellarOnramp.Sdk
