import StellarOnramp.Library.Lifetimes
import StellarOnramp.Soroban.Environment
import Mathlib.Logic.Function.Basic

/-! The claim gate: it verifies a presentation once, stores a claim record for the subject,
and answers later checks from the record. The proof verifier is the one host-dependent part
and enters through the deployment's environment.
-/

namespace StellarOnramp.KycGate

open Octets Lifetimes
open StellarOnramp.Soroban

-----------------------------------------------------------------------------------------
-- Constants
-----------------------------------------------------------------------------------------

def claimOver18 : UInt32 := (1 : UInt32) <<< (0 : UInt32)
def claimOver21 : UInt32 := (1 : UInt32) <<< (1 : UInt32)
def claimNotSanctioned : UInt32 := (1 : UInt32) <<< (2 : UInt32)
def claimJurisdictionOk : UInt32 := (1 : UInt32) <<< (3 : UInt32)

def claimTtlThreshold : UInt32 := 1036800
def claimTtlExtendTo : UInt32 := 2073600

def nonceMinTtl : UInt32 := 17280
def nonceMaxTtl : UInt32 := 3110399

/-- How far ahead a record may expire: the smaller of the two storage lifetimes. -/
def maxExpiryHorizon : UInt32 :=
  if claimTtlExtendTo < nonceMaxTtl then claimTtlExtendTo else nonceMaxTtl

/-- How far ahead of the current ledger a presentation's deadline may sit. -/
def proofMaxWindow : UInt32 := 17280

def bindingDomain : Bytes := ascii "stellaronramp/presentation-binding/v1"
def presentationHeaderDomain : Bytes := ascii "stellaronramp/presentation-header/v1"

-----------------------------------------------------------------------------------------
-- Data
-----------------------------------------------------------------------------------------

/-- A record with `claims = 0` is a revocation tombstone, not an attestation. -/
structure ClaimRecord where
  claims : UInt32
  /-- Ledger sequence at which this record stops being honoured. -/
  expiresAt : UInt32
  issuerId : BytesN 32
  issuedAt : UInt32
  /-- Revocations this subject has ever had. -/
  revocationEpoch : UInt32
  revocationIndex : UInt32
  deriving DecidableEq

/-- The proof in the uncompressed wire form. -/
structure BbsProof where
  aBar : BytesN 96
  bBar : BytesN 96
  d : BytesN 96
  eHat : BytesN 32
  r1Hat : BytesN 32
  r3Hat : BytesN 32
  /-- One response for each undisclosed message, in ascending hidden-index order. -/
  mHat : List (BytesN 32)
  challenge : BytesN 32
  deriving DecidableEq

inductive Error where
  | alreadyInitialized
  | notInitialized
  | noClaimRecord
  | expired
  | nonceAlreadyUsed
  | invalidProof
  | untrustedIssuer
  | staleAttestation
  | emptyClaims
  | expiryTooFar
  | subjectRevoked
  | revocationEpochMismatch
  deriving DecidableEq, Repr

/-- The numbers deployed clients decode. -/
def Error.code : Error → Nat
  | alreadyInitialized => 1
  | notInitialized => 2
  | noClaimRecord => 3
  | expired => 4
  | nonceAlreadyUsed => 5
  | invalidProof => 6
  | untrustedIssuer => 7
  | staleAttestation => 10
  | emptyClaims => 12
  | expiryTooFar => 13
  | subjectRevoked => 14
  | revocationEpochMismatch => 15

inductive Event where
  | attested (subject : Address) (claims expiresAt : UInt32) (issuerId : BytesN 32)
  | revoked (subject : Address) (revokedAt revocationEpoch : UInt32)
  | adminChanged (oldAdmin newAdmin : Address)
  deriving DecidableEq

/-- Instance, persistent and temporary storage, and the events published so far. -/
structure State where
  admin : Option Address
  registry : Option Address
  instanceLiveUntil : Nat
  /-- Persistent `Claims(subject)` entries. An archived entry is restored, never lost. -/
  claims : Address → Option (Entry ClaimRecord)
  /-- Temporary `Nonce(nonce)` entries. -/
  nonces : BytesN 32 → Option (Entry Unit)
  events : List Event

/-- The storage of a contract freshly deployed in ledger `now`. -/
def State.empty (now : Nat) : State :=
  {
    admin := none
    registry := none
    instanceLiveUntil := now
    claims := fun _ => none
    nonces := fun _ => none
    events := []
  }

/-- What is fixed once the contract is deployed on a network. -/
structure Env where
  sha256 : Bytes → Bytes
  networkId : Bytes
  currentContractAddress : Address
  /-- Lifetime of a new temporary entry. -/
  minTemporaryTtl : Nat
  /-- Lifetime of a new or restored persistent entry. -/
  minPersistentTtl : Nat
  verifyBbsProof
    : (pubkeyG2 : BytesN 192)
      → (header presentationHeader : Bytes)
      → (disclosedIndexes : List UInt32)
      → (disclosedMessages : List Bytes)
      → BbsProof
      → Except Trap Bool

/-- What a cross-contract `active_key` call on an address returns; `none` is any failure. -/
abbrev RegistryView := Address → BytesN 32 → Option (BytesN 192)

/-- The twelve arguments of `attest_bbs`, in wire order. -/
structure AttestArgs where
  subject : Address
  issuerId : BytesN 32
  claims : UInt32
  expiresAt : UInt32
  revocationEpoch : UInt32
  revocationIndex : UInt32
  proof : BbsProof
  disclosedIndexes : List UInt32
  disclosedMessages : List Bytes
  header : Bytes
  nonce : BytesN 32
  ledgerExpiry : UInt32
  deriving DecidableEq

-----------------------------------------------------------------------------------------
-- Presentation binding and disclosed messages
-----------------------------------------------------------------------------------------

def appendLenPrefixed (msg field : Bytes) : Bytes :=
  msg ++ lenPrefixed field

/-- The length-prefixed fields a presentation is bound to. -/
def canonicalBinding (env : Env) (subject : Address) (nonce : BytesN 32)
    (ledgerExpiry : UInt32)
    : Bytes :=
  let canonical := appendLenPrefixed [] bindingDomain
  let canonical := appendLenPrefixed canonical nonce.val
  let canonical := appendLenPrefixed canonical subject.strkey
  let canonical := appendLenPrefixed canonical env.currentContractAddress.strkey
  let canonical := appendLenPrefixed canonical env.networkId
  appendLenPrefixed canonical (beBytes 4 ledgerExpiry.toNat)

/-- The header the holder must have bound the proof to; the caller cannot supply it. -/
def presentationHeader (env : Env) (subject : Address) (nonce : BytesN 32)
    (ledgerExpiry : UInt32)
    : Bytes :=
  let bindingDigest := env.sha256 (canonicalBinding env subject nonce ledgerExpiry)
  env.sha256 (presentationHeaderDomain ++ bindingDigest)

def hex32 (bytes : BytesN 32) : Bytes :=
  hexText bytes.val

/-- The digits left to write in front of `buf`; the source's buffer holds ten. -/
def decimalLoop : Nat → Nat → Bytes → Bytes
  | 0, _, buf => buf
  | room + 1, v, buf =>
      if v = 0 then buf else decimalLoop room (v / 10) ((48 + UInt8.ofNat (v % 10)) :: buf)

def decimal (v : UInt32) : Bytes :=
  if v = 0 then [48] else decimalLoop 10 v.toNat []

def bytesEq (a b : Bytes) : Bool :=
  if a.length ≠ b.length then false else (a.zip b).all (fun pair => pair.1 == pair.2)

/-- Whether schema index `idx` is disclosed and its first message equals `expected`. The
caller has checked that the two lists have one length.
-/
def disclosedIs : List UInt32 → List Bytes → UInt32 → Bytes → Bool
  | index :: indexes, message :: messages, idx, expected =>
      if index = idx then bytesEq message expected
      else disclosedIs indexes messages idx expected
  | _, _, _, _ => false

def expectedIssuer (issuerId : BytesN 32) : Bytes :=
  ascii "issuerId=" ++ hex32 issuerId

def expectedRevIndex (revocationIndex : UInt32) : Bytes :=
  ascii "revocationIndex=" ++ decimal revocationIndex

/-- Claim bits granted by disclosed `=true` attributes at their schema index. -/
def derivedClaims (indexes : List UInt32) (messages : List Bytes) : UInt32 :=
  let derived : UInt32 := 0
  let derived :=
    if disclosedIs indexes messages 6 (ascii "over18=true") then
      derived ||| claimOver18
    else
      derived
  let derived :=
    if disclosedIs indexes messages 7 (ascii "over21=true") then
      derived ||| claimOver21
    else
      derived
  let derived :=
    if disclosedIs indexes messages 8 (ascii "notSanctioned=true") then
      derived ||| claimNotSanctioned
    else
      derived
  if disclosedIs indexes messages 10 (ascii "jurisdictionOk=true") then
    derived ||| claimJurisdictionOk
  else
    derived

-----------------------------------------------------------------------------------------
-- Storage helpers
-----------------------------------------------------------------------------------------

def bumpInstance (now : Nat) (state : State) : State :=
  let entry :=
    extendTtl now claimTtlThreshold.toNat claimTtlExtendTo.toNat
      { value := (), liveUntil := state.instanceLiveUntil }
  { state with instanceLiveUntil := entry.liveUntil }

def readClaim (state : State) (subject : Address) : Option ClaimRecord :=
  (state.claims subject).map Entry.value

/-- Write a claim record and bump its entry. -/
def writeClaim (env : Env) (now : Nat) (state : State) (subject : Address)
    (record : ClaimRecord)
    : State :=
  let entry := put now env.minPersistentTtl (state.claims subject) record
  let entry := extendTtl now claimTtlThreshold.toNat claimTtlExtendTo.toNat entry
  { state with claims := Function.update state.claims subject (some entry) }

/-- Unsigned 32-bit addition that stops at the largest value. -/
def saturatingAdd (left right : UInt32) : UInt32 :=
  if left.toNat + right.toNat < UInt32.size then left + right else 4294967295

/-- Write a tombstone: claims cleared, epoch advanced, the previous record's issuer id and
audit index preserved.
-/
def writeTombstone (env : Env) (ledger : Ledger) (state : State) (subject : Address)
    (prev : Option ClaimRecord)
    : State :=
  let seq := ledger.sequence
  let epoch :=
    match prev with
    | some p => saturatingAdd p.revocationEpoch 1
    | none => 1
  let issuerId : BytesN 32 :=
    match prev with
    | some p => p.issuerId
    | none => zeroBytes 32
  let revocationIndex :=
    match prev with
    | some p => p.revocationIndex
    | none => 0
  let state :=
    writeClaim env seq.toNat state subject
      {
        claims := 0
        expiresAt := seq
        issuerId
        issuedAt := seq
        revocationEpoch := epoch
        revocationIndex
      }
  let state := bumpInstance seq.toNat state
  { state with events := state.events ++ [.revoked subject seq epoch] }

def requireAdmin (auth : Authorization) (state : State)
    : Except (CallError Error) Address :=
  match state.admin with
  | none => .error (.error .notInitialized)
  | some admin => if auth admin then .ok admin else .error .trap

-----------------------------------------------------------------------------------------
-- Entry points
-----------------------------------------------------------------------------------------

def init (auth : Authorization) (ledger : Ledger) (state : State)
    (admin registry : Address)
    : Except (CallError Error) State :=
  if state.admin.isSome then
    .error (.error .alreadyInitialized)
  else if auth admin then
    .ok
      (bumpInstance ledger.sequence.toNat
        { state with admin := some admin, registry := some registry })
  else
    .error .trap

/-- How long a consumed nonce must live: the record's lifetime, within the policy bounds. -/
def nonceTtl (seq expiresAt : UInt32) : Nat :=
  min (max (expiresAt.toNat - seq.toNat) nonceMinTtl.toNat) nonceMaxTtl.toNat

/-- Consume the nonce, write the record and publish the event. -/
def recordAttestation (env : Env) (ledger : Ledger) (state : State) (args : AttestArgs)
    (currentEpoch : UInt32)
    : State :=
  let seq := ledger.sequence
  let nonceEntry := put seq.toNat env.minTemporaryTtl (state.nonces args.nonce) ()
  let ttl := nonceTtl seq args.expiresAt
  let nonceEntry := extendTtl seq.toNat ttl ttl nonceEntry
  let state :=
    { state with nonces := Function.update state.nonces args.nonce (some nonceEntry) }
  let record :=
    {
      claims := args.claims
      expiresAt := args.expiresAt
      issuerId := args.issuerId
      issuedAt := seq
      revocationEpoch := currentEpoch
      revocationIndex := args.revocationIndex
    }
  let state := writeClaim env seq.toNat state args.subject record
  let state := bumpInstance seq.toNat state
  {
    state with
    events :=
      state.events ++ [.attested args.subject args.claims args.expiresAt record.issuerId]
  }

/-- The epoch a subject's next proof must name; a subject without a record is at `0`. -/
def currentEpoch (prev : Option ClaimRecord) : UInt32 :=
  match prev with
  | some p => p.revocationEpoch
  | none => 0

/-- Verify a selective-disclosure proof and cache the granted claims. -/
def attestBbs (env : Env) (ledger : Ledger) (activeKey : RegistryView) (state : State)
    (args : AttestArgs)
    : Except (CallError Error) (State × UInt32) :=
  if args.claims = 0 then
    .error (.error .emptyClaims)
  else
  let seq := ledger.sequence
  if args.expiresAt < seq then
    .error (.error .expired)
  else if maxExpiryHorizon < args.expiresAt - seq then
    .error (.error .expiryTooFar)
  else if args.ledgerExpiry < seq then
    .error (.error .expired)
  else if proofMaxWindow < args.ledgerExpiry - seq then
    .error (.error .expiryTooFar)
  else if has seq.toNat (state.nonces args.nonce) then
    .error (.error .nonceAlreadyUsed)
  else if args.disclosedIndexes.length ≠ args.disclosedMessages.length then
    .error (.error .invalidProof)
  else
  match state.registry with
  | none => .error (.error .notInitialized)
  | some registry =>
  match activeKey registry args.issuerId with
  | none => .error (.error .untrustedIssuer)
  | some pubkeyG2 =>
  -- Uncompressed encoding only: the top three flag bits must be clear.
  if pubkeyG2.val.headD 0 &&& 0xE0 ≠ 0 then
    .error (.error .invalidProof)
  else if !disclosedIs args.disclosedIndexes args.disclosedMessages 1
        (expectedIssuer args.issuerId)
      || !disclosedIs args.disclosedIndexes args.disclosedMessages 2
        (expectedRevIndex args.revocationIndex) then
    .error (.error .invalidProof)
  else if args.claims &&& ~~~ derivedClaims args.disclosedIndexes args.disclosedMessages ≠ 0 then
    .error (.error .invalidProof)
  else
  match env.verifyBbsProof pubkeyG2 args.header
      (presentationHeader env args.subject args.nonce args.ledgerExpiry)
      args.disclosedIndexes args.disclosedMessages args.proof with
  | .error .trap => .error .trap
  | .ok false => .error (.error .invalidProof)
  | .ok true =>
  let prev := readClaim state args.subject
  if args.revocationEpoch ≠ currentEpoch prev then
    .error (.error .revocationEpochMismatch)
  else
  -- A live record (or a tombstone) is only ever replaced by a fresher one.
  match prev with
  | none => .ok (recordAttestation env ledger state args (currentEpoch prev), args.claims)
  | some p =>
      let prevRevoked := p.claims == 0
      let prevLive := decide (seq ≤ p.expiresAt) || prevRevoked
      if prevLive && decide (args.expiresAt ≤ p.expiresAt) then
        .error (.error (if prevRevoked then .subjectRevoked else .staleAttestation))
      else
        .ok (recordAttestation env ledger state args (currentEpoch prev), args.claims)

def revoke (env : Env) (auth : Authorization) (ledger : Ledger) (state : State)
    (subject : Address)
    : Except (CallError Error) State :=
  match requireAdmin auth state with
  | .error failure => .error failure
  | .ok _ => .ok (writeTombstone env ledger state subject (readClaim state subject))

def setAdmin (auth : Authorization) (ledger : Ledger) (state : State) (newAdmin : Address)
    : Except (CallError Error) State :=
  match requireAdmin auth state with
  | .error failure => .error failure
  | .ok oldAdmin =>
      if auth newAdmin then
        let state :=
          bumpInstance ledger.sequence.toNat { state with admin := some newAdmin }
        .ok { state with events := state.events ++ [.adminChanged oldAdmin newAdmin] }
      else
        .error .trap

/-- Is every bit of `claimBit` granted for `subject` right now? -/
def check (ledger : Ledger) (state : State) (subject : Address) (claimBit : UInt32) : Bool :=
  if claimBit = 0 then
    false
  else
    match readClaim state subject with
    | none => false
    | some record =>
        if record.expiresAt < ledger.sequence then
          false
        else
          record.claims &&& claimBit == claimBit

end StellarOnramp.KycGate
