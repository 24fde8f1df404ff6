import StellarOnramp.KycGate.Disclosure
import StellarOnramp.KycGate.Runs

/-! An accepted proof read as evidence of one signed credential, and a deployment whose
verifier accepts exactly the presentations that were derived from signed credentials.
-/

namespace StellarOnramp.KycGate

open Octets
open StellarOnramp.Soroban

-----------------------------------------------------------------------------------------
-- Evidence
-----------------------------------------------------------------------------------------

/-- One signature of an issuer key: the header and the messages it covers. -/
structure SignedCredential where
  key : BytesN 192
  header : Bytes
  messages : List Bytes
  deriving DecidableEq

/-- Every disclosed message is the credential's message at its index. -/
def SignedCredential.Agrees (credential : SignedCredential) (indexes : List UInt32)
    (messages : List Bytes)
    : Prop :=
  ∀ disclosed ∈ indexes.zip messages,
    credential.messages[disclosed.1.toNat]? = some disclosed.2

/-- A sound reading of the verifier: behind every proof it accepts stands a signed
twelve-message credential under the same key and header that agrees with the disclosure.
-/
structure Evidence (env : Env) where
  Signed : SignedCredential → Prop
  behind
    : (pubkeyG2 : BytesN 192)
      → (header presentationHeader : Bytes)
      → (disclosedIndexes : List UInt32)
      → (disclosedMessages : List Bytes)
      → BbsProof
      → SignedCredential
  sound
    : ∀ {key header ph indexes messages proof},
        env.verifyBbsProof key header ph indexes messages proof = .ok true
        → let credential := behind key header ph indexes messages proof
          Signed credential
          ∧ credential.key = key
          ∧ credential.header = header
          ∧ credential.messages.length = 12
          ∧ credential.Agrees indexes messages

/-- The credential that stands behind an attestation, read under the registry's key. -/
def Evidence.Behind {env : Env} (evidence : Evidence env) (attestation : Attestation)
    (credential : SignedCredential)
    : Prop :=
  let args := attestation.args
  ∃ key,
    ProofVerifies env attestation.activeKey attestation.world.gate args key
    ∧ credential
      = evidence.behind key args.header
          (presentationHeader env args.subject args.nonce args.ledgerExpiry)
          args.disclosedIndexes args.disclosedMessages args.proof

section Reading

variable {env : Env} {evidence : Evidence env} {attestation : Attestation}
  {credential : SignedCredential}

/-- Every accepted attestation has a credential behind it. -/
theorem Evidence.behind_of_accepts {world : World} {activeKey : RegistryView}
    {args : AttestArgs} (accepts : world.Accepts env activeKey args)
    : ∃ credential, evidence.Behind { world, activeKey, args } credential := by
  obtain ⟨key, verifies⟩ := accepts.verified
  exact ⟨_, key, verifies, rfl⟩

theorem Evidence.Behind.signed (behind : evidence.Behind attestation credential)
    : evidence.Signed credential := by
  obtain ⟨key, ⟨-, -, verified⟩, rfl⟩ := behind
  exact (evidence.sound verified).1

/-- The credential was signed under the header that the caller passed. -/
theorem Evidence.Behind.header (behind : evidence.Behind attestation credential)
    : credential.header = attestation.args.header := by
  obtain ⟨key, ⟨-, -, verified⟩, rfl⟩ := behind
  exact (evidence.sound verified).2.2.1

/-- The first message disclosed at an index is the credential's message there. -/
theorem Evidence.Behind.message (behind : evidence.Behind attestation credential)
    {idx : UInt32} {message : Bytes}
    (first
      : firstDisclosed attestation.args.disclosedIndexes attestation.args.disclosedMessages idx
        = some message)
    : credential.messages[idx.toNat]? = some message := by
  obtain ⟨key, ⟨-, -, verified⟩, rfl⟩ := behind
  exact (evidence.sound verified).2.2.2.2 _ (mem_zip_of_firstDisclosed first)

end Reading

-----------------------------------------------------------------------------------------
-- What an undisclosed index leaves open
-----------------------------------------------------------------------------------------

/-- A reading as sound as the given one in which the message at an undisclosed index is
blank: no proof speaks about a message that it hides.
-/
def Evidence.forget {env : Env} (evidence : Evidence env) (idx : UInt32) : Evidence env where
  Signed _ := True
  behind key header ph indexes messages proof :=
    let credential := evidence.behind key header ph indexes messages proof
    match firstDisclosed indexes messages idx with
    | some _ => credential
    | none => { credential with messages := credential.messages.set idx.toNat [] }
  sound := by
    intro key header ph indexes messages proof verified
    obtain ⟨-, sameKey, sameHeader, schema, agrees⟩ := evidence.sound verified
    cases first : firstDisclosed indexes messages idx with
    | some message => exact ⟨trivial, sameKey, sameHeader, schema, agrees⟩
    | none =>
        refine ⟨trivial, sameKey, sameHeader, by simpa using schema, ?_⟩
        rintro ⟨index, message⟩ disclosed
        have other : idx.toNat ≠ index.toNat := by
          intro same
          obtain rfl := UInt32.toNat_inj.mp same
          exact not_mem_zip_of_firstDisclosed first message disclosed
        simpa [List.getElem?_set_ne other] using agrees _ disclosed

/-- A fact about one of the credential's messages that every sound reading supports is a
fact about the message disclosed at its index. Witness: the reading that blanks it.
-/
theorem disclosed_of_forall_evidence {env : Env} (evidence : Evidence env)
    {attestation : Attestation} (idx : UInt32) (inRange : idx.toNat < 12)
    (Fits : Bytes → Prop) (blank : ¬ Fits [])
    (guaranteed
      : ∀ evidence : Evidence env,
          ∃ credential message,
            evidence.Behind attestation credential
            ∧ credential.messages[idx.toNat]? = some message
            ∧ Fits message)
    : ∃ message,
        firstDisclosed attestation.args.disclosedIndexes attestation.args.disclosedMessages
            idx
          = some message
        ∧ Fits message := by
  obtain ⟨credential, message, behind, found, fits⟩ := guaranteed (evidence.forget idx)
  cases first : firstDisclosed attestation.args.disclosedIndexes
      attestation.args.disclosedMessages idx with
  | some shown =>
      obtain rfl : shown = message := Option.some.inj ((behind.message first).symm.trans found)
      exact ⟨shown, rfl, fits⟩
  | none =>
      obtain ⟨key, ⟨-, -, verified⟩, rfl⟩ := behind
      have schema := (evidence.sound verified).2.2.2.1
      simp only [Evidence.forget, first] at found
      rw [List.getElem?_set_self (by rw [schema]; exact inRange), Option.some.injEq] at found
      exact absurd (found ▸ fits) blank

-----------------------------------------------------------------------------------------
-- Ideal presentations
-----------------------------------------------------------------------------------------

/-- A presentation of a credential: what it discloses and the header it is bound to. -/
structure Presentation where
  credential : SignedCredential
  presentationHeader : Bytes
  disclosedIndexes : List UInt32
  proof : BbsProof
  schema : credential.messages.length = 12
  inRange : disclosedIndexes.all (fun index => decide (index.toNat < 12)) = true

namespace Presentation

def disclosedMessages (presentation : Presentation) : List Bytes :=
  presentation.disclosedIndexes.map
    (fun index => presentation.credential.messages.getD index.toNat [])

/-- Whether the verifier's inputs are exactly those of the presentation. -/
def answers (presentation : Presentation) (key : BytesN 192) (header ph : Bytes)
    (indexes : List UInt32) (messages : List Bytes) (proof : BbsProof)
    : Bool :=
  decide
    (key = presentation.credential.key
      ∧ header = presentation.credential.header
      ∧ ph = presentation.presentationHeader
      ∧ indexes = presentation.disclosedIndexes
      ∧ messages = presentation.disclosedMessages
      ∧ proof = presentation.proof)

/-- A presentation discloses its credential's own messages, by induction on the indexes. -/
theorem agrees (presentation : Presentation)
    : presentation.credential.Agrees presentation.disclosedIndexes
        presentation.disclosedMessages := by
  rintro ⟨index, message⟩ disclosed
  rw [disclosedMessages, List.zip_map_right, List.mem_map] at disclosed
  obtain ⟨⟨here, same⟩, member, pair⟩ := disclosed
  simp only [Prod.map_apply, id_eq, Prod.mk.injEq] at pair
  obtain ⟨rfl, rfl⟩ := pair
  obtain ⟨inside, rfl⟩ : here ∈ presentation.disclosedIndexes ∧ here = same := by
    rw [List.zip_eq_zipWith, List.zipWith_self, List.mem_map] at member
    obtain ⟨index, inside, pair⟩ := member
    cases pair
    exact ⟨inside, rfl⟩
  have bound : here.toNat < presentation.credential.messages.length := by
    rw [presentation.schema]
    exact of_decide_eq_true (List.all_eq_true.mp presentation.inRange here inside)
  simp [List.getD_eq_getElem?_getD, List.getElem?_eq_getElem bound]

/-- The verifier that accepts the given presentations and nothing else. -/
def idealVerifier (presentations : List Presentation) (key : BytesN 192) (header ph : Bytes)
    (indexes : List UInt32) (messages : List Bytes) (proof : BbsProof)
    : Except Trap Bool :=
  .ok (presentations.any (fun presentation =>
    presentation.answers key header ph indexes messages proof))

/-- Ideal presentations are evidence of the credentials they were derived from. -/
def evidence (presentations : List Presentation) (env : Env)
    (ideal : env.verifyBbsProof = idealVerifier presentations)
    : Evidence env where
  Signed credential := ∃ presentation ∈ presentations, presentation.credential = credential
  behind key header ph indexes messages proof :=
    match presentations.find? (fun presentation =>
        presentation.answers key header ph indexes messages proof) with
    | some presentation => presentation.credential
    | none => { key, header, messages }
  sound := by
    intro key header ph indexes messages proof verified
    rw [ideal, idealVerifier, Except.ok.injEq, List.any_eq_true] at verified
    obtain ⟨witness, member, answered⟩ := verified
    cases found : presentations.find? (fun presentation =>
        presentation.answers key header ph indexes messages proof) with
    | none => exact absurd answered (List.find?_eq_none.mp found witness member)
    | some presentation =>
        have answered := List.find?_some found
        simp only [answers, decide_eq_true_eq] at answered
        obtain ⟨rfl, rfl, rfl, rfl, rfl, rfl⟩ := answered
        exact ⟨⟨presentation, List.mem_of_find?_eq_some found, rfl⟩, rfl, rfl,
          presentation.schema, presentation.agrees⟩

end Presentation

-----------------------------------------------------------------------------------------
-- A small deployment
-----------------------------------------------------------------------------------------

namespace Sample

def admin : Address := ⟨71 :: List.replicate 55 65, by decide⟩
def holder : Address := ⟨67 :: List.replicate 55 66, by decide⟩
def stranger : Address := ⟨67 :: List.replicate 55 67, by decide⟩
theorem registry_valid : isStrkey (67 :: List.replicate 55 68) = true := by decide

def registry : Address := ⟨67 :: List.replicate 55 68, registry_valid⟩
def gate : Address := ⟨67 :: List.replicate 55 69, by decide⟩

def issuerId : BytesN 32 := zeroBytes 32
def key : BytesN 192 := zeroBytes 192
def salt : Bytes := List.replicate 32 0

def nonce (tag : UInt8) : BytesN 32 := ⟨List.replicate 32 tag, List.length_replicate⟩

def proof : BbsProof :=
  {
    aBar := zeroBytes 96
    bBar := zeroBytes 96
    d := zeroBytes 96
    eHat := zeroBytes 32
    r1Hat := zeroBytes 32
    r3Hat := zeroBytes 32
    mHat := []
    challenge := zeroBytes 32
  }

/-- The network: an injective stand-in for the digest, and the given presentations. -/
def env (presentations : List Presentation) : Env :=
  {
    sha256 := id
    networkId := List.replicate 32 0
    currentContractAddress := gate
    minTemporaryTtl := 16
    minPersistentTtl := 120960
    verifyBbsProof := Presentation.idealVerifier presentations
  }

/-- A credential of `owner` that expires at Unix second `expiry`. -/
def credential (header : Bytes) (owner : Address) (expiry : Nat) : SignedCredential :=
  {
    key
    header
    messages :=
      [
        ascii "schemaVersion=1",
        expectedIssuer issuerId,
        expectedRevIndex 0,
        ascii "issuedAt=0",
        ascii "expiresAt=" ++ decimalText expiry,
        ascii "subjectBinding=" ++ hexText (owner.strkey ++ salt),
        ascii "over18=true",
        ascii "over21=false",
        ascii "notSanctioned=false",
        ascii "notPep=false",
        ascii "jurisdictionOk=false",
        ascii "livenessOk=false"
      ]
  }

/-- The credential presented for `subject` with the given disclosure. -/
def presentationOf (indexes : List UInt32)
    (inRange : indexes.all (fun index => decide (index.toNat < 12)) = true)
    (header : Bytes) (owner : Address) (expiry : Nat) (subject : Address) (tag : UInt8)
    (ledgerExpiry : UInt32)
    : Presentation :=
  {
    credential := credential header owner expiry
    presentationHeader := KycGate.presentationHeader (env []) subject (nonce tag) ledgerExpiry
    disclosedIndexes := indexes
    proof
    schema := rfl
    inRange
  }

/-- The call that submits such a presentation. -/
def argsOf (indexes : List UInt32) (credential : SignedCredential) (subject : Address)
    (tag : UInt8) (ledgerExpiry expiresAt revocationEpoch : UInt32)
    : AttestArgs :=
  {
    subject
    issuerId
    claims := claimOver18
    expiresAt
    revocationEpoch
    revocationIndex := 0
    proof
    disclosedIndexes := indexes
    disclosedMessages := indexes.map (fun index => credential.messages.getD index.toNat [])
    header := credential.header
    nonce := nonce tag
    ledgerExpiry
  }

/-- The smallest disclosure: issuer, revocation index and age. -/
def presentation := presentationOf [1, 2, 6] rfl

def args (header : Bytes) := argsOf [1, 2, 6] (credential header holder 0)

def activeKey : RegistryView :=
  fun address id => if address = registry ∧ id = issuerId then some key else none

/-- Everyone signs. -/
def signed : Authorization := fun _ => true

def deploy : List Op := [.init signed admin registry]

end Sample

end StellarOnramp.KycGate
