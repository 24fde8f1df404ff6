import StellarOnramp.KycGate.CredentialEvidence

/-! What an accepted attestation says about the credential behind it: its subject binding, its
expiry and the header it was signed under. The gate compares none of the three with its own
arguments, so each holds only where the call itself pins it.
-/

namespace StellarOnramp.KycGate

open Octets Transitions
open StellarOnramp.Soroban

/-- The header that version 1 of the schema freezes. -/
def credentialHeader : Bytes := ascii "stellaronramp/kyc-credential/v1"

-----------------------------------------------------------------------------------------
-- Subject binding
-----------------------------------------------------------------------------------------

/-- The message that commits a credential to a wallet. -/
def bindingMessage (env : Env) (subject : Address) (salt : BytesN 32) : Bytes :=
  ascii "subjectBinding=" ++ hexText (env.sha256 (subject.strkey ++ salt.val))

/-- The call discloses a subject binding, and it commits to the call's own subject. -/
def DisclosesBinding (env : Env) (args : AttestArgs) : Prop :=
  ∃ salt,
    firstDisclosed args.disclosedIndexes args.disclosedMessages 5
    = some (bindingMessage env args.subject salt)

/-- With a collision-free digest a binding commits to one subject. Witness: addresses have
one width, so the strkey is the front of the hashed octets.
-/
theorem bindingMessage_subject {env : Env} (collisionFree : Function.Injective env.sha256)
    {subject other : Address} {salt more : BytesN 32}
    (same : bindingMessage env subject salt = bindingMessage env other more)
    : subject = other := by
  have hashed := collisionFree (hexText_injective (List.append_cancel_left same))
  have widths : subject.strkey.length = other.strkey.length := by
    rw [subject.strkey_length, other.strkey_length]
  exact Address.ext_strkey (List.append_inj hashed widths).1

/-- Every attestation is backed by a credential bound to its subject, and no credential
stands behind two subjects.
-/
structure BoundToSubjects {env : Env} (evidence : Evidence env)
    (accepted : List Attestation)
    : Prop where
  bound
    : ∀ attestation ∈ accepted,
        ∃ credential salt,
          evidence.Behind attestation credential
          ∧ credential.messages[5]? = some (bindingMessage env attestation.args.subject salt)
  separate
    : ∀ left ∈ accepted,
        ∀ right ∈ accepted,
          ∀ credential,
            evidence.Behind left credential
            → evidence.Behind right credential
            → left.args.subject = right.args.subject

/-- Calls that disclose their subject's binding are bound, and serve one subject for each
credential. Witness: the disclosed binding is the credential's message at its index.
-/
theorem boundToSubjects_of_disclosed {env : Env} {world : World} {ops : List Op}
    (evidence : Evidence env) (collisionFree : Function.Injective env.sha256)
    (disclosed
      : ∀ attestation ∈ attestations env world ops, DisclosesBinding env attestation.args)
    : BoundToSubjects evidence (attestations env world ops) := by
  constructor
  · intro attestation member
    obtain ⟨salt, first⟩ := disclosed attestation member
    obtain ⟨credential, behind⟩ :=
      evidence.behind_of_accepts (mem_attestations member).1
    exact ⟨credential, salt, behind, behind.message first⟩
  · intro left leftMember right rightMember credential leftBehind rightBehind
    obtain ⟨salt, leftFirst⟩ := disclosed left leftMember
    obtain ⟨more, rightFirst⟩ := disclosed right rightMember
    have same :=
      Option.some.inj ((leftBehind.message leftFirst).symm.trans (rightBehind.message rightFirst))
    exact bindingMessage_subject collisionFree same

/-- In every run the gate guarantees the subject binding, whatever credentials stand behind
the proofs, exactly when every accepted call discloses its own subject's binding.
-/
theorem boundToSubjects_iff_disclosed (env : Env) (evidence : Evidence env)
    (collisionFree : Function.Injective env.sha256) (ledger : Ledger) (ops : List Op)
    : let accepted := attestations env (World.genesis ledger) ops
      (∀ evidence : Evidence env, BoundToSubjects evidence accepted)
      ↔ ∀ attestation ∈ accepted, DisclosesBinding env attestation.args := by
  intro accepted
  constructor
  · intro guaranteed attestation member
    have blank : ¬ ∃ salt, [] = bindingMessage env attestation.args.subject salt := by
      rintro ⟨salt, empty⟩
      simp [bindingMessage, ascii] at empty
    obtain ⟨message, first, salt, rfl⟩ :=
      disclosed_of_forall_evidence evidence 5 (by decide)
        (fun message => ∃ salt, message = bindingMessage env attestation.args.subject salt) blank
        (fun evidence => by
          obtain ⟨credential, salt, behind, found⟩ :=
            (guaranteed evidence).bound attestation member
          exact ⟨credential, _, behind, found, salt, rfl⟩)
    exact ⟨salt, first⟩
  · exact fun disclosed evidence =>
      boundToSubjects_of_disclosed evidence collisionFree disclosed

namespace Sample

/-- The holder's credential, presented for the holder and for a stranger. -/
def sharedCredential : SignedCredential := credential [] holder 0

def sharedEnv : Env :=
  env [
    presentation [] holder 0 holder 1 1000,
    presentation [] holder 0 stranger 2 1000
  ]

def sharedHolder : AttestArgs := args [] holder 1 1000 2000 0
def sharedStranger : AttestArgs := args [] stranger 2 1000 2000 0

/-- The ledger the runs below start in. -/
def launch : Ledger := { sequence := 900, timestamp := 1000 }

end Sample

/-- One credential of the holder is attested for the holder and for a stranger. -/
theorem one_credential_serves_two_subjects
    : ¬ ∀ (env : Env) (evidence : Evidence env) (ledger : Ledger) (ops : List Op),
        Function.Injective env.sha256
        → BoundToSubjects evidence (attestations env (World.genesis ledger) ops) := by
  intro bound
  let evidence : Evidence Sample.sharedEnv := Presentation.evidence _ _ rfl
  have only {attestation : Attestation} {credential : SignedCredential}
      (behind : evidence.Behind attestation credential)
      : credential = Sample.sharedCredential := by
    obtain ⟨presentation, member, rfl⟩ := behind.signed
    rcases List.mem_pair.mp member with rfl | rfl
    · rfl
    · rfl
  have first
      : ((gateMachine Sample.sharedEnv).run (World.genesis Sample.launch)
            Sample.deploy).Accepts Sample.sharedEnv Sample.activeKey Sample.sharedHolder := by
    decide +kernel
  have second
      : ((gateMachine Sample.sharedEnv).run (World.genesis Sample.launch)
            (Sample.deploy
              ++ [.attestBbs Sample.activeKey Sample.sharedHolder])).Accepts Sample.sharedEnv
          Sample.activeKey Sample.sharedStranger := by
    decide +kernel
  obtain ⟨credential, firstBehind⟩ := evidence.behind_of_accepts first
  obtain ⟨other, secondBehind⟩ := evidence.behind_of_accepts second
  obtain rfl := only firstBehind
  obtain rfl := only secondBehind
  have same :=
    (bound Sample.sharedEnv evidence Sample.launch _ Function.injective_id).separate
      _ (mem_attestations_of_accepts first
        [.attestBbs Sample.activeKey Sample.sharedStranger])
      _ (mem_attestations_of_accepts second []) _ firstBehind secondBehind
  exact absurd same (by decide)

namespace Sample

/-- A credential under the frozen header, presented with its expiry and binding disclosed. -/
def auditedCredential : SignedCredential := credential credentialHeader holder 5000

def auditedEnv : Env :=
  env [presentationOf [1, 2, 4, 5, 6] rfl credentialHeader holder 5000 holder 1 1000]

def auditedEvidence : Evidence auditedEnv := Presentation.evidence _ _ rfl

def auditedOps : List Op :=
  deploy
    ++ [.attestBbs activeKey (argsOf [1, 2, 4, 5, 6] auditedCredential holder 1 1000 2000 0)]

/-- The accepted attestations of the audited run. -/
def audited : List Attestation := attestations auditedEnv (World.genesis launch) auditedOps

theorem audited_length : audited.length = 1 := by decide +kernel

/-- What is accepted in the audited run is its one call, in the ledger of the launch. -/
theorem audited_member {attestation : Attestation} (member : attestation ∈ audited)
    : attestation.args = argsOf [1, 2, 4, 5, 6] auditedCredential holder 1 1000 2000 0
      ∧ attestation.world.ledger = launch := by
  have every
      : audited.all
          (fun attestation =>
            decide
              (attestation.args = argsOf [1, 2, 4, 5, 6] auditedCredential holder 1 1000 2000 0
                ∧ attestation.world.ledger = launch))
        = true := by
    decide +kernel
  exact of_decide_eq_true (List.all_eq_true.mp every attestation member)

end Sample

/-- The audited run is accepted, and its subject is bound. -/
theorem boundToSubjects_iff_disclosed_audited
    : Sample.audited.length = 1 ∧ BoundToSubjects Sample.auditedEvidence Sample.audited := by
  have disclosed (attestation : Attestation) (member : attestation ∈ Sample.audited)
      : DisclosesBinding Sample.auditedEnv attestation.args := by
    obtain ⟨same, -⟩ := Sample.audited_member member
    rw [same]
    exact ⟨zeroBytes 32, by decide +kernel⟩
  refine ⟨Sample.audited_length, ?_⟩
  exact (boundToSubjects_iff_disclosed Sample.auditedEnv Sample.auditedEvidence
    Function.injective_id Sample.launch Sample.auditedOps).mpr disclosed Sample.auditedEvidence

-----------------------------------------------------------------------------------------
-- Credential expiry
-----------------------------------------------------------------------------------------

/-- The message that carries a credential's expiry in Unix seconds. -/
def expiryMessage (expiry : Nat) : Bytes :=
  ascii "expiresAt=" ++ decimalText expiry

theorem expiryMessage_injective : Function.Injective expiryMessage :=
  fun _ _ same => decimalText_injective (List.append_cancel_left same)

/-- The call discloses an expiry that the given ledger's clock has not passed. -/
def DisclosesExpiry (ledger : Ledger) (args : AttestArgs) : Prop :=
  ∃ expiry,
    firstDisclosed args.disclosedIndexes args.disclosedMessages 4 = some (expiryMessage expiry)
    ∧ ledger.timestamp.toNat ≤ expiry

/-- Every attestation is backed by a credential that has not expired at its ledger. -/
def Unexpired {env : Env} (evidence : Evidence env) (accepted : List Attestation) : Prop :=
  ∀ attestation ∈ accepted,
    ∃ credential expiry,
      evidence.Behind attestation credential
      ∧ credential.messages[4]? = some (expiryMessage expiry)
      ∧ attestation.world.ledger.timestamp.toNat ≤ expiry

/-- In every run the gate keeps expired credentials out, whatever credentials stand behind
the proofs, exactly when every accepted call discloses an expiry that has not passed.
-/
theorem unexpired_iff_disclosed (env : Env) (evidence : Evidence env) (ledger : Ledger)
    (ops : List Op)
    : let accepted := attestations env (World.genesis ledger) ops
      (∀ evidence : Evidence env, Unexpired evidence accepted)
      ↔ ∀ attestation ∈ accepted,
          DisclosesExpiry attestation.world.ledger attestation.args := by
  intro accepted
  constructor
  · intro guaranteed attestation member
    have blank
        : ¬ ∃ expiry,
            [] = expiryMessage expiry
            ∧ attestation.world.ledger.timestamp.toNat ≤ expiry := by
      rintro ⟨expiry, empty, -⟩
      simp [expiryMessage, ascii] at empty
    obtain ⟨message, first, expiry, rfl, unexpired⟩ :=
      disclosed_of_forall_evidence evidence 4 (by decide)
        (fun message =>
          ∃ expiry,
            message = expiryMessage expiry
            ∧ attestation.world.ledger.timestamp.toNat ≤ expiry)
        blank
        (fun evidence => by
          obtain ⟨credential, expiry, behind, found, unexpired⟩ :=
            guaranteed evidence attestation member
          exact ⟨credential, _, behind, found, expiry, rfl, unexpired⟩)
    exact ⟨expiry, first, unexpired⟩
  · intro disclosed evidence attestation member
    obtain ⟨expiry, first, unexpired⟩ := disclosed attestation member
    obtain ⟨credential, behind⟩ := evidence.behind_of_accepts (mem_attestations member).1
    exact ⟨credential, expiry, behind, behind.message first, unexpired⟩

namespace Sample

/-- A credential that expired long before the clock of `launch`. -/
def expiredCredential : SignedCredential := credential [] holder 10

def expiredEnv : Env := env [presentation [] holder 10 holder 1 1000]

theorem expired_accepts
    : ((gateMachine expiredEnv).run (World.genesis launch) deploy).Accepts expiredEnv activeKey
        (args [] holder 1 1000 2000 0) := by
  decide +kernel

end Sample

/-- A credential that has expired is attested, since its expiry is never looked at. -/
theorem expired_credential_is_attested
    : ¬ ∀ (env : Env) (evidence : Evidence env) (ledger : Ledger) (ops : List Op),
        Unexpired evidence (attestations env (World.genesis ledger) ops) := by
  intro unexpired
  let evidence : Evidence Sample.expiredEnv := Presentation.evidence _ _ rfl
  obtain ⟨credential, expiry, behind, found, later⟩ :=
    unexpired Sample.expiredEnv evidence Sample.launch _ _
      (mem_attestations_of_accepts Sample.expired_accepts [])
  obtain ⟨presentation, member, rfl⟩ := behind.signed
  obtain rfl := List.mem_singleton.mp member
  have signed
      : Sample.expiredCredential.messages[4]? = some (expiryMessage 10) := by
    decide +kernel
  obtain rfl := expiryMessage_injective (Option.some.inj (signed.symm.trans found))
  exact absurd later (by decide +kernel)

/-- The audited run discloses an expiry in the future. -/
theorem unexpired_iff_disclosed_audited
    : Sample.audited.length = 1 ∧ Unexpired Sample.auditedEvidence Sample.audited := by
  have disclosed (attestation : Attestation) (member : attestation ∈ Sample.audited)
      : DisclosesExpiry attestation.world.ledger attestation.args := by
    obtain ⟨same, launched⟩ := Sample.audited_member member
    rw [same, launched]
    exact ⟨5000, by decide +kernel⟩
  refine ⟨Sample.audited_length, ?_⟩
  exact (unexpired_iff_disclosed Sample.auditedEnv Sample.auditedEvidence Sample.launch
    Sample.auditedOps).mpr disclosed Sample.auditedEvidence

-----------------------------------------------------------------------------------------
-- Credential header
-----------------------------------------------------------------------------------------

/-- The header is the frozen one, or the signed schema version is disclosed. -/
def PinsSchema (args : AttestArgs) : Prop :=
  args.header = credentialHeader
  ∨ firstDisclosed args.disclosedIndexes args.disclosedMessages 0
    = some (ascii "schemaVersion=1")

/-- Every attestation pins the schema, and the credentials behind them were all signed under
the frozen header.
-/
structure SchemaPinned {env : Env} (evidence : Evidence env) (accepted : List Attestation)
    : Prop where
  pinned : ∀ attestation ∈ accepted, PinsSchema attestation.args
  signed
    : ∀ attestation ∈ accepted,
        ∀ credential,
          evidence.Behind attestation credential → credential.header = credentialHeader

/-- In every run the schema is pinned exactly when every accepted call passes the frozen
header. Then every record that grants a claim goes back to a credential signed under it.
Witness: the caller's header is the one the credential was signed under.
-/
theorem schemaPinned_iff (env : Env) (evidence : Evidence env) (ledger : Ledger)
    (ops : List Op)
    : let accepted := attestations env (World.genesis ledger) ops
      (SchemaPinned evidence accepted
        ↔ ∀ attestation ∈ accepted, attestation.args.header = credentialHeader)
      ∧ ((∀ attestation ∈ accepted, attestation.args.header = credentialHeader)
        → ∀ subject record,
          ((gateMachine env).run (World.genesis ledger) ops).record subject = some record
          → record.claims ≠ 0
          → ∃ attestation ∈ accepted,
              ∃ credential,
                attestation.args.subject = subject
                ∧ record = attestation.world.attestedRecord attestation.args
                ∧ evidence.Behind attestation credential
                ∧ credential.header = credentialHeader) := by
  intro accepted
  refine ⟨⟨?_, ?_⟩, ?_⟩
  · intro pinned attestation member
    obtain ⟨credential, behind⟩ := evidence.behind_of_accepts (mem_attestations member).1
    rw [← behind.header, pinned.signed attestation member credential behind]
  · intro frozen
    exact {
      pinned := fun attestation member => Or.inl (frozen attestation member)
      signed := fun attestation member credential behind =>
        behind.header.trans (frozen attestation member)
    }
  · intro frozen subject record stored granted
    obtain ⟨attestation, member, own, written⟩ :=
      run_sourced env ledger ops subject record stored granted
    obtain ⟨credential, behind⟩ := evidence.behind_of_accepts (mem_attestations member).1
    exact ⟨attestation, member, credential, own, written, behind,
      behind.header.trans (frozen attestation member)⟩

/-- A signature of the same key under an empty header sets a claim bit. -/
theorem foreign_header_is_attested
    : ¬ ∀ (env : Env) (evidence : Evidence env) (ledger : Ledger) (ops : List Op),
        SchemaPinned evidence (attestations env (World.genesis ledger) ops) := by
  intro pinned
  let evidence : Evidence Sample.expiredEnv := Presentation.evidence _ _ rfl
  rcases (pinned Sample.expiredEnv evidence Sample.launch _).pinned _
    (mem_attestations_of_accepts Sample.expired_accepts []) with frozen | disclosed
  · exact absurd frozen (by decide +kernel)
  · exact absurd disclosed (by decide +kernel)

/-- The audited run passes the frozen header, and its record goes back to a credential under
it.
-/
theorem schemaPinned_iff_audited
    : SchemaPinned Sample.auditedEvidence Sample.audited
      ∧ ∃ attestation ∈ Sample.audited,
          ∃ credential,
            attestation.args.subject = Sample.holder
            ∧ Sample.auditedEvidence.Behind attestation credential
            ∧ credential.header = credentialHeader := by
  have frozen (attestation : Attestation) (member : attestation ∈ Sample.audited)
      : attestation.args.header = credentialHeader := by
    obtain ⟨same, -⟩ := Sample.audited_member member
    rw [same]
    rfl
  obtain ⟨pinned, backed⟩ :=
    schemaPinned_iff Sample.auditedEnv Sample.auditedEvidence Sample.launch Sample.auditedOps
  refine ⟨pinned.mpr frozen, ?_⟩
  have granted
      : (((gateMachine Sample.auditedEnv).run (World.genesis Sample.launch)
            Sample.auditedOps).record Sample.holder).any (fun record => record.claims != 0)
        = true := by
    decide +kernel
  obtain ⟨record, stored, nonzero⟩ := (Option.any_eq_true _ _).mp granted
  obtain ⟨attestation, member, credential, own, -, behind, header⟩ :=
    backed frozen Sample.holder record stored (by simpa using nonzero)
  exact ⟨attestation, member, credential, own, behind, header⟩

end StellarOnramp.KycGate
