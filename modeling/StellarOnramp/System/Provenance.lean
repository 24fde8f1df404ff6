import StellarOnramp.System.Composition

/-! Where a positive answer comes from. In every run of the three contracts the gate answers
from the last accepted attestation or revocation of the subject, and an accepted attestation
is backed by its disclosed messages and by an issuer the registry then trusted.
-/

namespace StellarOnramp.System

open Octets Transitions
open StellarOnramp.Soroban
open StellarOnramp.KycGate (claimRules firstDisclosed expectedIssuer expectedRevIndex check)

-----------------------------------------------------------------------------------------
-- The commands that write a subject's record
-----------------------------------------------------------------------------------------

/-- A command that is accepted and names the subject: an attestation or a revocation. -/
def Touches (deployment : Deployment) (subject : Address) (world : World)
    (command : Command)
    : Prop :=
  command.subject = some subject ∧ ∃ after, systemStep deployment world command = some after

/-- An accepted command that does not name a subject leaves the subject's record. -/
theorem record_of_step {deployment : Deployment} {before after : World} {command : Command}
    {subject : Address} (accepted : systemStep deployment before command = some after)
    (different : command.subject ≠ some subject)
    : after.gateWorld.record subject = before.gateWorld.record subject := by
  rcases gate_effect_of_step accepted with ⟨op, behind, effect, -⟩ | ⟨-, same⟩
  · rw [← Command.gateOp_subject behind] at different
    exact effect.record_of_ne different
  · rw [same]

/-- An accepted command that names a subject does not close a ledger. -/
theorem ledger_of_step {deployment : Deployment} {before after : World} {command : Command}
    {subject : Address} (accepted : systemStep deployment before command = some after)
    (named : command.subject = some subject)
    : after.ledger = before.ledger := by
  rcases gate_effect_of_step accepted with ⟨op, behind, effect, -⟩ | ⟨-, same⟩
  · rw [← Command.gateOp_subject behind] at named
    have ledger : after.gateWorld.ledger = before.gateWorld.ledger := by
      generalize after.gateWorld = gateAfter at effect ⊢
      cases effect with
      | attested accepts => rfl
      | revoked stored authorised => rfl
      | kept unnamed keeps => exact absurd (named.symm.trans unnamed) (Option.some_ne_none _)
    exact ledger
  · exact congrArg KycGate.World.ledger same

/-- Whatever does not touch a subject leaves its record, accepted or refused. -/
theorem record_of_not_touches {deployment : Deployment} {subject : Address} (world : World)
    (command : Command) (calm : ¬ Touches deployment subject world command)
    : ((systemMachine deployment).next world command).gateWorld.record subject
      = world.gateWorld.record subject := by
  cases outcome : systemStep deployment world command with
  | none => rw [Machine.next_of_refused outcome]
  | some after =>
      rw [Machine.next_of_step outcome]
      exact record_of_step outcome (fun named => calm ⟨named, after, outcome⟩)

/-- An accepted command that names a subject stored its attestation or its tombstone. -/
theorem Touches.record {deployment : Deployment} {subject : Address} {world : World}
    {command : Command} (touched : Touches deployment subject world command)
    : (∃ args,
          command = .attestBbs args
          ∧ args.subject = subject
          ∧ ((systemMachine deployment).next world command).gateWorld.record subject
            = some (world.gateWorld.attestedRecord args))
      ∨ ((systemMachine deployment).next world command).gateWorld.record subject
        = some (world.gateWorld.tombstone subject) := by
  obtain ⟨named, after, accepted⟩ := touched
  rw [Machine.next_of_step accepted]
  rcases gate_effect_of_step accepted with ⟨op, behind, effect, -⟩ | ⟨foreign, -⟩
  · cases command with
    | attestBbs args =>
        cases behind
        cases named
        generalize after.gateWorld = gateAfter at effect
        cases effect with
        | attested accepts =>
            exact Or.inl ⟨args, rfl, rfl, KycGate.World.attested_record_self _ _ _⟩
        | kept unnamed keeps => cases unnamed
    | revoke auth other =>
        cases behind
        cases named
        generalize after.gateWorld = gateAfter at effect
        cases effect with
        | revoked stored authorised =>
            exact Or.inr (KycGate.World.revoked_record_self _ _ _)
        | kept unnamed keeps => cases unnamed
    | _ => cases named
  · cases command <;> cases named <;> cases foreign

-----------------------------------------------------------------------------------------
-- Provenance of one accepted attestation
-----------------------------------------------------------------------------------------

/-- What the inputs of an accepted attestation prove: each claim bit by its own message, the
issuer and revocation index by theirs, and the issuer by the registry at that ledger.
-/
structure Backed (given : World) (args : KycGate.AttestArgs) : Prop where
  bits
    : ∀ position,
        args.claims.toNat.testBit position = true
        → ∃ rule ∈ claimRules,
            rule.bit.toNat = 2 ^ position
            ∧ rule.Granted args.disclosedIndexes args.disclosedMessages
  issuerMessage
    : firstDisclosed args.disclosedIndexes args.disclosedMessages 1
      = some (expectedIssuer args.issuerId)
  revIndexMessage
    : firstDisclosed args.disclosedIndexes args.disclosedMessages 2
      = some (expectedRevIndex args.revocationIndex)
  issuer
    : ∃ issuer,
        given.registry.issuers args.issuerId = some issuer
        ∧ issuer.Usable given.ledger.sequence

/-- The gate's key comes from an issuer that the registry holds usable. -/
theorem usable_of_activeKey {deployment : Deployment} {world : World} {address : Address}
    {issuerId : BytesN 32} {key : BytesN 192}
    (active : world.activeKey deployment address issuerId = some key)
    : ∃ issuer,
        world.registry.issuers issuerId = some issuer
        ∧ issuer.Usable world.ledger.sequence := by
  unfold World.activeKey at active
  split at active
  case isTrue =>
    cases answer : KycRegistry.activeKey world.ledger world.registry issuerId with
    | error failure => simp [answer, Except.toOption] at active
    | ok found =>
        obtain ⟨issuer, stored, usable, -⟩ := KycRegistry.activeKey_eq_ok_iff.mp answer
        exact ⟨issuer, stored, usable⟩
  case isFalse => cases active

/-- Every accepted attestation is backed. -/
theorem backed_of_step {deployment : Deployment} {given after : World}
    {args : KycGate.AttestArgs}
    (accepted : systemStep deployment given (.attestBbs args) = some after)
    : Backed given args := by
  have accepts : given.gateWorld.Accepts deployment.env (given.activeKey deployment) args := by
    simp only [systemStep, Command.gateOp, Option.map_eq_some_iff] at accepted
    obtain ⟨gateAfter, stepped, -⟩ := accepted
    exact (KycGate.gateStep_attestBbs_iff.mp stepped).1
  obtain ⟨key, ⟨registry, -, active⟩, -⟩ := accepts.verified
  exact {
    bits := fun position set =>
      KycGate.derivedClaims_testBit.mp
        ((KycGate.and_not_eq_zero_iff _ _).mp accepts.derived position set)
    issuerMessage := KycGate.disclosedIs_iff.mp accepts.issuerDisclosed
    revIndexMessage := KycGate.disclosedIs_iff.mp accepts.revIndexDisclosed
    issuer := usable_of_activeKey active
  }

-----------------------------------------------------------------------------------------
-- Provenance of every answer
-----------------------------------------------------------------------------------------

/-- The attestation with these arguments was accepted in `given`, and no later command was
accepted for the same subject.
-/
def LastAttested (deployment : Deployment) (start : World) (commands : List Command)
    (given : World) (args : KycGate.AttestArgs)
    : Prop :=
  ∃ before after later,
    commands = before ++ .attestBbs args :: after
    ∧ given = (systemMachine deployment).run start before
    ∧ systemStep deployment given (.attestBbs args) = some later
    ∧ (systemMachine deployment).Quiet (Touches deployment args.subject) later after

/-- The last accepted attestation of a subject is the subject's record. Witness: nothing
after it touches the record.
-/
theorem LastAttested.record {deployment : Deployment} {start given : World}
    {commands : List Command} {args : KycGate.AttestArgs}
    (last : LastAttested deployment start commands given args)
    : ((systemMachine deployment).run start commands).gateWorld.record args.subject
      = some (given.gateWorld.attestedRecord args) := by
  obtain ⟨before, after, later, rfl, rfl, accepted, quiet⟩ := last
  have next
      : (systemMachine deployment).next ((systemMachine deployment).run start before)
          (.attestBbs args)
        = later :=
    Machine.next_of_step accepted
  rw [Machine.run_append, Machine.run_cons, next,
    quiet.observe_run (fun world => world.gateWorld.record args.subject)
      record_of_not_touches]
  simp only [systemStep, Command.gateOp, Option.map_eq_some_iff] at accepted
  obtain ⟨gateAfter, stepped, rfl⟩ := accepted
  obtain ⟨-, rfl⟩ := KycGate.gateStep_attestBbs_iff.mp stepped
  rw [World.gateWorld_withGateWorld, KycGate.World.attested_record_self]

/-- A record that grants a claim is that of a last accepted attestation. Witness: the last
command that touched the subject, which was no revocation.
-/
theorem lastAttested_of_record {deployment : Deployment} {ledger : Ledger} {owner : Address}
    {requiredBitmap : UInt32} {commands : List Command} {subject : Address}
    {record : KycGate.ClaimRecord}
    (stored
      : ((systemMachine deployment).run
            (World.genesis deployment ledger owner requiredBitmap)
            commands).gateWorld.record subject
        = some record)
    (granted : record.claims ≠ 0)
    : ∃ given args,
        LastAttested deployment (World.genesis deployment ledger owner requiredBitmap)
          commands given args
        ∧ args.subject = subject
        ∧ record = given.gateWorld.attestedRecord args := by
  rcases Machine.quiet_or_last_event (systemMachine deployment) (Touches deployment subject)
      (World.genesis deployment ledger owner requiredBitmap) commands with
    quiet | ⟨before, command, after, rfl, touched, quiet⟩
  · rw [quiet.observe_run (fun world => world.gateWorld.record subject)
      record_of_not_touches] at stored
    cases stored
  · rw [Machine.run_append, Machine.run_cons,
      quiet.observe_run (fun world => world.gateWorld.record subject)
        record_of_not_touches] at stored
    rcases touched.record with ⟨args, rfl, rfl, written⟩ | tombstone
    · obtain ⟨-, later, accepted⟩ := touched
      rw [written, Option.some.injEq] at stored
      rw [Machine.next_of_step accepted] at quiet
      exact ⟨_, args, ⟨before, after, later, rfl, rfl, accepted, quiet⟩, rfl, stored.symm⟩
    · rw [tombstone, Option.some.injEq] at stored
      exact absurd (stored ▸ rfl) granted

/-- An accepted command leaves the adapter's gate address and its required mask set. -/
theorem wrap_of_step {deployment : Deployment} {before after : World} {command : Command}
    (accepted : systemStep deployment before command = some after)
    : after.wrap.kycGate = before.wrap.kycGate
      ∧ (before.wrap.required.isSome → after.wrap.required.isSome) := by
  have kept (same : after.wrap = before.wrap)
      : after.wrap.kycGate = before.wrap.kycGate
        ∧ (before.wrap.required.isSome → after.wrap.required.isSome) := by
    rw [same]
    exact ⟨rfl, id⟩
  have owned {update : Unit → TrexWrap.State} {auth : Authorization} {wrap : TrexWrap.State}
      (written
        : ((TrexWrap.enforceOwnerAuth auth before.wrap).map update).toOption = some wrap)
      : wrap = update () := by
    cases guarded : TrexWrap.enforceOwnerAuth auth before.wrap with
    | error failure => simp [guarded, Except.map, Except.toOption] at written
    | ok authorised =>
        simpa [guarded, Except.map, Except.toOption, eq_comm] using written
  rcases gate_effect_of_step accepted with ⟨op, behind, effect, registry, wrap⟩ | ⟨foreign, -⟩
  · exact kept wrap
  · cases command <;> simp only [Command.gateOp, reduceCtorEq] at foreign <;>
      simp only [systemStep, Command.gateOp, Option.map_eq_some_iff] at accepted <;>
      obtain ⟨part, written, rfl⟩ := accepted
    case initRegistry => exact kept rfl
    case registerIssuer => exact kept rfl
    case revokeIssuer => exact kept rfl
    case setRequired =>
      obtain rfl := owned written
      exact ⟨rfl, fun _ => rfl⟩
    case setRecovery =>
      obtain rfl := owned written
      exact ⟨rfl, id⟩
    case setClaimTopicsAndIssuers =>
      obtain rfl := owned written
      exact ⟨rfl, id⟩

/-- The adapter keeps pointing at the gate, with some required mask. -/
theorem run_wrap (deployment : Deployment) (ledger : Ledger) (owner : Address)
    (requiredBitmap : UInt32) (commands : List Command)
    : let world :=
        (systemMachine deployment).run
          (World.genesis deployment ledger owner requiredBitmap) commands
      world.wrap.kycGate = some deployment.env.currentContractAddress
      ∧ world.wrap.required.isSome := by
  have preserves
      : (systemMachine deployment).Preserves (fun world =>
          world.wrap.kycGate = some deployment.env.currentContractAddress
          ∧ world.wrap.required.isSome) := by
    rintro before command after ⟨gate, need⟩ accepted
    obtain ⟨sameGate, keptNeed⟩ := wrap_of_step accepted
    exact ⟨sameGate.trans gate, keptNeed need⟩
  exact preserves.run ⟨rfl, rfl⟩ commands

/-- In every run of the three contracts: the gate answers `true` exactly when the subject's
last accepted attestation, later than every other one and every successful revocation,
covers the mask and has not expired; such an attestation is backed; no command that names
another subject changes an answer; and the adapter verifies exactly whom the gate answers
for with the required mask.
-/
theorem check_provenance (deployment : Deployment) (ledger : Ledger) (owner : Address)
    (requiredBitmap : UInt32) (commands : List Command) (subject : Address) (mask : UInt32)
    : let start := World.genesis deployment ledger owner requiredBitmap
      let world := (systemMachine deployment).run start commands
      (check world.ledger world.gate subject mask = true
        ↔ mask ≠ 0
          ∧ ∃ given args,
              LastAttested deployment start commands given args
              ∧ args.subject = subject
              ∧ args.claims &&& mask = mask
              ∧ world.ledger.sequence.toNat ≤ args.expiresAt.toNat)
      ∧ (∀ given args, LastAttested deployment start commands given args → Backed given args)
      ∧ (∀ command other after,
        command.subject = some other
        → other ≠ subject
        → systemStep deployment world command = some after
        → check after.ledger after.gate subject mask
          = check world.ledger world.gate subject mask)
      ∧ ∃ need,
          world.wrap.required = some need
          ∧ (TrexWrap.verifyIdentity (world.checkCall deployment) world.wrap subject = .ok ()
            ↔ check world.ledger world.gate subject need = true) := by
  intro start world
  refine ⟨?_, ?_, ?_, ?_⟩
  · rw [KycGate.check_eq_true_iff]
    refine and_congr_right (fun nonempty => ⟨?_, ?_⟩)
    · rintro ⟨record, stored, live, superset⟩
      have granted := KycGate.claims_ne_zero_of_superset nonempty superset
      obtain ⟨given, args, last, own, rfl⟩ := lastAttested_of_record stored granted
      exact ⟨given, args, last, own, superset, live⟩
    · rintro ⟨given, args, last, rfl, superset, live⟩
      exact ⟨_, last.record, live, superset⟩
  · rintro given args ⟨before, after, later, -, -, accepted, -⟩
    exact backed_of_step accepted
  · intro command other after named different accepted
    have record : after.gateWorld.record subject = world.gateWorld.record subject :=
      record_of_step accepted (by simpa [named] using different)
    rw [ledger_of_step accepted named]
    exact KycGate.check_congr record
  · obtain ⟨gate, need⟩ := run_wrap deployment ledger owner requiredBitmap commands
    obtain ⟨need, required⟩ := Option.isSome_iff_exists.mp need
    refine ⟨need, required, ?_⟩
    rw [TrexWrap.verifyIdentity_eq_ok_iff]
    simp [gate, required, World.checkCall, world, start]

namespace Sample

open StellarOnramp.KycGate.Sample

def deployment : Deployment :=
  {
    env := env [presentation [] holder 0 holder 1 1000]
    registryAddress := registry
  }

def start : World :=
  World.genesis deployment { sequence := 900, timestamp := 0 } admin KycGate.claimOver18

/-- The issuer is registered and the holder attested. -/
def onboarding : List Command :=
  [
    .initRegistry signed admin,
    .registerIssuer signed issuerId key 0,
    .initGate signed admin registry,
    .attestBbs (args [] holder 1 1000 2000 0)
  ]

end Sample

/-- The onboarded holder's answer goes back to a backed attestation, and the adapter verifies
the holder.
-/
theorem check_provenance_onboarded
    : let world := (systemMachine Sample.deployment).run Sample.start Sample.onboarding
      (∃ given args,
        LastAttested Sample.deployment Sample.start Sample.onboarding given args
        ∧ Backed given args)
      ∧ TrexWrap.verifyIdentity (world.checkCall Sample.deployment) world.wrap
            KycGate.Sample.holder
          = .ok () := by
  have spec :=
    check_provenance Sample.deployment { sequence := 900, timestamp := 0 }
      KycGate.Sample.admin KycGate.claimOver18 Sample.onboarding KycGate.Sample.holder
      KycGate.claimOver18
  obtain ⟨answers, backed, -, need, required, verifies⟩ := spec
  dsimp only at answers required verifies ⊢
  have granted := answers.mp (by decide +kernel)
  obtain ⟨-, given, args, last, -⟩ := granted
  refine ⟨⟨given, args, last, backed given args last⟩, verifies.mpr ?_⟩
  have mask : need = KycGate.claimOver18 := by
    have stored
        : ((systemMachine Sample.deployment).run
              (World.genesis Sample.deployment { sequence := 900, timestamp := 0 }
                KycGate.Sample.admin KycGate.claimOver18)
              Sample.onboarding).wrap.required
          = some KycGate.claimOver18 := by
      decide +kernel
    exact Option.some.inj (required.symm.trans stored)
  subst mask
  decide +kernel

end StellarOnramp.System
