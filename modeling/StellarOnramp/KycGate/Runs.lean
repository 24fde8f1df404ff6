import StellarOnramp.KycGate.Acceptance
import StellarOnramp.Library.Transitions

/-! The gate as a machine over any order of calls and ledger advances. An operation that is
refused, or that a caller may not perform, leaves the world as it was.
-/

namespace StellarOnramp.KycGate

open Octets Lifetimes Transitions
open StellarOnramp.Soroban

/-- The gate's storage in the current ledger. -/
structure World where
  ledger : Ledger
  gate : State

/-- The world right after deployment. -/
def World.genesis (ledger : Ledger) : World :=
  { ledger, gate := State.empty ledger.sequence.toNat }

/-- One operation: an entry point with its host context, or a later ledger closing. -/
inductive Op where
  | init (auth : Authorization) (admin registry : Address)
  | attestBbs (activeKey : RegistryView) (args : AttestArgs)
  | revoke (auth : Authorization) (subject : Address)
  | setAdmin (auth : Authorization) (newAdmin : Address)
  | advance (ledger : Ledger)

/-- The subject whose record an operation may write. -/
def Op.subject : Op → Option Address
  | attestBbs _ args => some args.subject
  | revoke _ subject => some subject
  | init .. | setAdmin .. | advance _ => none

def World.withGate (world : World) (gate : State) : World :=
  { world with gate }

/-- One accepted operation; a failed call is refused, so its writes are rolled back. -/
def gateStep (env : Env) (world : World) : Op → Option World
  | .init auth admin registry =>
      (init auth world.ledger world.gate admin registry).toOption.map world.withGate
  | .attestBbs activeKey args =>
      (attestBbs env world.ledger activeKey world.gate args).toOption.map
        (fun outcome => world.withGate outcome.1)
  | .revoke auth subject =>
      (revoke env auth world.ledger world.gate subject).toOption.map world.withGate
  | .setAdmin auth newAdmin =>
      (setAdmin auth world.ledger world.gate newAdmin).toOption.map world.withGate
  | .advance ledger =>
      if world.ledger.sequence ≤ ledger.sequence ∧ world.ledger.timestamp ≤ ledger.timestamp then
        some { world with ledger }
      else
        none

def gateMachine (env : Env) : Machine World Op :=
  { step := gateStep env }

-----------------------------------------------------------------------------------------
-- The two operations that write records
-----------------------------------------------------------------------------------------

def World.record (world : World) (subject : Address) : Option ClaimRecord :=
  readClaim world.gate subject

/-- The subject's revocation epoch, `0` without a record. -/
def World.epoch (world : World) (subject : Address) : UInt32 :=
  currentEpoch (world.record subject)

def World.Accepts (env : Env) (world : World) (activeKey : RegistryView) (args : AttestArgs)
    : Prop :=
  KycGate.Accepts env world.ledger activeKey world.gate args

/-- The record an accepted attestation writes. -/
def World.attestedRecord (world : World) (args : AttestArgs) : ClaimRecord :=
  {
    claims := args.claims
    expiresAt := args.expiresAt
    issuerId := args.issuerId
    issuedAt := world.ledger.sequence
    revocationEpoch := world.epoch args.subject
    revocationIndex := args.revocationIndex
  }

/-- The epoch after one more revocation. -/
def World.nextEpoch (world : World) (subject : Address) : UInt32 :=
  match world.record subject with
  | some record => saturatingAdd record.revocationEpoch 1
  | none => 1

/-- The tombstone a revocation writes. -/
def World.tombstone (world : World) (subject : Address) : ClaimRecord :=
  {
    claims := 0
    expiresAt := world.ledger.sequence
    issuerId :=
      match world.record subject with
      | some record => record.issuerId
      | none => zeroBytes 32
    issuedAt := world.ledger.sequence
    revocationEpoch := world.nextEpoch subject
    revocationIndex :=
      match world.record subject with
      | some record => record.revocationIndex
      | none => 0
  }

/-- The world after an accepted attestation. -/
def World.attested (env : Env) (world : World) (args : AttestArgs) : World :=
  world.withGate
    (recordAttestation env world.ledger world.gate args (world.epoch args.subject))

/-- The world after a successful revocation. -/
def World.revoked (env : Env) (world : World) (subject : Address) : World :=
  world.withGate (writeTombstone env world.ledger world.gate subject (world.record subject))

section Frames

variable (env : Env) (world : World) (args : AttestArgs) (subject other : Address)

@[simp]
theorem World.attested_ledger : (world.attested env args).ledger = world.ledger := rfl

@[simp]
theorem World.revoked_ledger : (world.revoked env subject).ledger = world.ledger := rfl

@[simp]
theorem World.attested_admin : (world.attested env args).gate.admin = world.gate.admin := rfl

@[simp]
theorem World.revoked_admin : (world.revoked env subject).gate.admin = world.gate.admin := rfl

@[simp]
theorem World.attested_registry
    : (world.attested env args).gate.registry = world.gate.registry := rfl

@[simp]
theorem World.revoked_registry
    : (world.revoked env subject).gate.registry = world.gate.registry := rfl

@[simp]
theorem World.revoked_nonces
    : (world.revoked env subject).gate.nonces = world.gate.nonces := rfl

/-- An attestation stores its record for its subject. -/
@[simp]
theorem World.attested_record_self
    : (world.attested env args).record args.subject = some (world.attestedRecord args) := by
  simp [World.record, World.attested, World.withGate, readClaim, recordAttestation,
    writeClaim, bumpInstance, World.attestedRecord]

/-- An attestation leaves the records of other subjects. -/
theorem World.attested_record_of_ne (different : other ≠ args.subject)
    : (world.attested env args).record other = world.record other := by
  simp [World.record, World.attested, World.withGate, readClaim, recordAttestation,
    writeClaim, bumpInstance, different]

/-- A revocation stores a tombstone for its subject. -/
@[simp]
theorem World.revoked_record_self
    : (world.revoked env subject).record subject = some (world.tombstone subject) := by
  simp only [World.record, World.revoked, World.withGate, readClaim, writeTombstone,
    writeClaim, bumpInstance, Function.update_self, Option.map_some, extendTtl_value, put_value]
  rfl

/-- A revocation leaves the records of other subjects. -/
theorem World.revoked_record_of_ne (different : other ≠ subject)
    : (world.revoked env subject).record other = world.record other := by
  simp [World.record, World.revoked, World.withGate, readClaim, writeTombstone, writeClaim,
    bumpInstance, different]

end Frames

-----------------------------------------------------------------------------------------
-- What an accepted operation did
-----------------------------------------------------------------------------------------

/-- An operation that writes no record: storage other than the configuration is kept, the
configuration is kept once it is set, and time does not run backwards.
-/
structure KeepsRecords (before after : World) : Prop where
  claims : after.gate.claims = before.gate.claims
  nonces : after.gate.nonces = before.gate.nonces
  sequence : before.ledger.sequence.toNat ≤ after.ledger.sequence.toNat
  timestamp : before.ledger.timestamp.toNat ≤ after.ledger.timestamp.toNat
  configured : before.gate.admin.isSome → after.gate.admin.isSome
  registry : before.gate.admin.isSome → after.gate.registry = before.gate.registry
  paired
    : before.gate.registry.isSome = before.gate.admin.isSome
      → after.gate.registry.isSome = after.gate.admin.isSome

/-- The effect of an accepted operation, case by case. -/
inductive Effect (env : Env) (before : World) : Op → World → Prop where
  | attested {activeKey : RegistryView} {args : AttestArgs}
      (accepts : before.Accepts env activeKey args)
      : Effect env before (.attestBbs activeKey args) (before.attested env args)
  | revoked {auth : Authorization} {subject admin : Address}
      (stored : before.gate.admin = some admin) (authorised : auth admin = true)
      : Effect env before (.revoke auth subject) (before.revoked env subject)
  | kept {op : Op} {after : World} (unnamed : op.subject = none)
      (keeps : KeepsRecords before after)
      : Effect env before op after

theorem requireAdmin_eq_ok_iff {auth : Authorization} {state : State} {admin : Address}
    : requireAdmin auth state = .ok admin ↔ state.admin = some admin ∧ auth admin = true := by
  unfold requireAdmin
  cases stored : state.admin with
  | none => simp
  | some holder =>
      by_cases authorised : auth holder = true
      · simp only [authorised, ↓reduceIte, Except.ok.injEq, Option.some.injEq]
        exact ⟨fun same => ⟨same, same ▸ authorised⟩, And.left⟩
      · simp only [authorised, Bool.false_eq_true, ↓reduceIte, reduceCtorEq, Option.some.injEq,
          false_iff, not_and]
        exact fun same => same ▸ authorised

/-- Every accepted operation has one of the three effects. Witness: invert the entry point
of each operation.
-/
theorem effect_of_step {env : Env} {before after : World} {op : Op}
    (accepted : gateStep env before op = some after)
    : Effect env before op after := by
  cases op with
  | init auth admin registry =>
      simp only [gateStep, init] at accepted
      split at accepted
      · simp [Except.toOption] at accepted
      rename_i vacant
      split at accepted
      · simp only [Except.toOption, Option.map_some, Option.some.injEq] at accepted
        subst accepted
        exact .kept rfl {
          claims := rfl
          nonces := rfl
          sequence := Nat.le_refl _
          timestamp := Nat.le_refl _
          configured := fun _ => rfl
          registry := fun taken => absurd taken vacant
          paired := fun _ => rfl
        }
      · simp [Except.toOption] at accepted
  | attestBbs activeKey args =>
      simp only [gateStep] at accepted
      cases outcome : attestBbs env before.ledger activeKey before.gate args with
      | error failure => simp [outcome, Except.toOption] at accepted
      | ok pair =>
          simp only [outcome, Except.toOption, Option.map_some, Option.some.injEq] at accepted
          obtain ⟨accepts, written, -⟩ := accepts_of_attestBbs outcome
          subst accepted
          rw [written]
          exact .attested accepts
  | revoke auth subject =>
      simp only [gateStep, revoke] at accepted
      cases held : requireAdmin auth before.gate with
      | error failure => simp [held, Except.toOption] at accepted
      | ok admin =>
          simp only [held, Except.toOption, Option.map_some, Option.some.injEq] at accepted
          obtain ⟨stored, authorised⟩ := requireAdmin_eq_ok_iff.mp held
          subst accepted
          exact .revoked stored authorised
  | setAdmin auth newAdmin =>
      simp only [gateStep, setAdmin] at accepted
      cases held : requireAdmin auth before.gate with
      | error failure => simp [held, Except.toOption] at accepted
      | ok admin =>
          simp only [held] at accepted
          obtain ⟨stored, -⟩ := requireAdmin_eq_ok_iff.mp held
          split at accepted
          · simp only [Except.toOption, Option.map_some, Option.some.injEq] at accepted
            subst accepted
            exact .kept rfl {
              claims := rfl
              nonces := rfl
              sequence := Nat.le_refl _
              timestamp := Nat.le_refl _
              configured := fun _ => rfl
              registry := fun _ => rfl
              paired := fun paired => by
                rw [stored] at paired
                exact paired
            }
          · simp [Except.toOption] at accepted
  | advance ledger =>
      simp only [gateStep] at accepted
      split at accepted
      case isTrue later =>
        simp only [Option.some.injEq] at accepted
        subst accepted
        exact .kept rfl {
          claims := rfl
          nonces := rfl
          sequence := UInt32.le_iff_toNat_le.mp later.1
          timestamp := UInt64.le_iff_toNat_le.mp later.2
          configured := id
          registry := fun _ => rfl
          paired := id
        }
      case isFalse => cases accepted

/-- An attestation step succeeds exactly when the call is accepted. -/
theorem gateStep_attestBbs_iff {env : Env} {world after : World} {activeKey : RegistryView}
    {args : AttestArgs}
    : gateStep env world (.attestBbs activeKey args) = some after
      ↔ world.Accepts env activeKey args ∧ after = world.attested env args := by
  constructor
  · intro accepted
    cases effect_of_step accepted with
    | attested accepts => exact ⟨accepts, rfl⟩
    | kept unnamed _ => cases unnamed
  · rintro ⟨accepts, rfl⟩
    simp only [gateStep, Accepts.attestBbs accepts]
    rfl

/-- Acceptance can be evaluated by running the call. -/
instance (env : Env) (world : World) (activeKey : RegistryView) (args : AttestArgs)
    : Decidable (world.Accepts env activeKey args) :=
  decidable_of_iff ((gateStep env world (.attestBbs activeKey args)).isSome = true) <| by
    rw [Option.isSome_iff_exists]
    exact ⟨fun ⟨_, accepted⟩ => (gateStep_attestBbs_iff.mp accepted).1,
      fun accepts => ⟨_, gateStep_attestBbs_iff.mpr ⟨accepts, rfl⟩⟩⟩

/-- A revocation step succeeds exactly when the stored admin authorised it. -/
theorem gateStep_revoke_iff {env : Env} {world after : World} {auth : Authorization}
    {subject : Address}
    : gateStep env world (.revoke auth subject) = some after
      ↔ (∃ admin, world.gate.admin = some admin ∧ auth admin = true)
        ∧ after = world.revoked env subject := by
  constructor
  · intro accepted
    cases effect_of_step accepted with
    | revoked stored authorised => exact ⟨⟨_, stored, authorised⟩, rfl⟩
    | kept unnamed _ => cases unnamed
  · rintro ⟨⟨admin, stored, authorised⟩, rfl⟩
    simp only [gateStep, revoke, requireAdmin_eq_ok_iff.mpr ⟨stored, authorised⟩]
    rfl

-----------------------------------------------------------------------------------------
-- Facts about every run
-----------------------------------------------------------------------------------------

/-- No accepted operation moves the ledger sequence or the clock backwards. -/
theorem Effect.time {env : Env} {before after : World} {op : Op}
    (effect : Effect env before op after)
    : before.ledger.sequence.toNat ≤ after.ledger.sequence.toNat
      ∧ before.ledger.timestamp.toNat ≤ after.ledger.timestamp.toNat := by
  cases effect with
  | attested accepts => exact ⟨Nat.le_refl _, Nat.le_refl _⟩
  | revoked stored authorised => exact ⟨Nat.le_refl _, Nat.le_refl _⟩
  | kept unnamed keeps => exact ⟨keeps.sequence, keeps.timestamp⟩

/-- A property of worlds is preserved when every effect preserves it. -/
theorem preserves_of_effect {env : Env} {Holds : World → Prop}
    (preserves
      : ∀ before op after, Effect env before op after → Holds before → Holds after)
    : (gateMachine env).Preserves Holds :=
  fun before op after holds accepted =>
    preserves before op after (effect_of_step accepted) holds

/-- The ledger sequence never decreases along a run. -/
theorem run_sequence_le (env : Env) (world : World) (ops : List Op)
    : world.ledger.sequence.toNat
      ≤ ((gateMachine env).run world ops).ledger.sequence.toNat := by
  have preserves
      : (gateMachine env).Preserves
          (fun later => world.ledger.sequence.toNat ≤ later.ledger.sequence.toNat) :=
    preserves_of_effect (fun _ _ _ effect reached => Nat.le_trans reached effect.time.1)
  exact preserves.run (Nat.le_refl _) ops

/-- Admin and registry are stored together by `init`. -/
def World.Paired (world : World) : Prop :=
  world.gate.registry.isSome = world.gate.admin.isSome

/-- Every reachable world has its admin and registry set together. -/
theorem run_genesis_paired (env : Env) (ledger : Ledger) (ops : List Op)
    : ((gateMachine env).run (World.genesis ledger) ops).Paired := by
  have preserves : (gateMachine env).Preserves World.Paired := by
    apply preserves_of_effect
    intro before op after effect paired
    cases effect with
    | attested accepts => exact paired
    | revoked stored authorised => exact paired
    | kept unnamed keeps => exact keeps.paired paired
  have genesis : (World.genesis ledger).Paired := rfl
  exact preserves.run genesis ops

/-- A stored registry stays stored along a run from a paired world. -/
theorem run_registry {env : Env} {world : World} {registry : Address}
    (paired : world.Paired) (stored : world.gate.registry = some registry) (ops : List Op)
    : ((gateMachine env).run world ops).gate.registry = some registry := by
  have configured : world.gate.admin.isSome := by
    rw [← paired, stored]
    rfl
  have preserves
      : (gateMachine env).Preserves
          (fun later => later.gate.admin.isSome ∧ later.gate.registry = some registry) := by
    apply preserves_of_effect
    rintro before op after effect ⟨configured, stored⟩
    cases effect with
    | attested accepts => exact ⟨configured, stored⟩
    | revoked _ authorised => exact ⟨configured, stored⟩
    | kept unnamed keeps =>
        exact ⟨keeps.configured configured, (keeps.registry configured).trans stored⟩
  exact (preserves.run ⟨configured, stored⟩ ops).2

/-- An operation that names another subject, or none, leaves a subject's record. -/
theorem Effect.record_of_ne {env : Env} {before after : World} {op : Op} {subject : Address}
    (effect : Effect env before op after) (different : op.subject ≠ some subject)
    : after.record subject = before.record subject := by
  cases effect with
  | attested accepts =>
      exact before.attested_record_of_ne env _ _ (fun same => different (congrArg some same.symm))
  | revoked stored authorised =>
      exact before.revoked_record_of_ne env _ _ (fun same => different (congrArg some same.symm))
  | kept unnamed keeps => simp only [World.record, readClaim, keeps.claims]

-----------------------------------------------------------------------------------------
-- Accepted attestations of a run
-----------------------------------------------------------------------------------------

/-- An attestation call: the world it is given to, what the registry answers, and its
arguments.
-/
structure Attestation where
  world : World
  activeKey : RegistryView
  args : AttestArgs

def Attestation.ofInput : World × Op → Option Attestation
  | (world, .attestBbs activeKey args) => some { world, activeKey, args }
  | _ => none

/-- The accepted attestations of a run, in order. -/
def attestations (env : Env) (world : World) (ops : List Op) : List Attestation :=
  ((gateMachine env).trace world ops).filterMap Attestation.ofInput

theorem Attestation.ofInput_eq_some_iff {input : World × Op} {attestation : Attestation}
    : Attestation.ofInput input = some attestation
      ↔ input = (attestation.world, .attestBbs attestation.activeKey attestation.args) := by
  obtain ⟨world, op⟩ := input
  cases op with
  | attestBbs activeKey args =>
      simp only [ofInput, Option.some.injEq, Prod.mk.injEq, Op.attestBbs.injEq]
      exact ⟨fun same => by simp [← same], fun same => by simp [same]⟩
  | init auth admin registry => simp [ofInput]
  | revoke auth subject => simp [ofInput]
  | setAdmin auth newAdmin => simp [ofInput]
  | advance ledger => simp [ofInput]

/-- A listed attestation met every check, in the world its predecessors led to. -/
theorem mem_attestations {env : Env} {world : World} {ops : List Op}
    {attestation : Attestation} (member : attestation ∈ attestations env world ops)
    : attestation.world.Accepts env attestation.activeKey attestation.args
      ∧ ∃ before after,
          ops = before ++ .attestBbs attestation.activeKey attestation.args :: after
          ∧ attestation.world = (gateMachine env).run world before := by
  obtain ⟨input, traced, named⟩ := List.mem_filterMap.mp member
  obtain rfl := Attestation.ofInput_eq_some_iff.mp named
  obtain ⟨before, after, split, reached, later, accepted⟩ := Machine.mem_trace traced
  exact ⟨(gateStep_attestBbs_iff.mp accepted).1, before, after, split, reached⟩

/-- An accepted call is listed wherever it stands in the run. -/
theorem mem_attestations_of_accepts {env : Env} {world : World} {before : List Op}
    {activeKey : RegistryView} {args : AttestArgs}
    (accepts : ((gateMachine env).run world before).Accepts env activeKey args)
    (after : List Op)
    : { world := (gateMachine env).run world before, activeKey, args }
      ∈ attestations env world (before ++ .attestBbs activeKey args :: after) := by
  have accepted := gateStep_attestBbs_iff.mpr ⟨accepts, rfl⟩
  exact List.mem_filterMap.mpr ⟨_, Machine.mem_trace_of_step accepted after, rfl⟩

/-- Every record that grants a claim was written by one of the attestations. -/
def World.Sourced (accepted : List Attestation) (world : World) : Prop :=
  ∀ subject record,
    world.record subject = some record
    → record.claims ≠ 0
    → ∃ attestation ∈ accepted,
        attestation.args.subject = subject
        ∧ record = attestation.world.attestedRecord attestation.args

/-- An accepted operation keeps the records sourced if its own attestation is listed. -/
theorem Effect.sourced {env : Env} {before after : World} {op : Op}
    {accepted : List Attestation} (effect : Effect env before op after)
    (listed
      : ∀ activeKey args,
          op = .attestBbs activeKey args → { world := before, activeKey, args } ∈ accepted)
    (sourced : before.Sourced accepted)
    : after.Sourced accepted := by
  intro subject record stored granted
  cases effect with
  | @attested activeKey args accepts =>
      by_cases own : subject = args.subject
      · subst own
        rw [World.attested_record_self, Option.some.injEq] at stored
        exact ⟨_, listed activeKey args rfl, rfl, stored.symm⟩
      · rw [before.attested_record_of_ne env args subject own] at stored
        exact sourced subject record stored granted
  | @revoked auth named admin held authorised =>
      by_cases own : subject = named
      · subst own
        rw [World.revoked_record_self, Option.some.injEq] at stored
        exact absurd (stored ▸ rfl) granted
      · rw [before.revoked_record_of_ne env named subject own] at stored
        exact sourced subject record stored granted
  | kept unnamed keeps =>
      refine sourced subject record ?_ granted
      rwa [World.record, readClaim, keeps.claims] at stored

/-- In every run, a record that grants a claim was written by one of the run's accepted
attestations for its subject.
-/
theorem run_sourced (env : Env) (ledger : Ledger) (ops : List Op)
    : ((gateMachine env).run (World.genesis ledger) ops).Sourced
        (attestations env (World.genesis ledger) ops) := by
  refine Machine.run_of_trace ?_ (fun subject record stored => by cases stored)
  intro given op after traced stepped
  apply (effect_of_step stepped).sourced
  rintro activeKey args rfl
  exact List.mem_filterMap.mpr ⟨_, traced, rfl⟩

end StellarOnramp.KycGate
