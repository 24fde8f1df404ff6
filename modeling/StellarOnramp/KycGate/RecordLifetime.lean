import StellarOnramp.KycGate.CredentialEvidence

/-! How long a claim record's storage entry lives. An attestation bumps the entry only when
its remaining lifetime has fallen to the threshold, so a record written over a younger entry
may name an expiry that the entry does not reach.
-/

namespace StellarOnramp.KycGate

open Octets Lifetimes Transitions
open StellarOnramp.Soroban

-----------------------------------------------------------------------------------------
-- The entry an attestation leaves
-----------------------------------------------------------------------------------------

/-- The last ledger of the subject's entry once it is written in the current ledger: a live
entry keeps its own, a new or archived one gets the network minimum.
-/
def World.writtenUntil (env : Env) (world : World) (subject : Address) : Nat :=
  match world.gate.claims subject with
  | some entry =>
      if world.ledger.sequence.toNat ≤ entry.liveUntil then
        entry.liveUntil
      else
        world.ledger.sequence.toNat + env.minPersistentTtl
  | none => world.ledger.sequence.toNat + env.minPersistentTtl

/-- The write is bumped, or needs no bump: few enough ledgers remain, or they already reach
the expiry.
-/
def World.BumpReaches (env : Env) (world : World) (args : AttestArgs) : Prop :=
  world.writtenUntil env args.subject - world.ledger.sequence.toNat ≤ claimTtlThreshold.toNat
  ∨ args.expiresAt.toNat ≤ world.writtenUntil env args.subject

theorem put_liveUntil (env : Env) (world : World) (subject : Address) (record : ClaimRecord)
    : (put world.ledger.sequence.toNat env.minPersistentTtl (world.gate.claims subject)
          record).liveUntil
      = world.writtenUntil env subject := by
  unfold put World.writtenUntil
  cases world.gate.claims subject with
  | none => rfl
  | some entry => dsimp only; split <;> rfl

/-- The entry under a subject after an attestation for it. -/
def World.claimEntry (env : Env) (world : World) (args : AttestArgs) : Entry ClaimRecord :=
  extendTtl world.ledger.sequence.toNat claimTtlThreshold.toNat claimTtlExtendTo.toNat
    (put world.ledger.sequence.toNat env.minPersistentTtl (world.gate.claims args.subject)
      (world.attestedRecord args))

theorem World.attested_claims_self (env : Env) (world : World) (args : AttestArgs)
    : (world.attested env args).gate.claims args.subject
      = some (world.claimEntry env args) := by
  simp [World.attested, World.withGate, recordAttestation, writeClaim, bumpInstance,
    World.claimEntry, World.attestedRecord]

theorem World.attested_claims_of_ne (env : Env) (world : World) (args : AttestArgs)
    {subject : Address} (different : subject ≠ args.subject)
    : (world.attested env args).gate.claims subject = world.gate.claims subject := by
  simp [World.attested, World.withGate, recordAttestation, writeClaim, bumpInstance, different]

/-- The entry after an accepted attestation covers the record exactly when the bump reaches
its expiry. Witness: the horizon check keeps the expiry within one extension.
-/
theorem World.Accepts.claimEntry_covers_iff {env : Env} {world : World}
    {activeKey : RegistryView} {args : AttestArgs}
    (accepts : world.Accepts env activeKey args)
    : args.expiresAt.toNat ≤ (world.claimEntry env args).liveUntil
      ↔ world.BumpReaches env args := by
  have within : args.expiresAt.toNat
      ≤ world.ledger.sequence.toNat + claimTtlExtendTo.toNat := accepts.horizon
  rw [World.claimEntry, le_extendTtl_iff within, put_liveUntil]
  rfl

-----------------------------------------------------------------------------------------
-- Records and their entries along a run
-----------------------------------------------------------------------------------------

/-- Every record that grants a claim expires within the life of its entry. -/
def World.Covered (world : World) : Prop :=
  ∀ subject entry,
    world.gate.claims subject = some entry
    → entry.value.claims ≠ 0
    → entry.value.expiresAt.toNat ≤ entry.liveUntil

/-- An accepted operation keeps every record covered if it is no attestation, or one whose
bump reaches. A tombstone grants nothing.
-/
theorem Effect.covered {env : Env} {before after : World} {op : Op}
    (effect : Effect env before op after)
    (reaches : ∀ activeKey args, op = .attestBbs activeKey args → before.BumpReaches env args)
    (covered : before.Covered)
    : after.Covered := by
  intro subject entry stored granted
  cases effect with
  | @attested activeKey args accepts =>
      by_cases own : subject = args.subject
      · subst own
        rw [before.attested_claims_self env args, Option.some.injEq] at stored
        subst stored
        have expiry : (before.claimEntry env args).value = before.attestedRecord args := by
          simp [World.claimEntry]
        rw [expiry]
        exact accepts.claimEntry_covers_iff.mpr (reaches activeKey args rfl)
      · rw [before.attested_claims_of_ne env args own] at stored
        exact covered subject entry stored granted
  | @revoked auth named admin held authorised =>
      by_cases own : subject = named
      · subst own
        have tombstone := before.revoked_record_self env subject
        rw [World.record, readClaim, stored, Option.map_some, Option.some.injEq] at tombstone
        exact absurd (by rw [tombstone]; rfl) granted
      · have untouched
            : (before.revoked env named).gate.claims subject = before.gate.claims subject := by
          simp [World.revoked, World.withGate, writeTombstone, writeClaim, bumpInstance, own]
        exact covered subject entry (untouched ▸ stored) granted
  | kept unnamed keeps => exact covered subject entry (keeps.claims ▸ stored) granted

/-- A subject that a covered world's gate answers for has a live entry. -/
theorem World.Covered.has_of_check {world : World} (covered : world.Covered)
    {subject : Address} {mask : UInt32}
    (answered : check world.ledger world.gate subject mask = true)
    : has world.ledger.sequence.toNat (world.gate.claims subject) = true := by
  obtain ⟨nonempty, record, stored, live, superset⟩ := check_eq_true_iff.mp answered
  obtain ⟨entry, found, rfl⟩ := Option.map_eq_some_iff.mp stored
  have granted := claims_ne_zero_of_superset nonempty superset
  exact has_iff.mpr ⟨entry, found, Nat.le_trans live (covered subject entry found granted)⟩

/-- In every run, an accepted attestation leaves an entry that lives to the record's expiry
exactly when its bump reaches. Where all bumps reach, no record is archived while the gate
still answers from it.
-/
theorem record_covered_iff_bumpReaches (env : Env) (ledger : Ledger) (ops : List Op)
    : let accepted := attestations env (World.genesis ledger) ops
      (∀ attestation ∈ accepted,
        (∃ entry,
            (attestation.world.attested env attestation.args).gate.claims
                attestation.args.subject
              = some entry
            ∧ attestation.args.expiresAt.toNat ≤ entry.liveUntil)
        ↔ attestation.world.BumpReaches env attestation.args)
      ∧ ((∀ attestation ∈ accepted, attestation.world.BumpReaches env attestation.args)
        → let world := (gateMachine env).run (World.genesis ledger) ops
          ∀ subject mask,
            check world.ledger world.gate subject mask = true
            → has world.ledger.sequence.toNat (world.gate.claims subject) = true) := by
  intro accepted
  refine ⟨?_, ?_⟩
  · intro attestation member
    have covers := (mem_attestations member).1.claimEntry_covers_iff
    rw [← covers, World.attested_claims_self]
    exact ⟨fun ⟨entry, same, reached⟩ => Option.some.inj same ▸ reached,
      fun reached => ⟨_, rfl, reached⟩⟩
  · intro reaches world subject mask answered
    have covered : world.Covered := by
      refine Machine.run_of_trace ?_ (fun _ _ stored => by cases stored)
      intro given op after traced stepped
      apply (effect_of_step stepped).covered
      rintro activeKey args rfl
      exact reaches { world := given, activeKey, args }
        (List.mem_filterMap.mpr ⟨_, traced, rfl⟩)
    exact covered.has_of_check answered

-----------------------------------------------------------------------------------------
-- Two attestations in consecutive ledgers
-----------------------------------------------------------------------------------------

namespace Sample

/-- Presentations for an attestation at ledger 900 and one a ledger later. -/
def refreshEnv : Env :=
  env [
    presentation [] holder 0 holder 1 1000,
    presentation [] holder 0 holder 2 1000
  ]

/-- The first attestation takes the whole horizon; the second extends it by a ledger. -/
def refreshFirst : AttestArgs := args [] holder 1 1000 2074500 0
def refreshAgain : AttestArgs := args [] holder 2 1000 2074501 0

def refreshLedger : Ledger := { sequence := 900, timestamp := 0 }

def refreshDeploy : List Op := deploy ++ [.attestBbs activeKey refreshFirst]

def refreshOps : List Op := refreshDeploy ++ [.advance { sequence := 901, timestamp := 0 }]

end Sample

/-- A re-attestation one ledger later is not bumped, and its record outlives its entry. -/
theorem reattested_record_outlives_entry
    : ¬ ∀ (env : Env) (ledger : Ledger) (ops : List Op),
        ∀ attestation ∈ attestations env (World.genesis ledger) ops,
          ∃ entry,
            (attestation.world.attested env attestation.args).gate.claims
                attestation.args.subject
              = some entry
            ∧ attestation.args.expiresAt.toNat ≤ entry.liveUntil := by
  intro covers
  have accepts
      : ((gateMachine Sample.refreshEnv).run (World.genesis Sample.refreshLedger)
            Sample.refreshOps).Accepts Sample.refreshEnv Sample.activeKey
          Sample.refreshAgain := by
    decide +kernel
  obtain ⟨entry, stored, covered⟩ := covers _ _ _ _ (mem_attestations_of_accepts accepts [])
  rw [World.attested_claims_self, Option.some.injEq] at stored
  have lapses
      : (World.claimEntry Sample.refreshEnv
            ((gateMachine Sample.refreshEnv).run (World.genesis Sample.refreshLedger)
              Sample.refreshOps)
            Sample.refreshAgain).liveUntil
        < Sample.refreshAgain.expiresAt.toNat := by
    decide +kernel
  subst stored
  dsimp only at covered
  exact Nat.not_le_of_lt lapses covered

/-- The first of the two attestations is bumped, and the gate answers from a live entry. -/
theorem record_covered_iff_bumpReaches_first
    : let world :=
        (gateMachine Sample.refreshEnv).run (World.genesis Sample.refreshLedger)
          Sample.refreshDeploy
      check world.ledger world.gate Sample.holder claimOver18 = true
      ∧ has world.ledger.sequence.toNat (world.gate.claims Sample.holder) = true := by
  dsimp only
  have only
      : (attestations Sample.refreshEnv (World.genesis Sample.refreshLedger)
            Sample.refreshDeploy).all
          (fun attestation =>
            decide
              (attestation.world.writtenUntil Sample.refreshEnv attestation.args.subject
                  - attestation.world.ledger.sequence.toNat
                ≤ claimTtlThreshold.toNat))
        = true := by
    decide +kernel
  have spec := (record_covered_iff_bumpReaches Sample.refreshEnv Sample.refreshLedger
    Sample.refreshDeploy).2 (fun attestation member =>
      Or.inl (of_decide_eq_true (List.all_eq_true.mp only attestation member)))
  have spec := spec Sample.holder claimOver18
  exact ⟨by decide +kernel, spec (by decide +kernel)⟩

end StellarOnramp.KycGate
