import StellarOnramp.KycGate.CredentialEvidence

/-! A subject's revocation epoch counts the subject's revocations and nothing else. Every
write path rebuilds the whole record, so each of them is shown to carry the epoch over.
-/

namespace StellarOnramp.KycGate

open Octets Transitions
open StellarOnramp.Soroban

-----------------------------------------------------------------------------------------
-- The epoch across one operation
-----------------------------------------------------------------------------------------

/-- The largest epoch a record can hold. -/
def maxEpoch : Nat := UInt32.size - 1

theorem saturatingAdd_one_toNat (epoch : UInt32)
    : (saturatingAdd epoch 1).toNat = min (epoch.toNat + 1) maxEpoch := by
  have bound := epoch.toNat_lt
  unfold saturatingAdd maxEpoch
  split
  case isTrue fits =>
    rw [UInt32.toNat_add, UInt32.toNat_one]
    simp only [UInt32.toNat_one] at fits
    rw [Nat.mod_eq_of_lt fits]
    simp only [UInt32.size] at fits ⊢
    omega
  case isFalse full =>
    have largest : (4294967295 : UInt32).toNat = 4294967295 := rfl
    simp only [UInt32.toNat_one, UInt32.size, largest] at full ⊢
    omega

/-- A revocation names the next epoch, with or without a previous record. -/
theorem World.nextEpoch_toNat (world : World) (subject : Address)
    : (world.nextEpoch subject).toNat = min ((world.epoch subject).toNat + 1) maxEpoch := by
  unfold World.nextEpoch World.epoch
  cases world.record subject with
  | none => rfl
  | some record => exact saturatingAdd_one_toNat record.revocationEpoch

/-- An attestation keeps the epoch of every subject, its own included. -/
theorem World.attested_epoch (env : Env) (world : World) (args : AttestArgs)
    (subject : Address)
    : (world.attested env args).epoch subject = world.epoch subject := by
  by_cases own : subject = args.subject
  · subst own
    rw [World.epoch, World.attested_record_self]
    rfl
  · rw [World.epoch, World.attested_record_of_ne env world args subject own, World.epoch]

theorem World.revoked_epoch_self (env : Env) (world : World) (subject : Address)
    : (world.revoked env subject).epoch subject = world.nextEpoch subject := by
  rw [World.epoch, World.revoked_record_self]
  rfl

theorem World.epoch_le_maxEpoch (world : World) (subject : Address)
    : (world.epoch subject).toNat ≤ maxEpoch :=
  Nat.le_pred_of_lt (world.epoch subject).toNat_lt

-----------------------------------------------------------------------------------------
-- The epoch across a run
-----------------------------------------------------------------------------------------

/-- Whether an operation is a successful revocation of a subject. -/
def revokes (env : Env) (subject : Address) (world : World) : Op → Bool
  | .revoke auth named =>
      decide (named = subject) && (gateStep env world (.revoke auth named)).isSome
  | _ => false

/-- One operation raises the epoch by one, up to the cap, exactly when it revokes the
subject. Witness: the three effects, and the frame of a refused operation.
-/
theorem next_epoch_toNat (env : Env) (subject : Address) (world : World) (op : Op)
    : (((gateMachine env).next world op).epoch subject).toNat
      = min ((world.epoch subject).toNat + (if revokes env subject world op then 1 else 0))
          maxEpoch := by
  have kept (quiet : revokes env subject world op = false)
      (same : ((gateMachine env).next world op).epoch subject = world.epoch subject)
      : (((gateMachine env).next world op).epoch subject).toNat
        = min ((world.epoch subject).toNat + (if revokes env subject world op then 1 else 0))
            maxEpoch := by
    simp only [quiet, same, Bool.false_eq_true, ↓reduceIte, Nat.add_zero]
    exact (Nat.min_eq_left (world.epoch_le_maxEpoch subject)).symm
  cases outcome : gateStep env world op with
  | none =>
      refine kept ?_ (congrArg (World.epoch · subject) (Machine.next_of_refused outcome))
      cases op with
      | revoke auth named => simp [revokes, outcome]
      | _ => rfl
  | some after =>
      have next : (gateMachine env).next world op = after := Machine.next_of_step outcome
      cases effect_of_step outcome with
      | attested accepts =>
          exact kept rfl (by rw [next, World.attested_epoch])
      | @revoked auth named admin stored authorised =>
          by_cases own : named = subject
          · subst own
            rw [next, World.revoked_epoch_self, World.nextEpoch_toNat]
            simp [revokes, outcome]
          · apply kept (by simp [revokes, own])
            rw [next, World.epoch, World.revoked_record_of_ne env world named subject
              (Ne.symm own), World.epoch]
      | kept unnamed keeps =>
          refine kept ?_ ?_
          · cases op with
            | revoke auth named => cases unnamed
            | _ => rfl
          · simp only [next, World.epoch, World.record, readClaim, keeps.claims]

/-- Along every run from deployment, a subject's epoch is the number of the subject's
successful revocations, up to the cap. A further revocation raises it strictly below the
cap, no attestation changes it, and an attestation is accepted only at it.
-/
theorem revocationEpoch_counts_revocations (env : Env) (ledger : Ledger) (ops : List Op)
    (subject : Address)
    : let world := (gateMachine env).run (World.genesis ledger) ops
      (world.epoch subject).toNat
          = min ((gateMachine env).tally (revokes env subject) (World.genesis ledger) ops)
              maxEpoch
      ∧ (∀ auth after,
          gateStep env world (.revoke auth subject) = some after
          → (world.epoch subject).toNat < maxEpoch
          → (world.epoch subject).toNat < (after.epoch subject).toNat)
      ∧ (∀ activeKey args after,
          gateStep env world (.attestBbs activeKey args) = some after
          → after.epoch subject = world.epoch subject
            ∧ args.revocationEpoch = world.epoch args.subject) := by
  intro world
  refine ⟨?_, ?_, ?_⟩
  · have capped : ((World.genesis ledger).epoch subject).toNat ≤ maxEpoch := Nat.zero_le _
    have counted :=
      Machine.count_run (fun world : World => (world.epoch subject).toNat)
        (next_epoch_toNat env subject) capped ops
    have fresh : ((World.genesis ledger).epoch subject).toNat = 0 := rfl
    rwa [fresh, Nat.zero_add] at counted
  · intro auth after revoked below
    obtain ⟨-, rfl⟩ := gateStep_revoke_iff.mp revoked
    rw [World.revoked_epoch_self, World.nextEpoch_toNat]
    omega
  · intro activeKey args after accepted
    obtain ⟨accepts, rfl⟩ := gateStep_attestBbs_iff.mp accepted
    exact ⟨world.attested_epoch env args subject, accepts.epoch⟩

/-- The holder is attested, revoked and attested again at the new epoch. -/
theorem revocationEpoch_counts_revocations_reonboarded
    : let env :=
        Sample.env [
          Sample.presentation [] Sample.holder 0 Sample.holder 1 1000,
          Sample.presentation [] Sample.holder 0 Sample.holder 2 1000
        ]
      let ops :=
        Sample.deploy
          ++ [
            .attestBbs Sample.activeKey (Sample.args [] Sample.holder 1 1000 2000 0),
            .revoke Sample.signed Sample.holder
          ]
      let world := (gateMachine env).run (World.genesis { sequence := 900, timestamp := 0 }) ops
      (world.epoch Sample.holder).toNat = 1
      ∧ (∃ after,
          gateStep env world (.revoke Sample.signed Sample.holder) = some after
          ∧ (world.epoch Sample.holder).toNat < (after.epoch Sample.holder).toNat)
      ∧ ∃ after,
          gateStep env world
              (.attestBbs Sample.activeKey (Sample.args [] Sample.holder 2 1000 2000 1))
            = some after
          ∧ after.epoch Sample.holder = world.epoch Sample.holder := by
  intro env ops world
  obtain ⟨counted, raises, keeps⟩ :=
    revocationEpoch_counts_revocations env { sequence := 900, timestamp := 0 } ops Sample.holder
  have once : (world.epoch Sample.holder).toNat = 1 := counted.trans (by decide +kernel)
  refine ⟨once, ?_, ?_⟩
  · have revoked
        : (gateStep env world (.revoke Sample.signed Sample.holder)).isSome = true := by
      decide +kernel
    obtain ⟨after, revoked⟩ := Option.isSome_iff_exists.mp revoked
    exact ⟨after, revoked, raises _ after revoked (by rw [once]; decide)⟩
  · have accepted
        : (gateStep env world
              (.attestBbs Sample.activeKey
                (Sample.args [] Sample.holder 2 1000 2000 1))).isSome
          = true := by
      decide +kernel
    obtain ⟨after, accepted⟩ := Option.isSome_iff_exists.mp accepted
    exact ⟨after, accepted, (keeps _ _ after accepted).1⟩

end StellarOnramp.KycGate
