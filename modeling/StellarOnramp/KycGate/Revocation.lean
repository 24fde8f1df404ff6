import StellarOnramp.KycGate.Replay

/-! What a revocation does to the proofs derived before it. The presentation header names no
epoch, so a revocation retires a proof only through its nonce or its deadline; the epoch is
whatever the next caller passes.
-/

namespace StellarOnramp.KycGate

open Octets Lifetimes Transitions
open StellarOnramp.Soroban

-----------------------------------------------------------------------------------------
-- Proof tuples
-----------------------------------------------------------------------------------------

/-- The arguments a holder fixes by deriving a proof. -/
structure ProofTuple where
  proof : BbsProof
  disclosedIndexes : List UInt32
  disclosedMessages : List Bytes
  header : Bytes
  nonce : BytesN 32
  ledgerExpiry : UInt32

def AttestArgs.tuple (args : AttestArgs) : ProofTuple :=
  {
    proof := args.proof
    disclosedIndexes := args.disclosedIndexes
    disclosedMessages := args.disclosedMessages
    header := args.header
    nonce := args.nonce
    ledgerExpiry := args.ledgerExpiry
  }

/-- Some choice of the other arguments is accepted with the tuple for the subject. -/
def World.AcceptsTuple (env : Env) (world : World) (subject : Address) (tuple : ProofTuple)
    : Prop :=
  ∃ activeKey args,
    args.subject = subject ∧ args.tuple = tuple ∧ world.Accepts env activeKey args

/-- A revocation in this world retires the tuple: its nonce is spent, its deadline has passed,
or no later ledger exists for a fresher record.
-/
def World.Retires (world : World) (tuple : ProofTuple) : Prop :=
  has world.ledger.sequence.toNat (world.gate.nonces tuple.nonce) = true
  ∨ tuple.ledgerExpiry.toNat < world.ledger.sequence.toNat
  ∨ world.ledger.sequence.toNat = UInt32.size - 1

/-- An acceptable tuple is unspent and within its window. -/
theorem World.AcceptsTuple.window {env : Env} {world : World} {subject : Address}
    {tuple : ProofTuple} (acceptable : world.AcceptsTuple env subject tuple)
    : has world.ledger.sequence.toNat (world.gate.nonces tuple.nonce) = false
      ∧ world.ledger.sequence.toNat ≤ tuple.ledgerExpiry.toNat
      ∧ tuple.ledgerExpiry.toNat ≤ world.ledger.sequence.toNat + nonceMinTtl.toNat := by
  obtain ⟨activeKey, args, rfl, rfl, accepts⟩ := acceptable
  exact ⟨accepts.unspent, accepts.fresh, accepts.window⟩

-----------------------------------------------------------------------------------------
-- A revocation that retires the tuple
-----------------------------------------------------------------------------------------

/-- From ledger `start` on, a nonce entry had lapsed before or lives at least the minimum. -/
def NonceSettled (nonce : BytesN 32) (start : Nat) (world : World) : Prop :=
  start ≤ world.ledger.sequence.toNat
  ∧ ∀ entry,
      world.gate.nonces nonce = some entry
      → entry.liveUntil < start ∨ start + nonceMinTtl.toNat ≤ entry.liveUntil

/-- Only accepted attestations rewrite a nonce entry, and they give it the minimum life. -/
theorem nonceSettled_preserved (env : Env) (nonce : BytesN 32) (start : Nat)
    : (gateMachine env).Preserves (NonceSettled nonce start) := by
  apply preserves_of_effect
  rintro before op after effect ⟨reached, settled⟩
  refine ⟨Nat.le_trans reached effect.time.1, ?_⟩
  intro entry stored
  cases effect with
  | @attested activeKey args accepts =>
      by_cases own : nonce = args.nonce
      · subst own
        rw [World.attested_nonces_self, Option.some.injEq] at stored
        subst stored
        have minimum := accepts.nonceEntry_covers.2.2
        exact Or.inr (by omega)
      · rw [before.attested_nonces_of_ne env args own] at stored
        exact settled entry stored
  | revoked admin authorised => exact settled entry stored
  | kept unnamed keeps => exact settled entry (keeps.nonces ▸ stored)

/-- A stored nonce entry never loses life along a run. -/
theorem run_nonce_liveUntil_le (env : Env) {world : World} {nonce : BytesN 32}
    {entry : Entry Unit} (stored : world.gate.nonces nonce = some entry) (ops : List Op)
    : ∃ later,
        ((gateMachine env).run world ops).gate.nonces nonce = some later
        ∧ entry.liveUntil ≤ later.liveUntil := by
  have preserves
      : (gateMachine env).Preserves
          (fun reached =>
            ∃ later,
              reached.gate.nonces nonce = some later ∧ entry.liveUntil ≤ later.liveUntil) := by
    apply preserves_of_effect
    rintro before op after effect ⟨later, kept, longer⟩
    obtain ⟨last, found, more⟩ := effect.nonce_liveUntil_le kept
    exact ⟨last, found, Nat.le_trans longer more⟩
  exact preserves.run ⟨entry, stored, Nat.le_refl _⟩ ops

/-- A tombstone written in the last possible ledger can never be replaced by a record. -/
def SealedAt (subject : Address) (world : World) : Prop :=
  world.ledger.sequence.toNat = UInt32.size - 1
  ∧ ∃ record,
      world.record subject = some record
      ∧ record.claims = 0
      ∧ record.expiresAt.toNat = UInt32.size - 1

theorem SealedAt.refuses {env : Env} {world : World} {subject : Address}
    (closed : SealedAt subject world) {activeKey : RegistryView} {args : AttestArgs}
    (own : args.subject = subject)
    : ¬ world.Accepts env activeKey args := by
  intro accepts
  obtain ⟨-, record, stored, tombstone, last⟩ := closed
  have fresher := accepts.fresher record (own ▸ stored) (Or.inr tombstone)
  have bound := args.expiresAt.toNat_lt
  simp only [UInt32.size] at last
  omega

theorem sealedAt_preserved (env : Env) (subject : Address)
    : (gateMachine env).Preserves (SealedAt subject) := by
  apply preserves_of_effect
  intro before op after effect closed
  have bound := after.ledger.sequence.toNat_lt
  have later := effect.time.1
  have last := closed.1
  simp only [UInt32.size] at last
  refine ⟨by simp only [UInt32.size]; omega, ?_⟩
  cases effect with
  | @attested activeKey args accepts =>
      have other : subject ≠ args.subject := fun own => closed.refuses own.symm accepts
      rw [before.attested_record_of_ne env args subject other]
      exact closed.2
  | @revoked auth named admin stored authorised =>
      by_cases own : subject = named
      · subst own
        exact ⟨_, before.revoked_record_self env subject, rfl, closed.1⟩
      · rw [before.revoked_record_of_ne env named subject own]
        exact closed.2
  | kept unnamed keeps =>
      obtain ⟨record, stored, tombstone⟩ := closed.2
      exact ⟨record, by rwa [World.record, readClaim, keeps.claims], tombstone⟩

/-- A tuple that was acceptable before a retiring revocation is never accepted after it.
Witness: a live nonce entry was written while the tuple was in circulation, so it outlives
the deadline; a passed deadline stays passed; and a tombstone of the last ledger is sealed.
-/
theorem never_accepted_of_retires {env : Env} {start : World} {between : List Op}
    {subject : Address} {tuple : ProofTuple} (acceptable : start.AcceptsTuple env subject tuple)
    (retires : ((gateMachine env).run start between).Retires tuple) (ops : List Op)
    : ¬ ((gateMachine env).run (((gateMachine env).run start between).revoked env subject)
          ops).AcceptsTuple env subject tuple := by
  intro accepted
  obtain ⟨unspent, -, window⟩ := acceptable.window
  obtain ⟨again, fresh, -⟩ := accepted.window
  have later := run_sequence_le env
    (((gateMachine env).run start between).revoked env subject) ops
  rw [World.revoked_ledger] at later
  rcases retires with spent | stale | last
  · have settled : NonceSettled tuple.nonce start.ledger.sequence.toNat start :=
      ⟨Nat.le_refl _, fun entry stored => Or.inl (has_eq_false_iff.mp unspent entry stored)⟩
    obtain ⟨reached, settled⟩ :=
      (nonceSettled_preserved env tuple.nonce _).run settled between
    obtain ⟨entry, stored, live⟩ := has_iff.mp spent
    have kept
        : (((gateMachine env).run start between).revoked env subject).gate.nonces tuple.nonce
          = some entry := by
      rwa [World.revoked_nonces]
    obtain ⟨last, found, longer⟩ := run_nonce_liveUntil_le env kept ops
    have lapsed := has_eq_false_iff.mp again last found
    have lives := settled entry stored
    omega
  · omega
  · have closed : SealedAt subject (((gateMachine env).run start between).revoked env subject) :=
      ⟨last, _, World.revoked_record_self env _ subject, rfl, last⟩
    obtain ⟨activeKey, args, own, -, accepts⟩ := accepted
    exact ((sealedAt_preserved env subject).run closed ops).refuses own accepts

-----------------------------------------------------------------------------------------
-- A revocation that does not
-----------------------------------------------------------------------------------------

/-- The call that brings a tuple back: one ledger past the tombstone, at its epoch. -/
def AttestArgs.resubmitted (args : AttestArgs) (world : World) : AttestArgs :=
  {
    args with
    expiresAt := world.ledger.sequence + 1
    revocationEpoch := world.nextEpoch args.subject
  }

/-- A tuple that a revocation does not retire is accepted right after it. Witness: the same
call at the tombstone's epoch with a record that expires one ledger later; nothing the proof
is bound to has changed.
-/
theorem accepted_of_not_retires {env : Env} {start : World} {between : List Op}
    {subject : Address} {tuple : ProofTuple} (paired : start.Paired)
    (acceptable : start.AcceptsTuple env subject tuple)
    (missed : ¬ ((gateMachine env).run start between).Retires tuple)
    : (((gateMachine env).run start between).revoked env subject).AcceptsTuple env subject
        tuple := by
  obtain ⟨activeKey, args, rfl, rfl, accepts⟩ := acceptable
  have later := run_sequence_le env start between
  generalize reached : (gateMachine env).run start between = world at *
  simp only [World.Retires, not_or, Bool.not_eq_true, Nat.not_lt, UInt32.size] at missed
  obtain ⟨unspent, fresh, early⟩ := missed
  have bound := world.ledger.sequence.toNat_lt
  have next : (world.ledger.sequence + 1).toNat = world.ledger.sequence.toNat + 1 := by
    rw [UInt32.toNat_add, UInt32.toNat_one, Nat.mod_eq_of_lt (by omega)]
  have horizon : maxExpiryHorizon.toNat = 2073600 := rfl
  obtain ⟨key, ⟨registry, stored, active⟩, flags, verified⟩ := accepts.verified
  have registered : world.gate.registry = some registry :=
    reached ▸ run_registry paired stored between
  have tombstone := world.revoked_record_self env args.subject
  refine ⟨activeKey, args.resubmitted world, rfl, rfl, {
    claimed := accepts.claimed
    unexpired := ?_
    horizon := ?_
    fresh := fresh
    window := Nat.le_trans accepts.window (Nat.add_le_add_right later _)
    unspent := unspent
    parallel := accepts.parallel
    issuerDisclosed := accepts.issuerDisclosed
    revIndexDisclosed := accepts.revIndexDisclosed
    derived := accepts.derived
    verified := ⟨key, ⟨registry, registered, active⟩, flags, verified⟩
    epoch := ?_
    fresher := ?_
  }⟩
  · simp only [AttestArgs.resubmitted, World.revoked_ledger, next]
    omega
  · simp only [AttestArgs.resubmitted, World.revoked_ledger, next]
    omega
  · exact (congrArg currentEpoch tombstone).symm
  · intro record found replaced
    obtain rfl : world.tombstone args.subject = record :=
      Option.some.inj (tombstone.symm.trans found)
    simp only [AttestArgs.resubmitted, next, World.tombstone]
    omega

/-- In every run, a successful revocation keeps a tuple that was acceptable before it from
every later acceptance exactly when it retires the tuple.
-/
theorem revocation_kills_tuple_iff (env : Env) (ledger : Ledger) (before between : List Op)
    (auth : Authorization) (subject : Address) (tuple : ProofTuple) (after : World)
    (acceptable
      : ((gateMachine env).run (World.genesis ledger) before).AcceptsTuple env subject tuple)
    (revoked
      : gateStep env ((gateMachine env).run (World.genesis ledger) (before ++ between))
          (.revoke auth subject)
        = some after)
    : (∀ ops, ¬ ((gateMachine env).run after ops).AcceptsTuple env subject tuple)
      ↔ ((gateMachine env).run (World.genesis ledger) (before ++ between)).Retires tuple := by
  obtain ⟨-, rfl⟩ := gateStep_revoke_iff.mp revoked
  have paired := run_genesis_paired env ledger before
  rw [Machine.run_append]
  constructor
  · intro killed
    by_contra missed
    exact killed [] (accepted_of_not_retires paired acceptable missed)
  · exact fun retires ops => never_accepted_of_retires acceptable retires ops

-----------------------------------------------------------------------------------------
-- A proof held back across a revocation
-----------------------------------------------------------------------------------------

namespace Sample

def heldEnv : Env := env [presentation [] holder 0 holder 1 1000]

def heldLedger : Ledger := { sequence := 900, timestamp := 0 }

/-- The holder's proof at epoch `epoch`; the tuple is the same at every epoch. -/
def heldArgs (epoch : UInt32) : AttestArgs := args [] holder 1 1000 2000 epoch

/-- Before the revocation the proof is acceptable at the epoch of a fresh subject. -/
theorem held_acceptable
    : ((gateMachine heldEnv).run (World.genesis heldLedger) deploy).AcceptsTuple heldEnv holder
        (heldArgs 0).tuple :=
  ⟨activeKey, heldArgs 0, rfl, rfl, by decide +kernel⟩

end Sample

/-- An unspent proof derived before the revocation is accepted after it at the new epoch. -/
theorem held_proof_survives_revocation
    : ¬ ∀ (env : Env) (ledger : Ledger) (before between : List Op) (auth : Authorization)
          (subject : Address) (tuple : ProofTuple) (after : World),
        ((gateMachine env).run (World.genesis ledger) before).AcceptsTuple env subject tuple
        → gateStep env ((gateMachine env).run (World.genesis ledger) (before ++ between))
              (.revoke auth subject)
            = some after
        → ∀ ops, ¬ ((gateMachine env).run after ops).AcceptsTuple env subject tuple := by
  intro killed
  have revocable
      : (gateStep Sample.heldEnv
            ((gateMachine Sample.heldEnv).run (World.genesis Sample.heldLedger)
              (Sample.deploy ++ []))
            (.revoke Sample.signed Sample.holder)).isSome
        = true := by
    decide +kernel
  obtain ⟨after, revoked⟩ := Option.isSome_iff_exists.mp revocable
  apply killed _ _ _ _ _ _ _ after Sample.held_acceptable revoked []
  obtain ⟨-, rfl⟩ := gateStep_revoke_iff.mp revoked
  exact ⟨Sample.activeKey, Sample.heldArgs 1, rfl, rfl, by decide +kernel⟩

/-- Had the holder submitted the proof first, the revocation would have retired it. -/
theorem revocation_kills_tuple_iff_submitted
    : ∃ after,
        gateStep Sample.heldEnv
            ((gateMachine Sample.heldEnv).run (World.genesis Sample.heldLedger)
              (Sample.deploy ++ [.attestBbs Sample.activeKey (Sample.heldArgs 0)]))
            (.revoke Sample.signed Sample.holder)
          = some after
        ∧ ∀ ops,
          ¬ ((gateMachine Sample.heldEnv).run after ops).AcceptsTuple Sample.heldEnv
              Sample.holder (Sample.heldArgs 0).tuple := by
  have revocable
      : (gateStep Sample.heldEnv
            ((gateMachine Sample.heldEnv).run (World.genesis Sample.heldLedger)
              (Sample.deploy ++ [.attestBbs Sample.activeKey (Sample.heldArgs 0)]))
            (.revoke Sample.signed Sample.holder)).isSome
        = true := by
    decide +kernel
  obtain ⟨after, revoked⟩ := Option.isSome_iff_exists.mp revocable
  refine ⟨after, revoked, ?_⟩
  refine (revocation_kills_tuple_iff Sample.heldEnv Sample.heldLedger Sample.deploy
    [.attestBbs Sample.activeKey (Sample.heldArgs 0)] Sample.signed Sample.holder
    (Sample.heldArgs 0).tuple after Sample.held_acceptable revoked).mpr (Or.inl ?_)
  decide +kernel

end StellarOnramp.KycGate
