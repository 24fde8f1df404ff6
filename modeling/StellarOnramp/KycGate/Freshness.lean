import Mathlib.Data.List.Chain
import StellarOnramp.KycGate.Epochs
import StellarOnramp.KycGate.RecordLifetime
import StellarOnramp.Library.StoredCalls

/-! The order in which attestations of a subject may follow each other. The entry point is
also written with its storage accesses in the order of the source, each write in force at once,
so that an error after a write would leave the write behind.
-/

namespace StellarOnramp.KycGate

open Octets Lifetimes StoredCalls Transitions
open StellarOnramp.Soroban

-----------------------------------------------------------------------------------------
-- The entry point, access by access
-----------------------------------------------------------------------------------------

abbrev GateCall := Call (CallError Error) State

def setNonce (env : Env) (now : Nat) (nonce : BytesN 32) (state : State) : State :=
  let entry := put now env.minTemporaryTtl (state.nonces nonce) ()
  { state with nonces := Function.update state.nonces nonce (some entry) }

def extendNonce (now ttl : Nat) (nonce : BytesN 32) (state : State) : State :=
  let entry := (state.nonces nonce).map (extendTtl now ttl ttl)
  { state with nonces := Function.update state.nonces nonce entry }

def setClaims (env : Env) (now : Nat) (subject : Address) (record : ClaimRecord)
    (state : State)
    : State :=
  let entry := put now env.minPersistentTtl (state.claims subject) record
  { state with claims := Function.update state.claims subject (some entry) }

def extendClaims (now : Nat) (subject : Address) (state : State) : State :=
  let entry :=
    (state.claims subject).map (extendTtl now claimTtlThreshold.toNat claimTtlExtendTo.toNat)
  { state with claims := Function.update state.claims subject entry }

def publish (event : Event) (state : State) : State :=
  { state with events := state.events ++ [event] }

/-- The writes of an accepted attestation. -/
def recordAttestationCall (env : Env) (ledger : Ledger) (args : AttestArgs)
    (currentEpoch : UInt32)
    : GateCall UInt32 := do
  let seq := ledger.sequence
  let ttl := nonceTtl seq args.expiresAt
  writes (setNonce env seq.toNat args.nonce)
  writes (extendNonce seq.toNat ttl args.nonce)
  let record : ClaimRecord :=
    {
      claims := args.claims
      expiresAt := args.expiresAt
      issuerId := args.issuerId
      issuedAt := seq
      revocationEpoch := currentEpoch
      revocationIndex := args.revocationIndex
    }
  writes (setClaims env seq.toNat args.subject record)
  writes (extendClaims seq.toNat args.subject)
  writes (bumpInstance seq.toNat)
  writes (publish (.attested args.subject args.claims args.expiresAt record.issuerId))
  return args.claims

/-- A live record (or a tombstone) is only ever replaced by a fresher one. -/
def failIfStale (seq expiresAt : UInt32) : Option ClaimRecord → GateCall Unit
  | none => pure ()
  | some prev =>
      let prevRevoked := prev.claims == 0
      let prevLive := decide (seq ≤ prev.expiresAt) || prevRevoked
      failIf ((prevLive && decide (expiresAt ≤ prev.expiresAt)) = true)
        (.error (if prevRevoked then .subjectRevoked else .staleAttestation))

def attestBbsCall (env : Env) (ledger : Ledger) (activeKey : RegistryView) (args : AttestArgs)
    : GateCall UInt32 := do
  failIf (args.claims = 0) (.error .emptyClaims)
  let seq := ledger.sequence
  failIf (args.expiresAt < seq) (.error .expired)
  failIf (maxExpiryHorizon < args.expiresAt - seq) (.error .expiryTooFar)
  failIf (args.ledgerExpiry < seq) (.error .expired)
  failIf (proofMaxWindow < args.ledgerExpiry - seq) (.error .expiryTooFar)
  let spent ← reads (fun state => has seq.toNat (state.nonces args.nonce))
  failIf (spent = true) (.error .nonceAlreadyUsed)
  failIf (args.disclosedIndexes.length ≠ args.disclosedMessages.length) (.error .invalidProof)
  let stored ← reads State.registry
  let registry ← getOrFail (.error .notInitialized) stored
  let pubkeyG2 ← getOrFail (.error .untrustedIssuer) (activeKey registry args.issuerId)
  failIf (pubkeyG2.val.headD 0 &&& 0xE0 ≠ 0) (.error .invalidProof)
  failIf
    ((!disclosedIs args.disclosedIndexes args.disclosedMessages 1 (expectedIssuer args.issuerId)
        || !disclosedIs args.disclosedIndexes args.disclosedMessages 2
          (expectedRevIndex args.revocationIndex))
      = true)
    (.error .invalidProof)
  failIf (args.claims &&& ~~~ derivedClaims args.disclosedIndexes args.disclosedMessages ≠ 0)
    (.error .invalidProof)
  let verified ←
    getOrFail .trap
      (env.verifyBbsProof pubkeyG2 args.header
        (presentationHeader env args.subject args.nonce args.ledgerExpiry)
        args.disclosedIndexes args.disclosedMessages args.proof).toOption
  failIf (verified = false) (.error .invalidProof)
  let prev ← reads (fun state => readClaim state args.subject)
  failIf (args.revocationEpoch ≠ currentEpoch prev) (.error .revocationEpochMismatch)
  failIfStale seq args.expiresAt prev
  recordAttestationCall env ledger args (currentEpoch prev)

/-- The writes one after another come to the state that is recorded at once. -/
theorem run_recordAttestationCall (env : Env) (ledger : Ledger) (args : AttestArgs)
    (currentEpoch : UInt32) (state : State)
    : run (recordAttestationCall env ledger args currentEpoch) state
      = (.ok args.claims, recordAttestation env ledger state args currentEpoch) := by
  simp only [recordAttestationCall, run_writes_bind, run_pure, setNonce, extendNonce, setClaims,
    extendClaims, Function.update_self, Function.update_idem, Option.map_some]
  rfl

theorem run_failIfStale_bind (seq expiresAt : UInt32) (prev : Option ClaimRecord)
    (next : Unit → GateCall UInt32) (state : State)
    : run (failIfStale seq expiresAt prev >>= next) state
      = match prev with
        | none => run (next ()) state
        | some p =>
            if ((decide (seq ≤ p.expiresAt) || p.claims == 0)
                && decide (expiresAt ≤ p.expiresAt))
              = true then
              (.error
                  (.error
                    (if (p.claims == 0) = true then .subjectRevoked else .staleAttestation)),
                state)
            else
              run (next ()) state := by
  cases prev with
  | none => rfl
  | some p => exact run_failIf_bind _ _ next state

/-- The entry point leaves what it returns, and what it was given where it fails: every write
stands after the last check. Witness: check by check, in source order.
-/
theorem run_attestBbsCall (env : Env) (ledger : Ledger) (activeKey : RegistryView)
    (args : AttestArgs) (state : State)
    : run (attestBbsCall env ledger activeKey args) state
      = settle state (attestBbs env ledger activeKey state args) := by
  simp only [attestBbsCall, attestBbs, run_failIf_bind, run_reads_bind, run_getOrFail_bind,
    run_failIfStale_bind, run_recordAttestationCall, settle_ite, settle_error]
  -- The windows, the nonce and the lengths.
  iterate 7 refine ite_congr rfl (fun _ => rfl) fun _ => ?_
  cases state.registry with
  | none => rfl
  | some registry =>
  dsimp only
  cases activeKey registry args.issuerId with
  | none => rfl
  | some pubkeyG2 =>
  simp only [settle_ite, settle_error]
  -- The key, the disclosed messages and the claims.
  iterate 3 refine ite_congr rfl (fun _ => rfl) fun _ => ?_
  rcases env.verifyBbsProof pubkeyG2 args.header
      (presentationHeader env args.subject args.nonce args.ledgerExpiry)
      args.disclosedIndexes args.disclosedMessages args.proof with ⟨⟨⟩⟩ | ⟨_ | _⟩
  · rfl
  · rfl
  · simp only [Except.toOption, Bool.true_eq_false, ↓reduceIte, settle_ite, settle_error]
    refine ite_congr rfl (fun _ => rfl) fun _ => ?_
    cases readClaim state args.subject with
    | none => rfl
    | some prev =>
        simp only [settle_ite, settle_error]
        rfl

-----------------------------------------------------------------------------------------
-- The order of the attestations of a subject
-----------------------------------------------------------------------------------------

/-- What an accepted attestation may ask for: both windows, and a record that is fresher than
a tombstone or a record that is still live.
-/
structure Fresh (world : World) (args : AttestArgs) : Prop where
  unexpired : world.ledger.sequence.toNat ≤ args.expiresAt.toNat
  horizon : args.expiresAt.toNat ≤ world.ledger.sequence.toNat + maxExpiryHorizon.toNat
  fresh : world.ledger.sequence.toNat ≤ args.ledgerExpiry.toNat
  window : args.ledgerExpiry.toNat ≤ world.ledger.sequence.toNat + proofMaxWindow.toNat
  fresher
    : ∀ record,
        world.record args.subject = some record
        → record.claims = 0 ∨ world.ledger.sequence.toNat ≤ record.expiresAt.toNat
        → record.expiresAt.toNat < args.expiresAt.toNat

theorem World.Accepts.isFresh {env : Env} {world : World} {activeKey : RegistryView}
    {args : AttestArgs} (accepts : world.Accepts env activeKey args)
    : Fresh world args where
  unexpired := accepts.unexpired
  horizon := accepts.horizon
  fresh := accepts.fresh
  window := accepts.window
  fresher record stored live := accepts.fresher record stored live.symm

/-- The accepted attestations of a subject in a run, in order. -/
def attestationsOf (env : Env) (subject : Address) (world : World) (ops : List Op)
    : List Attestation :=
  (attestations env world ops).filter (fun attestation => attestation.args.subject = subject)

/-- The later attestation comes while the record of the earlier one is live, or else it is
fresher.
-/
def Follows (earlier later : Attestation) : Prop :=
  later.world.ledger.sequence.toNat ≤ earlier.args.expiresAt.toNat
  → earlier.args.expiresAt.toNat < later.args.expiresAt.toNat

section

variable {env : Env} {world : World} {subject : Address} {rest : List Op}

/-- An accepted attestation of the subject is listed first. -/
theorem attestationsOf_attestBbs {activeKey : RegistryView} {args : AttestArgs}
    (accepts : world.Accepts env activeKey args)
    : attestationsOf env args.subject world (.attestBbs activeKey args :: rest)
      = { world, activeKey, args }
        :: attestationsOf env args.subject (world.attested env args) rest := by
  have accepted := gateStep_attestBbs_iff.mpr ⟨accepts, rfl⟩
  have next : (gateMachine env).next world (.attestBbs activeKey args) = world.attested env args :=
    Machine.next_of_step accepted
  have traced : ((gateMachine env).step world (.attestBbs activeKey args)).isSome = true :=
    Option.isSome_iff_exists.mpr ⟨_, accepted⟩
  simp only [attestationsOf, attestations, Machine.trace, traced, ↓reduceIte, next,
    List.filterMap_cons, Attestation.ofInput, List.filter_cons, decide_true]

/-- Any other operation lists nothing. -/
theorem attestationsOf_other {op : Op}
    (other
      : ∀ activeKey args,
          op = .attestBbs activeKey args → args.subject = subject → gateStep env world op = none)
    : attestationsOf env subject world (op :: rest)
      = attestationsOf env subject ((gateMachine env).next world op) rest := by
  simp only [attestationsOf, attestations, Machine.trace]
  split
  case isFalse => rfl
  case isTrue accepted =>
    rw [List.filterMap_cons]
    cases named : Attestation.ofInput (world, op) with
    | none => rfl
    | some attestation =>
        obtain ⟨rfl, same⟩ := Prod.mk.inj (Attestation.ofInput_eq_some_iff.mp named)
        rw [List.filter_cons_of_neg]
        intro own
        have refused := other _ _ same (of_decide_eq_true own)
        have accepted : (gateStep env attestation.world op).isSome = true := accepted
        rw [refused] at accepted
        cases accepted

/-- Without a revocation, the attestations of a subject follow each other, and the first of
them follows the one whose record is stored. By induction on the operations; the record of the
last attestation stays stored until the next one.
-/
theorem attestationsOf_chain {ops : List Op}
    (quiet
      : (gateMachine env).Quiet (fun world op => revokes env subject world op = true) world ops)
    : (attestationsOf env subject world ops).IsChain Follows
      ∧ ∀ earlier,
          world.record subject = some (earlier.world.attestedRecord earlier.args)
          → ∀ later ∈ (attestationsOf env subject world ops).head?, Follows earlier later := by
  induction ops generalizing world with
  | nil => exact ⟨.nil, fun _ _ _ none => by cases none⟩
  | cons op rest ih =>
      obtain ⟨calm, quiet⟩ := quiet
      have passes
          (other
            : ∀ activeKey args,
                op = .attestBbs activeKey args
                → args.subject = subject
                → gateStep env world op = none)
          (same : ((gateMachine env).next world op).record subject = world.record subject)
          : (attestationsOf env subject world (op :: rest)).IsChain Follows
            ∧ ∀ earlier,
                world.record subject = some (earlier.world.attestedRecord earlier.args)
                → ∀ later ∈ (attestationsOf env subject world (op :: rest)).head?,
                    Follows earlier later := by
        rw [attestationsOf_other other, ← same]
        exact ih quiet
      cases outcome : gateStep env world op with
      | none =>
          refine passes (fun _ _ _ _ => outcome) ?_
          rw [Machine.next_of_refused outcome]
      | some after =>
          have next : (gateMachine env).next world op = after := Machine.next_of_step outcome
          cases effect_of_step outcome with
          | @attested activeKey args accepts =>
              by_cases own : args.subject = subject
              · subst own
                rw [next] at quiet
                obtain ⟨chain, first⟩ := ih quiet
                rw [attestationsOf_attestBbs accepts]
                refine ⟨List.isChain_cons.mpr ⟨?_, chain⟩, ?_⟩
                · exact first { world, activeKey, args } (World.attested_record_self env world args)
                · intro earlier stored later head live
                  cases head
                  exact accepts.fresher _ stored (.inl live)
              · refine passes ?_ ?_
                · intro _ _ same named
                  cases same
                  exact absurd named own
                · rw [next]
                  exact world.attested_record_of_ne env args subject (Ne.symm own)
          | @revoked auth named admin stored authorised =>
              have other : named ≠ subject := by
                intro same
                subst same
                exact calm (by simp [revokes, outcome])
              refine passes (fun _ _ same => by cases same) ?_
              rw [next]
              exact world.revoked_record_of_ne env named subject other.symm
          | kept unnamed keeps =>
              refine passes ?_ ?_
              · intro _ _ same
                subst same
                cases unnamed
              · rw [next]
                simp only [World.record, readClaim, keeps.claims]

end

/-- Every accepted attestation of a run is fresh, every other call leaves the whole storage as
it was, and without a revocation each attestation of a subject that comes while the record of
the one before it is live expires later.
-/
theorem freshness_order (env : Env) (ledger : Ledger) (ops : List Op)
    : let world := (gateMachine env).run (World.genesis ledger) ops
      (∀ activeKey args granted after,
          run (attestBbsCall env world.ledger activeKey args) world.gate = (.ok granted, after)
          → Fresh world args
            ∧ gateStep env world (.attestBbs activeKey args) = some (world.withGate after))
      ∧ (∀ activeKey args failure after,
          run (attestBbsCall env world.ledger activeKey args) world.gate
            = (.error failure, after)
          → after = world.gate ∧ gateStep env world (.attestBbs activeKey args) = none)
      ∧ ∀ subject later,
          (gateMachine env).Quiet (fun world op => revokes env subject world op = true) world later
          → (attestationsOf env subject world later).IsChain Follows := by
  intro world
  refine ⟨?_, ?_, ?_⟩
  · intro activeKey args granted after accepted
    rw [run_attestBbsCall] at accepted
    cases outcome : attestBbs env world.ledger activeKey world.gate args with
    | error failure =>
        rw [outcome] at accepted
        cases accepted
    | ok pair =>
        have accepts : world.Accepts env activeKey args := (accepts_of_attestBbs outcome).1
        rw [outcome] at accepted
        cases accepted
        refine ⟨accepts.isFresh, ?_⟩
        simp only [gateStep, outcome]
        rfl
  · intro activeKey args failure after failed
    rw [run_attestBbsCall] at failed
    cases outcome : attestBbs env world.ledger activeKey world.gate args with
    | error other =>
        rw [outcome] at failed
        cases failed
        refine ⟨rfl, ?_⟩
        simp only [gateStep, outcome]
        rfl
    | ok pair =>
        rw [outcome] at failed
        cases failed
  · intro subject later quiet
    exact (attestationsOf_chain quiet).1

/-- Two attestations in consecutive ledgers, the second a ledger fresher. -/
theorem freshness_order_refreshed
    : let world :=
        (gateMachine Sample.refreshEnv).run (World.genesis Sample.refreshLedger) Sample.deploy
      let later : List Op :=
        [
          .attestBbs Sample.activeKey Sample.refreshFirst,
          .advance { sequence := 901, timestamp := 0 },
          .attestBbs Sample.activeKey Sample.refreshAgain
        ]
      (attestationsOf Sample.refreshEnv Sample.holder world later).IsChain Follows
      ∧ (attestationsOf Sample.refreshEnv Sample.holder world later).map
          (fun attestation => attestation.args.expiresAt)
        = [2074500, 2074501] := by
  intro world later
  refine ⟨?_, by decide +kernel⟩
  apply (freshness_order Sample.refreshEnv Sample.refreshLedger Sample.deploy).2.2 _ later
  refine ⟨?_, ?_, ?_, trivial⟩
  all_goals
    intro revoked
    cases revoked

end StellarOnramp.KycGate
