import StellarOnramp.KycGate.CredentialEvidence

/-! No proof is accepted twice, although the storage that remembers spent nonces may be
evicted while proofs are still in circulation. The entry that spends a nonce outlives every
ledger in which a proof with that nonce and deadline is still fresh.
-/

namespace StellarOnramp.KycGate

open Octets Lifetimes Transitions
open StellarOnramp.Soroban

-----------------------------------------------------------------------------------------
-- What a presentation is bound to
-----------------------------------------------------------------------------------------

/-- The canonical bytes determine subject, nonce and deadline: every field is behind its
length, and the fields between them are the deployment's own.
-/
theorem canonicalBinding_inj {env : Env} {subject other : Address} {nonce more : BytesN 32}
    {ledgerExpiry deadline : UInt32}
    (same
      : canonicalBinding env subject nonce ledgerExpiry
        = canonicalBinding env other more deadline)
    : subject = other ∧ nonce = more ∧ ledgerExpiry = deadline := by
  simp only [canonicalBinding, appendLenPrefixed, List.append_assoc,
    List.append_cancel_left_eq] at same
  have nonceFits (bytes : BytesN 32) : bytes.val.length < 2 ^ 32 := by
    rw [bytes.property]
    decide
  have strkeyFits (address : Address) : address.strkey.length < 2 ^ 32 := by
    rw [address.strkey_length]
    decide
  obtain ⟨sameNonce, same⟩ := lenPrefixed_append_inj (nonceFits _) (nonceFits _) same
  obtain ⟨sameSubject, same⟩ := lenPrefixed_append_inj (strkeyFits _) (strkeyFits _) same
  simp only [List.append_cancel_left_eq] at same
  have deadlineFits (value : UInt32) : (beBytes 4 value.toNat).length < 2 ^ 32 := by
    rw [beBytes_length]
    decide
  have ends
      : lenPrefixed (beBytes 4 ledgerExpiry.toNat) ++ []
        = lenPrefixed (beBytes 4 deadline.toNat) ++ [] := by
    simpa using same
  obtain ⟨sameDeadline, -⟩ := lenPrefixed_append_inj (deadlineFits _) (deadlineFits _) ends
  exact ⟨Address.ext_strkey sameSubject, Subtype.ext sameNonce,
    UInt32.toNat_inj.mp (beBytes_inj ledgerExpiry.toNat_lt deadline.toNat_lt sameDeadline)⟩

/-- With a collision-free digest the presentation header determines them too. -/
theorem presentationHeader_inj {env : Env} (collisionFree : Function.Injective env.sha256)
    {subject other : Address} {nonce more : BytesN 32} {ledgerExpiry deadline : UInt32}
    (same
      : presentationHeader env subject nonce ledgerExpiry
        = presentationHeader env other more deadline)
    : subject = other ∧ nonce = more ∧ ledgerExpiry = deadline :=
  canonicalBinding_inj (collisionFree (List.append_cancel_left (collisionFree same)))

-----------------------------------------------------------------------------------------
-- The entry that spends a nonce
-----------------------------------------------------------------------------------------

/-- The temporary entry an accepted attestation leaves under its nonce. -/
def World.nonceEntry (env : Env) (world : World) (args : AttestArgs) : Entry Unit :=
  let seq := world.ledger.sequence
  let ttl := nonceTtl seq args.expiresAt
  extendTtl seq.toNat ttl ttl
    (put seq.toNat env.minTemporaryTtl (world.gate.nonces args.nonce) ())

@[simp]
theorem World.attested_nonces_self (env : Env) (world : World) (args : AttestArgs)
    : (world.attested env args).gate.nonces args.nonce = some (world.nonceEntry env args) := by
  simp [World.attested, World.withGate, recordAttestation, writeClaim, bumpInstance,
    World.nonceEntry]

theorem World.attested_nonces_of_ne (env : Env) (world : World) (args : AttestArgs)
    {nonce : BytesN 32} (different : nonce ≠ args.nonce)
    : (world.attested env args).gate.nonces nonce = world.gate.nonces nonce := by
  simp [World.attested, World.withGate, recordAttestation, writeClaim, bumpInstance, different]

/-- An accepted attestation's nonce entry covers the record it wrote, the proof's deadline
and the minimum lifetime. Witness: the horizon is below the ceiling of the clamp, and the
proof window is not above its floor.
-/
theorem World.Accepts.nonceEntry_covers {env : Env} {world : World} {activeKey : RegistryView}
    {args : AttestArgs} (accepts : world.Accepts env activeKey args)
    : args.expiresAt.toNat ≤ (world.nonceEntry env args).liveUntil
      ∧ args.ledgerExpiry.toNat ≤ (world.nonceEntry env args).liveUntil
      ∧ world.ledger.sequence.toNat + nonceMinTtl.toNat
        ≤ (world.nonceEntry env args).liveUntil := by
  have extended :=
    le_extendTtl_of_same world.ledger.sequence.toNat
      (nonceTtl world.ledger.sequence args.expiresAt)
      (put world.ledger.sequence.toNat env.minTemporaryTtl (world.gate.nonces args.nonce) ())
  have horizon := accepts.horizon
  have window := accepts.window
  have unexpired := accepts.unexpired
  simp only [World.nonceEntry, nonceTtl, nonceMinTtl_toNat, nonceMaxTtl_toNat,
    maxExpiryHorizon_toNat, proofMaxWindow_toNat] at *
  omega

/-- No accepted operation shortens the life of a nonce entry: only its own nonce's next use
rewrites it, and that use needs it to have lapsed.
-/
theorem Effect.nonce_liveUntil_le {env : Env} {before after : World} {op : Op}
    (effect : Effect env before op after) {nonce : BytesN 32} {entry : Entry Unit}
    (stored : before.gate.nonces nonce = some entry)
    : ∃ later, after.gate.nonces nonce = some later ∧ entry.liveUntil ≤ later.liveUntil := by
  cases effect with
  | @attested activeKey args accepts =>
      by_cases own : nonce = args.nonce
      · subst own
        refine ⟨_, before.attested_nonces_self env args, ?_⟩
        have lapsed := has_eq_false_iff.mp accepts.unspent entry stored
        have covered := accepts.nonceEntry_covers.2.2
        omega
      · exact ⟨entry, (before.attested_nonces_of_ne env args own).trans stored, Nat.le_refl _⟩
  | revoked admin authorised => exact ⟨entry, stored, Nat.le_refl _⟩
  | kept unnamed keeps => exact ⟨entry, keeps.nonces ▸ stored, Nat.le_refl _⟩

/-- What an accepted attestation leaves behind: an entry that outlives the proof's deadline
and the minimum lifetime.
-/
def NonceSpent (spent : World × Op) (world : World) : Prop :=
  match spent with
  | (earlier, .attestBbs _ args) =>
      ∃ entry,
        world.gate.nonces args.nonce = some entry
        ∧ args.ledgerExpiry.toNat ≤ entry.liveUntil
        ∧ earlier.ledger.sequence.toNat + nonceMinTtl.toNat ≤ entry.liveUntil
  | _ => True

/-- A spent nonce stays spent across every accepted operation. -/
theorem nonceSpent_preserved (env : Env) (spent : World × Op)
    : (gateMachine env).Preserves (NonceSpent spent) := by
  apply preserves_of_effect
  intro before op after effect held
  obtain ⟨earlier, spending⟩ := spent
  cases spending with
  | attestBbs activeKey args =>
      obtain ⟨entry, stored, deadline, minimum⟩ := held
      obtain ⟨later, kept, longer⟩ := effect.nonce_liveUntil_le stored
      exact ⟨later, kept, Nat.le_trans deadline longer, Nat.le_trans minimum longer⟩
  | _ => trivial

/-- A nonce that is spent and accepted again had lapsed, so both the minimum lifetime and the
earlier deadline lie in the past.
-/
theorem NonceSpent.elapsed {env : Env} {earlier world : World} {spending view : RegistryView}
    {spent args : AttestArgs} (held : NonceSpent (earlier, .attestBbs spending spent) world)
    (accepts : world.Accepts env view args) (same : spent.nonce = args.nonce)
    : earlier.ledger.sequence.toNat + nonceMinTtl.toNat < world.ledger.sequence.toNat
      ∧ spent.ledgerExpiry.toNat < args.ledgerExpiry.toNat := by
  obtain ⟨entry, stored, deadline, minimum⟩ := held
  have lapsed := has_eq_false_iff.mp accepts.unspent entry (same ▸ stored)
  have fresh := accepts.fresh
  omega

-----------------------------------------------------------------------------------------
-- No replay
-----------------------------------------------------------------------------------------

/-- Two accepted attestations with one nonce are more than the minimum lifetime apart and
carry different deadlines. Witness: the spent entry is the promise the earlier one leaves.
-/
theorem attestations_nonce_pairwise (env : Env) (world : World) (ops : List Op)
    : (attestations env world ops).Pairwise (fun earlier later =>
        earlier.args.nonce = later.args.nonce
        → earlier.world.ledger.sequence.toNat + nonceMinTtl.toNat
            < later.world.ledger.sequence.toNat
          ∧ earlier.args.ledgerExpiry ≠ later.args.ledgerExpiry) := by
  refine List.pairwise_filterMap.mpr (Machine.trace_pairwise ?_ (nonceSpent_preserved env) ?_
    world ops)
  · intro before op after accepted
    cases effect_of_step accepted with
    | @attested activeKey args accepts =>
        have covered := accepts.nonceEntry_covers
        exact ⟨_, before.attested_nonces_self env args, covered.2.1, covered.2.2⟩
    | revoked admin authorised => trivial
    | @kept op after unnamed keeps =>
        cases op with
        | attestBbs activeKey args => cases unnamed
        | _ => trivial
  · rintro ⟨earlier, spending⟩ before op after held accepted first named second also same
    obtain ⟨rfl, rfl⟩ := Prod.mk.inj (Attestation.ofInput_eq_some_iff.mp named)
    obtain ⟨rfl, rfl⟩ := Prod.mk.inj (Attestation.ofInput_eq_some_iff.mp also)
    have accepts := (gateStep_attestBbs_iff.mp accepted).1
    obtain ⟨apart, later⟩ := held.elapsed accepts same
    exact ⟨apart, fun equal => Nat.lt_irrefl _ (equal ▸ later)⟩

/-- In every run no two accepted attestations carry one nonce and deadline, so no two are
bound to one canonical string, and with a collision-free digest no two to one presentation
header; equal nonces are more than the minimum lifetime apart; and every nonce entry covers
the record and the deadline it was written for.
-/
theorem accepted_proofs_never_replay (env : Env) (ledger : Ledger) (ops : List Op)
    : let accepted := attestations env (World.genesis ledger) ops
      accepted.Pairwise (fun earlier later =>
        ¬ (earlier.args.nonce = later.args.nonce
            ∧ earlier.args.ledgerExpiry = later.args.ledgerExpiry))
      ∧ accepted.Pairwise (fun earlier later =>
        canonicalBinding env earlier.args.subject earlier.args.nonce earlier.args.ledgerExpiry
        ≠ canonicalBinding env later.args.subject later.args.nonce later.args.ledgerExpiry)
      ∧ (Function.Injective env.sha256
        → accepted.Pairwise (fun earlier later =>
          presentationHeader env earlier.args.subject earlier.args.nonce
              earlier.args.ledgerExpiry
          ≠ presentationHeader env later.args.subject later.args.nonce
              later.args.ledgerExpiry))
      ∧ accepted.Pairwise (fun earlier later =>
        earlier.args.nonce = later.args.nonce
        → earlier.world.ledger.sequence.toNat + nonceMinTtl.toNat
          < later.world.ledger.sequence.toNat)
      ∧ ∀ attestation ∈ accepted,
        ∃ entry,
          (attestation.world.attested env attestation.args).gate.nonces attestation.args.nonce
              = some entry
          ∧ attestation.args.expiresAt.toNat ≤ entry.liveUntil
          ∧ attestation.args.ledgerExpiry.toNat ≤ entry.liveUntil := by
  intro accepted
  have pairwise := attestations_nonce_pairwise env (World.genesis ledger) ops
  refine ⟨?_, ?_, ?_, ?_, ?_⟩
  · exact pairwise.imp (fun apart ⟨nonce, deadline⟩ => (apart nonce).2 deadline)
  · refine pairwise.imp (fun apart same => ?_)
    obtain ⟨-, nonce, deadline⟩ := canonicalBinding_inj same
    exact (apart nonce).2 deadline
  · intro collisionFree
    refine pairwise.imp (fun apart same => ?_)
    obtain ⟨-, nonce, deadline⟩ := presentationHeader_inj collisionFree same
    exact (apart nonce).2 deadline
  · exact pairwise.imp (fun apart nonce => (apart nonce).1)
  · intro attestation member
    have covered := (mem_attestations member).1.nonceEntry_covers
    exact ⟨_, World.attested_nonces_self env attestation.world attestation.args, covered.1,
      covered.2.1⟩

/-- One nonce used twice, the second time in the first ledger after its entry lapsed. -/
theorem accepted_proofs_never_replay_lapsed
    : let env :=
        Sample.env [
          Sample.presentation [] Sample.holder 0 Sample.holder 1 1000,
          Sample.presentation [] Sample.holder 0 Sample.holder 1 18200
        ]
      let ops :=
        Sample.deploy
          ++ [
            .attestBbs Sample.activeKey (Sample.args [] Sample.holder 1 1000 2000 0),
            .advance { sequence := 18181, timestamp := 0 },
            .attestBbs Sample.activeKey (Sample.args [] Sample.holder 1 18200 20000 0)
          ]
      let accepted :=
        attestations env (World.genesis { sequence := 900, timestamp := 0 }) ops
      accepted.length = 2
      ∧ accepted.Pairwise (fun earlier later =>
        presentationHeader env earlier.args.subject earlier.args.nonce earlier.args.ledgerExpiry
        ≠ presentationHeader env later.args.subject later.args.nonce later.args.ledgerExpiry) := by
  intro env ops accepted
  have spec := accepted_proofs_never_replay env { sequence := 900, timestamp := 0 } ops
  exact ⟨by decide +kernel, spec.2.2.1 Function.injective_id⟩

end StellarOnramp.KycGate
