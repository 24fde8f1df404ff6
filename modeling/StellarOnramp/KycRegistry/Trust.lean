import StellarOnramp.KycRegistry.Contract
import StellarOnramp.Library.Transitions
import Mathlib.Data.List.Nodup

/-! The registry over any order of calls and ledger advances. The list of ids and the stored
issuers stay in step, and what the registry trusts can only shrink once it is registered.
-/

namespace StellarOnramp.KycRegistry

open Octets Transitions
open StellarOnramp.Soroban

/-- The registry's storage in the current ledger. -/
structure World where
  ledger : Ledger
  registry : State

/-- The world right after deployment. -/
def World.genesis (ledger : Ledger) : World :=
  { ledger, registry := State.empty }

/-- One operation: an entry point that writes, or a later ledger closing. -/
inductive Op where
  | init (auth : Authorization) (admin : Address)
  | registerIssuer (auth : Authorization) (issuerId : BytesN 32) (pubkeyG2 : BytesN 192)
      (validUntil : UInt32)
  | revokeIssuer (auth : Authorization) (issuerId : BytesN 32)
  | advance (ledger : Ledger)

/-- Who authorised an operation; a closing ledger is nobody's call. -/
def Op.auth : Op → Option Authorization
  | init auth _ => some auth
  | registerIssuer auth .. => some auth
  | revokeIssuer auth _ => some auth
  | advance _ => none

/-- The id an operation registers. -/
def Op.registers : Op → List (BytesN 32)
  | registerIssuer _ issuerId _ _ => [issuerId]
  | init .. | revokeIssuer .. | advance _ => []

def World.withRegistry (world : World) (registry : State) : World :=
  { world with registry }

/-- One accepted operation; a failed call is refused, so its writes are rolled back. -/
def registryStep (world : World) : Op → Option World
  | .init auth admin => (init auth world.registry admin).toOption.map world.withRegistry
  | .registerIssuer auth issuerId pubkeyG2 validUntil =>
      (registerIssuer auth world.registry issuerId pubkeyG2 validUntil).toOption.map
        world.withRegistry
  | .revokeIssuer auth issuerId =>
      (revokeIssuer auth world.registry issuerId).toOption.map world.withRegistry
  | .advance ledger =>
      if world.ledger.sequence ≤ ledger.sequence then some { world with ledger } else none

def registryMachine : Machine World Op :=
  { step := registryStep }

-----------------------------------------------------------------------------------------
-- What an accepted operation does
-----------------------------------------------------------------------------------------

/-- The stored admin authorised a call. -/
def AuthorisedBy (auth : Authorization) (state : State) : Prop :=
  ∃ admin, state.admin = some admin ∧ auth admin = true

/-- Everything an accepted operation can do to the world. -/
inductive Effect (before : World) : Op → World → Prop where
  | initialised {auth : Authorization} {admin : Address}
      (absent : before.registry.admin = none)
      : Effect before (.init auth admin)
          (before.withRegistry
            { before.registry with admin := some admin, issuerIds := some [] })
  | registered {auth : Authorization} {issuerId : BytesN 32} {pubkeyG2 : BytesN 192}
      {validUntil : UInt32}
      (authorised : AuthorisedBy auth before.registry)
      (fresh : before.registry.issuers issuerId = none)
      : Effect before (.registerIssuer auth issuerId pubkeyG2 validUntil)
          (before.withRegistry
            {
              before.registry with
              issuers :=
                Function.update before.registry.issuers issuerId
                  (some { pubkeyG2, validUntil, revoked := false })
              issuerIds := some (issuerIds before.registry ++ [issuerId])
            })
  | revoked {auth : Authorization} {issuerId : BytesN 32} {issuer : Issuer}
      (authorised : AuthorisedBy auth before.registry)
      (stored : before.registry.issuers issuerId = some issuer)
      : Effect before (.revokeIssuer auth issuerId)
          (before.withRegistry
            {
              before.registry with
              issuers :=
                Function.update before.registry.issuers issuerId
                  (some { issuer with revoked := true })
            })
  | advanced {ledger : Ledger} (later : before.ledger.sequence ≤ ledger.sequence)
      : Effect before (.advance ledger) { before with ledger }

theorem requireAdmin_eq_ok {auth : Authorization} {state : State} {admin : Address}
    (checked : requireAdmin auth state = .ok admin)
    : AuthorisedBy auth state := by
  unfold requireAdmin at checked
  split at checked
  case h_1 => cases checked
  case h_2 found stored =>
    split at checked
    case isTrue authorised => exact ⟨found, stored, authorised⟩
    case isFalse => cases checked

theorem toOption_eq_some {ε α : Type} {outcome : Except ε α} {value : α}
    (accepted : outcome.toOption = some value)
    : outcome = .ok value := by
  cases outcome with
  | error failure => cases accepted
  | ok found =>
      cases accepted
      rfl

/-- An accepted operation has one of the effects. Witness: the branches of each entry point
in source order.
-/
theorem effect_of_step {before after : World} {op : Op}
    (accepted : registryStep before op = some after)
    : Effect before op after := by
  cases op with
  | init auth admin =>
      rcases Option.map_eq_some_iff.mp accepted with ⟨registry, called, rfl⟩
      replace called := toOption_eq_some called
      unfold init at called
      split at called
      case isTrue => cases called
      case isFalse absent =>
        split at called
        case isTrue =>
          cases called
          exact .initialised (by simpa using absent)
        case isFalse => cases called
  | registerIssuer auth issuerId pubkeyG2 validUntil =>
      rcases Option.map_eq_some_iff.mp accepted with ⟨registry, called, rfl⟩
      replace called := toOption_eq_some called
      unfold registerIssuer at called
      split at called
      case h_1 => cases called
      case h_2 admin checked =>
        split at called
        case isTrue => cases called
        case isFalse fresh =>
          cases called
          exact .registered (requireAdmin_eq_ok checked) (by simpa using fresh)
  | revokeIssuer auth issuerId =>
      rcases Option.map_eq_some_iff.mp accepted with ⟨registry, called, rfl⟩
      replace called := toOption_eq_some called
      unfold revokeIssuer at called
      split at called
      case h_1 => cases called
      case h_2 admin checked =>
        split at called
        case h_1 => cases called
        case h_2 issuer stored =>
          cases called
          exact .revoked (requireAdmin_eq_ok checked) stored
  | advance ledger =>
      rw [registryStep] at accepted
      split at accepted
      case isTrue later =>
        cases accepted
        exact .advanced later
      case isFalse => cases accepted

-----------------------------------------------------------------------------------------
-- The list of ids mirrors the stored issuers
-----------------------------------------------------------------------------------------

/-- The two storage keys agree; before `init` both are empty. -/
structure Mirrored (world : World) : Prop where
  listed
    : ∀ issuerId,
        issuerId ∈ issuerIds world.registry ↔ (world.registry.issuers issuerId).isSome = true
  distinct : (issuerIds world.registry).Nodup
  empty : world.registry.admin = none → issuerIds world.registry = []

theorem mirrored_genesis (ledger : Ledger) : Mirrored (World.genesis ledger) where
  listed := fun issuerId => by simp [World.genesis, State.empty, issuerIds]
  distinct := List.nodup_nil
  empty := fun _ => rfl

/-- The agreement survives every operation. -/
theorem mirrored_preserved : registryMachine.Preserves Mirrored := by
  intro before op after mirrored accepted
  cases effect_of_step accepted with
  | initialised absent =>
      refine ⟨fun issuerId => ?_, List.nodup_nil, fun missing => by cases missing⟩
      have listed := mirrored.listed issuerId
      rw [mirrored.empty absent] at listed
      exact listed
  | @registered auth issuerId pubkeyG2 validUntil authorised fresh =>
      have new : issuerId ∉ issuerIds before.registry := by
        rw [mirrored.listed, fresh]
        exact Bool.false_ne_true
      refine ⟨fun other => ?_, ?_, fun missing => ?_⟩
      · change other ∈ issuerIds before.registry ++ [issuerId]
          ↔ (Function.update before.registry.issuers issuerId _ other).isSome = true
        rw [List.mem_append, List.mem_singleton, mirrored.listed]
        by_cases same : other = issuerId
        · subst same
          simp
        · simp [same]
      · exact mirrored.distinct.append (List.nodup_singleton _)
          (List.disjoint_singleton.mpr new)
      · rcases authorised with ⟨admin, stored, -⟩
        cases stored.symm.trans missing
  | @revoked auth issuerId issuer authorised stored =>
      refine ⟨fun other => ?_, mirrored.distinct, mirrored.empty⟩
      change other ∈ issuerIds before.registry
        ↔ (Function.update before.registry.issuers issuerId _ other).isSome = true
      rw [mirrored.listed]
      by_cases same : other = issuerId
      · subst same
        simp [stored]
      · simp [same]
  | advanced later => exact ⟨mirrored.listed, mirrored.distinct, mirrored.empty⟩

/-- An accepted operation appends the id it registers to the list. -/
theorem issuerIds_of_step {before after : World} {op : Op} (mirrored : Mirrored before)
    (accepted : registryStep before op = some after)
    : issuerIds after.registry = issuerIds before.registry ++ op.registers := by
  cases effect_of_step accepted with
  | initialised absent =>
      rw [mirrored.empty absent]
      rfl
  | registered authorised fresh => rfl
  | revoked authorised stored => exact (List.append_nil _).symm
  | advanced later => exact (List.append_nil _).symm

-----------------------------------------------------------------------------------------
-- Trust only shrinks
-----------------------------------------------------------------------------------------

/-- A later world of the same registry. Keys and deadlines stand, a revocation is never
undone, and the ledger does not go back.
-/
structure Shrinks (earlier later : World) : Prop where
  issuer
    : ∀ issuerId issuer,
        earlier.registry.issuers issuerId = some issuer
        → ∃ kept,
            later.registry.issuers issuerId = some kept
            ∧ kept.pubkeyG2 = issuer.pubkeyG2
            ∧ kept.validUntil = issuer.validUntil
            ∧ (issuer.revoked = true → kept.revoked = true)
  ids : issuerIds earlier.registry <+: issuerIds later.registry
  admin
    : ∀ admin, earlier.registry.admin = some admin → later.registry.admin = some admin
  ledger : earlier.ledger.sequence ≤ later.ledger.sequence

theorem Shrinks.refl (world : World) : Shrinks world world where
  issuer := fun _ issuer stored => ⟨issuer, stored, rfl, rfl, id⟩
  ids := List.prefix_refl _
  admin := fun _ stored => stored
  ledger := UInt32.le_refl _

theorem Shrinks.trans {earlier middle later : World} (first : Shrinks earlier middle)
    (second : Shrinks middle later)
    : Shrinks earlier later where
  issuer := by
    intro issuerId issuer stored
    rcases first.issuer issuerId issuer stored with ⟨between, held, key, deadline, revoked⟩
    rcases second.issuer issuerId between held with ⟨kept, still, sameKey, sameDeadline, revokes⟩
    exact ⟨kept, still, sameKey.trans key, sameDeadline.trans deadline, revokes ∘ revoked⟩
  ids := first.ids.trans second.ids
  admin := fun admin stored => second.admin admin (first.admin admin stored)
  ledger := UInt32.le_trans first.ledger second.ledger

/-- Each accepted operation shrinks trust. -/
theorem shrinks_of_step {before after : World} {op : Op} (mirrored : Mirrored before)
    (accepted : registryStep before op = some after)
    : Shrinks before after := by
  have ids : issuerIds before.registry <+: issuerIds after.registry := by
    rw [issuerIds_of_step mirrored accepted]
    exact List.prefix_append _ _
  cases effect_of_step accepted with
  | initialised absent =>
      refine ⟨(Shrinks.refl before).issuer, ids, fun admin stored => ?_, UInt32.le_refl _⟩
      cases absent.symm.trans stored
  | @registered auth issuerId pubkeyG2 validUntil authorised fresh =>
      refine ⟨fun other issuer stored => ?_, ids, fun _ stored => stored, UInt32.le_refl _⟩
      have different : other ≠ issuerId := by
        rintro rfl
        cases fresh.symm.trans stored
      refine ⟨issuer, ?_, rfl, rfl, id⟩
      exact (Function.update_of_ne different _ _).trans stored
  | @revoked auth issuerId revoked authorised held =>
      refine ⟨fun other issuer stored => ?_, ids, fun _ stored => stored, UInt32.le_refl _⟩
      by_cases same : other = issuerId
      · subst same
        cases held.symm.trans stored
        exact ⟨{ revoked with revoked := true }, Function.update_self .., rfl, rfl, fun _ => rfl⟩
      · exact ⟨issuer, (Function.update_of_ne same _ _).trans stored, rfl, rfl, id⟩
  | advanced later =>
      exact ⟨(Shrinks.refl before).issuer, ids, fun _ stored => stored, later⟩

/-- Trust shrinks along every run from a world whose storage agrees. -/
theorem shrinks_run {world : World} (mirrored : Mirrored world) (ops : List Op)
    : Shrinks world (registryMachine.run world ops) := by
  have preserves : registryMachine.Preserves
      (fun later => Mirrored later ∧ Shrinks world later) := by
    intro before op after holds accepted
    exact ⟨mirrored_preserved before op after holds.1 accepted,
      holds.2.trans (shrinks_of_step holds.1 accepted)⟩
  exact (preserves.run ⟨mirrored, Shrinks.refl world⟩ ops).2

/-- The registry refuses a stored issuer exactly when it is revoked or past its expiry. -/
theorem activeKey_eq_error_iff {ledger : Ledger} {state : State} {issuerId : BytesN 32}
    {issuer : Issuer} (stored : state.issuers issuerId = some issuer)
    : activeKey ledger state issuerId = .error .issuerNotFound
      ↔ issuer.revoked = true
        ∨ (issuer.validUntil ≠ 0 ∧ issuer.validUntil < ledger.sequence) := by
  rw [activeKey, stored]
  by_cases revoked : issuer.revoked = true
  · simp [revoked]
  · by_cases late : issuer.validUntil ≠ 0 ∧ issuer.validUntil < ledger.sequence
    · simp [revoked, late]
    · simp [revoked, late]

/-- A refused issuer stays refused while trust shrinks. -/
theorem Shrinks.refused {earlier later : World} (shrinks : Shrinks earlier later)
    {issuerId : BytesN 32} {issuer : Issuer}
    (stored : earlier.registry.issuers issuerId = some issuer)
    (refused : activeKey earlier.ledger earlier.registry issuerId = .error .issuerNotFound)
    : activeKey later.ledger later.registry issuerId = .error .issuerNotFound := by
  rcases shrinks.issuer issuerId issuer stored with ⟨kept, still, -, deadline, revoked⟩
  rw [activeKey_eq_error_iff still, deadline]
  rcases (activeKey_eq_error_iff stored).mp refused with gone | ⟨limited, late⟩
  · exact Or.inl (revoked gone)
  · exact Or.inr ⟨limited, UInt32.lt_of_lt_of_le late shrinks.ledger⟩

/-- Once an admin is stored, only calls that this admin authorised change the registry. -/
theorem authorised_of_change {world : World} {op : Op} {admin : Address}
    (stored : world.registry.admin = some admin)
    (changed : (registryMachine.next world op).registry ≠ world.registry)
    : ∃ auth, op.auth = some auth ∧ auth admin = true := by
  cases outcome : registryMachine.step world op with
  | none => exact absurd (congrArg World.registry (Machine.next_of_refused outcome)) changed
  | some after =>
      rw [Machine.next_of_step outcome] at changed
      cases effect_of_step outcome with
      | initialised absent => cases absent.symm.trans stored
      | registered authorised fresh =>
          rcases authorised with ⟨found, held, authorised⟩
          cases held.symm.trans stored
          exact ⟨_, rfl, authorised⟩
      | revoked authorised held =>
          rcases authorised with ⟨found, kept, authorised⟩
          cases kept.symm.trans stored
          exact ⟨_, rfl, authorised⟩
      | advanced later => exact absurd rfl changed

/-- In every run the list of ids is the list of registrations, it mirrors the stored issuers,
and from any state on keys and deadlines stand, a refused issuer stays refused, a failed call
changes nothing and only the stored admin's calls change the registry. Witness: the storage
agreement and the shrinking relation along the run.
-/
theorem registry_trust_shrinks (ledger : Ledger) (before after : List Op)
    : let earlier := registryMachine.run (World.genesis ledger) before
      let later := registryMachine.run earlier after
      (issuerIds earlier.registry
          = (registryMachine.trace (World.genesis ledger) before).flatMap
              (fun accepted => accepted.2.registers)
        ∧ (issuerIds earlier.registry).Nodup
        ∧ (∀ issuerId,
            issuerId ∈ issuerIds earlier.registry
            ↔ ∃ issuer, earlier.registry.issuers issuerId = some issuer)
        ∧ issuerIds earlier.registry <+: issuerIds later.registry)
      ∧ (∀ issuerId issuer,
          earlier.registry.issuers issuerId = some issuer
          → (∃ kept,
              later.registry.issuers issuerId = some kept
              ∧ kept.pubkeyG2 = issuer.pubkeyG2
              ∧ kept.validUntil = issuer.validUntil)
            ∧ (activeKey earlier.ledger earlier.registry issuerId = .error .issuerNotFound
              ↔ issuer.revoked = true
                ∨ (issuer.validUntil ≠ 0 ∧ issuer.validUntil < earlier.ledger.sequence))
            ∧ (activeKey earlier.ledger earlier.registry issuerId = .error .issuerNotFound
              → activeKey later.ledger later.registry issuerId = .error .issuerNotFound))
      ∧ (∀ op,
          registryStep earlier op = none → registryMachine.next earlier op = earlier)
      ∧ ∀ admin,
          earlier.registry.admin = some admin
          → later.registry.admin = some admin
            ∧ ∀ op,
                (registryMachine.next earlier op).registry ≠ earlier.registry
                → ∃ auth, op.auth = some auth ∧ auth admin = true := by
  intro earlier later
  have genesis := mirrored_genesis ledger
  have mirrored : Mirrored earlier := mirrored_preserved.run genesis before
  have shrinks : Shrinks earlier later := shrinks_run mirrored after
  refine ⟨⟨?_, mirrored.distinct, fun issuerId => ?_, shrinks.ids⟩, ?_, ?_, ?_⟩
  · exact mirrored_preserved.log_run (fun world => issuerIds world.registry) Op.registers
      (fun _ _ _ holds accepted => issuerIds_of_step holds accepted) genesis before
  · rw [mirrored.listed, Option.isSome_iff_exists]
  · intro issuerId issuer stored
    rcases shrinks.issuer issuerId issuer stored with ⟨kept, still, key, deadline, -⟩
    exact ⟨⟨kept, still, key, deadline⟩, activeKey_eq_error_iff stored,
      fun refused => shrinks.refused stored refused⟩
  · exact fun op refused => Machine.next_of_refused refused
  · exact fun admin stored =>
      ⟨shrinks.admin admin stored, fun op changed => authorised_of_change stored changed⟩

theorem sampleAdmin_valid : isStrkey (71 :: List.replicate 55 65) = true := by decide

def sampleAdmin : Address := ⟨71 :: List.replicate 55 65, sampleAdmin_valid⟩

/-- An issuer is registered and then revoked. -/
def registeredAndRevoked : List Op :=
  [
    .init (fun address => address = sampleAdmin) sampleAdmin,
    .registerIssuer (fun address => address = sampleAdmin) (zeroBytes 32) (zeroBytes 192) 0,
    .revokeIssuer (fun address => address = sampleAdmin) (zeroBytes 32)
  ]

/-- The revoked issuer stays refused when it is registered again later. -/
theorem registry_trust_shrinks_revoked
    : activeKey { sequence := 200, timestamp := 0 }
          (registryMachine.run (World.genesis { sequence := 100, timestamp := 0 })
            (registeredAndRevoked
              ++ [
                .advance { sequence := 200, timestamp := 0 },
                .registerIssuer (fun _ => true) (zeroBytes 32) (zeroBytes 192) 300
              ])).registry
          (zeroBytes 32)
        = .error .issuerNotFound
      ∧ ∃ auth : Authorization,
          (Op.registerIssuer (fun address => address = sampleAdmin) (zeroBytes 32)
              (zeroBytes 192) 0).auth
            = some auth
          ∧ auth sampleAdmin = true := by
  constructor
  · obtain ⟨-, issuers, -⟩ :=
      registry_trust_shrinks { sequence := 100, timestamp := 0 } registeredAndRevoked
        [
          .advance { sequence := 200, timestamp := 0 },
          .registerIssuer (fun _ => true) (zeroBytes 32) (zeroBytes 192) 300
        ]
    have refused := (issuers (zeroBytes 32) _ rfl).2.2 rfl
    rw [Machine.run_append]
    exact refused
  · obtain ⟨-, -, -, admins⟩ :=
      registry_trust_shrinks { sequence := 100, timestamp := 0 }
        (registeredAndRevoked.take 1) []
    refine (admins sampleAdmin rfl).2 _ ?_
    intro same
    have stored := congrArg (fun state => (state.issuers (zeroBytes 32)).isSome) same
    cases stored

end StellarOnramp.KycRegistry
