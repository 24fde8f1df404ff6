import StellarOnramp.KycGate.CredentialEvidence
import StellarOnramp.KycRegistry.Contract
import StellarOnramp.TrexWrap.Contract

/-! The three contracts on one ledger. The gate asks the registry for issuer keys, the
adapter asks the gate for verdicts, and every other call on an address fails.
-/

namespace StellarOnramp.System

open Octets Transitions
open StellarOnramp.Soroban

/-- What is fixed once the three contracts are deployed. -/
structure Deployment where
  env : KycGate.Env
  registryAddress : Address

structure World where
  ledger : Ledger
  registry : KycRegistry.State
  gate : KycGate.State
  wrap : TrexWrap.State

/-- The world right after deployment; the adapter's constructor runs then. -/
def World.genesis (deployment : Deployment) (ledger : Ledger) (owner : Address)
    (requiredBitmap : UInt32)
    : World :=
  {
    ledger
    registry := KycRegistry.State.empty
    gate := KycGate.State.empty ledger.sequence.toNat
    wrap := TrexWrap.construct owner deployment.env.currentContractAddress requiredBitmap
  }

/-- The gate's part of the world. -/
def World.gateWorld (world : World) : KycGate.World :=
  { ledger := world.ledger, gate := world.gate }

/-- The gate's `active_key` call on an address. -/
def World.activeKey (deployment : Deployment) (world : World) : KycGate.RegistryView :=
  fun address issuerId =>
    if address = deployment.registryAddress then
      (KycRegistry.activeKey world.ledger world.registry issuerId).toOption
    else
      none

/-- The adapter's `check` call on an address. -/
def World.checkCall (deployment : Deployment) (world : World) : TrexWrap.CheckCall :=
  fun address account claimBit =>
    if address = deployment.env.currentContractAddress then
      some (KycGate.check world.ledger world.gate account claimBit)
    else
      none

-----------------------------------------------------------------------------------------
-- Commands
-----------------------------------------------------------------------------------------

inductive Command where
  | initRegistry (auth : Authorization) (admin : Address)
  | registerIssuer (auth : Authorization) (issuerId : BytesN 32) (pubkeyG2 : BytesN 192)
      (validUntil : UInt32)
  | revokeIssuer (auth : Authorization) (issuerId : BytesN 32)
  | initGate (auth : Authorization) (admin registry : Address)
  | attestBbs (args : KycGate.AttestArgs)
  | revoke (auth : Authorization) (subject : Address)
  | setAdmin (auth : Authorization) (newAdmin : Address)
  | setRequired (auth : Authorization) (requiredBitmap : UInt32)
  | setRecovery (auth : Authorization) (oldAccount newAccount : Address)
  | setClaimTopicsAndIssuers (auth : Authorization) (claimTopicsAndIssuers : Address)
  | advance (ledger : Ledger)

/-- The subject a command names. -/
def Command.subject : Command → Option Address
  | attestBbs args => some args.subject
  | revoke _ subject => some subject
  | _ => none

/-- The gate's own operation behind a command, with the registry as it stands. -/
def Command.gateOp (deployment : Deployment) (world : World) : Command → Option KycGate.Op
  | initGate auth admin registry => some (.init auth admin registry)
  | attestBbs args => some (.attestBbs (world.activeKey deployment) args)
  | revoke auth subject => some (.revoke auth subject)
  | setAdmin auth newAdmin => some (.setAdmin auth newAdmin)
  | advance ledger => some (.advance ledger)
  | _ => none

def World.withGateWorld (world : World) (after : KycGate.World) : World :=
  { world with ledger := after.ledger, gate := after.gate }

@[simp]
theorem World.gateWorld_withGateWorld (world : World) (after : KycGate.World)
    : (world.withGateWorld after).gateWorld = after := rfl

def World.withRegistry (world : World) (registry : KycRegistry.State) : World :=
  { world with registry }

def World.withWrap (world : World) (wrap : TrexWrap.State) : World :=
  { world with wrap }

/-- One accepted command; a failed call is refused. -/
def systemStep (deployment : Deployment) (world : World) (command : Command) : Option World :=
  match command.gateOp deployment world with
  | some op => (KycGate.gateStep deployment.env world.gateWorld op).map world.withGateWorld
  | none =>
      match command with
      | .initRegistry auth admin =>
          (KycRegistry.init auth world.registry admin).toOption.map world.withRegistry
      | .registerIssuer auth issuerId pubkeyG2 validUntil =>
          (KycRegistry.registerIssuer auth world.registry issuerId pubkeyG2
            validUntil).toOption.map world.withRegistry
      | .revokeIssuer auth issuerId =>
          (KycRegistry.revokeIssuer auth world.registry issuerId).toOption.map
            world.withRegistry
      | .setRequired auth requiredBitmap =>
          (TrexWrap.setRequired auth world.wrap requiredBitmap).toOption.map world.withWrap
      | .setRecovery auth oldAccount newAccount =>
          (TrexWrap.setRecovery auth world.wrap oldAccount newAccount).toOption.map
            world.withWrap
      | .setClaimTopicsAndIssuers auth claimTopicsAndIssuers =>
          (TrexWrap.setClaimTopicsAndIssuers auth world.wrap
            claimTopicsAndIssuers).toOption.map world.withWrap
      | _ => none

def systemMachine (deployment : Deployment) : Machine World Command :=
  { step := systemStep deployment }

theorem Command.gateOp_subject {deployment : Deployment} {world : World} {command : Command}
    {op : KycGate.Op} (behind : command.gateOp deployment world = some op)
    : op.subject = command.subject := by
  cases command <;> simp only [gateOp, Option.some.injEq, reduceCtorEq] at behind <;>
    subst behind <;> rfl

-----------------------------------------------------------------------------------------
-- The gate inside the system
-----------------------------------------------------------------------------------------

/-- What an accepted command did to the gate: one of the gate's own effects, or nothing. -/
theorem gate_effect_of_step {deployment : Deployment} {before after : World}
    {command : Command} (accepted : systemStep deployment before command = some after)
    : (∃ op,
          command.gateOp deployment before = some op
          ∧ KycGate.Effect deployment.env before.gateWorld op after.gateWorld
          ∧ after.registry = before.registry
          ∧ after.wrap = before.wrap)
      ∨ (command.gateOp deployment before = none ∧ after.gateWorld = before.gateWorld) := by
  cases behind : command.gateOp deployment before with
  | some op =>
      simp only [systemStep, behind, Option.map_eq_some_iff] at accepted
      obtain ⟨gateAfter, stepped, rfl⟩ := accepted
      exact Or.inl ⟨op, rfl, KycGate.effect_of_step stepped, rfl, rfl⟩
  | none =>
      refine Or.inr ⟨rfl, ?_⟩
      cases command <;> simp only [Command.gateOp, reduceCtorEq] at behind <;>
        simp only [systemStep, Command.gateOp, Option.map_eq_some_iff] at accepted <;>
        obtain ⟨part, -, rfl⟩ := accepted <;> rfl

/-- The system simulates the gate alone: a command is the gate's operation with the
registry's current answers, or no operation at all.
-/
def gateSimulation (deployment : Deployment)
    : (systemMachine deployment).Simulates (KycGate.gateMachine deployment.env) where
  image := World.gateWorld
  translate world command := (command.gateOp deployment world).toList
  commutes := by
    intro world command
    cases behind : command.gateOp deployment world with
    | some op =>
        rw [Option.toList_some, Machine.run_cons, Machine.run_nil]
        simp only [Machine.next, systemMachine, systemStep, behind, KycGate.gateMachine]
        cases KycGate.gateStep deployment.env world.gateWorld op <;> rfl
    | none =>
        rw [Option.toList_none, Machine.run_nil]
        cases outcome : systemStep deployment world command with
        | none => rw [Machine.next_of_refused outcome]
        | some after =>
            rw [Machine.next_of_step outcome]
            rcases gate_effect_of_step outcome with ⟨op, named, -⟩ | ⟨-, same⟩
            · rw [behind] at named
              cases named
            · exact same

/-- The gate in a run of the system is the gate in a run of its own. -/
theorem exists_gateRun (deployment : Deployment) (world : World) (commands : List Command)
    : ∃ ops : List KycGate.Op,
        ((systemMachine deployment).run world commands).gateWorld
          = (KycGate.gateMachine deployment.env).run world.gateWorld ops
        ∧ ops.length ≤ commands.length := by
  refine ⟨(gateSimulation deployment).translateRun world commands,
    (gateSimulation deployment).image_run world commands, ?_⟩
  induction commands generalizing world with
  | nil => exact Nat.le_refl 0
  | cons command commands ih =>
      have single : (command.gateOp deployment world).toList.length ≤ 1 := by
        cases command.gateOp deployment world <;> simp
      have later := ih ((systemMachine deployment).next world command)
      simp only [Machine.Simulates.translateRun, List.length_append, List.length_cons]
      exact (Nat.add_le_add single later).trans_eq (Nat.add_comm _ _)

end StellarOnramp.System
