import StellarOnramp.Onboard.Portal
import Mathlib.Data.List.Infix

/-! What becomes of an approval. A submission and a result that comes in time write the verdict
without a look at the one that is stored; the start of the wizard and a late result look first.
-/

namespace StellarOnramp.Onboard

open JsText
open Transitions

variable {Listener Step Applicant : Type}

/-- One record landed after another. -/
def LandedAfter (landings : List JsString) (earlier later : JsString) : Prop :=
  later ∈ landings ∧ landings.idxOf earlier < landings.idxOf later

/-- The account is approved with the hash of a record that landed. -/
def Portal.Approved (portal : Portal Listener Step Applicant) (accountId txHash : JsString)
    : Prop :=
  txHash ∈ portal.landings
  ∧ ∃ kyc,
      portal.accounts.kycOf accountId = some kyc
      ∧ kyc.status = .approved
      ∧ kyc.txHash = some txHash

/-- Approved accounts stay approved, with the same record or one that landed after it. -/
structure Portal.KeepsVerdicts (portal after : Portal Listener Step Applicant) : Prop where
  landings : portal.landings <+: after.landings
  verdicts
    : ∀ accountId txHash,
        portal.Approved accountId txHash
        → ∃ current,
            after.Approved accountId current
            ∧ (current = txHash ∨ LandedAfter after.landings txHash current)

/-- A step does not touch a stored approval: no submission passes its checks, and no result
comes in time, unless its record landed after the stored one.
-/
def Portal.Guarded (config : PortalConfig) (portal : Portal Listener Step Applicant)
    [DecidableEq Listener]
    : PortalInput Listener Step Applicant → Prop
  | .submit request body limited _ =>
      ∀ accountId account txHash,
        portal.requests[request]? = some (accountId, account)
        → (portal.checkSubmit config accountId body limited).isOk = true
        → ¬ portal.Approved accountId txHash
  | .act id .advance _ =>
      ∀ run completion result txHash,
        portal.runs[id]? = some run
        → completion ∈ run.state.calls .advance
        → completion.result = some result
        → completion.error = none
        → completion.late = false
        → portal.Approved run.state.accountId txHash
        → ∃ current,
            result.txHash = some current
            ∧ (current = txHash ∨ LandedAfter portal.landings txHash current)
  | _ => True

section

variable {portal between after : Portal Listener Step Applicant}

theorem LandedAfter.mono {landings grown : List JsString} {earlier later : JsString}
    (landed : LandedAfter landings earlier later) (known : earlier ∈ landings)
    (grows : landings <+: grown)
    : LandedAfter grown earlier later := by
  obtain ⟨more, rfl⟩ := grows
  refine ⟨List.mem_append_left _ landed.1, ?_⟩
  rw [List.idxOf_append_of_mem known, List.idxOf_append_of_mem landed.1]
  exact landed.2

theorem LandedAfter.trans {landings : List JsString} {first second third : JsString}
    (earlier : LandedAfter landings first second) (later : LandedAfter landings second third)
    : LandedAfter landings first third :=
  ⟨later.1, earlier.2.trans later.2⟩

theorem Portal.KeepsVerdicts.refl (portal : Portal Listener Step Applicant)
    : portal.KeepsVerdicts portal where
  landings := List.prefix_rfl
  verdicts _ txHash approved := ⟨txHash, approved, .inl rfl⟩

theorem Portal.KeepsVerdicts.trans (first : portal.KeepsVerdicts between)
    (second : between.KeepsVerdicts after)
    : portal.KeepsVerdicts after where
  landings := first.landings.trans second.landings
  verdicts accountId txHash approved := by
    obtain ⟨held, still, since⟩ := first.verdicts accountId txHash approved
    obtain ⟨current, now, after_held⟩ := second.verdicts accountId held still
    refine ⟨current, now, ?_⟩
    rcases since with rfl | since
    · exact after_held
    · have mono := since.mono (first.landings.subset approved.1) second.landings
      rcases after_held with rfl | later
      · exact .inr mono
      · exact .inr (mono.trans later)

/-- What leaves the verdicts of approved accounts. -/
theorem Portal.KeepsVerdicts.of_same (landings : portal.landings <+: after.landings)
    (verdicts
      : ∀ accountId txHash,
          portal.Approved accountId txHash
          → after.accounts.kycOf accountId = portal.accounts.kycOf accountId)
    : portal.KeepsVerdicts after where
  landings
  verdicts accountId txHash approved := by
    refine ⟨txHash, ⟨landings.subset approved.1, ?_⟩, .inl rfl⟩
    rw [verdicts accountId txHash approved]
    exact approved.2

-----------------------------------------------------------------------------------------
-- The callback
-----------------------------------------------------------------------------------------

/-- The callback leaves the accounts, or it stores the verdict of the result. -/
theorem onComplete_cases (now : Nat) (accounts : Accounts) (accountId : JsString)
    (completion : RunCompletion OnboardingResult)
    : onComplete now accounts accountId completion = accounts
      ∨ ∃ result current,
          completion.result = some result
          ∧ completion.error = none
          ∧ accounts accountId = some current
          ∧ (completion.late = true → current.kyc.status ≠ .approved)
          ∧ updateAccount accounts accountId { kyc := some (verdict now result) }
            = some (onComplete now accounts accountId completion) := by
  unfold onComplete
  split
  case h_1 current result known reported =>
    split
    case isTrue => exact .inl rfl
    case isFalse no_error =>
      split
      case isTrue => exact .inl rfl
      case isFalse allowed =>
        refine .inr ⟨result, current, reported, by simpa using no_error, known, ?_, ?_⟩
        · simpa using allowed
        · simp [updateAccount, known]
  case h_2 => exact .inl rfl

/-- A result in time becomes the verdict. -/
theorem onComplete_in_time {now : Nat} {accounts : Accounts} {accountId : JsString}
    {completion : RunCompletion OnboardingResult} {result : OnboardingResult}
    {current : AccountRecord} (known : accounts accountId = some current)
    (reported : completion.result = some result) (no_error : completion.error = none)
    (in_time : completion.late = false)
    : (onComplete now accounts accountId completion).kycOf accountId
      = some (verdict now result) := by
  simp [onComplete, known, reported, no_error, in_time, updateAccount, Accounts.kycOf,
    AccountRecord.patched]

/-- What the callback of a result in time may do. -/
def Portal.AllowsResult (portal : Portal Listener Step Applicant) (accountId : JsString)
    (completion : RunCompletion OnboardingResult)
    : Prop :=
  ∀ result txHash,
    completion.result = some result
    → completion.error = none
    → completion.late = false
    → portal.Approved accountId txHash
    → ∃ current,
        result.txHash = some current
        ∧ (current = txHash ∨ LandedAfter portal.landings txHash current)

/-- The verdict of a result, where the account was not approved before or its record landed
after the stored one.
-/
theorem Portal.onComplete_keepsVerdicts {now : Nat} {accountId : JsString}
    {completion : RunCompletion OnboardingResult} (landings : after.landings = portal.landings)
    (accounts : after.accounts = onComplete now portal.accounts accountId completion)
    (allows : portal.AllowsResult accountId completion)
    : portal.KeepsVerdicts after := by
  have grows : portal.landings <+: after.landings := landings ▸ List.prefix_rfl
  rcases onComplete_cases now portal.accounts accountId completion with
    same | ⟨result, current, reported, no_error, known, allowed, updated⟩
  · refine .of_same grows ?_
    intro other txHash _
    rw [accounts, same]
  · rw [← accounts] at updated
    refine { landings := grows, verdicts := ?_ }
    intro other txHash approved
    by_cases here : other = accountId
    · subst here
      have before := approved
      obtain ⟨held, kyc, stored, status, -⟩ := approved
      have in_time : completion.late = false := by
        cases late : completion.late with
        | false => rfl
        | true =>
            have same : current.kyc = kyc := by simpa [Accounts.kycOf, known] using stored
            exact absurd (same ▸ status) (allowed late)
      obtain ⟨next, hash, since⟩ := allows result txHash reported no_error in_time before
      have landed : next ∈ portal.landings := by
        rcases since with rfl | later
        · exact held
        · exact later.1
      refine ⟨next, ⟨landings ▸ landed, verdict now result, ?_, ?_, hash⟩, landings ▸ since⟩
      · rw [kycOf_update updated]
        rfl
      · simp [verdict, hash]
    · refine ⟨txHash, ⟨landings ▸ approved.1, ?_⟩, .inl rfl⟩
      rw [kycOf_update_other updated here]
      exact approved.2

theorem Portal.kycStart_keepsVerdicts {accountId : JsString}
    (started : portal.kycStart accountId = some after)
    : portal.KeepsVerdicts after := by
  obtain ⟨account, known, started⟩ := Option.bind_eq_some_iff.mp started
  split at started
  case isTrue =>
    cases started
    exact .refl portal
  case isFalse open_ =>
    obtain ⟨accounts, updated, rfl⟩ := Option.map_eq_some_iff.mp started
    refine .of_same List.prefix_rfl ?_
    intro other txHash approved
    apply kycOf_update_other updated
    intro same
    subst same
    obtain ⟨-, kyc, stored, status, -⟩ := approved
    have held : account.kyc = kyc := by simpa [Accounts.kycOf, known] using stored
    exact open_ (held ▸ status)

variable [DecidableEq Listener] {config : PortalConfig} {id : Nat}
  {run : PortalRun Listener Step Applicant}

/-- The accounts after a step of a run. -/
theorem Portal.act_accounts {input : RunInput Listener Step OnboardingResult} {now : Nat}
    (acted : portal.act config id run input now = some after)
    : after.landings = portal.landings
      ∧ (run.state.calls input = [] ∧ after.accounts = portal.accounts
        ∨ ∃ completion,
            run.state.calls input = [completion]
            ∧ after.accounts
              = onComplete now portal.accounts run.state.accountId completion) := by
  obtain ⟨state, moved, rfl⟩ := Option.map_eq_some_iff.mp acted
  have calls : state.completions.drop run.state.completions.length = run.state.calls input := by
    rw [RunState.act_completions moved, List.drop_left]
  refine ⟨rfl, ?_⟩
  dsimp only
  rw [calls, RunState.act_accountId moved]
  rcases run.state.calls_cases input with none | ⟨completion, one⟩
  · exact .inl ⟨none, by rw [none]; rfl⟩
  · exact .inr ⟨completion, one, by rw [one]; rfl⟩

theorem Portal.act_keepsVerdicts {input : RunInput Listener Step OnboardingResult} {now : Nat}
    (acted : portal.act config id run input now = some after)
    (allows
      : ∀ completion ∈ run.state.calls input,
          portal.AllowsResult run.state.accountId completion)
    : portal.KeepsVerdicts after := by
  obtain ⟨landings, ⟨-, same⟩ | ⟨completion, one, accounts⟩⟩ := Portal.act_accounts acted
  · exact .of_same (landings ▸ List.prefix_rfl) (fun _ _ _ => by rw [same])
  · refine Portal.onComplete_keepsVerdicts landings accounts (allows completion ?_)
    exact one ▸ List.mem_singleton_self _

theorem Portal.runnerThrows_keepsVerdicts {message : JsString}
    (thrown : portal.runnerThrows config id run message = some after)
    : portal.KeepsVerdicts after :=
  Portal.act_keepsVerdicts thrown (fun _ none => by cases none)

-----------------------------------------------------------------------------------------
-- The steps
-----------------------------------------------------------------------------------------

theorem Portal.startPipeline_keepsVerdicts {cAddr : JsString}
    (started : portal.startPipeline config id run cAddr = some after)
    : portal.KeepsVerdicts after := by
  unfold Portal.startPipeline at started
  split at started
  case isTrue => exact Portal.runnerThrows_keepsVerdicts started
  case isFalse =>
    cases started
    exact .of_same List.prefix_rfl (fun _ _ _ => rfl)

theorem Portal.walletDeployed_keepsVerdicts {wallet : WalletDeployment}
    {failure : Option JsString}
    (deployed : portal.walletDeployed config id run wallet failure = some after)
    : portal.KeepsVerdicts after := by
  unfold Portal.walletDeployed at deployed
  split at deployed
  case h_1 => exact Portal.startPipeline_keepsVerdicts deployed
  case h_2 =>
    dsimp only at deployed
    split at deployed
    case h_1 => exact Portal.runnerThrows_keepsVerdicts deployed
    case h_2 accounts updated =>
      have written
          : portal.KeepsVerdicts
              {
                portal with
                accounts, walletWrites := run.state.accountId :: portal.walletWrites
              } :=
        .of_same List.prefix_rfl (fun other _ _ => kycOf_update_of_none updated rfl other)
      split at deployed
      case h_1 => exact written.trans (Portal.runnerThrows_keepsVerdicts deployed)
      case h_2 => exact written.trans (Portal.startPipeline_keepsVerdicts deployed)

/-- The start of a runner does not touch an account. -/
theorem Portal.begin_frame (fresh : run.state.completed = false)
    (began : portal.begin config run = some after)
    : after.accounts = portal.accounts ∧ after.landings = portal.landings := by
  unfold Portal.begin at began
  dsimp only at began
  split at began
  case h_1 =>
    unfold Portal.startPipeline at began
    rw [if_neg (by simp [fresh])] at began
    cases began
    exact ⟨rfl, rfl⟩
  case h_2 =>
    cases began
    exact ⟨rfl, rfl⟩

/-- A submission leaves the accounts, or it passes its checks and makes the verdict pending. -/
theorem Portal.submit_cases {accountId : JsString} {account : AccountRecord}
    {body : SubmitBody Applicant} {limited saved : Bool}
    (submitted : portal.submit config accountId account body limited saved = some after)
    : after.landings = portal.landings
      ∧ (after.accounts = portal.accounts
          ∧ ((portal.checkSubmit config accountId body limited).isOk = true
            → portal.accounts accountId = none)
        ∨ (portal.checkSubmit config accountId body limited).isOk = true
          ∧ updateAccount portal.accounts accountId
              { kyc := some { account.kyc with status := .pending } }
            = some after.accounts) := by
  unfold Portal.submit at submitted
  split at submitted
  case h_1 refusal refused =>
    cases submitted
    exact ⟨rfl, .inl ⟨rfl, fun passed => by simp [refused, Except.isOk, Except.toBool] at passed⟩⟩
  case h_2 answer applicant disclose passed =>
    dsimp only at submitted
    have ok : (portal.checkSubmit config accountId body limited).isOk = true := by
      rw [passed]
      rfl
    split at submitted
    case h_1 unknown =>
      cases submitted
      exact ⟨rfl, .inl ⟨rfl, fun _ => by simpa [updateAccount] using unknown⟩⟩
    case h_2 accounts updated =>
      split at submitted
      case isTrue =>
        obtain ⟨same, landings⟩ := Portal.begin_frame rfl submitted
        exact ⟨landings, .inr ⟨ok, same ▸ updated⟩⟩
      case isFalse =>
        cases submitted
        exact ⟨rfl, .inr ⟨ok, updated⟩⟩

/-- A submission that passes its checks loses an approval, and no other one does. -/
theorem Portal.submit_keepsVerdicts_iff {accountId : JsString} {account : AccountRecord}
    {body : SubmitBody Applicant} {limited saved : Bool}
    (submitted : portal.submit config accountId account body limited saved = some after)
    : portal.KeepsVerdicts after
      ↔ ((portal.checkSubmit config accountId body limited).isOk = true
          → ∀ txHash, ¬ portal.Approved accountId txHash) := by
  obtain ⟨landings, ⟨same, unknown⟩ | ⟨passed, updated⟩⟩ := Portal.submit_cases submitted
  · refine iff_of_true (.of_same (landings ▸ List.prefix_rfl) (fun _ _ _ => by rw [same])) ?_
    intro passed txHash approved
    obtain ⟨-, kyc, stored, -⟩ := approved
    simp [Accounts.kycOf, unknown passed] at stored
  · constructor
    · intro kept _ txHash approved
      obtain ⟨current, ⟨-, kyc, stored, status, -⟩, -⟩ := kept.verdicts accountId txHash approved
      rw [kycOf_update updated] at stored
      cases stored
      cases status
    · intro never
      refine .of_same (landings ▸ List.prefix_rfl) ?_
      intro other txHash approved
      apply kycOf_update_other updated
      intro same
      exact never passed txHash (same ▸ approved)

/-- The last call of a listener brings the result in time. -/
theorem Portal.advance_keepsVerdicts_iff {now : Nat}
    (known : portal.runs[id]? = some run)
    (acted : portal.act config id run .advance now = some after)
    : portal.KeepsVerdicts after ↔ portal.Guarded config (.act id .advance now) := by
  constructor
  · intro kept other completion result txHash found called reported no_error in_time approved
    cases known.symm.trans found
    obtain ⟨landings, ⟨none, -⟩ | ⟨called_with, one, accounts⟩⟩ := Portal.act_accounts acted
    · rw [none] at called
      cases called
    · rw [one] at called
      obtain rfl := List.mem_singleton.mp called
      obtain ⟨current, ⟨-, kyc, stored, -, hash⟩, since⟩ :=
        kept.verdicts run.state.accountId txHash approved
      obtain ⟨-, before, held, -⟩ := approved
      obtain ⟨record, exists_, -⟩ := Option.map_eq_some_iff.mp held
      rw [accounts, onComplete_in_time exists_ reported no_error in_time] at stored
      cases stored
      exact ⟨current, hash, landings ▸ since⟩
  · intro guarded
    apply Portal.act_keepsVerdicts acted
    intro completion called result txHash reported no_error in_time approved
    exact guarded run completion result txHash known called reported no_error in_time approved

/-- A step keeps the approvals exactly if it is guarded; one case for each input. -/
theorem Portal.step_keepsVerdicts_iff {input : PortalInput Listener Step Applicant}
    (stepped : (portalMachine config).step portal input = some after)
    : portal.KeepsVerdicts after ↔ portal.Guarded config input := by
  cases input with
  | register accountId email =>
      refine iff_of_true ?_ trivial
      obtain ⟨new, ran⟩ := Option.ite_none_left_eq_some.mp stepped
      obtain rfl := Option.some.inj ran
      refine .of_same List.prefix_rfl ?_
      intro other txHash approved
      have different : other ≠ accountId := by
        intro same
        subst same
        obtain ⟨-, kyc, stored, -⟩ := approved
        have unknown : portal.accounts other = none := by simpa using new
        simp [Accounts.kycOf, unknown] at stored
      simp [Accounts.kycOf, Function.update_of_ne different]
  | kycStart accountId => exact iff_of_true (Portal.kycStart_keepsVerdicts stepped) trivial
  | submitArrives accountId =>
      obtain ⟨account, -, rfl⟩ := Option.map_eq_some_iff.mp stepped
      exact iff_of_true (.of_same List.prefix_rfl (fun _ _ _ => rfl)) trivial
  | submit request body limited saved =>
      obtain ⟨⟨accountId, account⟩, found, submitted⟩ := Option.bind_eq_some_iff.mp stepped
      have taken := Portal.submit_keepsVerdicts_iff submitted
      constructor
      · intro kept other otherAccount txHash same passed approved
        cases found.symm.trans same
        have here
            : ({ portal with requests := portal.requests.eraseIdx request }
                : Portal Listener Step Applicant).KeepsVerdicts after :=
          { landings := kept.landings, verdicts := kept.verdicts }
        exact taken.mp here passed txHash approved
      · intro guarded
        have here := taken.mpr (fun passed txHash approved =>
          guarded accountId account txHash found passed approved)
        exact { landings := here.landings, verdicts := here.verdicts }
  | walletDeployed id wallet failure =>
      obtain ⟨run, -, deployed⟩ := Option.bind_eq_some_iff.mp stepped
      have ran := (Option.ite_none_right_eq_some.mp deployed).2
      exact iff_of_true (Portal.walletDeployed_keepsVerdicts ran) trivial
  | walletFailed id message =>
      obtain ⟨run, -, thrown⟩ := Option.bind_eq_some_iff.mp stepped
      have ran := (Option.ite_none_right_eq_some.mp thrown).2
      exact iff_of_true (Portal.runnerThrows_keepsVerdicts ran) trivial
  | landed id txHash =>
      refine iff_of_true ?_ trivial
      obtain ⟨run, -, landed⟩ := Option.bind_eq_some_iff.mp stepped
      split at landed
      case h_1 =>
        obtain rfl := Option.some.inj (Option.ite_none_left_eq_some.mp landed).2
        exact .of_same (List.prefix_append _ _) (fun _ _ _ => rfl)
      case h_2 => cases landed
  | pipelineDone id result now =>
      refine iff_of_true ?_ trivial
      obtain ⟨run, -, done⟩ := Option.bind_eq_some_iff.mp stepped
      split at done
      case h_1 =>
        apply Portal.act_keepsVerdicts (Option.ite_none_right_eq_some.mp done).2
        intro completion called other txHash reported no_error in_time
        simp only [RunState.calls] at called
        split at called
        · obtain rfl := List.mem_singleton.mp called
          cases in_time
        · cases called
      case h_2 => cases done
  | pipelineFailed id message =>
      refine iff_of_true ?_ trivial
      obtain ⟨run, -, failed⟩ := Option.bind_eq_some_iff.mp stepped
      split at failed
      case h_1 => exact Portal.runnerThrows_keepsVerdicts failed
      case h_2 => cases failed
  | act id input now =>
      obtain ⟨run, known, acted⟩ := Option.bind_eq_some_iff.mp stepped
      obtain ⟨free, ran⟩ := Option.ite_none_left_eq_some.mp acted
      cases input with
      | advance => exact Portal.advance_keepsVerdicts_iff known ran
      | resolve result => exact absurd rfl free
      | reject message => exact absurd rfl free
      | emit step =>
          exact iff_of_true (Portal.act_keepsVerdicts ran (fun _ none => by cases none)) trivial
      | timeout =>
          exact iff_of_true (Portal.act_keepsVerdicts ran (fun _ none => by cases none)) trivial
      | evict =>
          exact iff_of_true (Portal.act_keepsVerdicts ran (fun _ none => by cases none)) trivial
      | subscribe accountId listener =>
          exact iff_of_true (Portal.act_keepsVerdicts ran (fun _ none => by cases none)) trivial
      | unsubscribe handle =>
          exact iff_of_true (Portal.act_keepsVerdicts ran (fun _ none => by cases none)) trivial
  | onrampDone accountId fundingAccount onramp =>
      obtain ⟨accounts, updated, rfl⟩ := Option.map_eq_some_iff.mp stepped
      refine iff_of_true (.of_same List.prefix_rfl ?_) trivial
      intro other txHash approved
      exact kycOf_update_of_none updated rfl other

/-- Throughout a run, approvals are kept exactly if every step of the run is guarded. -/
theorem approvals_kept_iff (config : PortalConfig) (accounts : Accounts)
    (landings : List JsString) (inputs : List (PortalInput Listener Step Applicant))
    : (∀ before middle after,
          inputs = before ++ middle ++ after
          → ((portalMachine config).run (Portal.boot accounts landings) before).KeepsVerdicts
              ((portalMachine config).run (Portal.boot accounts landings) (before ++ middle)))
      ↔ ∀ portal input,
          (portal, input) ∈ (portalMachine config).trace (Portal.boot accounts landings) inputs
          → portal.Guarded config input := by
  constructor
  · intro kept portal input member
    obtain ⟨before, after, rfl, rfl, later, stepped⟩ := Machine.mem_trace member
    have here := kept before [input] after (by simp)
    rw [Machine.run_append, Machine.run_cons, Machine.run_nil, Machine.next_of_step stepped]
      at here
    exact (Portal.step_keepsVerdicts_iff stepped).mp here
  · intro guarded before middle after split
    subst split
    rw [Machine.run_append]
    refine Machine.run_of_trace ?_ (.refl _)
    intro given input later member stepped kept
    have traced := Machine.mem_trace_append (Machine.mem_trace_rest member) after
    exact kept.trans ((Portal.step_keepsVerdicts_iff stepped).mpr (guarded given input traced))

end

/-- An account registers and is approved. -/
def approvedOnce : List (PortalInput Nat Nat Unit) :=
  [
    .register (js "account") (js "a@b.cd"),
    .submitArrives (js "account"),
    .submit 0 (sampleBody (js "approved")) false true,
    .walletDeployed 0 { address := js "CA", keyId := js "key", deployTxHash := js "deploy" } none,
    .landed 0 (js "tx"),
    .pipelineDone 0
      {
        ok := true, subject := js "CA", txHash := some (js "tx"), claimBitmap := some 5
        revocationIndex := some 1
      }
      1700000000,
    .act 0 .advance 1700000000
  ]

/-- The account is approved, and another one registers and submits. -/
theorem approvals_kept_iff_other
    : ((portalMachine sampleConfig).run (Portal.boot (fun _ => none) [])
          approvedOnce).Approved (js "account") (js "tx")
      ∧ ((portalMachine sampleConfig).run (Portal.boot (fun _ => none) [])
          approvedOnce).KeepsVerdicts
        ((portalMachine sampleConfig).run (Portal.boot (fun _ => none) [])
          (approvedOnce ++ [.register (js "other") (js "c@d.ef"), .submitArrives (js "other")])) := by
  refine ⟨⟨List.mem_cons_self, _, rfl, rfl, rfl⟩, ?_⟩
  refine (approvals_kept_iff sampleConfig (fun _ => none) [] _).mpr ?_ approvedOnce _ []
    (List.append_nil _).symm
  intro portal input member
  rcases Machine.mem_trace_cons.mp member with ⟨rfl, rfl, -⟩ | member
  · trivial
  rcases Machine.mem_trace_cons.mp member with ⟨rfl, rfl, -⟩ | member
  · trivial
  rcases Machine.mem_trace_cons.mp member with ⟨rfl, rfl, -⟩ | member
  · -- No record has landed yet.
    rintro accountId account txHash - - ⟨landed, -⟩
    cases landed
  rcases Machine.mem_trace_cons.mp member with ⟨rfl, rfl, -⟩ | member
  · trivial
  rcases Machine.mem_trace_cons.mp member with ⟨rfl, rfl, -⟩ | member
  · trivial
  rcases Machine.mem_trace_cons.mp member with ⟨rfl, rfl, -⟩ | member
  · trivial
  rcases Machine.mem_trace_cons.mp member with ⟨rfl, rfl, -⟩ | member
  · -- The account's verdict is pending.
    rintro run completion result txHash found - - - - ⟨-, kyc, stored, status, -⟩
    cases found
    cases stored
    cases status
  rcases Machine.mem_trace_cons.mp member with ⟨rfl, rfl, -⟩ | member
  · trivial
  rcases Machine.mem_trace_cons.mp member with ⟨rfl, rfl, -⟩ | member
  · trivial
  cases member

/-- An approved account submits again, and its verdict is pending. -/
theorem approval_is_lost
    : ¬ ∀ before middle : List (PortalInput Nat Nat Unit),
        (∀ input ∈ before ++ middle, input.saved = true)
        → ((portalMachine sampleConfig).run (Portal.boot (fun _ => none) []) before).KeepsVerdicts
            ((portalMachine sampleConfig).run (Portal.boot (fun _ => none) []) (before ++ middle)) := by
  intro kept
  have lost :=
    kept approvedOnce
      [
        .submitArrives (js "account"),
        .submit 0 (sampleBody (js "rejected")) false true
      ]
      (by simp [approvedOnce, PortalInput.saved])
  have approved
      : ((portalMachine sampleConfig).run (Portal.boot (fun _ => none) [])
            approvedOnce).Approved (js "account") (js "tx") :=
    ⟨List.mem_cons_self, _, rfl, rfl, rfl⟩
  obtain ⟨current, ⟨-, kyc, stored, status, -⟩, -⟩ := lost.verdicts _ _ approved
  cases stored
  cases status

end StellarOnramp.Onboard
