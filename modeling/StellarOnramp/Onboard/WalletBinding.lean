import StellarOnramp.Onboard.Portal

/-! The wallet of an account is set once in the life of a process, and every pipeline is started
for it. The runner reads the account again after its own deployment, and the account changes in
memory at once.
-/

namespace StellarOnramp.Onboard

open JsText
open Transitions

variable {Listener Step Applicant : Type}

/-- Each account was given a wallet at most once, it has one then, and every pipeline that was
started for an account has its wallet.
-/
structure Portal.WalletsFixed (portal : Portal Listener Step Applicant) : Prop where
  pipelines
    : ∀ call ∈ portal.pipelines, portal.accounts.walletOf call.accountId = some call.cAddr
  once : portal.walletWrites.Nodup
  written : ∀ accountId ∈ portal.walletWrites, (portal.accounts.walletOf accountId).isSome = true

/-- What is done to a portal changes no wallet that is set. -/
structure Portal.KeepsWallets (portal after : Portal Listener Step Applicant) : Prop where
  wallets
    : ∀ accountId address,
        portal.accounts.walletOf accountId = some address
        → after.accounts.walletOf accountId = some address
  fixed : portal.WalletsFixed → after.WalletsFixed

section

variable {portal between after : Portal Listener Step Applicant}

theorem Portal.KeepsWallets.refl (portal : Portal Listener Step Applicant)
    : portal.KeepsWallets portal where
  wallets _ _ set := set
  fixed fixed := fixed

theorem Portal.KeepsWallets.trans (first : portal.KeepsWallets between)
    (second : between.KeepsWallets after)
    : portal.KeepsWallets after where
  wallets accountId address set :=
    second.wallets accountId address (first.wallets accountId address set)
  fixed fixed := second.fixed (first.fixed fixed)

/-- What leaves all wallets and starts no pipeline. -/
theorem Portal.KeepsWallets.of_same
    (wallets
      : ∀ accountId, after.accounts.walletOf accountId = portal.accounts.walletOf accountId)
    (pipelines : after.pipelines = portal.pipelines)
    (writes : after.walletWrites = portal.walletWrites)
    : portal.KeepsWallets after where
  wallets accountId address set := (wallets accountId).trans set
  fixed fixed :=
    {
      pipelines := by
        intro call member
        rw [wallets]
        exact fixed.pipelines call (pipelines ▸ member)
      once := writes ▸ fixed.once
      written := by
        intro accountId member
        rw [wallets]
        exact fixed.written accountId (writes ▸ member)
    }

/-- A wallet is set for an account that has none. -/
theorem Portal.setWallet_keepsWallets {accounts : Accounts} {accountId : JsString}
    {patch : AccountPatch} {address : JsString}
    (unset : portal.accounts.walletOf accountId = none)
    (named : patch.walletCAddr = some address)
    (updated : updateAccount portal.accounts accountId patch = some accounts)
    : portal.KeepsWallets
        { portal with accounts, walletWrites := accountId :: portal.walletWrites } := by
  have wallets (other held : JsString) (set : portal.accounts.walletOf other = some held)
      : accounts.walletOf other = some held := by
    have different : other ≠ accountId := by
      intro same
      subst same
      cases unset.symm.trans set
    rw [Accounts.walletOf, updateAccount_other updated different]
    exact set
  have here : accounts.walletOf accountId = some address := by
    rw [walletOf_update updated, named]
    rfl
  refine { wallets, fixed := fun fixed => { pipelines := ?_, once := ?_, written := ?_ } }
  · intro call member
    exact wallets _ _ (fixed.pipelines call member)
  · refine List.nodup_cons.mpr ⟨?_, fixed.once⟩
    intro before
    have set := fixed.written accountId before
    rw [unset] at set
    cases set
  · intro other member
    rcases List.mem_cons.mp member with rfl | before
    · rw [here]
      rfl
    · obtain ⟨held, set⟩ := Option.isSome_iff_exists.mp (fixed.written other before)
      rw [wallets other held set]
      rfl

theorem Portal.kycStart_keepsWallets {accountId : JsString}
    (started : portal.kycStart accountId = some after)
    : portal.KeepsWallets after := by
  obtain ⟨account, -, started⟩ := Option.bind_eq_some_iff.mp started
  split at started
  case isTrue =>
    cases started
    exact .refl portal
  case isFalse =>
    obtain ⟨accounts, updated, rfl⟩ := Option.map_eq_some_iff.mp started
    exact .of_same (walletOf_update_of_none updated rfl) rfl rfl

theorem onComplete_walletOf (now : Nat) (accounts : Accounts) (accountId other : JsString)
    (completion : RunCompletion OnboardingResult)
    : (onComplete now accounts accountId completion).walletOf other = accounts.walletOf other := by
  unfold onComplete
  split
  case h_1 current result known reported =>
    split
    · rfl
    split
    · rfl
    cases updated : updateAccount accounts accountId { kyc := some (verdict now result) } with
    | none => rfl
    | some after => exact walletOf_update_of_none updated rfl other
  case h_2 => rfl

/-- The callbacks of a run change no wallet, by induction on the calls. -/
theorem foldl_onComplete_walletOf (now : Nat) (accounts : Accounts) (accountId other : JsString)
    (calls : List (RunCompletion OnboardingResult))
    : (calls.foldl
          (fun accounts completion => onComplete now accounts accountId completion)
          accounts).walletOf other
      = accounts.walletOf other := by
  induction calls generalizing accounts with
  | nil => rfl
  | cons call rest ih => rw [List.foldl_cons, ih, onComplete_walletOf]

variable [DecidableEq Listener] {config : PortalConfig} {id : Nat}
  {run : PortalRun Listener Step Applicant}

theorem Portal.act_keepsWallets {input : RunInput Listener Step OnboardingResult} {now : Nat}
    (acted : portal.act config id run input now = some after)
    : portal.KeepsWallets after := by
  obtain ⟨state, -, rfl⟩ := Option.map_eq_some_iff.mp acted
  exact .of_same (fun other => foldl_onComplete_walletOf now _ _ other _) rfl rfl

theorem Portal.runnerThrows_keepsWallets {message : JsString}
    (thrown : portal.runnerThrows config id run message = some after)
    : portal.KeepsWallets after :=
  Portal.act_keepsWallets thrown

/-- A pipeline is started for the wallet of its account. -/
theorem Portal.startPipeline_keepsWallets {cAddr : JsString}
    (wallet : portal.accounts.walletOf run.state.accountId = some cAddr)
    (started : portal.startPipeline config id run cAddr = some after)
    : portal.KeepsWallets after := by
  unfold Portal.startPipeline at started
  split at started
  case isTrue => exact Portal.runnerThrows_keepsWallets started
  case isFalse =>
    cases started
    refine { wallets := fun _ _ set => set, fixed := fun fixed => ?_ }
    refine { pipelines := ?_, once := fixed.once, written := fixed.written }
    intro call member
    rcases List.mem_cons.mp member with rfl | before
    · exact wallet
    · exact fixed.pipelines call before

theorem Portal.walletDeployed_keepsWallets {wallet : WalletDeployment}
    {failure : Option JsString}
    (deployed : portal.walletDeployed config id run wallet failure = some after)
    : portal.KeepsWallets after := by
  unfold Portal.walletDeployed at deployed
  split at deployed
  case h_1 fresh set => exact Portal.startPipeline_keepsWallets set deployed
  case h_2 unset =>
    dsimp only at deployed
    split at deployed
    case h_1 => exact Portal.runnerThrows_keepsWallets deployed
    case h_2 accounts updated =>
      have written := Portal.setWallet_keepsWallets unset rfl updated
      have here : accounts.walletOf run.state.accountId = some wallet.address := by
        rw [walletOf_update updated]
        rfl
      split at deployed
      case h_1 => exact written.trans (Portal.runnerThrows_keepsWallets deployed)
      case h_2 => exact written.trans (Portal.startPipeline_keepsWallets here deployed)

theorem Portal.begin_keepsWallets (began : portal.begin config run = some after)
    : portal.KeepsWallets after := by
  have added : portal.KeepsWallets { portal with runs := portal.runs ++ [run] } :=
    .of_same (fun _ => rfl) rfl rfl
  unfold Portal.begin at began
  dsimp only at began
  split at began
  case h_1 cAddr set => exact added.trans (Portal.startPipeline_keepsWallets set began)
  case h_2 =>
    cases began
    exact added

theorem Portal.submit_keepsWallets {accountId : JsString} {account : AccountRecord}
    {body : SubmitBody Applicant} {limited saved : Bool}
    (submitted : portal.submit config accountId account body limited saved = some after)
    : portal.KeepsWallets after := by
  unfold Portal.submit at submitted
  split at submitted
  case h_1 =>
    cases submitted
    exact .refl portal
  case h_2 =>
    dsimp only at submitted
    split at submitted
    case h_1 =>
      cases submitted
      exact .refl portal
    case h_2 accounts updated =>
      have pending : portal.KeepsWallets { portal with accounts } :=
        .of_same (walletOf_update_of_none updated rfl) rfl rfl
      split at submitted
      case isTrue => exact pending.trans (Portal.begin_keepsWallets submitted)
      case isFalse =>
        cases submitted
        exact pending

/-- No step changes a wallet that is set. -/
theorem Portal.step_keepsWallets {input : PortalInput Listener Step Applicant}
    (stepped : (portalMachine config).step portal input = some after)
    : portal.KeepsWallets after := by
  cases input with
  | register accountId email =>
      obtain ⟨new, ran⟩ := Option.ite_none_left_eq_some.mp stepped
      obtain rfl := Option.some.inj ran
      refine .of_same (fun other => ?_) rfl rfl
      by_cases same : other = accountId
      · subst same
        have unknown : portal.accounts other = none := by simpa using new
        simp [Accounts.walletOf, unknown, newAccount]
      · simp [Accounts.walletOf, Function.update_of_ne same]
  | kycStart accountId => exact Portal.kycStart_keepsWallets stepped
  | submitArrives accountId =>
      obtain ⟨account, -, rfl⟩ := Option.map_eq_some_iff.mp stepped
      exact .of_same (fun _ => rfl) rfl rfl
  | submit request body limited saved =>
      obtain ⟨⟨accountId, account⟩, -, submitted⟩ := Option.bind_eq_some_iff.mp stepped
      have taken
          : portal.KeepsWallets { portal with requests := portal.requests.eraseIdx request } :=
        .of_same (fun _ => rfl) rfl rfl
      exact taken.trans (Portal.submit_keepsWallets submitted)
  | walletDeployed id wallet failure =>
      obtain ⟨run, -, deployed⟩ := Option.bind_eq_some_iff.mp stepped
      exact Portal.walletDeployed_keepsWallets (Option.ite_none_right_eq_some.mp deployed).2
  | walletFailed id message =>
      obtain ⟨run, -, thrown⟩ := Option.bind_eq_some_iff.mp stepped
      exact Portal.runnerThrows_keepsWallets (Option.ite_none_right_eq_some.mp thrown).2
  | landed id txHash =>
      obtain ⟨run, -, landed⟩ := Option.bind_eq_some_iff.mp stepped
      split at landed
      case h_1 =>
        obtain rfl := Option.some.inj (Option.ite_none_left_eq_some.mp landed).2
        exact .of_same (fun _ => rfl) rfl rfl
      case h_2 => cases landed
  | pipelineDone id result now =>
      obtain ⟨run, -, done⟩ := Option.bind_eq_some_iff.mp stepped
      split at done
      case h_1 => exact Portal.act_keepsWallets (Option.ite_none_right_eq_some.mp done).2
      case h_2 => cases done
  | pipelineFailed id message =>
      obtain ⟨run, -, failed⟩ := Option.bind_eq_some_iff.mp stepped
      split at failed
      case h_1 => exact Portal.runnerThrows_keepsWallets failed
      case h_2 => cases failed
  | act id input now =>
      obtain ⟨run, -, acted⟩ := Option.bind_eq_some_iff.mp stepped
      exact Portal.act_keepsWallets (Option.ite_none_left_eq_some.mp acted).2
  | onrampDone accountId fundingAccount onramp =>
      obtain ⟨accounts, updated, rfl⟩ := Option.map_eq_some_iff.mp stepped
      exact .of_same (walletOf_update_of_none updated rfl) rfl rfl

/-- A run changes no wallet that was set before it, by induction on its steps. -/
theorem Portal.run_keepsWallets (portal : Portal Listener Step Applicant)
    (inputs : List (PortalInput Listener Step Applicant))
    : portal.KeepsWallets ((portalMachine config).run portal inputs) := by
  have kept : (portalMachine config).Preserves (fun given => portal.KeepsWallets given) := by
    intro given input later kept stepped
    exact kept.trans (Portal.step_keepsWallets stepped)
  exact kept.run (.refl portal) inputs

/-- In every order of steps, each account is given a wallet at most once and keeps it, and
every pipeline is started for it.
-/
theorem wallet_write_once (config : PortalConfig) (accounts : Accounts)
    (landings : List JsString) (before after : List (PortalInput Listener Step Applicant))
    : (∀ accountId address,
          ((portalMachine config).run (Portal.boot accounts landings) before).accounts.walletOf
              accountId
            = some address
          → ((portalMachine config).run (Portal.boot accounts landings)
                (before ++ after)).accounts.walletOf accountId
            = some address)
      ∧ ((portalMachine config).run (Portal.boot accounts landings)
            (before ++ after)).WalletsFixed := by
  have booted
      : (Portal.boot accounts landings : Portal Listener Step Applicant).WalletsFixed :=
    {
      pipelines := fun _ member => by cases member
      once := List.nodup_nil
      written := fun _ member => by cases member
    }
  refine ⟨?_, (Portal.run_keepsWallets (.boot accounts landings) (before ++ after)).fixed booted⟩
  rw [Machine.run_append]
  exact (Portal.run_keepsWallets _ after).wallets

end

/-- A run times out, and a retry deploys its wallet first. -/
def retriedDeploy : List (PortalInput Nat Nat Unit) :=
  [
    .register (js "account") (js "a@b.cd"),
    .submitArrives (js "account"),
    .submit 0 (sampleBody (js "approved")) false true,
    .act 0 .timeout 0,
    .act 0 .advance 0,
    .submitArrives (js "account"),
    .submit 0 (sampleBody (js "approved")) false true,
    .walletDeployed 1 { address := js "CB", keyId := js "b", deployTxHash := js "b" } none
  ]

/-- The wallet of the run that timed out. -/
def lateDeploy : List (PortalInput Nat Nat Unit) :=
  [.walletDeployed 0 { address := js "CA", keyId := js "a", deployTxHash := js "a" } none]

/-- The wallet of the first run is dropped with it. -/
theorem wallet_write_once_retried
    : ((portalMachine sampleConfig).run (Portal.boot (fun _ => none) [])
          (retriedDeploy ++ lateDeploy)).accounts.walletOf (js "account")
        = some (js "CB")
      ∧ ((portalMachine sampleConfig).run (Portal.boot (fun _ => none) [])
          (retriedDeploy ++ lateDeploy)).pipelines.map PipelineCall.cAddr
        = [js "CB"]
      ∧ ((portalMachine sampleConfig).run (Portal.boot (fun _ => none) [])
          (retriedDeploy ++ lateDeploy)).WalletsFixed := by
  obtain ⟨kept, pinned⟩ :=
    wallet_write_once sampleConfig (fun _ => none) [] retriedDeploy lateDeploy
  exact ⟨kept (js "account") (js "CB") rfl, rfl, pinned⟩

end StellarOnramp.Onboard
