import StellarOnramp.Onboard.Accounts
import StellarOnramp.Onboard.RunRegistry

/-! The verification runs of the portal in one process: requests, the wallet deployment, the
pipeline and its result, in every order in which the event loop can take them. What happens
between two awaits is one step.
-/

namespace StellarOnramp.Onboard

open Broadcast
open JsText
open Transitions

-----------------------------------------------------------------------------------------
-- Data
-----------------------------------------------------------------------------------------

structure PortalAccountError where
  status : Nat
  code : JsString
  message : JsString
  deriving DecidableEq

/-- What the mock provider is told to answer. -/
inductive Answer where
  | green
  | red
  deriving DecidableEq

/-- What the pipeline returns; there is a hash if a record landed. -/
structure OnboardingResult where
  ok : Bool
  subject : JsString
  txHash : Option JsString
  claimBitmap : Option Nat
  revocationIndex : Option Nat

/-- A deployed wallet. -/
structure WalletDeployment where
  address : JsString
  keyId : JsString
  deployTxHash : JsString

/-- A call of the pipeline, with the account whose run makes it. -/
structure PipelineCall (Applicant : Type) where
  accountId : JsString
  cAddr : JsString
  answer : Answer
  applicant : Applicant
  disclose : List JsString

/-- What a runner awaits. -/
inductive RunnerStage where
  | deploying
  /-- The pipeline, with the hash of the record that it has landed. -/
  | piping (cAddr : JsString) (landed : Option JsString)
  | over
  deriving DecidableEq

/-- A run with what its runner knows. -/
structure PortalRun (Listener Step Applicant : Type) where
  state : RunState Listener Step OnboardingResult
  answer : Answer
  applicant : Applicant
  disclose : List JsString
  stage : RunnerStage

/-- The parts of a request body, or why they are refused. -/
structure SubmitBody (Applicant : Type) where
  scenario : Except PortalAccountError JsString
  applicant : Except PortalAccountError Applicant
  disclose : Except PortalAccountError (List JsString)

inductive SubmitRefusal where
  | error (error : PortalAccountError)
  /-- The page can reattach to the run. -/
  | runInProgress (runId : Nat)

structure PortalConfig where
  timeoutMs : Nat
  chainEnabled : Bool
  maxActiveRuns : Nat

/-- The process and, of the chain, the hashes of the records that landed, in their order. The
pipelines that were started and the accounts that were given a wallet are kept for the record.
-/
structure Portal (Listener Step Applicant : Type) where
  accounts : Accounts
  runs : List (PortalRun Listener Step Applicant)
  /-- Submissions whose body is awaited, with the account as it was before. -/
  requests : List (JsString × AccountRecord)
  landings : List JsString
  pipelines : List (PipelineCall Applicant)
  walletWrites : List JsString

variable {Listener Step Applicant : Type}

/-- A process that starts. -/
def Portal.boot (accounts : Accounts) (landings : List JsString)
    : Portal Listener Step Applicant where
  accounts
  runs := []
  requests := []
  landings
  pipelines := []
  walletWrites := []

def Portal.registry (portal : Portal Listener Step Applicant)
    : RunRegistry Listener Step OnboardingResult :=
  { runs := portal.runs.map PortalRun.state }

-----------------------------------------------------------------------------------------
-- The end of a run
-----------------------------------------------------------------------------------------

/-- The verdict that a result stands for. -/
def verdict (now : Nat) (result : OnboardingResult) : AccountKyc where
  status := if result.txHash.isSome then .approved else .rejected
  sessionId := none
  claimBitmap := result.claimBitmap
  revocationIndex := result.revocationIndex
  txHash := result.txHash
  verifiedAt := if result.txHash.isSome then some now else none

/-- The callback of a run: a fault is not a rejection, and a late result does not replace an
approval.
-/
def onComplete (now : Nat) (accounts : Accounts) (accountId : JsString)
    (completion : RunCompletion OnboardingResult)
    : Accounts :=
  match accounts accountId, completion.result with
  | some current, some result =>
      if completion.error.isSome then
        accounts
      else if completion.late && current.kyc.status = .approved then
        accounts
      else
        (updateAccount accounts accountId { kyc := some (verdict now result) }).getD accounts
  | _, _ => accounts

/-- A step of a run in the registry, with the calls of its callback. -/
def Portal.act [DecidableEq Listener] (config : PortalConfig)
    (portal : Portal Listener Step Applicant) (id : Nat)
    (run : PortalRun Listener Step Applicant)
    (input : RunInput Listener Step OnboardingResult) (now : Nat)
    : Option (Portal Listener Step Applicant) :=
  (run.state.act config.timeoutMs input).map (fun state =>
    let calls := state.completions.drop run.state.completions.length
    {
      portal with
      runs := portal.runs.set id { run with state }
      accounts :=
        calls.foldl
          (fun accounts completion => onComplete now accounts state.accountId completion)
          portal.accounts
    })

-----------------------------------------------------------------------------------------
-- The runner
-----------------------------------------------------------------------------------------

def abandonedMessage : JsString :=
  js "run abandoned before the pipeline started (timeout); nothing was written"

/-- The runner throws. -/
def Portal.runnerThrows [DecidableEq Listener] (config : PortalConfig)
    (portal : Portal Listener Step Applicant) (id : Nat)
    (run : PortalRun Listener Step Applicant) (message : JsString)
    : Option (Portal Listener Step Applicant) :=
  portal.act config id { run with stage := .over } (.reject message) 0

/-- The runner knows its wallet: a run that was abandoned ends here. -/
def Portal.startPipeline [DecidableEq Listener] (config : PortalConfig)
    (portal : Portal Listener Step Applicant) (id : Nat)
    (run : PortalRun Listener Step Applicant) (cAddr : JsString)
    : Option (Portal Listener Step Applicant) :=
  if run.state.completed then
    portal.runnerThrows config id run abandonedMessage
  else
    some
      {
        portal with
        runs := portal.runs.set id { run with stage := .piping cAddr none }
        pipelines :=
          {
            accountId := run.state.accountId, cAddr, answer := run.answer
            applicant := run.applicant, disclose := run.disclose
          }
          :: portal.pipelines
      }

/-- The runner has a wallet. Another run may have set one, and that one is kept. A write that
fails ends the runner and leaves the account changed.
-/
def Portal.walletDeployed [DecidableEq Listener] (config : PortalConfig)
    (portal : Portal Listener Step Applicant) (id : Nat)
    (run : PortalRun Listener Step Applicant) (wallet : WalletDeployment)
    (failure : Option JsString)
    : Option (Portal Listener Step Applicant) :=
  match portal.accounts.walletOf run.state.accountId with
  | some fresh => portal.startPipeline config id run fresh
  | none =>
      let patch : AccountPatch :=
        {
          walletCAddr := some wallet.address
          walletKeyId := some wallet.keyId
          walletDeployTxHash := some wallet.deployTxHash
        }
      match updateAccount portal.accounts run.state.accountId patch with
      | none => portal.runnerThrows config id run (js "sign in to continue")
      | some accounts =>
          let portal :=
            { portal with accounts, walletWrites := run.state.accountId :: portal.walletWrites }
          match failure with
          | some message => portal.runnerThrows config id run message
          | none => portal.startPipeline config id run wallet.address

/-- A runner starts: it deploys a wallet if the account has none. -/
def Portal.begin [DecidableEq Listener] (config : PortalConfig)
    (portal : Portal Listener Step Applicant) (run : PortalRun Listener Step Applicant)
    : Option (Portal Listener Step Applicant) :=
  let id := portal.runs.length
  let portal := { portal with runs := portal.runs ++ [run] }
  match portal.accounts.walletOf run.state.accountId with
  | some cAddr => portal.startPipeline config id run cAddr
  | none => some portal

-----------------------------------------------------------------------------------------
-- Requests
-----------------------------------------------------------------------------------------

/-- The checks of a submission after its body was read, in their order. -/
def Portal.checkSubmit (config : PortalConfig) (portal : Portal Listener Step Applicant)
    (accountId : JsString) (body : SubmitBody Applicant) (limited : Bool)
    : Except SubmitRefusal (Answer × Applicant × List JsString) := do
  let scenario ← body.scenario.mapError .error
  if scenario ≠ js "approved" ∧ scenario ≠ js "rejected" then
    throw (.error
      {
        status := 400, code := js "invalid_field"
        message := js "\"scenario\" must be \"approved\" or \"rejected\""
      })
  if !config.chainEnabled then
    throw (.error
      {
        status := 503, code := js "chain_unavailable"
        message :=
          js ("the on-chain half is disabled on this server (no funded signer at boot), so a "
            ++ "credential cannot be attested")
      })
  if limited then
    throw (.error
      {
        status := 429, code := js "rate_limited"
        message :=
          js "too many verification runs from this address " ++ [0x2014]
            ++ js " try again in a few minutes"
      })
  match portal.registry.activeRunId accountId with
  | some runId => throw (.runInProgress runId)
  | none =>
      if config.maxActiveRuns ≤ portal.registry.activeCount then
        throw (.error
          {
            status := 503, code := js "busy"
            message :=
              js "the demo is running its maximum number of verifications right now "
                ++ [0x2014] ++ js " try again in a minute"
          })
      let applicant ← body.applicant.mapError .error
      let disclose ← body.disclose.mapError .error
      return (if scenario = js "approved" then .green else .red, applicant, disclose)

/-- A submission goes on: the verdict becomes pending, with the account as it was when the
request arrived, and a run starts unless the write fails.
-/
def Portal.submit [DecidableEq Listener] (config : PortalConfig)
    (portal : Portal Listener Step Applicant) (accountId : JsString) (account : AccountRecord)
    (body : SubmitBody Applicant) (limited saved : Bool)
    : Option (Portal Listener Step Applicant) :=
  match portal.checkSubmit config accountId body limited with
  | .error _ => some portal
  | .ok (answer, applicant, disclose) =>
      let pending := { account.kyc with status := .pending }
      match updateAccount portal.accounts accountId { kyc := some pending } with
      | none => some portal
      | some accounts =>
          if saved then
            { portal with accounts }.begin config
              { state := .begin accountId, answer, applicant, disclose, stage := .deploying }
          else
            some { portal with accounts }

/-- Start the wizard: an approved account keeps its verdict. -/
def Portal.kycStart (portal : Portal Listener Step Applicant) (accountId : JsString)
    : Option (Portal Listener Step Applicant) :=
  (portal.accounts accountId).bind (fun account =>
    if account.kyc.status = .approved then
      some portal
    else
      let pending := { account.kyc with status := .pending }
      (updateAccount portal.accounts accountId { kyc := some pending }).map (fun accounts =>
        { portal with accounts }))

inductive PortalInput (Listener Step Applicant : Type) where
  | register (accountId email : JsString)
  | kycStart (accountId : JsString)
  /-- A signed-in account sends a submission, whose body is then awaited. -/
  | submitArrives (accountId : JsString)
  | submit (request : Nat) (body : SubmitBody Applicant) (limited saved : Bool)
  | walletDeployed (id : Nat) (wallet : WalletDeployment) (failure : Option JsString)
  | walletFailed (id : Nat) (message : JsString)
  /-- A pipeline lands its record. -/
  | landed (id : Nat) (txHash : JsString)
  | pipelineDone (id : Nat) (result : OnboardingResult) (now : Nat)
  | pipelineFailed (id : Nat) (message : JsString)
  /-- What else happens to a run: steps, the timeout, the eviction and its subscribers. -/
  | act (id : Nat) (input : RunInput Listener Step OnboardingResult) (now : Nat)
  /-- The callback of a purchase. -/
  | onrampDone (accountId fundingAccount : JsString) (onramp : Option OnrampPurchase)

/-- The account file is written. -/
def PortalInput.saved : PortalInput Listener Step Applicant → Bool
  | .submit _ _ _ saved => saved
  | .walletDeployed _ _ failure => failure.isNone
  | _ => true

/-- The runner settles a run, and nothing else does. -/
def RunInput.settles {R : Type} : RunInput Listener Step R → Bool
  | .resolve _ => true
  | .reject _ => true
  | _ => false

/-- Every order of steps of one process. The continuation of a runner runs when no listener is
being called, and its pipeline returns the hash of what it landed.
-/
def portalMachine [DecidableEq Listener] (config : PortalConfig)
    : Machine (Portal Listener Step Applicant) (PortalInput Listener Step Applicant) where
  step portal input :=
    match input with
    | .register accountId email =>
        if (portal.accounts accountId).isSome then
          none
        else
          some
            {
              portal with
              accounts := Function.update portal.accounts accountId (some (newAccount email))
            }
    | .kycStart accountId => portal.kycStart accountId
    | .submitArrives accountId =>
        (portal.accounts accountId).map (fun account =>
          { portal with requests := portal.requests ++ [(accountId, account)] })
    | .submit request body limited saved =>
        portal.requests[request]?.bind (fun (accountId, account) =>
          { portal with requests := portal.requests.eraseIdx request }.submit config accountId
            account body limited saved)
    | .walletDeployed id wallet failure =>
        portal.runs[id]?.bind (fun run =>
          if run.stage = .deploying ∧ run.state.feed.idle = true then
            portal.walletDeployed config id run wallet failure
          else
            none)
    | .walletFailed id message =>
        portal.runs[id]?.bind (fun run =>
          if run.stage = .deploying then portal.runnerThrows config id run message else none)
    | .landed id txHash =>
        portal.runs[id]?.bind (fun run =>
          match run.stage with
          | .piping cAddr none =>
              if txHash ∈ portal.landings then
                none
              else
                some
                  {
                    portal with
                    runs := portal.runs.set id { run with stage := .piping cAddr (some txHash) }
                    landings := portal.landings ++ [txHash]
                  }
          | _ => none)
    | .pipelineDone id result now =>
        portal.runs[id]?.bind (fun run =>
          match run.stage with
          | .piping _ landed =>
              if result.txHash = landed then
                portal.act config id { run with stage := .over } (.resolve result) now
              else
                none
          | _ => none)
    | .pipelineFailed id message =>
        portal.runs[id]?.bind (fun run =>
          match run.stage with
          | .piping _ _ => portal.runnerThrows config id run message
          | _ => none)
    | .act id input now =>
        portal.runs[id]?.bind (fun run =>
          if input.settles then none else portal.act config id run input now)
    | .onrampDone accountId fundingAccount onramp =>
        (updateAccount portal.accounts accountId
          { fundingAccount := some fundingAccount, onramp }).map (fun accounts =>
            { portal with accounts })

def sampleConfig : PortalConfig where
  timeoutMs := 300000
  chainEnabled := true
  maxActiveRuns := 3

/-- A submission of a page. -/
def sampleBody (scenario : JsString) : SubmitBody Unit where
  scenario := .ok scenario
  applicant := .ok ()
  disclose := .ok [js "over18"]

end StellarOnramp.Onboard
