import StellarOnramp.Library.Dialogues
import StellarOnramp.Library.Json

/-! The purchase of USDC with lira through an anchor. The chain decides first; then a funding
account is set up, the anchor authenticates it, quotes, opens a deposit and is paid. Everything
outside may answer anything, or fail, at any time.
-/

namespace StellarOnramp.Onboard

open Dialogues JsText

-----------------------------------------------------------------------------------------
-- The outside
-----------------------------------------------------------------------------------------

structure AnchorConfig where
  baseUrl : JsString
  signingKey : JsString
  networkPassphrase : JsString
  horizonUrl : JsString
  usdcIssuer : JsString
  explorerBase : JsString

/-- A line of an account's balances; a native one has neither code nor issuer. -/
structure BalanceLine where
  assetType : JsString
  assetCode : Option JsString
  assetIssuer : Option JsString
  balance : JsString

inductive StepStatus where
  | ok
  | fail
  | pending
  deriving DecidableEq

/-- A step that is shown to the holder. -/
structure DemoStep where
  id : JsString
  title : JsString
  detail : JsString
  status : StepStatus
  txHash : Option JsString
  explorerUrl : Option JsString
  data : List (JsString × JsString)
  deriving DecidableEq

/-- What the anchor is asked. Texts that stand in a path are encoded already. -/
inductive AnchorRequest where
  | challenge (account : JsString)
  | token (transaction : JsString)
  | registerCustomer
  | readCustomer
  | quote (sellAmount : JsString)
  | deposit (amount account quoteId : JsString)
  | bankTransfer (depositId amount : JsString)
  | transaction (depositId : JsString)
  deriving DecidableEq

structure HttpRequest where
  method : JsString
  url : JsString
  payload : Option Json.Value

def AnchorRequest.http (config : AnchorConfig) : AnchorRequest → HttpRequest
  | .challenge account =>
      {
        method := js "GET"
        url := config.baseUrl ++ js "/auth?account=" ++ account
        payload := none
      }
  | .token signed =>
      {
        method := js "POST"
        url := config.baseUrl ++ js "/auth"
        payload := some (.object [(js "transaction", .string signed)])
      }
  | .registerCustomer =>
      {
        method := js "PUT"
        url := config.baseUrl ++ js "/sep12/customer"
        payload :=
          some
            (.object
              [
                (js "first_name", .string (js "Onramp")),
                (js "last_name", .string (js "Customer"))
              ])
      }
  | .readCustomer =>
      { method := js "GET", url := config.baseUrl ++ js "/sep12/customer", payload := none }
  | .quote sellAmount =>
      {
        method := js "POST"
        url := config.baseUrl ++ js "/sep38/quote"
        payload :=
          some
            (.object
              [
                (js "sell_asset", .string (js "iso4217:TRY")),
                (js "buy_asset", .string (js "stellar:USDC:" ++ config.usdcIssuer)),
                (js "sell_amount", .string sellAmount),
                (js "context", .string (js "sep6"))
              ])
      }
  | .deposit amount account quoteId =>
      {
        method := js "GET"
        url :=
          config.baseUrl ++ js "/sep6/deposit?asset_code=USDC&amount=" ++ amount ++ js "&account="
            ++ account ++ js "&funding_method=bank_account&type=bank_account&quote_id=" ++ quoteId
        payload := none
      }
  | .bankTransfer depositId amount =>
      {
        method := js "POST"
        url := config.baseUrl ++ js "/sep6/tx/" ++ depositId ++ js "/simulate-bank-transfer"
        payload := some (.object [(js "amount", .string amount)])
      }
  | .transaction depositId =>
      {
        method := js "GET"
        url := config.baseUrl ++ js "/sep6/transaction?id=" ++ depositId
        payload := none
      }

/-- An answer of the anchor; `body` is `none` where it is no JSON. -/
structure HttpAnswer where
  ok : Bool
  status : Nat
  body : Option Json.Value

/-- What a purchase asks of the outside. Keys stay with their store, and are named by account. -/
inductive OnrampAsk where
  | gateAllows (walletCAddr : JsString)
  | emit (step : DemoStep)
  | getOrCreate (accountId : JsString)
  | loadAccount (account : JsString)
  /-- Friendbot funds an account: whether it did, and its status. -/
  | friendbot (account : JsString)
  /-- A trustline to the issuer's USDC, signed and submitted. -/
  | changeTrust (account issuer : JsString)
  /-- The challenge, signed with the account's key. -/
  | signChallenge (account xdr : JsString)
  | fetch (request : AnchorRequest) (token : Option JsString)
  | now
  | sleep (milliseconds : Nat)
  /-- More rounds than the model takes: never answered. -/
  | unbounded

/-- What is answered, unless a fault is. -/
def OnrampAsk.Reply : OnrampAsk → Type
  | gateAllows _ => Bool
  | emit _ => Unit
  | getOrCreate _ => JsString
  | loadAccount _ => List BalanceLine
  | friendbot _ => Bool × Nat
  | changeTrust _ _ => JsString
  | signChallenge _ _ => JsString
  | fetch _ _ => HttpAnswer
  | now => Int
  | sleep _ => Unit
  | unbounded => Empty

abbrev onrampOutside (Fault : Type) : Outside := faulty Fault OnrampAsk OnrampAsk.Reply

/-- The language's own functions and the challenge reader of the ledger's library. -/
structure OnrampLibrary (Fault : Type) where
  /-- `new URL(text).host` -/
  host : JsString → Except Fault JsString
  /-- `new URL(text).pathname` -/
  pathname : JsString → Except Fault JsString
  encodeURIComponent : JsString → Except Fault JsString
  /-- The client account of a challenge, of a text, a signing key, a network, and the domains of
  the home and of the authentication.
  -/
  readChallengeTx : JsString → JsString → JsString → JsString → JsString → Except Fault JsString

/-- `anchor` is an `AnchorError`, and `fault` whatever else was thrown. -/
inductive OnrampFailure (Fault : Type) where
  | anchor (message : JsString)
  | fault (fault : Fault)

variable {Fault : Type}

abbrev Talk (Fault Value : Type) := Dialogue (onrampOutside Fault) (OnrampFailure Fault) Value

def failing {Value : Type} (outcome : Except Fault Value) : Talk Fault Value :=
  .ofExcept (outcome.mapError .fault)

def anchorError {Value : Type} (message : JsString) : Talk Fault Value := .failed (.anchor message)

/-- One question, whose fault is thrown on. -/
def asking (question : OnrampAsk) : Talk Fault question.Reply := Dialogue.asking .fault question

def gateAllows (walletCAddr : JsString) : Talk Fault Bool := asking (.gateAllows walletCAddr)

def emit (step : DemoStep) : Talk Fault Unit := asking (.emit step)

def getOrCreate (accountId : JsString) : Talk Fault JsString := asking (.getOrCreate accountId)

def loadAccount (account : JsString) : Talk Fault (List BalanceLine) :=
  asking (.loadAccount account)

def friendbot (account : JsString) : Talk Fault (Bool × Nat) := asking (.friendbot account)

def changeTrust (account issuer : JsString) : Talk Fault JsString :=
  asking (.changeTrust account issuer)

def signChallenge (account xdr : JsString) : Talk Fault JsString :=
  asking (.signChallenge account xdr)

def now : Talk Fault Int := asking .now

def sleep (milliseconds : Nat) : Talk Fault Unit := asking (.sleep milliseconds)

-----------------------------------------------------------------------------------------
-- The anchor's client
-----------------------------------------------------------------------------------------

/-- A body, which may not be `null`, of an answer that is ok. -/
def answeredJson (library : OnrampLibrary Fault) (config : AnchorConfig)
    (request : AnchorRequest) (answer : HttpAnswer)
    : Talk Fault Json.Value :=
  let refuse (shown : JsString) : Talk Fault Json.Value := do
    let pathname ← failing (library.pathname (request.http config).url)
    anchorError (pathname ++ js ": HTTP " ++ numberText answer.status ++ js " " ++ shown.take 200)
  match answer.body with
  | none | some .null => refuse (js "null")
  | some body => if answer.ok then return body else refuse (Json.stringify body)

/-- `getJson`, `postJson` and `postPut` -/
def fetchJson (library : OnrampLibrary Fault) (config : AnchorConfig) (request : AnchorRequest)
    (token : Option JsString)
    : Talk Fault Json.Value := do
  let answer ← asking (.fetch request token)
  answeredJson library config request answer

def str (bag : Json.Value) (key : JsString) : Except JsString JsString :=
  match bag.get key with
  | some (.string (unit :: rest)) => .ok (unit :: rest)
  | _ => .error (js "anchor response has no \"" ++ key ++ js "\"")

def parsed {Value : Type} (outcome : Except JsString Value) : Talk Fault Value :=
  .ofExcept (outcome.mapError .anchor)

def verifyChallenge (library : OnrampLibrary Fault) (config : AnchorConfig)
    (xdr clientAccount : JsString)
    : Except (OnrampFailure Fault) Unit := do
  let homeDomain ← (library.host config.baseUrl).mapError .fault
  let clientAccountID ←
    (library.readChallengeTx xdr config.signingKey config.networkPassphrase homeDomain
      homeDomain).mapError .fault
  if clientAccountID ≠ clientAccount then
    .error
      (.anchor
        (js "SEP-10 challenge is for " ++ clientAccountID ++ js ", not " ++ clientAccount))

def sep10Authenticate (library : OnrampLibrary Fault) (config : AnchorConfig) (account : JsString)
    : Talk Fault JsString := do
  let challenge ← fetchJson library config (.challenge account) none
  let xdr ← parsed (str challenge (js "transaction"))
  .ofExcept (verifyChallenge library config xdr account)
  let signed ← signChallenge account xdr
  let answer ← fetchJson library config (.token signed) none
  parsed (str answer (js "token"))

structure Quote where
  id : JsString
  price : JsString
  totalPrice : JsString
  sellAmount : JsString
  buyAmount : JsString
  expiresAt : JsString

def parseQuote (body : Json.Value) : Except JsString Quote := do
  return {
    id := ← str body (js "id")
    price := ← str body (js "price")
    totalPrice := ← str body (js "total_price")
    sellAmount := ← str body (js "sell_amount")
    buyAmount := ← str body (js "buy_amount")
    expiresAt := ← str body (js "expires_at")
  }

structure DepositInstructions where
  id : JsString
  bankName : JsString
  iban : JsString
  memo : JsString

/-- `left ?? right` of a member. -/
def memberOr (member : Option Json.Value) (other : Json.Value) : Json.Value :=
  match member with
  | none | some .null => other
  | some value => value

/-- A field of the instructions: a text, or an object with a text for its value. -/
def instruction (instructions : Json.Value) (key : JsString) : JsString :=
  match instructions.get key with
  | some (.string text) => text
  | some value => (Json.text value (js "value")).getD []
  | none => []

/-- `left || right` -/
def orElse (left : JsString) (right : JsString) : JsString := if left = [] then right else left

def parseDeposit (body : Json.Value) : Except JsString DepositInstructions := do
  let id ← str body (js "id")
  let instructions := memberOr (body.get (js "instructions")) (.object [])
  let field := instruction instructions
  let bankName ←
    if field (js "bank_name") = [] then str body (js "bank_name") else .ok (field (js "bank_name"))
  let plain (key : JsString) : JsString := (Json.text body key).getD []
  return {
    id
    bankName
    iban := orElse (field (js "bank_account_number")) (plain (js "bank_account_number"))
    memo := orElse (field (js "external_transfer_memo")) (plain (js "external_transfer_memo"))
  }

-----------------------------------------------------------------------------------------
-- The flow
-----------------------------------------------------------------------------------------

structure OnrampArgs where
  accountId : JsString
  walletCAddr : JsString
  /-- `tryAmount.toFixed(2)` -/
  sell : JsString

structure OnrampResult where
  fundingAccount : JsString
  tryAmount : JsString
  usdcAmount : JsString
  quoteId : JsString
  depositId : JsString
  stellarTxHash : JsString
  usdcBalance : JsString
  deriving DecidableEq

def BalanceLine.isUsdc (config : AnchorConfig) (line : BalanceLine) : Bool :=
  line.assetType != js "native" && line.assetCode == some (js "USDC")
    && line.assetIssuer == some config.usdcIssuer

def usdcBalance (config : AnchorConfig) (account : JsString) : Talk Fault JsString := do
  let balances ← loadAccount account
  return ((balances.find? (BalanceLine.isUsdc config)).map BalanceLine.balance).getD (js "0")

/-- Whatever keeps the account from being loaded, it is funded then. -/
def loadOrFund (account : JsString) : Talk Fault (List BalanceLine × Bool) :=
  .ask (.loadAccount account) fun
    | .ok balances => .done (balances, false)
    | .error _ => do
        let (funded, status) ← friendbot account
        if funded then
          let balances ← loadAccount account
          return (balances, true)
        else
          anchorError
            (js "friendbot refused to fund " ++ account ++ js ": HTTP " ++ numberText status)

/-- Whether the account was created, and the transaction of a new trustline. -/
def ensureFundingAccount (config : AnchorConfig) (account : JsString)
    : Talk Fault (Bool × Option JsString) := do
  let (balances, created) ← loadOrFund account
  if balances.any (BalanceLine.isUsdc config) then
    return (created, none)
  else
    let hash ← changeTrust account config.usdcIssuer
    return (created, some hash)

def depositTimeoutMs : Int := 150000

/-- One round while the deadline is ahead; then the last state that was seen. -/
def pollDeposit (library : OnrampLibrary Fault) (config : AnchorConfig) (token id : JsString)
    (deadline : Int)
    : Nat → Json.Value → Talk Fault (Json.Value × Bool)
  | 0, _ => do
      let none ← asking .unbounded
      Empty.elim none
  | fuel + 1, last => do
      let time ← now
      if time < deadline then
        let encoded ← failing (library.encodeURIComponent id)
        let body ← fetchJson library config (.transaction encoded) (some token)
        let last := memberOr (body.get (js "transaction")) body
        let status := Json.text last (js "status")
        if status = some (js "completed") then
          return (last, true)
        else if status = some (js "error") ∨ status = some (js "refunded") then
          anchorError
            (js "deposit " ++ id ++ js " ended in status " ++ status.getD [] ++ js ": "
              ++ Json.toText (memberOr (last.get (js "message")) (.string [])))
        else
          sleep 3000
          pollDeposit library config token id deadline fuel last
      else
        return (last, false)

def waitForDeposit (library : OnrampLibrary Fault) (config : AnchorConfig) (fuel : Nat)
    (token id : JsString)
    : Talk Fault (Json.Value × Bool) := do
  let start ← now
  pollDeposit library config token id (start + depositTimeoutMs) fuel (.object [])

/-- `String(bag[key] ?? '')` -/
def shown (bag : Json.Value) (key : JsString) : JsString :=
  Json.toText (memberOr (bag.get key) (.string []))

def explorerUrl (config : AnchorConfig) (hash : JsString) : JsString :=
  config.explorerBase ++ js "/tx/" ++ hash

def gateRefusedStep : DemoStep where
  id := js "gate"
  title := js "Gate check"
  detail :=
    js "kyc-gate.check(wallet, OVER_18) reads false on testnet, so the anchor is not offered."
  status := .fail
  txHash := none
  explorerUrl := none
  data := []

def gateStep (walletCAddr : JsString) : DemoStep where
  id := js "gate"
  title := js "Gate check"
  detail :=
    js "kyc-gate.check(wallet, OVER_18) reads true on testnet: the contract, not this server, "
      ++ js "says the holder may buy."
  status := .ok
  txHash := none
  explorerUrl := none
  data := [(js "wallet", walletCAddr)]

def fundingStep (config : AnchorConfig) (account : JsString) (created : Bool)
    (trustlineTx : Option JsString)
    : DemoStep where
  id := js "funding"
  title := js "Funding account"
  detail :=
    if created then
      js "Created a classic Stellar account for the purchase, funded by friendbot, with a USDC "
        ++ js "trustline. SEP-10 needs a key that can sign; the passkey wallet is a contract, so "
        ++ js "the USDC lands here."
    else
      js "Reusing the account" ++ [0x2019]
        ++ js "s funding account; the USDC trustline is in place."
  status := .ok
  txHash := trustlineTx
  explorerUrl := trustlineTx.map (explorerUrl config)
  data := [(js "account", account)]

def sep10Step (host : JsString) : DemoStep where
  id := js "sep10"
  title := js "SEP-10 authentication"
  detail :=
    js "Fetched the anchor" ++ [0x2019]
      ++ js "s challenge, verified it is signed by the anchor" ++ [0x2019]
      ++ js "s SIGNING_KEY for this network and this account, signed it, and received a session "
      ++ js "token."
  status := .ok
  txHash := none
  explorerUrl := none
  data := [(js "anchor", host)]

def sep12Step (customer kycStatus : Json.Value) : DemoStep where
  id := js "sep12"
  title := js "SEP-12 customer handoff"
  detail :=
    js "Registered the funding account as a customer. Nothing from the KYC wizard is sent: the "
      ++ js "anchor relies on the on-chain verdict, and receives no document, date of birth or "
      ++ js "document number."
  status := .ok
  txHash := none
  explorerUrl := none
  data :=
    [
      (js "customerId", shown customer (js "id")),
      (js "status", shown kycStatus (js "status"))
    ]

def sep38Step (quote : Quote) : DemoStep where
  id := js "sep38"
  title := js "SEP-38 firm quote"
  detail :=
    quote.sellAmount ++ js " TRY buys " ++ quote.buyAmount ++ js " USDC at " ++ quote.totalPrice
      ++ js " TRY per USDC. The quote is single-use and expires at " ++ quote.expiresAt ++ js "."
  status := .ok
  txHash := none
  explorerUrl := none
  data :=
    [
      (js "quoteId", quote.id),
      (js "sellAmount", quote.sellAmount),
      (js "buyAmount", quote.buyAmount),
      (js "price", quote.totalPrice)
    ]

def sep6Step (deposit : DepositInstructions) : DemoStep where
  id := js "sep6"
  title := js "SEP-6 deposit instructions"
  detail :=
    js "The anchor opened deposit " ++ deposit.id
      ++ js " and returned the bank details a customer would pay: " ++ deposit.bankName
      ++ js ", IBAN " ++ deposit.iban ++ js ", reference " ++ deposit.memo ++ js "."
  status := .ok
  txHash := none
  explorerUrl := none
  data :=
    [
      (js "depositId", deposit.id),
      (js "bankName", deposit.bankName),
      (js "iban", deposit.iban),
      (js "reference", deposit.memo)
    ]

def bankStep (sell : JsString) : DemoStep where
  id := js "bank"
  title := js "Bank transfer (simulated)"
  detail :=
    js "The sandbox anchor marks the TRY as received. In production this is the customer"
      ++ [0x2019] ++ js "s bank transfer with the reference above."
  status := .ok
  txHash := none
  explorerUrl := none
  data := [(js "amountTry", sell)]

def usdcStep (config : AnchorConfig) (account : JsString) (quote : Quote)
    (deposit : DepositInstructions) (tx : Json.Value) (completed : Bool) (balance : JsString)
    : DemoStep :=
  let stellarTx := shown tx (js "stellar_transaction_id")
  let reports :=
    memberOr (tx.get (js "message")) (memberOr (tx.get (js "status")) (.string (js "pending")))
  {
    id := js "usdc"
    title := js "USDC on testnet"
    detail :=
      if completed then
        js "The anchor paid " ++ quote.buyAmount
          ++ js " USDC from its treasury to the funding account. Balance now " ++ balance
          ++ js " USDC."
      else
        js "The anchor accepted the TRY and reports \"" ++ Json.toText reports
          ++ js "\". Its payout has not landed yet; the balance updates on this page once it does "
          ++ js "(deposit " ++ deposit.id ++ js ")."
    status := if completed then .ok else .pending
    txHash := if stellarTx = [] then none else some stellarTx
    explorerUrl := if stellarTx = [] then none else some (explorerUrl config stellarTx)
    data :=
      [
        (js "usdcBalance", balance),
        (js "fundingAccount", account),
        (js "depositId", deposit.id),
        (js "anchorStatus", shown tx (js "status"))
      ]
  }

/-- From the funding account to the anchor's session. -/
def openSession (library : OnrampLibrary Fault) (config : AnchorConfig) (args : OnrampArgs)
    : Talk Fault (JsString × JsString) := do
  let account ← getOrCreate args.accountId
  let (created, trustlineTx) ← ensureFundingAccount config account
  emit (fundingStep config account created trustlineTx)
  let token ← sep10Authenticate library config account
  let host ← failing (library.host config.baseUrl)
  emit (sep10Step host)
  return (account, token)

/-- From the customer to the paid deposit. -/
def payDeposit (library : OnrampLibrary Fault) (config : AnchorConfig) (args : OnrampArgs)
    (account token : JsString)
    : Talk Fault (Quote × DepositInstructions) := do
  let customer ← fetchJson library config .registerCustomer (some token)
  let kycStatus ← fetchJson library config .readCustomer (some token)
  emit (sep12Step customer kycStatus)
  let quoted ← fetchJson library config (.quote args.sell) (some token)
  let quote ← parsed (parseQuote quoted)
  emit (sep38Step quote)
  let quoteId ← failing (library.encodeURIComponent quote.id)
  let opened ← fetchJson library config (.deposit args.sell account quoteId) (some token)
  let deposit ← parsed (parseDeposit opened)
  emit (sep6Step deposit)
  let depositId ← failing (library.encodeURIComponent deposit.id)
  let _ ← fetchJson library config (.bankTransfer depositId args.sell) none
  emit (bankStep args.sell)
  return (quote, deposit)

def runOnramp (library : OnrampLibrary Fault) (config : AnchorConfig) (fuel : Nat)
    (args : OnrampArgs)
    : Talk Fault OnrampResult := do
  let allowed ← gateAllows args.walletCAddr
  if allowed then
    emit (gateStep args.walletCAddr)
    let (account, token) ← openSession library config args
    let (quote, deposit) ← payDeposit library config args account token
    let (tx, completed) ← waitForDeposit library config fuel token deposit.id
    let balance ← usdcBalance config account
    emit (usdcStep config account quote deposit tx completed balance)
    return {
      fundingAccount := account
      tryAmount := quote.sellAmount
      usdcAmount := quote.buyAmount
      quoteId := quote.id
      depositId := deposit.id
      stellarTxHash := shown tx (js "stellar_transaction_id")
      usdcBalance := balance
    }
  else
    emit gateRefusedStep
    anchorError (js "the chain does not record over18 for this wallet")

end StellarOnramp.Onboard
