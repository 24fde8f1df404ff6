import StellarOnramp.Onboard.Onramp

/-! What a purchase asks of the outside, and what each request rests on: nothing before the chain
has admitted the wallet, no signature but on the anchor's verified challenge, no token but the one
that was issued for it, and one payment, of the amount that was quoted.
-/

namespace StellarOnramp.Onboard

open Dialogues Dialogue JsText

variable {Fault : Type}

-----------------------------------------------------------------------------------------
-- What has been exchanged
-----------------------------------------------------------------------------------------

abbrev Exchanges (Fault : Type) := List (Exchange (onrampOutside Fault))

/-- A request that was answered with a body. -/
def Answered (before : Exchanges Fault) (request : AnchorRequest) (token : Option JsString)
    (body : Json.Value)
    : Prop :=
  ∃ status, Replied before (.fetch request token) { ok := true, status, body := some body }

section

variable (library : OnrampLibrary Fault) (args : OnrampArgs) (before : Exchanges Fault)

/-- The chain has admitted the wallet. -/
def Admitted : Prop := Replied before (.gateAllows args.walletCAddr) true

/-- The account is the holder's funding account. -/
def Holds (account : JsString) : Prop := Replied before (.getOrCreate args.accountId) account

/-- The anchor has handed out the challenge for the account. -/
def Challenged (account xdr : JsString) : Prop :=
  ∃ body, Answered before (.challenge account) none body ∧ str body (js "transaction") = .ok xdr

def Signed (account signed : JsString) : Prop :=
  ∃ xdr, Replied before (.signChallenge account xdr) signed

/-- The anchor has issued the token for the account's signature. -/
def TokenIssued (account token : JsString) : Prop :=
  ∃ signed body,
    Signed before account signed
    ∧ Answered before (.token signed) none body
    ∧ str body (js "token") = .ok token

/-- The account's session with the anchor. -/
structure Session (account token : JsString) : Prop where
  admitted : Admitted args before
  holds : Holds args before account
  issued : TokenIssued before account token

def Quoted (token : JsString) (quote : Quote) : Prop :=
  ∃ body, Answered before (.quote args.sell) (some token) body ∧ parseQuote body = .ok quote

/-- The anchor has opened the deposit for the quote and the account. -/
def Opened (account token : JsString) (quote : Quote) (deposit : DepositInstructions) : Prop :=
  ∃ quoteId body,
    library.encodeURIComponent quote.id = .ok quoteId
    ∧ Answered before (.deposit args.sell account quoteId) (some token) body
    ∧ parseDeposit body = .ok deposit

def Paid (deposit : DepositInstructions) : Prop :=
  ∃ depositId body,
    library.encodeURIComponent deposit.id = .ok depositId
    ∧ Answered before (.bankTransfer depositId args.sell) none body

end

section

variable {library : OnrampLibrary Fault} {args : OnrampArgs} {before after : Exchanges Fault}
  {account token : JsString} {quote : Quote} {deposit : DepositInstructions}

theorem Answered.later (kept : before ⊆ after) {request : AnchorRequest}
    {token : Option JsString} {body : Json.Value} (answered : Answered before request token body)
    : Answered after request token body :=
  answered.imp fun _ => @kept _

theorem Session.later (kept : before ⊆ after) (session : Session args before account token)
    : Session args after account token := by
  obtain ⟨signed, body, ⟨xdr, replied⟩, answered, read⟩ := session.issued
  exact
    {
      admitted := kept session.admitted
      holds := kept session.holds
      issued := ⟨signed, body, ⟨xdr, kept replied⟩, answered.later kept, read⟩
    }

theorem Quoted.later (kept : before ⊆ after) (quoted : Quoted args before token quote)
    : Quoted args after token quote := by
  obtain ⟨body, answered, read⟩ := quoted
  exact ⟨body, answered.later kept, read⟩

theorem Opened.later (kept : before ⊆ after)
    (opened : Opened library args before account token quote deposit)
    : Opened library args after account token quote deposit := by
  obtain ⟨quoteId, body, encoded, answered, read⟩ := opened
  exact ⟨quoteId, body, encoded, answered.later kept, read⟩

theorem Paid.later (kept : before ⊆ after) (paid : Paid library args before deposit)
    : Paid library args after deposit := by
  obtain ⟨depositId, body, encoded, answered⟩ := paid
  exact ⟨depositId, body, encoded, answered.later kept⟩

end

-----------------------------------------------------------------------------------------
-- What a question rests on
-----------------------------------------------------------------------------------------

section

variable (library : OnrampLibrary Fault) (config : AnchorConfig) (args : OnrampArgs)
  (before : Exchanges Fault)

/-- What a request rests on, and which token goes with it. -/
def RequestAllowed : AnchorRequest → Option JsString → Prop
  | .challenge account, none => Admitted args before ∧ Holds args before account
  | .token signed, none =>
      ∃ account, Admitted args before ∧ Holds args before account ∧ Signed before account signed
  | .registerCustomer, some token | .readCustomer, some token =>
      ∃ account, Session args before account token
  | .quote sell, some token => sell = args.sell ∧ ∃ account, Session args before account token
  | .deposit amount account quoteId, some token =>
      amount = args.sell
      ∧ Session args before account token
      ∧ ∃ quote,
          Quoted args before token quote ∧ library.encodeURIComponent quote.id = .ok quoteId
  | .bankTransfer depositId amount, none =>
      amount = args.sell
      ∧ ∃ account token quote deposit,
          Session args before account token
          ∧ Quoted args before token quote
          ∧ Opened library args before account token quote deposit
          ∧ library.encodeURIComponent deposit.id = .ok depositId
  | .transaction depositId, some token =>
      ∃ account quote deposit,
        Session args before account token
        ∧ Opened library args before account token quote deposit
        ∧ Paid library args before deposit
        ∧ library.encodeURIComponent deposit.id = .ok depositId
  | _, _ => False

/-- What a question rests on. A step that is shown as done rests on the chain's admission. -/
def Allowed : OnrampAsk → Prop
  | .gateAllows walletCAddr => walletCAddr = args.walletCAddr
  | .emit step => step.status = .ok → Admitted args before
  | .getOrCreate accountId => accountId = args.accountId ∧ Admitted args before
  | .loadAccount account | .friendbot account =>
      Admitted args before ∧ Holds args before account
  | .changeTrust account issuer =>
      Admitted args before ∧ Holds args before account ∧ issuer = config.usdcIssuer
  | .signChallenge account xdr =>
      Admitted args before
      ∧ Holds args before account
      ∧ Challenged before account xdr
      ∧ verifyChallenge library config xdr account = .ok ()
  | .fetch request token => RequestAllowed library args before request token
  | .now | .sleep _ | .unbounded => True

end

/-- The place of a question in the order of a purchase. What only reads has none. -/
def OnrampAsk.stage : OnrampAsk → Option Nat
  | .gateAllows _ => some 0
  | .getOrCreate _ => some 1
  | .friendbot _ => some 2
  | .changeTrust _ _ => some 3
  | .fetch (.challenge _) _ => some 4
  | .signChallenge _ _ => some 5
  | .fetch (.token _) _ => some 6
  | .fetch .registerCustomer _ => some 7
  | .fetch .readCustomer _ => some 8
  | .fetch (.quote _) _ => some 9
  | .fetch (.deposit _ _ _) _ => some 10
  | .fetch (.bankTransfer _ _) _ => some 11
  | .fetch (.transaction _) _ | .loadAccount _ | .emit _ | .now | .sleep _ | .unbounded => none

/-- By the rule a question rests on what came before, and comes once and in order. -/
abbrev OnrampRule (library : OnrampLibrary Fault) (config : AnchorConfig) (args : OnrampArgs)
    : Exchanges Fault → OnrampAsk → Prop :=
  InOrder OnrampAsk.stage (Allowed library config args)

-----------------------------------------------------------------------------------------
-- Question by question
-----------------------------------------------------------------------------------------

section

variable {library : OnrampLibrary Fault} {config : AnchorConfig} {args : OnrampArgs}
  {before : Exchanges Fault}

/-- Only the body of an answer that is ok goes on. -/
theorem keeps_answeredJson {rule : Exchanges Fault → OnrampAsk → Prop} {request : AnchorRequest}
    {answer : HttpAnswer} {borneOut : Exchanges Fault → Json.Value → Prop}
    (succeeds
      : ∀ body, answer = { ok := true, status := answer.status, body := some body }
          → borneOut before body)
    : (answeredJson library config request answer).Keeps rule borneOut before := by
  obtain ⟨ok, status, body⟩ := answer
  unfold answeredJson
  split
  case h_1 | h_2 => exact keeps_bind (keeps_mapError fun _ _ => trivial)
  case h_3 value _ read =>
    obtain rfl : body = some value := read
    cases ok with
    | false => exact keeps_bind (keeps_mapError fun _ _ => trivial)
    | true => exact succeeds value rfl

/-- A request whose answer is a document bears out what that document shows. -/
theorem keeps_fetchJson {rule : Exchanges Fault → OnrampAsk → Prop} {request : AnchorRequest}
    {token : Option JsString} {borneOut : Exchanges Fault → Json.Value → Prop}
    (asks : rule before (.fetch request token))
    (succeeds
      : ∀ after status body,
          Extends before (.fetch request token) { ok := true, status, body := some body } after
          → borneOut after body)
    : (fetchJson library config request token).Keeps rule borneOut before := by
  refine keeps_bind (keeps_asking asks fun after answer extended => keeps_answeredJson ?_)
  intro body same
  rw [same] at extended
  exact succeeds after answer.status body extended

theorem keeps_loadAccount {account : JsString} {limit : Nat} (admitted : Admitted args before)
    (holds : Holds args before account) (below : Below OnrampAsk.stage limit before)
    : (loadAccount account).Keeps (OnrampRule library config args)
        (fun after _ => before ⊆ after ∧ Below OnrampAsk.stage limit after) before :=
  keeps_asking (.unstaged ⟨admitted, holds⟩ rfl)
    fun _ _ asked => ⟨asked.kept, asked.same rfl below⟩

theorem keeps_loadOrFund {account : JsString} (admitted : Admitted args before)
    (holds : Holds args before account) (below : Below OnrampAsk.stage 2 before)
    : (loadOrFund account).Keeps (OnrampRule library config args)
        (fun after _ => before ⊆ after ∧ Below OnrampAsk.stage 3 after) before := by
  refine ⟨.unstaged ⟨admitted, holds⟩ rfl, fun answer => ?_⟩
  have kept : before ⊆ before ++ [⟨.loadAccount account, answer⟩] := List.subset_append_left _ _
  replace below := below.append (by rintro _ ⟨⟩) answer
  cases answer with
  | ok balances => exact ⟨kept, below.mono (Nat.le_succ 2)⟩
  | error fault =>
      refine keeps_bind (keeps_asking (.staged ⟨kept admitted, kept holds⟩ rfl below) ?_)
      rintro after ⟨funded, status⟩ asked
      have all := List.Subset.trans kept asked.kept
      dsimp only
      split
      case isTrue =>
        refine keeps_bind
          ((keeps_loadAccount (all admitted) (all holds) (asked.next rfl below)).weaken ?_)
        rintro last balances ⟨kept, below⟩
        exact ⟨List.Subset.trans all kept, below⟩
      case isFalse => trivial

/-- The account is funded and trusts the asset before the session is opened. -/
theorem keeps_ensureFundingAccount {account : JsString} (admitted : Admitted args before)
    (holds : Holds args before account) (below : Below OnrampAsk.stage 2 before)
    : (ensureFundingAccount config account).Keeps (OnrampRule library config args)
        (fun after _ => before ⊆ after ∧ Below OnrampAsk.stage 4 after) before := by
  refine keeps_bind ((keeps_loadOrFund admitted holds below).weaken ?_)
  rintro after ⟨balances, created⟩ ⟨kept, below⟩
  dsimp only
  split
  case isTrue => exact ⟨kept, below.mono (Nat.le_succ 3)⟩
  case isFalse =>
    exact keeps_bind
      (keeps_asking (.staged ⟨kept admitted, kept holds, rfl⟩ rfl below)
        fun _ _ asked => ⟨List.Subset.trans kept asked.kept, asked.next rfl below⟩)

/-- The token is the one that was given for the signed challenge. -/
theorem keeps_sep10Authenticate {account : JsString} (admitted : Admitted args before)
    (holds : Holds args before account) (below : Below OnrampAsk.stage 4 before)
    : (sep10Authenticate library config account).Keeps (OnrampRule library config args)
        (fun after token =>
          Session args after account token ∧ Below OnrampAsk.stage 7 after) before := by
  refine keeps_bind (keeps_fetchJson (.staged ⟨admitted, holds⟩ rfl below) ?_)
  intro after status challenge asked
  replace below := asked.next rfl below
  replace admitted := asked.kept admitted
  replace holds := asked.kept holds
  refine keeps_bind (keeps_mapError fun xdr read => ?_)
  refine keeps_bind (keeps_ofExcept fun _ verified => ?_)
  have challenged : Challenged after account xdr := ⟨challenge, ⟨status, asked.replied⟩, read⟩
  refine keeps_bind
    (keeps_asking (.staged ⟨admitted, holds, challenged, verified⟩ rfl below) ?_)
  intro next signed signing
  have signed_for : Signed next account signed := ⟨xdr, signing.replied⟩
  refine keeps_bind
    (keeps_fetchJson
      (.staged ⟨account, signing.kept admitted, signing.kept holds, signed_for⟩ rfl
        (signing.next rfl below)) ?_)
  intro last status answer exchanged
  refine keeps_mapError fun token read => ⟨?_, exchanged.next rfl (signing.next rfl below)⟩
  exact
    {
      admitted := exchanged.kept (signing.kept admitted)
      holds := exchanged.kept (signing.kept holds)
      issued :=
        ⟨signed, answer, ⟨xdr, exchanged.kept signing.replied⟩, ⟨status, exchanged.replied⟩, read⟩
    }

/-- A step is shown. -/
theorem keeps_emit {step : DemoStep} {limit : Nat} (admitted : Admitted args before)
    (below : Below OnrampAsk.stage limit before)
    : (emit step).Keeps (OnrampRule library config args)
        (fun after _ => before ⊆ after ∧ Below OnrampAsk.stage limit after) before :=
  keeps_asking (.unstaged (fun _ => admitted) rfl)
    fun _ _ asked => ⟨asked.kept, asked.same rfl below⟩

/-- Up to the token nothing is asked but what an admitted purchase allows. -/
theorem keeps_openSession (admitted : Admitted args before) (below : Below OnrampAsk.stage 1 before)
    : (openSession library config args).Keeps (OnrampRule library config args)
        (fun after opened =>
          Session args after opened.1 opened.2 ∧ Below OnrampAsk.stage 7 after) before := by
  refine keeps_bind (keeps_asking (.staged ⟨rfl, admitted⟩ rfl below) ?_)
  intro after account created
  replace admitted := created.kept admitted
  have holds : Holds args after account := created.replied
  refine keeps_bind
    ((keeps_ensureFundingAccount admitted holds (created.next rfl below)).weaken ?_)
  rintro funded ⟨new, trustlineTx⟩ ⟨kept, below⟩
  refine keeps_bind ((keeps_emit (kept admitted) below).weaken ?_)
  rintro shown - ⟨shows, below⟩
  refine keeps_bind
    ((keeps_sep10Authenticate (shows (kept admitted)) (shows (kept holds)) below).weaken ?_)
  rintro authenticated token ⟨session, below⟩
  refine keeps_bind (keeps_mapError fun host _ => ?_)
  refine keeps_bind ((keeps_emit session.admitted below).weaken ?_)
  rintro last - ⟨kept, below⟩
  exact ⟨session.later kept, below⟩

/-- The transfer is made to the instructions that the quote and the order brought. -/
theorem keeps_payDeposit {account token : JsString} (session : Session args before account token)
    (below : Below OnrampAsk.stage 7 before)
    : (payDeposit library config args account token).Keeps (OnrampRule library config args)
        (fun after (paid : Quote × DepositInstructions) =>
          Session args after account token
          ∧ Quoted args after token paid.1
          ∧ Opened library args after account token paid.1 paid.2
          ∧ Paid library args after paid.2) before := by
  refine keeps_bind (keeps_fetchJson (.staged ⟨account, session⟩ rfl below) ?_)
  intro registered _ customer asked
  replace session := session.later asked.kept
  replace below := asked.next rfl below
  refine keeps_bind (keeps_fetchJson (.staged ⟨account, session⟩ rfl below) ?_)
  intro known _ kycStatus asked
  replace session := session.later asked.kept
  replace below := asked.next rfl below
  refine keeps_bind ((keeps_emit session.admitted below).weaken ?_)
  rintro shown - ⟨kept, below⟩
  replace session := session.later kept
  refine keeps_bind (keeps_fetchJson (.staged ⟨rfl, account, session⟩ rfl below) ?_)
  intro quoting status quoted asked
  replace session := session.later asked.kept
  replace below := asked.next rfl below
  refine keeps_bind (keeps_mapError fun quote read => ?_)
  have quoted_for : Quoted args quoting token quote := ⟨quoted, ⟨status, asked.replied⟩, read⟩
  refine keeps_bind ((keeps_emit session.admitted below).weaken ?_)
  rintro shown - ⟨kept, below⟩
  replace session := session.later kept
  replace quoted_for := quoted_for.later kept
  refine keeps_bind (keeps_mapError fun quoteId encoded => ?_)
  refine keeps_bind
    (keeps_fetchJson (.staged ⟨rfl, session, quote, quoted_for, encoded⟩ rfl below) ?_)
  intro opening status opened asked
  replace session := session.later asked.kept
  replace quoted_for := quoted_for.later asked.kept
  replace below := asked.next rfl below
  refine keeps_bind (keeps_mapError fun deposit read => ?_)
  have opened_for : Opened library args opening account token quote deposit :=
    ⟨quoteId, opened, encoded, ⟨status, asked.replied⟩, read⟩
  refine keeps_bind ((keeps_emit session.admitted below).weaken ?_)
  rintro shown - ⟨kept, below⟩
  replace session := session.later kept
  replace quoted_for := quoted_for.later kept
  replace opened_for := opened_for.later kept
  refine keeps_bind (keeps_mapError fun depositId encoded => ?_)
  refine keeps_bind
    (keeps_fetchJson
      (.staged ⟨rfl, account, token, quote, deposit, session, quoted_for, opened_for, encoded⟩ rfl
        below) ?_)
  intro paying status answered asked
  have paid : Paid library args paying deposit :=
    ⟨depositId, answered, encoded, status, asked.replied⟩
  refine keeps_bind
    ((keeps_emit (session.later asked.kept).admitted (asked.next rfl below)).weaken ?_)
  rintro last - ⟨kept, -⟩
  have all := List.Subset.trans asked.kept kept
  exact ⟨session.later all, quoted_for.later all, opened_for.later all, paid.later kept⟩

/-- Round by round, by induction on the rounds. -/
theorem keeps_pollDeposit {account token : JsString} {quote : Quote}
    {deposit : DepositInstructions} (session : Session args before account token)
    (opened : Opened library args before account token quote deposit)
    (paid : Paid library args before deposit) (deadline : Int) (fuel : Nat) (last : Json.Value)
    : (pollDeposit library config token deposit.id deadline fuel last).Keeps
        (OnrampRule library config args) (fun after _ => before ⊆ after) before := by
  induction fuel generalizing before last with
  | zero => exact keeps_bind (keeps_asking (.unstaged trivial rfl) fun _ none => none.elim)
  | succ fuel ih =>
      refine keeps_bind (keeps_asking (.unstaged trivial rfl) ?_)
      intro timed time asked
      split
      case isFalse => exact asked.kept
      case isTrue =>
        replace session := session.later asked.kept
        replace opened := opened.later asked.kept
        replace paid := paid.later asked.kept
        refine keeps_bind (keeps_mapError fun depositId encoded => ?_)
        refine keeps_bind
          (keeps_fetchJson
            (.unstaged ⟨account, quote, deposit, session, opened, paid, encoded⟩ rfl) ?_)
        intro read status body polled
        have all := List.Subset.trans asked.kept polled.kept
        dsimp only
        split
        case isTrue => exact all
        case isFalse =>
          split
          case isTrue => trivial
          case isFalse =>
            refine keeps_bind (keeps_asking (.unstaged trivial rfl) ?_)
            intro rested _ slept
            have kept := List.Subset.trans polled.kept slept.kept
            exact (ih (session.later kept) (opened.later kept) (paid.later kept) _).weaken
              fun _ _ later => List.Subset.trans all (List.Subset.trans slept.kept later)

end

-----------------------------------------------------------------------------------------
-- Every run
-----------------------------------------------------------------------------------------

/-- What stands behind a purchase that is reported. -/
structure Bought (library : OnrampLibrary Fault) (args : OnrampArgs) (exchanges : Exchanges Fault)
    (result : OnrampResult)
    : Prop where
  purchased
    : ∃ token quote deposit,
        Session args exchanges result.fundingAccount token
        ∧ Quoted args exchanges token quote
        ∧ Opened library args exchanges result.fundingAccount token quote deposit
        ∧ Paid library args exchanges deposit
        ∧ result.tryAmount = quote.sellAmount
        ∧ result.usdcAmount = quote.buyAmount
        ∧ result.quoteId = quote.id
        ∧ result.depositId = deposit.id

/-- The whole purchase, from its stages. -/
theorem keeps_runOnramp (library : OnrampLibrary Fault) (config : AnchorConfig) (fuel : Nat)
    (args : OnrampArgs)
    : (runOnramp library config fuel args).Keeps (OnrampRule library config args)
        (Bought library args) [] := by
  refine keeps_bind (keeps_asking (.staged rfl rfl below_nil) ?_)
  intro decided allowed asked
  have below : Below OnrampAsk.stage 1 decided := asked.next rfl below_nil
  cases allowed with
  | false => exact keeps_bind (keeps_asking (.unstaged nofun rfl) fun _ _ _ => trivial)
  | true =>
      have admitted : Admitted args decided := asked.replied
      refine keeps_bind ((keeps_emit admitted below).weaken ?_)
      rintro shown - ⟨kept, below⟩
      refine keeps_bind ((keeps_openSession (kept admitted) below).weaken ?_)
      rintro opening ⟨account, token⟩ ⟨session, below⟩
      refine keeps_bind ((keeps_payDeposit session below).weaken ?_)
      rintro paying ⟨quote, deposit⟩ ⟨session, quoted, opened, paid⟩
      refine keeps_bind (keeps_bind (keeps_asking (.unstaged trivial rfl) ?_))
      intro started start asked
      refine (keeps_pollDeposit (session.later asked.kept) (opened.later asked.kept)
        (paid.later asked.kept) _ fuel _).weaken ?_
      rintro waited ⟨tx, completed⟩ polled
      have kept := List.Subset.trans asked.kept polled
      replace session := session.later kept
      refine keeps_bind
        (keeps_bind (keeps_asking (.unstaged ⟨session.admitted, session.holds⟩ rfl) ?_))
      intro loaded balances loads
      refine keeps_bind
        (keeps_asking (.unstaged (fun _ => loads.kept session.admitted) rfl) ?_)
      intro last _ shows
      have all := List.Subset.trans kept (List.Subset.trans loads.kept shows.kept)
      exact
        ⟨token, quote, deposit, session.later (List.Subset.trans loads.kept shows.kept),
          quoted.later all, opened.later all, paid.later all, rfl, rfl, rfl, rfl⟩

def sampleReaders : OnrampLibrary Unit where
  host := .ok
  pathname := .ok
  encodeURIComponent := .ok
  readChallengeTx _ _ _ _ _ := .ok (js "GHOLDER")

def sampleAnchor : AnchorConfig where
  baseUrl := js "https://anchor.example"
  signingKey := js "GANCHOR"
  networkPassphrase := js "Test SDF Network ; September 2015"
  horizonUrl := js "https://horizon.example"
  usdcIssuer := js "GISSUER"
  explorerBase := js "https://explorer.example"

def samplePurchase : OnrampArgs where
  accountId := js "holder"
  walletCAddr := js "CWALLET"
  sell := js "100.00"

/-- An anchor that sells for what is asked and pays at once. -/
def sampleAnchorBody : AnchorRequest → Json.Value
  | .challenge _ => .object [(js "transaction", .string (js "AAAA"))]
  | .token _ => .object [(js "token", .string (js "jwt"))]
  | .registerCustomer | .readCustomer | .bankTransfer _ _ => .object []
  | .quote sellAmount =>
      .object
        [
          (js "id", .string (js "quote-1")),
          (js "price", .string (js "40.0")),
          (js "total_price", .string (js "41.0")),
          (js "sell_amount", .string sellAmount),
          (js "buy_amount", .string (js "2.43")),
          (js "expires_at", .string (js "2026-01-01T00:00:00Z"))
        ]
  | .deposit _ _ _ =>
      .object
        [
          (js "id", .string (js "deposit-1")),
          (js "bank_name", .string (js "Sandbox Bank"))
        ]
  | .transaction _ => .object [(js "status", .string (js "completed"))]

def sampleAnswer : ∀ question, (onrampOutside Unit).Answer question
  | .gateAllows _ => .ok true
  | .emit _ => .ok ()
  | .getOrCreate _ => .ok (js "GHOLDER")
  | .loadAccount _ => .ok []
  | .friendbot _ => .ok (true, 200)
  | .changeTrust _ _ => .ok (js "hash")
  | .signChallenge _ xdr => .ok xdr
  | .fetch request _ => .ok { ok := true, status := 200, body := some (sampleAnchorBody request) }
  | .now => .ok (0 : Int)
  | .sleep _ => .ok ()
  | .unbounded => .error ()

/-- Whatever the outside answers, every question of every run rests on what was answered before,
and comes once and in its order.
-/
theorem runOnramp_rule (library : OnrampLibrary Fault) (config : AnchorConfig) (fuel : Nat)
    (args : OnrampArgs) (exchanges : Exchanges Fault) (question : OnrampAsk)
    (next : Except Fault question.Reply → Talk Fault OnrampResult)
    (reaches : (runOnramp library config fuel args).Reaches exchanges (.ask question next))
    : OnrampRule library config args exchanges question :=
  (keeps_runOnramp library config fuel args).asks reaches

/-- After seventeen answers of the anchor that pays at once, the bank transfer is asked for. -/
theorem runOnramp_rule_sample
    : OnrampRule sampleReaders sampleAnchor samplePurchase
        (((runOnramp sampleReaders sampleAnchor 1 samplePurchase).play sampleAnswer).1.take 17)
        (.fetch (.bankTransfer (js "deposit-1") (js "100.00")) none) := by
  have asked
      : ((runOnramp sampleReaders sampleAnchor 1 samplePurchase).leftAfter sampleAnswer
            17).question?
        = some (.fetch (.bankTransfer (js "deposit-1") (js "100.00")) none) :=
    rfl
  obtain ⟨next, reaches⟩ := reaches_ask_leftAfter sampleAnswer 17 asked
  exact runOnramp_rule sampleReaders sampleAnchor 1 samplePurchase _ _ next reaches

/-- Whatever the outside answers, a purchase that is reported was admitted, quoted, opened and
paid for the account it names.
-/
theorem runOnramp_bought (library : OnrampLibrary Fault) (config : AnchorConfig) (fuel : Nat)
    (args : OnrampArgs) (exchanges : Exchanges Fault) (result : OnrampResult)
    (reaches : (runOnramp library config fuel args).Reaches exchanges (.done result))
    : Bought library args exchanges result :=
  (keeps_runOnramp library config fuel args).ended reaches

def sampleResult : OnrampResult where
  fundingAccount := js "GHOLDER"
  tryAmount := js "100.00"
  usdcAmount := js "2.43"
  quoteId := js "quote-1"
  depositId := js "deposit-1"
  stellarTxHash := []
  usdcBalance := js "0"

theorem runOnramp_bought_sample
    : Bought sampleReaders samplePurchase
        ((runOnramp sampleReaders sampleAnchor 1 samplePurchase).play sampleAnswer).1
        sampleResult :=
  runOnramp_bought sampleReaders sampleAnchor 1 samplePurchase _ _
    (reaches_done_play sampleAnswer (by decide +kernel))

end StellarOnramp.Onboard
