import StellarOnramp.Library.Dialogues
import StellarOnramp.Library.Json

/-! The submission of an invocation to the ledger, and its reads. A submission is built from the
account as it stands, simulated, signed, sent and polled; a read is only simulated. The network
may answer anything, or fail, at any time.
-/

namespace StellarOnramp.Sdk

open Dialogues Dialogue JsText

-----------------------------------------------------------------------------------------
-- The ledger
-----------------------------------------------------------------------------------------

/-- The ledger's library: its own types, and what it computes without the network. -/
structure LedgerSdk (Fault : Type) where
  Operation : Type
  Account : Type
  Transaction : Type
  Native : Type
  /-- A transaction of one operation, from an account, with a fee, a network and a timeout. -/
  build : Account → JsString → JsString → Operation → Nat → Except Fault Transaction
  /-- `String(cause.message ?? cause)` -/
  causeText : Fault → JsString

/-- A key of a footprint: the durability of contract data, or the kind of another entry. -/
inductive FootprintKey where
  | contractData (durability : JsString)
  | other (kind : JsString)

def FootprintKey.name : FootprintKey → JsString
  | contractData durability => durability
  | other kind => kind

/-- What the network kept of a transaction that went through. -/
structure Confirmed where
  instructions : Nat
  diskReadBytes : Nat
  writeBytes : Nat
  readWrite : List FootprintKey
  resourceFee : Int
  feeCharged : Int

/-- The state of a transaction. What was kept may turn out not to be readable. -/
inductive TransactionState (Fault : Type) where
  | success (confirmed : Except Fault Confirmed)
  | failed (resultXdr : Option JsString)
  | notFound

/-- The answer to a transaction that is sent, with the JSON text of its error. -/
structure SendAnswer where
  hash : JsString
  status : JsString
  errorResult : JsString

/-- A simulation: refused, or with the value it returns, if it has a result. -/
inductive SimulationAnswer (Fault Native : Type) where
  | error (message : JsString)
  | success (retval : Option (Except Fault Native))

variable {Fault : Type}

/-- What a submitter asks. The key stays with its holder, who signs. -/
inductive RpcAsk (sdk : LedgerSdk Fault) where
  | getAccount (publicKey : JsString)
  | prepareTransaction (transaction : sdk.Transaction)
  | sign (prepared : sdk.Transaction)
  | sendTransaction (signed : sdk.Transaction)
  | getTransaction (hash : JsString)
  | simulateTransaction (transaction : sdk.Transaction)
  | sleep (milliseconds : Nat)

def RpcAsk.Reply {sdk : LedgerSdk Fault} : RpcAsk sdk → Type
  | getAccount _ => sdk.Account
  | prepareTransaction _ => sdk.Transaction
  | sign _ => sdk.Transaction
  | sendTransaction _ => SendAnswer
  | getTransaction _ => TransactionState Fault
  | simulateTransaction _ => SimulationAnswer Fault sdk.Native
  | sleep _ => Unit

abbrev rpcOutside (sdk : LedgerSdk Fault) : Outside := faulty Fault (RpcAsk sdk) RpcAsk.Reply

-----------------------------------------------------------------------------------------
-- The submitter
-----------------------------------------------------------------------------------------

structure AttestSubmitterConfig where
  networkPassphrase : JsString
  /-- The public key of the funded source that signs and pays. -/
  submitter : JsString
  submitFeeStroops : JsString := js "2000000"
  readFeeStroops : JsString := js "200000"
  timeoutSeconds : Nat := 60
  pollAttempts : Nat := 40
  pollIntervalMs : Nat := 1000

structure LandedTx where
  call : JsString
  hash : JsString
  instructions : Nat
  diskReadBytes : Nat
  writeBytes : Nat
  writeFootprint : JsString
  resourceFeeDeclaredStroops : Int
  feeChargedStroops : Int

/-- The names of the footprint, in the order of their code units, joined by `+`. -/
def writeFootprint (readWrite : List FootprintKey) : JsString :=
  [43].intercalate ((readWrite.map FootprintKey.name).mergeSort fun left right => left ≤ right)

def landedTx (label hash : JsString) (confirmed : Confirmed) : LandedTx where
  call := label
  hash
  instructions := confirmed.instructions
  diskReadBytes := confirmed.diskReadBytes
  writeBytes := confirmed.writeBytes
  writeFootprint := writeFootprint confirmed.readWrite
  resourceFeeDeclaredStroops := confirmed.resourceFee
  feeChargedStroops := confirmed.feeCharged

structure SubmissionError (Fault : Type) where
  message : JsString
  cause : Option Fault

/-- `fault` is whatever else was thrown. -/
inductive SubmitFailure (Fault : Type) where
  | submission (error : SubmissionError Fault)
  | fault (fault : Fault)

abbrev RpcTalk (sdk : LedgerSdk Fault) (Value : Type) :=
  Dialogue (rpcOutside sdk) (SubmitFailure Fault) Value

section

variable (sdk : LedgerSdk Fault) (config : AttestSubmitterConfig)

def refuse {Value : Type} (message : JsString) : RpcTalk sdk Value :=
  .failed (.submission { message, cause := none })

/-- A fault that is rethrown with its text. -/
def rethrown (message : JsString) (fault : Fault) : SubmitFailure Fault :=
  .submission { message := message ++ sdk.causeText fault, cause := some fault }

def getAccount (publicKey : JsString) : RpcTalk sdk sdk.Account :=
  asking SubmitFailure.fault (RpcAsk.getAccount publicKey)

def prepareTransaction (label : JsString) (transaction : sdk.Transaction)
    : RpcTalk sdk sdk.Transaction :=
  asking (rethrown sdk (label ++ js " failed pre-submit simulation: "))
    (RpcAsk.prepareTransaction transaction)

def sign (prepared : sdk.Transaction) : RpcTalk sdk sdk.Transaction :=
  asking SubmitFailure.fault (RpcAsk.sign prepared)

def sendTransaction (label : JsString) (signed : sdk.Transaction) : RpcTalk sdk SendAnswer :=
  asking (rethrown sdk (label ++ js " rejected on submit: ")) (RpcAsk.sendTransaction signed)

def getTransaction (hash : JsString) : RpcTalk sdk (TransactionState Fault) :=
  asking SubmitFailure.fault (RpcAsk.getTransaction hash)

def simulateTransaction (transaction : sdk.Transaction)
    : RpcTalk sdk (SimulationAnswer Fault sdk.Native) :=
  asking SubmitFailure.fault (RpcAsk.simulateTransaction transaction)

def sleep (milliseconds : Nat) : RpcTalk sdk Unit :=
  asking SubmitFailure.fault (RpcAsk.sleep milliseconds)

def build (op : sdk.Operation) (fee : JsString) (timeoutSeconds : Nat)
    : RpcTalk sdk sdk.Transaction := do
  let account ← getAccount sdk config.submitter
  .ofExcept
    ((sdk.build account fee config.networkPassphrase op timeoutSeconds).mapError .fault)

/-- The polls of a transaction that was sent, one attempt after the other. -/
def pollTransaction (label hash : JsString) : Nat → RpcTalk sdk LandedTx
  | 0 => refuse sdk (label ++ js " never confirmed")
  | attempts + 1 => do
      let got ← getTransaction sdk hash
      match got with
      | .success confirmed =>
          let kept ← .ofExcept (confirmed.mapError .fault)
          return landedTx label hash kept
      | .failed resultXdr =>
          let result :=
            (resultXdr.map fun text => Json.stringify (.string text)).getD (js "undefined")
          refuse sdk (label ++ js " FAILED on chain: " ++ result)
      | .notFound =>
          sleep sdk config.pollIntervalMs
          pollTransaction label hash attempts

def submit (op : sdk.Operation) (label : JsString) (feeStroops : Option JsString)
    : RpcTalk sdk LandedTx := do
  let tx ← build sdk config op (feeStroops.getD config.submitFeeStroops) config.timeoutSeconds
  let prepared ← prepareTransaction sdk label tx
  let signed ← sign sdk prepared
  let sent ← sendTransaction sdk label signed
  if sent.status = js "ERROR" then
    refuse sdk (label ++ js " rejected on submit: " ++ sent.errorResult)
  else
    pollTransaction sdk config label sent.hash config.pollAttempts

def simulate (op : sdk.Operation) : RpcTalk sdk (SimulationAnswer Fault sdk.Native) := do
  let tx ← build sdk config op config.readFeeStroops 30
  simulateTransaction sdk tx

def simulateRead (op : sdk.Operation) (label : JsString) : RpcTalk sdk sdk.Native := do
  let simulated ← simulate sdk config op
  match simulated with
  | .error message => refuse sdk (label ++ js " simulation failed: " ++ message)
  | .success none => refuse sdk (label ++ js " simulation returned no result")
  | .success (some retval) => .ofExcept (retval.mapError .fault)

/-- The refusal of an invocation, if it is refused. -/
def simulateError (op : sdk.Operation) : RpcTalk sdk (Option JsString) := do
  let simulated ← simulate sdk config op
  match simulated with
  | .error message => return some message
  | .success _ => return none

end

-----------------------------------------------------------------------------------------
-- What a submission rests on
-----------------------------------------------------------------------------------------

/-- The place of a question in the order of a submission. -/
def RpcAsk.stage {sdk : LedgerSdk Fault} : RpcAsk sdk → Option Nat
  | .getAccount _ => some 0
  | .prepareTransaction _ => some 1
  | .sign _ => some 2
  | .sendTransaction _ => some 3
  | .getTransaction _ | .simulateTransaction _ | .sleep _ => none

def RpcAsk.polls {sdk : LedgerSdk Fault} : RpcAsk sdk → Bool
  | .getTransaction _ => true
  | _ => false

section

variable (sdk : LedgerSdk Fault) (config : AttestSubmitterConfig) (op : sdk.Operation)
  (fee : JsString) (timeoutSeconds : Nat) (before : List (Exchange (rpcOutside sdk)))

/-- The transaction of the operation, from the submitter's account as it was read. -/
def Built (tx : sdk.Transaction) : Prop :=
  ∃ account : sdk.Account,
    Replied before (.getAccount config.submitter) account
    ∧ sdk.build account fee config.networkPassphrase op timeoutSeconds = .ok tx

def Prepared (prepared : sdk.Transaction) : Prop :=
  ∃ tx,
    Built sdk config op fee timeoutSeconds before tx
    ∧ Replied before (.prepareTransaction tx) prepared

def Signed (signed : sdk.Transaction) : Prop :=
  ∃ prepared,
    Prepared sdk config op fee timeoutSeconds before prepared
    ∧ Replied before (.sign prepared) signed

/-- The network has taken the signed transaction. -/
def Sent (sent : SendAnswer) : Prop :=
  sent.status ≠ js "ERROR"
  ∧ ∃ signed,
      Signed sdk config op fee timeoutSeconds before signed
      ∧ Replied before (.sendTransaction signed) sent

def pollsIn : Nat := before.countP fun exchange => exchange.question.polls

/-- No poll has been answered with a verdict. -/
def Open : Prop :=
  ∀ hash (got : TransactionState Fault),
    Replied before (.getTransaction hash) got → got = .notFound

def SubmitAllowed : RpcAsk sdk → Prop
  | .getAccount publicKey => publicKey = config.submitter
  | .prepareTransaction tx => Built sdk config op fee timeoutSeconds before tx
  | .sign prepared => Prepared sdk config op fee timeoutSeconds before prepared
  | .sendTransaction signed => Signed sdk config op fee timeoutSeconds before signed
  | .getTransaction hash =>
      Open sdk before
      ∧ pollsIn sdk before < config.pollAttempts
      ∧ ∃ sent, Sent sdk config op fee timeoutSeconds before sent ∧ hash = sent.hash
  | .simulateTransaction _ => False
  | .sleep milliseconds => milliseconds = config.pollIntervalMs

/-- A question rests on what came before, and comes once and in order. -/
abbrev SubmitRule : List (Exchange (rpcOutside sdk)) → RpcAsk sdk → Prop :=
  InOrder RpcAsk.stage (SubmitAllowed sdk config op fee timeoutSeconds)

/-- What stands behind a transaction that is reported as landed. -/
def Landed (label : JsString) (result : LandedTx) : Prop :=
  ∃ sent confirmed,
    Sent sdk config op fee timeoutSeconds before sent
    ∧ Replied before (.getTransaction sent.hash) (.success (.ok confirmed))
    ∧ result = landedTx label sent.hash confirmed

end

section

variable {sdk : LedgerSdk Fault} {config : AttestSubmitterConfig} {op : sdk.Operation}
  {fee : JsString} {timeoutSeconds : Nat} {before after : List (Exchange (rpcOutside sdk))}

theorem Sent.later (kept : before ⊆ after) {sent : SendAnswer}
    (taken : Sent sdk config op fee timeoutSeconds before sent)
    : Sent sdk config op fee timeoutSeconds after sent := by
  obtain ⟨status, signed, ⟨prepared, ⟨tx, ⟨account, read, built⟩, simulated⟩, signs⟩, sends⟩ :=
    taken
  exact
    ⟨status, signed, ⟨prepared, ⟨tx, ⟨account, kept read, built⟩, kept simulated⟩, kept signs⟩,
      kept sends⟩

/-- What is no poll leaves the polls as they are. -/
theorem Open.later {question : RpcAsk sdk} {reply : question.Reply} (pending : Open sdk before)
    (asked : Extends before question reply after) (unpolled : question.polls = false)
    : Open sdk after := by
  intro hash got replied
  rw [asked.appended] at replied
  rcases List.mem_append.mp replied with earlier | last
  · exact pending hash got earlier
  · cases List.mem_singleton.mp last
    cases unpolled

theorem pollsIn_extends {question : RpcAsk sdk} {reply : question.Reply}
    (asked : Extends before question reply after)
    : pollsIn sdk after = pollsIn sdk before + (if question.polls then 1 else 0) := by
  unfold pollsIn
  rw [asked.appended, List.countP_append, List.countP_singleton]

/-- Attempt by attempt, by induction on those that are left. -/
theorem keeps_pollTransaction (label : JsString) {sent : SendAnswer} {attempts : Nat}
    (taken : Sent sdk config op fee timeoutSeconds before sent) (pending : Open sdk before)
    (left : pollsIn sdk before + attempts = config.pollAttempts)
    : (pollTransaction sdk config label sent.hash attempts).Keeps
        (SubmitRule sdk config op fee timeoutSeconds)
        (fun exchanges => Landed sdk config op fee timeoutSeconds exchanges label) before := by
  induction attempts generalizing before with
  | zero => trivial
  | succ attempts ih =>
      refine keeps_bind
        (keeps_asking (.unstaged ⟨pending, by omega, sent, taken, rfl⟩ rfl) ?_)
      intro polled got asked
      replace taken := taken.later asked.kept
      cases got with
      | success confirmed =>
          refine keeps_bind (keeps_mapError fun kept read => ?_)
          exact ⟨sent, kept, taken, read ▸ asked.replied, rfl⟩
      | failed resultXdr => trivial
      | notFound =>
          have still : Open sdk polled := by
            intro hash other replied
            rw [asked.appended] at replied
            rcases List.mem_append.mp replied with earlier | last
            · exact pending hash other earlier
            · cases List.mem_singleton.mp last
              rfl
          refine keeps_bind (keeps_asking (.unstaged rfl rfl) ?_)
          intro slept _ rested
          refine ih (taken.later rested.kept) (still.later rested rfl) ?_
          have counted := pollsIn_extends asked
          have uncounted := pollsIn_extends rested
          simp only [RpcAsk.polls, if_true, Bool.false_eq_true, if_false] at counted uncounted
          omega

theorem keeps_build (fee : JsString) (timeoutSeconds : Nat)
    {rule : List (Exchange (rpcOutside sdk)) → RpcAsk sdk → Prop}
    (asks : rule [] (.getAccount config.submitter))
    : (build sdk config op fee timeoutSeconds).Keeps rule
        (fun exchanges tx =>
          Built sdk config op fee timeoutSeconds exchanges tx
          ∧ Below RpcAsk.stage 1 exchanges
          ∧ Open sdk exchanges
          ∧ pollsIn sdk exchanges = 0) [] := by
  refine keeps_bind (keeps_asking asks fun after account asked => ?_)
  refine keeps_mapError fun tx built => ⟨⟨account, asked.replied, built⟩, ?_, ?_, ?_⟩
  · exact asked.next rfl below_nil
  · exact Open.later (fun _ _ replied => absurd replied List.not_mem_nil) asked rfl
  · exact pollsIn_extends asked

theorem keeps_submit (sdk : LedgerSdk Fault) (config : AttestSubmitterConfig) (op : sdk.Operation)
    (label : JsString) (feeStroops : Option JsString)
    : (submit sdk config op label feeStroops).Keeps
        (SubmitRule sdk config op (feeStroops.getD config.submitFeeStroops)
          config.timeoutSeconds)
        (fun exchanges =>
          Landed sdk config op (feeStroops.getD config.submitFeeStroops) config.timeoutSeconds
            exchanges label) [] := by
  refine keeps_bind ((keeps_build _ _ (.staged rfl rfl below_nil)).weaken ?_)
  rintro built tx ⟨made, below, pending, unpolled⟩
  refine keeps_bind (keeps_asking (.staged made rfl below) ?_)
  intro prepared ready asked
  obtain ⟨account, read, same⟩ := made
  have simulated := asked.replied
  replace below := asked.next rfl below
  replace pending := pending.later asked rfl
  replace unpolled := (pollsIn_extends asked).trans unpolled
  replace read := asked.kept read
  refine keeps_bind (keeps_asking (.staged ⟨tx, ⟨account, read, same⟩, simulated⟩ rfl below) ?_)
  intro signing signed asked
  replace below := asked.next rfl below
  replace pending := pending.later asked rfl
  replace unpolled := (pollsIn_extends asked).trans unpolled
  have signs : Signed sdk config op (feeStroops.getD config.submitFeeStroops)
      config.timeoutSeconds signing signed :=
    ⟨ready, ⟨tx, ⟨account, asked.kept read, same⟩, asked.kept simulated⟩, asked.replied⟩
  refine keeps_bind (keeps_asking (.staged signs rfl below) ?_)
  intro sending sent asked
  split
  case isTrue => trivial
  case isFalse accepted =>
    obtain ⟨ready, ⟨tx, ⟨account, read, same⟩, simulated⟩, signs⟩ := signs
    refine keeps_pollTransaction label ?_ (pending.later asked rfl) ?_
    · exact
        ⟨accepted, signed,
          ⟨ready, ⟨tx, ⟨account, asked.kept read, same⟩, asked.kept simulated⟩, asked.kept signs⟩,
          asked.replied⟩
    · rw [pollsIn_extends asked, unpolled]
      exact Nat.zero_add _

end

/-- A read asks for the account and simulates; it neither signs nor sends. -/
def ReadAllowed (sdk : LedgerSdk Fault) (config : AttestSubmitterConfig) (op : sdk.Operation)
    (before : List (Exchange (rpcOutside sdk)))
    : RpcAsk sdk → Prop
  | .getAccount publicKey => publicKey = config.submitter
  | .simulateTransaction tx => Built sdk config op config.readFeeStroops 30 before tx
  | _ => False

theorem keeps_simulate (sdk : LedgerSdk Fault) (config : AttestSubmitterConfig)
    (op : sdk.Operation)
    : (simulate sdk config op).Keeps (ReadAllowed sdk config op)
        (fun exchanges simulated =>
          ∃ tx : sdk.Transaction, Replied exchanges (.simulateTransaction tx) simulated) [] := by
  refine keeps_bind ((keeps_build _ _ rfl).weaken ?_)
  rintro built tx ⟨made, -⟩
  exact keeps_asking made fun after simulated asked => ⟨tx, asked.replied⟩

/-- Whatever the network answers, a refusal that is handed back is the simulation's own. -/
theorem keeps_simulateError (sdk : LedgerSdk Fault) (config : AttestSubmitterConfig)
    (op : sdk.Operation)
    : (simulateError sdk config op).Keeps (ReadAllowed sdk config op)
        (fun exchanges refusal =>
          ∀ message ∈ refusal,
            ∃ tx : sdk.Transaction,
              Replied exchanges (.simulateTransaction tx) (.error message)) [] := by
  refine keeps_bind ((keeps_simulate sdk config op).weaken ?_)
  rintro after simulated ⟨tx, replied⟩
  cases simulated with
  | error message =>
      intro other same
      cases same
      exact ⟨tx, replied⟩
  | success retval =>
      rintro message ⟨⟩

/-- Whatever the network answers, a value that is read is the simulation's own. -/
theorem keeps_simulateRead (sdk : LedgerSdk Fault) (config : AttestSubmitterConfig)
    (op : sdk.Operation) (label : JsString)
    : (simulateRead sdk config op label).Keeps (ReadAllowed sdk config op)
        (fun exchanges value =>
          ∃ tx : sdk.Transaction,
            Replied exchanges (.simulateTransaction tx) (.success (some (.ok value)))) [] := by
  refine keeps_bind ((keeps_simulate sdk config op).weaken ?_)
  rintro after simulated ⟨tx, replied⟩
  cases simulated with
  | error message => trivial
  | success retval =>
      cases retval with
      | none => trivial
      | some value => exact keeps_mapError fun native read => ⟨tx, read ▸ replied⟩

-----------------------------------------------------------------------------------------
-- Every run
-----------------------------------------------------------------------------------------

/-- Whatever the network answers, a submission signs and sends what it built and had prepared,
once and in that order, and polls what the network has taken, so often at most and only as long
as there is no verdict.
-/
theorem submit_rule (sdk : LedgerSdk Fault) (config : AttestSubmitterConfig) (op : sdk.Operation)
    (label : JsString) (feeStroops : Option JsString)
    (exchanges : List (Exchange (rpcOutside sdk))) (question : RpcAsk sdk)
    (next : Except Fault question.Reply → RpcTalk sdk LandedTx)
    (reaches : (submit sdk config op label feeStroops).Reaches exchanges (.ask question next))
    : SubmitRule sdk config op (feeStroops.getD config.submitFeeStroops) config.timeoutSeconds
        exchanges question :=
  (keeps_submit sdk config op label feeStroops).asks reaches

def sampleSdk : LedgerSdk Unit where
  Operation := Unit
  Account := Nat
  Transaction := Nat
  Native := Unit
  build sequence _ _ _ _ := .ok (10 * sequence)
  causeText _ := js "timeout"

def sampleSubmitter : AttestSubmitterConfig where
  networkPassphrase := js "Test SDF Network ; September 2015"
  submitter := js "GPAYER"

def sampleConfirmed : Confirmed where
  instructions := 61000000
  diskReadBytes := 2048
  writeBytes := 512
  readWrite := [.contractData (js "persistent")]
  resourceFee := 1500000
  feeCharged := 900000

/-- A network that takes what it is sent and has it confirmed at the first poll. -/
def sampleNetwork : ∀ question, (rpcOutside sampleSdk).Answer question
  | .getAccount _ => .ok (1 : Nat)
  | .prepareTransaction _ => .ok (11 : Nat)
  | .sign _ => .ok (12 : Nat)
  | .sendTransaction _ => .ok { hash := js "ab", status := js "PENDING", errorResult := [] }
  | .getTransaction _ => .ok (.success (.ok sampleConfirmed))
  | .simulateTransaction _ => .ok (.success none)
  | .sleep _ => .ok ()

/-- Once the prepared transaction is signed, it is sent. -/
theorem submit_rule_sample
    : SubmitRule sampleSdk sampleSubmitter () (js "2000000") 60
        [
          ⟨.getAccount (js "GPAYER"), .ok (1 : Nat)⟩,
          ⟨.prepareTransaction (10 : Nat), .ok (11 : Nat)⟩,
          ⟨.sign (11 : Nat), .ok (12 : Nat)⟩
        ]
        (.sendTransaction (12 : Nat)) :=
  submit_rule sampleSdk sampleSubmitter () (js "attest_bbs") none _ _ _
    (.answered (.answered (.answered (.here _))))

/-- Whatever the network answers, a transaction that is reported as landed is the one that was
built, prepared, signed and sent, and the network has confirmed it with the numbers reported.
-/
theorem submit_landed (sdk : LedgerSdk Fault) (config : AttestSubmitterConfig)
    (op : sdk.Operation) (label : JsString) (feeStroops : Option JsString)
    (exchanges : List (Exchange (rpcOutside sdk))) (result : LandedTx)
    (reaches : (submit sdk config op label feeStroops).Reaches exchanges (.done result))
    : Landed sdk config op (feeStroops.getD config.submitFeeStroops) config.timeoutSeconds
        exchanges label result :=
  (keeps_submit sdk config op label feeStroops).ended reaches

theorem submit_landed_sample
    : Landed sampleSdk sampleSubmitter () (js "2000000") 60
        ((submit sampleSdk sampleSubmitter () (js "attest_bbs") none).play sampleNetwork).1
        (js "attest_bbs") (landedTx (js "attest_bbs") (js "ab") sampleConfirmed) :=
  submit_landed sampleSdk sampleSubmitter () (js "attest_bbs") none _ _
    (reaches_done_play sampleNetwork rfl)

end StellarOnramp.Sdk
