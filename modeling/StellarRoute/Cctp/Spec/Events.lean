import StellarRoute.Cctp.Spec.StellarTx

/-! The contract events that Circle's Stellar contracts emit
(`stellar_contract_events.rs`) and the recipient of a forwarded mint
(`stellar_muxed.rs`). -/

namespace StellarRoute.Cctp

open Lib

structure DepositForBurnEvent where
  burnToken : ScAddress
  depositor : ScAddress
  minFinalityThreshold : ℕ
  amount : ℤ
  mintRecipient : Bytes32
  destinationDomain : ℕ
  destinationTokenMessenger : Bytes32
  destinationCaller : Bytes32
  maxFee : ℤ
  hookData : Bytes
deriving DecidableEq

structure MessageReceivedEvent where
  caller : ScAddress
  nonce : Bytes32
  finalityThresholdExecuted : ℕ
  sourceDomain : ℕ
  sender : Bytes32
  messageBody : Bytes
deriving DecidableEq

structure MintAndForwardEvent where
  forwardRecipient : String
  token : ScAddress
  amount : ℤ
deriving DecidableEq

/-! ### Values -/

def topicSymbol (topics : List ScVal) (index : ℕ) : Except VerifierError String :=
  match topics[index]? with
  | some (.symbol sym) => .ok sym
  | _ => .error (.failed "missing event topic symbol")

def scvalToAddress : ScVal → Except VerifierError ScAddress
  | .address a => .ok a
  | _ => .error (.failed "expected address")

def scvalToI128 : ScVal → Except VerifierError ℤ
  | .i128 n => .ok n
  | _ => .error (.failed "expected i128")

def scvalToU32 : ScVal → Except VerifierError ℕ
  | .u32 n => .ok n
  | _ => .error (.failed "expected u32")

def scvalToBytes32 : ScVal → Except VerifierError Bytes32
  | .bytes b => if h : b.length = 32 then .ok ⟨b, h⟩ else .error (.failed "expected bytes32")
  | _ => .error (.failed "expected bytes32")

def scvalToBytes : ScVal → Except VerifierError Bytes
  | .bytes b => .ok b
  | _ => .error (.failed "expected bytes")

def ScVal.isSymbol (key : String) : ScVal → Bool
  | .symbol sym => sym = key
  | _ => false

/-- The first entry with this key. -/
def mapGet (data : ScVal) (key : String) : Except VerifierError ScVal :=
  match data with
  | .map (some entries) =>
    match entries.find? fun entry => entry.1.isSymbol key with
    | some entry => .ok entry.2
    | none => .error (.failed s!"missing field {key}")
  | _ => .error (.failed "expected event map")

def checkByteLen (label : String) (bytes : Bytes) (max : ℕ) : Except VerifierError Unit :=
  require (bytes.length ≤ max) (.failed s!"{label} exceeds max {max} bytes")

variable (c : Codec)

def addressToStrkey : ScAddress → Except VerifierError String
  | .contract id => .ok (c.contractToString id)
  | .account key => .ok (c.accountToString key)
  | .muxedAccount key id => .ok (c.muxedToString key id)
  | .other => .error (.failed "unsupported address type")

def contractHash (event : ContractEvent) : Except VerifierError Bytes32 :=
  okOr event.contractId (.failed "missing contract id")

/-! ### Recipients -/

def scAddressToForwardRecipientStrkey : ScAddress → Except VerifierError String
  | .account key => .ok (c.accountToString key)
  | .contract _ => .error (.failed "contract forward recipient unsupported")
  | .muxedAccount key id => .ok (c.muxedToString key id)
  | .other => .error (.failed "unsupported forward recipient address type")

def muxedRecipientFromScval : ScVal → Except VerifierError String
  | .address addr => scAddressToForwardRecipientStrkey c addr
  | _ => .error (.failed "forward_recipient type")

def StellarRecipientKey.isContract : StellarRecipientKey → Bool
  | .contract _ => true
  | _ => false

def stellarRecipientsMatch (expected actual : String) : Except VerifierError Unit := do
  let expectedKey ← parseRecipientStrkey c expected
  require (!expectedKey.isContract) (.failed "contract recipient not allowed for corridor")
  let actualKey ← parseRecipientStrkey c actual
  require (!actualKey.isContract) (.failed "contract forward recipient unsupported")
  require (expectedKey = actualKey) (.failed "recipient mismatch")

/-! ### Events -/

def eventTopics (event : ContractEvent) (name : String) (count : ℕ) :
    Except VerifierError Unit := do
  let sym ← topicSymbol event.topics 0
  require (sym = name) (.failed "wrong event")
  require (event.topics.length = count) (.failed s!"{name} topic count")

/-- A missing or void field is empty. -/
def hookDataField (data : ScVal) : Except VerifierError Bytes :=
  match mapGet data "hook_data" with
  | .ok .void => .ok []
  | .ok v => scvalToBytes v
  | .error _ => .ok []

def parseDepositForBurn (event : ContractEvent) : Except VerifierError DepositForBurnEvent := do
  eventTopics event "deposit_for_burn" 4
  let burnToken ← scvalToAddress (event.topics.getD 1 .void)
  let depositor ← scvalToAddress (event.topics.getD 2 .void)
  let minFinalityThreshold ← scvalToU32 (event.topics.getD 3 .void)
  let amount ← scvalToI128 (← mapGet event.data "amount")
  let mintRecipient ← scvalToBytes32 (← mapGet event.data "mint_recipient")
  let destinationDomain ← scvalToU32 (← mapGet event.data "destination_domain")
  let destinationTokenMessenger ← scvalToBytes32 (← mapGet event.data "destination_token_messenger")
  let destinationCaller ← scvalToBytes32 (← mapGet event.data "destination_caller")
  let maxFee ← scvalToI128 (← mapGet event.data "max_fee")
  let hookData ← hookDataField event.data
  pure { burnToken, depositor, minFinalityThreshold, amount, mintRecipient, destinationDomain
         destinationTokenMessenger, destinationCaller, maxFee, hookData }

def parseMessageSent (event : ContractEvent) : Except VerifierError Bytes := do
  eventTopics event "message_sent" 1
  let message ← scvalToBytes (← mapGet event.data "message")
  checkByteLen "message" message MAX_RAW_MESSAGE_BYTES
  pure message

def parseMessageReceived (event : ContractEvent) : Except VerifierError MessageReceivedEvent := do
  eventTopics event "message_received" 4
  let messageBody ← scvalToBytes (← mapGet event.data "message_body")
  checkByteLen "message_body" messageBody MAX_RAW_MESSAGE_BYTES
  let caller ← scvalToAddress (event.topics.getD 1 .void)
  let nonce ← scvalToBytes32 (event.topics.getD 2 .void)
  let finalityThresholdExecuted ← scvalToU32 (event.topics.getD 3 .void)
  let sourceDomain ← scvalToU32 (← mapGet event.data "source_domain")
  let sender ← scvalToBytes32 (← mapGet event.data "sender")
  pure { caller, nonce, finalityThresholdExecuted, sourceDomain, sender, messageBody }

def parseMintAndForward (event : ContractEvent) : Except VerifierError MintAndForwardEvent := do
  eventTopics event "mint_and_forward" 1
  let forwardRecipient ← muxedRecipientFromScval c (← mapGet event.data "forward_recipient")
  let token ← scvalToAddress (← mapGet event.data "token")
  let amount ← scvalToI128 (← mapGet event.data "amount")
  pure { forwardRecipient, token, amount }

/-- What `parse` makes of the events of one contract. The source keeps a count and the last event
parsed; one that cannot be attributed to a contract ends the search. -/
def eventsOf {α : Type} (parse : ContractEvent → Except VerifierError α) (contract : Bytes32)
    (events : List ContractEvent) : Except VerifierError (List α) := do
  let own ← events.filterM fun event => do
    let hash ← contractHash event
    pure (decide (hash = contract))
  pure (own.filterMap fun event => (parse event).toOption)

end StellarRoute.Cctp
