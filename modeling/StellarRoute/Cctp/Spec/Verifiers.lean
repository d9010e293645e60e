import StellarRoute.Cctp.Spec.Events
import StellarRoute.Cctp.Spec.Service

/-! The verifiers that run in production: burns and mints on Sepolia
(`evm_burn_verifier.rs`, `evm_mint_verifier.rs`) and on Stellar
(`stellar_burn_verifier.rs`, `stellar_mint_verifier.rs`), as functions of what
the two nodes answer. The service asks them through `Query`; `Env.Asks` says
that its answers are theirs. The HTTP exchange behind an answer is left out. -/

namespace StellarRoute.Cctp

open Lib

/-! ### The nodes -/

/-- `sender` and `target` are the `from` and `to` of the answer. -/
structure EthTransaction where
  sender : Option String
  target : Option String
  input : Option String

structure EthLog where
  address : String
  topics : List String
  data : String

structure EthReceipt where
  status : Option String
  logs : Option (List EthLog)
  blockNumber : Option String

/-- The answers of a Sepolia node. -/
structure EvmNode where
  getTransactionByHash : String → Except VerifierError EthTransaction
  getTransactionReceipt : String → Except VerifierError EthReceipt
  chainId : Except VerifierError String
  blockNumber : Except VerifierError String
  call : (target data : String) → Except VerifierError String

structure StellarNode where
  getTransaction : String → Except VerifierError GetTransactionResult
  latestLedger : Except VerifierError ℕ
  /-- the simulated call of `is_nonce_used` -/
  isNonceUsed : Bytes32 → Except VerifierError Bool

/-- What the chains answer during one verification. A verdict on a mint asks the Sepolia node for
the receipt twice; `evmAgain` answers the second time. -/
structure Chains where
  burnReady : CctpDirection → Bool
  mintReady : CctpDirection → Bool
  evm : EvmNode
  evmAgain : EvmNode
  stellar : StellarNode

/-! ### Sepolia -/

def SEPOLIA_CHAIN_ID_NUM : ℕ := 11155111
def DEFAULT_MIN_CONFIRMATIONS : ℕ := 1
def DEPOSIT_FOR_BURN_SELECTOR : Bytes := [0x8e, 0x02, 0x50, 0xee]
def DEPOSIT_FOR_BURN_WITH_HOOK_SELECTOR : Bytes := [0x77, 0x9b, 0x43, 0x2d]
def RECEIVE_MESSAGE_SELECTOR : Bytes := [0x57, 0xec, 0xfd, 0x28]
def NONCE_USED_VALUE : ℕ := 1

def sepoliaTokenMessenger : EvmAddress := (parseEvmAddress SEPOLIA_TOKEN_MESSENGER).get (by decide)

def sepoliaMessageTransmitter : EvmAddress :=
  (parseEvmAddress SEPOLIA_MESSAGE_TRANSMITTER).get (by decide)

/-- `normalize_hash` of `evm_rpc.rs`. -/
def normalizeHash (hash : String) : String := "0x" ++ normalizeTxHash hash

def hexU64 (text msg : String) : Except VerifierError ℕ := okOr (parseHex (2 ^ 64) text) (.failed msg)

def ensureChain (node : EvmNode) : Except VerifierError Unit := do
  let text ← node.chainId
  let parsed ← hexU64 text "chain id parse"
  require (parsed = SEPOLIA_CHAIN_ID_NUM) (.failed "wrong chain")

def confirmationsOk (node : EvmNode) (receipt : EthReceipt) : Except VerifierError Unit := do
  let latest ← node.blockNumber
  let latestNum ← hexU64 latest "block parse"
  let txBlock ← okOr receipt.blockNumber (.failed "pending")
  let txNum ← hexU64 txBlock "tx block parse"
  require (DEFAULT_MIN_CONFIRMATIONS ≤ (latestNum - txNum + 1) % 2 ^ 64)
    (.failed "insufficient confirmations")

/-- The text without one leading `0x`, as `alloy_primitives` reads it. -/
def stripLower0x (s : String) : String :=
  match s.toList with
  | '0' :: 'x' :: cs => String.ofList cs
  | _ => s

def parseB256 (s : String) : Option Bytes32 :=
  match hexDecode (stripLower0x s) with
  | some bytes => if h : bytes.length = 32 then some ⟨bytes, h⟩ else none
  | none => none

/-- The logs of one contract that `decode` reads. Topics that are no words are dropped, data that is
no hexadecimal text is empty. -/
def decodeLogs {α : Type} (decode : List Bytes32 → Bytes → Option α) (contract : EvmAddress)
    (logs : List EthLog) : List α :=
  logs.filterMap fun log =>
    if eqIgnoreAsciiCase log.address contract.format then
      match log.topics.filterMap parseB256 with
      | [] => none
      | topics => decode topics ((hexDecode (stripLower0x log.data)).getD [])
    else none

variable (c : Codec) (cfg : CctpConfig)

structure DecodedBurnCall where
  amount : ℕ
  destinationDomain : ℕ
  mintRecipient : Bytes32
  burnToken : EvmAddress
  destinationCaller : Bytes32
  maxFee : ℕ
  minFinality : ℕ
  hookData : Option Bytes
deriving DecidableEq

def BurnCall.decoded (call : BurnCall) (hookData : Option Bytes) : DecodedBurnCall where
  amount := call.amount
  destinationDomain := call.destinationDomain
  mintRecipient := call.mintRecipient
  burnToken := call.burnToken
  destinationCaller := call.destinationCaller
  maxFee := call.maxFee
  minFinality := call.minFinalityThreshold
  hookData := hookData

def nonemptyHook (hookData : Bytes) : Option Bytes := if hookData.isEmpty then none else some hookData

def decodeCalldata (input : String) : Except VerifierError DecodedBurnCall := do
  let bytes ← okOr (hexDecode (strip0x input)) (.failed "calldata hex")
  require (4 ≤ bytes.length) (.failed "calldata too short")
  if bytes.take 4 = DEPOSIT_FOR_BURN_SELECTOR then
    let call ← (c.abiDepositForBurn bytes).mapError VerifierError.failed
    pure (call.decoded none)
  else if bytes.take 4 = DEPOSIT_FOR_BURN_WITH_HOOK_SELECTOR then
    let call ← (c.abiDepositForBurnWithHook bytes).mapError VerifierError.failed
    pure (call.decoded (nonemptyHook call.hookData))
  else .error (.failed "unknown burn selector")

def calldataMatchesEvent (call : DecodedBurnCall) (event : DepositForBurn) : Bool :=
  call.amount = event.amount && call.destinationDomain = event.destinationDomain &&
    call.mintRecipient = event.mintRecipient && call.burnToken = event.burnToken &&
    call.destinationCaller = event.destinationCaller && call.maxFee = event.maxFee &&
    call.minFinality = event.minFinalityThreshold && call.hookData.getD [] = event.hookData

/-- `EvmRpcBurnVerifier::verify_burn`. -/
def evmVerifyBurn (ready : Bool) (node : EvmNode) (txHash : String) :
    Except VerifierError VerifiedBurnFacts := do
  require ready .notReady
  let hash := normalizeHash txHash
  let tx ← node.getTransactionByHash hash
  let receipt ← node.getTransactionReceipt hash
  require (receipt.status = some "0x1") (.failed "tx failed")
  let sender ← okOr tx.sender (.failed "missing from")
  let target ← okOr tx.target (.failed "missing to")
  require (toAsciiLowercase target = sepoliaTokenMessenger.format) (.failed "wrong contract")
  let input ← okOr tx.input (.failed "missing input")
  let call ← decodeCalldata c input
  ensureChain node
  confirmationsOk node receipt
  match decodeLogs c.depositForBurnLog sepoliaTokenMessenger (receipt.logs.getD []) with
  | [event] =>
    require (calldataMatchesEvent call event) (.failed "calldata/event mismatch")
    pure { txHash := hash, sourceChainId := SEPOLIA_CHAIN_ID, sourceDomain := 0
           destinationDomain := event.destinationDomain, sender
           amountCctpSubunits := if event.amount < 2 ^ 128 then event.amount else 0
           burnToken := leftPad event.burnToken, mintRecipient := event.mintRecipient
           destinationCaller := event.destinationCaller
           minFinalityThreshold := event.minFinalityThreshold
           hookData := nonemptyHook event.hookData
           tokenMessenger := leftPad sepoliaTokenMessenger, blockOrLedger := receipt.blockNumber }
  | _ => .error (.failed "ambiguous burn logs")

/-- `parse_stored_nonce`: `0x` and 64 digits, or a decimal number on the low sixteen bytes. -/
def parseStoredNonce (nonce : String) : Except VerifierError Bytes32 :=
  let trimmed := trim nonce
  if strip0x trimmed = trimmed then do
    let n ← okOr (parseDecimal (2 ^ 128) trimmed) (.failed "nonce format")
    pure ⟨List.replicate 16 0 ++ toBeBytes 16 n, by simp [toBeBytes]⟩
  else do
    require (byteLen (strip0x trimmed) = 64) (.failed "nonce hex length")
    let bytes ← okOr (hexDecode (strip0x trimmed)) (.failed "nonce hex")
    if h : bytes.length = 32 then pure ⟨bytes, h⟩ else .error (.failed "nonce hex")

/-- The call data of a mint. `trim_start_matches` drops every leading `0x`. -/
def decodeReceiveInput (input : String) : Except VerifierError (Bytes × Bytes) := do
  let bytes ← okOr (hexBytes (trimStart0x input.toList)) (.failed "calldata hex")
  (c.abiReceiveMessage bytes).mapError VerifierError.failed

def isReceived (parsed : ParsedCctpMessage) (message : Bytes) (log : MessageReceived) : Bool :=
  log.sourceDomain = parsed.sourceDomain && log.nonce = parsed.nonce &&
    log.sender = parsed.sender && log.messageBody = message.drop MESSAGE_HEADER_LEN

def queryNonceUsed (node : EvmNode) (nonce : Bytes32) : Except VerifierError Bool := do
  ensureChain node
  let data := "0x" ++ hexEncode (c.encodeUsedNonces nonce)
  let result ← node.call sepoliaMessageTransmitter.format data
  match trimStart0x result.toList with
  | [] => pure false
  | hex =>
    let bytes ← okOr (hexBytes hex) (.failed "usedNonces decode")
    pure (decide (beNat bytes = NONCE_USED_VALUE))

/-- `completion_outcome` of `evm_mint_verifier.rs`. -/
def evmCompletionOutcome (node : EvmNode) (txHash : String) (message : Bytes) (nonce : String) :
    Except VerifierError MintVerifyOutcome := do
  let parsed ← (parseCctpV2Message message).mapError fun e => VerifierError.failed e.display
  let expectedNonce ← parseStoredNonce nonce
  require (parsed.nonce = expectedNonce) (.failed "nonce/message mismatch")
  let receipt ← node.getTransactionReceipt (normalizeHash txHash)
  if receipt.status = some "0x1" then
    confirmationsOk node receipt
    match (decodeLogs c.messageReceivedLog sepoliaMessageTransmitter (receipt.logs.getD [])).filter
        (isReceived parsed message) with
    | [_] => pure .succeeded
    | [] =>
      let used ← queryNonceUsed c node parsed.nonce
      pure (if used then .reconciliationNonceConsumed else .pending)
    | _ => .error (.failed "ambiguous mint logs")
  else pure (.failedRetryable "tx failed")

def receivePayloadHash (message attestation : Bytes) : String :=
  let payload := PreparedWalletPayload.evmTransaction SEPOLIA_CHAIN_ID SEPOLIA_MESSAGE_TRANSMITTER
    ("0x" ++ hexEncode (c.encodeReceiveMessage message attestation)) "0"
  hexEncode (c.sha256 (c.walletPayloadJson payload)).bytes

/-- `EvmRpcMintVerifier::verify_mint_submission`. An outcome that cannot be told is pending. -/
def evmVerifyMintSubmission (ready : Bool) (node again : EvmNode) (txHash : String)
    (message attestation : Bytes) (nonce expectedPayloadHash : String) :
    Except VerifierError VerifiedMintFacts := do
  require ready .notReady
  ensureChain node
  let hash := normalizeHash txHash
  let tx ← node.getTransactionByHash hash
  let receipt ← node.getTransactionReceipt hash
  require (receipt.status = some "0x1") (.failed "tx failed")
  confirmationsOk node receipt
  let target ← okOr tx.target (.failed "missing to")
  require (toAsciiLowercase target = sepoliaMessageTransmitter.format) (.failed "wrong contract")
  let input ← okOr tx.input (.failed "missing input")
  let (txMessage, txAttestation) ← decodeReceiveInput c input
  require (txMessage = message ∧ txAttestation = attestation)
    (.failed "message/attestation mismatch")
  require (receivePayloadHash c message attestation = expectedPayloadHash)
    (.failed "payload hash mismatch")
  let outcome := ((evmCompletionOutcome c again txHash message nonce).toOption).getD .pending
  pure { txHash := hash, destinationChainId := SEPOLIA_CHAIN_ID
         contractAddress := sepoliaMessageTransmitter.format
         functionSelector := hexEncode RECEIVE_MESSAGE_SELECTOR
         messageHash := c.sha256 message, attestationHash := c.sha256 attestation, nonce
         payloadHash := expectedPayloadHash, outcome, recipientEvidence := tx.sender }

def evmVerifyMintCompletion (ready : Bool) (node : EvmNode) (txHash : String) (message : Bytes)
    (nonce : String) : Except VerifierError MintVerifyOutcome := do
  require ready .notReady
  evmCompletionOutcome c node txHash message nonce

/-! ### Stellar -/

/-- `as u128` of an `i128`. -/
def asU128 (n : ℤ) : ℕ := (n % 2 ^ 128).toNat

/-- `as i128` of a `u128`. -/
def asI128 (n : ℕ) : ℤ := if n < 2 ^ 127 then n else n - 2 ^ 128

def I128_MIN : ℤ := -2 ^ 127

def encodingFailed {α : Type} (x : Except EncodingError α) : Except VerifierError α :=
  x.mapError fun e => .failed e.display

structure DecodedBurnInvoke where
  caller : String
  localAmount : ℤ
  destinationDomain : ℕ
  mintRecipient : Bytes32
  burnToken : String
  destinationCaller : Bytes32
  localMaxFee : ℤ
  minFinality : ℕ
  hookData : Bytes
deriving DecidableEq

def decodeBurnInvoke (invoke : ParsedInvoke) : Except VerifierError DecodedBurnInvoke := do
  let withHook : Bool := invoke.function = "deposit_for_burn_with_hook"
  require (invoke.function = "deposit_for_burn" ∨ withHook) (.failed "wrong function")
  require (invoke.args.length = if withHook then 9 else 8) (.failed "burn arg count")
  let arg (i : ℕ) : ScVal := invoke.args.getD i .void
  let hookData ← if withHook then scvalToBytes (arg 8) else pure []
  let caller ← addressToStrkey c (← scvalToAddress (arg 0))
  let localAmount ← scvalToI128 (arg 1)
  let destinationDomain ← scvalToU32 (arg 2)
  let mintRecipient ← scvalToBytes32 (arg 3)
  let burnToken ← addressToStrkey c (← scvalToAddress (arg 4))
  let destinationCaller ← scvalToBytes32 (arg 5)
  let localMaxFee ← scvalToI128 (arg 6)
  let minFinality ← scvalToU32 (arg 7)
  pure { caller, localAmount, destinationDomain, mintRecipient, burnToken, destinationCaller
         localMaxFee, minFinality, hookData }

def invokeMatchesEvent (call : DecodedBurnInvoke) (event : DepositForBurnEvent) : Bool :=
  let canonicalAmount := ((stellarLocalToCanonicalAmount call.localAmount).toOption).getD I128_MIN
  let canonicalMaxFee :=
    ((stellarLocalToCanonicalAmountAllowZero call.localMaxFee).toOption).getD I128_MIN
  (addressToStrkey c event.depositor).toOption = some call.caller &&
    event.destinationDomain = call.destinationDomain &&
    event.mintRecipient = call.mintRecipient &&
    (addressToStrkey c event.burnToken).toOption = some call.burnToken &&
    event.destinationCaller = call.destinationCaller &&
    event.minFinalityThreshold = call.minFinality && event.hookData = call.hookData &&
    event.amount = canonicalAmount && event.maxFee = canonicalMaxFee

def findBurnEvents (events : List ContractEvent) (tokenMessenger messageTransmitter : Bytes32) :
    Except VerifierError (DepositForBurnEvent × Bytes) := do
  let burns ← eventsOf parseDepositForBurn tokenMessenger events
  let messages ← eventsOf parseMessageSent messageTransmitter events
  match burns, messages with
  | [burn], [message] => pure (burn, message)
  | [_], _ => .error (.failed "ambiguous message_sent events")
  | _, _ => .error (.failed "ambiguous deposit_for_burn events")

def finalizedTransaction (node : StellarNode) (txHash : String) :
    Except VerifierError FinalizedTx :=
  getFinalizedTransaction c cfg node.getTransaction node.latestLedger txHash

/-- `StellarRpcBurnVerifier::verify_burn`. -/
def stellarVerifyBurn (ready : Bool) (node : StellarNode) (txHash : String) :
    Except VerifierError VerifiedBurnFacts := do
  require ready .notReady
  let tx ← finalizedTransaction c cfg node txHash
  require (tx.status = .success) (.failed "tx failed")
  let invoke ← parseInvokeEnvelope c tx.envelopeXdr
  require (invoke.contractStrkey = STELLAR_TOKEN_MESSENGER) (.failed "wrong contract")
  let call ← decodeBurnInvoke c invoke
  require (call.caller = invoke.operationSource) (.failed "caller/op-source mismatch")
  let tmHash ← encodingFailed (stellarContractToBytes32 c STELLAR_TOKEN_MESSENGER)
  let mtHash ← encodingFailed (stellarContractToBytes32 c STELLAR_MESSAGE_TRANSMITTER)
  let (event, rawMessage) ← findBurnEvents tx.contractEvents tmHash mtHash
  require (invokeMatchesEvent c call event) (.failed "invoke/event mismatch")
  let parsed ← (parseCctpV2Message rawMessage).mapError fun e => VerifierError.failed e.display
  require (parsed.body.amount = asU128 event.amount) (.failed "message/event amount mismatch")
  require (parsed.body.mintRecipient = event.mintRecipient)
    (.failed "message/event recipient mismatch")
  require (parsed.destinationDomain = event.destinationDomain)
    (.failed "message/event domain mismatch")
  require (event.destinationTokenMessenger = parsed.recipient)
    (.failed "destination token messenger mismatch")
  let canonicalFromInvoke ← encodingFailed (stellarLocalToCanonicalAmount call.localAmount)
  require (canonicalFromInvoke = event.amount) (.failed "invoke/event amount mismatch")
  let burnToken ← encodingFailed (stellarContractToBytes32 c call.burnToken)
  pure { txHash := tx.txHash, sourceChainId := STELLAR_TESTNET_CHAIN_ID
         sourceDomain := parsed.sourceDomain, destinationDomain := event.destinationDomain
         sender := call.caller, amountCctpSubunits := asU128 event.amount, burnToken
         mintRecipient := event.mintRecipient, destinationCaller := event.destinationCaller
         minFinalityThreshold := event.minFinalityThreshold
         hookData := nonemptyHook event.hookData, tokenMessenger := tmHash
         blockOrLedger := some (toString tx.ledger) }

def decodeMintInvoke (invoke : ParsedInvoke) : Except VerifierError (Bytes × Bytes) := do
  require (invoke.function = "mint_and_forward") (.failed "wrong function")
  require (invoke.args.length = 2) (.failed "mint arg count")
  let message ← scvalToBytes (invoke.args.getD 0 .void)
  let attestation ← scvalToBytes (invoke.args.getD 1 .void)
  pure (message, attestation)

structure BoundMintEvents where
  forward : MintAndForwardEvent
  received : MessageReceivedEvent

def findBoundMintEvents (tx : FinalizedTx) (expectedNonce forwarder messageTransmitter : Bytes32) :
    Except VerifierError (Option BoundMintEvents) := do
  let forwards ← eventsOf (parseMintAndForward c) forwarder tx.contractEvents
  let messages ← eventsOf parseMessageReceived messageTransmitter tx.contractEvents
  match forwards, messages.filter fun event => event.nonce = expectedNonce with
  | [], [] => pure none
  | [forward], [received] =>
    let caller ← addressToStrkey c received.caller
    require (caller = STELLAR_CCTP_FORWARDER) (.failed "caller not forwarder")
    pure (some { forward, received })
  | _, _ => .error (.failed "ambiguous mint events")

/-- `checked_mul(10)`. -/
def canonicalToStellarLocalAmount (canonical : ℤ) : Except EncodingError ℤ := do
  require (-2 ^ 127 ≤ canonical * 10 ∧ canonical * 10 < 2 ^ 127) .amountOverflow
  pure (canonical * 10)

def bindCompletionEvidence (message : Bytes) (nonce recipient : String) (expectedAmount : ℕ)
    (quotedFinality : CctpFinality) (events : BoundMintEvents) : Except VerifierError Unit := do
  let expectedNonce ← parseStoredNonce nonce
  let received := events.received
  require (received.nonce = expectedNonce) (.failed "nonce mismatch")
  require (received.messageBody.length + MESSAGE_HEADER_LEN = message.length)
    (.failed "message length mismatch")
  require (message.drop MESSAGE_HEADER_LEN = received.messageBody) (.failed "message_body mismatch")
  let parsed ← (parseCctpV2Message message).mapError fun e => VerifierError.failed e.display
  require (parsed.nonce = expectedNonce) (.failed "parsed nonce mismatch")
  require (received.sourceDomain = parsed.sourceDomain) (.failed "source domain mismatch")
  require (received.sender = parsed.sender) (.failed "sender mismatch")
  require (received.finalityThresholdExecuted = parsed.finalityThresholdExecuted)
    (.failed "executed finality mismatch")
  require (parsed.minFinalityThreshold = corridorMinFinality quotedFinality)
    (.failed "min finality policy mismatch")
  require (parsed.minFinalityThreshold ≤ parsed.finalityThresholdExecuted)
    (.failed "finality below minimum")
  -- The forwarder delivers what was burned without the executed fee.
  let netCctp := expectedAmount - parsed.body.feeExecuted
  let expectedForward ← encodingFailed (canonicalToStellarLocalAmount (asI128 netCctp))
  require (events.forward.amount = expectedForward) (.failed "forward amount mismatch")
  let _ ← encodingFailed (stellarContractToBytes32 c STELLAR_USDC_CONTRACT)
  let token ← addressToStrkey c events.forward.token
  require (token = STELLAR_USDC_CONTRACT) (.failed "forward token mismatch")
  stellarRecipientsMatch c recipient events.forward.forwardRecipient

/-- `completion_outcome` of `stellar_mint_verifier.rs`. -/
def stellarCompletionOutcome (node : StellarNode) (txHash : String) (message : Bytes)
    (nonce recipient : String) (expectedAmount : ℕ) (quotedFinality : CctpFinality) :
    Except VerifierError MintVerifyOutcome := do
  let expectedNonce ← parseStoredNonce nonce
  let tx ← finalizedTransaction c cfg node txHash
  match tx.status with
  | .failed => pure (.failedRetryable "tx failed")
  | .success =>
    let mtHash ← encodingFailed (stellarContractToBytes32 c STELLAR_MESSAGE_TRANSMITTER)
    let fwdHash ← encodingFailed (stellarContractToBytes32 c STELLAR_CCTP_FORWARDER)
    match ← findBoundMintEvents c tx expectedNonce fwdHash mtHash with
    | some events =>
      bindCompletionEvidence c message nonce recipient expectedAmount quotedFinality events
      pure .succeeded
    | none =>
      let used ← node.isNonceUsed expectedNonce
      pure (if used then .reconciliationNonceConsumed else .pending)

/-- The facts about a Stellar destination transaction. -/
def stellarMintFacts (tx : FinalizedTx) (message attestation : Bytes)
    (nonce expectedPayloadHash : String) (outcome : MintVerifyOutcome)
    (recipientEvidence : Option String) : VerifiedMintFacts where
  txHash := tx.txHash
  destinationChainId := STELLAR_TESTNET_CHAIN_ID
  contractAddress := STELLAR_CCTP_FORWARDER
  functionSelector := "mint_and_forward"
  messageHash := c.sha256 message
  attestationHash := c.sha256 attestation
  nonce := nonce
  payloadHash := expectedPayloadHash
  outcome := outcome
  recipientEvidence := recipientEvidence

/-- The part of `verify_mint_submission` for a transaction that succeeded: it is the prepared call
of the forwarder. -/
def stellarMintBound (tx : FinalizedTx) (message attestation : Bytes) (expectedPayloadHash : String)
    (expectedMintSubmitter : Option String) : Except VerifierError ParsedInvoke := do
  let invoke ← parseInvokeEnvelope c tx.envelopeXdr
  require (expectedMintSubmitter.all (invoke.operationSource = ·))
    (.failed "mint submitter mismatch")
  require (invoke.contractStrkey = STELLAR_CCTP_FORWARDER) (.failed "wrong contract")
  let (txMessage, txAttestation) ← decodeMintInvoke invoke
  require (txMessage = message ∧ txAttestation = attestation)
    (.failed "message/attestation mismatch")
  let computedHash ← payloadHashFromEnvelopeXdr c cfg tx.envelopeXdr
  require (computedHash = expectedPayloadHash) (.failed "payload hash mismatch")
  pure invoke

/-- `StellarRpcMintVerifier::verify_mint_submission`. A failed transaction is reported before its
call is looked at. -/
def stellarVerifyMintSubmission (ready : Bool) (node : StellarNode) (txHash : String)
    (message attestation : Bytes) (nonce expectedPayloadHash : String)
    (expectedMintSubmitter : Option String) : Except VerifierError VerifiedMintFacts := do
  require ready .notReady
  let tx ← finalizedTransaction c cfg node txHash
  match tx.status with
  | .failed =>
    pure (stellarMintFacts c tx message attestation nonce expectedPayloadHash
      (.failedRetryable "tx failed") none)
  | .success =>
    let invoke ← stellarMintBound c cfg tx message attestation expectedPayloadHash
      expectedMintSubmitter
    pure (stellarMintFacts c tx message attestation nonce expectedPayloadHash .pending
      (some invoke.operationSource))

def stellarVerifyMintCompletion (ready : Bool) (node : StellarNode) (txHash : String)
    (message : Bytes) (nonce recipient : String) (quotedFinality : CctpFinality) :
    Except VerifierError MintVerifyOutcome := do
  require ready .notReady
  let parsed ← (parseCctpV2Message message).mapError fun e => VerifierError.failed e.display
  stellarCompletionOutcome c cfg node txHash message nonce recipient parsed.body.amount
    quotedFinality

/-! ### Behind the service -/

def Chains.verifyBurn (w : Chains) : CctpDirection → String → Except VerifierError VerifiedBurnFacts
  | .stellarToEvm => stellarVerifyBurn c cfg (w.burnReady .stellarToEvm) w.stellar
  | .evmToStellar => evmVerifyBurn c (w.burnReady .evmToStellar) w.evm

def Chains.verifyMintSubmission (w : Chains) (direction : CctpDirection) (txHash : String)
    (message attestation : Bytes) (nonce expectedPayloadHash : String)
    (expectedMintSubmitter : Option String) : Except VerifierError VerifiedMintFacts :=
  match direction with
  | .stellarToEvm => evmVerifyMintSubmission c (w.mintReady .stellarToEvm) w.evm w.evmAgain txHash
      message attestation nonce expectedPayloadHash
  | .evmToStellar => stellarVerifyMintSubmission c cfg (w.mintReady .evmToStellar) w.stellar txHash
      message attestation nonce expectedPayloadHash expectedMintSubmitter

def Chains.verifyMintCompletion (w : Chains) (direction : CctpDirection) (txHash : String)
    (message : Bytes) (nonce recipient : String) (quotedFinality : CctpFinality) :
    Except VerifierError MintVerifyOutcome :=
  match direction with
  | .stellarToEvm => evmVerifyMintCompletion c (w.mintReady .stellarToEvm) w.evm txHash message nonce
  | .evmToStellar => stellarVerifyMintCompletion c cfg (w.mintReady .evmToStellar) w.stellar txHash
      message nonce recipient quotedFinality

/-- The service asks the production verifiers, and they find the chains as `w` says. -/
structure Env.Asks (w : Chains) (env : Env) : Prop where
  burnReady : ∀ direction, env.answer (.burnVerifierReady direction) = w.burnReady direction
  mintReady : ∀ direction, env.answer (.mintVerifierReady direction) = w.mintReady direction
  verifyBurn : ∀ direction txHash, env.answer (.verifyBurn direction txHash) =
    w.verifyBurn c cfg direction txHash
  verifyMintSubmission : ∀ direction txHash message attestation nonce payloadHash submitter,
    env.answer (.verifyMintSubmission direction txHash message attestation nonce payloadHash
      submitter) =
    w.verifyMintSubmission c cfg direction txHash message attestation nonce payloadHash submitter
  verifyMintCompletion : ∀ direction txHash message nonce recipient finality,
    env.answer (.verifyMintCompletion direction txHash message nonce recipient finality) =
    w.verifyMintCompletion c cfg direction txHash message nonce recipient finality
  finalizedTransaction : ∀ txHash, env.answer (.finalizedTransaction txHash) =
    Cctp.finalizedTransaction c cfg w.stellar txHash

/-- The world `rest` with the production verifiers in place. -/
def Chains.wire (w : Chains) (rest : Env) : Env :=
  { rest with
    answer
      | .burnVerifierReady direction => w.burnReady direction
      | .mintVerifierReady direction => w.mintReady direction
      | .verifyBurn direction txHash => w.verifyBurn c cfg direction txHash
      | .verifyMintSubmission direction txHash message attestation nonce payloadHash submitter =>
        w.verifyMintSubmission c cfg direction txHash message attestation nonce payloadHash submitter
      | .verifyMintCompletion direction txHash message nonce recipient finality =>
        w.verifyMintCompletion c cfg direction txHash message nonce recipient finality
      | .finalizedTransaction txHash => Cctp.finalizedTransaction c cfg w.stellar txHash
      | q => rest.answer q }

theorem Chains.wire_asks (w : Chains) (rest : Env) : (w.wire c cfg rest).Asks c cfg w where
  burnReady _ := rfl
  mintReady _ := rfl
  verifyBurn _ _ := rfl
  verifyMintSubmission _ _ _ _ _ _ _ := rfl
  verifyMintCompletion _ _ _ _ _ _ := rfl
  finalizedTransaction _ := rfl

/-- The chains answer as they like, the verifiers are the production ones. -/
def Env.Production (env : Env) : Prop := ∃ w, env.Asks c cfg w

end StellarRoute.Cctp
