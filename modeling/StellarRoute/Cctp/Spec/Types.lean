import StellarRoute.Lib.Guard
import StellarRoute.Lib.Text

/-! The data types of the CCTP bridge: the wire models (`v2_cctp.rs`), the
transfer record and its patch (`store.rs`), the reservations of unsigned
payloads (`prepare_lock.rs`), the payload bundles (`builders/mod.rs`), what the
verifiers report (`verifiers.rs`), Iris answers (`iris.rs`) and the allowed
transitions of the saga (`transitions.rs`). A transfer id is a number; a time
is a number of nanoseconds. -/

namespace StellarRoute.Cctp

open Lib

abbrev Uuid := ℕ
abbrev Time := ℤ
abbrev Bytes := List UInt8

/-- `[u8; n]`. -/
structure BytesN (n : ℕ) where
  bytes : Bytes
  length_eq : bytes.length = n
deriving DecidableEq

abbrev Bytes32 := BytesN 32
abbrev EvmAddress := BytesN 20

instance : LawfulBEq EvmAddress := inferInstance

theorem length_zeros : (List.replicate 32 (0 : UInt8)).length = 32 := rfl

def zero32 : Bytes32 := ⟨List.replicate 32 0, length_zeros⟩

def seconds (n : ℤ) : Time := n * 1000000000

/-- `DateTime::timestamp`. -/
def timestamp (t : Time) : ℤ := t / 1000000000

/-- `DateTime::from_timestamp(secs, 0)`: `None` outside the years chrono can represent. -/
def fromTimestamp (secs : ℤ) : Option Time :=
  if -8334601228800 ≤ secs ∧ secs ≤ 8210266876799 then some (seconds secs) else none

inductive CctpDirection where
  | stellarToEvm
  | evmToStellar
deriving DecidableEq

inductive CctpFinality where
  | standard
  | fast
deriving DecidableEq

inductive CctpTransferStatus where
  | created
  | burnPrepared
  | burnSubmitted
  | awaitingAttestation
  | attestationReady
  | mintPrepared
  | mintSubmitted
  | completed
  | attestationFailed
  | mintFailedRetryable
  | cancelled
  | providerKilled
deriving DecidableEq

/-- Includes the idempotent transition to the same status. -/
def isAllowedTransition (source target : CctpTransferStatus) : Bool :=
  if source = target then true
  else match source, target with
    | .created, .burnPrepared
    | .created, .cancelled
    | .created, .providerKilled
    | .burnPrepared, .burnSubmitted
    | .burnPrepared, .awaitingAttestation
    | .burnPrepared, .cancelled
    | .burnPrepared, .providerKilled
    | .burnSubmitted, .awaitingAttestation
    | .burnSubmitted, .providerKilled
    | .awaitingAttestation, .attestationReady
    | .awaitingAttestation, .attestationFailed
    | .awaitingAttestation, .providerKilled
    | .attestationFailed, .awaitingAttestation
    | .attestationReady, .mintPrepared
    | .attestationReady, .providerKilled
    | .mintPrepared, .mintSubmitted
    | .mintPrepared, .mintFailedRetryable
    | .mintPrepared, .providerKilled
    | .mintSubmitted, .completed
    | .mintSubmitted, .mintFailedRetryable
    | .mintSubmitted, .providerKilled
    | .mintFailedRetryable, .mintPrepared
    | .mintFailedRetryable, .providerKilled => true
    | _, _ => false

def isTerminal : CctpTransferStatus → Bool
  | .completed | .cancelled | .providerKilled => true
  | _ => false

def canCancel : CctpTransferStatus → Bool
  | .created | .burnPrepared => true
  | _ => false

structure CctpChainAsset where
  chainId : String
  asset : String
  canonical : String
  symbol : Option String
deriving DecidableEq

inductive PreparedWalletPayload where
  | stellarXdr (networkPassphrase xdrEnvelope : String) (source : Option String)
  | evmTransaction (chainId to_ data value : String)
deriving DecidableEq

structure CctpQuoteRequest where
  corridorId : String
  provider : String
  direction : CctpDirection
  sourceChainId : String
  destinationChainId : String
  sourceAsset : CctpChainAsset
  destinationAsset : CctpChainAsset
  amount : String
  recipient : String
  sender : Option String
  mintSubmitter : Option String
  finality : CctpFinality
deriving DecidableEq

inductive CctpValidationError where
  | unsupportedCorridor
  | invalidFinality
  | invalidRecipient
  | invalidAmount
  | invalidSender
  | invalidMintSubmitter
  | stellarRemainder
deriving DecidableEq

structure CctpTransfer where
  transferId : Uuid
  supportReferenceId : String
  corridorId : String
  provider : String
  direction : CctpDirection
  sourceChainId : String
  destinationChainId : String
  sourceAsset : String
  sourceAssetCanonical : String
  destinationAsset : String
  destinationAssetCanonical : String
  sender : String
  recipient : String
  mintSubmitter : Option String
  amount : String
  destinationAmount : String
  finality : CctpFinality
  runtimeFeeQuote : Option String
  maxFee : Option String
  feeExpiresAt : Option Time
  quoteExpiresAt : Time
  status : CctpTransferStatus
  sourceTxHash : Option String
  sourceApprovalTxHash : Option String
  sourceApprovalVerifiedAt : Option Time
  destinationTxHash : Option String
  irisMessageHash : Option String
  messageNonce : Option String
  rawMessage : Option Bytes
  attestation : Option Bytes
  retryCount : ℕ
  lastProviderError : Option String
  lastProviderCode : Option String
  version : ℕ
  createdAt : Time
  updatedAt : Time
  terminalAt : Option Time
  mintPayloadHash : Option String
  mintPayloadExpiresAt : Option Time
  approvalPayloadHash : Option String
  approvalExpirationLedger : Option ℕ
  burnPayloadHash : Option String
  burnPrepareStep : Option String
  accessTokenHash : Option String
  lastPolledAt : Option Time
  pollLeaseUntil : Option Time
  reattestLeaseOwnerHash : Option String
  reattestLeaseUntil : Option Time
  reattestAttemptCount : ℕ
  reattestCooldownUntil : Option Time
deriving DecidableEq

inductive PollLeaseOutcome where
  | acquired
  | skipped
deriving DecidableEq

inductive ReattestClaimOutcome where
  | claimed
  | notAllowed
  | inProgress
deriving DecidableEq

/-- `InvalidStatus` and `InvalidDirection` do not occur: what is stored was written as a value of
its type. -/
inductive CctpStoreError where
  | database
  | notFound
  | invalidTransition
  | duplicateSourceTxHash
  | versionConflict
  | payloadTooLarge
deriving DecidableEq

structure TransferPatch where
  sourceTxHash : Option String := none
  sourceApprovalTxHash : Option String := none
  sourceApprovalVerifiedAt : Option Time := none
  destinationTxHash : Option String := none
  irisMessageHash : Option String := none
  messageNonce : Option String := none
  rawMessage : Option Bytes := none
  attestation : Option Bytes := none
  runtimeFeeQuote : Option String := none
  maxFee : Option String := none
  feeExpiresAt : Option Time := none
  lastProviderError : Option String := none
  lastProviderCode : Option String := none
  incrementRetry : Bool := false
  clearTerminalAt : Bool := false
  mintPayloadHash : Option String := none
  mintPayloadExpiresAt : Option Time := none
  clearMintPayload : Bool := false
  mintSubmitter : Option String := none
  approvalPayloadHash : Option String := none
  approvalExpirationLedger : Option ℕ := none
  burnPayloadHash : Option String := none
  burnPrepareStep : Option String := none
deriving DecidableEq

inductive BurnPrepareStep where
  | approval
  | burn
deriving DecidableEq

structure PreparedBurnBundle where
  step : BurnPrepareStep
  approvalRequired : Bool
  primary : PreparedWalletPayload
  requiredApprovals : List PreparedWalletPayload
  requiredPriorPayloads : List PreparedWalletPayload
  expiresAt : ℤ
  approvalExpirationLedger : Option ℕ
deriving DecidableEq

inductive MintPrepareStep where
  | trustline
  | mint
deriving DecidableEq

structure PreparedMintBundle where
  step : MintPrepareStep
  trustlineRequired : Bool
  primary : PreparedWalletPayload
  expiresAt : ℤ
  payloadHash : String
deriving DecidableEq

inductive CctpPrepareKind where
  | approval
  | burn
  | mint
deriving DecidableEq

/-- The bundle that the JSON text in `prepared_payload` stands for. Neither kind of text parses as
the other. -/
inductive CachedPayload where
  | burn (bundle : PreparedBurnBundle)
  | mint (bundle : PreparedMintBundle)
deriving DecidableEq

structure CctpActivePrepare where
  sourceAccount : String
  transferId : Uuid
  kind : CctpPrepareKind
  payloadHash : String
  preparedPayload : Option CachedPayload
  expiresAt : Time
  updatedAt : Time
deriving DecidableEq

inductive PrepareAcquireResult where
  | acquired
  | idempotent (active : CctpActivePrepare)
  | conflictOtherTransfer (holderTransferId : Uuid)
deriving DecidableEq

inductive CctpPrepareLockError where
  | activePrepareExists
  | payloadHashMismatch
  | payloadTooLarge
  | database
deriving DecidableEq

inductive BuilderError where
  | notReady
  | quoteExpired
  | feeExpired
  | validation (msg : String)
  | simulationFailed (msg : String)
  | encoding (msg : String)
  | accountLookup (msg : String)
deriving DecidableEq

structure VerifiedBurnFacts where
  txHash : String
  sourceChainId : String
  sourceDomain : ℕ
  destinationDomain : ℕ
  sender : String
  amountCctpSubunits : ℕ
  burnToken : Bytes32
  mintRecipient : Bytes32
  destinationCaller : Bytes32
  minFinalityThreshold : ℕ
  hookData : Option Bytes
  tokenMessenger : Bytes32
  blockOrLedger : Option String
deriving DecidableEq

inductive VerifierError where
  | notReady
  | transient (msg : String)
  | txNotFound
  | failed (msg : String)
deriving DecidableEq

inductive MintVerifyOutcome where
  | pending
  | succeeded
  | failedRetryable (reason : String)
  | reconciliationNonceConsumed
deriving DecidableEq

structure VerifiedMintFacts where
  txHash : String
  destinationChainId : String
  contractAddress : String
  functionSelector : String
  messageHash : Bytes32
  attestationHash : Bytes32
  nonce : String
  payloadHash : String
  outcome : MintVerifyOutcome
  recipientEvidence : Option String
deriving DecidableEq

def VerifiedMintFacts.submissionOk (facts : VerifiedMintFacts) : Bool :=
  !facts.payloadHash.isEmpty &&
    match facts.outcome with
    | .pending | .succeeded => true
    | _ => false

/-- The first field in which the facts differ. `block_or_ledger` is not compared. -/
def factsMatch (expected actual : VerifiedBurnFacts) : Except String Unit := do
  require (expected.txHash = actual.txHash) "tx_hash"
  require (expected.sourceChainId = actual.sourceChainId) "source_chain_id"
  require (expected.sourceDomain = actual.sourceDomain) "source_domain"
  require (expected.destinationDomain = actual.destinationDomain) "destination_domain"
  require (expected.amountCctpSubunits = actual.amountCctpSubunits) "amount"
  require (expected.burnToken = actual.burnToken) "burn_token"
  require (expected.mintRecipient = actual.mintRecipient) "mint_recipient"
  require (expected.destinationCaller = actual.destinationCaller) "destination_caller"
  require (expected.minFinalityThreshold = actual.minFinalityThreshold) "finality"
  require (expected.tokenMessenger = actual.tokenMessenger) "token_messenger"
  require (expected.sender = actual.sender) "sender"
  require (expected.hookData = actual.hookData) "hook_data"

theorem factsMatch_eq_ok {expected actual : VerifiedBurnFacts} {u : Unit} :
    factsMatch expected actual = .ok u ↔
      { expected with blockOrLedger := none } = { actual with blockOrLedger := none } := by
  simp only [factsMatch, bind_eq_ok, require_eq_ok, exists_const, VerifiedBurnFacts.mk.injEq,
    and_true]
  tauto

structure IrisFeeQuote where
  standardFee : String
  fastFee : Option String
deriving DecidableEq

inductive IrisMessageStatus where
  | pending
  | complete
deriving DecidableEq

structure IrisMessage where
  messageHex : String
  attestationHex : Option String
  cctpVersion : ℕ
  status : IrisMessageStatus
  eventNonce : String
  sourceTxHash : Option String
deriving DecidableEq

inductive IrisPollOutcome where
  | pending
  | complete (msg : IrisMessage)
  | rateLimited (retryAfterSecs : ℕ)
  | notFound
deriving DecidableEq

inductive AttestationVerifyError where
  | notReady
  | empty
  | emptyMessage
  | wrongCorridor
  | invalid (msg : String)
deriving DecidableEq

inductive CctpServiceError where
  | notEnabled
  | providerKilled
  | validation (e : CctpValidationError)
  | store (e : CctpStoreError)
  | iris (msg : String)
  | verifier (e : VerifierError)
  | attestation (e : AttestationVerifyError)
  | builder (e : BuilderError)
  | verifiersNotReady
  | invalidMessage (msg : String)
  | amountExceedsCap
  | fastNotSupported
  | notFound
  | invalidState
  | irisTxHashMismatch
  | missingAttestation
  | quoteExpired
  | feeExpired
  | mintPayloadExpired
  | mintPayloadHashMismatch
  | activePrepareExists
  | stellarRemainder
deriving DecidableEq

end StellarRoute.Cctp
