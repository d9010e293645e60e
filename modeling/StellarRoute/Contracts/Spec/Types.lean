import StellarRoute.Lib.MachineInt

/-! The data types of the router contract (`types.rs`, `errors.rs`,
`events.rs`). An address is a number; a symbol is its text. -/

namespace StellarRoute.Contracts

open Lib

abbrev Address := ℕ
abbrev Symbol := String

/-- `BytesN<32>`. -/
structure Bytes32 where
  bytes : List UInt8
  length_eq : bytes.length = 32
deriving DecidableEq

def zeroHash : Bytes32 := ⟨List.replicate 32 0, List.length_replicate⟩

inductive Asset where
  | native
  | issued (issuer : Address) (code : Symbol)
  | soroban (token : Address)
deriving DecidableEq

inductive PoolType where
  | sdex
  | ammConstProd
  | ammStable
deriving DecidableEq

structure RouteHop where
  source : Asset
  destination : Asset
  pool : Address
  poolType : PoolType
deriving DecidableEq

structure Route where
  hops : List RouteHop
  estimatedOutput : I128
  minOutput : I128
  expiresAt : UInt64
deriving DecidableEq

structure SwapParams where
  route : Route
  amountIn : I128
  minAmountOut : I128
  recipient : Address
  deadline : UInt64
  notBefore : UInt64
  maxPriceImpactBps : UInt32
  maxExecutionSpreadBps : UInt32
deriving DecidableEq

structure QuoteResult where
  expectedOutput : I128
  priceImpactBps : UInt32
  feeAmount : I128
  route : Route
  validUntil : UInt64
deriving DecidableEq

structure SwapResult where
  amountIn : I128
  amountOut : I128
  route : Route
  executedAt : UInt64
deriving DecidableEq

structure TTLStatus where
  instanceTtlRemaining : UInt64
  poolsMinTtl : UInt64
  needsExtension : Bool
  lastExtendedLedger : UInt32
deriving DecidableEq

structure FeeRecipient where
  address : Address
  shareBps : UInt32
  label : Symbol
deriving DecidableEq

structure FeeConfig where
  recipients : List FeeRecipient
  minDistribution : I128
  autoDistribute : Bool
deriving DecidableEq

structure DistributionRecord where
  timestamp : UInt64
  totalDistributed : I128
deriving DecidableEq

inductive TokenCategory where
  | native
  | stablecoin
  | wrapped
  | ecosystem
  | community
deriving DecidableEq

structure TokenInfo where
  asset : Asset
  name : Symbol
  code : Symbol
  decimals : UInt32
  issuerVerified : Bool
  category : TokenCategory
  addedAt : UInt64
  addedBy : Address
deriving DecidableEq

structure GovernanceConfig where
  signers : List Address
  threshold : UInt32
  proposalTtl : UInt64
deriving DecidableEq

inductive ProposalAction where
  | setFeeRate (rate : UInt32)
  | setFeeTo (addr : Address)
  | setFeeConfig (config : FeeConfig)
  | registerPool (pool : Address) (poolType : PoolType)
  | deregisterPool (pool : Address)
  | pause
  | unpause
  | upgrade (wasmHash : Bytes32)
  | addSigner (newSigner : Address)
  | removeSigner (signer : Address)
  | changeThreshold (newThreshold : UInt32)
deriving DecidableEq

structure Proposal where
  id : UInt64
  action : ProposalAction
  proposer : Address
  approvals : List Address
  createdAt : UInt64
  expiresAt : UInt64
  /-- set by execution and by cancellation -/
  executed : Bool
deriving DecidableEq

structure ContractVersion where
  major : UInt32
  minor : UInt32
  patch : UInt32
  wasmHash : Bytes32
  upgradedAt : UInt64
deriving DecidableEq

structure PendingUpgrade where
  newWasmHash : Bytes32
  proposedAt : UInt64
  executeAfter : UInt64
  proposer : Address
deriving DecidableEq

structure CommitmentData where
  sender : Address
  depositAmount : I128
  commitmentHash : Bytes32
  createdAt : UInt64
  expiresAt : UInt64
deriving DecidableEq

structure MevConfig where
  maxPriceImpactBps : UInt32
  maxExecutionSpreadBps : UInt32
  rateLimitWindowLedgers : UInt32
  rateLimitMaxSwaps : UInt32
  commitmentRequiredAbove : I128
deriving DecidableEq

inductive ContractError where
  | notInitialized
  | alreadyInitialized
  | unauthorized
  | paused
  | invalidRoute
  | routeExpired
  | emptyRoute
  | tooManyHops
  | insufficientInput
  | slippageExceeded
  | deadlineExceeded
  | executionTooEarly
  | priceImpactTooHigh
  | spreadTooHigh
  | poolNotSupported
  | reserveManipulationDetected
  | ammQuoteCallFailed
  | ammSwapCallFailed
  | invalidAmount
  | overflow
  | invalidRecipient
  | useGovernance
  | notMultiSig
  | proposalNotFound
  | proposalExpired
  | proposalAlreadyExecuted
  | alreadyApproved
  | thresholdNotMet
  | signerLimitReached
  | upgradeLocked
  | upgradePending
  | noUpgradePending
  | sameWasmHash
  | migrationAlreadyDone
  | tokenNotAllowed
  | tokenAlreadyAdded
  | tokenInUse
  | batchTooLarge
  | commitmentRequired
  | commitmentNotFound
  | commitmentExpired
  | invalidReveal
  | rateLimitExceeded
  | invalidFeeConfig
deriving DecidableEq

/-- How an invocation ends without a result: with an error of the contract, or
with a trap of the host (a missing authorization, a panic, a failed call of
another contract). Both roll the whole invocation back. -/
inductive Failure where
  | contract (e : ContractError)
  | trap
deriving DecidableEq

abbrev Result := Except Failure

inductive Event where
  | initialized (admin : Address) (feeRate : UInt32)
  | adminChanged (oldAdmin newAdmin : Address)
  | poolRegistered (pool : Address)
  | paused
  | unpaused
  | swapExecuted (sender : Address) (amountIn amountOut fee : I128) (route : Route) (ledger : UInt32)
  | executionRequested (sender : Address) (amountIn : I128) (hopCount : ℕ) (deadline : UInt64)
      (ledger : UInt32)
  | governanceMigrated (oldAdmin : Address) (signerCount : ℕ) (threshold : UInt32)
  | proposalCreated (id : UInt64) (proposer : Address) (action : ProposalAction)
  | proposalApproved (id : UInt64) (signer : Address) (approvals : ℕ)
  | proposalExecuted (id : UInt64)
  | proposalCancelled (id : UInt64) (by_ : Address)
  | guardianSet (guardian : Address)
  | guardianPaused (guardian : Address)
  | upgradeProposed (proposer : Address) (oldHash newHash : Bytes32) (executeAfter : UInt64)
  | upgradeCompleted (oldHash newHash : Bytes32) (ledger : UInt64)
  | upgradeCancelled (by_ : Address)
  | migrationCompleted (major minor patch : UInt32)
  | tokenAdded (asset : Asset) (addedBy : Address)
  | tokenRemoved (asset : Asset) (removedBy : Address)
  | tokenUpdated (asset : Asset) (updatedBy : Address)
  | highImpactSwap (sender : Address) (impactBps : UInt32) (amountIn : I128)
  | commitmentCreated (sender : Address) (commitmentHash : Bytes32) (depositAmount : I128)
  | commitmentRevealed (sender : Address) (commitmentHash : Bytes32)
  | ttlExtended (poolsExtended : ℕ) (ledger : UInt32)
  | ttlWarning (estimatedRemaining : UInt64) (threshold : UInt32)
  | feeCollected (asset : Asset) (amount : I128) (ledger : UInt32)
  | feesDistributed (asset : Asset) (totalDistributed : I128) (ledger : UInt32)
  | feesBurned (asset : Asset) (amount : I128) (ledger : UInt32)
deriving DecidableEq

/-- A call of a token contract made by the router. -/
inductive TokenCall where
  | transfer (token source target : Address) (amount : I128)
  | burn (token source : Address) (amount : I128)
deriving DecidableEq

end StellarRoute.Contracts
