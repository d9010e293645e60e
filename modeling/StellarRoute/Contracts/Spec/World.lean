import StellarRoute.Lib.Guard
import StellarRoute.Contracts.Spec.Types

/-! The state of the router and the host it runs in (`storage.rs`). Every
storage key of the contract is a field; keys are grouped by the module that
writes them. A read with a default is a total map, a read that may fail or
that is tested with `has` is an `Option`.

Persistent and instance entries are taken as never archived. Their time to
live is kept only for the instance and for the pool entries, which is what
`get_ttl_status` reports on; temporary entries carry theirs, because they
disappear. -/

namespace StellarRoute.Contracts

open Lib

/-- The chain outside the router, with state `X`: token contracts, pools and
uploaded code. Soroban forbids re-entry, so none of these calls changes the
router's own storage. `none` is a call that failed. -/
structure Host (X : Type) where
  /-- `current_contract_address` -/
  contract : Address
  sha256 : List UInt8 → Bytes32
  hasWasm : X → Bytes32 → Bool
  transfer : X → (token source target : Address) → I128 → Option X
  burn : X → (token source : Address) → I128 → Option X
  quote : X → (pool : Address) → (input output : Asset) → I128 → Option (I128 × X)
  swap : X → (pool : Address) → (input output : Asset) → (amountIn minOut : I128) → Option (I128 × X)
  /-- a failed read leaves whatever the failed call left -/
  getRsrvs : X → (pool : Address) → Option (I128 × I128) × X
  minTempTtl : ℕ
  minPersistentTtl : ℕ
  maxEntryTtl : ℕ

structure Config where
  admin : Option Address
  feeRate : UInt32
  feeTo : Option Address
  paused : Bool
  feeConfig : Option FeeConfig
  mevConfig : Option MevConfig
  whitelisted : Address → Bool
  latestKnownPrice : Address → Address → Option I128

/-- One run of `dispatch_action` for a proposal: the proposal as stored, the
governance configuration that was in force, and the ledger. -/
structure Dispatch where
  proposal : Proposal
  config : GovernanceConfig
  ledger : UInt32
deriving DecidableEq

structure Gov where
  isMultiSig : Bool
  governance : Option GovernanceConfig
  guardian : Option Address
  proposalCounter : UInt64
  proposalEntry : UInt64 → Option Proposal
  /-- history variable: the dispatches so far, oldest first; no function reads it -/
  dispatched : List Dispatch

structure Pools where
  supportedPool : Address → Bool
  poolCount : UInt32
  poolList : List Address

structure Tokens where
  allowedToken : Asset → Option TokenInfo
  tokenCount : UInt32
  catEntry : TokenCategory → UInt32 → Option Asset
  catLen : TokenCategory → UInt32

structure Upgrades where
  contractVersion : Option ContractVersion
  versionHistory : UInt64 → Option ContractVersion
  migrationDone : UInt32 × UInt32 × UInt32 → Bool
  pendingUpgrade : Option PendingUpgrade
  /-- the code the host runs for this contract -/
  wasm : Bytes32

structure Fees where
  feeBalance : Asset → I128
  totalFeesCollected : Asset → I128
  totalFeesBurned : Asset → I128
  distributionHistory : Asset → List DistributionRecord

/-- A temporary entry with the last ledger it is readable in. -/
structure Temp (α : Type) where
  value : α
  liveUntil : ℕ

structure Mev where
  commitment : Bytes32 → Option (Temp CommitmentData)
  accountSwapCount : Address → Option (Temp UInt32)
  accountSwapWindowStart : Address → Option (Temp UInt32)

structure Usage where
  swapNonce : Address → I128
  totalSwapVolume : I128

structure Ttl where
  instanceLiveUntil : ℕ
  poolLiveUntil : Address → ℕ
  lastTtlExtension : UInt32

structure World (X : Type) where
  ledger : UInt32
  config : Config
  gov : Gov
  pools : Pools
  tokens : Tokens
  upgrades : Upgrades
  fees : Fees
  mev : Mev
  usage : Usage
  ttl : Ttl
  ext : X
  events : List Event
  calls : List TokenCall

variable {X : Type} (H : Host X) (auth : Auth)

/-- The contract as deployed, before `initialize`. -/
def World.deployed (ledger : UInt32) (wasm : Bytes32) (ext : X) : World X where
  ledger := ledger
  config := ⟨none, 0, none, false, none, none, fun _ => false, fun _ _ => none⟩
  gov := ⟨false, none, none, 0, fun _ => none, []⟩
  pools := ⟨fun _ => false, 0, []⟩
  tokens := ⟨fun _ => none, 0, fun _ _ => none, fun _ => 0⟩
  upgrades := ⟨none, fun _ => none, fun _ => false, none, wasm⟩
  fees := ⟨fun _ => 0, fun _ => 0, fun _ => 0, fun _ => []⟩
  mev := ⟨fun _ => none, fun _ => none, fun _ => none⟩
  usage := ⟨fun _ => 0, 0⟩
  ttl := ⟨ledger.toNat + H.minPersistentTtl - 1, fun _ => 0, 0⟩
  ext := ext
  events := []
  calls := []

def emit (e : Event) (w : World X) : World X := { w with events := w.events ++ [e] }

/-- `e.ledger().sequence() as u64` -/
def World.now (w : World X) : UInt64 := w.ledger.toUInt64

/-- The addresses that authorized the invocation. -/
abbrev Auth := List Address

def requireAuth (a : Address) : Result Unit := require (a ∈ auth) .trap

def fail (e : ContractError) : Failure := .contract e

/-! Time to live -/

def DAY_IN_LEDGERS : ℕ := 17280
def INSTANCE_TTL_EXTEND_TO : ℕ := 30 * DAY_IN_LEDGERS
def INSTANCE_TTL_THRESHOLD : ℕ := 7 * DAY_IN_LEDGERS
def POOL_TTL_EXTEND_TO : ℕ := 90 * DAY_IN_LEDGERS
def POOL_TTL_THRESHOLD : ℕ := 22 * DAY_IN_LEDGERS

/-- The host's `extend_ttl` on a persistent or instance entry. -/
def extendTtl (now : UInt32) (threshold extendTo liveUntil : ℕ) : ℕ :=
  if liveUntil - now.toNat < threshold then
    max liveUntil (min (now.toNat + extendTo) (now.toNat + H.maxEntryTtl - 1))
  else liveUntil

def extendInstanceTtl (w : World X) : World X :=
  { w with
    ttl.instanceLiveUntil :=
      extendTtl H w.ledger INSTANCE_TTL_THRESHOLD INSTANCE_TTL_EXTEND_TO w.ttl.instanceLiveUntil }

def isSupportedPool (w : World X) (pool : Address) : Bool := w.pools.supportedPool pool

/-- `extend_ttl` on a pool entry. -/
def extendPoolEntry (threshold extendTo : ℕ) (pool : Address) (w : World X) : World X :=
  { w with
    ttl.poolLiveUntil := Function.update w.ttl.poolLiveUntil pool
      (extendTtl H w.ledger threshold extendTo (w.ttl.poolLiveUntil pool)) }

def extendPoolTtl (pool : Address) (w : World X) : World X :=
  if isSupportedPool w pool then
    extendPoolEntry H POOL_TTL_THRESHOLD POOL_TTL_EXTEND_TO pool w
  else w

/-- Writing the `SupportedPool` entry; a new entry gets the host's minimum. -/
def setSupportedPool (pool : Address) (w : World X) : World X :=
  { w with
    pools.supportedPool := Function.update w.pools.supportedPool pool true
    ttl.poolLiveUntil :=
      if w.pools.supportedPool pool then w.ttl.poolLiveUntil
      else Function.update w.ttl.poolLiveUntil pool (w.ledger.toNat + H.minPersistentTtl - 1) }

/-- What a read of a temporary entry returns. -/
def Temp.live {α : Type} (now : UInt32) (t : Option (Temp α)) : Option α :=
  t.bind fun t => if now.toNat ≤ t.liveUntil then some t.value else none

/-- `set` on a temporary entry followed by `extend_ttl(ttl, ttl)`, which traps
when the host does not keep temporary entries that long, or when the ledger to
keep it to is beyond `u32`. -/
def Temp.write {α : Type} (H : Host X) (now : UInt32) (old : Option (Temp α)) (value : α)
    (ttl : UInt32) : Result (Temp α) := do
  require (now.toNat + ttl.toNat < 2 ^ 32) .trap
  require (ttl.toNat < H.maxEntryTtl) .trap
  let until_ := match old with
    | some t => if now.toNat ≤ t.liveUntil then t.liveUntil else now.toNat + H.minTempTtl - 1
    | none => now.toNat + H.minTempTtl - 1
  pure ⟨value, max until_ (now.toNat + ttl.toNat)⟩

/-! Core storage helpers -/

def getAdmin (w : World X) : Result Address := okOr w.config.admin .trap

def getPaused (w : World X) : Bool := w.config.paused

def setPaused (b : Bool) (w : World X) : World X := { w with config.paused := b }

def requireNotPaused (w : World X) : Result Unit := require (w.config.paused = false) (fail .paused)

/-- `require_admin` of the router: the identity check comes before the authorization. -/
def requireAdmin (caller : Address) (w : World X) : Result Unit := do
  let admin ← getAdmin w
  require (admin = caller) (fail .unauthorized)
  requireAuth auth caller

def setFeeRate (rate : UInt32) (w : World X) : World X := { w with config.feeRate := rate }

def setFeeConfig (config : FeeConfig) (w : World X) : World X :=
  { w with config.feeConfig := some config }

def setPoolCount (count : UInt32) (w : World X) : World X := { w with pools.poolCount := count }

def addToPoolList (pool : Address) (w : World X) : World X :=
  { w with pools.poolList := w.pools.poolList ++ [pool] }

def setLastTtlExtension (ledger : UInt32) (w : World X) : World X :=
  { w with ttl.lastTtlExtension := ledger }

def incrementNonce (a : Address) (w : World X) : Result (World X) := do
  let next ← okOr ((w.usage.swapNonce a).checkedAdd 1) .trap
  pure { w with usage.swapNonce := Function.update w.usage.swapNonce a next }

def addSwapVolume (amount : I128) (w : World X) : World X :=
  { w with
    usage.totalSwapVolume :=
      (w.usage.totalSwapVolume.checkedAdd amount).getD (SInt.maxValue 128) }

/-- Only Soroban tokens are moved; for the other assets nothing is called. -/
def transferAsset (asset : Asset) (source target : Address) (amount : I128) (w : World X) :
    Result (World X) :=
  match asset with
  | .soroban token => do
    let x ← okOr (H.transfer w.ext token source target amount) .trap
    pure { w with ext := x, calls := w.calls ++ [.transfer token source target amount] }
  | _ => pure w

/-! Governance entries -/

def getGovernance (w : World X) : Result GovernanceConfig := okOr w.gov.governance .trap

def setGovernance (config : GovernanceConfig) (w : World X) : World X :=
  { w with gov.governance := some config }

def setGuardian (g : Address) (w : World X) : World X := { w with gov.guardian := some g }

def setMultisig (w : World X) : World X := { w with gov.isMultiSig := true }

def nextProposalId (w : World X) : Result (UInt64 × World X) := do
  let next ← okOr (w.gov.proposalCounter.checkedAdd 1) .trap
  pure (next, { w with gov.proposalCounter := next })

def getProposal (w : World X) (id : UInt64) : Option Proposal := w.gov.proposalEntry id

def saveProposal (p : Proposal) (w : World X) : World X :=
  { w with gov.proposalEntry := Function.update w.gov.proposalEntry p.id (some p) }

/-! Commitments -/

def getCommitment (w : World X) (hash : Bytes32) : Option CommitmentData :=
  Temp.live w.ledger (w.mev.commitment hash)

def setCommitment (hash : Bytes32) (data : CommitmentData) (ttl : UInt32) (w : World X) :
    Result (World X) := do
  let t ← Temp.write H w.ledger (w.mev.commitment hash) data ttl
  pure { w with mev.commitment := Function.update w.mev.commitment hash (some t) }

def removeCommitment (hash : Bytes32) (w : World X) : World X :=
  { w with mev.commitment := Function.update w.mev.commitment hash none }

/-! Rate limiting -/

def getAccountSwapCount (w : World X) (a : Address) : UInt32 :=
  (Temp.live w.ledger (w.mev.accountSwapCount a)).getD 0

def setAccountSwapCount (a : Address) (count ttl : UInt32) (w : World X) : Result (World X) := do
  let t ← Temp.write H w.ledger (w.mev.accountSwapCount a) count ttl
  pure { w with mev.accountSwapCount := Function.update w.mev.accountSwapCount a (some t) }

def getAccountSwapWindowStart (w : World X) (a : Address) : UInt32 :=
  (Temp.live w.ledger (w.mev.accountSwapWindowStart a)).getD 0

def setAccountSwapWindowStart (a : Address) (start ttl : UInt32) (w : World X) :
    Result (World X) := do
  let t ← Temp.write H w.ledger (w.mev.accountSwapWindowStart a) start ttl
  pure { w with
    mev.accountSwapWindowStart :=
      Function.update w.mev.accountSwapWindowStart a (some t) }

/-! Fee accounting -/

def setFeeBalance (asset : Asset) (amount : I128) (w : World X) : World X :=
  { w with fees.feeBalance := Function.update w.fees.feeBalance asset amount }

/-- Both sums stay at the largest value instead of overflowing. -/
def addFeeBalance (asset : Asset) (amount : I128) (w : World X) : World X :=
  { w with
    fees.feeBalance := Function.update w.fees.feeBalance asset
      (((w.fees.feeBalance asset).checkedAdd amount).getD (SInt.maxValue 128))
    fees.totalFeesCollected := Function.update w.fees.totalFeesCollected asset
      (((w.fees.totalFeesCollected asset).checkedAdd amount).getD (SInt.maxValue 128)) }

def addTotalBurned (asset : Asset) (amount : I128) (w : World X) : World X :=
  { w with
    fees.totalFeesBurned := Function.update w.fees.totalFeesBurned asset
      (((w.fees.totalFeesBurned asset).checkedAdd amount).getD (SInt.maxValue 128)) }

/-- The newest record first, ten at most. -/
def pushDistributionHistory (asset : Asset) (record : DistributionRecord) (w : World X) : World X :=
  let history := record :: w.fees.distributionHistory asset
  { w with
    fees.distributionHistory := Function.update w.fees.distributionHistory asset
      (if history.length > 10 then history.dropLast else history) }

end StellarRoute.Contracts
