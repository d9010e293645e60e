import StellarRoute.Lib.Bytes
import StellarRoute.Contracts.Spec.Tokens
import StellarRoute.Contracts.Spec.Governance

/-! The entry points of the router (`router.rs`, `adapters.rs`). An event that
is published right before an error is returned is rolled back with the rest and
is left out. -/

namespace StellarRoute.Contracts

open Lib

variable {X : Type} (H : Host X) (auth : Auth)

def MAX_HOPS : ℕ := 4

/-- The multi-signature parameters are accepted and ignored by the source. -/
def initializeRouter (admin : Address) (feeRate : UInt32) (feeTo : Address)
    (initialWasmHash : Option Bytes32) (w : World X) : Result (World X) := do
  require (w.config.admin = none) (fail .alreadyInitialized)
  require (feeRate ≤ 1000) (fail .invalidAmount)
  require (admin ≠ feeTo) (fail .invalidAmount)
  let w := { w with
    config.admin := some admin, config.feeRate := feeRate, config.feeTo := some feeTo,
    config.paused := false }
  let w := setInitialVersion (initialWasmHash.getD zeroHash) w
  let w := setLastTtlExtension w.ledger w
  pure (emit (.initialized admin feeRate) w)

def setAdmin (newAdmin : Address) (w : World X) : Result (World X) := do
  require (w.gov.isMultiSig = false) (fail .useGovernance)
  let admin ← getAdmin w
  requireAuth auth admin
  require (newAdmin ≠ admin) (fail .invalidAmount)
  require (newAdmin ≠ H.contract) (fail .invalidRecipient)
  pure (extendInstanceTtl H
    (emit (.adminChanged admin newAdmin) { w with config.admin := some newAdmin }))

/-- The shares added with `+=` on `u32`. The `overflow-checks` of the crate's
own profile are not in force in the workspace build, so the sum wraps. -/
def totalBps (recipients : List FeeRecipient) : UInt32 :=
  recipients.foldl (fun total r => total + r.shareBps) 0

def setFeeDistributionConfig (config : FeeConfig) (w : World X) : Result (World X) := do
  require (w.gov.isMultiSig = false) (fail .useGovernance)
  let admin ← getAdmin w
  requireAuth auth admin
  require (totalBps config.recipients = 10000 ∧ config.recipients.length ≤ 5) (fail .invalidFeeConfig)
  pure (extendInstanceTtl H (setFeeConfig config w))

/-! Fee distribution -/

/-- What one turn of the distribution loop paid out: the amount, and the token
call that moved it, if one was made. -/
structure Payout where
  amount : I128
  call : Option TokenCall
deriving DecidableEq

/-- `total * share_bps / 10000`; a product that does not fit counts as the
largest value. -/
def shareAmount (total : I128) (shareBps : UInt32) : I128 :=
  (((total.checkedMul (SInt.saturate 128 shareBps.toNat)).getD (SInt.maxValue 128)).checkedDiv
    10000).getD 0

/-- The recipient that gets what is left: the first one labelled `treasury`,
else the last one. -/
def dustIdx (recipients : List FeeRecipient) : ℕ :=
  match recipients.findIdx? (fun r => r.label = "treasury") with
  | some i => i
  | none => recipients.length - 1

/-- The body of the loop for a positive amount. -/
def payRecipient (asset : Asset) (r : FeeRecipient) (amount : I128) (w : World X) :
    Result (Option TokenCall × World X) :=
  if r.label = "burn" then
    match asset with
    | .soroban token => do
      let x ← okOr (H.burn w.ext token H.contract amount) .trap
      let call := TokenCall.burn token H.contract amount
      let w := emit (.feesBurned asset amount w.ledger) { w with ext := x, calls := w.calls ++ [call] }
      pure (some call, addTotalBurned asset amount w)
    | .issued issuer _ => do
      let w ← transferAsset H asset H.contract issuer amount w
      pure (none, addTotalBurned asset amount (emit (.feesBurned asset amount w.ledger) w))
    | .native => pure (none, addTotalBurned asset amount w)
  else do
    let w ← transferAsset H asset H.contract r.address amount w
    match asset with
    | .soroban token => pure (some (.transfer token H.contract r.address amount), w)
    | _ => pure (none, w)

/-- The amount of turn `i`: the whole rest for the dust recipient. -/
def turnAmount (total : I128) (dust i : ℕ) (remaining : I128) (r : FeeRecipient) : I128 :=
  if i = dust then remaining else shareAmount total r.shareBps

/-- The loop from recipient `i` on, with `remaining` of the balance unspent. -/
def payRecipients (H : Host X) (asset : Asset) (total : I128) (dust : ℕ) :
    ℕ → I128 → List FeeRecipient → World X → Result (List Payout × World X)
  | _, _, [], w => pure ([], w)
  | i, remaining, r :: rest, w => do
    let amount := turnAmount total dust i remaining r
    if 0 < amount then do
      let (call, w) ← payRecipient H asset r amount w
      let (ps, w) ← payRecipients H asset total dust (i + 1) (remaining.saturatingSub amount) rest w
      pure (⟨amount, call⟩ :: ps, w)
    else do
      let (ps, w) ← payRecipients H asset total dust (i + 1) remaining rest w
      pure (⟨0, none⟩ :: ps, w)

def distributeFeesInternal (asset : Asset) (config : FeeConfig) (w : World X) :
    Result (List Payout × World X) :=
  let total := w.fees.feeBalance asset
  if total = 0 then pure ([], w)
  else do
    let (ps, w) ← payRecipients H asset total (dustIdx config.recipients) 0 total config.recipients
      (setFeeBalance asset 0 w)
    let w := pushDistributionHistory asset ⟨w.now, total⟩ w
    pure (ps, emit (.feesDistributed asset total w.ledger) w)

def distributeFees (asset : Asset) (w : World X) : Result (World X) := do
  let config ← okOr w.config.feeConfig (fail .notInitialized)
  let (_, w) ← distributeFeesInternal H asset config w
  pure w

/-! Pools and pausing -/

def registerPool (pool : Address) (w : World X) : Result (World X) := do
  require (w.gov.isMultiSig = false) (fail .useGovernance)
  let admin ← getAdmin w
  requireAuth auth admin
  require (pool ≠ H.contract) (fail .invalidRecipient)
  require (isSupportedPool w pool = false) (fail .poolNotSupported)
  let w := extendPoolTtl H pool (setSupportedPool H pool w)
  let count ← okOr (w.pools.poolCount.checkedAdd 1) .trap
  let w := addToPoolList pool (setPoolCount count w)
  pure (extendInstanceTtl H (emit (.poolRegistered pool) w))

def pause (caller : Address) (w : World X) : Result (World X) := do
  require (w.gov.isMultiSig = false) (fail .useGovernance)
  requireAdmin auth caller w
  pure (extendInstanceTtl H (emit .paused (setPaused true w)))

def unpause (caller : Address) (w : World X) : Result (World X) := do
  require (w.gov.isMultiSig = false) (fail .useGovernance)
  requireAdmin auth caller w
  pure (extendInstanceTtl H (emit .unpaused (setPaused false w)))

/-! Governance entry points -/

def propose (signer : Address) (action : ProposalAction) (w : World X) :
    Result (UInt64 × World X) := do
  require (w.gov.isMultiSig = true) (fail .notMultiSig)
  Governance.propose H auth signer action w

def approveProposal (signer : Address) (id : UInt64) (w : World X) : Result (World X) := do
  require (w.gov.isMultiSig = true) (fail .notMultiSig)
  Governance.approve H auth signer id w

def executeProposal (id : UInt64) (w : World X) : Result (World X) := do
  require (w.gov.isMultiSig = true) (fail .notMultiSig)
  Governance.executeProposal H id w

def cancelProposal (signer : Address) (id : UInt64) (w : World X) : Result (World X) := do
  require (w.gov.isMultiSig = true) (fail .notMultiSig)
  Governance.cancel H auth signer id w

/-! MEV configuration: these three only ask for the stored admin -/

def configureMev (config : MevConfig) (w : World X) : Result (World X) := do
  let admin ← getAdmin w
  requireAuth auth admin
  require (0 < config.commitmentRequiredAbove) (fail .invalidAmount)
  require (config.rateLimitWindowLedgers ≠ 0) (fail .invalidAmount)
  require (config.rateLimitMaxSwaps ≠ 0) (fail .invalidAmount)
  require (config.maxPriceImpactBps ≤ 10000) (fail .invalidAmount)
  require (config.maxExecutionSpreadBps ≤ 10000) (fail .invalidAmount)
  pure (extendInstanceTtl H { w with config.mevConfig := some config })

def setWhitelist (address : Address) (whitelisted : Bool) (w : World X) : Result (World X) := do
  let admin ← getAdmin w
  requireAuth auth admin
  pure (extendInstanceTtl H
    { w with config.whitelisted := Function.update w.config.whitelisted address whitelisted })

def updateKnownPrice (tokenA tokenB : Address) (price : I128) (w : World X) : Result (World X) := do
  let admin ← getAdmin w
  requireAuth auth admin
  pure (extendInstanceTtl H
    { w with
      config.latestKnownPrice := Function.update w.config.latestKnownPrice tokenA
        (Function.update (w.config.latestKnownPrice tokenA) tokenB (some price)) })

end StellarRoute.Contracts
