import StellarRoute.Contracts.Spec.Router

/-! Route validation, quotes, swaps and the commit-reveal flow (`router.rs`,
`adapters.rs`). -/

namespace StellarRoute.Contracts

open Lib

variable {X : Type} (H : Host X) (auth : Auth)

/-- Each hop starts from the asset the hop before it ends with. -/
def continuous : List RouteHop → Bool
  | a :: b :: rest => decide (a.destination = b.source) && continuous (b :: rest)
  | _ => true

def batchCheckPools (w : World X) (pools : List Address) : Bool := pools.all (isSupportedPool w)

def validateRoute (w : World X) (route : Route) : Result Unit := do
  require (route.hops ≠ []) (fail .emptyRoute)
  require (route.hops.length ≤ MAX_HOPS) (fail .tooManyHops)
  require (route.expiresAt = 0 ∨ w.now ≤ route.expiresAt) (fail .routeExpired)
  require (0 ≤ route.estimatedOutput ∧ 0 ≤ route.minOutput) (fail .invalidAmount)
  require (0 < route.estimatedOutput → route.minOutput ≤ route.estimatedOutput) (fail .invalidRoute)
  require (continuous route.hops = true) (fail .invalidRoute)
  validateRouteAssets w route
  require (batchCheckPools w (route.hops.map (·.pool)) = true) (fail .poolNotSupported)

/-- `amount * fee_rate / 10000` and what is left of the amount. -/
def splitFee (feeRate : UInt32) (amount : I128) : Result (I128 × I128) := do
  let product ← okOr (amount.checkedMul (SInt.saturate 128 feeRate.toNat)) (fail .overflow)
  let fee ← okOr (product.checkedDiv 10000) (fail .overflow)
  let out ← okOr (amount.checkedSub fee) (fail .overflow)
  pure (fee, out)

/-- The amount after each hop in turn, and the impact, five points a hop. -/
def quoteHops (H : Host X) : List RouteHop → I128 → UInt32 → X → Result (I128 × UInt32 × X)
  | [], amount, impact, x => pure (amount, impact, x)
  | hop :: rest, amount, impact, x => do
    let (out, x) ← okOr (H.quote x hop.pool hop.source hop.destination amount)
      (fail .ammQuoteCallFailed)
    quoteHops H rest out (impact + 5) x

def getQuote (amountIn : I128) (route : Route) (w : World X) : Result (QuoteResult × World X) := do
  require (0 < amountIn) (fail .insufficientInput)
  validateRoute w route
  let (amount, impact, x) ← quoteHops H route.hops amountIn 0 w.ext
  let (fee, out) ← splitFee w.config.feeRate amount
  pure ({ expectedOutput := out, priceImpactBps := impact, feeAmount := fee, route := route,
          validUntil := w.now.saturatingAdd 120 }, { w with ext := x })

/-- The amount after each hop in turn; the pools are asked for no minimum. -/
def swapHops (H : Host X) : List RouteHop → I128 → UInt32 → X → Result (I128 × UInt32 × X)
  | [], amount, impact, x => pure (amount, impact, x)
  | hop :: rest, amount, impact, x => do
    let (out, x) ← okOr (H.swap x hop.pool hop.source hop.destination amount 0)
      (fail .ammSwapCallFailed)
    swapHops H rest out (impact + 5) x

/-- The reserves of every hop's pool; a pool that does not answer counts as empty. -/
def snapshotReserves (H : Host X) : List RouteHop → X → List (I128 × I128) × X
  | [], x => ([], x)
  | hop :: rest, x =>
    let (r, x) := H.getRsrvs x hop.pool
    let (rs, x) := snapshotReserves H rest x
    (r.getD (0, 0) :: rs, x)

/-- Both reserves moved the same way. -/
def reservesManipulated (pre post : I128 × I128) : Bool :=
  let delta0 := (post.1.checkedSub pre.1).getD (SInt.minValue 128)
  let delta1 := (post.2.checkedSub pre.2).getD (SInt.minValue 128)
  (0 < delta0 && 0 < delta1) || (delta0 < 0 && delta1 < 0)

/-- The check after the swap, for the pools whose reserves were read before it. -/
def checkReserves (H : Host X) : List (RouteHop × (I128 × I128)) → X → Result X
  | [], x => pure x
  | (hop, pre) :: rest, x =>
    if pre.1 = 0 ∧ pre.2 = 0 then checkReserves H rest x
    else
      match H.getRsrvs x hop.pool with
      | (some post, x) => do
        require (reservesManipulated pre post = false) (fail .reserveManipulationDetected)
        checkReserves H rest x
      | (none, x) => checkReserves H rest x

/-- The window of an account: its end wraps, as the sum of two `u32`. -/
def rateLimit (sender : Address) (w : World X) : Result (World X) :=
  match w.config.mevConfig with
  | none => pure w
  | some mev =>
    if w.config.whitelisted sender then pure w
    else
      let windowStart := getAccountSwapWindowStart w sender
      let count := getAccountSwapCount w sender
      if 0 < count ∧ w.ledger < windowStart + mev.rateLimitWindowLedgers then do
        require (count < mev.rateLimitMaxSwaps) (fail .rateLimitExceeded)
        setAccountSwapCount H sender (count + 1) mev.rateLimitWindowLedgers w
      else do
        let w ← setAccountSwapWindowStart H sender w.ledger mev.rateLimitWindowLedgers w
        setAccountSwapCount H sender 1 mev.rateLimitWindowLedgers w

/-- How far the output stays behind the estimate, in basis points. -/
def executionSpread (estimated out : I128) : Result I128 :=
  if out < estimated then do
    let diff ← okOr (estimated.checkedSub out) (fail .overflow)
    let scaled ← okOr (diff.checkedMul 10000) (fail .overflow)
    okOr (scaled.checkedDiv estimated) (fail .overflow)
  else pure 0

/-- The larger of the two minimums. -/
def requiredMinOut (params : SwapParams) : I128 :=
  if params.minAmountOut < params.route.minOutput then params.route.minOutput
  else params.minAmountOut

def checkSpread (params : SwapParams) (out : I128) : Result Unit :=
  if 0 < params.maxExecutionSpreadBps ∧ 0 < params.route.estimatedOutput then do
    let spread ← executionSpread params.route.estimatedOutput out
    require (spread.toInt ≤ params.maxExecutionSpreadBps.toNat) (fail .spreadTooHigh)
  else pure ()

/-- The checks on the amounts a swap came to. -/
def slippageGuards (params : SwapParams) (impact : UInt32) (out : I128) : Result Unit := do
  require (params.maxPriceImpactBps = 0 ∨ impact ≤ params.maxPriceImpactBps)
    (fail .priceImpactTooHigh)
  checkSpread params out
  require (requiredMinOut params ≤ out) (fail .slippageExceeded)

/-- The fee of a swap is booked and, when it is configured so, distributed at once. -/
def collectFee (asset : Asset) (fee : I128) (w : World X) : Result (World X) :=
  if 0 < fee then
    let w := emit (.feeCollected asset fee w.ledger) (addFeeBalance asset fee w)
    match w.config.feeConfig with
    | some config =>
      if config.autoDistribute = true ∧ config.minDistribution ≤ w.fees.feeBalance asset then do
        let (_, w) ← distributeFeesInternal H asset config w
        pure w
      else pure w
    | none => pure w
  else pure w

def checkTtlHealth (w : World X) : World X :=
  if w.ttl.lastTtlExtension = 0 then w
  else
    let elapsed := w.ledger.saturatingSub w.ttl.lastTtlExtension
    let remaining := POOL_TTL_EXTEND_TO - elapsed.toNat
    if remaining < POOL_TTL_THRESHOLD then
      emit (.ttlWarning (UInt64.ofNat remaining) (UInt32.ofNat POOL_TTL_THRESHOLD)) w
    else w

/-- The checks of `execute_swap_internal` before anything is read or moved. -/
def checkSwapParams (sender : Address) (params : SwapParams) (w : World X) : Result Unit := do
  require (0 < params.amountIn) (fail .invalidAmount)
  require (0 ≤ params.minAmountOut ∧ 0 ≤ params.route.minOutput) (fail .invalidAmount)
  require (params.maxPriceImpactBps ≤ 10000) (fail .invalidAmount)
  require (params.maxExecutionSpreadBps ≤ 10000) (fail .invalidAmount)
  require (params.recipient ≠ H.contract) (fail .invalidRecipient)
  require (params.recipient = sender ∨ params.recipient ∈ auth) .trap
  require (w.now ≤ params.deadline) (fail .deadlineExceeded)
  require (params.notBefore ≤ w.now) (fail .executionTooEarly)
  require (params.route.hops ≠ [] ∧ params.route.hops.length ≤ 4) (fail .invalidRoute)
  require (∀ hop ∈ params.route.hops, isSupportedPool w hop.pool = true) (fail .poolNotSupported)

/-- Emitted when the impact is above the configured one. -/
def noteImpact (sender : Address) (impact : UInt32) (amountIn : I128) (w : World X) : World X :=
  match w.config.mevConfig with
  | some mev =>
    if mev.maxPriceImpactBps < impact then emit (.highImpactSwap sender impact amountIn) w else w
  | none => w

def executeSwapInternal (sender : Address) (params : SwapParams) (w : World X) :
    Result (SwapResult × World X) := do
  checkSwapParams H auth sender params w
  let w ← rateLimit H sender w
  let first ← okOr params.route.hops.head? .trap
  let last ← okOr params.route.hops.getLast? .trap
  let (pre, x) := snapshotReserves H params.route.hops w.ext
  let w ← transferAsset H first.source sender first.pool params.amountIn { w with ext := x }
  let (amount, impact, x) ← swapHops H params.route.hops params.amountIn 0 w.ext
  let (fee, out) ← splitFee w.config.feeRate amount
  slippageGuards params impact out
  let x ← checkReserves H (params.route.hops.zip pre) x
  let w := noteImpact sender impact params.amountIn { w with ext := x }
  let w ← transferAsset H last.destination H.contract params.recipient out w
  let w ← collectFee H last.destination fee w
  let w ← incrementNonce sender w
  let w := addSwapVolume params.amountIn w
  let w := params.route.hops.foldl (fun w hop => extendPoolTtl H hop.pool w) w
  let w := checkTtlHealth (extendInstanceTtl H w)
  let w := emit (.swapExecuted sender params.amountIn out fee params.route w.ledger) w
  pure ({ amountIn := params.amountIn, amountOut := out, route := params.route,
          executedAt := w.now }, w)

/-- Large swaps have to go through a commitment. -/
def checkCommitmentRequirement (params : SwapParams) (w : World X) : Result Unit :=
  match w.config.mevConfig with
  | some mev => require (params.amountIn < mev.commitmentRequiredAbove) (fail .commitmentRequired)
  | none => pure ()

def executeSwap (sender : Address) (params : SwapParams) (w : World X) :
    Result (SwapResult × World X) := do
  requireAuth auth sender
  requireNotPaused w
  validateRouteAssets w params.route
  checkCommitmentRequirement params w
  executeSwapInternal H auth sender params w

def execute (sender : Address) (params : SwapParams) (w : World X) :
    Result (SwapResult × World X) :=
  executeSwap H auth sender params (emit (.executionRequested sender params.amountIn
    params.route.hops.length params.deadline w.ledger) w)

/-! Commit and reveal -/

/-- `i128::to_be_bytes`: two's complement, sixteen bytes. -/
def I128.toBeBytes (a : I128) : List UInt8 := beBytes 16 (a.toInt % 2 ^ 128).toNat

def U64.toBeBytes (a : UInt64) : List UInt8 := beBytes 8 a.toNat

/-- The bytes that `reveal_and_execute` hashes. -/
def commitmentPayload (params : SwapParams) (salt : Bytes32) : List UInt8 :=
  I128.toBeBytes params.amountIn ++ I128.toBeBytes params.minAmountOut ++
    U64.toBeBytes params.deadline ++ salt.bytes

/-- The expiry wraps, as the sum of two `u32`. A commitment that is already
stored under the hash is overwritten, whoever made it. -/
def commitSwap (sender : Address) (commitmentHash : Bytes32) (depositAmount : I128) (w : World X) :
    Result (World X) := do
  requireAuth auth sender
  requireNotPaused w
  require (0 < depositAmount) (fail .invalidAmount)
  require (commitmentHash ≠ zeroHash) (fail .invalidAmount)
  let mev ← okOr w.config.mevConfig (fail .notInitialized)
  let expiresAt := w.ledger + mev.rateLimitWindowLedgers
  let w ← setCommitment H commitmentHash
    { sender := sender, depositAmount := depositAmount, commitmentHash := commitmentHash,
      createdAt := w.now, expiresAt := expiresAt.toUInt64 } mev.rateLimitWindowLedgers w
  pure (extendInstanceTtl H (emit (.commitmentCreated sender commitmentHash depositAmount) w))

def revealAndExecute (sender : Address) (params : SwapParams) (salt : Bytes32) (w : World X) :
    Result (SwapResult × World X) := do
  requireAuth auth sender
  requireNotPaused w
  let hash := H.sha256 (commitmentPayload params salt)
  let commitment ← okOr (getCommitment w hash) (fail .commitmentNotFound)
  require (commitment.sender = sender) (fail .invalidReveal)
  require (w.now ≤ commitment.expiresAt) (fail .commitmentExpired)
  let w := emit (.commitmentRevealed sender hash) (removeCommitment hash w)
  executeSwapInternal H auth sender params w

/-! Time to live -/

def extendStorageTtl (w : World X) : World X :=
  let w := extendInstanceTtl H w
  let w := w.pools.poolList.foldl (fun w pool => extendPoolTtl H pool w) w
  let w := setLastTtlExtension w.ledger w
  emit (.ttlExtended w.pools.poolList.length w.ledger) w

def getTtlStatus (w : World X) : TTLStatus :=
  let elapsed := (w.ledger.saturatingSub w.ttl.lastTtlExtension).toNat
  let instanceRemaining := INSTANCE_TTL_EXTEND_TO - elapsed
  let poolsRemaining := POOL_TTL_EXTEND_TO - elapsed
  { instanceTtlRemaining := UInt64.ofNat instanceRemaining
    poolsMinTtl := UInt64.ofNat poolsRemaining
    needsExtension :=
      instanceRemaining < INSTANCE_TTL_THRESHOLD || poolsRemaining < POOL_TTL_THRESHOLD
    lastExtendedLedger := w.ttl.lastTtlExtension }

end StellarRoute.Contracts
