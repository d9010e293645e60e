import StellarRoute.Lib.Interleave
import StellarRoute.Lib.MachineInt
import StellarRoute.Swap.Spec.Envelope
import StellarRoute.Swap.Spec.Store

/-! `POST /api/v1/swap/prepare` and `POST /api/v1/swap/submit` (`routes/swap.rs`)
as programs over the store of `swap/store.rs`. Each access to the store, each
reading of the clock and each question to the network is one operation. What
`prepare` does before the envelope is sealed (route validation, pricing, account
sequence, putting the transaction together) is answered by the outside world.
Audit records and metrics are left out. -/

namespace StellarRoute.Swap

open Lib Lib.Interleave

inductive ApiError where
  | validation (message : String)
  | quoteNotFound (quoteId : String)
  | quoteExpired (quoteId : String)
  | conflict (message quoteId txHash status : String)
  | notExecutable (message : String)
  | dependencyUnavailable (message : String)
  | internal (message : String)
deriving DecidableEq

/-! ### The network -/

structure BroadcastResult where
  txHash : String
  status : String
  ledger : Option ℕ
deriving DecidableEq

inductive BroadcastError where
  | validation (message : String)
  | timeout
  | transientRpc (message : String)
  | insufficientFee
  | insufficientBalance
  | slippageExceeded
  | badSignature
  | badSequence
  | malformed
  | permanent (message : String)
deriving DecidableEq

def BroadcastError.isTransientTransport : BroadcastError → Bool
  | .timeout => true
  | .transientRpc _ => true
  | _ => false

def mapBroadcastError : BroadcastError → ApiError
  | .validation msg => .validation msg
  | .timeout => .dependencyUnavailable "Horizon timed out while submitting transaction"
  | .transientRpc msg => .dependencyUnavailable msg
  | .insufficientFee => .validation "Transaction fee is insufficient for network submission"
  | .insufficientBalance => .validation "Source account has insufficient balance for this swap"
  | .slippageExceeded => .notExecutable "On-chain execution would exceed slippage bounds"
  | .badSignature => .validation "Transaction signature is invalid"
  | .badSequence => .conflict "Account sequence mismatch (tx_bad_seq); request a fresh prepare"
      "" "" "bad_sequence"
  | .malformed => .validation "Transaction is malformed and cannot be submitted"
  | .permanent msg => .notExecutable msg

def mapStoreError : SwapStoreError → ApiError
  | .notFound => .quoteNotFound ""
  | .activePrepareExists => .conflict
      "An active prepare already exists for this sender; wait for expiry or submit/fail it first"
      "" "" "active_prepare_exists"
  | .invalidTransition => .conflict "Invalid quote state transition" "" "" "invalid_transition"
  | .database e => .internal e

def mapStoreErrorForQuote (err : SwapStoreError) (quoteId : String) : ApiError :=
  match err with
  | .notFound => .quoteNotFound quoteId
  | other => mapStoreError other

def mapTxBuildError : TxBuildError → ApiError
  | .validation msg => .validation msg
  | .accountLookup msg => .dependencyUnavailable msg
  | .xdr msg => .internal msg

def mapEnvelopeError : EnvelopeValidationError → ApiError
  | .malformed msg => .validation
      s!"signed_xdr is not a valid Stellar transaction envelope: {msg}"
  | .missingSignatures => .validation "signed_xdr must include at least one signature"
  | .quoteMismatch => .validation "signed transaction does not match the prepared quote"
  | .signerMismatch => .validation
      "transaction source account does not match the prepared sender"
  | .badSignature => .validation "Transaction signature is invalid"
  | .unsupportedAccount msg => .validation msg

/-! ### Operations -/

/-- What `prepare` has when it seals the envelope. -/
structure Plan (Body : Type) where
  tx : Transaction Body
  networkPassphrase : String
  sourceSequence : ℤ
  timeboundsMax : UInt64
  baseFee : UInt32
  timeoutSecs : UInt64
  expectedOutput : String
  minOutput : String
  amountIn : String
  routeDigest : String
  priceDigest : String

structure SwapEnv (Body : Type) where
  /-- since the operation before -/
  elapsed : ℕ
  plan : Except ApiError (Plan Body)
  uuid : String
  submit : Except BroadcastError BroadcastResult
  lookup : Except BroadcastError (Option BroadcastResult)

inductive SwapOp where
  | planSwap (sender : String)
  | newUuid
  | now
  | expireStaleForSender (sender : String)
  | insertUnblocked (quote : PreparedSwapQuote)
  | get (quoteId : String)
  | claimForSubmit (quoteId txHash : String)
  | finalizeSubmit (quoteId txHash : String)
  | markFailed (quoteId : String)
  | submit (signedXdr : String)
  | lookup (txHash : String)
deriving DecidableEq

def SwapOp.Res (Body : Type) : SwapOp → Type
  | .planSwap _ => Except ApiError (Plan Body)
  | .newUuid => String
  | .now => ℤ
  | .expireStaleForSender _ => ℕ
  | .insertUnblocked _ => Except SwapStoreError Unit
  | .get _ => Option PreparedSwapQuote
  | .claimForSubmit _ _ => Except SwapStoreError ClaimSubmitOutcome
  | .finalizeSubmit _ _ => Except SwapStoreError Unit
  | .markFailed _ => Unit
  | .submit _ => Except BroadcastError BroadcastResult
  | .lookup _ => Except BroadcastError (Option BroadcastResult)

structure SwapState where
  quotes : SwapQuotes
  clock : ℤ
deriving DecidableEq

/-- The time at which the operation is executed. -/
def SwapState.instant {Body : Type} (s : SwapState) (env : SwapEnv Body) : ℤ :=
  s.clock + env.elapsed

def SwapOp.apply {Body : Type} (env : SwapEnv Body) (now : ℤ) (quotes : SwapQuotes) :
    (o : SwapOp) → o.Res Body × SwapQuotes
  | .planSwap _ => (env.plan, quotes)
  | .newUuid => (env.uuid, quotes)
  | .now => (now, quotes)
  | .expireStaleForSender sender => SwapQuotes.expireStaleForSender quotes sender now
  | .insertUnblocked quote => SwapQuotes.insertUnblocked quotes quote now
  | .get quoteId => (AList.lookup quoteId quotes, quotes)
  | .claimForSubmit quoteId txHash => SwapQuotes.claimForSubmit quotes quoteId txHash
  | .finalizeSubmit quoteId txHash => SwapQuotes.finalizeSubmit quotes quoteId txHash
  | .markFailed quoteId => ((), SwapQuotes.markFailed quotes quoteId)
  | .submit _ => (env.submit, quotes)
  | .lookup _ => (env.lookup, quotes)

def exec {Body : Type} : Exec (SwapEnv Body) SwapState SwapOp (SwapOp.Res Body) := fun env o s =>
  ((o.apply env (s.instant env) s.quotes).1,
    ⟨(o.apply env (s.instant env) s.quotes).2, s.instant env⟩)

abbrev SwapM (Body : Type) := ExceptT ApiError (Prog SwapOp (SwapOp.Res Body))

def perform {Body : Type} (o : SwapOp) : SwapM Body (o.Res Body) := ExceptT.lift (Prog.call o)

def checked {Body α : Type} (x : Except ApiError α) : SwapM Body α := ExceptT.mk (pure x)

/-! ### Prepare -/

structure SwapPrepareResponse where
  quoteId : String
  xdrEnvelope : String
  expectedOutput : String
  minOutput : Option String
  /-- in milliseconds -/
  expiresAt : ℤ
  executionMode : String
  networkPassphrase : String
deriving DecidableEq

structure SwapSubmitRequest where
  quoteId : String
  signedXdr : String
deriving DecidableEq

structure SwapSubmitResponse where
  quoteId : String
  txHash : String
  status : String
  outputAmount : Option String
  ledger : Option ℕ
deriving DecidableEq

/-- A response with its HTTP status and the redacted sender. -/
abbrev Submitted := SwapSubmitResponse × ℕ × String

def DEFAULT_PREPARE_TTL_SECS : ℤ := 120

def NANOS_PER_SEC : ℤ := 1000000000

section

variable {Body : Type} (stellar : Stellar Body)

/-- The address of an account is ASCII. -/
def redactAccount (account : String) : String :=
  if account = "native" then account
  else if account.utf8ByteSize < 12 then "[REDACTED]"
  else
    let chars := account.toList
    String.ofList (chars.take 4) ++ "..." ++ String.ofList (chars.drop (chars.length - 4)) ++ "#" ++
      String.ofList ((hexEncode (stellar.sha256 (utf8 account))).toList.take 8)

def validateStellarAccount (sender : String) : Except ApiError Unit :=
  require (stellar.publicKeyFromString (trim sender)).isSome
    (.validation "sender must be a valid Stellar G-address")

def preparedQuote (sender quoteId : String) (now : ℤ) (plan : Plan Body)
    (built : Stellar.UnsignedEnvelope) : PreparedSwapQuote where
  quoteId
  senderAccount := trim sender
  senderAccountHash := redactAccount stellar (trim sender)
  unsignedXdrHash := built.unsignedXdrHash
  expiresAt := now + NANOS_PER_SEC *
    min DEFAULT_PREPARE_TTL_SECS (SInt.wrap 64 plan.timeoutSecs.toNat).toInt
  estimatedOutput := plan.expectedOutput
  minOutput := plan.minOutput
  amountIn := plan.amountIn
  executionMode := "classic_path_payment"
  networkPassphrase := plan.networkPassphrase
  routeDigest := plan.routeDigest
  priceDigest := plan.priceDigest
  sourceSequence := some plan.sourceSequence
  timeboundsMax := some (SInt.wrap 64 plan.timeboundsMax.toNat).toInt
  baseFee := some (SInt.wrap 32 plan.baseFee.toNat).toInt
  validUntilLedger := none
  submissionStatus := .prepared
  txHash := none

def insertPrepared (quote : PreparedSwapQuote) : SwapM Body Unit := do
  let _ ← perform (.expireStaleForSender quote.senderAccount)
  let inserted ← perform (.insertUnblocked quote)
  checked (inserted.mapError mapStoreError)

def prepareSwapInner (sender : String) : SwapM Body SwapPrepareResponse := do
  checked (validateStellarAccount stellar sender)
  let planned ← perform (.planSwap sender)
  let plan ← checked planned
  let built ← checked ((stellar.sealUnsigned plan.tx plan.networkPassphrase).mapError
    mapTxBuildError)
  let quoteId ← perform .newUuid
  let now ← perform .now
  let _ ← perform (.expireStaleForSender (trim sender))
  let prepared := preparedQuote stellar sender quoteId now plan built
  insertPrepared prepared
  return ⟨quoteId, built.xdrEnvelope, plan.expectedOutput, some plan.minOutput,
    prepared.expiresAt / 1000000, "classic_path_payment", plan.networkPassphrase⟩

/-! ### Submit -/

variable (body : SwapSubmitRequest)

def submitResponse (quote : PreparedSwapQuote) (broadcast : BroadcastResult) : Submitted :=
  (⟨body.quoteId, broadcast.txHash, broadcast.status, some quote.estimatedOutput,
      broadcast.ledger⟩,
    if broadcast.status = "success" then 200 else 202, quote.senderAccountHash)

def quoteTimeboundsExpired (quote : PreparedSwapQuote) : SwapM Body Bool :=
  match quote.timeboundsMax with
  | none => pure false
  | some max =>
    if 0 < max then do
      let now : ℤ ← perform .now
      pure (now / NANOS_PER_SEC > max)
    else pure false

def verifySubmitEnvelope (quote : PreparedSwapQuote) : Except ApiError String := do
  require (trim quote.networkPassphrase ≠ "") (.conflict
    "Prepared quote is missing a bound network passphrase; request a fresh prepare"
    body.quoteId (quote.txHash.getD "") "missing_network_passphrase")
  let computed ← (stellar.validateSignedAgainstPrepared (trim body.signedXdr)
    quote.unsignedXdrHash quote.senderAccount quote.networkPassphrase).mapError mapEnvelopeError
  require (∀ expected ∈ quote.txHash, computed = expected) (.validation
    "signed transaction hash does not match the quote bound at claim")
  return computed

/-- The end of every way to a submitted quote. -/
def finalizeAndRespond (quote : PreparedSwapQuote) (txHash : String) (result : BroadcastResult) :
    SwapM Body Submitted := do
  let finalized ← perform (.finalizeSubmit (trim body.quoteId) txHash)
  checked (finalized.mapError fun e => mapStoreErrorForQuote e (trim body.quoteId))
  return submitResponse body quote result

def failQuote (err : ApiError) : SwapM Body Submitted := do
  perform (.markFailed (trim body.quoteId))
  throw err

def reconcileTimeout (quote : PreparedSwapQuote) (expectedTxHash : String) :
    Except BroadcastError (Option BroadcastResult) → SwapM Body Submitted
  | .ok (some found) =>
    if found.txHash ≠ expectedTxHash then
      throw (.internal "horizon lookup hash mismatch after timeout")
    else finalizeAndRespond body quote expectedTxHash found
  | _ => throw (.dependencyUnavailable
      "Broadcast timed out; quote remains submitting for reconciliation — retry submit")

def settleBroadcast (quote : PreparedSwapQuote) (expectedTxHash : String) :
    Except BroadcastError BroadcastResult → SwapM Body Submitted
  | .ok broadcast =>
    if broadcast.txHash ≠ "" ∧ broadcast.txHash ≠ expectedTxHash then
      throw (.internal
        s!"horizon accepted hash mismatch: expected {expectedTxHash}, got {broadcast.txHash}")
    else finalizeAndRespond body quote expectedTxHash
      (if broadcast.txHash = "" then { broadcast with txHash := expectedTxHash } else broadcast)
  | .error err =>
    if err.isTransientTransport then do
      let found ← perform (.lookup expectedTxHash)
      reconcileTimeout body quote expectedTxHash found
    else failQuote body (mapBroadcastError err)

def broadcastAndFinalize (quote : PreparedSwapQuote) (expectedTxHash : String) :
    SwapM Body Submitted := do
  let recomputed ← checked (verifySubmitEnvelope stellar body quote)
  checked (require (recomputed = expectedTxHash) (.validation
    "signed transaction hash does not match the quote bound at claim"))
  let answer ← perform (.submit (trim body.signedXdr))
  settleBroadcast body quote expectedTxHash answer

/-- The network does not know the transaction. -/
def rebroadcast (quote : PreparedSwapQuote) (storedHash : String) (expired : Bool) :
    SwapM Body Submitted :=
  if expired then failQuote body (.conflict
    "Transaction timebounds expired before confirmation; request a fresh prepare"
    body.quoteId storedHash "permanently_failed")
  else broadcastAndFinalize stellar body quote storedHash

def reconcile (quote : PreparedSwapQuote) (storedHash : String) :
    Except BroadcastError (Option BroadcastResult) → SwapM Body Submitted
  | .ok (some found) =>
    if found.txHash ≠ storedHash then
      throw (.internal
        s!"horizon lookup hash mismatch: expected {storedHash}, got {found.txHash}")
    else finalizeAndRespond body quote storedHash found
  | .ok none => do
    let expired ← quoteTimeboundsExpired quote
    rebroadcast stellar body quote storedHash expired
  | .error e =>
    throw (if e.isTransientTransport then .dependencyUnavailable
      "Horizon reconciliation pending; retry submit without re-preparing"
    else mapBroadcastError e)

def reconcileOrRebroadcast (quote : PreparedSwapQuote) (storedHash : String) :
    SwapM Body Submitted := do
  let _ ← checked (verifySubmitEnvelope stellar body quote)
  let found ← perform (.lookup storedHash)
  reconcile stellar body quote storedHash found

def abandonUnbound (expired : Bool) : SwapM Body Submitted :=
  if expired then failQuote body (.conflict
    "Quote submission window expired; request a fresh prepare"
    body.quoteId "" "permanently_failed")
  else throw (.conflict ("Quote is submitting without a bound transaction hash; request " ++
    "operator reconciliation or a fresh prepare") body.quoteId "" "submitting_without_hash")

/-- The quote is being submitted, by this request or another. -/
def resumeSubmitting (quote : PreparedSwapQuote) : SwapM Body Submitted :=
  match quote.txHash.filter (· ≠ "") with
  | none => do
    let expired ← quoteTimeboundsExpired quote
    abandonUnbound body expired
  | some storedHash => reconcileOrRebroadcast stellar body quote storedHash

def afterClaim (txHash : String) : ClaimSubmitOutcome → SwapM Body Submitted
  | .claimed quote => broadcastAndFinalize stellar body quote txHash
  | .alreadySubmitted txHash => throw (.conflict "Quote has already been submitted"
      body.quoteId txHash "already_submitted")
  | .inProgress current => resumeSubmitting stellar body current
  | .permanentlyFailed => throw (.conflict
      "Quote permanently failed; request a fresh prepare" body.quoteId "" "permanently_failed")

def claimQuote (quote : PreparedSwapQuote) : SwapM Body Submitted := do
  checked (require (stellar.hashXdr (trim body.signedXdr) ≠ quote.unsignedXdrHash) (.validation
    "signed_xdr must include signatures; unsigned prepare envelope was submitted"))
  let txHash ← checked (verifySubmitEnvelope stellar body quote)
  let claimed ← perform (.claimForSubmit (trim body.quoteId) txHash)
  let outcome ← checked (claimed.mapError fun e => mapStoreErrorForQuote e (trim body.quoteId))
  afterClaim stellar body txHash outcome

def submitPrepared (quote : PreparedSwapQuote) (now : ℤ) : SwapM Body Submitted :=
  if now > quote.expiresAt then failQuote body (.quoteExpired body.quoteId)
  else claimQuote stellar body quote

def submitQuote (quote : PreparedSwapQuote) : SwapM Body Submitted :=
  match quote.submissionStatus with
  | .submitted => throw (.conflict "Quote has already been submitted"
      body.quoteId (quote.txHash.getD "") "already_submitted")
  | .failed => throw (.conflict "Quote permanently failed; request a fresh prepare"
      body.quoteId (quote.txHash.getD "") "permanently_failed")
  | .submitting => resumeSubmitting stellar body quote
  | .prepared => do
    let now ← perform .now
    submitPrepared stellar body quote now

def validateSubmit : Except ApiError Unit := do
  require (trim body.quoteId ≠ "") (.validation "quote_id is required")
  require (trim body.signedXdr ≠ "") (.validation "signed_xdr is required")
  require (stellar.isBase64 (trim body.signedXdr)) (.validation "signed_xdr must be valid base64")

def submitSwapInner : SwapM Body Submitted := do
  checked (validateSubmit stellar body)
  let found ← perform (.get (trim body.quoteId))
  let quote ← checked (okOr found (.quoteNotFound body.quoteId))
  submitQuote stellar body quote

end

inductive SwapCall where
  | prepare (sender : String)
  | submit (body : SwapSubmitRequest)
deriving DecidableEq

inductive SwapOut where
  | prepared (response : Except ApiError SwapPrepareResponse)
  | submitted (response : Except ApiError Submitted)

def start {Body : Type} (stellar : Stellar Body) : SwapCall → Prog SwapOp (SwapOp.Res Body) SwapOut
  | .prepare sender => .prepared <$> (prepareSwapInner stellar sender).run
  | .submit body => .submitted <$> (submitSwapInner stellar body).run

end StellarRoute.Swap
