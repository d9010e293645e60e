import StellarRoute.Lib.Interleave
import StellarRoute.Cctp.Spec.Store
import StellarRoute.Cctp.Spec.StellarTx

/-! `CctpService` of `service.rs`. A service call is a program over atomic
operations: reading the clock, asking one of the systems behind the traits
(Iris, the verifiers, the payload builders, the kill switch) and statements to
the two stores. Callers run concurrently (`Lib.Interleave`). Metrics and logs
are left out. -/

namespace StellarRoute.Cctp

open Lib Lib.Interleave

/-- What the service asks outside of its stores. -/
inductive Query where
  | providerKilled
  | newTransferId
  | leaseOwner
  | fetchBurnFees (sourceDomain destinationDomain : ℕ)
  | pollMessagesByTx (sourceDomain : ℕ) (txHash : String)
  | irisReattest (nonce : String)
  | burnVerifierReady (direction : CctpDirection)
  | attestationVerifierReady
  | mintVerifierReady (direction : CctpDirection)
  | approvalVerifierReady (direction : CctpDirection)
  | verifyBurn (direction : CctpDirection) (txHash : String)
  | verifyAttestation (message attestation : Bytes)
  | verifyApproval (t : CctpTransfer) (txHash : String) (required : ℕ)
  | verifyMintSubmission (direction : CctpDirection) (txHash : String)
      (message attestation : Bytes) (nonce expectedPayloadHash : String)
      (expectedMintSubmitter : Option String)
  | verifyMintCompletion (direction : CctpDirection) (txHash : String) (message : Bytes)
      (nonce recipient : String) (quotedFinality : CctpFinality)
  | prepareBurn (t : CctpTransfer)
  | prepareMint (t : CctpTransfer)
  | finalizedTransaction (txHash : String)

abbrev Query.Answer : Query → Type
  | .providerKilled => Bool
  | .newTransferId => Uuid
  | .leaseOwner => String
  | .fetchBurnFees .. => Except String IrisFeeQuote
  | .pollMessagesByTx .. => Except String IrisPollOutcome
  | .irisReattest _ => Except String Unit
  | .burnVerifierReady _ => Bool
  | .attestationVerifierReady => Bool
  | .mintVerifierReady _ => Bool
  | .approvalVerifierReady _ => Bool
  | .verifyBurn .. => Except VerifierError VerifiedBurnFacts
  | .verifyAttestation .. => Except AttestationVerifyError Unit
  | .verifyApproval .. => Except VerifierError Unit
  | .verifyMintSubmission .. => Except VerifierError VerifiedMintFacts
  | .verifyMintCompletion .. => Except VerifierError MintVerifyOutcome
  | .prepareBurn _ => Except BuilderError PreparedBurnBundle
  | .prepareMint _ => Except BuilderError PreparedMintBundle
  | .finalizedTransaction _ => Except VerifierError FinalizedTx

/-- The outside world at the instant of one operation. -/
structure Env where
  now : Time
  database : Database
  /-- which of several live reservations a lookup returns -/
  lockRow : ℕ
  answer : (q : Query) → q.Answer

inductive Op where
  | clock
  | ask (q : Query)
  | store (o : StoreOp)
  | lock (o : LockOp)

abbrev Op.Res : Op → Type
  | .clock => Time
  | .ask q => q.Answer
  | .store o => Except CctpStoreError o.Ret
  | .lock o => Except CctpPrepareLockError o.Ret

def exec (c : Codec) : Exec Env State Op Op.Res
  | env, .clock, s => (env.now, s)
  | env, .ask q, s => (env.answer q, s)
  | env, .store o, s => o.exec env.now env.database s
  | env, .lock o, s => o.exec c env.now env.database env.lockRow s

abbrev Svc := ExceptT CctpServiceError (Prog Op Op.Res)

def perform (o : Op) : Svc o.Res := ExceptT.lift (Prog.call o)

def utcNow : Svc Time := perform .clock

def ask (q : Query) : Svc q.Answer := perform (.ask q)

/-- A computation that needs no operation. -/
def checked {α : Type} (x : Except CctpServiceError α) : Svc α := ExceptT.mk (pure x)

def ensure (p : Prop) [Decidable p] (e : CctpServiceError) : Svc Unit := checked (require p e)

/-- A store operation whose error ends the call. -/
def store (o : StoreOp) : Svc o.Ret := do
  let r ← perform (.store o)
  checked (r.mapError CctpServiceError.store)

def mapPrepareLockError : CctpPrepareLockError → CctpServiceError
  | .payloadHashMismatch | .activePrepareExists => .activePrepareExists
  | .payloadTooLarge => .store .payloadTooLarge
  | .database => .store .database

def lock (o : LockOp) : Svc o.Ret := do
  let r ← perform (.lock o)
  checked (r.mapError mapPrepareLockError)

variable (c : Codec) (cfg : CctpConfig)

def getTransfer (id : Uuid) : Svc CctpTransfer := do
  let found ← store (.get id)
  checked (okOr found .notFound)

/-! ### Checks -/

def ensureBurnVerifierReady (direction : CctpDirection) : Svc Unit := do
  let ready ← ask (.burnVerifierReady direction)
  ensure ready .verifiersNotReady

def ensureAttestationVerifierReady : Svc Unit := do
  let ready ← ask .attestationVerifierReady
  ensure ready .verifiersNotReady

def ensureMintVerifierReady (direction : CctpDirection) : Svc Unit := do
  let ready ← ask (.mintVerifierReady direction)
  ensure ready .verifiersNotReady

def ensureQuoteNotExpired (t : CctpTransfer) : Svc Unit := do
  let now ← utcNow
  ensure (now ≤ t.quoteExpiresAt) .quoteExpired

def ensureMintPayloadValid (t : CctpTransfer) : Svc Unit :=
  match t.mintPayloadExpiresAt with
  | none => pure ()
  | some exp => do
    let now ← utcNow
    ensure (now ≤ exp) .mintPayloadExpired

def ensureFeeNotExpired (t : CctpTransfer) : Svc Unit :=
  match t.feeExpiresAt with
  | none => pure ()
  | some exp => do
    let now ← utcNow
    ensure (now ≤ exp) .feeExpired

def ensureNotKilled : Svc Unit := do
  let killed ← ask .providerKilled
  ensure (!killed) .providerKilled

/-! ### Reservations -/

/-- The result of the release is ignored. -/
def releaseFor (source : Option String) (id : Uuid) : Svc Unit :=
  match source with
  | none => pure ()
  | some source => do
    let _ ← perform (.lock (.release source id))
    pure ()

def releaseTransferPrepareLocks (t : CctpTransfer) : Svc Unit := do
  releaseFor (if t.sender.isEmpty then none else some t.sender) t.transferId
  releaseFor t.mintSubmitter t.transferId

/-- `map_payload_cache_error` of a text of the other kind. -/
def cacheError : CctpServiceError :=
  .verifier (.failed "prepare payload cache: serialization")

def deserializeBurnBundle : CachedPayload → Except CctpServiceError PreparedBurnBundle
  | .burn bundle => .ok bundle
  | .mint _ => .error cacheError

def deserializeMintBundle : CachedPayload → Except CctpServiceError PreparedMintBundle
  | .mint bundle => .ok bundle
  | .burn _ => .error cacheError

def serializePayload (payload : CachedPayload) : Except CctpServiceError CachedPayload := do
  require (payload.len c ≤ MAX_PREPARED_PAYLOAD_LEN) (.store .payloadTooLarge)
  pure payload

def PreparedMintBundle.isTrustline (bundle : PreparedMintBundle) : Bool :=
  bundle.trustlineRequired || bundle.step = .trustline

/-- The cached mint payload, if the reservation found is the submitter's, live and no trustline
step. -/
def activeMintBundleForTransfer (id : Uuid) (submitter : String) :
    Svc (Option PreparedMintBundle) := do
  let active ← lock (.getForTransfer id)
  match active with
  | none => pure none
  | some active =>
    if active.sourceAccount ≠ submitter then pure none
    else
      let now ← utcNow
      if active.expiresAt ≤ now then pure none
      else match active.preparedPayload with
        | none => pure none
        | some payload =>
          let bundle ← checked (deserializeMintBundle payload)
          if bundle.isTrustline then pure none else pure (some bundle)

/-- `DateTime::from_timestamp(..).unwrap_or_else(Utc::now)`. -/
def expiryOrNow (expiresAt : ℤ) : Svc Time :=
  match fromTimestamp expiresAt with
  | some t => pure t
  | none => utcNow

def reserve (source : String) (id : Uuid) (kind : CctpPrepareKind) (payloadHash : String)
    (payload : CachedPayload) (expiresAt : Time) : Svc PrepareAcquireResult := do
  let now ← utcNow
  lock (.tryAcquire { sourceAccount := source, transferId := id, kind, payloadHash
                      preparedPayload := some payload, expiresAt, updatedAt := now })

/-! ### Quote -/

def formatSupportId (id : Uuid) : String := s!"cctp-{id}"

def quotedAmount (request : CctpQuoteRequest) : Except CctpServiceError ℕ :=
  match request.direction with
  | .stellarToEvm =>
    (stellarOutboundCctpAmountStrict request.amount).mapError fun _ => .stellarRemainder
  | .evmToStellar =>
    (decimalToCctpSubunits request.amount).mapError fun _ => .validation .invalidAmount

def quotedDestinationAmount (request : CctpQuoteRequest) (cctpAmount : ℕ) :
    Except CctpServiceError String :=
  match request.direction with
  | .stellarToEvm => .ok request.amount
  | .evmToStellar => do
    let stellarSub ← (cctpSubunitsToStellarSubunits cctpAmount).mapError fun _ =>
      .validation .invalidAmount
    pure (formatStellarAmount stellarSub)

def quotedFee (fees : IrisFeeQuote) : CctpFinality → Except CctpServiceError String
  | .standard => .ok fees.standardFee
  | .fast => okOr fees.fastFee .fastNotSupported

/-- The record that a quote creates. -/
def newTransfer (request : CctpQuoteRequest) (id : Uuid) (accessTokenHash destinationAmount maxFee :
    String) (now : Time) : CctpTransfer where
  transferId := id
  supportReferenceId := formatSupportId id
  corridorId := request.corridorId
  provider := request.provider
  direction := request.direction
  sourceChainId := request.sourceChainId
  destinationChainId := request.destinationChainId
  sourceAsset := request.sourceAsset.asset
  sourceAssetCanonical := request.sourceAsset.canonical
  destinationAsset := request.destinationAsset.asset
  destinationAssetCanonical := request.destinationAsset.canonical
  sender := request.sender.getD ""
  recipient := request.recipient
  mintSubmitter := request.mintSubmitter
  amount := request.amount
  destinationAmount
  finality := request.finality
  runtimeFeeQuote := some maxFee
  maxFee := some maxFee
  feeExpiresAt := some (now + seconds (10 * 60))
  quoteExpiresAt := now + seconds cfg.quoteTtlSecs
  status := .created
  sourceTxHash := none
  sourceApprovalTxHash := none
  sourceApprovalVerifiedAt := none
  destinationTxHash := none
  irisMessageHash := none
  messageNonce := none
  rawMessage := none
  attestation := none
  retryCount := 0
  lastProviderError := none
  lastProviderCode := none
  version := 1
  createdAt := now
  updatedAt := now
  terminalAt := none
  mintPayloadHash := none
  mintPayloadExpiresAt := none
  approvalPayloadHash := none
  approvalExpirationLedger := none
  burnPayloadHash := none
  burnPrepareStep := none
  accessTokenHash := some accessTokenHash
  lastPolledAt := none
  pollLeaseUntil := none
  reattestLeaseOwnerHash := none
  reattestLeaseUntil := none
  reattestAttemptCount := 0
  reattestCooldownUntil := none

def buildQuoteTransfer (request : CctpQuoteRequest) (id : Uuid) (accessTokenHash : String) :
    Svc CctpTransfer := do
  ensure cfg.enabled .notEnabled
  ensureNotKilled
  checked ((request.validate c).mapError CctpServiceError.validation)
  let cctpAmount ← checked (quotedAmount request)
  ensure (request.direction = .evmToStellar → request.mintSubmitter.isSome)
    (.validation .invalidMintSubmitter)
  let cap := ((decimalToCctpSubunits cfg.amountCap).toOption).getD (2 ^ 128 - 1)
  ensure (cctpAmount ≤ cap) .amountExceedsCap
  let (_, sourceDomain, destinationDomain) := sourceChain request.direction
  let answer ← ask (.fetchBurnFees sourceDomain destinationDomain)
  let fees ← checked (answer.mapError CctpServiceError.iris)
  let maxFee ← checked (quotedFee fees request.finality)
  let now ← utcNow
  let destinationAmount ← checked (quotedDestinationAmount request cctpAmount)
  pure (newTransfer cfg request id accessTokenHash destinationAmount maxFee now)

def quoteCore (request : CctpQuoteRequest) (accessTokenHash : String) : Svc CctpTransfer := do
  let id ← ask .newTransferId
  let t ← buildQuoteTransfer c cfg request id accessTokenHash
  store (.insert t)
  pure t

/-! ### Burn -/

def prepareBurn (id : Uuid) : Svc CctpTransfer := do
  ensure (cfg.enabled ∧ cfg.configured) .notEnabled
  ensureNotKilled
  let t ← getTransfer id
  if t.status = .burnPrepared then pure t
  else
    ensure (t.status = .created) .invalidState
    ensureQuoteNotExpired t
    ensureFeeNotExpired t
    ensureBurnVerifierReady t.direction
    store (.transition id t.version .burnPrepared {})

def recordBurnSubmission (id : Uuid) (txHash : String) : Svc CctpTransfer := do
  let t ← getTransfer id
  ensure (t.status = .burnPrepared) .invalidState
  ensureQuoteNotExpired t
  ensureFeeNotExpired t
  ensureBurnVerifierReady t.direction
  let answer ← ask (.verifyBurn t.direction txHash)
  let facts ← checked (answer.mapError CctpServiceError.verifier)
  let expected ← checked ((buildExpectedBurnFacts c t txHash).mapError fun _ =>
    CctpServiceError.verifier (.failed "expectations"))
  checked ((factsMatch expected facts).mapError fun _ =>
    CctpServiceError.verifier (.failed "burn facts mismatch"))
  let awaiting ← store (.recordVerifiedBurn id t.version txHash)
  releaseTransferPrepareLocks t
  pure awaiting

def amountError : CctpServiceError := .verifier (.failed "amount")

def requiredApproval (t : CctpTransfer) : Except CctpServiceError ℕ :=
  match t.direction with
  | .stellarToEvm => do
    let cctpAmount ← (stellarOutboundCctpAmountStrict t.amount).mapError fun _ => amountError
    let required ← (cctpSubunitsToStellarSubunits cctpAmount).mapError fun _ => amountError
    require (required < 2 ^ 127) amountError
    pure required
  | .evmToStellar => (decimalToCctpSubunits t.amount).mapError fun _ => amountError

def normalizeTxHash (hash : String) : String := toAsciiLowercase (strip0x (trim hash))

def txHashesEqual (a b : String) : Bool := normalizeTxHash a = normalizeTxHash b

def verifyAndRecordApproval (t : CctpTransfer) (id : Uuid) (txHash : String) :
    Svc CctpTransfer := do
  let verifiedAt ← utcNow
  let ready ← ask (.approvalVerifierReady t.direction)
  ensure ready .verifiersNotReady
  let required ← checked (requiredApproval t)
  let answer ← ask (.verifyApproval t txHash required)
  checked (answer.mapError CctpServiceError.verifier)
  let updated ← store (.recordApprovalSubmission id t.version txHash verifiedAt)
  if t.sender.isEmpty then pure updated
  else
    releaseTransferPrepareLocks t
    pure updated

def recordApprovalSubmission (id : Uuid) (txHash : String) : Svc CctpTransfer := do
  let t ← getTransfer id
  ensure (t.status = .burnPrepared) .invalidState
  ensureQuoteNotExpired t
  ensureFeeNotExpired t
  match t.sourceApprovalTxHash with
  | some existing =>
    ensure (txHashesEqual existing txHash) (.verifier (.failed "conflicting approval tx hash"))
    if t.sourceApprovalVerifiedAt.isSome then pure t
    else verifyAndRecordApproval t id txHash
  | none => verifyAndRecordApproval t id txHash

inductive StellarSourceSubmissionKind where
  | approval
  | burn
deriving DecidableEq

def classifyStellarSource (tx : FinalizedTx) :
    Except VerifierError StellarSourceSubmissionKind := do
  require (tx.status = .success) (.failed "tx failed")
  let invoke ← parseInvokeEnvelope c tx.envelopeXdr
  match invoke.function with
  | "approve" => pure .approval
  | "deposit_for_burn" | "deposit_for_burn_with_hook" => pure .burn
  | other => .error (.failed s!"unsupported stellar invoke: {other}")

def classifyStellarSourceSubmission (txHash : String) : Svc StellarSourceSubmissionKind := do
  let answer ← ask (.finalizedTransaction txHash)
  let tx ← checked (answer.mapError CctpServiceError.verifier)
  checked ((classifyStellarSource c tx).mapError CctpServiceError.verifier)

/-- `msg.contains("wrong function")`. -/
def isWrongFunction : CctpServiceError → Bool
  | .verifier (.failed msg) => containsText msg "wrong function"
  | _ => false

def recordSourceSubmission (id : Uuid) (txHash : String) : Svc CctpTransfer := do
  let t ← getTransfer id
  match t.direction with
  | .stellarToEvm =>
    let kind ← classifyStellarSourceSubmission c txHash
    match kind with
    | .approval => recordApprovalSubmission id txHash
    | .burn =>
      tryCatch (recordBurnSubmission c id txHash) fun e =>
        if isWrongFunction e then recordApprovalSubmission id txHash else throw e
  | .evmToStellar =>
    if t.burnPrepareStep = some "approval" ∧ t.sourceApprovalVerifiedAt.isNone then
      recordApprovalSubmission id txHash
    else recordBurnSubmission c id txHash

def burnPrepareSource (t : CctpTransfer) : Except CctpServiceError String := do
  require (!t.sender.isEmpty) .invalidState
  pure t.sender

def BurnPrepareStep.kind : BurnPrepareStep → CctpPrepareKind
  | .approval => .approval
  | .burn => .burn

def BurnPrepareStep.str : BurnPrepareStep → String
  | .approval => "approval"
  | .burn => "burn"

def burnPatch (bundle : PreparedBurnBundle) (payloadHash : String) : TransferPatch :=
  match bundle.step with
  | .approval =>
    { burnPrepareStep := some bundle.step.str, burnPayloadHash := some payloadHash
      approvalPayloadHash := some payloadHash
      approvalExpirationLedger := bundle.approvalExpirationLedger }
  | .burn => { burnPrepareStep := some bundle.step.str, burnPayloadHash := some payloadHash }

/-- A Stellar burn has no seventh decimal. -/
def checkRemainder (t : CctpTransfer) : Except CctpServiceError Unit :=
  match t.direction with
  | .stellarToEvm => do
    let _ ← (stellarOutboundCctpAmountStrict t.amount).mapError fun _ =>
      CctpServiceError.stellarRemainder
    pure ()
  | .evmToStellar => .ok ()

/-- The first part of `prepare_burn_wallet`: the transfer, moved to `BurnPrepared` if it was just
created. -/
def burnPreparedTransfer (id : Uuid) : Svc CctpTransfer := do
  let t ← getTransfer id
  match t.status with
  | .created =>
    ensureQuoteNotExpired t
    ensureFeeNotExpired t
    ensureBurnVerifierReady t.direction
    checked (checkRemainder t)
    store (.transition id t.version .burnPrepared {})
  | .burnPrepared =>
    ensureQuoteNotExpired t
    ensureFeeNotExpired t
    ensureBurnVerifierReady t.direction
    pure t
  | _ => throw .invalidState

def prepareBurnWallet (id : Uuid) : Svc PreparedBurnBundle := do
  ensure (cfg.enabled ∧ cfg.configured) .notEnabled
  ensureNotKilled
  let t ← burnPreparedTransfer id
  let source ← checked (burnPrepareSource t)
  let answer ← ask (.prepareBurn t)
  let bundle ← checked (answer.mapError CctpServiceError.builder)
  let payloadHash ← checked ((walletPayloadHash c cfg bundle.primary).mapError
    CctpServiceError.verifier)
  let expires ← expiryOrNow bundle.expiresAt
  let payload ← checked (serializePayload c (.burn bundle))
  let result ← reserve source id bundle.step.kind payloadHash payload expires
  let record : Svc PreparedBurnBundle := do
    let _ ← store (.transition id t.version .burnPrepared (burnPatch bundle payloadHash))
    pure bundle
  match result with
  | .acquired => record
  | .idempotent active =>
    match active.preparedPayload with
    | some payload => checked (deserializeBurnBundle payload)
    | none => record
  | .conflictOtherTransfer _ => throw .activePrepareExists

/-! ### Attestation -/

/-- `reattest_with_claim` with the constants of `gate.rs`. -/
def REATTEST_MAX_ATTEMPTS : ℕ := 5
def REATTEST_COOLDOWN_SECS : ℤ := 60
def REATTEST_LEASE_SECS : ℤ := 30

/-- A provider error as it is stored: short, and without an address. -/
def redacted (detail : String) : String :=
  if byteLen detail ≤ 120 && !containsText detail "http" then detail
  else "Circle attestation reattest failed"

/-- The request to Iris. Without a nonce, polling by the burn transaction goes on as before. -/
def requestReattest (t : CctpTransfer) (id : Uuid) (owner : String) (cooldownSecs : ℤ) :
    Svc (Except String Unit) :=
  match t.messageNonce with
  | some nonce => ask (.irisReattest nonce)
  | none =>
    if t.sourceTxHash.isSome then pure (.ok ())
    else do
      let _ ← perform (.store (.finalizeReattestFailure id owner "invalid_state"
        "reattest requires message nonce or source tx hash" cooldownSecs))
      throw .invalidState

def reattestWithClaim (id : Uuid) (maxAttempts : ℕ) (cooldownSecs leaseSecs : ℤ) :
    Svc CctpTransfer := do
  let owner ← ask .leaseOwner
  let claim ← store (.claimReattestLease id owner leaseSecs maxAttempts)
  let (t, outcome) ← checked (okOr claim .notFound)
  ensure (outcome = .claimed) .invalidState
  let irisResult ← requestReattest t id owner cooldownSecs
  match irisResult with
  | .ok () =>
    let updated ← store (.finalizeReattestSuccess id owner)
    checked (okOr updated .invalidState)
  | .error detail =>
    let _ ← perform (.store (.finalizeReattestFailure id owner "iris_reattest_failed"
      (redacted detail) cooldownSecs))
    throw (.iris (redacted detail))

def reattest (id : Uuid) : Svc CctpTransfer :=
  reattestWithClaim id REATTEST_MAX_ATTEMPTS REATTEST_COOLDOWN_SECS REATTEST_LEASE_SECS

def failAttestationTimeout (t : CctpTransfer) : Svc CctpTransfer := do
  let updated ← store (.transition t.transferId t.version .attestationFailed
    { lastProviderError := some "attestation poll timeout"
      lastProviderCode := some "poll_timeout" })
  releaseTransferPrepareLocks t
  pure updated

/-- The checks of an Iris message up to the signatures: the raw message and the attestation. -/
def checkIrisMessage (t : CctpTransfer) (msg : IrisMessage) :
    Except CctpServiceError (Bytes × Bytes) := do
  require (msg.status = .complete) (.invalidMessage "iris status is not complete")
  let persisted ← okOr t.sourceTxHash .invalidState
  let irisHash ← okOr msg.sourceTxHash .irisTxHashMismatch
  require (txHashesEqual persisted irisHash) .irisTxHashMismatch
  let attestationHex ← okOr msg.attestationHex .missingAttestation
  require (attestationHex ≠ "" ∧ ¬ eqIgnoreAsciiCase attestationHex "PENDING") .missingAttestation
  let expectations ← (buildCorridorExpectations c t).mapError fun e =>
    .invalidMessage ("corridor expectations: " ++ e.display)
  let _ ← (validateMessageForCorridor msg.messageHex expectations).mapError fun e =>
    .invalidMessage ("corridor message: " ++ e.display)
  let raw ← (decodeHexMessage msg.messageHex).mapError fun e =>
    .invalidMessage ("message hex: " ++ e.display)
  require (raw.length ≤ MAX_RAW_MESSAGE_BYTES) (.invalidMessage "raw message exceeds bound")
  let attestation ← (decodeHexMessage attestationHex).mapError fun e =>
    .invalidMessage ("attestation hex: " ++ e.display)
  require (attestation.length ≤ MAX_ATTESTATION_BYTES)
    (.invalidMessage "attestation exceeds bound")
  pure (raw, attestation)

def validateAndMarkAttestationReady (t : CctpTransfer) (msg : IrisMessage) :
    Svc CctpTransfer := do
  ensureAttestationVerifierReady
  let (raw, attestation) ← checked (checkIrisMessage c t msg)
  let answer ← ask (.verifyAttestation raw attestation)
  checked (answer.mapError CctpServiceError.attestation)
  ensure (msg.eventNonce ≠ "") (.invalidMessage "iris event nonce empty")
  store (.transition t.transferId t.version .attestationReady
    { rawMessage := some raw, attestation := some attestation
      messageNonce := some msg.eventNonce })

def mintRetryablePatch (reason : String) : TransferPatch :=
  { lastProviderError := some reason, lastProviderCode := some "mint_retryable" }

def recordMintReconciliationHint (t : CctpTransfer) : Svc CctpTransfer :=
  if t.lastProviderCode = some "mint_reconciliation_nonce" then pure t
  else store (.transition t.transferId t.version t.status
    { lastProviderError := some "nonce consumed on-chain without full mint delivery evidence; remains MintSubmitted"
      lastProviderCode := some "mint_reconciliation_nonce" })

/-- The end of `record_mint_submission` and of `poll_mint_completion`: what a verdict on the
destination transaction does to the submitted transfer. -/
def settleMint (t submitted : CctpTransfer) : MintVerifyOutcome → Svc CctpTransfer
  | .succeeded => do
    let completed ← store (.recordMintCompleted submitted.transferId submitted.version)
    releaseTransferPrepareLocks t
    pure completed
  | .pending => pure submitted
  | .reconciliationNonceConsumed => recordMintReconciliationHint submitted
  | .failedRetryable reason => do
    let retryable ← store (.transition t.transferId submitted.version .mintFailedRetryable
      (mintRetryablePatch reason))
    releaseTransferPrepareLocks t
    pure retryable

def pollMintCompletion (t : CctpTransfer) : Svc CctpTransfer := do
  let txHash ← checked (okOr t.destinationTxHash .invalidState)
  let message ← checked (okOr t.rawMessage .invalidState)
  let nonce ← checked (okOr t.messageNonce .invalidState)
  let answer ← ask (.verifyMintCompletion t.direction txHash message nonce t.recipient t.finality)
  let completion ← checked (answer.mapError CctpServiceError.verifier)
  settleMint t t completion

def pollAttestation (t : CctpTransfer) : Svc CctpTransfer := do
  let txHash ← checked (okOr t.sourceTxHash .invalidState)
  let answer ← ask (.pollMessagesByTx (sourceChain t.direction).2.1 txHash)
  let outcome ← checked (answer.mapError CctpServiceError.iris)
  match outcome with
  | .pending | .notFound => pure t
  | .rateLimited retryAfterSecs =>
    let _ ← perform (.store (.transition t.transferId t.version .awaitingAttestation
      { lastProviderError := some s!"rate limited; retry after {retryAfterSecs}s"
        lastProviderCode := some "429" }))
    pure t
  | .complete msg => validateAndMarkAttestationReady c t msg

def pollOneTransfer (id : Uuid) : Svc CctpTransfer := do
  let t ← getTransfer id
  match t.status with
  | .mintSubmitted => pollMintCompletion t
  | .awaitingAttestation =>
    let now ← utcNow
    if t.updatedAt + seconds cfg.pollTimeoutSecs < now then failAttestationTimeout t
    else pollAttestation c t
  | _ => pure t

def pollOneTransferWithLease (id : Uuid) (leaseSecs minIntervalSecs : ℤ) : Svc CctpTransfer := do
  let lease ← store (.tryAcquirePollLease id leaseSecs minIntervalSecs)
  let (t, outcome) ← checked (okOr lease .notFound)
  match outcome with
  | .skipped => pure t
  | .acquired => pollOneTransfer c cfg id

/-! ### Mint -/

/-- The reservation of a Stellar mint payload: the cached bundle, if that answers the call. -/
def reserveMint (t : CctpTransfer) (id : Uuid) (bundle : PreparedMintBundle) :
    Svc (Option PreparedMintBundle) :=
  match t.direction with
  | .stellarToEvm => pure none
  | .evmToStellar => do
    let submitter ← checked (okOr t.mintSubmitter .invalidState)
    let expires ← expiryOrNow bundle.expiresAt
    let payload ← checked (serializePayload c (.mint bundle))
    let result ← reserve submitter id .mint bundle.payloadHash payload expires
    match result with
    | .acquired => pure none
    | .idempotent active =>
      match active.preparedPayload with
      | some payload =>
        let cached ← checked (deserializeMintBundle payload)
        pure (some cached)
      | none => pure none
    | .conflictOtherTransfer _ => throw .activePrepareExists

/-- A mint payload that was prepared before and is still reserved. -/
def cachedMintBundle (t : CctpTransfer) (id : Uuid) : Svc (Option PreparedMintBundle) :=
  match t.direction with
  | .stellarToEvm => pure none
  | .evmToStellar => do
    let submitter ← checked (okOr t.mintSubmitter .invalidState)
    activeMintBundleForTransfer id submitter

def buildMint (t : CctpTransfer) (id : Uuid) : Svc PreparedMintBundle := do
  let answer ← ask (.prepareMint t)
  let bundle ← checked (answer.mapError CctpServiceError.builder)
  if bundle.isTrustline then pure bundle
  else
    let cached ← reserveMint c t id bundle
    match cached with
    | some cached => pure cached
    | none =>
      let expires ← expiryOrNow bundle.expiresAt
      let _ ← store (.recordMintPrepared id t.version bundle.payloadHash expires t.mintSubmitter)
      pure bundle

def prepareMint (id : Uuid) : Svc PreparedMintBundle := do
  ensure (cfg.enabled ∧ cfg.configured) .notEnabled
  let t ← getTransfer id
  ensure (t.status = .attestationReady ∨ t.status = .mintPrepared ∨
    t.status = .mintFailedRetryable) .invalidState
  ensureQuoteNotExpired t
  let cached ← cachedMintBundle t id
  match cached with
  | some bundle => pure bundle
  | none =>
    ensure (t.status ≠ .mintPrepared) .invalidState
    buildMint c t id

/-- The checks of a transfer before its mint is verified: payload hash, message, attestation and
nonce. -/
def mintEvidence (t : CctpTransfer) : Except CctpServiceError (String × Bytes × Bytes × String) := do
  let payloadHash ← okOr t.mintPayloadHash .invalidState
  let message ← okOr t.rawMessage .invalidState
  let attestation ← okOr t.attestation .invalidState
  let nonce ← okOr t.messageNonce .invalidState
  pure (payloadHash, message, attestation, nonce)

/-- The EVM verifier is not told the submitter. -/
def expectedMintSubmitter (t : CctpTransfer) : Option String :=
  match t.direction with
  | .stellarToEvm => none
  | .evmToStellar => t.mintSubmitter

def failMintRetryable (t : CctpTransfer) (id : Uuid) (reason : String) : Svc CctpTransfer := do
  releaseTransferPrepareLocks t
  store (.transition id t.version .mintFailedRetryable (mintRetryablePatch reason))

/-- The part of `record_mint_submission` after the submission was found bound to the transfer. -/
def submitMint (t : CctpTransfer) (id : Uuid) (txHash : String) (message : Bytes)
    (nonce : String) : Svc CctpTransfer := do
  match t.destinationTxHash with
  | some existing =>
    ensure (existing = txHash) (.verifier (.failed "conflicting destination tx hash"))
    pure t
  | none =>
    let submitted ← store (.recordMintSubmission id t.version txHash)
    let answer ← ask (.verifyMintCompletion t.direction txHash message nonce t.recipient
      t.finality)
    let completion ← checked (answer.mapError CctpServiceError.verifier)
    settleMint t submitted completion

def recordMintSubmission (id : Uuid) (txHash : String) : Svc CctpTransfer := do
  let t ← getTransfer id
  ensure (t.status = .mintPrepared) .invalidState
  ensureMintPayloadValid t
  ensureMintVerifierReady t.direction
  let (payloadHash, message, attestation, nonce) ← checked (mintEvidence t)
  let answer ← ask (.verifyMintSubmission t.direction txHash message attestation nonce payloadHash
    (expectedMintSubmitter t))
  let facts ← checked (answer.mapError CctpServiceError.verifier)
  ensure (facts.payloadHash = payloadHash) .mintPayloadHashMismatch
  match facts.outcome with
  | .failedRetryable reason => failMintRetryable t id reason
  | _ =>
    ensure facts.submissionOk (.verifier (.failed "mint submission mismatch"))
    submitMint t id txHash message nonce

def cancel (id : Uuid) : Svc CctpTransfer := do
  let t ← getTransfer id
  ensure (canCancel t.status) .invalidState
  let updated ← store (.transition id t.version .cancelled {})
  releaseTransferPrepareLocks t
  pure updated

/-! ### Callers -/

inductive Call where
  | quote (request : CctpQuoteRequest) (accessTokenHash : String)
  | prepareBurn (id : Uuid)
  | prepareBurnWallet (id : Uuid)
  | submitSource (id : Uuid) (txHash : String)
  | submitBurn (id : Uuid) (txHash : String)
  | submitApproval (id : Uuid) (txHash : String)
  | poll (id : Uuid)
  | pollWithLease (id : Uuid) (leaseSecs minIntervalSecs : ℤ)
  | reattest (id : Uuid)
  | prepareMint (id : Uuid)
  | submitMint (id : Uuid) (txHash : String)
  | cancel (id : Uuid)
deriving DecidableEq

inductive Reply where
  | transfer (t : CctpTransfer)
  | burn (bundle : PreparedBurnBundle)
  | mint (bundle : PreparedMintBundle)
deriving DecidableEq

abbrev Outcome := Except CctpServiceError Reply

def Call.program : Call → Svc Reply
  | .quote request accessTokenHash => do
    let t ← quoteCore c cfg request accessTokenHash
    pure (.transfer t)
  | .prepareBurn id => do
    let t ← Cctp.prepareBurn cfg id
    pure (.transfer t)
  | .prepareBurnWallet id => do
    let bundle ← Cctp.prepareBurnWallet c cfg id
    pure (.burn bundle)
  | .submitSource id txHash => do
    let t ← recordSourceSubmission c id txHash
    pure (.transfer t)
  | .submitBurn id txHash => do
    let t ← recordBurnSubmission c id txHash
    pure (.transfer t)
  | .submitApproval id txHash => do
    let t ← recordApprovalSubmission id txHash
    pure (.transfer t)
  | .poll id => do
    let t ← pollOneTransfer c cfg id
    pure (.transfer t)
  | .pollWithLease id leaseSecs minIntervalSecs => do
    let t ← pollOneTransferWithLease c cfg id leaseSecs minIntervalSecs
    pure (.transfer t)
  | .reattest id => do
    let t ← Cctp.reattest id
    pure (.transfer t)
  | .prepareMint id => do
    let bundle ← Cctp.prepareMint c cfg id
    pure (.mint bundle)
  | .submitMint id txHash => do
    let t ← recordMintSubmission id txHash
    pure (.transfer t)
  | .cancel id => do
    let t ← Cctp.cancel id
    pure (.transfer t)

def start (call : Call) : Prog Op Op.Res Outcome := (call.program c cfg).run

abbrev Callers := Pool Env State Op Op.Res Call Outcome

def Callers.initial : Callers := ⟨State.empty, []⟩

/-- The state after callers came and their calls proceeded in the order of `choices`. -/
abbrev serve (choices : List (Choice Env Call)) : Callers :=
  run (exec c) (start c cfg) Callers.initial choices

end StellarRoute.Cctp
