import StellarRoute.Lib.Table
import StellarRoute.Cctp.Spec.Message

/-! The two tables the bridge shares between its callers: the transfers
(`PgCctpTransferStore` of `store.rs`, with the unique indexes of the
migrations) and the reservations of unsigned payloads
(`PgCctpPrepareLockStore` of `prepare_lock.rs`). Every operation is one atomic
statement. The database may also refuse a statement, or carry it out and lose
the reply. -/

namespace StellarRoute.Cctp

open Lib

structure State where
  transfers : List CctpTransfer
  locks : List CctpActivePrepare
deriving DecidableEq

def State.empty : State := ⟨[], []⟩

def State.transfer (s : State) (id : Uuid) : Option CctpTransfer :=
  Table.find CctpTransfer.transferId id s.transfers

/-- `s` with the record that has the id of `t` replaced by `t`. -/
def State.put (s : State) (t : CctpTransfer) : State :=
  { s with transfers := Table.set CctpTransfer.transferId t s.transfers }

inductive Database where
  | answers
  /-- an error, and nothing happened -/
  | refuses
  /-- an error, but the statement was carried out -/
  | replyLost
deriving DecidableEq

/-- Send a statement: `x` is its result and the state it leaves. -/
def attempt {ε α σ : Type} (db : Database) (lost : ε) (x : Except ε (α × σ)) (s : σ) :
    Except ε α × σ :=
  match db, x with
  | .answers, .ok (a, s') => (.ok a, s')
  | .answers, .error e => (.error e, s)
  | .refuses, _ => (.error lost, s)
  | .replyLost, .ok (_, s') => (.error lost, s')
  | .replyLost, .error _ => (.error lost, s)

/-! ### Transfers -/

/-- Another transfer has this value in an indexed column. -/
def State.taken {κ : Type} [DecidableEq κ] (s : State) (column : CctpTransfer → Option κ)
    (t : CctpTransfer) : Bool :=
  (column t).isSome &&
    s.transfers.any fun t' => t'.transferId ≠ t.transferId && column t' = column t

/-- The column pair of `idx_cctp_message_nonce_source`. -/
def nonceKey (t : CctpTransfer) : Option (String × String) :=
  t.messageNonce.map fun nonce => (t.sourceChainId, nonce)

/-- The unique indexes of the migrations. -/
def checkUnique (s : State) (t : CctpTransfer) : Except CctpStoreError Unit := do
  require (!s.taken CctpTransfer.sourceTxHash t) .duplicateSourceTxHash
  require (!s.taken nonceKey t) .database
  require (!s.taken CctpTransfer.destinationTxHash t) .database
  require (!s.taken CctpTransfer.sourceApprovalTxHash t) .database

variable (c : Codec) (now : Time)

/-- The columns that `INSERT` does not name take their defaults. -/
def insertedRow (t : CctpTransfer) : CctpTransfer :=
  { t with
    sourceTxHash := none, sourceApprovalTxHash := none, sourceApprovalVerifiedAt := none
    destinationTxHash := none, irisMessageHash := none, messageNonce := none
    rawMessage := none, attestation := none, retryCount := 0
    lastProviderError := none, lastProviderCode := none
    createdAt := now, updatedAt := now, terminalAt := none
    mintPayloadHash := none, mintPayloadExpiresAt := none
    approvalPayloadHash := none, approvalExpirationLedger := none
    burnPayloadHash := none, burnPrepareStep := none
    lastPolledAt := none, pollLeaseUntil := none
    reattestLeaseOwnerHash := none, reattestLeaseUntil := none
    reattestAttemptCount := 0, reattestCooldownUntil := none }

def insert (t : CctpTransfer) (s : State) : Except CctpStoreError (Unit × State) := do
  require (s.transfer t.transferId).isNone .database
  pure ((), { s with transfers := s.transfers ++ [insertedRow now t] })

def get (id : Uuid) (s : State) : Except CctpStoreError (Option CctpTransfer × State) :=
  .ok (s.transfer id, s)

def tryAcquirePollLease (id : Uuid) (leaseSecs minIntervalSecs : ℤ) (s : State) :
    Except CctpStoreError (Option (CctpTransfer × PollLeaseOutcome) × State) :=
  match s.transfer id with
  | none => .ok (none, s)
  | some t =>
    if t.pollLeaseUntil.all (· ≤ now) && t.lastPolledAt.all (· ≤ now - seconds minIntervalSecs) then
      let t' := { t with
        pollLeaseUntil := some (now + seconds leaseSecs), lastPolledAt := some now
        updatedAt := now }
      .ok (some (t', .acquired), s.put t')
    else .ok (some (t, .skipped), s)

def claimReattestLease (id : Uuid) (owner : String) (leaseSecs : ℤ) (maxAttempts : ℕ) (s : State) :
    Except CctpStoreError (Option (CctpTransfer × ReattestClaimOutcome) × State) :=
  match s.transfer id with
  | none => .ok (none, s)
  | some t =>
    if t.status = .attestationFailed ∧ t.reattestAttemptCount < maxAttempts ∧
        t.reattestCooldownUntil.all (· ≤ now) ∧
        (t.reattestLeaseUntil.all (· ≤ now) ∨ t.reattestLeaseOwnerHash = some owner) then
      let t' := { t with
        reattestLeaseOwnerHash := some owner, reattestLeaseUntil := some (now + seconds leaseSecs)
        updatedAt := now }
      .ok (some (t', .claimed), s.put t')
    else if t.status ≠ .attestationFailed then .ok (some (t, .notAllowed), s)
    else if t.reattestLeaseUntil.any (now < ·) ∧ t.reattestLeaseOwnerHash ≠ some owner then
      .ok (some (t, .inProgress), s)
    else .ok (some (t, .notAllowed), s)

/-- The row that both ends of a reattest claim update. -/
def claimedBy (owner : String) (t : CctpTransfer) : Bool :=
  t.status = .attestationFailed && t.reattestLeaseOwnerHash = some owner

/-- The row after a fresh attestation: the lease ends and the counters go up. -/
abbrev reattestedRow (t : CctpTransfer) : CctpTransfer :=
  { t with
    status := .awaitingAttestation, retryCount := t.retryCount + 1
    reattestAttemptCount := t.reattestAttemptCount + 1
    reattestLeaseOwnerHash := none, reattestLeaseUntil := none, reattestCooldownUntil := none
    lastProviderError := none, lastProviderCode := none, terminalAt := none
    version := t.version + 1, updatedAt := now }

def finalizeReattestSuccess (id : Uuid) (owner : String) (s : State) :
    Except CctpStoreError (Option CctpTransfer × State) :=
  match (s.transfer id).filter (claimedBy owner) with
  | none => .ok (none, s)
  | some t => .ok (some (reattestedRow now t), s.put (reattestedRow now t))

/-- The row after a refused attestation: the failure stays, with a cooldown. -/
abbrev refusedRow (providerCode providerError : String) (cooldownSecs : ℤ) (t : CctpTransfer) :
    CctpTransfer :=
  { t with
    reattestAttemptCount := t.reattestAttemptCount + 1
    reattestLeaseOwnerHash := none, reattestLeaseUntil := none
    reattestCooldownUntil := some (now + seconds cooldownSecs)
    lastProviderCode := some providerCode, lastProviderError := some providerError
    status := .attestationFailed, version := t.version + 1, updatedAt := now }

def finalizeReattestFailure (id : Uuid) (owner providerCode providerError : String)
    (cooldownSecs : ℤ) (s : State) : Except CctpStoreError (Option CctpTransfer × State) :=
  match (s.transfer id).filter (claimedBy owner) with
  | none => .ok (none, s)
  | some t =>
    let t' := refusedRow now providerCode providerError cooldownSecs t
    .ok (some t', s.put t')

def validatePatch (patch : TransferPatch) : Except CctpStoreError Unit := do
  require (patch.rawMessage.all (·.length ≤ MAX_RAW_MESSAGE_BYTES)) .payloadTooLarge
  require (patch.attestation.all (·.length ≤ MAX_ATTESTATION_BYTES)) .payloadTooLarge
  require (patch.sourceTxHash.all (byteLen · ≤ MAX_TX_HASH_LEN)) .payloadTooLarge
  require (patch.messageNonce.all (byteLen · ≤ MAX_MESSAGE_NONCE_LEN)) .payloadTooLarge

/-- The `UPDATE` of `transition`: a column keeps its value where the patch has none. It does not
set `source_approval_verified_at`, and `clear_mint_payload` has no effect. -/
def applyPatch (status : CctpTransferStatus) (patch : TransferPatch) (t : CctpTransfer) :
    CctpTransfer :=
  { t with
    status
    sourceTxHash := patch.sourceTxHash.or t.sourceTxHash
    sourceApprovalTxHash := patch.sourceApprovalTxHash.or t.sourceApprovalTxHash
    destinationTxHash := patch.destinationTxHash.or t.destinationTxHash
    irisMessageHash := patch.irisMessageHash.or t.irisMessageHash
    messageNonce := patch.messageNonce.or t.messageNonce
    rawMessage := patch.rawMessage.or t.rawMessage
    attestation := patch.attestation.or t.attestation
    runtimeFeeQuote := patch.runtimeFeeQuote.or t.runtimeFeeQuote
    maxFee := patch.maxFee.or t.maxFee
    feeExpiresAt := patch.feeExpiresAt.or t.feeExpiresAt
    lastProviderError := patch.lastProviderError.or t.lastProviderError
    lastProviderCode := patch.lastProviderCode.or t.lastProviderCode
    mintPayloadHash := patch.mintPayloadHash.or t.mintPayloadHash
    mintPayloadExpiresAt := patch.mintPayloadExpiresAt.or t.mintPayloadExpiresAt
    mintSubmitter := patch.mintSubmitter.or t.mintSubmitter
    approvalPayloadHash := patch.approvalPayloadHash.or t.approvalPayloadHash
    approvalExpirationLedger := patch.approvalExpirationLedger.or t.approvalExpirationLedger
    burnPayloadHash := patch.burnPayloadHash.or t.burnPayloadHash
    burnPrepareStep := patch.burnPrepareStep.or t.burnPrepareStep
    retryCount := if patch.incrementRetry then t.retryCount + 1 else t.retryCount
    version := t.version + 1
    updatedAt := now
    terminalAt :=
      if isTerminal status then some now
      else if patch.clearTerminalAt then none
      else t.terminalAt }

def transition (id : Uuid) (expectedVersion : ℕ) (status : CctpTransferStatus)
    (patch : TransferPatch) (s : State) : Except CctpStoreError (CctpTransfer × State) := do
  let current ← okOr (s.transfer id) .notFound
  require (current.version = expectedVersion) .versionConflict
  require (isAllowedTransition current.status status) .invalidTransition
  validatePatch patch
  let updated := applyPatch now status patch current
  checkUnique s updated
  pure (updated, s.put updated)

/-- The row once its burn is verified. -/
abbrev burnedRow (txHash : String) (t : CctpTransfer) : CctpTransfer :=
  { t with
    status := .awaitingAttestation, sourceTxHash := some txHash
    version := t.version + 1, updatedAt := now }

/-- The statement of `record_verified_burn`. A violated index is a plain database error here. -/
def verifiedBurn (id : Uuid) (expectedVersion : ℕ) (txHash : String) (s : State) :
    Except CctpStoreError (CctpTransfer × State) := do
  let current ← okOr (s.transfer id) .notFound
  require (current.version = expectedVersion) .versionConflict
  require (current.status = .burnPrepared) .invalidTransition
  let updated := burnedRow now txHash current
  (checkUnique s updated).mapError fun _ => .database
  pure (updated, s.put updated)

/-- The statement of `record_approval_submission`. -/
def approvalSubmission (id : Uuid) (expectedVersion : ℕ) (txHash : String) (verifiedAt : Time)
    (s : State) : Except CctpStoreError (CctpTransfer × State) := do
  let current ← okOr (s.transfer id) .notFound
  require (current.version = expectedVersion) .versionConflict
  require (current.status = .burnPrepared) .invalidTransition
  let updated := { current with
    sourceApprovalTxHash := some txHash, sourceApprovalVerifiedAt := some verifiedAt
    version := current.version + 1, updatedAt := now }
  (checkUnique s updated).mapError fun _ => .database
  pure (updated, s.put updated)

/-! ### Reservations -/

def MAX_PAYLOAD_HASH_LEN : ℕ := 128
def MAX_PREPARED_PAYLOAD_LEN : ℕ := 131072

/-- The bytes of the JSON text. -/
def CachedPayload.len : CachedPayload → ℕ
  | .burn bundle => c.burnBundleJsonLen bundle
  | .mint bundle => c.mintBundleJsonLen bundle

def validateReservation (r : CctpActivePrepare) : Except CctpPrepareLockError Unit := do
  require (r.payloadHash ≠ "" ∧ byteLen r.payloadHash ≤ MAX_PAYLOAD_HASH_LEN) .payloadTooLarge
  require (r.preparedPayload.all fun p => p.len c ≠ 0 && p.len c ≤ MAX_PREPARED_PAYLOAD_LEN)
    .payloadTooLarge

/-- The transaction of `try_acquire`: a live row of another transfer is a conflict, one of the same
transfer answers if its hash is the same and is replaced otherwise. A new row refers to a stored
transfer. -/
def tryAcquire (r : CctpActivePrepare) (s : State) :
    Except CctpPrepareLockError (PrepareAcquireResult × State) :=
  let rest := s.locks.filter fun row => row.sourceAccount ≠ r.sourceAccount
  match s.locks.find? fun row => row.sourceAccount = r.sourceAccount && now < row.expiresAt with
  | some active =>
    if active.transferId = r.transferId then
      if active.payloadHash = r.payloadHash then .ok (.idempotent active, s)
      else .ok (.acquired, { s with locks := rest ++ [{ r with updatedAt := now }] })
    else .ok (.conflictOtherTransfer active.transferId, s)
  | none =>
    if (s.transfer r.transferId).isSome then
      .ok (.acquired, { s with locks := rest ++ [{ r with updatedAt := now }] })
    else .error .database

def release (source : String) (id : Uuid) (s : State) :
    Except CctpPrepareLockError (Bool × State) :=
  let held (row : CctpActivePrepare) : Bool := row.sourceAccount = source && row.transferId = id
  .ok (s.locks.any held, { s with locks := s.locks.filter fun row => !held row })

def State.liveRows (id : Uuid) (s : State) : List CctpActivePrepare :=
  s.locks.filter fun row => row.transferId = id && now < row.expiresAt

/-- `get_for_transfer` has no `ORDER BY`: which of several live rows comes first is up to the
database. -/
def getForTransfer (pick : ℕ) (id : Uuid) (s : State) :
    Except CctpPrepareLockError (Option CctpActivePrepare × State) :=
  let rows := s.liveRows now id
  .ok (rows[pick % rows.length]?, s)

/-! ### The operations as calls -/

inductive StoreOp where
  | insert (t : CctpTransfer)
  | get (id : Uuid)
  | tryAcquirePollLease (id : Uuid) (leaseSecs minIntervalSecs : ℤ)
  | claimReattestLease (id : Uuid) (owner : String) (leaseSecs : ℤ) (maxAttempts : ℕ)
  | finalizeReattestSuccess (id : Uuid) (owner : String)
  | finalizeReattestFailure (id : Uuid) (owner providerCode providerError : String)
      (cooldownSecs : ℤ)
  | transition (id : Uuid) (expectedVersion : ℕ) (status : CctpTransferStatus)
      (patch : TransferPatch)
  | recordApprovalSubmission (id : Uuid) (expectedVersion : ℕ) (txHash : String)
      (verifiedAt : Time)
  | recordVerifiedBurn (id : Uuid) (expectedVersion : ℕ) (txHash : String)
  | recordMintPrepared (id : Uuid) (expectedVersion : ℕ) (payloadHash : String) (expiresAt : Time)
      (mintSubmitter : Option String)
  | recordMintSubmission (id : Uuid) (expectedVersion : ℕ) (txHash : String)
  | recordMintCompleted (id : Uuid) (expectedVersion : ℕ)

abbrev StoreOp.Ret : StoreOp → Type
  | .insert _ => Unit
  | .get _ => Option CctpTransfer
  | .tryAcquirePollLease .. => Option (CctpTransfer × PollLeaseOutcome)
  | .claimReattestLease .. => Option (CctpTransfer × ReattestClaimOutcome)
  | .finalizeReattestSuccess .. => Option CctpTransfer
  | .finalizeReattestFailure .. => Option CctpTransfer
  | .transition .. => CctpTransfer
  | .recordApprovalSubmission .. => CctpTransfer
  | .recordVerifiedBurn .. => CctpTransfer
  | .recordMintPrepared .. => CctpTransfer
  | .recordMintSubmission .. => CctpTransfer
  | .recordMintCompleted .. => CctpTransfer

/-- A text that is too long is refused before the database is asked. -/
def StoreOp.tooLong : StoreOp → Bool
  | .recordApprovalSubmission _ _ txHash _ => MAX_TX_HASH_LEN < byteLen txHash
  | .recordVerifiedBurn _ _ txHash => MAX_TX_HASH_LEN < byteLen txHash
  | .recordMintPrepared _ _ payloadHash _ _ => 128 < byteLen payloadHash
  | .recordMintSubmission _ _ txHash => MAX_TX_HASH_LEN < byteLen txHash
  | _ => false

def StoreOp.statement : (o : StoreOp) → State → Except CctpStoreError (o.Ret × State)
  | .insert t => Cctp.insert now t
  | .get id => Cctp.get id
  | .tryAcquirePollLease id leaseSecs minIntervalSecs =>
    Cctp.tryAcquirePollLease now id leaseSecs minIntervalSecs
  | .claimReattestLease id owner leaseSecs maxAttempts =>
    Cctp.claimReattestLease now id owner leaseSecs maxAttempts
  | .finalizeReattestSuccess id owner => Cctp.finalizeReattestSuccess now id owner
  | .finalizeReattestFailure id owner providerCode providerError cooldownSecs =>
    Cctp.finalizeReattestFailure now id owner providerCode providerError cooldownSecs
  | .transition id expectedVersion status patch =>
    Cctp.transition now id expectedVersion status patch
  | .recordApprovalSubmission id expectedVersion txHash verifiedAt =>
    approvalSubmission now id expectedVersion txHash verifiedAt
  | .recordVerifiedBurn id expectedVersion txHash => verifiedBurn now id expectedVersion txHash
  | .recordMintPrepared id expectedVersion payloadHash expiresAt mintSubmitter =>
    Cctp.transition now id expectedVersion .mintPrepared
      { mintPayloadHash := some payloadHash, mintPayloadExpiresAt := some expiresAt, mintSubmitter }
  | .recordMintSubmission id expectedVersion txHash =>
    Cctp.transition now id expectedVersion .mintSubmitted { destinationTxHash := some txHash }
  | .recordMintCompleted id expectedVersion => Cctp.transition now id expectedVersion .completed {}

def StoreOp.exec (db : Database) (o : StoreOp) (s : State) : Except CctpStoreError o.Ret × State :=
  if o.tooLong then (.error .payloadTooLarge, s)
  else attempt db .database (o.statement now s) s

inductive LockOp where
  | tryAcquire (r : CctpActivePrepare)
  | release (source : String) (id : Uuid)
  | getForTransfer (id : Uuid)

abbrev LockOp.Ret : LockOp → Type
  | .tryAcquire _ => PrepareAcquireResult
  | .release .. => Bool
  | .getForTransfer _ => Option CctpActivePrepare

/-- An invalid reservation is refused before the database is asked. -/
def LockOp.validate : LockOp → Except CctpPrepareLockError Unit
  | .tryAcquire r => validateReservation c r
  | _ => .ok ()

def LockOp.statement (pick : ℕ) : (o : LockOp) → State → Except CctpPrepareLockError (o.Ret × State)
  | .tryAcquire r => Cctp.tryAcquire now r
  | .release source id => Cctp.release source id
  | .getForTransfer id => Cctp.getForTransfer now pick id

def LockOp.exec (db : Database) (pick : ℕ) (o : LockOp) (s : State) :
    Except CctpPrepareLockError o.Ret × State :=
  match o.validate c with
  | .error e => (.error e, s)
  | .ok _ => attempt db .database (o.statement now pick s) s

end StellarRoute.Cctp
