import StellarRoute.Cctp.Spec.Service

/-! Quote requests: the handler `cctp_quote` of `routes/v2_cctp.rs` and the
idempotency table behind it, `PgCctpQuoteIdempotencyStore` of
`idempotency.rs`. A claim is two statements of one transaction: an insert that
does nothing when the key is taken, and the locked row. `NOW()` is the time at
which the transaction began, `Utc::now()` the time of the host. Metrics are
left out. -/

namespace StellarRoute.Cctp

open Lib Lib.Interleave

def MAX_IDEMPOTENCY_KEY_LEN : ℕ := 128

def MAX_QUOTE_REQUEST_BYTES : ℕ := 8192

def MAX_ACCESS_TOKEN_LEN : ℕ := 128

inductive CctpIdempotencyError where
  | database
  | store (e : CctpStoreError)
  | keyTooLong
  | requestTooLarge
  | conflict
  | pendingInProgress
deriving DecidableEq

inductive IdempotencyState where
  | pending
  | completed
deriving DecidableEq

structure IdempotencyClaim where
  transferId : Uuid
  state : IdempotencyState
  isOwner : Bool
  requestHash : String
deriving DecidableEq

/-- A row of `cctp_quote_idempotency`. -/
structure IdempotencyEntry where
  key : String
  requestHash : String
  transferId : Uuid
  state : IdempotencyState
  leaseOwnerHash : Option String
  leaseExpiresAt : Option Time
  expiresAt : Time
deriving DecidableEq

def IdempotencyEntry.leasedTo (e : IdempotencyEntry) (owner : String) (leaseUntil : Time) :
    IdempotencyEntry :=
  { e with leaseOwnerHash := some owner, leaseExpiresAt := some leaseUntil }

def IdempotencyEntry.complete (e : IdempotencyEntry) : IdempotencyEntry :=
  { e with state := .completed, leaseOwnerHash := none, leaseExpiresAt := none }

/-- The tables of the service, and the idempotency table. -/
structure QuoteState where
  service : State
  entries : List IdempotencyEntry

def QuoteState.entry (s : QuoteState) (key : String) : Option IdempotencyEntry :=
  Table.find IdempotencyEntry.key key s.entries

/-- `WHERE idempotency_key = $1 AND expires_at > NOW()`. -/
def QuoteState.liveEntry (s : QuoteState) (key : String) (now : Time) : Option IdempotencyEntry :=
  (s.entry key).filter (now < ·.expiresAt)

def QuoteState.put (s : QuoteState) (e : IdempotencyEntry) : QuoteState :=
  { s with entries := Table.set IdempotencyEntry.key e s.entries }

/-! ### Statements -/

/-- `INSERT .. ON CONFLICT (idempotency_key) DO NOTHING`: whether a row was inserted. -/
def claimInsert (e : IdempotencyEntry) (s : QuoteState) :
    Except CctpIdempotencyError (Bool × QuoteState) :=
  if (s.entry e.key).isSome then .ok (false, s)
  else .ok (true, { s with entries := s.entries ++ [e] })

/-- The row under `FOR UPDATE`: what its claim is, and the lease of whoever takes it over. Without a
live row the claim starts again. -/
def claimObserve (began now : Time) (key requestHash owner : String) (leaseUntil : Time)
    (s : QuoteState) : Except CctpIdempotencyError (Option IdempotencyClaim × QuoteState) :=
  match s.liveEntry key began with
  | none => .ok (none, s)
  | some row => do
    require (row.requestHash = requestHash) .conflict
    if row.state = .completed then
      pure (some ⟨row.transferId, .completed, true, row.requestHash⟩, s)
    else
      let leaseActive := row.leaseExpiresAt.any (now < ·)
      let isOwner := row.leaseOwnerHash = some owner
      require (leaseActive → isOwner) .pendingInProgress
      -- both branches of the source leave the lease with this owner
      pure (some ⟨row.transferId, .pending, true, row.requestHash⟩,
        s.put (row.leasedTo owner leaseUntil))

/-- One transaction. A completed row ends it before anything is compared with the transfer. -/
def finalizeQuote (began : Time) (key owner : String) (t : CctpTransfer) (s : QuoteState) :
    Except CctpIdempotencyError (Unit × QuoteState) :=
  match s.liveEntry key began with
  | none => .error .pendingInProgress
  | some row =>
    if row.state = .completed then .ok ((), s)
    else do
      require (row.transferId = t.transferId) .conflict
      require (row.leaseOwnerHash = some owner) .pendingInProgress
      let (_, service) ← (insert began t s.service).mapError fun _ =>
        CctpIdempotencyError.database
      pure ((), { QuoteState.put s row.complete with service })

/-- `scan` is the order in which the rows are met. -/
def cleanupExpired (now : Time) (scan : String → ℕ) (limit : ℕ) (s : QuoteState) :
    Except CctpIdempotencyError (ℕ × QuoteState) :=
  let expired := (s.entries.filter (·.expiresAt ≤ now)).insertionSort
    fun a b => scan a.key ≤ scan b.key
  let deleted := (expired.take limit).map IdempotencyEntry.key
  .ok (deleted.length, { s with entries := s.entries.filter (·.key ∉ deleted) })

/-! ### Operations -/

/-- What an HTTP caller is told. -/
inductive ApiError where
  /-- `map_validation` -/
  | request (e : CctpValidationError)
  /-- `map_service_error` -/
  | service (e : CctpServiceError) (transferId : Option Uuid)
  | validation (msg : String)
  | conflict (message quoteId txHash status : String)
  | tooEarly (msg : String)
  | cctpNotEnabled (msg : String)
  | internal (msg : String)
  /-- what `ensure_public_gate` says -/
  | gate (msg : String)
deriving DecidableEq

structure QuoteEnv where
  service : Env
  gate : CctpDirection → Except ApiError Unit
  ephemeralToken : String
  scan : String → ℕ

inductive QuoteOp where
  | service (o : Op)
  | gate (direction : CctpDirection)
  | ephemeralToken
  | claimInsert (e : IdempotencyEntry)
  | claimObserve (began : Time) (key requestHash owner : String) (leaseUntil : Time)
  | finalizeQuote (began : Time) (key owner : String) (t : CctpTransfer)
  | cleanupExpired (limit : ℕ)

abbrev QuoteOp.Res : QuoteOp → Type
  | .service o => o.Res
  | .gate _ => Except ApiError Unit
  | .ephemeralToken => String
  | .claimInsert _ => Except CctpIdempotencyError Bool
  | .claimObserve .. => Except CctpIdempotencyError (Option IdempotencyClaim)
  | .finalizeQuote .. => Except CctpIdempotencyError Unit
  | .cleanupExpired _ => Except CctpIdempotencyError ℕ

def QuoteOp.exec (c : Codec) : Exec QuoteEnv QuoteState QuoteOp QuoteOp.Res
  | env, .service o, s =>
    ((Cctp.exec c env.service o s.service).1,
      { s with service := (Cctp.exec c env.service o s.service).2 })
  | env, .gate direction, s => (env.gate direction, s)
  | env, .ephemeralToken, s => (env.ephemeralToken, s)
  | env, .claimInsert e, s => attempt env.service.database .database (Cctp.claimInsert e s) s
  | env, .claimObserve began key requestHash owner leaseUntil, s =>
    attempt env.service.database .database
      (Cctp.claimObserve began env.service.now key requestHash owner leaseUntil s) s
  | env, .finalizeQuote began key owner t, s =>
    attempt env.service.database .database (Cctp.finalizeQuote began key owner t s) s
  | env, .cleanupExpired limit, s =>
    attempt env.service.database .database
      (Cctp.cleanupExpired env.service.now env.scan limit s) s

/-! ### The handler -/

/-- What `cctp_quote` is configured with. -/
structure QuoteContext where
  codec : Codec
  config : CctpConfig
  /-- `idempotency_lease_secs()` -/
  leaseSecs : ℤ
  /-- `serde_json::to_vec` of the request -/
  requestJson : CctpQuoteRequest → Bytes
  /-- SHA-256 of the trimmed token, in hex -/
  hashAccessToken : String → String
  /-- `derive_idempotent_token_with_key` -/
  deriveIdempotentTokenWithKey : Bytes → String → String → Uuid → String
  current : Bytes
  previous : List Bytes

/-- A request with its `idempotency-key` header. `retries` bounds how often a claim starts again
before the database stops answering. -/
structure QuoteCall where
  idempotencyKey : Option String
  body : CctpQuoteRequest
  retries : ℕ

structure CctpQuoteResponse where
  transferId : Uuid
  corridorId : String
  provider : String
  direction : CctpDirection
  sourceAmount : String
  destinationAmount : String
  sourceFee : Option String
  bridgeFee : Option String
  expiresAt : ℤ
  finality : CctpFinality
  accessToken : String
deriving DecidableEq

def toQuoteResponse (t : CctpTransfer) (accessToken : String) : CctpQuoteResponse where
  transferId := t.transferId
  corridorId := t.corridorId
  provider := t.provider
  direction := t.direction
  sourceAmount := t.amount
  destinationAmount := t.destinationAmount
  sourceFee := t.runtimeFeeQuote
  bridgeFee := t.maxFee
  expiresAt := timestamp t.quoteExpiresAt
  finality := t.finality
  accessToken

def hashQuoteRequest (c : Codec) (body : Bytes) : Except CctpIdempotencyError String := do
  require (body.length ≤ MAX_QUOTE_REQUEST_BYTES) .requestTooLarge
  pure (hexEncode (c.sha256 body).1)

def normalizeIdempotencyKey (key : String) : Except CctpIdempotencyError String := do
  let trimmed := trim key
  require (byteLen trimmed ≤ MAX_IDEMPOTENCY_KEY_LEN) .keyTooLong
  require (!trimmed.isEmpty) .keyTooLong
  pure trimmed

/-- A part of the handler that may fail with `ε`. -/
abbrev Http (ε : Type) := ExceptT ε (Prog QuoteOp QuoteOp.Res)

namespace Http

variable {ε α : Type}

def perform (o : QuoteOp) : Http ε o.Res := ExceptT.lift (Prog.call o)

def checked (x : Except ε α) : Http ε α := ExceptT.mk (pure x)

def utcNow : Http ε Time := perform (.service .clock)

def ask (q : Query) : Http ε q.Answer := perform (.service (.ask q))

def service (transferId : Option Uuid) (x : Svc α) : Http ApiError α :=
  ExceptT.adapt (ApiError.service · transferId)
    (ExceptT.mk (x.run.embed QuoteOp.service fun _ r => r))

end Http

section Handler

variable (ctx : QuoteContext)

/-- A round of a claim, once its transaction has begun, and what follows a row that is gone. -/
def claimRound (key requestHash owner : String) (expiresAt began : Time)
    (again : Http CctpIdempotencyError IdempotencyClaim) :
    Http CctpIdempotencyError IdempotencyClaim := do
  let transferId ← Http.ask .newTransferId
  let now ← Http.utcNow
  let leaseUntil := now + seconds ctx.leaseSecs
  let inserted ← Http.perform (.claimInsert
    { key, requestHash, transferId, state := .pending, leaseOwnerHash := some owner
      leaseExpiresAt := some leaseUntil, expiresAt })
  if ← Http.checked inserted then pure ⟨transferId, .pending, true, requestHash⟩
  else
    let observed ← Http.perform (.claimObserve began key requestHash owner leaseUntil)
    match ← Http.checked observed with
    | some claim => pure claim
    | none => again

def claimQuote (key requestHash owner : String) (expiresAt : Time) :
    ℕ → Http CctpIdempotencyError IdempotencyClaim
  | 0 => throw .database
  | retries + 1 => do
    let began ← Http.utcNow
    claimRound ctx key requestHash owner expiresAt began
      (claimQuote key requestHash owner expiresAt retries)

def CctpIdempotencyError.display : CctpIdempotencyError → String
  | .database => "database"
  | .store _ => "store"
  | .keyTooLong => "key too long"
  | .requestTooLarge => "request too large"
  | .conflict => "conflict: idempotency key reused with different request"
  | .pendingInProgress => "pending quote in progress"

/-- The conflict of a claim names no transfer, that of the last step does. -/
def idempotencyError (quoteId : String) : CctpIdempotencyError → ApiError
  | .conflict => .conflict "Idempotency key reused with different quote request" quoteId ""
    "idempotency_conflict"
  | .pendingInProgress => .tooEarly "An idempotent quote with this key is still in progress"
  | e => .internal e.display

def requestHashError : CctpIdempotencyError → ApiError
  | .requestTooLarge => .validation "quote request body too large"
  | e => .internal e.display

def validateAccessTokenFormat (token : String) : Bool :=
  byteLen (trim token) ≤ MAX_ACCESS_TOKEN_LEN && !(trim token).isEmpty

def accessTokensMatch (persistedHash presented : String) : Bool :=
  validateAccessTokenFormat presented && persistedHash = ctx.hashAccessToken presented

def deriveIdempotentToken (key requestHash : String) (id : Uuid) : String :=
  ctx.deriveIdempotentTokenWithKey ctx.current key requestHash id

def recoverIdempotentToken (key requestHash : String) (id : Uuid) (storedHash : String) :
    Option String :=
  let tokens := (ctx.current :: ctx.previous).map fun secret =>
    ctx.deriveIdempotentTokenWithKey secret key requestHash id
  tokens.find? (accessTokensMatch ctx storedHash)

/-- The answer of a completed claim: the transfer it made, under the token it gave out. -/
def replayQuote (key requestHash : String) (id : Uuid) : Http ApiError CctpQuoteResponse := do
  let t ← Http.service (some id) (getTransfer id)
  let storedHash ← Http.checked (okOr t.accessTokenHash
    (.internal "completed idempotency without access binding"))
  let accessToken ← Http.checked (okOr (recoverIdempotentToken ctx key requestHash id storedHash)
    (.cctpNotEnabled
      "Idempotent replay unavailable after access key rotation; request a new quote"))
  pure (toQuoteResponse t accessToken)

/-- The work of a pending claim. -/
def fulfilQuote (body : CctpQuoteRequest) (key requestHash owner : String) (id : Uuid) :
    Http ApiError CctpQuoteResponse := do
  let accessToken := deriveIdempotentToken ctx key requestHash id
  let t ← Http.service (some id)
    (buildQuoteTransfer ctx.codec ctx.config body id (ctx.hashAccessToken accessToken))
  let began ← Http.utcNow
  let finalized ← Http.perform (.finalizeQuote began key owner t)
  Http.checked (finalized.mapError (idempotencyError s!"{id}"))
  pure (toQuoteResponse t accessToken)

def keyedQuote (call : QuoteCall) (key requestHash : String) :
    Http ApiError CctpQuoteResponse := do
  let owner ← Http.ask .leaseOwner
  let now ← Http.utcNow
  let expiresAt := now + seconds ctx.config.quoteTtlSecs
  let claim ← ExceptT.adapt (idempotencyError "")
    (claimQuote ctx key requestHash owner expiresAt call.retries)
  if claim.state = .completed then replayQuote ctx key requestHash claim.transferId
  else fulfilQuote ctx call.body key requestHash owner claim.transferId

def cctpQuote (call : QuoteCall) : Http ApiError CctpQuoteResponse := do
  Http.checked ((call.body.validate ctx.codec).mapError ApiError.request)
  Http.checked (require ctx.config.enabled
    (.cctpNotEnabled "Circle CCTP bridge settlement is not enabled on this deployment"))
  let gate ← Http.perform (.gate call.body.direction)
  Http.checked gate
  let requestHash ← Http.checked
    ((hashQuoteRequest ctx.codec (ctx.requestJson call.body)).mapError requestHashError)
  let _ ← Http.perform (.cleanupExpired 32)
  match call.idempotencyKey with
  | some rawKey => do
    let key ← Http.checked ((normalizeIdempotencyKey rawKey).mapError fun _ =>
      ApiError.validation "idempotency key exceeds maximum length")
    keyedQuote ctx call key requestHash
  | none => do
    let accessToken ← Http.perform .ephemeralToken
    let t ← Http.service none
      (quoteCore ctx.codec ctx.config call.body (ctx.hashAccessToken accessToken))
    pure (toQuoteResponse t accessToken)

end Handler

/-! ### Concurrent requests -/

abbrev QuoteEvent := Event QuoteEnv QuoteState QuoteOp

abbrev Quotes :=
  Pool QuoteEnv QuoteState QuoteOp QuoteOp.Res QuoteCall (Except ApiError CctpQuoteResponse)

def QuoteCall.start (ctx : QuoteContext) (call : QuoteCall) :
    Prog QuoteOp QuoteOp.Res (Except ApiError CctpQuoteResponse) := (cctpQuote ctx call).run

/-- Quote requests from a deployment whose idempotency table is empty. -/
def quotes (ctx : QuoteContext) (s0 : State) (choices : List (Choice QuoteEnv QuoteCall)) :
    Quotes :=
  run (QuoteOp.exec ctx.codec) (QuoteCall.start ctx) ⟨⟨s0, []⟩, []⟩ choices

end StellarRoute.Cctp
