import StellarRoute.Lib.HashMap
import StellarRoute.Lib.Interleave
import StellarRoute.Quote.Spec.CacheKeys

/-! `POST /api/v1/quote` with an `Idempotency-Key` (`routes/idempotent_quote.rs`)
and the ledger that keeps its answers (`exactlyonce.rs`). The quote pipeline is
answered by the outside world, quotes and their JSON encoding are parameters,
and the ledger's lock is held for one access each. The envelope's version and
timestamp are left out. -/

namespace StellarRoute.Quote

open Lib Lib.Interleave

def IDEMPOTENCY_KEY_MAX_LEN : ℕ := 128

def IDEMPOTENCY_TTL_SECS : ℕ := 300

inductive PostQuoteError where
  | validation (message : String)
  | invalidAsset (message : String)
  | internal (message : String)
  /-- from `get_quote_inner` -/
  | pipeline (message : String)
deriving DecidableEq

/-! ### The ledger -/

structure RequestIdentity where
  baseAsset : String
  quoteAsset : String
  amount : String
  slippageBps : UInt32
  quoteType : String
deriving DecidableEq

def RequestIdentity.canonicalKey (ops : TextOps) (identity : RequestIdentity) : String :=
  ops.normalizeAsset identity.baseAsset ++ "/" ++ ops.normalizeAsset identity.quoteAsset ++ ":" ++
    identity.amount ++ ":" ++ toString identity.slippageBps.toNat ++ ":" ++ identity.quoteType

structure DedupeEntry where
  identity : RequestIdentity
  responseBytes : List UInt8
  /-- in seconds -/
  createdAt : ℕ
  ttlSecs : ℕ
deriving DecidableEq

def DedupeEntry.isExpired (entry : DedupeEntry) (now : ℕ) : Bool :=
  now - entry.createdAt > entry.ttlSecs

abbrev DedupeLedger := HashMap String DedupeEntry

namespace DedupeLedger

def lookup (ledger : DedupeLedger) (key : String) (now : ℕ) : Option (List UInt8) :=
  match AList.lookup key ledger with
  | some entry => if entry.isExpired now then none else some entry.responseBytes
  | none => none

def cleanup (ledger : DedupeLedger) (now : ℕ) : DedupeLedger :=
  ledger.deleteKeys (ledger.keys.filter fun key =>
    (AList.lookup key ledger).any fun entry => entry.isExpired now)

end DedupeLedger

/-! ### The handler -/

structure QuoteParams where
  amount : Option String
  slippageBps : Option UInt32
  quoteType : QuoteType
  explain : Option Bool
  fields : Option String
deriving DecidableEq

structure PostQuoteRequest where
  base : String
  quote : String
  amount : Option String
  slippageBps : Option UInt32
  quoteType : Option QuoteType
deriving DecidableEq

/-- The JSON encoding of quotes. -/
structure Serde (Quote : Type) where
  toVec : Quote → Except String (List UInt8)
  fromSlice : List UInt8 → Except String Quote

/-- The clock, and what the pipeline answers. -/
structure PostEnv (Quote : Type) where
  now : ℕ
  quote : Except String Quote

inductive PostOp where
  | lookup (key : String)
  | getQuoteInner (base quote : AssetPath) (params : QuoteParams)
  | readClock
  | insert (key : String) (entry : DedupeEntry)
  | cleanup

def PostOp.Res (Quote : Type) : PostOp → Type
  | .lookup _ => Option (List UInt8)
  | .getQuoteInner _ _ _ => Except String Quote
  | .readClock => ℕ
  | .insert _ _ => Unit
  | .cleanup => Unit

structure ApiResponse (Quote : Type) where
  requestId : String
  data : Quote
deriving DecidableEq

inductive PostCall where
  /-- the header is there if it reads as text -/
  | postQuote (requestId : String) (idempotencyKey : Option String) (body : PostQuoteRequest)
  /-- a round of the background task -/
  | cleanup
deriving DecidableEq

namespace PostQuote

/- `ttlVar` is the variable `IDEMPOTENCY_TTL_SECS`, if it holds a number. -/
variable {Quote α : Type} (ops : TextOps) (serde : Serde Quote) (ttlVar : Option ℕ)

def exec : Exec (PostEnv Quote) DedupeLedger PostOp (PostOp.Res Quote)
  | env, .lookup key, ledger => (ledger.lookup key env.now, ledger)
  | env, .getQuoteInner _ _ _, ledger => (env.quote, ledger)
  | env, .readClock, ledger => (env.now, ledger)
  | _, .insert key entry, ledger => ((), AList.insert key entry ledger)
  | env, .cleanup, ledger => ((), ledger.cleanup env.now)

abbrev PostM (Quote : Type) := ExceptT PostQuoteError (Prog PostOp (PostOp.Res Quote))

def perform (o : PostOp) : PostM Quote (o.Res Quote) := ExceptT.lift (Prog.call o)

def checked (x : Except PostQuoteError α) : PostM Quote α := ExceptT.mk (pure x)

def normaliseKey (raw : String) : Except PostQuoteError String := do
  let key := ops.toLowercase (trim raw)
  require (key ≠ "") (.validation "Idempotency-Key must not be empty")
  require (key.utf8ByteSize ≤ IDEMPOTENCY_KEY_MAX_LEN) (.validation
    s!"Idempotency-Key exceeds maximum length of {IDEMPOTENCY_KEY_MAX_LEN} characters")
  return "post_quote:" ++ key

def identityOf (key : String) : RequestIdentity := ⟨key, "", "", 0, ""⟩

def decodeCached : Option (List UInt8) → PostM Quote (Option Quote)
  | none => pure none
  | some cached => do
    let quote ← checked ((serde.fromSlice cached).mapError fun e =>
      .internal s!"Failed to deserialise cached quote: {e}")
    pure (some quote)

/-- The answer recorded under the key, if any. -/
def replay : Option String → PostM Quote (Option Quote)
  | none => pure none
  | some key => do
    let found ← perform (.lookup ((identityOf key).canonicalKey ops))
    decodeCached serde found

def record (identity : RequestIdentity) (responseBytes : List UInt8) (ttlSecs : ℕ) :
    PostM Quote Unit := do
  let now ← perform .readClock
  perform (.insert (identity.canonicalKey ops) ⟨identity, responseBytes, now, ttlSecs⟩)

/-- A quote that cannot be encoded is not recorded. -/
def store (quote : Quote) : Option String → PostM Quote Unit
  | none => pure ()
  | some key =>
    match serde.toVec quote with
    | .ok bytes => record ops (identityOf key) bytes (ttlVar.getD IDEMPOTENCY_TTL_SECS)
    | .error _ => pure ()

def paramsOf (body : PostQuoteRequest) : QuoteParams :=
  ⟨body.amount, body.slippageBps, body.quoteType.getD .sell, none, none⟩

def computeQuote (idempotencyKey : Option String) (body : PostQuoteRequest) :
    PostM Quote Quote := do
  let baseAsset ← checked ((AssetPath.parse body.base).mapError fun e =>
    .invalidAsset s!"Invalid base asset: {e}")
  let quoteAsset ← checked ((AssetPath.parse body.quote).mapError fun e =>
    .invalidAsset s!"Invalid quote asset: {e}")
  let answer ← perform (.getQuoteInner baseAsset quoteAsset (paramsOf body))
  let quote ← checked (answer.mapError .pipeline)
  store ops serde ttlVar quote idempotencyKey
  pure quote

def respond (requestId : String) (key : Option String) (body : PostQuoteRequest) :
    Option Quote → PostM Quote (ApiResponse Quote)
  | some quote => pure ⟨requestId, quote⟩
  | none => do
    let quote ← computeQuote ops serde ttlVar key body
    pure ⟨requestId, quote⟩

def postQuote (requestId : String) (idempotencyKey : Option String) (body : PostQuoteRequest) :
    PostM Quote (ApiResponse Quote) := do
  let key ← checked (idempotencyKey.mapM (normaliseKey ops))
  let found ← replay ops serde key
  respond ops serde ttlVar requestId key body found

abbrev PostOut (Quote : Type) := Except PostQuoteError (Option (ApiResponse Quote))

def start : PostCall → Prog PostOp (PostOp.Res Quote) (PostOut Quote)
  | .postQuote requestId key body => (some <$> postQuote ops serde ttlVar requestId key body).run
  | .cleanup => do
    let _ ← (Prog.call PostOp.cleanup : Prog PostOp (PostOp.Res Quote) Unit)
    pure (.ok none)

end PostQuote

end StellarRoute.Quote
