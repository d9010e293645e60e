import StellarRoute.Lib.HashMap
import StellarRoute.Lib.Text
import StellarRoute.Lib.Transition

/-! The rate limit of the HTTP service (`middleware/rate_limit.rs`) with its
in-memory store. A request is counted in a bucket, which is chosen by a slug of
the path and the client, against the limit of the path's endpoint group. Times
are in nanoseconds; reading an IP address is a parameter. -/

namespace StellarRoute.Http

open Lib

structure RateLimitConfig where
  maxRequests : ℕ
  window : ℕ
deriving DecidableEq

inductive EndpointGroup where
  | pairs
  | orderbook
  | quote
  | cctpQuote
  | cctpStatus
  | cctpMutate
  | cctpReattest
  | default
deriving DecidableEq

structure EndpointConfig where
  pairs : RateLimitConfig
  orderbook : RateLimitConfig
  quote : RateLimitConfig
  cctpQuote : RateLimitConfig
  cctpStatus : RateLimitConfig
  cctpMutate : RateLimitConfig
  cctpReattest : RateLimitConfig
  default : RateLimitConfig
  tenantOverrides : HashMap String RateLimitConfig

def startsWith (path start : String) : Bool := start.toList.isPrefixOf path.toList

def endsWith (path tail : String) : Bool := tail.toList.isSuffixOf path.toList

def groupOf (path : String) : EndpointGroup :=
  if startsWith path "/api/v1/pairs" then .pairs
  else if startsWith path "/api/v1/orderbook" then .orderbook
  else if startsWith path "/api/v1/quote" then .quote
  else if path = "/api/v2/bridge/cctp/quote" then .cctpQuote
  else if endsWith path "/reattest" && containsText path "/bridge/cctp/" then .cctpReattest
  else if containsText path "/bridge/cctp/" && startsWith path "/api/v2/bridge/cctp/" then
    if path.toList.count '/' ≤ 4 then .cctpStatus else .cctpMutate
  else .default

namespace EndpointConfig

def ofGroup (cfg : EndpointConfig) : EndpointGroup → RateLimitConfig
  | .pairs => cfg.pairs
  | .orderbook => cfg.orderbook
  | .quote => cfg.quote
  | .cctpQuote => cfg.cctpQuote
  | .cctpStatus => cfg.cctpStatus
  | .cctpMutate => cfg.cctpMutate
  | .cctpReattest => cfg.cctpReattest
  | .default => cfg.default

def limit (cfg : EndpointConfig) (group : EndpointGroup) (tenantId : String) : RateLimitConfig :=
  (cfg.tenantOverrides.lookup tenantId).getD (cfg.ofGroup group)

def forPath (cfg : EndpointConfig) (path : String) : Option String → RateLimitConfig
  | some tenantId => cfg.limit (groupOf path) tenantId
  | none => cfg.ofGroup (groupOf path)

end EndpointConfig

structure RateLimitInfo where
  limit : ℕ
  remaining : ℕ
  /-- in seconds -/
  reset : ℕ
  denied : Bool
deriving DecidableEq

/-- By bucket: how many requests were let through, and when the window began. -/
abbrev InMemoryStore := HashMap String (ℕ × ℕ)

def NANOS_PER_SEC : ℕ := 1000000000

namespace InMemoryStore

/-- The window in which a request at `now` is counted. -/
def windowAt (store : InMemoryStore) (key : String) (config : RateLimitConfig) (now : ℕ) : ℕ × ℕ :=
  let entry := (AList.lookup key store).getD (0, now)
  if now - entry.2 ≥ config.window then (0, now) else entry

def check (store : InMemoryStore) (key : String) (config : RateLimitConfig) (now unixNow : ℕ) :
    RateLimitInfo × InMemoryStore :=
  let (count, start) := store.windowAt key config now
  let reset := unixNow + (config.window - (now - start)) / NANOS_PER_SEC
  if count < config.maxRequests then
    (⟨config.maxRequests, config.maxRequests - (count + 1), reset, false⟩,
      AList.insert key (count + 1, start) store)
  else (⟨config.maxRequests, 0, reset, true⟩, AList.insert key (count, start) store)

end InMemoryStore

/-- The headers that can be read as text. -/
structure HttpRequest where
  path : String
  xApiKey : Option String
  authorization : Option String
  xForwardedFor : Option String
  xRealIp : Option String
deriving DecidableEq

section Identity

/- Reads an address and writes it in its usual form. -/
variable (parseIp : String → Option String)

def extractIp (req : HttpRequest) : String :=
  match req.xForwardedFor.bind fun fwd =>
      parseIp (trim (String.ofList (fwd.toList.takeWhile (· ≠ ',')))) with
  | some ip => ip
  | none =>
    match req.xRealIp.bind fun real => parseIp (trim real) with
    | some ip => ip
    | none => "127.0.0.1"

def bearerToken (auth : String) : Option String :=
  if startsWith auth "Bearer " then some (String.ofList (auth.toList.drop 7)) else none

def extractIdentity (req : HttpRequest) : String :=
  match req.xApiKey with
  | some key => "apikey:" ++ key
  | none =>
    match req.authorization.bind bearerToken with
    | some token => "token:" ++ token
    | none => "ip:" ++ extractIp parseIp req

end Identity

def pathToSlug (path : String) : String :=
  if startsWith path "/api/v1/pairs" then "pairs"
  else if startsWith path "/api/v1/orderbook" then "orderbook"
  else if startsWith path "/api/v1/quote" then "quote"
  else String.ofList ((path.toList.dropWhile (· = '/')).map fun c => if c = '/' then '_' else c)

/-- A request with the clocks that its check reads. -/
structure Arrival where
  request : HttpRequest
  now : ℕ
  unixNow : ℕ
deriving DecidableEq

section Service

variable (parseIp : String → Option String) (cfg : EndpointConfig)

def bucketKey (req : HttpRequest) : String :=
  "rate_limit:" ++ pathToSlug req.path ++ ":" ++ extractIdentity parseIp req

/-- The check of `call`, under the lock of the store. -/
def serve (store : InMemoryStore) (a : Arrival) : RateLimitInfo × InMemoryStore :=
  let identity := extractIdentity parseIp a.request
  let config := cfg.forPath a.request.path (some identity)
  store.check (bucketKey parseIp a.request) config a.now a.unixNow

def afterServe (store : InMemoryStore) (a : Arrival) : InMemoryStore := (serve parseIp cfg store a).2

/-- The requests that were forwarded, in their order. -/
def admitted (arrivals : List Arrival) : List Arrival :=
  Transition.trace (afterServe parseIp cfg)
    (fun store a => if (serve parseIp cfg store a).1.denied then [] else [a]) ∅ arrivals

end Service

/-! The limit on the messages of a WebSocket connection (`routes/ws/rate_limit.rs`). -/

structure MessageRateLimiter where
  timestamps : List ℕ

namespace MessageRateLimiter

def WINDOW : ℕ := 60 * 10 ^ 9

def MAX_MESSAGES : ℕ := 60

def new : MessageRateLimiter := ⟨[]⟩

/-- Remove entries older than the window; like `duration_since`, the subtraction saturates. -/
def prune (timestamps : List ℕ) (now : ℕ) : List ℕ :=
  timestamps.dropWhile fun front => decide (WINDOW ≤ now - front)

def checkAndIncrement (limiter : MessageRateLimiter) (now : ℕ) : Bool × MessageRateLimiter :=
  let timestamps := prune limiter.timestamps now
  if timestamps.length < MAX_MESSAGES then (true, ⟨timestamps ++ [now]⟩) else (false, ⟨timestamps⟩)

def afterCheck (limiter : MessageRateLimiter) (now : ℕ) : MessageRateLimiter :=
  (limiter.checkAndIncrement now).2

/-- When the accepted messages came, of a connection that got one at each of these instants. -/
def accepted (nows : List ℕ) : List ℕ :=
  Transition.trace afterCheck (fun limiter now => if (limiter.checkAndIncrement now).1 then [now] else [])
    new nows

end MessageRateLimiter

end StellarRoute.Http
