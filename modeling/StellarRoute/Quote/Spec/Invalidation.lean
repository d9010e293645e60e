import StellarRoute.Lib.HashMap
import StellarRoute.Quote.Spec.CacheKeys

/-! How a change of liquidity removes cached quotes: the update listener's
`handle_liquidity_update` (`cache/invalidation.rs`) and the check that every
quote request makes (`maybe_invalidate_quote_cache` of `routes/quote.rs`).
Redis is a map of keys to JSON values. Expiry only removes keys and is left
out; so are webhooks. -/

namespace StellarRoute.Quote

open Lib

inductive Json where
  | text (s : String)
  | number (n : ℕ)
  /-- a serialised quote -/
  | document (s : String)
deriving DecidableEq

abbrev Redis := HashMap String Json

/-- How the commands of a call fare. -/
structure Commands where
  get : Except String Unit
  set : Except String Unit
  delete : Except String Unit

namespace Redis

/-- `get` for a type that is written as a JSON string. -/
def getText (redis : Redis) (commands : Commands) (key : String) : Option String :=
  match commands.get, redis.lookup key with
  | .ok (), some (.text s) => some s
  | _, _ => none

def set (redis : Redis) (commands : Commands) (key : String) (value : Json) :
    Except String Unit × Redis :=
  match commands.set with
  | .ok () => (.ok (), redis.insert key value)
  | .error e => (.error e, redis)

def deleteByPattern (redis : Redis) (commands : Commands) (pattern : String) :
    Except String ℕ × Redis :=
  match commands.delete with
  | .error e => (.error e, redis)
  | .ok () =>
    let keys := redis.keys.filter (globMatch pattern)
    if keys.isEmpty then (.ok 0, redis) else (.ok keys.length, redis.deleteKeys keys)

end Redis

inductive LiquidityUpdateEvent where
  | sdexUpdate (baseAsset counterAsset : String) (ledgerSequence : UInt64)
  | ammUpdate (poolAddress assetA assetB : String) (ledgerSequence : UInt64)
  | revisionUpdate (baseAsset counterAsset : String) (revision : UInt64)

section Handlers

variable (ops : TextOps) (commands : Commands)

def invalidatePairCaches (baseAsset counterAsset : String) (redis : Redis) :
    Except String ℕ × Redis :=
  let (result, redis) := redis.deleteByPattern commands (Keys.quotePairPattern ops baseAsset
      counterAsset)
  (result.mapError fun e => s!"Cache invalidation failed: {e}", redis)

/-- A failure to write the revision is only logged. -/
def updateRevisionAndInvalidate (baseAsset counterAsset : String) (revision : UInt64)
    (redis : Redis) : Except String ℕ × Redis :=
  let (_, redis) := redis.set commands (Keys.liquidityRevision ops baseAsset counterAsset)
    (.number revision.toNat)
  invalidatePairCaches ops commands baseAsset counterAsset redis

def handleLiquidityUpdate (event : LiquidityUpdateEvent) (redis : Redis) :
    Except String ℕ × Redis :=
  match event with
  | .sdexUpdate baseAsset counterAsset _ =>
    invalidatePairCaches ops commands baseAsset counterAsset redis
  | .ammUpdate _ assetA assetB _ => invalidatePairCaches ops commands assetA assetB redis
  | .revisionUpdate baseAsset counterAsset revision =>
    updateRevisionAndInvalidate ops commands baseAsset counterAsset revision redis

/-- The cache is passed over when another request holds it. -/
def maybeInvalidateQuoteCache (cacheFree : Bool) (base quote liquidityRevision : String)
    (redis : Redis) : Redis :=
  if cacheFree then
    let revisionKey := Keys.liquidityRevision ops base quote
    let cachedRevision := redis.getText commands revisionKey
    if cachedRevision ≠ some liquidityRevision then
      let redis :=
        if cachedRevision.isSome then
          (redis.deleteByPattern commands (Keys.quotePairPattern ops base quote)).2
        else redis
      (redis.set commands revisionKey (.text liquidityRevision)).2
    else redis
  else redis

end Handlers

end StellarRoute.Quote
