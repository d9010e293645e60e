import StellarRoute.Indexer.Spec.Activity

/-! `AmmAggregator::aggregate_once` of `amm.rs`: a round asks for the latest ledger, looks for new
pools and for swap events since the discovery cursor, refreshes the reserves of the pools, and stores
the latest ledger as the cursor. What is outside answers through a `RoundEnv`. Reading a pool (its
contract data and the ids of its assets) is one answer. -/

namespace StellarRoute.Indexer

open Lib

structure AmmConfig where
  routerContract : String
  staleThresholdSecs : ℕ
  batchSize : ℕ

structure EventFilter where
  eventType : String
  contractIds : List String
  topics : List (List String)
deriving DecidableEq

/-- A row of `soroban_sync_cursors`. -/
structure SyncCursor where
  cursor : String
  lastSeenLedger : Option ℤ
  status : String
deriving DecidableEq

/-- A row of `amm_pool_reserves`. -/
structure PoolReserve where
  sellingAssetId : ℕ
  buyingAssetId : ℕ
  reserveSelling : ℤ
  reserveBuying : ℤ
  feeBps : ℤ
  lastUpdatedLedger : ℤ
  updatedAt : ℤ

structure AmmDb where
  /-- the row of the job `soroban_pool_discovery` -/
  cursor : Option SyncCursor
  reserves : HashMap String PoolReserve
  swaps : SwapTable

/-- How the statements of a round end, and what Soroban RPC answers. -/
structure RoundEnv where
  getLatestLedger : Except IndexerError UInt64
  loadCursor : Except IndexerError Unit
  storeInitial : Except IndexerError Unit
  getEvents : UInt64 → UInt64 → EventFilter → Except IndexerError (List SorobanEvent)
  /-- the active pools of `amm_pools` and those of `AMM_POOLS`, at each of the two reads -/
  registryFirst : Except IndexerError (List String)
  registrySecond : Except IndexerError (List String)
  /-- the reserve that is written for a pool, if nothing fails -/
  pool : String → Option PoolReserve
  insert : ℕ → Except IndexerError Unit
  trackedPools : Except IndexerError Unit
  cleanup : Except IndexerError Unit
  now : ℤ
  storeCursor : Except IndexerError Unit

def MAX_EVENT_LOOKBACK : ℕ := 10000

/-- `cursor_str.parse().unwrap_or(0)`. -/
def parseCursor (text : String) : ℕ := (parseDecimal (2 ^ 64) text).getD 0

/-- Where a round starts: at the latest ledger with a fresh cursor, and not before the lookback. -/
def startLedger (cursor currentLedger : ℕ) : ℕ :=
  if cursor = 0 then currentLedger else max cursor (currentLedger - MAX_EVENT_LOOKBACK)

def discoveryFilter (cfg : AmmConfig) : EventFilter :=
  ⟨"contract", [cfg.routerContract], [["pool_created"]]⟩

def swapFilter (cfg : AmmConfig) : EventFilter := ⟨"contract", [cfg.routerContract], [["swap"]]⟩

namespace AmmDb

variable (H : ActivityHost) (cfg : AmmConfig) (env : RoundEnv)

def loadDiscoveryCursor (db : AmmDb) : Except IndexerError String × AmmDb :=
  match env.loadCursor with
  | .error e => (.error e, db)
  | .ok _ =>
    match db.cursor with
    | some row => (.ok row.cursor, db)
    | none =>
      match env.storeInitial with
      | .error e => (.error e, db)
      | .ok _ => (.ok "0", { db with cursor := some ⟨"0", some 0, "initialized"⟩ })

/-- A pool that fails is logged and skipped. -/
def processPool (db : AmmDb) (address : String) : AmmDb :=
  match env.pool address with
  | some reserve => { db with reserves := db.reserves.insert address reserve }
  | none => db

def processPoolBatch (db : AmmDb) (addresses : List String) : AmmDb :=
  addresses.foldl (processPool env) db

/-- The last topic of every event; an error counts as no pool. -/
def discoverNewPools (start current : UInt64) : List String :=
  match env.getEvents start current (discoveryFilter cfg) with
  | .ok events => events.filterMap fun event => event.topics.getLast?
  | .error _ => []

/-- The pools of the first part of a round: the new ones, or those of the registry. -/
def newPools (start current : UInt64) : Except IndexerError (List String) :=
  match discoverNewPools cfg env start current with
  | [] => env.registryFirst
  | pools => .ok pools

/-- An error is logged; what was inserted before it stays. -/
def indexSwapActivity (start current : UInt64) (db : AmmDb) : AmmDb :=
  match env.getEvents start current (swapFilter cfg) with
  | .error _ => db
  | .ok events => { db with swaps := (ingestSwapEvents H env.insert events 0 0 db.swaps).2 }

/-- Looking for events between the two ledgers. -/
def scanEvents (start current : UInt64) (db : AmmDb) : Except IndexerError Unit × AmmDb :=
  match newPools cfg env start current with
  | .error e => (.error e, db)
  | .ok pools => (.ok (), indexSwapActivity H cfg env start current (db.processPoolBatch env pools))

/-- A cursor that has reached the latest ledger leaves nothing to look for. -/
def scanSince (start : ℕ) (current : UInt64) (db : AmmDb) : Except IndexerError Unit × AmmDb :=
  if current.toNat ≤ start then (.ok (), db)
  else scanEvents H cfg env (UInt64.ofNat start) current db

/-- The reserves of the pools that are stored or configured, in batches. -/
def refreshPools (db : AmmDb) : Except IndexerError Unit × AmmDb :=
  match env.trackedPools, env.registrySecond with
  | .error e, _ => (.error e, db)
  | .ok _, .error e => (.error e, db)
  | .ok _, .ok configured =>
    let pools := configured.foldl (fun pools p => if p ∈ pools then pools else pools ++ [p])
      db.reserves.keys
    (.ok (), (pools.toChunks cfg.batchSize).foldl (processPoolBatch env) db)

def cleanupStalePools (db : AmmDb) : Except IndexerError Unit × AmmDb :=
  match env.cleanup with
  | .error e => (.error e, db)
  | .ok _ =>
    let threshold := env.now - cfg.staleThresholdSecs
    (.ok (), { db with reserves := db.reserves.retain fun _ r => decide (threshold ≤ r.updatedAt) })

def storeDiscoveryCursor (current : UInt64) (db : AmmDb) : Except IndexerError Unit × AmmDb :=
  match env.storeCursor with
  | .error e => (.error e, db)
  | .ok _ =>
    (.ok (), { db with
      cursor := some ⟨toString current.toNat, some (SInt.wrap 64 current.toNat).toInt, "running"⟩ })

/-- One action after another, unless one fails. -/
def andThen (r : Except IndexerError Unit × AmmDb)
    (f : AmmDb → Except IndexerError Unit × AmmDb) : Except IndexerError Unit × AmmDb :=
  match r with
  | (.error e, db) => (.error e, db)
  | (.ok _, db) => f db

/-- The part of a round after the events. -/
def finishRound (current : UInt64) (scanned : Except IndexerError Unit × AmmDb) :
    Except IndexerError Unit × AmmDb :=
  andThen (andThen (andThen scanned (refreshPools cfg env)) (cleanupStalePools cfg env))
    (storeDiscoveryCursor env current)

def aggregateOnce (db : AmmDb) : Except IndexerError Unit × AmmDb :=
  match env.getLatestLedger with
  | .error e => (.error e, db)
  | .ok current =>
    match db.loadDiscoveryCursor env with
    | (.error e, db) => (.error e, db)
    | (.ok text, db) =>
      let start := startLedger (parseCursor text) current.toNat
      finishRound cfg env current (scanSince H cfg env start current db)

end AmmDb

end StellarRoute.Indexer
