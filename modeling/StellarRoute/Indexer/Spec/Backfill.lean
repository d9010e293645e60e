import Mathlib.Data.List.Sort
import StellarRoute.Indexer.Spec.Sdex

/-! `BackfillManager` of `reconciliation/backfill.rs`, which copies `sdex_offers` into
`normalized_liquidity` batch by batch. A step of a run is one access of shared state: the status
while its lock is held, or one statement. `pause`, the end of a loop and the report of an error hold
the lock of the status over their statement, which only writes the columns `status` and `last_error`
that nothing reads; they are one step. -/

namespace StellarRoute.Indexer

open Lib

inductive BackfillStatus where
  | idle
  | running
  | paused
  | completed
  | error (e : String)
deriving DecidableEq

structure BackfillCheckpoint where
  lastProcessedId : ℤ
  batchSize : ℤ
  status : String
  lastError : Option String
deriving DecidableEq

/-- A row of `normalized_liquidity`. -/
structure NormalizedRow where
  sellingAssetId : ℕ
  buyingAssetId : ℕ
  price : ℤ
  availableAmount : ℤ
  priceE7 : ℤ
  availableAmountE7 : ℤ
  sourceLedger : ℤ
deriving DecidableEq

/-- `(x * scale_e7).to_i64().unwrap_or(0)`. -/
def toE7 (x : ℤ) : ℤ :=
  let scaled := x.tdiv (10 ^ 7)
  if -2 ^ 63 ≤ scaled ∧ scaled < 2 ^ 63 then scaled else 0

/-- The integrity check. -/
def SdexRow.normalizes (row : SdexRow) : Bool := 0 < toE7 row.price ∧ 0 < toE7 row.amount

inductive LoopPhase where
  /-- about to look at the status -/
  | checking
  /-- about to read the checkpoint -/
  | loading
  /-- about to read the batch after the checkpoint -/
  | fetching (checkpoint : BackfillCheckpoint)
  /-- the batch was empty -/
  | finishing
  /-- has these rows of the batch left -/
  | upserting (rows : List SdexRow) (lastId : ℤ)
  /-- about to write the checkpoint -/
  | updating (lastId : ℤ)
  /-- `process_loop` has returned an error that is not reported yet -/
  | failed (e : String)
  | ended
deriving DecidableEq

/-- `process_loop` has not returned. -/
def LoopPhase.active : LoopPhase → Bool
  | .failed _ | .ended => false
  | _ => true

structure BackfillDb where
  checkpoint : Option BackfillCheckpoint
  offers : HashMap ℤ SdexRow
  normalized : HashMap (String × String) NormalizedRow

structure BackfillManager where
  status : BackfillStatus
  db : BackfillDb
  /-- the calls of `run_backfill` that have set the status and have not spawned their loop -/
  starting : ℕ
  loops : List LoopPhase

namespace BackfillDb

/-- `INSERT ... ON CONFLICT DO NOTHING`. -/
def ensureCheckpoint (db : BackfillDb) : BackfillDb :=
  match db.checkpoint with
  | some _ => db
  | none => { db with checkpoint := some ⟨0, 1000, "running", none⟩ }

def setStatus (db : BackfillDb) (status : String) : BackfillDb :=
  { db with checkpoint := db.checkpoint.map fun c => { c with status := status } }

def setError (db : BackfillDb) (e : String) : BackfillDb :=
  { db with
    checkpoint := db.checkpoint.map fun c => { c with status := "error", lastError := some e } }

def updateCheckpoint (db : BackfillDb) (lastId : ℤ) : BackfillDb :=
  { db with
    checkpoint := db.checkpoint.map fun c => { c with lastProcessedId := lastId, status := "running" } }

/-- `offer_id > $1 ORDER BY offer_id ASC LIMIT $2`. -/
def batch (db : BackfillDb) (c : BackfillCheckpoint) : List SdexRow :=
  ((db.offers.values.filter fun row => decide (c.lastProcessedId < row.offerId)).insertionSort
    fun a b => a.offerId ≤ b.offerId).take c.batchSize.toNat

/-- The conflict keeps the assets of the row that is there. -/
def upsertNormalized (db : BackfillDb) (row : SdexRow) : BackfillDb :=
  let ref := ("sdex", toString row.offerId)
  let old := (db.normalized.lookup ref).getD
    ⟨row.sellingAssetId, row.buyingAssetId, 0, 0, 0, 0, 0⟩
  { db with
    normalized := db.normalized.insert ref
      { old with
        price := row.price, availableAmount := row.amount, priceE7 := toE7 row.price,
        availableAmountE7 := toE7 row.amount, sourceLedger := row.lastModifiedLedger } }

end BackfillDb

/-- How a statement ends. -/
abbrev Outcome := Except String Unit

inductive BackfillChoice where
  /-- a call of `run_backfill` or `resume` -/
  | runBackfill
  /-- a call that is starting makes sure that there is a checkpoint, and spawns its loop -/
  | spawn (outcome : Outcome)
  | pause (outcome : Outcome)
  | loop (i : ℕ) (outcome : Outcome)
  /-- other writers of `sdex_offers` -/
  | offers (rows : HashMap ℤ SdexRow)

namespace BackfillManager

/-- The next access of `process_loop`, or of the task around it. -/
def advance (outcome : Outcome) (status : BackfillStatus) (db : BackfillDb) :
    LoopPhase → LoopPhase × BackfillStatus × BackfillDb
  | .checking => (if status = .paused then .ended else .loading, status, db)
  | .loading =>
    match outcome, db.checkpoint with
    | .ok _, some c => (.fetching c, status, db)
    | .ok _, none => (.failed "no rows returned by a query that expected to return at least one row",
        status, db)
    | .error e, _ => (.failed e, status, db)
  | .fetching c =>
    match outcome with
    | .error e => (.failed e, status, db)
    | .ok _ =>
      if c.batchSize < 0 then (.failed "LIMIT must not be negative", status, db)
      else
        match db.batch c with
        | [] => (.finishing, status, db)
        | rows => (.upserting rows c.lastProcessedId, status, db)
  | .finishing =>
    match outcome with
    | .error e => (.failed e, .completed, db)
    | .ok _ => (.ended, .completed, db.setStatus "completed")
  | .upserting [] lastId => (.updating lastId, status, db)
  | .upserting (row :: rows) lastId =>
    if row.normalizes then
      match outcome with
      | .error e => (.failed e, status, db)
      | .ok _ => (.upserting rows row.offerId, status, db.upsertNormalized row)
    else (.upserting rows lastId, status, db)
  | .updating lastId =>
    match outcome with
    | .error e => (.failed e, status, db)
    | .ok _ => (.checking, status, db.updateCheckpoint lastId)
  | .failed e =>
    (.ended, .error e,
      match outcome with
      | .ok _ => db.setError e
      | .error _ => db)
  | .ended => (.ended, status, db)

def step (s : BackfillManager) : BackfillChoice → BackfillManager
  | .runBackfill =>
    if s.status = .running then s else { s with status := .running, starting := s.starting + 1 }
  | .spawn outcome =>
    if s.starting = 0 then s
    else
      match outcome with
      | .ok _ =>
        { s with
          db := s.db.ensureCheckpoint, starting := s.starting - 1, loops := s.loops ++ [.checking] }
      | .error _ => { s with starting := s.starting - 1 }
  | .pause outcome =>
    { s with
      status := .paused
      db := match outcome with
        | .ok _ => s.db.setStatus "paused"
        | .error _ => s.db }
  | .loop i outcome =>
    match s.loops[i]? with
    | none => s
    | some phase =>
      let (phase, status, db) := advance outcome s.status s.db phase
      ⟨status, db, s.starting, s.loops.set i phase⟩
  | .offers rows => { s with db := { s.db with offers := rows } }

end BackfillManager

end StellarRoute.Indexer
