import StellarRoute.Lib.HashMap
import StellarRoute.Lib.MachineInt
import StellarRoute.Quote.Spec.CacheKeys

/-! The route-computation worker pool (`worker/pool.rs`, `queue.rs`, `job.rs`,
`deduplication.rs`, `priority.rs`, `retry.rs`, `backpressure.rs`): jobs are
deduplicated in memory and by the unique key of a durable table, which also
keeps the jobs that are done until the retention policy of the indexer's
migration deletes them. Each call runs to its end, a statement that fails
changes nothing, and a payload is read back as it was written. Metrics and the
`u32` bound of the attempts are left out. -/

namespace StellarRoute.Quote

open Lib

inductive WorkerError where
  | internal (message : String)
  | overloaded (message : String)
deriving DecidableEq

/-! ### Jobs -/

structure JobId where
  baseAsset : String
  quoteAsset : String
  amount : String
  quoteType : String
deriving DecidableEq

def JobId.asHashKey (id : JobId) : String :=
  "route:" ++ id.baseAsset ++ ":" ++ id.quoteAsset ++ ":" ++ id.amount ++ ":" ++ id.quoteType

structure RouteComputationTaskPayload where
  baseAsset : String
  quoteAsset : String
  baseAssetId : ℕ
  quoteAssetId : ℕ
  amount : F64
  slippageBps : UInt32
  quoteType : String
deriving DecidableEq

inductive RequestPriority where
  | critical
  | high
  | normal
  | low
deriving DecidableEq

structure RouteComputationJob where
  id : JobId
  payload : RouteComputationTaskPayload
  /-- in milliseconds -/
  createdAt : ℤ
  attempt : ℕ
  maxRetries : ℕ
  priority : RequestPriority
  virtualTime : I64
deriving DecidableEq

namespace RouteComputationJob

def new (ops : TextOps) (base quote : String) (payload : RouteComputationTaskPayload)
    (maxRetries : ℕ) (now : ℤ) : RouteComputationJob where
  id := ⟨base, quote, ops.formatF64 payload.amount, payload.quoteType⟩
  payload := payload
  createdAt := now
  attempt := 0
  maxRetries := maxRetries
  priority := .normal
  virtualTime := 0

def withPriority (job : RouteComputationJob) (priority : RequestPriority) (virtualTime : I64) :
    RouteComputationJob := { job with priority, virtualTime }

def isExhausted (job : RouteComputationJob) : Bool := job.attempt ≥ job.maxRetries

end RouteComputationJob

/-! ### Configuration -/

structure PriorityConfig where
  criticalAmountThreshold : F64
  highAmountThreshold : F64
  weightCritical : UInt32
  weightHigh : UInt32
  weightNormal : UInt32
  weightLow : UInt32

def PriorityConfig.weightFor (config : PriorityConfig) : RequestPriority → UInt32
  | .critical => config.weightCritical
  | .high => config.weightHigh
  | .normal => config.weightNormal
  | .low => config.weightLow

inductive RetryableErrorTypes where
  | all
  | transientOnly
  | custom (codes : List String)

structure BackpressurePolicy where
  maxQueueDepth : ℕ
  rejectionThresholdPercent : ℕ

def BackpressurePolicy.shouldAccept (policy : BackpressurePolicy)
    (pendingJobs processingJobs : ℕ) : Except WorkerError Unit :=
  let totalBacklog := pendingJobs + processingJobs
  let threshold := policy.maxQueueDepth * policy.rejectionThresholdPercent / 100
  if totalBacklog ≥ policy.maxQueueDepth then
    .error (.overloaded "Job queue at capacity, please retry later")
  else if totalBacklog ≥ threshold then
    .error (.overloaded "System under heavy load, please retry later")
  else .ok ()

structure WorkerPoolConfig where
  backpressure : BackpressurePolicy
  maxRetries : ℕ
  retryableErrors : RetryableErrorTypes
  dedupTtlSecs : ℕ
  priority : PriorityConfig

def RetryableErrorTypes.isRetryable (types : RetryableErrorTypes) (errorCode : String) : Bool :=
  match types with
  | .all => true
  | .transientOnly =>
    errorCode ∈ ["timeout", "connection_error", "service_unavailable", "internal_error"]
  | .custom codes => errorCode ∈ codes

/-! ### Priorities -/

/-- The virtual clock and the last virtual time given to each band. -/
structure PriorityClassifier where
  virtualClock : I64
  finish : RequestPriority → I64

namespace PriorityClassifier

def classify (config : PriorityConfig) (amount : F64) (isBatch : Bool) : RequestPriority :=
  if isBatch then .low
  else if amount.ge config.criticalAmountThreshold then .critical
  else if amount.ge config.highAmountThreshold then .high
  else .normal

/-- The sum is not checked. -/
def nextVirtualTime (c : PriorityClassifier) (config : PriorityConfig)
    (priority : RequestPriority) : I64 × PriorityClassifier :=
  let start := max c.virtualClock (c.finish priority)
  let vt := SInt.wrap 64 (start.toInt + (config.weightFor priority).toNat)
  (vt, ⟨max c.virtualClock vt,
    fun band => if band = priority then max (c.finish band) vt else c.finish band⟩)

end PriorityClassifier

/-! ### The table -/

inductive JobStatus where
  | pending
  | processing
  | completed
  | failed
deriving DecidableEq

structure JobRow where
  id : ℕ
  jobKey : String
  status : JobStatus
  payload : RouteComputationTaskPayload
  attempt : ℕ
  maxRetries : ℕ
  errorMessage : Option String
  priority : RequestPriority
  virtualTime : I64
  createdAt : ℤ
  updatedAt : ℤ
deriving DecidableEq

structure WorkerPool where
  rows : List JobRow
  nextId : ℕ
  /-- the keys in flight, with the nanosecond they were added at -/
  dedup : HashMap String ℕ
  classifier : PriorityClassifier

/-- What a statement meets: a time, and perhaps a failure. -/
structure Statement where
  now : ℤ
  fails : Option String

namespace WorkerPool

variable (ops : TextOps) (config : WorkerPoolConfig)

def pendingCount (pool : WorkerPool) : ℕ := pool.rows.countP fun row => row.status = .pending

def processingCount (pool : WorkerPool) : ℕ := pool.rows.countP fun row => row.status = .processing

/-- `INSERT … ON CONFLICT (job_key) DO NOTHING`, and whether a row was inserted. -/
def enqueue (st : Statement) (job : RouteComputationJob) (pool : WorkerPool) :
    Except WorkerError Bool × WorkerPool :=
  match st.fails with
  | some e => (.error (.internal s!"Failed to enqueue job: {e}"), pool)
  | none =>
    if pool.rows.any fun row => row.jobKey = job.id.asHashKey then (.ok false, pool)
    else
      let row : JobRow := ⟨pool.nextId, job.id.asHashKey, .pending, job.payload, job.attempt,
        job.maxRetries, none, job.priority, job.virtualTime, job.createdAt, st.now⟩
      (.ok true, { pool with rows := pool.rows ++ [row], nextId := pool.nextId + 1 })

/-- `UPDATE … WHERE job_key = $1`. -/
def updateKey (key : String) (f : JobRow → JobRow) (pool : WorkerPool) : WorkerPool :=
  { pool with rows := pool.rows.map fun row => if row.jobKey = key then f row else row }

def markCompleted (st : Statement) (key : String) (pool : WorkerPool) :
    Except WorkerError Unit × WorkerPool :=
  match st.fails with
  | some e => (.error (.internal s!"Failed to mark job as completed: {e}"), pool)
  | none => (.ok (), pool.updateKey key fun row =>
      { row with status := .completed, updatedAt := st.now })

def markFailed (st : Statement) (key error : String) (pool : WorkerPool) :
    Except WorkerError Unit × WorkerPool :=
  match st.fails with
  | some e => (.error (.internal s!"Failed to mark job as failed: {e}"), pool)
  | none => (.ok (), pool.updateKey key fun row =>
      { row with status := .failed, errorMessage := some error, updatedAt := st.now })

def requeue (st : Statement) (job : RouteComputationJob) (pool : WorkerPool) :
    Except WorkerError Unit × WorkerPool :=
  match st.fails with
  | some e => (.error (.internal s!"Failed to requeue job: {e}"), pool)
  | none => (.ok (), pool.updateKey job.id.asHashKey fun row =>
      { row with status := .pending, attempt := job.attempt + 1, updatedAt := st.now })

/-- The pending rows that come first by virtual time and creation. -/
def firstPending (pool : WorkerPool) : List JobRow :=
  let pending := pool.rows.filter fun row => row.status = .pending
  pending.filter fun row => pending.all fun row' =>
    row.virtualTime < row'.virtualTime ∨
      row.virtualTime = row'.virtualTime ∧ row.createdAt ≤ row'.createdAt

/-- The job of a row is identified by the assets of its payload. -/
def jobOf (row : JobRow) : RouteComputationJob where
  id := ⟨row.payload.baseAsset, row.payload.quoteAsset, ops.formatF64 row.payload.amount,
    row.payload.quoteType⟩
  payload := row.payload
  createdAt := row.createdAt
  attempt := row.attempt
  maxRetries := row.maxRetries
  priority := row.priority
  virtualTime := row.virtualTime

/-- Rows that come first together are served in any order: `tie` picks one. -/
def dequeue (ops : TextOps) (st : Statement) (tie : ℕ) (pool : WorkerPool) :
    Except WorkerError (Option RouteComputationJob) × WorkerPool :=
  match st.fails, pool.firstPending[tie % pool.firstPending.length]? with
  | some e, _ => (.error (.internal s!"Failed to dequeue job: {e}"), pool)
  | none, none => (.ok none, pool)
  | none, some row =>
    (.ok (some (jobOf ops row)), { pool with rows := pool.rows.map fun row' =>
      if row'.id = row.id then { row' with status := .processing, updatedAt := st.now } else row' })

/-! ### The pool -/

/-- `try_add` has added the key: the job is not a duplicate. -/
def tryAdd (clock : ℕ) (id : JobId) (pool : WorkerPool) : Bool × WorkerPool :=
  if id.asHashKey ∈ pool.dedup then (false, pool)
  else (true, { pool with dedup := pool.dedup.insert id.asHashKey clock })

def removeKey (id : JobId) (pool : WorkerPool) : WorkerPool :=
  { pool with dedup := pool.dedup.erase id.asHashKey }

/-- What is submitted, and what the call meets: the clocks and its two statements. -/
structure Submission where
  base : String
  quote : String
  payload : RouteComputationTaskPayload
  isBatch : Bool
  now : ℤ
  clock : ℕ
  stats : Statement
  insert : Statement

/-- The result of `enqueue` is only looked at for the metrics. -/
def settleEnqueue (id : JobId) :
    Except WorkerError Bool × WorkerPool → Except WorkerError Unit × WorkerPool
  | (.ok _, pool) => (.ok (), pool)
  | (.error e, pool) => (.error e, pool.removeKey id)

def jobFor (sub : Submission) (virtualTime : I64) : RouteComputationJob :=
  (RouteComputationJob.new ops sub.base sub.quote sub.payload config.maxRetries
    sub.now).withPriority
    (PriorityClassifier.classify config.priority sub.payload.amount sub.isBatch) virtualTime

def submitJobWithOptions (sub : Submission) (pool : WorkerPool) :
    Except WorkerError Unit × WorkerPool :=
  match sub.stats.fails with
  | some e => (.error (.internal s!"Failed to get queue stats: {e}"), pool)
  | none =>
    match config.backpressure.shouldAccept pool.pendingCount pool.processingCount with
    | .error e => (.error e, pool)
    | .ok () =>
      let priority := PriorityClassifier.classify config.priority sub.payload.amount sub.isBatch
      let (virtualTime, classifier) := pool.classifier.nextVirtualTime config.priority priority
      let job := jobFor ops config sub virtualTime
      match tryAdd sub.clock job.id { pool with classifier } with
      -- a duplicate is silently ignored
      | (false, pool) => (.ok (), pool)
      | (true, pool) => settleEnqueue job.id (enqueue sub.insert job pool)

def markSuccess (st : Statement) (job : RouteComputationJob) (pool : WorkerPool) :
    Except WorkerError Unit × WorkerPool :=
  match markCompleted st job.id.asHashKey pool with
  | (.error e, pool) => (.error e, pool)
  | (.ok (), pool) => (.ok (), pool.removeKey job.id)

def markFailure (st : Statement) (job : RouteComputationJob) (error : String) (pool : WorkerPool) :
    Except WorkerError Unit × WorkerPool :=
  let result :=
    if !job.isExhausted && config.retryableErrors.isRetryable error then requeue st job pool
    else markFailed st job.id.asHashKey error pool
  match result with
  | (.error e, pool) => (.error e, pool)
  | (.ok (), pool) => (.ok (), pool.removeKey job.id)

def cleanup (clock : ℕ) (pool : WorkerPool) : WorkerPool :=
  { pool with dedup := pool.dedup.deleteKeys (pool.dedup.keys.filter fun key =>
      (pool.dedup.lookup key).any fun createdAt => ¬ clock - createdAt < config.dedupTtlSecs * 10 ^ 9) }

/-- In milliseconds. -/
def JOB_RETENTION : ℤ := 3 * 24 * 60 * 60 * 1000

/-- The maintenance task deletes what was completed or failed three days ago. -/
def applyRetentionPolicies (now : ℤ) (pool : WorkerPool) : WorkerPool :=
  { pool with rows := pool.rows.filter fun row =>
      ¬ ((row.status = .completed ∨ row.status = .failed) ∧ row.updatedAt < now - JOB_RETENTION) }

inductive Op where
  | submit (sub : Submission)
  | dequeue (st : Statement) (tie : ℕ)
  | success (st : Statement) (job : RouteComputationJob)
  | failure (st : Statement) (job : RouteComputationJob) (error : String)
  | cleanup (clock : ℕ)
  | applyRetentionPolicies (now : ℤ)

def step (pool : WorkerPool) : Op → WorkerPool
  | .submit sub => (submitJobWithOptions ops config sub pool).2
  | .dequeue st tie => (dequeue ops st tie pool).2
  | .success st job => (markSuccess st job pool).2
  | .failure st job error => (markFailure config st job error pool).2
  | .cleanup clock => pool.cleanup config clock
  | .applyRetentionPolicies now => pool.applyRetentionPolicies now

end WorkerPool

end StellarRoute.Quote
