import Mathlib.Data.List.Sort
import Mathlib.Logic.Function.Basic
import StellarRoute.Lib.HashMap
import StellarRoute.Lib.MachineInt

/-! `EventDeduplicator` of `deduplication.rs`. Each function takes the lock of a map for as long as
it uses it, so a step of a run is one critical section: `mark_completed` has two. Times are in
nanoseconds. -/

namespace StellarRoute.Indexer

open Lib

structure IdempotencyKey where
  source : String
  eventId : String
deriving DecidableEq

inductive EventStatus where
  | pending
  | processing
  | completed
  | failed
deriving DecidableEq

structure ProcessedEvent where
  key : IdempotencyKey
  status : EventStatus
  sequence : UInt64
  processedAt : ℤ
  retryCount : UInt32
deriving DecidableEq

inductive DeduplicationResult where
  | new
  | duplicate
  | reprocessing
deriving DecidableEq

structure DeduplicationConfig where
  windowSeconds : UInt64
  maxEntries : ℕ
  reprocessFailed : Bool

/-- `chrono::Duration::seconds(window_seconds as i64)`. -/
def DeduplicationConfig.window (config : DeduplicationConfig) : ℤ :=
  (SInt.wrap 64 config.windowSeconds.toNat).toInt * 10 ^ 9

/-- `DeduplicationConfig::default`. -/
def DeduplicationConfig.default : DeduplicationConfig := ⟨3600, 100000, true⟩

structure StreamState where
  streamId : String
  lastSequence : UInt64
  lastProcessedAt : ℤ
  pendingCount : ℕ

structure EventDeduplicator where
  config : DeduplicationConfig
  processed : HashMap IdempotencyKey ProcessedEvent
  streamStates : HashMap String StreamState

namespace EventDeduplicator

def new (config : DeduplicationConfig) : EventDeduplicator := ⟨config, ∅, ∅⟩

def check (d : EventDeduplicator) (key : IdempotencyKey) : DeduplicationResult :=
  match d.processed.lookup key with
  | some event =>
    match event.status with
    | .completed => .duplicate
    | .failed => if d.config.reprocessFailed then .reprocessing else .duplicate
    | .processing | .pending => .duplicate
  | none => .new

def markProcessing (d : EventDeduplicator) (key : IdempotencyKey) (sequence : UInt64) (now : ℤ) :
    EventDeduplicator :=
  { d with processed := d.processed.insert key ⟨key, .processing, sequence, now, 0⟩ }

/-- `processed.get_mut(key)`: the entry, if there is one, changed by `f`. -/
def modify (d : EventDeduplicator) (key : IdempotencyKey) (f : ProcessedEvent → ProcessedEvent) :
    EventDeduplicator :=
  match d.processed.lookup key with
  | some event => { d with processed := d.processed.insert key (f event) }
  | none => d

/-- `mark_completed` up to the release of the first lock. -/
def markCompleted (d : EventDeduplicator) (key : IdempotencyKey) (now : ℤ) : EventDeduplicator :=
  d.modify key fun event => { event with status := .completed, processedAt := now }

/-- The rest of `mark_completed`. -/
def advanceStream (d : EventDeduplicator) (streamId : String) (sequence : UInt64) (now : ℤ) :
    EventDeduplicator :=
  let state := (d.streamStates.lookup streamId).getD ⟨streamId, 0, now, 0⟩
  let lastSequence := if state.lastSequence < sequence then sequence else state.lastSequence
  { d with
    streamStates := d.streamStates.insert streamId
      { state with lastSequence := lastSequence, lastProcessedAt := now } }

def markFailed (d : EventDeduplicator) (key : IdempotencyKey) (now : ℤ) : EventDeduplicator :=
  d.modify key fun event =>
    { event with status := .failed, retryCount := event.retryCount + 1, processedAt := now }

/-- `order` is the order in which the map is iterated: which of the entries with one time are
removed is left to it. -/
def cleanupExpired (d : EventDeduplicator) (order : List IdempotencyKey) (now : ℤ) :
    EventDeduplicator :=
  let cutoff := now - d.config.window
  let processed := d.processed.retain fun _ event => decide (cutoff < event.processedAt)
  if d.config.maxEntries < processed.entries.length then
    let events := (order.filterMap fun key =>
      (processed.lookup key).map fun event => (key, event)).insertionSort
        fun a b => a.2.processedAt ≤ b.2.processedAt
    let toRemove := (events.take (processed.entries.length - d.config.maxEntries)).map (·.1)
    { d with processed := processed.deleteKeys toRemove }
  else { d with processed := processed }

end EventDeduplicator

/-! Consumers: each takes an event, asks whether it is to be handled, and then marks it. -/

structure StreamEvent where
  key : IdempotencyKey
  streamId : String
  sequence : UInt64
deriving DecidableEq

inductive ConsumerPhase where
  | idle
  /-- `check` has told it to handle the event -/
  | checked (e : StreamEvent)
  /-- has called `mark_processing` -/
  | processing (e : StreamEvent)
  /-- has released the first lock of `mark_completed` -/
  | completing (e : StreamEvent)
deriving DecidableEq

inductive DedupChoice where
  | check (consumer : ℕ) (e : StreamEvent)
  | markProcessing (consumer : ℕ)
  | markCompleted (consumer : ℕ)
  | advanceStream (consumer : ℕ)
  | markFailed (consumer : ℕ)
  | cleanupExpired (order : List IdempotencyKey)

/-- A step, with what the clock shows then. -/
structure DedupStep where
  choice : DedupChoice
  now : ℤ

structure Consumers where
  dedup : EventDeduplicator
  phase : ℕ → ConsumerPhase

namespace Consumers

def start (dedup : EventDeduplicator) : Consumers := ⟨dedup, fun _ => .idle⟩

def enter (s : Consumers) (consumer : ℕ) (phase : ConsumerPhase) (dedup : EventDeduplicator) :
    Consumers :=
  ⟨dedup, Function.update s.phase consumer phase⟩

def step (s : Consumers) (o : DedupStep) : Consumers :=
  match o.choice with
  | .check consumer e =>
    if s.phase consumer = .idle ∧ s.dedup.check e.key ≠ .duplicate then
      s.enter consumer (.checked e) s.dedup
    else s
  | .markProcessing consumer =>
    match s.phase consumer with
    | .checked e =>
      s.enter consumer (.processing e) (s.dedup.markProcessing e.key e.sequence o.now)
    | _ => s
  | .markCompleted consumer =>
    match s.phase consumer with
    | .processing e => s.enter consumer (.completing e) (s.dedup.markCompleted e.key o.now)
    | _ => s
  | .advanceStream consumer =>
    match s.phase consumer with
    | .completing e => s.enter consumer .idle (s.dedup.advanceStream e.streamId e.sequence o.now)
    | _ => s
  | .markFailed consumer =>
    match s.phase consumer with
    | .processing e => s.enter consumer .idle (s.dedup.markFailed e.key o.now)
    | _ => s
  | .cleanupExpired order => { s with dedup := s.dedup.cleanupExpired order o.now }

end Consumers

/-! Events that come too early wait in a buffer. -/

abbrev OutOfOrderBuffer := List (IdempotencyKey × UInt64)

/-- An `EventDeduplicator` with its buffer and the bound on it. -/
structure BufferedDeduplicator extends EventDeduplicator where
  maxOutOfOrderBuffer : ℕ
  outOfOrderBuffer : OutOfOrderBuffer

inductive BufferCall where
  | bufferOutOfOrder (key : IdempotencyKey) (sequence : UInt64)
  | drainReady (streamId : String)
  | markCompleted (key : IdempotencyKey) (streamId : String) (sequence : UInt64) (now : ℤ)

namespace BufferedDeduplicator

def new (config : DeduplicationConfig) (maxOutOfOrderBuffer : ℕ) : BufferedDeduplicator :=
  ⟨.new config, maxOutOfOrderBuffer, []⟩

def lastSequence (d : BufferedDeduplicator) (streamId : String) : UInt64 :=
  ((d.streamStates.lookup streamId).map (·.lastSequence)).getD 0

def bufferOutOfOrder (d : BufferedDeduplicator) (key : IdempotencyKey) (sequence : UInt64) :
    Bool × BufferedDeduplicator :=
  if d.maxOutOfOrderBuffer ≤ d.outOfOrderBuffer.length then (false, d)
  else (true, { d with
    outOfOrderBuffer := (d.outOfOrderBuffer ++ [(key, sequence)]).insertionSort (·.2 ≤ ·.2) })

/-- The loop of `drain_ready` when `n` events are ready: what else becomes ready, and what is left.
The sum wraps, as in a release build. -/
def drainLoop (streamId : String) (lastSeq : UInt64) :
    ℕ → OutOfOrderBuffer → OutOfOrderBuffer × OutOfOrderBuffer
  | _, [] => ([], [])
  | n, e :: buffer =>
    if e.1.source = streamId ∧ e.2 = lastSeq + 1 + UInt64.ofNat n then
      let (ready, rest) := drainLoop streamId lastSeq (n + 1) buffer
      (e :: ready, rest)
    else
      let (ready, rest) := drainLoop streamId lastSeq n buffer
      (ready, e :: rest)

def drainReady (d : BufferedDeduplicator) (streamId : String) :
    OutOfOrderBuffer × BufferedDeduplicator :=
  let (ready, rest) := drainLoop streamId (d.lastSequence streamId) 0 d.outOfOrderBuffer
  (ready, { d with outOfOrderBuffer := rest })

/-- One call; `mark_completed` with the time. -/
def step (d : BufferedDeduplicator) : BufferCall → BufferedDeduplicator
  | .bufferOutOfOrder key sequence => (d.bufferOutOfOrder key sequence).2
  | .drainReady streamId => (d.drainReady streamId).2
  | .markCompleted key streamId sequence now =>
    { d with
      toEventDeduplicator := (d.toEventDeduplicator.markCompleted key now).advanceStream
        streamId sequence now }

end BufferedDeduplicator

end StellarRoute.Indexer
