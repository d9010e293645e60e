import StellarRoute.Lib.BoundedQueue
import StellarRoute.Routing.Spec.Optimizer

/-! The canary pipeline of the routes endpoint (`routes_endpoint.rs`, `canary.rs`). A request for
routes spawns a task that reads the configuration, runs the candidate policy, and puts the evaluation
into the history; while it holds the history it counts the violations and, if there are enough,
switches the canary off. A step is one access of the configuration or of the history. -/

namespace StellarRoute.Routes

open Lib
open Routing (OptimizerDiagnostics)

structure CanaryConfig where
  enabled : Bool
  baselinePolicy : String
  candidatePolicy : String
  maxLatencyDriftMs : ℤ
  maxOutputDriftBps : ℤ
  rollbackTriggerThreshold : UInt32
  evaluationRate : F64
deriving DecidableEq

/-- The rate is 0.1. -/
def CanaryConfig.default : CanaryConfig where
  enabled := false
  baselinePolicy := "production"
  candidatePolicy := "testing"
  maxLatencyDriftMs := 50
  maxOutputDriftBps := 10
  rollbackTriggerThreshold := 5
  evaluationRate := ⟨0x3FB999999999999A⟩

structure CanaryEvaluation where
  timestamp : ℤ
  baseAsset : String
  quoteAsset : String
  amountIn : ℤ
  baselineScore : F64
  candidateScore : F64
  baselineLatencyMs : UInt64
  candidateLatencyMs : UInt64
  latencyDriftMs : ℤ
  outputDriftBps : ℤ
  isViolation : Bool
  violationReasons : List String
deriving DecidableEq

/-- What a task compares, if the candidate policy found a route. -/
structure Comparison where
  baseline : OptimizerDiagnostics
  candidate : OptimizerDiagnostics
  baseAsset : String
  quoteAsset : String
  amountIn : ℤ
  now : ℤ

def driftReason (name unit : String) (drift threshold : ℤ) : List String :=
  if threshold < drift then
    [name ++ " drift " ++ toString drift ++ unit ++ " exceeds threshold " ++ toString threshold ++ unit]
  else []

/-- `drift` is `((baseline - candidate) / baseline * 10000.0).round() as i64` of two amounts. -/
def CanaryConfig.evaluate (drift : ℤ → ℤ → ℤ) (config : CanaryConfig) (c : Comparison) :
    CanaryEvaluation :=
  let latencyDriftMs := (SInt.wrap 64
    (c.candidate.totalComputeTimeMs.toNat - c.baseline.totalComputeTimeMs.toNat)).toInt
  let outputDriftBps :=
    if 0 < c.baseline.metrics.outputAmount.toInt then
      drift c.baseline.metrics.outputAmount.toInt c.candidate.metrics.outputAmount.toInt
    else 0
  let violationReasons :=
    driftReason "Latency" "ms" latencyDriftMs config.maxLatencyDriftMs ++
      driftReason "Output" "bps" outputDriftBps config.maxOutputDriftBps
  { timestamp := c.now, baseAsset := c.baseAsset, quoteAsset := c.quoteAsset, amountIn := c.amountIn,
    baselineScore := c.baseline.metrics.score, candidateScore := c.candidate.metrics.score,
    baselineLatencyMs := c.baseline.totalComputeTimeMs,
    candidateLatencyMs := c.candidate.totalComputeTimeMs, latencyDriftMs, outputDriftBps,
    isViolation := !violationReasons.isEmpty, violationReasons }

inductive CanaryTask where
  | spawned
  /-- has read the configuration that was installed as the `version`th -/
  | evaluating (config : CanaryConfig) (version : ℕ)
  /-- holds the history, and is about to switch the canary off -/
  | switching (version : ℕ)
  | ended
deriving DecidableEq

/-- The state that the tasks share. `version` counts the installed configurations, and `log` has every
evaluation, the newest first, with the version of its configuration; the source has neither. -/
structure Canary where
  config : CanaryConfig
  history : List CanaryEvaluation
  tasks : List CanaryTask
  version : ℕ
  log : List (CanaryEvaluation × ℕ)

def historyCapacity : ℕ := 1000

inductive CanaryChoice where
  /-- a request for routes -/
  | request
  /-- a task reads the configuration; `rate` is the fraction it draws from the clock -/
  | read (i : ℕ) (rate : F64)
  /-- a task records its evaluation, unless the candidate policy failed -/
  | record (i : ℕ) (comparison : Option Comparison)
  | switchOff (i : ℕ)
  | updateConfig (config : CanaryConfig)

namespace Canary

def new : Canary := ⟨.default, [], [], 0, []⟩

/-- The number of violations among the newest evaluations. -/
def recentViolations (threshold : ℕ) (history : List CanaryEvaluation) : ℕ :=
  ((BoundedQueue.recent threshold history).filter (·.isViolation)).length

/-- Some task holds the lock of the history. -/
def historyHeld (s : Canary) : Bool :=
  s.tasks.any fun
    | .switching _ => true
    | _ => false

/-- A canary that is off, or a request that is not sampled, ends the task. -/
def read (s : Canary) (i : ℕ) (rate : F64) : Canary :=
  if s.config.enabled = false ∨ rate.gt s.config.evaluationRate then
    { s with tasks := s.tasks.set i .ended }
  else { s with tasks := s.tasks.set i (.evaluating s.config s.version) }

def record (s : Canary) (i version : ℕ) (config : CanaryConfig) (evaluation : CanaryEvaluation) :
    Canary :=
  let history := BoundedQueue.push historyCapacity s.history evaluation
  let threshold := config.rollbackTriggerThreshold.toNat
  let task : CanaryTask :=
    if evaluation.isViolation = true ∧ threshold ≤ recentViolations threshold history then
      .switching version
    else .ended
  { s with history, tasks := s.tasks.set i task, log := (evaluation, version) :: s.log }

def switchOff (s : Canary) (i : ℕ) : Canary :=
  { s with config := { s.config with enabled := false }, tasks := s.tasks.set i .ended }

def updateConfig (s : Canary) (config : CanaryConfig) : Canary :=
  { s with config, version := s.version + 1 }

def step (drift : ℤ → ℤ → ℤ) (s : Canary) : CanaryChoice → Canary
  | .request => { s with tasks := s.tasks ++ [.spawned] }
  | .read i rate =>
    match s.tasks[i]? with
    | some .spawned => s.read i rate
    | _ => s
  | .record i comparison =>
    match s.tasks[i]?, comparison with
    | some (.evaluating _ _), none => { s with tasks := s.tasks.set i .ended }
    | some (.evaluating config version), some comparison =>
      if s.historyHeld then s else s.record i version config (config.evaluate drift comparison)
    | _, _ => s
  | .switchOff i =>
    match s.tasks[i]? with
    | some (.switching _) => s.switchOff i
    | _ => s
  | .updateConfig config => s.updateConfig config

end Canary

end StellarRoute.Routes
