import StellarRoute.Lib.Double
import StellarRoute.Routing.Spec.Pathfinder

/-! What the optimizer (`optimizer.rs`) reports about the routes it chose. Scores are doubles. -/

namespace StellarRoute.Routing

open Lib

inductive RiskReason where
  | maxExposureExceeded
  | maxImpactExceeded
  | liquidityBelowFloor
  | assetBlacklisted
  | liquidityAnomaly
  | providerKillSwitch
deriving DecidableEq

structure RouteExclusion where
  asset : String
  reason : RiskReason
  limitValue : ℤ
  actualValue : ℤ
deriving DecidableEq

structure OptimizerPolicy where
  outputWeight : F64
  impactWeight : F64
  latencyWeight : F64
  maxImpactBps : UInt32
  maxComputeTimeMs : ℕ
  environment : String
  scorer : Option String
deriving DecidableEq

structure RouteMetrics where
  outputAmount : I128
  impactBps : UInt32
  computeTimeUs : ℕ
  hopCount : ℕ
  score : F64
deriving DecidableEq

structure OptimizerDiagnostics where
  selectedPath : SwapPath
  metrics : RouteMetrics
  alternatives : List (SwapPath × RouteMetrics)
  policy : OptimizerPolicy
  totalComputeTimeMs : UInt64
  excludedRoutes : List RouteExclusion

end StellarRoute.Routing
