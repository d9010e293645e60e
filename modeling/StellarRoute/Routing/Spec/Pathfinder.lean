import StellarRoute.Lib.MachineInt
import StellarRoute.Lib.Search
import StellarRoute.Routing.Spec.Policy

/-! Path search (`pathfinder.rs`). A price is kept as the bits of its double. -/

namespace StellarRoute.Routing

open Lib

structure PathfinderConfig where
  minLiquidityThreshold : I128

structure LiquidityEdge where
  fromAsset : String
  toAsset : String
  venueType : String
  venueRef : String
  liquidity : I128
  price : UInt64
  feeBps : UInt32
  provider : Option String
  bridge : Option BridgeEdgeMeta
deriving DecidableEq

structure PathHop where
  sourceAsset : String
  destinationAsset : String
  venueType : String
  venueRef : String
  price : UInt64
  feeBps : UInt32
  provider : Option String
  bridge : Option BridgeEdgeMeta
deriving DecidableEq

structure SwapPath where
  hops : List PathHop
  estimatedOutput : I128
deriving DecidableEq

/-- The provider of an edge or hop, or else that of its bridge metadata. -/
def providerOr (provider : Option String) (bridge : Option BridgeEdgeMeta) : Option String :=
  provider <|> bridge.bind (·.provider)

variable (cfg : PathfinderConfig)

def keepsEdge (policy : RoutingPolicy) (e : LiquidityEdge) : Bool :=
  if isBridgeEdge e.venueType e.bridge && !policy.allowBridgeEdges then false
  else if e.bridge.any fun b =>
      (b.validateAgainstEndpoints e.fromAsset e.toAsset).toOption.isNone then false
  else if !policy.isVenueAllowed e.venueType then false
  else if !policy.isProviderAllowed (providerOr e.provider e.bridge) then false
  else if e.liquidity < cfg.minLiquidityThreshold then false
  else true

/-- The outgoing edges of each asset. -/
abbrev Graph := String → List LiquidityEdge

def buildGraph (edges : List LiquidityEdge) (policy : RoutingPolicy) : Graph :=
  edges.foldl (fun graph e =>
    if keepsEdge cfg policy e then
      Function.update graph e.fromAsset (graph e.fromAsset ++ [e])
    else graph) fun _ => []

/-- An entry of the search queue. -/
structure SearchNode where
  current : String
  hops : List PathHop
  visited : List String
  estimatedOutput : I128

def LiquidityEdge.toHop (e : LiquidityEdge) : PathHop where
  sourceAsset := e.fromAsset
  destinationAsset := e.toAsset
  venueType := e.venueType
  venueRef := e.venueRef
  price := e.price
  feeBps := e.feeBps
  provider := e.provider
  bridge := e.bridge

def estimatedAfterHop (estimatedOutput : I128) : I128 :=
  (estimatedOutput.saturatingMul 9950).divPos 10000

def SearchNode.follow (n : SearchNode) (e : LiquidityEdge) : SearchNode where
  current := e.toAsset
  hops := n.hops ++ [e.toHop]
  visited := e.toAsset :: n.visited
  estimatedOutput := estimatedAfterHop n.estimatedOutput

/-- One turn of the loop: the depth is checked before the target. -/
def bfsVisit (graph : Graph) (target : String) (maxHops : ℕ) (n : SearchNode) :
    List SwapPath × List SearchNode :=
  if n.hops.length ≥ maxHops then ([], [])
  else if n.current = target then ([⟨n.hops, n.estimatedOutput⟩], [])
  else ([], ((graph n.current).filter fun e => !n.visited.contains e.toAsset).map n.follow)

/-- The loop `while let Some(..) = queue.pop_front()`, for at most `fuel` turns. -/
def bfsPaths (fuel : ℕ) (graph : Graph) (source target : String) (amountIn : I128)
    (maxHops : ℕ) : Option (List SwapPath) :=
  worklist (bfsVisit graph target maxHops) fuel [⟨source, [], [source], amountIn⟩] []

/-- Turns after which the queue is empty (`bfsPaths_perm`). -/
def searchFuel (edges : List LiquidityEdge) (policy : RoutingPolicy) : ℕ :=
  (edges.length + 1) ^ policy.maxHops

def PathHop.toRouteHop (h : PathHop) : RouteHop where
  venueType := h.venueType
  asset := h.destinationAsset
  provider := providerOr h.provider h.bridge
  bridge := h.bridge

def filterPaths (policy : RoutingPolicy) (paths : List SwapPath) : List SwapPath :=
  paths.zipIdx.filterMap fun (path, idx) =>
    match policy.shouldExcludeRoute s!"route_{idx}" (path.hops.map PathHop.toRouteHop) with
    | some _ => none
    | none => some path

def findPaths (source target : String) (edges : List LiquidityEdge) (amountIn : I128)
    (policy : RoutingPolicy) : Result (List SwapPath) := do
  require (¬ (source.isEmpty ∨ target.isEmpty)) (.invalidPair "source or destination is empty")
  require (source ≠ target) (.invalidPair "source and destination must differ")
  require (0 < amountIn) (.invalidAmount "amount_in must be positive")
  let graph := buildGraph cfg edges policy
  let rawPaths :=
    (bfsPaths (searchFuel edges policy) graph source target amountIn policy.maxHops).getD []
  require (rawPaths ≠ []) (.noRoute source target)
  let filtered := filterPaths policy rawPaths
  require (filtered ≠ []) (.noRoute source target)
  pure filtered

end StellarRoute.Routing
