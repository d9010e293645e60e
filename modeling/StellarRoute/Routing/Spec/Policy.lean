import StellarRoute.Routing.Spec.ChainAsset

/-! Bridge metadata and provider rules (`cross_chain.rs`), and the routing
policy with its check of a finished route (`policy.rs`). The slippage settings
of the policy play no part in path search and are left out. -/

namespace StellarRoute.Routing

open Lib

structure BridgeEdgeMeta where
  provider : Option String
  sourceChain : Option String
  destinationChain : Option String
deriving DecidableEq

def BridgeEdgeMeta.validateAgainstEndpoints (m : BridgeEdgeMeta) (fromAsset toAsset : String) :
    Result Unit := do
  let source ← ChainAsset.parse fromAsset
  let target ← ChainAsset.parse toAsset
  let sourceChain ← okOr m.sourceChain (.invalidAsset "bridge metadata missing source_chain")
  let destChain ← okOr m.destinationChain
    (.invalidAsset "bridge metadata missing destination_chain")
  let sourceId := source.chain.toCaip2
  let targetId := target.chain.toCaip2
  require (sourceChain = sourceId) (.invalidAsset
    s!"bridge source_chain {sourceChain} does not match from asset chain {sourceId}")
  require (destChain = targetId) (.invalidAsset
    s!"bridge destination_chain {destChain} does not match to asset chain {targetId}")

def isBridgeEdge (venueType : String) (bridge : Option BridgeEdgeMeta) : Bool :=
  eqIgnoreAsciiCase venueType "bridge" || bridge.isSome

structure ProviderPolicy where
  allowlist : List String
  denylist : List String
  killSwitches : String → Option Bool

def ProviderPolicy.isProviderAllowed (p : ProviderPolicy) (provider : Option String) : Bool :=
  match provider with
  | none => true
  | some provider =>
    if (p.killSwitches provider).getD false then false
    else if !p.allowlist.isEmpty && !p.allowlist.contains provider then false
    else !p.denylist.contains provider

structure RoutingPolicy where
  maxHops : ℕ
  venueAllowlist : List String
  venueDenylist : List String
  assetDenylist : List String
  providerPolicy : ProviderPolicy
  allowBridgeEdges : Bool

/-- What the policy sees of a hop. -/
structure RouteHop where
  venueType : String
  asset : String
  provider : Option String
  bridge : Option BridgeEdgeMeta

structure RouteDiagnostic where
  routeId : String
  reason : String

namespace RoutingPolicy

def isVenueAllowed (p : RoutingPolicy) (venueType : String) : Bool :=
  if !p.venueAllowlist.isEmpty && !p.venueAllowlist.contains venueType then false
  else !p.venueDenylist.contains venueType

def isAssetAllowed (p : RoutingPolicy) (asset : String) : Bool := !p.assetDenylist.contains asset

def isProviderAllowed (p : RoutingPolicy) (provider : Option String) : Bool :=
  p.providerPolicy.isProviderAllowed provider

def shouldExcludeRoute (p : RoutingPolicy) (routeId : String) :
    List RouteHop → Option RouteDiagnostic
  | [] => none
  | hop :: hops =>
    if isBridgeEdge hop.venueType hop.bridge && !p.allowBridgeEdges then
      some ⟨routeId, "Excluded bridge: settlement not executable"⟩
    else if !p.isVenueAllowed hop.venueType then
      let venueType := hop.venueType
      some ⟨routeId, s!"Excluded venue: {venueType}"⟩
    else if !p.isAssetAllowed hop.asset then
      let asset := hop.asset
      some ⟨routeId, s!"Excluded asset: {asset}"⟩
    else if !p.isProviderAllowed hop.provider then
      let provider := hop.provider.getD "<none>"
      some ⟨routeId, s!"Excluded provider: {provider}"⟩
    else p.shouldExcludeRoute routeId hops

def AllowsHop (p : RoutingPolicy) (hop : RouteHop) : Prop :=
  (isBridgeEdge hop.venueType hop.bridge = true → p.allowBridgeEdges = true) ∧
    p.isVenueAllowed hop.venueType = true ∧ p.isAssetAllowed hop.asset = true ∧
    p.isProviderAllowed hop.provider = true

theorem shouldExcludeRoute_eq_none {p : RoutingPolicy} {routeId : String} {hops : List RouteHop} :
    p.shouldExcludeRoute routeId hops = none ↔ ∀ hop ∈ hops, p.AllowsHop hop := by
  induction hops with
  | nil => simp [shouldExcludeRoute]
  | cons hop hops ih =>
    rw [List.forall_mem_cons, ← ih, AllowsHop, shouldExcludeRoute]
    split_ifs with hbridge hvenue hasset hprovider <;> simp_all

end RoutingPolicy

end StellarRoute.Routing
