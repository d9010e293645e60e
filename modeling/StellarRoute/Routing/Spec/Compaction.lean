import StellarRoute.Routing.Spec.Pathfinder

/-! The compacted graph (`compaction.rs`): assets are interned, and the edges
lie in one array, those of an asset between two consecutive offsets. -/

namespace StellarRoute.Routing

open Lib

structure CompactedEdge where
  toIdx : UInt32
  venueType : String
  venueTypeIdx : UInt8
  venueRef : String
  liquidity : I128
  price : UInt64
  feeBps : UInt32
  anomalyScore : UInt32
  provider : Option String
  bridge : Option BridgeEdgeMeta

def CompactedEdge.resolvedVenueType (c : CompactedEdge) : String :=
  if c.venueType ≠ "" then c.venueType
  else match c.venueTypeIdx with
    | 1 => "amm"
    | 2 => "bridge"
    | 0 => "sdex"
    | _ => "unknown"

def venueTypeIdxFor (venueType : String) (bridge : Option BridgeEdgeMeta) : UInt8 :=
  if eqIgnoreAsciiCase venueType "amm" then 1
  else if eqIgnoreAsciiCase venueType "bridge" || bridge.isSome then 2
  else if eqIgnoreAsciiCase venueType "sdex" then 0
  else 255

structure CompactedGraph where
  assets : List String
  assetMap : String → Option UInt32
  edges : List CompactedEdge
  offsets : List ℕ

/-- The interned assets while the first pass runs. -/
structure Interner where
  assets : List String
  assetMap : String → Option UInt32

def Interner.getAssetIdx (t : Interner) (asset : String) : Interner :=
  match t.assetMap asset with
  | some _ => t
  | none =>
    { assets := t.assets ++ [asset]
      assetMap := Function.update t.assetMap asset (some (UInt32.ofNat t.assets.length)) }

def internAssets (edges : List LiquidityEdge) : Interner :=
  edges.foldl (fun t e => (t.getAssetIdx e.fromAsset).getAssetIdx e.toAsset) ⟨[], fun _ => none⟩

def LiquidityEdge.compact (e : LiquidityEdge) (toIdx : UInt32) : CompactedEdge where
  toIdx := toIdx
  venueType := e.venueType
  venueTypeIdx := venueTypeIdxFor e.venueType e.bridge
  venueRef := e.venueRef
  liquidity := e.liquidity
  price := e.price
  feeBps := e.feeBps
  anomalyScore := 0
  provider := e.provider
  bridge := e.bridge

/-- The second pass; `none` stands for the panic of `unwrap` on an unknown asset. -/
def groupEdges (assetMap : String → Option UInt32) (edges : List LiquidityEdge) :
    Option (UInt32 → List CompactedEdge) :=
  edges.foldlM (fun grouped e => do
    let fromIdx ← assetMap e.fromAsset
    let toIdx ← assetMap e.toAsset
    pure (Function.update grouped fromIdx (grouped fromIdx ++ [e.compact toIdx]))) fun _ => []

/-- The edges, their offsets and the groups not yet taken, while the edges are laid out. -/
structure Layout where
  finalEdges : List CompactedEdge
  offsets : List ℕ
  grouped : UInt32 → List CompactedEdge

def Layout.append (l : Layout) (i : ℕ) : Layout where
  finalEdges := l.finalEdges ++ l.grouped (UInt32.ofNat i)
  offsets := l.offsets ++ [l.finalEdges.length]
  grouped := Function.update l.grouped (UInt32.ofNat i) []

def CompactedGraph.fromEdges (edges : List LiquidityEdge) : Option CompactedGraph := do
  let t := internAssets edges
  let grouped ← groupEdges t.assetMap edges
  let l := (List.range t.assets.length).foldl Layout.append ⟨[], [], grouped⟩
  pure
    { assets := t.assets
      assetMap := t.assetMap
      edges := l.finalEdges
      offsets := l.offsets ++ [l.finalEdges.length] }

/-- `&xs[start..stop]`, which panics outside the array. -/
def slice {α : Type} (xs : List α) (start stop : ℕ) : Option (List α) :=
  if start ≤ stop ∧ stop ≤ xs.length then some ((xs.drop start).take (stop - start)) else none

def CompactedEdge.expand (c : CompactedEdge) (fromAsset toAsset : String) : LiquidityEdge where
  fromAsset := fromAsset
  toAsset := toAsset
  venueType := c.resolvedVenueType
  venueRef := c.venueRef
  liquidity := c.liquidity
  price := c.price
  feeBps := c.feeBps
  provider := c.provider
  bridge := c.bridge

/-- `none` stands for an index out of bounds. -/
def CompactedGraph.toEdges (g : CompactedGraph) : Option (List LiquidityEdge) :=
  g.assets.zipIdx.foldlM (fun edges (fromAsset, fromIdx) => do
    let start ← g.offsets[fromIdx]?
    let stop ← g.offsets[fromIdx + 1]?
    let compacted ← slice g.edges start stop
    compacted.foldlM (fun edges c => do
      let toAsset ← g.assets[c.toIdx.toNat]?
      pure (edges ++ [c.expand fromAsset toAsset])) edges) []

end StellarRoute.Routing
