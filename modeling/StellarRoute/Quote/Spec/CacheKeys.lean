import Mathlib.Data.List.SplitOn
import Mathlib.Data.String.Basic
import StellarRoute.Lib.Double
import StellarRoute.Lib.Keys
import StellarRoute.Routing.Spec.ChainAsset

/-! The keys under which quotes are cached and shared: asset paths
(`models/request.rs`), their normal form (`routing/src/lib.rs`,
`chain_asset.rs`) and the key builders of `cache/mod.rs`. -/

namespace StellarRoute.Quote

open Lib

/-- What the standard library does to texts beyond ASCII and to numbers. -/
structure TextOps where
  toLowercase : String → String
  toUppercase : String → String
  parseF64 : String → Option F64
  /-- with seven decimals -/
  formatF64 : F64 → String
  lower_ascii : ∀ s, (∀ c ∈ s.toList, c.toNat < 128) → toLowercase s = toAsciiLowercase s
  upper_ascii : ∀ s, (∀ c ∈ s.toList, c.toNat < 128) → toUppercase s = toAsciiUppercase s
  /-- a sign, digits and a point, or one of `inf` and `NaN` -/
  format_chars : ∀ x, ∀ c ∈ (formatF64 x).toList, c.isDigit ∨ c ∈ "-.infNa".toList
  /-- a number read back from its text has the same text -/
  reparse : ∀ x y, parseF64 (formatF64 x) = some y → formatF64 y = formatF64 x

/-! ### Asset paths -/

structure AssetPath where
  assetCode : String
  assetIssuer : Option String
deriving DecidableEq

namespace AssetPath

def parse (s : String) : Except String AssetPath :=
  let trimmed := trim s
  if trimmed = "" then .error "Asset identifier cannot be empty"
  else if eqIgnoreAsciiCase trimmed "native" || eqIgnoreAsciiCase trimmed "XLM" then
    .ok ⟨"native", none⟩
  else
    match (trimmed.toList.splitOn ':').map String.ofList with
    | [code] =>
      if code = "" then .error s!"Asset code cannot be empty: {s}"
      -- the case is kept: codes of Stellar assets are case-sensitive
      else .ok ⟨code, none⟩
    | [code, issuer] =>
      if code = "" ∨ issuer = "" then .error s!"Asset code and issuer cannot be empty: {s}"
      else .ok ⟨code, some issuer⟩
    | _ => .error s!"Invalid asset format: {s}"

def toCanonical (a : AssetPath) : String :=
  if a.assetCode = "native" then "native"
  else
    match a.assetIssuer with
    | some issuer => a.assetCode ++ ":" ++ issuer
    | none => a.assetCode

end AssetPath

/-! ### Normal forms -/

open Routing (ChainAsset AssetReference ChainId)

def assetCaip19Suffix (chain : ChainId) : AssetReference → String
  | .native => s!"slip44:{chain.nativeSlip44}"
  | .stellarCredit code issuer => s!"stellar:{code}:{issuer}"
  | .erc20 address => s!"erc20:{address}"
  | .splToken mint => s!"token:{mint}"
  | .trc20 address => s!"trc20:{address}"

def chainAssetCanonical (a : ChainAsset) : String :=
  a.chain.toCaip2 ++ "/" ++ assetCaip19Suffix a.chain a.asset

def fromStellarLegacy (legacy : String) : Routing.Result ChainAsset := do
  let trimmed := trim legacy
  require (trimmed ≠ "") (.invalidAsset "asset identifier is empty")
  let lower := toAsciiLowercase trimmed
  if lower = "native" || lower = "xlm" then return ⟨.stellar "pubnet", .native⟩
  match splitOnce trimmed ':' with
  | some (code, issuer) =>
    let code ← Routing.normalizeStellarCode code
    let issuer ← Routing.validateStellarIssuer issuer
    return ⟨.stellar "pubnet", .stellarCredit code issuer⟩
  | none =>
    require (!trimmed.toList.all Char.isAlphanum) (.invalidAsset
      s!"stellar issued asset requires issuer (CODE:ISSUER), got: {legacy}")
    throw (.invalidAsset s!"unrecognized stellar legacy asset: {legacy}")

def CHAIN_NAMESPACES : List String := ["stellar:", "eip155:", "solana:", "bip122:", "tron:"]

def looksLikeCaip (input : String) : Bool :=
  CHAIN_NAMESPACES.any fun ns => ns.toList.isPrefixOf (toAsciiLowercase input).toList

def canonicalizeAssetId (input : String) : Routing.Result String := do
  let trimmed := trim input
  require (trimmed ≠ "") (.invalidAsset "asset identifier is empty")
  let asset ← if looksLikeCaip trimmed then ChainAsset.parse trimmed else fromStellarLegacy trimmed
  return chainAssetCanonical asset

def TextOps.normalizeAsset (ops : TextOps) (asset : String) : String :=
  let lower := ops.toLowercase asset
  if lower = "xlm" || lower = "native" then "native" else ops.toUppercase lower

def TextOps.canonicalizeForV1Cache (ops : TextOps) (input : String) : Routing.Result String :=
  if looksLikeCaip input then canonicalizeAssetId input else .ok (ops.normalizeAsset input)

/-! ### Keys -/

inductive QuoteType where
  | sell
  | buy
deriving DecidableEq

def QuoteType.text : QuoteType → String
  | .sell => "sell"
  | .buy => "buy"

namespace Keys

variable (ops : TextOps)

/-- A malformed chain-scoped id fails closed to a reserved text. -/
def normalizeAsset (asset : String) : String :=
  match ops.canonicalizeForV1Cache asset with
  | .ok v => v
  | .error _ => "__invalid_chain_asset__"

def normalizeAmount (amount : String) : String :=
  match ops.parseF64 amount with
  | some val => ops.formatF64 val
  | none => amount

def quote (base quote amount : String) (slippageBps : UInt32) (quoteType : String)
    (explain : Bool) : String :=
  "v2:quote:" ++ normalizeAsset ops base ++ ":" ++ normalizeAsset ops quote ++ ":" ++
    normalizeAmount ops amount ++ ":" ++ toString slippageBps.toNat ++ ":" ++ quoteType ++ ":" ++
    toString explain

def normalizePairAssets (a b : String) : String × String :=
  let na := normalizeAsset ops a
  let nb := normalizeAsset ops b
  if na ≤ nb then (na, nb) else (nb, na)

def liquidityRevision (base quote : String) : String :=
  let (normBase, normQuote) := normalizePairAssets ops base quote
  "liquidity:revision:" ++ normBase ++ ":" ++ normQuote

def quotePairPattern (base quote : String) : String :=
  let (normBase, normQuote) := normalizePairAssets ops base quote
  "*quote:" ++ normBase ++ ":" ++ normQuote ++ ":*"

end Keys

/-- What a quote is asked for, as `get_quote_inner` has it. -/
structure QuoteRequest where
  base : AssetPath
  quote : AssetPath
  amount : F64
  slippageBps : UInt32
  quoteType : QuoteType
  explain : Bool
deriving DecidableEq

/-- The key that cached answers and computations in flight are shared by. -/
def QuoteRequest.cacheKey (ops : TextOps) (r : QuoteRequest) : String :=
  Keys.quote ops r.base.toCanonical r.quote.toCanonical (ops.formatF64 r.amount) r.slippageBps
    r.quoteType.text r.explain

end StellarRoute.Quote
