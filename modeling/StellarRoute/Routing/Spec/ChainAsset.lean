import StellarRoute.Lib.Guard
import StellarRoute.Lib.Text

/-! Chain-scoped asset identifiers (`chain_asset.rs`) and the routing errors
(`error.rs`). -/

namespace StellarRoute.Routing

open Lib

inductive RoutingError where
  | noRoute (source destination : String)
  | insufficientLiquidity (msg : String)
  | invalidAmount (msg : String)
  | invalidPair (msg : String)
  | invalidAsset (msg : String)
  | normalization (msg : String)
  | decimalPrecision (msg : String)
  | overflow
  | duplicateScorer (msg : String)
  | unknownScorer (msg : String)
deriving DecidableEq

abbrev Result := Except RoutingError

def SLIP44_BTC : ℕ := 0
def SLIP44_ETH : ℕ := 60
def SLIP44_XLM : ℕ := 148
def SLIP44_TRX : ℕ := 195
def SLIP44_SOL : ℕ := 501

def STELLAR_ISSUER_ALPHABET : String := "ABCDEFGHIJKLMNOPQRSTUVWXYZ234567"
def BASE58_ALPHABET : String := "123456789ABCDEFGHJKLMNPQRSTUVWXYZabcdefghijkmnopqrstuvwxyz"

inductive ChainId where
  | stellar (network : String)
  | eip155 (chainId : ℕ)
  | solana (cluster : String)
  | bitcoin (genesisHash : String)
  | tron (network : String)
deriving DecidableEq

inductive AssetReference where
  | native
  | stellarCredit (code issuer : String)
  | erc20 (address : String)
  | splToken (mint : String)
  | trc20 (address : String)
deriving DecidableEq

structure ChainAsset where
  chain : ChainId
  asset : AssetReference
deriving DecidableEq

def normalizeStellarCode (code : String) : Result String :=
  if code.isEmpty || byteLen code > 12 || !code.toList.all Char.isAlphanum then
    .error (.invalidAsset s!"invalid stellar asset code: {code}")
  else .ok (toAsciiUppercase code)

/-- `G` and 55 base32 characters; the checksum is not verified. -/
def validateStellarIssuer (issuer : String) : Result String :=
  if byteLen issuer ≠ 56 || issuer.toList.head? ≠ some 'G' then
    .error (.invalidAsset s!"invalid stellar issuer (expected G… length 56): {issuer}")
  else if !(issuer.toList.drop 1).all (STELLAR_ISSUER_ALPHABET.toList.contains ·) then
    .error (.invalidAsset s!"invalid stellar issuer alphabet: {issuer}")
  else .ok issuer

def validateErc20Address (address : String) : Result String :=
  let lower := toAsciiLowercase address
  if !("0x".toList.isPrefixOf lower.toList && byteLen lower == 42 &&
      (lower.toList.drop 2).all isAsciiHexdigit) then
    .error (.invalidAsset s!"invalid erc20 address (expected 0x + 40 hex): {address}")
  else .ok lower

def validateBip122Genesis (reference : String) : Result Unit :=
  if byteLen reference ≠ 64 || !reference.toList.all isAsciiHexdigit then
    .error (.invalidAsset
      s!"invalid bip122 genesis hash (expected 64 hex chars): {reference}")
  else .ok ()

def validateSolanaAddress (address : String) : Result String :=
  if byteLen address < 32 || byteLen address > 44 then
    .error (.invalidAsset s!"invalid solana address length: {address}")
  else if !address.toList.all (BASE58_ALPHABET.toList.contains ·) then
    .error (.invalidAsset s!"invalid solana address alphabet: {address}")
  else .ok address

def validateTronAddress (address : String) : Result String :=
  if byteLen address ≠ 34 || address.toList.head? ≠ some 'T' then
    .error (.invalidAsset s!"invalid tron address (expected T… length 34): {address}")
  else if !address.toList.all (BASE58_ALPHABET.toList.contains ·) then
    .error (.invalidAsset s!"invalid tron address alphabet: {address}")
  else .ok address

namespace ChainId

def nativeSlip44 : ChainId → ℕ
  | bitcoin _ => SLIP44_BTC
  | eip155 _ => SLIP44_ETH
  | stellar _ => SLIP44_XLM
  | tron _ => SLIP44_TRX
  | solana _ => SLIP44_SOL

def toCaip2 : ChainId → String
  | stellar network => s!"stellar:{network}"
  | eip155 chainId => s!"eip155:{chainId}"
  | solana cluster => s!"solana:{cluster}"
  | bitcoin genesisHash => s!"bip122:{genesisHash}"
  | tron network => s!"tron:{network}"

def parseCaip2 (input : String) : Result ChainId := do
  let (ns, reference) ← okOr (splitOnce input ':') (.invalidAsset s!"invalid chain id: {input}")
  match ns with
  | "stellar" =>
    let network := toAsciiLowercase reference
    require (network = "pubnet" ∨ network = "testnet")
      (.invalidAsset s!"unsupported stellar network: {reference}")
    pure (stellar network)
  | "eip155" =>
    let chainId ← okOr (parseDecimal (2 ^ 64) reference)
      (.invalidAsset s!"invalid eip155 chain id: {reference}")
    pure (eip155 chainId)
  | "solana" =>
    let cluster := toAsciiLowercase reference
    require (cluster = "mainnet" ∨ cluster = "devnet" ∨ cluster = "testnet")
      (.invalidAsset s!"unsupported solana cluster label: {reference}")
    pure (solana cluster)
  | "bip122" =>
    validateBip122Genesis reference
    pure (bitcoin (toAsciiLowercase reference))
  | "tron" =>
    let network := toAsciiLowercase reference
    require (network = "mainnet" ∨ network = "nile" ∨ network = "shasta")
      (.invalidAsset s!"unsupported tron network label: {reference}")
    pure (tron network)
  | other => throw (.invalidAsset s!"unsupported chain namespace: {other}")

end ChainId

def assetKindName : AssetReference → String
  | .native => "native"
  | .stellarCredit _ _ => "stellar_credit"
  | .erc20 _ => "erc20"
  | .splToken _ => "spl_token"
  | .trc20 _ => "trc20"

namespace AssetReference

def parseForChain (chain : ChainId) (assetNamespace assetReference : String) :
    Result AssetReference := do
  match assetNamespace with
  | "slip44" =>
    let slip44 ← okOr (parseDecimal (2 ^ 32) assetReference)
      (.invalidAsset s!"invalid slip44 coin type: {assetReference}")
    let expected := chain.nativeSlip44
    let id := chain.toCaip2
    require (slip44 = expected) (.invalidAsset
      s!"slip44:{slip44} is not valid for chain {id} (expected slip44:{expected})")
    pure native
  | "native" =>
    throw (.invalidAsset "bare 'native' asset namespace is not allowed; use slip44:<coin_type>")
  | "stellar" =>
    match chain with
    | .stellar _ =>
      let (code, issuer) ← okOr (splitOnce assetReference ':')
        (.invalidAsset s!"stellar asset requires CODE:ISSUER, got: {assetReference}")
      let code ← normalizeStellarCode code
      let issuer ← validateStellarIssuer issuer
      pure (stellarCredit code issuer)
    | _ => throw (.invalidAsset "stellar credit assets require a stellar:* chain id")
  | "erc20" =>
    match chain with
    | .eip155 _ =>
      let address ← validateErc20Address assetReference
      pure (erc20 address)
    | _ => throw (.invalidAsset "erc20 assets require an eip155:* chain id")
  | "token" =>
    match chain with
    | .solana _ =>
      let mint ← validateSolanaAddress assetReference
      pure (splToken mint)
    | _ => throw (.invalidAsset "solana token assets require a solana:* chain id")
  | "trc20" =>
    match chain with
    | .tron _ =>
      let address ← validateTronAddress assetReference
      pure (trc20 address)
    | _ => throw (.invalidAsset "trc20 assets require a tron:* chain id")
  | other => throw (.invalidAsset s!"unsupported asset namespace: {other}")

end AssetReference

namespace ChainAsset

def validate (a : ChainAsset) : Result Unit := do
  match a.chain, a.asset with
  | _, .native => pure ()
  | .stellar _, .stellarCredit code issuer =>
    let _ ← normalizeStellarCode code
    let _ ← validateStellarIssuer issuer
  | .eip155 _, .erc20 address =>
    let _ ← validateErc20Address address
  | .solana _, .splToken mint =>
    let _ ← validateSolanaAddress mint
  | .tron _, .trc20 address =>
    let _ ← validateTronAddress address
  | chain, asset =>
    let kind := assetKindName asset
    let id := chain.toCaip2
    throw (.invalidAsset s!"asset kind \"{kind}\" is incompatible with chain {id}")

def parse (input : String) : Result ChainAsset := do
  let input := trim input
  require (input ≠ "") (.invalidAsset "asset identifier is empty")
  let (caip2, assetPart) ← okOr (splitOnce input '/')
    (.invalidAsset s!"expected chain/asset form, got: {input}")
  let chain ← ChainId.parseCaip2 caip2
  require ((eqIgnoreAsciiCase assetPart "native" || eqIgnoreAsciiCase assetPart "slip44:native")
      = false)
    (.invalidAsset "slip44:native / bare native are not allowed; use slip44:<coin_type>")
  let (assetNamespace, assetReference) ← okOr (splitOnce assetPart ':')
    (.invalidAsset s!"expected asset_namespace:reference, got: {assetPart}")
  let asset ← AssetReference.parseForChain chain assetNamespace assetReference
  let parsed : ChainAsset := ⟨chain, asset⟩
  parsed.validate
  pure parsed

end ChainAsset

end StellarRoute.Routing
