import StellarRoute.Lib.Double
import StellarRoute.Lib.Guard
import StellarRoute.Lib.HashMap
import StellarRoute.Lib.MachineInt
import StellarRoute.Lib.Text

/-! The SDEX indexer (`sdex.rs`, `partition.rs`, `models/offer.rs`): offers that Horizon returns are
validated, those of the instance's partition are written to `sdex_offers`, in pages when it polls and
one by one when it streams. Amounts and prices of a row are in units of `10 ^ -14`, the scale of
their columns. -/

namespace StellarRoute.Indexer

open Lib

inductive IndexerError where
  | databaseQuery (e : String)
  | stellarApi (endpoint : String) (status : ℕ) (message : String)
  | rateLimitExceeded (retryAfter : Option ℕ)
  | sorobanRpc (message : String)
  | invalidAsset (asset reason : String)
  | invalidOffer (offerId reason : String)
  | numericParse (value expectedType : String)
  | missingField (field context : String)
deriving DecidableEq

inductive Asset where
  | native
  | creditAlphanum4 (assetCode assetIssuer : String)
  | creditAlphanum12 (assetCode assetIssuer : String)
deriving DecidableEq

/-- Type, code and issuer. -/
abbrev AssetKey := String × Option String × Option String

def Asset.key : Asset → AssetKey
  | .native => ("native", none, none)
  | .creditAlphanum4 code issuer => ("credit_alphanum4", some code, some issuer)
  | .creditAlphanum12 code issuer => ("credit_alphanum12", some code, some issuer)

/-- The texts under these names in the JSON of an asset. -/
structure HorizonAsset where
  assetType : Option String
  assetCode : Option String
  assetIssuer : Option String
deriving DecidableEq

structure HorizonPriceR where
  n : ℤ
  d : ℤ
deriving DecidableEq

structure HorizonOffer where
  id : String
  pagingToken : Option String
  seller : String
  selling : HorizonAsset
  buying : HorizonAsset
  amount : String
  price : String
  priceR : Option HorizonPriceR
  lastModifiedLedger : ℤ
deriving DecidableEq

structure Offer where
  id : ℕ
  seller : String
  selling : Asset
  buying : Asset
  amount : String
  priceN : SInt 32
  priceD : SInt 32
  price : String
  lastModifiedLedger : ℤ
  pagingToken : Option String
deriving DecidableEq

/-- What is taken from the standard library and from Postgres: the reading of an `f64`, the default
hasher, and the cast of a text to a column of type `numeric(30, 14)`. -/
structure SdexHost where
  parseF64 : String → Option F64
  hashPair : String → ℕ
  numeric : String → Option ℤ

variable (H : SdexHost)

def creditFields (context : String) (v : HorizonAsset) : Except IndexerError (String × String) := do
  let code ← okOr v.assetCode (.missingField "asset_code" context)
  let issuer ← okOr v.assetIssuer (.missingField "asset_issuer" context)
  pure (code, issuer)

def parseAssetFromValue (v : HorizonAsset) : Except IndexerError Asset := do
  let assetType ← okOr v.assetType (.missingField "asset_type" "Horizon API asset response")
  if assetType = "native" then pure .native
  else if assetType = "credit_alphanum4" then do
    let (code, issuer) ← creditFields "credit_alphanum4 asset" v
    pure (.creditAlphanum4 code issuer)
  else if assetType = "credit_alphanum12" then do
    let (code, issuer) ← creditFields "credit_alphanum12 asset" v
    pure (.creditAlphanum12 code issuer)
  else
    throw (.invalidAsset assetType
      "Unknown asset type, expected: native, credit_alphanum4, or credit_alphanum12")

/-- A text that must be a positive number; NaN passes. -/
def checkPositive (offerId what value : String) : Except IndexerError Unit := do
  let x ← okOr (H.parseF64 value) (.numericParse value "positive number")
  require (F64.ge F64.zero x = false) (.invalidOffer offerId (what ++ " must be positive: " ++ value))

def Offer.validate (offer : Offer) : Except IndexerError Unit := do
  let id := toString offer.id
  require (offer.seller.toList.head? = some 'G' ∧ byteLen offer.seller = 56)
    (.invalidOffer id ("Invalid seller address: " ++ offer.seller))
  checkPositive H id "Amount" offer.amount
  checkPositive H id "Price" offer.price
  require (offer.priceD.toInt ≠ 0) (.invalidOffer id "Price denominator cannot be zero")
  require (offer.selling ≠ offer.buying)
    (.invalidOffer id "Selling and buying assets must be different")

def Offer.tryFrom (h : HorizonOffer) : Except IndexerError Offer := do
  let id ← okOr (parseDecimal (2 ^ 64) h.id) (.numericParse h.id "u64 offer ID")
  let selling ← parseAssetFromValue h.selling
  let buying ← parseAssetFromValue h.buying
  let offer : Offer :=
    { id, seller := h.seller, selling, buying, amount := h.amount,
      priceN := SInt.wrap 32 ((h.priceR.map (·.n)).getD 0),
      priceD := SInt.wrap 32 ((h.priceR.map (·.d)).getD 1),
      price := h.price, lastModifiedLedger := h.lastModifiedLedger, pagingToken := h.pagingToken }
  offer.validate H
  pure offer

def assetLabel (asset : Asset) : String := asset.key.2.1.getD asset.key.1

def pairKey (selling buying : Asset) : String := assetLabel selling ++ "/" ++ assetLabel buying

/-! Partitions -/

/-- With a partition count of zero the remainder would panic. -/
structure PartitionManager where
  partitionCount : ℕ
  partitionId : ℕ
  hotVolumeThreshold : ℕ
  hotWindowSecs : ℕ
  volumeMap : HashMap String (ℕ × ℤ)
  hotAllowlist : List String
  count_pos : 0 < partitionCount

def PartitionManager.isHot (m : PartitionManager) (pair : String) (now : ℤ) : Bool :=
  m.hotAllowlist.contains pair ||
    match m.volumeMap.lookup pair with
    | some (volume, updatedAt) =>
      decide (m.hotVolumeThreshold ≤ volume ∧ now - updatedAt ≤ (SInt.wrap 64 m.hotWindowSecs).toInt)
    | none => false

def PartitionManager.shouldProcess (m : PartitionManager) (pair : String) (now : ℤ) : Bool :=
  m.isHot pair now || H.hashPair pair % m.partitionCount = m.partitionId

/-! Tables -/

/-- A row of `sdex_offers`. -/
structure SdexRow where
  offerId : ℤ
  seller : String
  sellingAssetId : ℕ
  buyingAssetId : ℕ
  amount : ℤ
  priceN : ℤ
  priceD : ℤ
  price : ℤ
  lastModifiedLedger : ℤ
  pagingToken : Option String
deriving DecidableEq

structure SdexDb where
  assets : HashMap AssetKey ℕ
  offers : HashMap ℤ SdexRow

/-- `offer.id as i64`. -/
def Offer.rowId (offer : Offer) : ℤ := (SInt.wrap 64 offer.id).toInt

/-- `fresh` is the id of a new row, if the statement does not fail. -/
def upsertAsset (fresh : Option ℕ) (asset : Asset) (db : SdexDb) : Option (ℕ × SdexDb) :=
  fresh.map fun id =>
    match db.assets.lookup asset.key with
    | some id => (id, db)
    | none => (id, { db with assets := db.assets.insert asset.key id })

/-- The row that is written for an offer, if its amount and its price fit their columns. -/
def offerRow (offer : Offer) (sellingAssetId buyingAssetId : ℕ) : Option SdexRow := do
  let amount ← H.numeric offer.amount
  let price ← H.numeric offer.price
  pure { offerId := offer.rowId, seller := offer.seller, sellingAssetId, buyingAssetId, amount,
         priceN := offer.priceN.toInt, priceD := offer.priceD.toInt, price,
         lastModifiedLedger := offer.lastModifiedLedger, pagingToken := offer.pagingToken }

/-- The row replaces the one of the offer, whatever its ledger; `none` if the statement fails. -/
def upsertOffer (ok : Bool) (offer : Offer) (sellingAssetId buyingAssetId : ℕ) (db : SdexDb) :
    Option SdexDb := do
  guard (ok = true)
  let row ← offerRow H offer sellingAssetId buyingAssetId
  pure { db with offers := db.offers.insert row.offerId row }

/-! An offer on its way to the table -/

/-- The clock when an offer is looked at, and how the three statements for it end. -/
structure OfferEnv where
  now : ℤ
  sellingAsset : Option ℕ
  buyingAsset : Option ℕ
  upsert : Bool

/-- The offer that an instance writes, if it is valid and of its partition. -/
def accepted (m : PartitionManager) (now : ℤ) (h : HorizonOffer) : Option Offer :=
  match Offer.tryFrom H h with
  | .error _ => none
  | .ok offer => if m.shouldProcess H (pairKey offer.selling offer.buying) now then some offer else none

/-- The body of the loops of `index_offers` and `start_streaming`; whether the offer was indexed. A
statement that fails is logged, and what came before it stays. -/
def processOffer (m : PartitionManager) (env : OfferEnv) (h : HorizonOffer) (db : SdexDb) :
    Bool × SdexDb :=
  match accepted H m env.now h with
  | none => (false, db)
  | some offer =>
    match upsertAsset env.sellingAsset offer.selling db with
    | none => (false, db)
    | some (sellingAssetId, db) =>
      match upsertAsset env.buyingAsset offer.buying db with
      | none => (false, db)
      | some (buyingAssetId, db) =>
        match upsertOffer H env.upsert offer sellingAssetId buyingAssetId db with
        | none => (false, db)
        | some db => (true, db)

/-! Polling -/

def pageLimit : ℕ := 200

def maxPages : ℕ := 100

/-- The offers of a page, the `n`th offer of the pass being the first. -/
def indexPage (H : SdexHost) (m : PartitionManager) (env : ℕ → OfferEnv) :
    List HorizonOffer → ℕ → ℕ → SdexDb → ℕ × SdexDb
  | [], _, indexed, db => (indexed, db)
  | h :: page, n, indexed, db =>
    let (written, db) := processOffer H m (env n) h db
    indexPage H m env page (n + 1) (if written then indexed + 1 else indexed) db

/-- The loop of `index_offers`, with `pages` rounds left. -/
def indexPages (H : SdexHost) (m : PartitionManager) (env : ℕ → OfferEnv)
    (getOffers : ℕ → Option String → Except IndexerError (List HorizonOffer)) :
    ℕ → Option String → ℕ → ℕ → SdexDb → Except IndexerError ℕ × SdexDb
  | 0, _, _, indexed, db => (.ok indexed, db)
  | pages + 1, cursor, n, indexed, db =>
    match getOffers pageLimit cursor with
    | .error e => (.error e, db)
    | .ok [] => (.ok indexed, db)
    | .ok page =>
      let nextCursor := page.getLast?.bind (·.pagingToken)
      let (indexed, db) := indexPage H m env page n indexed db
      if page.length < pageLimit ∨ nextCursor = none then (.ok indexed, db)
      else indexPages H m env getOffers pages nextCursor (n + page.length) indexed db

def indexOffers (m : PartitionManager) (env : ℕ → OfferEnv)
    (getOffers : ℕ → Option String → Except IndexerError (List HorizonOffer)) (db : SdexDb) :
    Except IndexerError ℕ × SdexDb :=
  indexPages H m env getOffers maxPages none 0 0 db

/-- What Horizon answers from a book that does not change: at most `limit` offers, from the one after
the cursor on. -/
def bookPage (book : List HorizonOffer) (limit : ℕ) (cursor : Option String) : List HorizonOffer :=
  match cursor with
  | none => book.take limit
  | some token => ((book.dropWhile fun h => h.pagingToken ≠ some token).drop 1).take limit

/-! Several instances -/

inductive IndexingMode where
  | polling
  | streaming
deriving DecidableEq

structure SdexIndexer where
  mode : IndexingMode
  partitionManager : PartitionManager
  /-- the offers of the page or of the stream that it has not looked at -/
  received : List HorizonOffer

structure SdexSystem where
  indexers : List SdexIndexer
  db : SdexDb

inductive SdexChoice where
  /-- A page, which a polling indexer asks for when it is through with the page before, or an offer
  of the stream. -/
  | receive (i : ℕ) (offers : List HorizonOffer)
  /-- the next of the offers that the indexer has received -/
  | process (i : ℕ) (env : OfferEnv)
  /-- three failed connections: a streaming indexer falls back to polling -/
  | fallBack (i : ℕ)

namespace SdexSystem

def step (s : SdexSystem) : SdexChoice → SdexSystem
  | .receive i offers =>
    match s.indexers[i]? with
    | none => s
    | some x =>
      if x.mode = .streaming ∨ x.received = [] then
        { s with indexers := s.indexers.set i { x with received := x.received ++ offers } }
      else s
  | .process i env =>
    match s.indexers[i]? with
    | none => s
    | some x =>
      match x.received with
      | [] => s
      | h :: rest =>
        ⟨s.indexers.set i { x with received := rest }, (processOffer H x.partitionManager env h s.db).2⟩
  | .fallBack i =>
    match s.indexers[i]? with
    | none => s
    | some x => { s with indexers := s.indexers.set i { x with mode := .polling } }

end SdexSystem

end StellarRoute.Indexer
