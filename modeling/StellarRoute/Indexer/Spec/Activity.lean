import StellarRoute.Lib.Json
import StellarRoute.Indexer.Spec.Sdex

/-! Contract swap activity (`activity.rs`): the swap events that Soroban RPC returns are parsed and
inserted into `contract_swap_activity`. The first event that does not parse, or whose insert fails,
ends the batch. -/

namespace StellarRoute.Indexer

open Lib

/-- The contract values that the indexer looks into. -/
inductive ScVal where
  | symbol (s : String)
  | string (s : String)
  | address (s : String)
  | i128 (hi lo : ℤ)
  | u128 (hi lo : ℤ)
  | i64 (v : ℤ)
  | u64 (v : ℤ)
  | i32 (v : ℤ)
  | u32 (v : ℤ)
  | vec (values : Option (List ScVal))
  | other

structure SorobanEvent where
  eventType : String
  ledger : UInt64
  ledgerClosedAt : String
  contractId : String
  id : String
  pagingToken : String
  topics : List String
  xdr : String
  inSuccessfulContractCall : Bool
deriving DecidableEq

structure SwapActivity where
  eventId : String
  contractId : String
  ledger : ℤ
  ledgerClosedAt : Option ℤ
  pagingToken : String
  sender : String
  amountIn : SInt 128
  amountOut : SInt 128
  feeAmount : SInt 128
  route : Json
  sourceAsset : Option String
  destinationAsset : Option String

/-- What is taken from libraries: the decoding of base64 XDR, of JSON and of an RFC 3339 time. -/
structure ActivityHost where
  scVal : String → Except String ScVal
  json : String → Option Json
  parseRfc3339 : String → Option ℤ

/-- `((hi as i128) << 64) | (lo as i128)`. -/
def joinParts (hi lo : ℤ) : SInt 128 := SInt.wrap 128 (hi * 2 ^ 64 + lo)

def parseScvalInteger : ScVal → Option (SInt 128)
  | .i128 hi lo | .u128 hi lo => some (joinParts hi lo)
  | .i64 v | .u64 v | .i32 v | .u32 v => some (SInt.wrap 128 v)
  | _ => none

/-- `raw.trim_matches('"')`. -/
def trimQuotes (raw : String) : String :=
  let front := raw.toList.dropWhile (· = '"')
  String.ofList (front.reverse.dropWhile (· = '"')).reverse

def normalizeTopic (H : ActivityHost) (raw : String) : String :=
  match H.scVal raw with
  | .ok (.symbol s) | .ok (.string s) | .ok (.address s) => s
  | _ => trimQuotes raw

/-- `s.parse::<i128>()`. -/
def parseI128 (s : String) : Option (SInt 128) :=
  match s.toList with
  | '-' :: ds =>
    if ds.head? = some '+' then none
    else (parseDecimal (2 ^ 127 + 1) (String.ofList ds)).map fun n => SInt.wrap 128 (-n)
  | _ => (parseDecimal (2 ^ 127) s).map fun n => SInt.wrap 128 n

/-- The number under the first of the keys that has one. -/
def jsonI128Any (value : Json) (keys : List String) : Except IndexerError (SInt 128) :=
  okOr (keys.findSome? fun key =>
      (value.get key).bind fun raw =>
        (raw.asI64.map (SInt.wrap 128)).or
          ((raw.asU64.map (SInt.wrap 128)).or (raw.asStr.bind parseI128)))
    (.sorobanRpc ("swap event missing numeric field " ++ "/".intercalate keys))

structure ParsedPayload where
  amountIn : SInt 128
  amountOut : SInt 128
  feeAmount : SInt 128
  route : Json
  sourceAsset : Option String
  destinationAsset : Option String

def parseJsonPayload (value : Json) : Except IndexerError ParsedPayload := do
  let amountIn ← jsonI128Any value ["amount_in"]
  let amountOut ← jsonI128Any value ["amount_out"]
  let feeAmount ← jsonI128Any value ["fee_amount", "fee"]
  pure { amountIn, amountOut, feeAmount, route := (value.get "route").getD (.object []),
         sourceAsset := (value.get "source_asset").bind Json.asStr,
         destinationAsset := (value.get "destination_asset").bind Json.asStr }

def tupleInteger (values : List ScVal) (i : ℕ) (name : String) : Except IndexerError (SInt 128) :=
  okOr (values[i]?.bind parseScvalInteger) (.sorobanRpc ("swap event missing " ++ name))

def parsePayload (H : ActivityHost) (event : SorobanEvent) : Except IndexerError ParsedPayload :=
  match H.json event.xdr with
  | some value => parseJsonPayload value
  | none =>
    match H.scVal event.xdr with
    | .error e => throw (.sorobanRpc ("failed to decode swap event value XDR: " ++ e))
    | .ok (.vec (some values)) => do
      let amountIn ← tupleInteger values 0 "amount_in"
      let amountOut ← tupleInteger values 1 "amount_out"
      let feeAmount ← tupleInteger values 2 "fee_amount"
      pure { amountIn, amountOut, feeAmount, route := .object [("xdr", .string event.xdr)],
             sourceAsset := none, destinationAsset := none }
    | .ok _ => throw (.sorobanRpc "swap event value is not a tuple")

/-- The topic after `swap`, or the third one. -/
def senderTopic (topics : List String) : Option String :=
  ((topics.findIdx? (· = "swap")).bind fun i => topics[i + 1]?).or topics[2]?

def parseSwapEvent (H : ActivityHost) (event : SorobanEvent) :
    Except IndexerError (Option SwapActivity) :=
  if event.eventType ≠ "contract" ∨ event.inSuccessfulContractCall = false then pure none
  else
    let topics := event.topics.map (normalizeTopic H)
    if "swap" ∉ topics then pure none
    else do
      let sender ← okOr (senderTopic topics) (.sorobanRpc "swap event missing sender topic")
      let payload ← parsePayload H event
      pure (some
        { eventId := event.id, contractId := event.contractId,
          ledger := (SInt.wrap 64 event.ledger.toNat).toInt,
          ledgerClosedAt := H.parseRfc3339 event.ledgerClosedAt,
          pagingToken := event.pagingToken, sender, amountIn := payload.amountIn,
          amountOut := payload.amountOut, feeAmount := payload.feeAmount, route := payload.route,
          sourceAsset := payload.sourceAsset, destinationAsset := payload.destinationAsset })

/-- The rows of `contract_swap_activity` by event id. -/
abbrev SwapTable := HashMap String SwapActivity

/-- `ON CONFLICT (event_id) DO NOTHING`; how many rows were inserted. -/
def insertActivity (activity : SwapActivity) (swaps : SwapTable) : ℕ × SwapTable :=
  match swaps.lookup activity.eventId with
  | some _ => (0, swaps)
  | none => (1, swaps.insert activity.eventId activity)

/-- `insert n` says how the insert for the `n`th event of the batch ends. -/
def ingestSwapEvents (H : ActivityHost) (insert : ℕ → Except IndexerError Unit) :
    List SorobanEvent → ℕ → ℕ → SwapTable → Except IndexerError ℕ × SwapTable
  | [], _, inserted, swaps => (.ok inserted, swaps)
  | event :: events, n, inserted, swaps =>
    match parseSwapEvent H event with
    | .error e => (.error e, swaps)
    | .ok none => ingestSwapEvents H insert events (n + 1) inserted swaps
    | .ok (some activity) =>
      match insert n with
      | .error e => (.error e, swaps)
      | .ok _ =>
        ingestSwapEvents H insert events (n + 1) (inserted + (insertActivity activity swaps).1)
          (insertActivity activity swaps).2

end StellarRoute.Indexer
