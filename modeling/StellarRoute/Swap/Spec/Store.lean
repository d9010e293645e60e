import StellarRoute.Lib.HashMap
import StellarRoute.Lib.Text

/-! The quotes of the swap endpoints, and the store that keeps them in memory
(`swap/store.rs`). Each function here runs under the store's lock.
`insert_prepared` takes the lock twice: it expires the sender's old quotes, lets
the lock go, and then inserts. Times are in nanoseconds. -/

namespace StellarRoute.Swap

open Lib

inductive SubmissionStatus where
  | prepared
  | submitting
  | submitted
  | failed
deriving DecidableEq

structure PreparedSwapQuote where
  quoteId : String
  senderAccount : String
  senderAccountHash : String
  unsignedXdrHash : String
  expiresAt : ℤ
  estimatedOutput : String
  minOutput : String
  amountIn : String
  executionMode : String
  networkPassphrase : String
  routeDigest : String
  priceDigest : String
  sourceSequence : Option ℤ
  timeboundsMax : Option ℤ
  baseFee : Option ℤ
  validUntilLedger : Option ℤ
  submissionStatus : SubmissionStatus
  txHash : Option String
deriving DecidableEq

inductive SwapStoreError where
  | database (message : String)
  | notFound
  | activePrepareExists
  | invalidTransition
deriving DecidableEq

inductive ClaimSubmitOutcome where
  | claimed (quote : PreparedSwapQuote)
  | inProgress (quote : PreparedSwapQuote)
  | alreadySubmitted (txHash : String)
  | permanentlyFailed
deriving DecidableEq

abbrev SwapQuotes := HashMap String PreparedSwapQuote

namespace SwapQuotes

def isStale (sender : String) (now : ℤ) (q : PreparedSwapQuote) : Bool :=
  q.senderAccount = sender && q.submissionStatus = .prepared && q.expiresAt ≤ now

def expire (sender : String) (now : ℤ) (q : PreparedSwapQuote) : PreparedSwapQuote :=
  if isStale sender now q then { q with submissionStatus := .failed } else q

def expireStaleForSender (quotes : SwapQuotes) (sender : String) (now : ℤ) : ℕ × SwapQuotes :=
  (quotes.values.countP (isStale sender now), quotes.mapValues (expire sender now))

def blocks (now : ℤ) (q : PreparedSwapQuote) : Bool :=
  match q.submissionStatus with
  | .submitting => true
  | .prepared => q.expiresAt > now
  | _ => false

/-- `insert_prepared` from its second lock on. -/
def insertUnblocked (quotes : SwapQuotes) (quote : PreparedSwapQuote) (now : ℤ) :
    Except SwapStoreError Unit × SwapQuotes :=
  if quotes.values.any fun q => q.senderAccount = quote.senderAccount && blocks now q then
    (.error .activePrepareExists, quotes)
  else (.ok (), AList.insert quote.quoteId quote quotes)

def claimForSubmit (quotes : SwapQuotes) (quoteId txHash : String) :
    Except SwapStoreError ClaimSubmitOutcome × SwapQuotes :=
  if trim txHash = "" then (.error .invalidTransition, quotes)
  else
    match AList.lookup quoteId quotes with
    | none => (.error .notFound, quotes)
    | some quote =>
      match quote.submissionStatus with
      | .submitted => (.ok (.alreadySubmitted (quote.txHash.getD "")), quotes)
      | .submitting => (.ok (.inProgress quote), quotes)
      | .failed => (.ok .permanentlyFailed, quotes)
      | .prepared =>
        let claimed := { quote with submissionStatus := .submitting, txHash := some txHash }
        (.ok (.claimed claimed), AList.insert quoteId claimed quotes)

def finalizeSubmit (quotes : SwapQuotes) (quoteId txHash : String) :
    Except SwapStoreError Unit × SwapQuotes :=
  match AList.lookup quoteId quotes with
  | none => (.error .notFound, quotes)
  | some quote =>
    if quote.submissionStatus ≠ .submitting then (.error .invalidTransition, quotes)
    else (.ok (), AList.insert quoteId
      { quote with submissionStatus := .submitted, txHash := some txHash } quotes)

def markFailed (quotes : SwapQuotes) (quoteId : String) : SwapQuotes :=
  match AList.lookup quoteId quotes with
  | none => quotes
  | some quote =>
    if quote.submissionStatus = .prepared ∨ quote.submissionStatus = .submitting then
      AList.insert quoteId { quote with submissionStatus := .failed } quotes
    else quotes

end SwapQuotes

end StellarRoute.Swap
