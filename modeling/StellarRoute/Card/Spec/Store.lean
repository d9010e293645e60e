import StellarRoute.Lib.Guard
import StellarRoute.Lib.HashMap
import StellarRoute.Lib.MachineInt

/-! The card store, `InMemoryCardStore` of `card/store.rs`: authorizations, the
USDC held for them, the transactions that paid for them and the partner events
already seen. Every operation is done under one lock. A sum of amounts wraps,
as in a release build. Applications, and the helpers that no route calls, are
left out. -/

namespace StellarRoute.Card

open Lib

inductive AuthorizationState where
  | pending
  | approved
  | captured
  | reversed
  | refunded
deriving DecidableEq

structure AuthorizationRecord where
  authorizationId : String
  state : AuthorizationState
  /-- locked USDC in stroops -/
  amountStroops : I64
  /-- captured from the hold so far -/
  spentStroops : I64
  fiatAmount : I64
  fiatCurrency : String
  /-- the bits of the `f64` -/
  rate : UInt64
  rateLockedAt : I64
  txHash : String
deriving DecidableEq

/-- The stored payload repeats the event and is never read. -/
structure PartnerEventRecord where
  eventId : String
  eventType : Option String
deriving DecidableEq

inductive StoreError where
  | unknownId (id : String)
  | alreadyExists (id : String)
  | alreadyApproved
  | txAlreadyUsed
  | authorizationNotFound
  | holdNotFound
  | amountExceedsAvailable
  | refundExceedsCaptured
  | fiatAmountMismatch
  | unsupportedEventType
deriving DecidableEq

structure CardStore where
  authorizations : HashMap String AuthorizationRecord
  txToAuth : HashMap String String
  holds : HashMap String I64
  events : HashMap String PartnerEventRecord
deriving DecidableEq

def CardStore.empty : CardStore := ⟨∅, ∅, ∅, ∅⟩

namespace CardStore

variable (s : CardStore)

def authorization (authorizationId : String) : Option AuthorizationRecord :=
  s.authorizations.lookup authorizationId

def heldStroops (authorizationId : String) : I64 := (s.holds.lookup authorizationId).getD 0

/-- What may still be captured: without an entry, the whole amount. -/
def currentHeld (record : AuthorizationRecord) (authorizationId : String) : I64 :=
  (s.holds.lookup authorizationId).getD record.amountStroops

def approveAndHoldWithFx (authorizationId txHash : String) (amountStroops fiatAmount : I64)
    (fiatCurrency : String) (rate : UInt64) (rateLockedAt : I64) :
    Except StoreError (AuthorizationRecord × CardStore) := do
  require (∀ existing, s.txToAuth.lookup txHash = some existing → existing = authorizationId)
    .txAlreadyUsed
  require (¬ ∃ r, s.authorization authorizationId = some r ∧ r.state = .approved) .alreadyApproved
  let record : AuthorizationRecord := {
    authorizationId, state := .approved, amountStroops, spentStroops := 0, fiatAmount
    fiatCurrency, rate, rateLockedAt, txHash }
  pure (record, { s with
    authorizations := s.authorizations.insert authorizationId record
    txToAuth := s.txToAuth.insert txHash authorizationId
    holds := s.holds.insert authorizationId amountStroops })

def captureHold (authorizationId : String) (amountStroops : I64) :
    Except StoreError (AuthorizationRecord × CardStore) := do
  let record ← okOr (s.authorization authorizationId) .authorizationNotFound
  let currentHeld := s.currentHeld record authorizationId
  require (¬ currentHeld < amountStroops) .amountExceedsAvailable
  let record' := { record with
    spentStroops := record.spentStroops.wrappingAdd amountStroops
    state := .captured }
  pure (record', { s with
    holds := s.holds.insert authorizationId (currentHeld.wrappingSub amountStroops)
    authorizations := s.authorizations.insert authorizationId record' })

def reverseHold (authorizationId : String) :
    Except StoreError (AuthorizationRecord × CardStore) := do
  let record ← okOr (s.authorization authorizationId) .authorizationNotFound
  require (s.currentHeld record authorizationId ≠ 0) .holdNotFound
  let record' := { record with amountStroops := 0, spentStroops := 0, state := .reversed }
  pure (record', { s with
    holds := s.holds.erase authorizationId
    authorizations := s.authorizations.insert authorizationId record' })

def refundHold (authorizationId : String) (amountStroops : I64) :
    Except StoreError (AuthorizationRecord × CardStore) := do
  let record ← okOr (s.authorization authorizationId) .authorizationNotFound
  require (¬ record.spentStroops < amountStroops) .refundExceedsCaptured
  let hold := s.currentHeld record authorizationId
  let record' := { record with
    spentStroops := record.spentStroops.wrappingSub amountStroops
    state := .refunded }
  pure (record', { s with
    holds := s.holds.insert authorizationId (hold.wrappingAdd amountStroops)
    authorizations := s.authorizations.insert authorizationId record' })

/-- Whether the event is new. -/
def insertPartnerEvent (event : PartnerEventRecord) : Bool × CardStore :=
  if event.eventId ∈ s.events then (false, s)
  else (true, { s with events := s.events.insert event.eventId event })

end CardStore

end StellarRoute.Card
