import StellarRoute.Lib.Interleave
import StellarRoute.Card.Spec.Store

/-! The card routes of `card/mod.rs`. A handler is a program over the store's
operations and the frozen flag, each of which is atomic; what other requests
do in between is up to the scheduler. Bodies that are not valid JSON are
refused before a handler is called. -/

namespace StellarRoute.Card

open Lib Lib.Interleave

structure CardAuthorizationRequest where
  authorizationId : String
  txHash : String
  amountStroops : I64
  fiatAmount : Option I64
  fiatCurrency : Option String
  rate : Option UInt64
  rateLockedAt : Option I64
deriving DecidableEq

/-- `payload` is only copied into the stored event. -/
structure PartnerEventRequest where
  eventId : String
  eventType : String
  authorizationId : String
  amountStroops : Option I64
  fiatAmount : Option I64
  fiatCurrency : Option String
  rate : Option UInt64
  rateLockedAt : Option I64
deriving DecidableEq

inductive CardResponse where
  | notFound
  | flag (status : String) (frozen : Bool)
  | authorizations (rows : List AuthorizationRecord)
  /-- "Partner event already processed; no-op success." -/
  | duplicate (eventId eventType authorizationId : String)
  | applied (eventId eventType : String) (authorization : AuthorizationRecord) (heldStroops : I64)
  | approved (authorization : AuthorizationRecord) (heldStroops : I64)
  | cardError (status : ℕ) (code message : String)
deriving DecidableEq

/-- What the handlers share. -/
structure CardState where
  frozen : Bool
  store : CardStore
deriving DecidableEq

def CardState.initial : CardState := ⟨false, .empty⟩

inductive CardOp where
  | isFrozen
  | freeze
  | unfreeze
  | listAuthorizations
  | insertPartnerEvent (event : PartnerEventRecord)
  | authorization (authorizationId : String)
  | approveAndHoldWithFx (authorizationId txHash : String) (amountStroops fiatAmount : I64)
      (fiatCurrency : String) (rate : UInt64) (rateLockedAt : I64)
  | captureHold (authorizationId : String) (amountStroops : I64)
  | reverseHold (authorizationId : String)
  | refundHold (authorizationId : String) (amountStroops : I64)
  | heldStroops (authorizationId : String)

abbrev CardOp.Res : CardOp → Type
  | .isFrozen => Bool
  | .freeze | .unfreeze => Unit
  | .listAuthorizations => List AuthorizationRecord
  | .insertPartnerEvent _ => Bool
  | .authorization _ => Option AuthorizationRecord
  | .approveAndHoldWithFx .. | .captureHold .. | .reverseHold _ | .refundHold .. =>
    Except StoreError AuthorizationRecord
  | .heldStroops _ => I64

/-- A failed operation leaves the store as it is. -/
def CardState.update (s : CardState) (x : Except StoreError (AuthorizationRecord × CardStore)) :
    Except StoreError AuthorizationRecord × CardState :=
  match x with
  | .ok (record, store) => (.ok record, { s with store })
  | .error e => (.error e, s)

def CardOp.exec : Exec Unit CardState CardOp CardOp.Res
  | _, .isFrozen, s => (s.frozen, s)
  | _, .freeze, s => ((), { s with frozen := true })
  | _, .unfreeze, s => ((), { s with frozen := false })
  | _, .listAuthorizations, s =>
    (s.store.authorizations.values.insertionSort fun a b => a.authorizationId ≤ b.authorizationId, s)
  | _, .insertPartnerEvent event, s =>
    ((s.store.insertPartnerEvent event).1,
      { s with store := (s.store.insertPartnerEvent event).2 })
  | _, .authorization id, s => (s.store.authorization id, s)
  | _, .approveAndHoldWithFx id tx amount fiat currency rate lockedAt, s =>
    s.update (s.store.approveAndHoldWithFx id tx amount fiat currency rate lockedAt)
  | _, .captureHold id amount, s => s.update (s.store.captureHold id amount)
  | _, .reverseHold id, s => s.update (s.store.reverseHold id)
  | _, .refundHold id amount, s => s.update (s.store.refundHold id amount)
  | _, .heldStroops id, s => (s.store.heldStroops id, s)

abbrev CardProg := Prog CardOp CardOp.Res

def perform (o : CardOp) : CardProg o.Res := Prog.call o

/-! ### Handlers -/

variable (enabled : Bool)

def freezeCard : CardProg CardResponse :=
  if !enabled then pure .notFound
  else do
    perform .freeze
    pure (.flag "frozen" true)

def unfreezeCard : CardProg CardResponse :=
  if !enabled then pure .notFound
  else do
    perform .unfreeze
    pure (.flag "active" false)

def listAuthorizations : CardProg CardResponse :=
  if !enabled then pure .notFound
  else do
    let rows ← perform .listAuthorizations
    pure (.authorizations rows)

inductive PartnerEventKind where
  | authorization
  | clearing
  | reversal
  | refund
deriving DecidableEq

def PartnerEventRequest.kind (payload : PartnerEventRequest) : Option PartnerEventKind :=
  if payload.eventType = "authorization" then some .authorization
  else if payload.eventType = "clearing" then some .clearing
  else if payload.eventType = "reversal" then some .reversal
  else if payload.eventType = "refund" then some .refund
  else none

def answerPartnerEvent (payload : PartnerEventRequest) :
    Except StoreError AuthorizationRecord → CardProg CardResponse
  | .ok record => do
    let held ← perform (.heldStroops record.authorizationId)
    pure (.applied payload.eventId payload.eventType record held)
  | .error .unsupportedEventType =>
    pure (.cardError 422 "unknown_event_type" "Unsupported partner event type.")
  | .error .amountExceedsAvailable =>
    pure (.cardError 422 "amount_exceeds_available" "Captured amount exceeds the available hold.")
  | .error .refundExceedsCaptured =>
    pure (.cardError 422 "refund_exceeds_captured" "Refund exceeds the amount already captured.")
  | .error .fiatAmountMismatch =>
    pure (.cardError 422 "fiat_amount_mismatch"
      "Webhook fiat amount differs from the locked authorization by more than one minor unit.")
  | .error .holdNotFound =>
    pure (.cardError 422 "hold_not_found" "No active hold exists to reverse.")
  | .error _ =>
    pure (.cardError 500 "partner_event_failed" "Partner event could not be applied.")

/-- The fiat amount of a clearing differs from the locked one by more than a minor unit. -/
def fiatMismatch (payload : PartnerEventRequest) (auth : AuthorizationRecord) : Prop :=
  (1 : I64) < ((payload.fiatAmount.getD auth.fiatAmount).wrappingSub auth.fiatAmount).wrappingAbs

instance (payload : PartnerEventRequest) (auth : AuthorizationRecord) :
    Decidable (fiatMismatch payload auth) := inferInstanceAs (Decidable (_ < _))

/-- An authorization that is known already is left as it is. -/
def authorizeFound (payload : PartnerEventRequest) :
    Option AuthorizationRecord → CardProg CardResponse
  | some record => answerPartnerEvent payload (.ok record)
  | none => do
    let result ← perform (.approveAndHoldWithFx payload.authorizationId "partner-event"
      (payload.amountStroops.getD 0) (payload.fiatAmount.getD 0) (payload.fiatCurrency.getD "")
      (payload.rate.getD 0) (payload.rateLockedAt.getD 0))
    answerPartnerEvent payload result

def clearFound (payload : PartnerEventRequest) :
    Option AuthorizationRecord → CardProg CardResponse
  | none => pure (.cardError 422 "authorization_not_found"
      "Authorization was not found for clearing.")
  | some auth =>
    if fiatMismatch payload auth then
      pure (.cardError 422 "fiat_amount_mismatch"
        "Webhook fiat amount differs from the locked authorization by more than one minor unit.")
    else do
      let result ← perform (.captureHold payload.authorizationId (payload.amountStroops.getD 0))
      answerPartnerEvent payload result

def applyPartnerEvent (payload : PartnerEventRequest) : CardProg CardResponse :=
  match payload.kind with
  | some .authorization => do
    let found ← perform (.authorization payload.authorizationId)
    authorizeFound payload found
  | some .clearing => do
    let found ← perform (.authorization payload.authorizationId)
    clearFound payload found
  | some .reversal => do
    let result ← perform (.reverseHold payload.authorizationId)
    answerPartnerEvent payload result
  | some .refund => do
    let result ← perform (.refundHold payload.authorizationId (payload.amountStroops.getD 0))
    answerPartnerEvent payload result
  | none => answerPartnerEvent payload (.error .unsupportedEventType)

def handlePartnerEvent (payload : PartnerEventRequest) : CardProg CardResponse :=
  if !enabled then pure .notFound
  else do
    let new ← perform (.insertPartnerEvent ⟨payload.eventId, some payload.eventType⟩)
    if !new then pure (.duplicate payload.eventId payload.eventType payload.authorizationId)
    else applyPartnerEvent payload

def answerAuthorization : Except StoreError AuthorizationRecord → CardProg CardResponse
  | .ok record => do
    let held ← perform (.heldStroops record.authorizationId)
    pure (.approved record held)
  | .error .alreadyApproved =>
    pure (.cardError 409 "already_approved" "Authorization is already approved.")
  | .error .txAlreadyUsed =>
    pure (.cardError 409 "tx_already_used" "This transaction hash has already been used.")
  | .error _ =>
    pure (.cardError 500 "authorization_failed" "Authorization could not be recorded.")

def recordAuthorization (payload : CardAuthorizationRequest) : CardProg CardResponse :=
  if !enabled then pure .notFound
  else do
    let frozen ← perform .isFrozen
    if frozen then pure (.cardError 403 "frozen"
      "Card program is frozen; new authorizations are rejected.")
    else
      let result ← perform (.approveAndHoldWithFx payload.authorizationId payload.txHash
        payload.amountStroops (payload.fiatAmount.getD 0) (payload.fiatCurrency.getD "")
        (payload.rate.getD 0) (payload.rateLockedAt.getD 0))
      answerAuthorization result

/-! ### Requests -/

inductive CardCall where
  | freeze
  | unfreeze
  | list
  | authorize (payload : CardAuthorizationRequest)
  | partner (payload : PartnerEventRequest)
deriving DecidableEq

def CardCall.start : CardCall → CardProg CardResponse
  | .freeze => freezeCard enabled
  | .unfreeze => unfreezeCard enabled
  | .list => listAuthorizations enabled
  | .authorize payload => recordAuthorization enabled payload
  | .partner payload => handlePartnerEvent enabled payload

abbrev CardUsers := Pool Unit CardState CardOp CardOp.Res CardCall CardResponse

/-- Requests in any interleaving. -/
def cards (choices : List (Choice Unit CardCall)) : CardUsers :=
  run CardOp.exec (CardCall.start enabled) ⟨CardState.initial, []⟩ choices

end StellarRoute.Card
