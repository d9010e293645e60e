import StellarRoute.Card.Spec.Routes

/-! When the operations of the card store succeed, and what they leave. -/

namespace StellarRoute.Card

open Lib

theorem toInt_of_bounds {z : ℤ} (hle : 0 ≤ z) (hlt : z < 2 ^ 63) : (SInt.wrap 64 z).toInt = z := by
  apply SInt.toInt_wrap
  constructor <;> norm_num <;> omega

namespace CardStore

def held (s : CardStore) (id : String) : ℤ := (s.heldStroops id).toInt

variable {s s' : CardStore} {id tx currency : String} {amount fiat lockedAt : I64} {rate : UInt64}
  {record : AuthorizationRecord}

/-- Without an entry of its hold nothing is left of an authorization. -/
theorem held_eq {r : AuthorizationRecord} (h : s.holds.lookup id = none → r.amountStroops = 0) :
    s.held id = (s.currentHeld r id).toInt := by
  unfold held heldStroops currentHeld
  cases hlookup : s.holds.lookup id with
  | none => rw [Option.getD_none, Option.getD_none, h hlookup]
  | some hold => rfl

theorem approveAndHoldWithFx_eq_ok :
    s.approveAndHoldWithFx id tx amount fiat currency rate lockedAt = .ok (record, s') ↔
      (∀ existing, s.txToAuth.lookup tx = some existing → existing = id) ∧
      (¬ ∃ r, s.authorization id = some r ∧ r.state = .approved) ∧
      record = ⟨id, .approved, amount, 0, fiat, currency, rate, lockedAt, tx⟩ ∧
      s' = { s with
        authorizations := s.authorizations.insert id record
        txToAuth := s.txToAuth.insert tx id
        holds := s.holds.insert id amount } := by
  simp only [approveAndHoldWithFx, bind_eq_ok, require_eq_ok, pure_eq_ok, Prod.mk.injEq]
  constructor
  · rintro ⟨_, htx, _, happroved, rfl, hs'⟩
    exact ⟨htx, happroved, rfl, hs'.symm⟩
  · rintro ⟨htx, happroved, rfl, hs'⟩
    exact ⟨(), htx, (), happroved, rfl, hs'.symm⟩

theorem captureHold_eq_ok :
    s.captureHold id amount = .ok (record, s') ↔ ∃ r, s.authorization id = some r ∧
      ¬ s.currentHeld r id < amount ∧
      record = { r with
        spentStroops := r.spentStroops.wrappingAdd amount
        state := .captured } ∧
      s' = { s with
        holds := s.holds.insert id ((s.currentHeld r id).wrappingSub amount)
        authorizations := s.authorizations.insert id record } := by
  simp only [captureHold, bind_eq_ok, okOr_eq_ok, require_eq_ok, pure_eq_ok, Prod.mk.injEq, exists_const]
  constructor <;>
  · rintro ⟨r, hr, hheld, rfl, rfl⟩
    exact ⟨r, hr, hheld, rfl, rfl⟩

theorem reverseHold_eq_ok :
    s.reverseHold id = .ok (record, s') ↔ ∃ r, s.authorization id = some r ∧
      s.currentHeld r id ≠ 0 ∧
      record = { r with amountStroops := 0, spentStroops := 0, state := .reversed } ∧
      s' = { s with
        holds := s.holds.erase id
        authorizations := s.authorizations.insert id record } := by
  simp only [reverseHold, bind_eq_ok, okOr_eq_ok, require_eq_ok, pure_eq_ok, Prod.mk.injEq, exists_const]
  constructor <;>
  · rintro ⟨r, hr, hheld, rfl, rfl⟩
    exact ⟨r, hr, hheld, rfl, rfl⟩

theorem refundHold_eq_ok :
    s.refundHold id amount = .ok (record, s') ↔ ∃ r, s.authorization id = some r ∧
      ¬ r.spentStroops < amount ∧
      record = { r with
        spentStroops := r.spentStroops.wrappingSub amount
        state := .refunded } ∧
      s' = { s with
        holds := s.holds.insert id ((s.currentHeld r id).wrappingAdd amount)
        authorizations := s.authorizations.insert id record } := by
  simp only [refundHold, bind_eq_ok, okOr_eq_ok, require_eq_ok, pure_eq_ok, Prod.mk.injEq, exists_const]
  constructor <;>
  · rintro ⟨r, hr, hspent, rfl, rfl⟩
    exact ⟨r, hr, hspent, rfl, rfl⟩

end CardStore

/-- A wallet pays 100. -/
def walletAuthorization : CardAuthorizationRequest :=
  ⟨"auth", "tx", SInt.saturate 64 100, none, none, none, none⟩

end StellarRoute.Card
