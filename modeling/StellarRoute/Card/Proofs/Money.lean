import StellarRoute.Lib.Transition
import StellarRoute.Card.Sanity.Store

/-! The money of the card program. What the store has done is kept as a log of
entries, one for each operation that succeeded. Each authorization is an
account: what is held and what is spent come out of what was approved once, and
what was given back is not captured again. The store does not check this by
itself; the account is in order as long as every operation meets `InOrder`. -/

namespace StellarRoute.Card

open Lib CardStore List Option

/-! ### Operations and their log -/

inductive MoneyOp where
  | approve (authorizationId txHash : String) (amountStroops fiatAmount : I64)
      (fiatCurrency : String) (rate : UInt64) (rateLockedAt : I64)
  | capture (authorizationId : String) (amountStroops : I64)
  | reverse (authorizationId : String)
  | refund (authorizationId : String) (amountStroops : I64)

def MoneyOp.apply (s : CardStore) : MoneyOp → Except StoreError (AuthorizationRecord × CardStore)
  | .approve id tx amount fiat currency rate lockedAt =>
    s.approveAndHoldWithFx id tx amount fiat currency rate lockedAt
  | .capture id amount => s.captureHold id amount
  | .reverse id => s.reverseHold id
  | .refund id amount => s.refundHold id amount

/-- A failed operation leaves the store as it is. -/
def moneyStep (s : CardStore) (o : MoneyOp) : CardStore :=
  match o.apply s with
  | .ok (_, s') => s'
  | .error _ => s

inductive Entry where
  | approved (id tx : String) (amount : ℤ)
  | captured (id : String) (amount : ℤ)
  | reversed (id : String)
  | refunded (id : String) (amount : ℤ)
deriving DecidableEq

def MoneyOp.entry : MoneyOp → Entry
  | .approve id tx amount .. => .approved id tx amount.toInt
  | .capture id amount => .captured id amount.toInt
  | .reverse id => .reversed id
  | .refund id amount => .refunded id amount.toInt

def moneyOut (s : CardStore) (o : MoneyOp) : List Entry :=
  match o.apply s with
  | .ok _ => [o.entry]
  | .error _ => []

abbrev moneyRun (ops : List MoneyOp) : CardStore := Transition.run moneyStep .empty ops

abbrev moneyLog (ops : List MoneyOp) : List Entry := Transition.trace moneyStep moneyOut .empty ops

namespace Entry

def id : Entry → String
  | approved id .. | captured id _ | reversed id | refunded id _ => id

def approvedFor (id : String) : Entry → ℤ
  | approved i _ a => if i = id then a else 0
  | _ => 0

def capturedFor (id : String) : Entry → ℤ
  | captured i a => if i = id then a else 0
  | _ => 0

def refundedFor (id : String) : Entry → ℤ
  | refunded i a => if i = id then a else 0
  | _ => 0

/-- No two approvals share an authorization or a transaction. -/
def Apart : Entry → Entry → Prop
  | approved id tx _, approved id' tx' _ => id ≠ id' ∧ tx ≠ tx'
  | _, _ => True

/-- What is given back is not captured later. -/
def Final : Entry → Entry → Prop
  | refunded id _, captured id' a => id = id' → a = 0
  | reversed id, captured id' a => id = id' → a = 0
  | _, _ => True

end Entry

def approved (log : List Entry) (id : String) : ℤ := (log.map (Entry.approvedFor id)).sum

def captured (log : List Entry) (id : String) : ℤ := (log.map (Entry.capturedFor id)).sum

def refunded (log : List Entry) (id : String) : ℤ := (log.map (Entry.refundedFor id)).sum

namespace CardStore

def spent (s : CardStore) (id : String) : ℤ :=
  ((s.authorization id).map fun r => r.spentStroops.toInt).getD 0

end CardStore

/-- The money of every authorization is accounted for. -/
structure Conserved (s : CardStore) (log : List Entry) : Prop where
  held_nonneg : ∀ id, 0 ≤ s.held id
  spent_nonneg : ∀ id, 0 ≤ s.spent id
  within : ∀ id, s.held id + s.spent id ≤ approved log id
  /-- captured money is only reduced by a refund -/
  spent_eq : ∀ id, s.spent id = captured log id - refunded log id
  /-- refunded or reversed money is not captured again -/
  final : log.Pairwise Entry.Final
  /-- a transaction pays for one approval of one authorization -/
  once : log.Pairwise Entry.Apart
  /-- and no more is captured against it -/
  paid : ∀ id tx amount, .approved id tx amount ∈ log → captured log id - refunded log id ≤ amount

/-- What an operation has to meet. -/
def InOrder (s : CardStore) : MoneyOp → Prop
  | .approve id _ amount .. => 0 ≤ amount.toInt ∧ s.authorization id = none
  | .capture id amount =>
    0 ≤ amount.toInt ∧ ∀ r, s.authorization id = some r → r.state ≠ .refunded
  | .reverse id => ∀ r, s.authorization id = some r → r.spentStroops.toInt = 0
  | .refund _ amount => 0 ≤ amount.toInt

instance (s : CardStore) (o : MoneyOp) : Decidable (InOrder s o) := by
  cases o <;> unfold InOrder <;> infer_instance

/-! ### One account -/

section Account

variable {log : List Entry} {e : Entry} {id tx : String} {returned returned' : Prop}

theorem approved_append (log : List Entry) (e : Entry) (id : String) :
    approved (log ++ [e]) id = approved log id + e.approvedFor id := by simp [approved]

theorem captured_append (log : List Entry) (e : Entry) (id : String) :
    captured (log ++ [e]) id = captured log id + e.capturedFor id := by simp [captured]

theorem refunded_append (log : List Entry) (e : Entry) (id : String) :
    refunded (log ++ [e]) id = refunded log id + e.refundedFor id := by simp [refunded]

theorem sums_of_ne (h : ∀ e ∈ log, e.id ≠ id) :
    approved log id = 0 ∧ captured log id = 0 ∧ refunded log id = 0 := by
  have hzero : ∀ e ∈ log, e.approvedFor id = 0 ∧ e.capturedFor id = 0 ∧ e.refundedFor id = 0 := by
    intro e he
    have hne := h e he
    cases e <;> simp_all [Entry.id, Entry.approvedFor, Entry.capturedFor, Entry.refundedFor]
  refine ⟨?_, ?_, ?_⟩
  · exact sum_eq_zero fun x hx => by
      obtain ⟨e, he, rfl⟩ := mem_map.mp hx
      exact (hzero e he).1
  · exact sum_eq_zero fun x hx => by
      obtain ⟨e, he, rfl⟩ := mem_map.mp hx
      exact (hzero e he).2.1
  · exact sum_eq_zero fun x hx => by
      obtain ⟨e, he, rfl⟩ := mem_map.mp hx
      exact (hzero e he).2.2

/-- What is held and spent of an authorization that is known; `returned` says that a refund was the
last thing to happen to it. -/
structure Balance (log : List Entry) (id : String) (hold spent : ℤ) (returned : Prop) : Prop where
  hold_nonneg : 0 ≤ hold
  spent_nonneg : 0 ≤ spent
  within : hold + spent ≤ approved log id
  bounded : approved log id < 2 ^ 63
  spent_eq : spent = captured log id - refunded log id
  source : ∃ tx, .approved id tx (approved log id) ∈ log
  refund : (∃ a, .refunded id a ∈ log) → returned ∨ hold = 0 ∧ spent = 0
  reversal : .reversed id ∈ log → hold = 0 ∧ spent = 0

theorem Balance.approve {a : ℤ} (hfresh : ∀ e ∈ log, e.id ≠ id) (hpos : 0 ≤ a) (hlt : a < 2 ^ 63) :
    Balance (log ++ [.approved id tx a]) id a 0 returned := by
  obtain ⟨happroved, hcaptured, hrefunded⟩ := sums_of_ne hfresh
  have hsum : approved (log ++ [.approved id tx a]) id = a := by
    rw [approved_append, happroved, Entry.approvedFor, if_pos rfl, zero_add]
  refine ⟨hpos, le_rfl, by omega, by omega, ?_, ⟨tx, by simp [hsum]⟩, ?_, ?_⟩
  · simp [captured_append, refunded_append, hcaptured, hrefunded, Entry.capturedFor,
      Entry.refundedFor]
  · intro ⟨x, hx⟩
    have hx : Entry.refunded id x ∈ log := by simpa using hx
    exact absurd rfl (hfresh _ hx)
  · intro hx
    have hx : Entry.reversed id ∈ log := by simpa using hx
    exact absurd rfl (hfresh _ hx)

section Balance

variable {hold spent a : ℤ} (h : Balance log id hold spent returned)
include h

theorem Balance.lt : hold < 2 ^ 63 ∧ spent < 2 ^ 63 := by
  obtain ⟨hhold, hspent, hwithin, hbounded, -, -, -, -⟩ := h
  omega

theorem Balance.source_append (hzero : e.approvedFor id = 0) :
    approved (log ++ [e]) id = approved log id ∧
      ∃ tx, .approved id tx (approved (log ++ [e]) id) ∈ log ++ [e] := by
  have hsum : approved (log ++ [e]) id = approved log id := by
    rw [approved_append, hzero, add_zero]
  obtain ⟨tx, htx⟩ := h.source
  exact ⟨hsum, tx, by rw [hsum]; exact mem_append_left _ htx⟩

theorem Balance.hold_eq_zero (hreturned : ¬ returned)
    (hback : (∃ a, .refunded id a ∈ log) ∨ .reversed id ∈ log) : hold = 0 := by
  rcases hback with hback | hback
  · exact ((h.refund hback).resolve_left hreturned).1
  · exact (h.reversal hback).1

theorem Balance.capture (hreturned : ¬ returned) (hpos : 0 ≤ a) (hle : a ≤ hold) :
    Balance (log ++ [.captured id a]) id (hold - a) (spent + a) returned' := by
  obtain ⟨hsum, hsource⟩ := h.source_append (e := .captured id a) rfl
  obtain ⟨hhold, hspent, hwithin, hbounded, hspent_eq, -, hrefund, hreversal⟩ := h
  refine ⟨by omega, by omega, by omega, by omega, ?_, hsource, ?_, ?_⟩
  · simp only [captured_append, refunded_append, Entry.capturedFor, Entry.refundedFor, if_true]
    omega
  · intro ⟨x, hx⟩
    have hx : Entry.refunded id x ∈ log := by simpa using hx
    have hgone := (hrefund ⟨x, hx⟩).resolve_left hreturned
    exact .inr (by omega)
  · intro hx
    have hx : Entry.reversed id ∈ log := by simpa using hx
    have hgone := hreversal hx
    omega

theorem Balance.reverse (hnone : spent = 0) :
    Balance (log ++ [.reversed id]) id 0 0 returned' := by
  obtain ⟨hsum, hsource⟩ := h.source_append (e := .reversed id) rfl
  obtain ⟨hhold, hspent, hwithin, hbounded, hspent_eq, -, -, -⟩ := h
  refine ⟨le_rfl, le_rfl, by omega, by omega, ?_, hsource, fun _ => .inr ⟨rfl, rfl⟩,
    fun _ => ⟨rfl, rfl⟩⟩
  simp only [captured_append, refunded_append, Entry.capturedFor, Entry.refundedFor]
  omega

theorem Balance.refunds (hpos : 0 ≤ a) (hle : a ≤ spent) :
    Balance (log ++ [.refunded id a]) id (hold + a) (spent - a) True := by
  obtain ⟨hsum, hsource⟩ := h.source_append (e := .refunded id a) rfl
  obtain ⟨hhold, hspent, hwithin, hbounded, hspent_eq, -, -, hreversal⟩ := h
  refine ⟨by omega, by omega, by omega, by omega, ?_, hsource, fun _ => .inl trivial, ?_⟩
  · simp only [captured_append, refunded_append, Entry.capturedFor, Entry.refundedFor, if_true]
    omega
  · intro hx
    have hx : Entry.reversed id ∈ log := by simpa using hx
    have hgone := hreversal hx
    omega

theorem Balance.frame (hne : e.id ≠ id) : Balance (log ++ [e]) id hold spent returned := by
  have hzero : e.approvedFor id = 0 ∧ e.capturedFor id = 0 ∧ e.refundedFor id = 0 := by
    cases e <;> simp_all [Entry.id, Entry.approvedFor, Entry.capturedFor, Entry.refundedFor]
  have hmem : ∀ {x : Entry}, x.id = id → x ∈ log ++ [e] → x ∈ log := by
    intro x hx hin
    rw [mem_append, mem_singleton] at hin
    exact hin.resolve_right fun heq => hne (heq ▸ hx)
  obtain ⟨hsum, hsource⟩ := h.source_append hzero.1
  refine ⟨h.hold_nonneg, h.spent_nonneg, hsum ▸ h.within, hsum ▸ h.bounded, ?_, hsource,
    fun ⟨a, ha⟩ => h.refund ⟨a, hmem rfl ha⟩, fun ha => h.reversal (hmem rfl ha)⟩
  rw [captured_append, refunded_append, hzero.2.1, hzero.2.2, h.spent_eq, add_zero, add_zero]

end Balance

end Account

/-! ### The store -/

structure Books (s : CardStore) (log : List Entry) : Prop where
  unknown : ∀ id, s.authorization id = none → s.holds.lookup id = none ∧ ∀ e ∈ log, e.id ≠ id
  known : ∀ id r, s.authorization id = some r →
    Balance log id (s.currentHeld r id).toInt r.spentStroops.toInt (r.state = .refunded)
  entry : ∀ id r, s.authorization id = some r → s.holds.lookup id = none → r.amountStroops = 0
  payer : ∀ tx id, s.txToAuth.lookup tx = some id → (s.authorization id).isSome
  paid : ∀ id tx a, .approved id tx a ∈ log → s.txToAuth.lookup tx = some id
  final : log.Pairwise Entry.Final
  once : log.Pairwise Entry.Apart

section Store

variable {s s' : CardStore} {log : List Entry} {e : Entry} {id : String}
  {r r' : AuthorizationRecord} {a : I64}

theorem books_empty : Books .empty [] where
  unknown id _ := ⟨rfl, by simp⟩
  known id r h := nomatch h
  entry id r h := nomatch h
  payer tx id h := nomatch h
  paid id tx a h := nomatch h
  final := .nil
  once := .nil

section Entry

variable (h : Books s log) (hinsert : s'.authorizations = s.authorizations.insert e.id r')
  (hholds : ∀ id, id ≠ e.id → s'.holds.lookup id = s.holds.lookup id)
  (hentry : s'.holds.lookup e.id = none → r'.amountStroops = 0)
  (hbalance : Balance (log ++ [e]) e.id (s'.currentHeld r' e.id).toInt r'.spentStroops.toInt
    (r'.state = .refunded))
  (hfinal : ∀ x ∈ log, x.Final e)

include h hinsert hholds hentry hbalance hfinal

theorem Books.update
    (hpayer : ∀ tx id, s'.txToAuth.lookup tx = some id → s.txToAuth.lookup tx = some id ∨ id = e.id)
    (hpaid : ∀ id tx a, .approved id tx a ∈ log ++ [e] → s'.txToAuth.lookup tx = some id)
    (honce : ∀ x ∈ log, x.Apart e) : Books s' (log ++ [e]) := by
  have hauth : ∀ id, s'.authorization id = if id = e.id then some r' else s.authorization id := by
    intro id
    rw [authorization, hinsert, HashMap.lookup_insert_eq, authorization]
  have hother : ∀ {id}, id ≠ e.id → s'.authorization id = s.authorization id := fun hne => by
    rw [hauth, if_neg hne]
  refine ⟨fun id hnone => ?_, fun id r hr => ?_, fun id r hr hnone => ?_, fun tx id htx => ?_, hpaid,
    ?_, ?_⟩
  · have hne : id ≠ e.id := by
      rintro rfl
      rw [hauth, if_pos rfl] at hnone
      cases hnone
    rw [hother hne] at hnone
    obtain ⟨hhold, hlog⟩ := h.unknown id hnone
    refine ⟨(hholds id hne).trans hhold, forall_mem_append.mpr ⟨hlog, ?_⟩⟩
    simpa using hne.symm
  · by_cases hid : id = e.id
    · subst hid
      rw [hauth, if_pos rfl] at hr
      cases hr
      exact hbalance
    · rw [hother hid] at hr
      have hheld : s'.currentHeld r id = s.currentHeld r id := by
        rw [currentHeld, hholds id hid, currentHeld]
      rw [hheld]
      exact (h.known id r hr).frame (Ne.symm hid)
  · by_cases hid : id = e.id
    · subst hid
      rw [hauth, if_pos rfl] at hr
      cases hr
      exact hentry hnone
    · rw [hother hid] at hr
      exact h.entry id r hr ((hholds id hid).symm.trans hnone)
  · rw [hauth]
    split_ifs with hid
    · rfl
    · exact h.payer tx id ((hpayer tx id htx).resolve_right hid)
  · exact pairwise_append.mpr ⟨h.final, pairwise_singleton _ _, by simpa using hfinal⟩
  · exact pairwise_append.mpr ⟨h.once, pairwise_singleton _ _, by simpa using honce⟩

theorem Books.change (hplain : ∀ id tx a, e ≠ .approved id tx a) (htx : s'.txToAuth = s.txToAuth) :
    Books s' (log ++ [e]) := by
  refine h.update hinsert hholds hentry hbalance hfinal (fun tx id hid => ?_) (fun id tx a ha => ?_)
    (fun x _ => ?_)
  · rw [htx] at hid
    exact .inl hid
  · rw [mem_append, mem_singleton] at ha
    rw [htx]
    exact h.paid id tx a (ha.resolve_right fun heq => hplain id tx a heq.symm)
  · cases e with
    | approved id tx a => exact absurd rfl (hplain id tx a)
    | _ => cases x <;> trivial

end Entry

theorem Books.approve (h : Books s log) {tx currency : String} {fiat lockedAt : I64} {rate : UInt64}
    (hin : InOrder s (.approve id tx a fiat currency rate lockedAt))
    (hok : s.approveAndHoldWithFx id tx a fiat currency rate lockedAt = .ok (r', s')) :
    Books s' (log ++ [.approved id tx a.toInt]) := by
  obtain ⟨hpos, hnone⟩ := hin
  obtain ⟨-, hfresh⟩ := h.unknown id hnone
  obtain ⟨htx, -, rfl, rfl⟩ := approveAndHoldWithFx_eq_ok.mp hok
  -- the transaction has not paid for anything: it could only have paid for this authorization
  have hunpaid : s.txToAuth.lookup tx = none := by
    cases hlookup : s.txToAuth.lookup tx with
    | none => rfl
    | some existing =>
      have hsome := h.payer tx existing hlookup
      simp [htx existing hlookup, hnone] at hsome
  refine h.update rfl (fun id' hne => ?_) (fun hlookup => ?_) ?_ (fun x _ => ?_)
    (fun tx' id' hid => ?_) (fun id' tx' a' ha => ?_) (fun x hx => ?_)
  · exact AList.lookup_insert_ne hne
  · simp [Entry.id] at hlookup
  · have hbalance : Balance (log ++ [.approved id tx a.toInt]) id a.toInt 0 False :=
      .approve hfresh hpos a.inRange.2
    simpa [currentHeld, Entry.id] using hbalance
  · cases x <;> trivial
  · rw [HashMap.lookup_insert_eq] at hid
    split_ifs at hid with htx'
    · exact .inr (some.inj hid).symm
    · exact .inl hid
  · rw [HashMap.lookup_insert_eq]
    rcases mem_append.mp ha with ha | ha
    · have hlookup := h.paid id' tx' a' ha
      rw [if_neg, hlookup]
      rintro rfl
      simp [hunpaid] at hlookup
    · cases mem_singleton.mp ha
      rw [if_pos rfl]
  · cases x with
    | approved id' tx' a' =>
      refine ⟨hfresh _ hx, ?_⟩
      rintro rfl
      have hlookup := h.paid _ _ _ hx
      simp [hunpaid] at hlookup
    | _ => trivial

theorem Books.capture (h : Books s log) (hin : InOrder s (.capture id a))
    (hok : s.captureHold id a = .ok (r', s')) : Books s' (log ++ [.captured id a.toInt]) := by
  obtain ⟨hpos, hstate⟩ := hin
  obtain ⟨r, hr, hle, rfl, rfl⟩ := captureHold_eq_ok.mp hok
  have hle : a.toInt ≤ (s.currentHeld r id).toInt := not_lt.mp hle
  have hbalance := h.known id r hr
  have hnew : Balance (log ++ [.captured id a.toInt]) id ((s.currentHeld r id).toInt - a.toInt)
      (r.spentStroops.toInt + a.toInt) False := hbalance.capture (hstate r hr) hpos hle
  have hspent : (r.spentStroops.wrappingAdd a).toInt = r.spentStroops.toInt + a.toInt :=
    toInt_of_bounds hnew.spent_nonneg hnew.lt.2
  have hhold : ((s.currentHeld r id).wrappingSub a).toInt =
      (s.currentHeld r id).toInt - a.toInt := toInt_of_bounds hnew.hold_nonneg hnew.lt.1
  refine h.change rfl (fun id' hne => ?_) (fun hlookup => ?_) ?_ (fun x hx => ?_) (by simp) rfl
  · exact AList.lookup_insert_ne hne
  · simp [Entry.id] at hlookup
  · rw [← hspent, ← hhold] at hnew
    simpa [currentHeld, Entry.id] using hnew
  · have hgone := hbalance.hold_eq_zero (hstate r hr)
    cases x with
    | refunded id' b =>
      rintro rfl
      have := hgone (.inl ⟨b, hx⟩)
      omega
    | reversed id' =>
      rintro rfl
      have := hgone (.inr hx)
      omega
    | _ => trivial

theorem Books.reverse (h : Books s log) (hin : InOrder s (.reverse id))
    (hok : s.reverseHold id = .ok (r', s')) : Books s' (log ++ [.reversed id]) := by
  obtain ⟨r, hr, -, rfl, rfl⟩ := reverseHold_eq_ok.mp hok
  have hnew : Balance (log ++ [.reversed id]) id 0 0 False := (h.known id r hr).reverse (hin r hr)
  refine h.change rfl (fun id' hne => ?_) (fun _ => rfl) ?_ (fun x _ => ?_) (by simp) rfl
  · exact AList.lookup_erase_ne hne
  · simpa [currentHeld, Entry.id] using hnew
  · cases x <;> trivial

theorem Books.refund (h : Books s log) (hin : InOrder s (.refund id a))
    (hok : s.refundHold id a = .ok (r', s')) : Books s' (log ++ [.refunded id a.toInt]) := by
  obtain ⟨r, hr, hle, rfl, rfl⟩ := refundHold_eq_ok.mp hok
  have hle : a.toInt ≤ r.spentStroops.toInt := not_lt.mp hle
  have hnew := (h.known id r hr).refunds hin hle
  have hspent : (r.spentStroops.wrappingSub a).toInt = r.spentStroops.toInt - a.toInt :=
    toInt_of_bounds hnew.spent_nonneg hnew.lt.2
  have hhold : ((s.currentHeld r id).wrappingAdd a).toInt =
      (s.currentHeld r id).toInt + a.toInt := toInt_of_bounds hnew.hold_nonneg hnew.lt.1
  refine h.change rfl (fun id' hne => ?_) (fun hlookup => ?_) ?_ (fun x _ => ?_) (by simp) rfl
  · exact AList.lookup_insert_ne hne
  · simp [Entry.id] at hlookup
  · rw [← hspent, ← hhold] at hnew
    simpa [currentHeld, Entry.id] using hnew
  · cases x <;> trivial

theorem Books.step (h : Books s log) {o : MoneyOp} (hin : InOrder s o) :
    Books (moneyStep s o) (log ++ moneyOut s o) := by
  unfold moneyStep moneyOut
  cases hok : o.apply s with
  | error e => simpa using h
  | ok out =>
    obtain ⟨r, s'⟩ := out
    cases o with
    | approve id tx a fiat currency rate lockedAt => exact h.approve hin hok
    | capture id a => exact h.capture hin hok
    | reverse id => exact h.reverse hin hok
    | refund id a => exact h.refund hin hok

instance : Std.Symm Entry.Apart where
  symm x y h := by cases x <;> cases y <;> first | trivial | exact ⟨h.1.symm, h.2.symm⟩

theorem Books.conserved (h : Books s log) : Conserved s log := by
  have hunknown : ∀ id, s.authorization id = none → s.held id = 0 ∧ s.spent id = 0 ∧
      approved log id = 0 ∧ captured log id = 0 ∧ refunded log id = 0 := by
    intro id hnone
    obtain ⟨hhold, hlog⟩ := h.unknown id hnone
    refine ⟨?_, ?_, sums_of_ne hlog⟩
    · rw [held, heldStroops, hhold, getD_none, SInt.toInt_zero]
    · rw [spent, hnone, map_none, getD_none]
  have hknown : ∀ id r, s.authorization id = some r →
      Balance log id (s.held id) (s.spent id) (r.state = .refunded) := by
    intro id r hr
    have hspent : s.spent id = r.spentStroops.toInt := by
      rw [spent, hr, map_some, getD_some]
    rw [held_eq (h.entry id r hr), hspent]
    exact h.known id r hr
  refine ⟨fun id => ?_, fun id => ?_, fun id => ?_, fun id => ?_, h.final, h.once,
    fun id tx a ha => ?_⟩
  iterate 4
    cases hr : s.authorization id with
    | none =>
      obtain ⟨hheld, hspent, happroved, hcaptured, hrefunded⟩ := hunknown id hr
      omega
    | some r =>
      have hbalance := hknown id r hr
      first
        | exact hbalance.hold_nonneg
        | exact hbalance.spent_nonneg
        | exact hbalance.within
        | exact hbalance.spent_eq
  · cases hr : s.authorization id with
    | none => exact absurd rfl ((h.unknown id hr).2 _ ha)
    | some r =>
      have hbalance := hknown id r hr
      obtain ⟨tx', hsource⟩ := hbalance.source
      -- the one approval of the authorization
      have hamount : approved log id = a := by
        by_contra hne
        have hapart := h.once.forall hsource ha fun heq => hne (by injection heq)
        exact hapart.1 rfl
      have := hbalance.within
      have := hbalance.hold_nonneg
      have := hbalance.spent_eq
      omega

end Store

/-- In every run whose operations are in order the money of every authorization is accounted for. -/
theorem card_money_conserved (ops : List MoneyOp)
    (h : Transition.StepsOk moneyStep InOrder .empty ops) :
    Conserved (moneyRun ops) (moneyLog ops) := by
  have hbooks : Books (moneyRun ops) ([] ++ moneyLog ops) :=
    Transition.run_trace_inv (fun s log o hs hin => hs.step hin) books_empty h
  exact hbooks.conserved

def stroops (n : ℕ) : I64 := SInt.saturate 64 n

def payment : MoneyOp := .approve "auth" "tx" (stroops 100) 0 "" 0 0

/-- A part is captured, the rest reversed, and the authorization is approved again with the same
transaction. -/
def secondPayment : List MoneyOp :=
  [payment, .capture "auth" (stroops 60), .reverse "auth", payment, .capture "auth" (stroops 100)]

/-- The captured part is gone without a refund, and more is captured against the transaction than
was approved with it. -/
theorem captured_twice : (moneyRun (secondPayment.take 3)).spent "auth" = 0 ∧
    moneyLog secondPayment = [.approved "auth" "tx" 100, .captured "auth" 60, .reversed "auth",
      .approved "auth" "tx" 100, .captured "auth" 100] ∧
    100 < captured (moneyLog secondPayment) "auth" - refunded (moneyLog secondPayment) "auth" := by
  decide

def refundedPayment : List MoneyOp :=
  [payment, .capture "auth" (stroops 60), .refund "auth" (stroops 60)]

theorem card_money_conserved_refund : (moneyRun refundedPayment).held "auth" = 100 ∧
    Conserved (moneyRun refundedPayment) (moneyLog refundedPayment) :=
  ⟨by decide, card_money_conserved refundedPayment (by decide)⟩

end StellarRoute.Card
