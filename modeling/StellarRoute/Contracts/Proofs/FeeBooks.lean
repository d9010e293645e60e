import StellarRoute.Contracts.Sanity.Books
import StellarRoute.Contracts.Proofs.Fees

/-! The fee accounts over whole runs. What has been collected of an asset is
what is still on its account and what has been distributed, and the history has
the ten latest distributions. The total that has been burned is another matter:
it is raised for every `burn` recipient, also where no token is burned. -/

namespace StellarRoute.Contracts

open Lib Governance List Function Option

variable {X : Type} {H : Host X} {auth : Auth} {c : Call} {w w' : World X} {asset : Asset}

/-! Collected, on account and distributed -/

def distributed (w : World X) (asset : Asset) : ℤ :=
  ((distributions w asset).map (·.totalDistributed.toInt)).sum

/-- The accounts of an asset. The counter stops at the largest value. -/
structure Balanced (w : World X) (asset : Asset) : Prop where
  balance_nonneg : 0 ≤ (w.fees.feeBalance asset).toInt
  distributed_nonneg : 0 ≤ distributed w asset
  collected : (w.fees.totalFeesCollected asset).toInt =
    min ((w.fees.feeBalance asset).toInt + distributed w asset) (2 ^ 127 - 1)
  history : w.fees.distributionHistory asset = (distributions w asset).reverse.take 10

theorem Balanced.congr (hw : Balanced w asset)
    (hbalance : w'.fees.feeBalance asset = w.fees.feeBalance asset)
    (hcollected : w'.fees.totalFeesCollected asset = w.fees.totalFeesCollected asset)
    (hhistory : w'.fees.distributionHistory asset = w.fees.distributionHistory asset)
    (hdistributions : distributions w' asset = distributions w asset) : Balanced w' asset := by
  have hdistributed : distributed w' asset =
      distributed w asset := by
    rw [distributed, hdistributions, distributed]
  refine ⟨?_, ?_, ?_, ?_⟩
  · rw [hbalance]
    exact hw.balance_nonneg
  · rw [hdistributed]
    exact hw.distributed_nonneg
  · rw [hcollected, hbalance, hdistributed]
    exact hw.collected
  · rw [hhistory, hdistributions]
    exact hw.history

variable {a : Asset} {config : FeeConfig} {fee : I128} {ps : List Payout} {r : Ret}

theorem feeBooked_balanced (hpos : 0 < fee) (hw : Balanced w asset) :
    Balanced (feeBooked a fee w) asset := by
  rcases eq_or_ne asset a with rfl | hne
  · have hfee : 0 < fee.toInt := by
      have := SInt.lt_def.mp hpos
      rwa [SInt.toInt_zero] at this
    have hbalance := hw.balance_nonneg
    have hdistributed := hw.distributed_nonneg
    have hcollected := hw.collected
    obtain ⟨hbooked, hcounted⟩ : ((feeBooked asset fee w).fees.feeBalance asset).toInt =
          min ((w.fees.feeBalance asset).toInt + fee.toInt) (2 ^ 127 - 1) ∧
        ((feeBooked asset fee w).fees.totalFeesCollected asset).toInt =
          min ((w.fees.totalFeesCollected asset).toInt + fee.toInt) (2 ^ 127 - 1) := by
      simp only [feeBooked, emit, addFeeBalance, update_self]
      exact ⟨SInt.toInt_checkedAdd_getD_max (by omega), SInt.toInt_checkedAdd_getD_max (by omega)⟩
    have hsame : distributions (feeBooked asset fee w) asset = distributions w asset :=
      distributions_emit (fun _ => rfl) _ asset
    have hsum : distributed (feeBooked asset fee w) asset =
        distributed w asset := by
      rw [distributed, hsame, distributed]
    refine ⟨by omega, by omega, by omega, ?_⟩
    rw [hsame]
    exact hw.history
  · refine hw.congr ?_ ?_ rfl (distributions_emit (fun _ => rfl) _ asset)
    · exact update_of_ne hne _ _
    · exact update_of_ne hne _ _

theorem push_take {α : Type} (n : ℕ) (a : α) (l : List α) :
    (if (a :: l.take n).length > n then (a :: l.take n).dropLast else a :: l.take n) =
      (a :: l).take n := by
  split_ifs with hfull
  · have hlen : (l.take n).length = n := by
      have hle := length_take_le n l
      rw [length_cons] at hfull
      omega
    rw [dropLast_eq_take, length_cons, hlen, Nat.add_sub_cancel]
    cases n with
    | zero => rfl
    | succ n => rw [take_succ_cons, take_succ_cons, take_take, min_eq_left
        (Nat.le_succ n)]
  · rw [length_cons, length_take] at hfull
    rw [take_of_length_le (by omega : l.length ≤ n), take_of_length_le]
    rw [length_cons]
    omega

theorem distributeFeesInternal_balanced
    (h : distributeFeesInternal H a config w = .ok (ps, w')) (hw : Balanced w asset) :
    Balanced w' asset := by
  rcases distributeFeesInternal_cases h with ⟨-, rfl⟩ | ⟨v, hv, rfl⟩
  · exact hw
  · have hpaid := payRecipients_paid hv
    have hsame : distributions v asset = distributions w asset := hpaid.distributions asset
    have hbalance : v.fees.feeBalance = update w.fees.feeBalance a 0 := hpaid.balance
    have hcollected : v.fees.totalFeesCollected = w.fees.totalFeesCollected := hpaid.collected
    have hhistory : v.fees.distributionHistory = w.fees.distributionHistory := hpaid.history
    rcases eq_or_ne asset a with rfl | hne
    · -- the balance moves over to what is distributed
      have hnew : distributions (emit (.feesDistributed asset (w.fees.feeBalance asset) v.ledger)
          (pushDistributionHistory asset ⟨v.now, w.fees.feeBalance asset⟩ v)) asset =
          distributions w asset ++ [⟨v.now, w.fees.feeBalance asset⟩] := by
        rw [← hsame]
        simp [distributions, emit, pushDistributionHistory, Event.distribution, World.now]
      have hsum : distributed (emit (.feesDistributed asset (w.fees.feeBalance asset) v.ledger)
          (pushDistributionHistory asset ⟨v.now, w.fees.feeBalance asset⟩ v)) asset =
          distributed w asset + (w.fees.feeBalance asset).toInt := by
        rw [distributed, hnew, map_append, sum_append, distributed]
        simp
      have hzero : (v.fees.feeBalance asset).toInt = 0 := by
        rw [hbalance, update_self, SInt.toInt_zero]
      refine ⟨?_, ?_, ?_, ?_⟩
      · exact hzero.ge
      · rw [hsum]
        exact add_nonneg hw.distributed_nonneg hw.balance_nonneg
      · rw [hsum]
        change (v.fees.totalFeesCollected asset).toInt = min ((v.fees.feeBalance asset).toInt + _) _
        rw [hzero, zero_add, hcollected, add_comm]
        exact hw.collected
      · rw [hnew, reverse_append, reverse_singleton, singleton_append, ← push_take]
        change update v.fees.distributionHistory asset _ asset = _
        rw [update_self, hhistory, hw.history]
    · refine hw.congr ?_ ?_ ?_ ?_
      · change v.fees.feeBalance asset = _
        rw [hbalance, update_of_ne hne]
      · change v.fees.totalFeesCollected asset = _
        rw [hcollected]
      · change update v.fees.distributionHistory a _ asset = _
        rw [update_of_ne hne, hhistory]
      · rw [← hsame]
        simp [distributions, emit, pushDistributionHistory, Event.distribution, hne.symm]

theorem collectFee_balanced (h : collectFee H a fee w = .ok w') (hw : Balanced w asset) :
    Balanced w' asset := by
  rcases collectFee_cases h with ⟨-, rfl⟩ | ⟨hpos, rfl | ⟨config, ps, -, -, hdist⟩⟩
  · exact hw
  · exact feeBooked_balanced hpos hw
  · exact distributeFeesInternal_balanced hdist (feeBooked_balanced hpos hw)

theorem BooksKept.balanced (h : BooksKept w w') (hw : Balanced w asset) : Balanced w' asset :=
  hw.congr (by rw [h.fees]) (by rw [h.fees]) (by rw [h.fees]) (h.distributions asset)

theorem invoke_balanced (hkey : w.gov.Keyed) (h : invoke H auth c w = .ok (r, w'))
    (hw : Balanced w asset) : Balanced w' asset := by
  cases hswap : c.swap with
  | some swap =>
    obtain ⟨s, es, commitment, -, hes, hexec⟩ := invoke_swap_eq_ok hswap h
    obtain ⟨w1, first, last, fee, v, u, hs⟩ := executeSwapInternal_swapped hexec
    have hstart : Balanced (swapStart es commitment w) asset :=
      hw.congr rfl rfl rfl (distributions_append hes rfl asset)
    have hmoved : Balanced v asset :=
      hstart.congr (by rw [hs.moved.fees]) (by rw [hs.moved.fees]) (by rw [hs.moved.fees])
        (hs.moved.distributions asset)
    exact hs.after.books.balanced (collectFee_balanced hs.collect hmoved)
  | none =>
    by_cases hdist : ∃ a, c = .distributeFees a
    · obtain ⟨a, rfl⟩ := hdist
      simp only [invoke, noRet_eq_ok, distributeFees, bind_eq_ok, pure_eq_ok, Prod.exists] at h
      obtain ⟨-, config, -, ps, v, hv, rfl⟩ := h
      exact distributeFeesInternal_balanced hv hw
    · exact (invoke_booksKept hkey hswap (fun a ha => hdist ⟨a, ha⟩) h).balanced hw

structure AccountsInv (w : World X) : Prop where
  gov : GovInv w.gov
  balanced : ∀ asset, Balanced w asset

theorem Reachable.accountsInv (hw : Reachable H w) : AccountsInv w := by
  obtain ⟨ledger, wasm, ext, ops, rfl⟩ := hw
  have hstart : AccountsInv (World.deployed H ledger wasm ext) := by
    refine ⟨govInv_deployed H ledger wasm ext, fun asset => ⟨?_, ?_, ?_, rfl⟩⟩
    · exact SInt.toInt_zero.ge
    · exact le_refl _
    · have hzero : ((World.deployed H ledger wasm ext).fees.feeBalance asset).toInt = 0 :=
        SInt.toInt_zero
      rw [hzero]
      exact SInt.toInt_zero
  refine run_keeps (fun w l _ hw => ⟨hw.gov, fun asset => ?_⟩) (fun w x hw => ⟨hw.gov, fun asset => ?_⟩)
    (fun auth c r w w' hw h => ⟨invoke_govInv hw.gov h, fun asset => ?_⟩) ops hstart
  · exact (hw.balanced asset).congr rfl rfl rfl rfl
  · exact (hw.balanced asset).congr rfl rfl rfl rfl
  · exact invoke_balanced hw.gov.keyed h (hw.balanced asset)

/-- In every reachable state and for every asset, as long as the amounts stay
below the limit of the counter, what was collected is what is on account and
what was distributed; and the history has the latest ten distributions, or all
of them when there are fewer, the newest first. -/
theorem collected_accounted (hw : Reachable H w) (asset : Asset) :
    ((w.fees.feeBalance asset).toInt + distributed w asset < 2 ^ 127 →
        (w.fees.totalFeesCollected asset).toInt =
          (w.fees.feeBalance asset).toInt + distributed w asset) ∧
      w.fees.distributionHistory asset = (distributions w asset).reverse.take 10 := by
  have hbalanced := hw.accountsInv.balanced asset
  refine ⟨fun hmax => ?_, hbalanced.history⟩
  rw [hbalanced.collected]
  exact min_eq_left (by omega)

/-- A swap with a fee, a distribution five ledgers later, and another swap. -/
def twoFees : World Unit :=
  run quietHost feeRun
    [.advance 5, .invoke [] (.distributeFees (.soroban 21)),
      .invoke [5] (.executeSwap 5
        { route := ⟨[⟨.soroban 20, .soroban 21, 9, .ammConstProd⟩], 0, 0, 0⟩, amountIn := 5000,
          minAmountOut := 0, recipient := 5, deadline := 10, notBefore := 0, maxPriceImpactBps := 0,
          maxExecutionSpreadBps := 0 })]

theorem twoFees_accounted :
    distributed twoFees (.soroban 21) = 100 ∧ (twoFees.fees.feeBalance (.soroban 21)).toInt = 50 ∧
      (twoFees.fees.totalFeesCollected (.soroban 21)).toInt =
        (twoFees.fees.feeBalance (.soroban 21)).toInt + distributed twoFees (.soroban 21) ∧
      twoFees.fees.distributionHistory (.soroban 21) =
        (distributions twoFees (.soroban 21)).reverse.take 10 := by
  have hreachable : Reachable quietHost twoFees := (reachable_quietWorld.run _).run _
  obtain ⟨hcollected, hhistory⟩ := collected_accounted hreachable (.soroban 21)
  exact ⟨by decide, by decide, hcollected (by decide), hhistory⟩

/-! Burned -/

/-- The amount of `asset` that a call burns for `contract`. Native and issued
assets have no token contract here, so no call moves them, to an issuer or
elsewhere. -/
def TokenCall.burned (contract : Address) (asset : Asset) : TokenCall → ℤ
  | .burn token source amount => if asset = .soroban token ∧ source = contract then amount.toInt else 0
  | .transfer .. => 0

def reallyBurned (H : Host X) (w : World X) (asset : Asset) : ℤ :=
  (w.calls.map (TokenCall.burned H.contract asset)).sum

def Call.distributes (config : FeeConfig) : Call → Option Asset
  | .distributeFees asset => some asset
  | c =>
    if config.autoDistribute then
      c.swap.bind fun swap => swap.2.route.hops.getLast?.map (·.destination)
    else none

/-- Fees that a `burn` recipient has a share in are distributed only for Soroban tokens. -/
def BurnsTokensOnly (w : World X) : Op X → Prop
  | .invoke _ c =>
    ∀ config asset, w.config.feeConfig = some config → c.distributes config = some asset →
      (∃ r ∈ config.recipients, r.label = "burn") → asset.isSoroban = true
  | _ => True

/-- The counter of an asset is right, up to the largest value. -/
structure Burnt (H : Host X) (w : World X) (asset : Asset) : Prop where
  nonneg : 0 ≤ reallyBurned H w asset
  total : (w.fees.totalFeesBurned asset).toInt = min (reallyBurned H w asset) (2 ^ 127 - 1)

theorem Burnt.congr {cs : List TokenCall} (hw : Burnt H w asset)
    (htotal : w'.fees.totalFeesBurned asset = w.fees.totalFeesBurned asset)
    (hcalls : w'.calls = w.calls ++ cs)
    (hcs : (cs.map (TokenCall.burned H.contract asset)).sum = 0) : Burnt H w' asset := by
  have hsame : reallyBurned H w' asset = reallyBurned H w asset := by
    rw [reallyBurned, hcalls, map_append, sum_append, hcs, add_zero, reallyBurned]
  refine ⟨?_, ?_⟩
  · rw [hsame]
    exact hw.nonneg
  · rw [htotal, hsame]
    exact hw.total

theorem Burnt.congr_of_calls (hw : Burnt H w asset)
    (htotal : w'.fees.totalFeesBurned asset = w.fees.totalFeesBurned asset)
    (hcalls : w'.calls = w.calls) : Burnt H w' asset :=
  hw.congr htotal (hcalls.trans (append_nil _).symm) rfl

theorem assetCalls_burned (a : Asset) (source target : Address) (amount : I128) :
    ((assetCalls a source target amount).map (TokenCall.burned H.contract asset)).sum = 0 := by
  cases a <;> rfl

theorem payRecipient_burnt {r : FeeRecipient} {amount : I128} {call : Option TokenCall}
    (hlabel : r.label = "burn" → a.isSoroban = true) (hpos : 0 < amount) (hw : Burnt H w asset)
    (h : payRecipient H a r amount w = .ok (call, w')) : Burnt H w' asset := by
  rcases payRecipient_cases h with ⟨-, x, rfl⟩ | ⟨hb, x, es, cs, rfl, -, -, hcs⟩
  · exact hw.congr rfl rfl (assetCalls_burned a H.contract r.address amount)
  cases a with
  | soroban token =>
    obtain rfl := hcs token rfl
    rcases eq_or_ne asset (.soroban token) with rfl | hne
    · have hamount : 0 < amount.toInt := by
        have := SInt.lt_def.mp hpos
        rwa [SInt.toInt_zero] at this
      have hnonneg := hw.nonneg
      have htotal := hw.total
      have hmore : ((w.calls ++ [TokenCall.burn token H.contract amount]).map
          (TokenCall.burned H.contract (.soroban token))).sum =
          reallyBurned H w (.soroban token) + amount.toInt := by
        rw [map_append, sum_append, reallyBurned]
        simp [TokenCall.burned]
      have hcount : (((w.fees.totalFeesBurned (.soroban token)).checkedAdd amount).getD
          (SInt.maxValue 128)).toInt =
          min ((w.fees.totalFeesBurned (.soroban token)).toInt + amount.toInt) (2 ^ 127 - 1) :=
        SInt.toInt_checkedAdd_getD_max (by omega)
      refine ⟨?_, ?_⟩
      · change 0 ≤ ((w.calls ++ [TokenCall.burn token H.contract amount]).map _).sum
        rw [hmore]
        omega
      · change (update w.fees.totalFeesBurned (.soroban token) _ (.soroban token)).toInt =
          min ((w.calls ++ [TokenCall.burn token H.contract amount]).map _).sum _
        rw [update_self, hmore]
        change (((w.fees.totalFeesBurned (.soroban token)).checkedAdd amount).getD _).toInt = _
        rw [hcount]
        omega
    · apply hw.congr (update_of_ne hne _ _) rfl
      simp [TokenCall.burned, hne]
  | native | issued issuer code => cases hlabel hb

theorem distributeFeesInternal_burnt
    (hburn : (∃ r ∈ config.recipients, r.label = "burn") → a.isSoroban = true)
    (hw : Burnt H w asset) (h : distributeFeesInternal H a config w = .ok (ps, w')) :
    Burnt H w' asset := by
  rcases distributeFeesInternal_cases h with ⟨-, rfl⟩ | ⟨v, hv, rfl⟩
  · exact hw
  · have hstart : Burnt H (setFeeBalance a 0 w) asset := hw.congr_of_calls rfl rfl
    have hpaid : Burnt H v asset :=
      payRecipients_inv (P := fun w => Burnt H w asset)
        (fun r hr _ _ _ _ hpos hw hpay => payRecipient_burnt (fun hb => hburn ⟨r, hr, hb⟩) hpos hw hpay)
        hstart hv
    exact hpaid.congr_of_calls rfl rfl

theorem invoke_burnt (hkey : w.gov.Keyed) (hop : BurnsTokensOnly w (.invoke auth c))
    (h : invoke H auth c w = .ok (r, w')) (hw : Burnt H w asset) : Burnt H w' asset := by
  cases hswap : c.swap with
  | some swap =>
    obtain ⟨s, es, commitment, -, -, hexec⟩ := invoke_swap_eq_ok hswap h
    obtain ⟨w1, first, last, fee, v, u, hs⟩ := executeSwapInternal_swapped hexec
    have hmoved : Burnt H v asset := by
      apply hw.congr (by rw [hs.moved.fees]; rfl) hs.moved.calls
      rw [map_append, sum_append, assetCalls_burned, assetCalls_burned, add_zero]
    have hcollected : Burnt H u asset := by
      have hbooked : Burnt H (feeBooked last.destination fee v) asset := hmoved.congr_of_calls rfl rfl
      rcases collectFee_cases hs.collect with ⟨-, rfl⟩ | ⟨-, rfl | ⟨config, ps, hconfig, hauto, hdist⟩⟩
      · exact hmoved
      · exact hbooked
      refine distributeFeesInternal_burnt ?_ hbooked hdist
      rw [hs.moved.config] at hconfig
      apply hop config last.destination hconfig
      cases c <;> simp only [Call.swap, reduceCtorEq] at hswap <;>
        simp only [Call.distributes, hauto, if_true, Call.swap, hswap, bind_some, hs.getLast,
          map_some]
    exact hcollected.congr_of_calls (by rw [hs.after.books.fees]) hs.after.books.calls
  | none =>
    by_cases hdist : ∃ a, c = .distributeFees a
    · obtain ⟨a, rfl⟩ := hdist
      simp only [invoke, noRet_eq_ok, distributeFees, bind_eq_ok, okOr_eq_ok, pure_eq_ok,
        Prod.exists] at h
      obtain ⟨-, config, hconfig, ps, v, hv, rfl⟩ := h
      exact distributeFeesInternal_burnt (hop config a hconfig rfl) hw hv
    · have hkept := invoke_booksKept hkey hswap (fun a ha => hdist ⟨a, ha⟩) h
      exact hw.congr_of_calls (by rw [hkept.fees]) hkept.calls

structure BurnInv (H : Host X) (w : World X) : Prop where
  gov : GovInv w.gov
  burnt : ∀ asset, Burnt H w asset

/-- In every run in which a `burn` recipient has a share only in the fees of
Soroban tokens that are distributed, the burned total of every asset is what was
burned of it, as long as that stays below the limit of the counter. -/
theorem burned_accounted {ledger : UInt32} {wasm : Bytes32} {ext : X} {ops : List (Op X)}
    (hops : Transition.StepsOk (step H) BurnsTokensOnly (World.deployed H ledger wasm ext) ops)
    (asset : Asset)
    (hmax : reallyBurned H (run H (World.deployed H ledger wasm ext) ops) asset < 2 ^ 127) :
    ((run H (World.deployed H ledger wasm ext) ops).fees.totalFeesBurned asset).toInt =
      reallyBurned H (run H (World.deployed H ledger wasm ext) ops) asset := by
  have hstart : BurnInv H (World.deployed H ledger wasm ext) :=
    ⟨govInv_deployed H ledger wasm ext, fun asset => ⟨le_refl _, SInt.toInt_zero⟩⟩
  have hend : BurnInv H (run H (World.deployed H ledger wasm ext) ops) := by
    refine run_keeps_of_ok (fun w l _ hw => ⟨hw.gov, fun asset => ?_⟩)
      (fun w x hw => ⟨hw.gov, fun asset => ?_⟩)
      (fun auth c r w w' hw hop h => ⟨invoke_govInv hw.gov h, fun asset => ?_⟩) hstart hops
    · exact (hw.burnt asset).congr_of_calls rfl rfl
    · exact (hw.burnt asset).congr_of_calls rfl rfl
    · exact invoke_burnt hw.gov.keyed hop h (hw.burnt asset)
  rw [(hend.burnt asset).total]
  exact min_eq_left (by omega)

def halfBurned : FeeConfig := ⟨[⟨11, 5000, "burn"⟩, ⟨12, 5000, "treasury"⟩], 0, false⟩

/-- A swap into `asset` and the distribution of its fee of 100. -/
def burnRun (asset : Asset) : List (Op Unit) :=
  [quietSetup, .invoke [1] (.setFeeDistributionConfig halfBurned), .invoke [1] (.registerPool 9),
    .invoke [5] (.executeSwap 5
      { route := ⟨[⟨.soroban 20, asset, 9, .ammConstProd⟩], 0, 0, 0⟩, amountIn := 10000,
        minAmountOut := 0, recipient := 5, deadline := 10, notBefore := 0, maxPriceImpactBps := 0,
        maxExecutionSpreadBps := 0 }),
    .invoke [] (.distributeFees asset)]

theorem burnRun_token :
    reallyBurned quietHost (run quietHost quietWorld (burnRun (.soroban 21))) (.soroban 21) = 50 ∧
      ((run quietHost quietWorld (burnRun (.soroban 21))).fees.totalFeesBurned (.soroban 21)).toInt =
        reallyBurned quietHost (run quietHost quietWorld (burnRun (.soroban 21))) (.soroban 21) := by
  have hops : Transition.StepsOk (step quietHost) BurnsTokensOnly
      (World.deployed quietHost 1 zeroHash ()) (burnRun (.soroban 21)) := by
    refine ⟨?_, ?_, ?_, ?_, ?_, trivial⟩ <;> intro config asset _ hasset _
    · simp [Call.distributes, Call.swap] at hasset
    · simp [Call.distributes, Call.swap] at hasset
    · simp [Call.distributes, Call.swap] at hasset
    · simp only [Call.distributes, Call.swap, bind_some, getLast?_singleton,
        map_some, ite_none_right_eq_some, some.injEq] at hasset
      rw [← hasset.2, Asset.isSoroban]
    · rw [← some.inj hasset, Asset.isSoroban]
  have hburned : reallyBurned quietHost (run quietHost quietWorld (burnRun (.soroban 21)))
      (.soroban 21) = 50 := by decide
  have hmax : reallyBurned quietHost
      (run quietHost (World.deployed quietHost 1 zeroHash ()) (burnRun (.soroban 21)))
      (.soroban 21) < 2 ^ 127 := hburned.trans_lt (by decide)
  exact ⟨hburned, burned_accounted hops _ hmax⟩

/-- Native and issued assets: 50 are counted as burned and nothing was. -/
theorem burnRun_nothing :
    Reachable quietHost (run quietHost quietWorld (burnRun .native)) ∧
      ((run quietHost quietWorld (burnRun .native)).fees.totalFeesBurned .native).toInt = 50 ∧
      reallyBurned quietHost (run quietHost quietWorld (burnRun .native)) .native = 0 ∧
      Reachable quietHost (run quietHost quietWorld (burnRun (.issued 30 "USD"))) ∧
      ((run quietHost quietWorld (burnRun (.issued 30 "USD"))).fees.totalFeesBurned
        (.issued 30 "USD")).toInt = 50 ∧
      (run quietHost quietWorld (burnRun (.issued 30 "USD"))).calls.length = 1 := by
  exact ⟨reachable_quietWorld.run _, by decide, by decide, reachable_quietWorld.run _,
    by decide, by decide⟩

end StellarRoute.Contracts
