import StellarRoute.Contracts.Sanity.Books
import StellarRoute.Contracts.Sanity.Config
import StellarRoute.Contracts.Proofs.Fees

/-! What a swap moves. The amounts always fit: what the last pool returns is the
output and the fee, rounded down, and the output is above both minimums. But
input and output are moved only when they are Soroban tokens; for the other
assets the swap reports amounts that nobody paid or got. -/

namespace StellarRoute.Contracts

open Lib Governance Option

variable {X : Type} {H : Host X} {auth : Auth} {c : Call} {w w' : World X} {sender : Address}
  {params : SwapParams} {s : SwapResult}

/-- What the last of the pools answers when the hops are made one after another. -/
def lastAnswer (H : Host X) : List RouteHop → I128 → X → Option I128
  | [], _, _ => none
  | [hop], amount, x => (H.swap x hop.pool hop.source hop.destination amount 0).map (·.1)
  | hop :: rest, amount, x =>
    (H.swap x hop.pool hop.source hop.destination amount 0).bind fun r => lastAnswer H rest r.1 r.2

def inputMoved (H : Host X) (sender : Address) (params : SwapParams) (first : RouteHop) (x : X) :
    Option X :=
  match first.source with
  | .soroban token => H.transfer x token sender first.pool params.amountIn
  | _ => some x

def lastPoolReturn (H : Host X) (sender : Address) (params : SwapParams) (first : RouteHop) (x : X) :
    Option I128 :=
  (inputMoved H sender params first (snapshotReserves H params.route.hops x).2).bind
    (lastAnswer H params.route.hops params.amountIn)

def TokenCall.Moves (asset : Asset) (source target : Address) (amount : I128) (call : TokenCall) :
    Prop :=
  ∃ token, asset = .soroban token ∧ call = .transfer token source target amount

/-- The swap from `w` to `w'` with result `s` is settled: the sender pays the
first pool the input, the recipient gets the output, all other calls are paid by
the router, and the amounts are right. -/
structure Settled (H : Host X) (sender : Address) (params : SwapParams) (s : SwapResult)
    (first last : RouteHop) (w w' : World X) : Prop where
  calls : ∃ debit credit rest, w'.calls = w.calls ++ debit :: credit :: rest ∧
    debit.Moves first.source sender first.pool params.amountIn ∧
    credit.Moves last.destination H.contract params.recipient s.amountOut ∧
    ∀ call ∈ rest, call.source = H.contract
  amounts : ∃ returned, lastPoolReturn H sender params first w.ext = some returned ∧
    ∃ fee, s.amountOut.toInt + fee = returned.toInt ∧
      fee = returned.toInt * w.config.feeRate.toNat / 10000
  minimum : max params.minAmountOut.toInt params.route.minOutput.toInt ≤ s.amountOut.toInt

/-! The amounts -/

theorem swapHops_lastAnswer {hops : List RouteHop} (hne : hops ≠ []) :
    ∀ {amount : I128} {impact : UInt32} {x : X} {out : I128} {impact' : UInt32} {x' : X},
      swapHops H hops amount impact x = .ok (out, impact', x') → lastAnswer H hops amount x = some
          out := by
  induction hops with
  | nil => exact absurd rfl hne
  | cons hop rest ih =>
    intro amount impact x out impact' x' h
    simp only [swapHops, bind_eq_ok, okOr_eq_ok, Prod.exists] at h
    obtain ⟨mid, y, hswap, hrest⟩ := h
    cases rest with
    | nil =>
      simp only [swapHops, pure_eq_ok, Prod.mk.injEq] at hrest
      rw [lastAnswer, hswap, map_some, hrest.1]
    | cons next rest =>
      rw [lastAnswer, hswap, bind_some]
      · exact ih (List.cons_ne_nil _ _) hrest
      · exact List.cons_ne_nil _ _

variable {first : RouteHop} {amount out : I128} {asset : Asset}

theorem transferAsset_inputMoved {x : X}
    (h : transferAsset H first.source sender first.pool params.amountIn { w with ext := x } = .ok w') :
    inputMoved H sender params first x = some w'.ext := by
  unfold inputMoved
  cases hsource : first.source with
  | soroban token =>
    rw [hsource] at h
    simp only [transferAsset, bind_eq_ok, okOr_eq_ok, pure_eq_ok] at h
    obtain ⟨y, hy, rfl⟩ := h
    exact hy
  | native | issued issuer code =>
    rw [hsource] at h
    rw [← pure_eq_ok.mp h]

/-- The fee is rounded down. An output that is not negative cannot come from a
negative amount, where the division would round up. -/
theorem splitFee_eq_ok {feeRate : UInt32} {fee : I128} (hrate : feeRate ≤ 1000)
    (h : splitFee feeRate amount = .ok (fee, out)) (hout : 0 ≤ out.toInt) :
    out.toInt + fee.toInt = amount.toInt ∧ fee.toInt = amount.toInt * feeRate.toNat / 10000 := by
  have hle : (feeRate.toNat : ℤ) ≤ 1000 := by exact_mod_cast UInt32.le_iff_toNat_le.mp hrate
  simp only [splitFee, bind_eq_ok, okOr_eq_ok, pure_eq_ok, Prod.mk.injEq] at h
  obtain ⟨product, hproduct, fee', hfee, out', hsub, rfl, rfl⟩ := h
  rw [SInt.checkedMul, SInt.ofInt?_eq_some, toInt_share] at hproduct
  rw [SInt.checkedDiv, toInt_bps, if_neg (by omega), SInt.ofInt?_eq_some, hproduct] at hfee
  rw [SInt.checkedSub, SInt.ofInt?_eq_some] at hsub
  have hnonneg : 0 ≤ amount.toInt := by
    by_contra hneg
    have hlow : amount.toInt * 1000 ≤ amount.toInt * feeRate.toNat :=
      mul_le_mul_of_nonpos_left hle (by omega)
    have hhigh : amount.toInt * (feeRate.toNat : ℤ) ≤ 0 :=
      mul_nonpos_of_nonpos_of_nonneg (by omega) (by positivity)
    rw [← neg_neg (amount.toInt * (feeRate.toNat : ℤ)), Int.neg_tdiv,
      Int.tdiv_eq_ediv_of_nonneg (by omega)] at hfee
    omega
  have hprod : 0 ≤ amount.toInt * (feeRate.toNat : ℤ) := mul_nonneg hnonneg (by positivity)
  rw [Int.tdiv_eq_ediv_of_nonneg hprod] at hfee
  exact ⟨by omega, hfee⟩

theorem executeSwapInternal_amounts (hrate : w.config.feeRate ≤ 1000)
    (hfirst : params.route.hops.head? = some first)
    (h : executeSwapInternal H auth sender params w = .ok (s, w')) :
    (∃ returned, lastPoolReturn H sender params first w.ext = some returned ∧
        ∃ fee, s.amountOut.toInt + fee = returned.toInt ∧
          fee = returned.toInt * w.config.feeRate.toNat / 10000) ∧
      max params.minAmountOut.toInt params.route.minOutput.toInt ≤ s.amountOut.toInt := by
  simp only [executeSwapInternal, bind_eq_ok, okOr_eq_ok, pure_eq_ok, Prod.mk.injEq,
    Prod.exists] at h
  obtain ⟨_, hcheck, w1, h1, first', hfirst', -, -, w2, h2, returned, impact, x, hhops, fee, out,
    hsplit, _, hguards, -, -, -, -, -, -, -, -, rfl, rfl⟩ := h
  obtain rfl : first = first' := mem_unique hfirst hfirst'
  obtain ⟨mev, rfl, -⟩ := rateLimit_eq_ok h1
  have hconfig : w2.config = w.config := (transferAsset_touches h2).config (by simp)
  have hminimum : max params.minAmountOut.toInt params.route.minOutput.toInt ≤ out.toInt := by
    simp only [slippageGuards, bind_eq_ok, require_eq_ok] at hguards
    obtain ⟨-, -, -, -, hrequired⟩ := hguards
    change (requiredMinOut params).toInt ≤ out.toInt at hrequired
    unfold requiredMinOut at hrequired
    split_ifs at hrequired with hlt
    · have hless := SInt.lt_def.mp hlt
      omega
    · have hge : ¬ params.minAmountOut.toInt < params.route.minOutput.toInt :=
        fun hless => hlt (SInt.lt_def.mpr hless)
      omega
  have hnonneg : 0 ≤ params.minAmountOut.toInt := by
    simp only [checkSwapParams, bind_eq_ok, require_eq_ok, exists_const] at hcheck
    have hmin : (0 : I128).toInt ≤ params.minAmountOut.toInt := hcheck.2.1.1
    rwa [SInt.toInt_zero] at hmin
  have hhead : params.route.hops ≠ [] := by
    intro hempty
    simp [hempty] at hfirst
  rw [hconfig] at hsplit
  obtain ⟨hsum, hfee⟩ := splitFee_eq_ok hrate hsplit (by omega)
  refine ⟨⟨returned, ?_, fee.toInt, hsum, hfee⟩, hminimum⟩
  rw [lastPoolReturn, transferAsset_inputMoved h2, bind_some]
  exact swapHops_lastAnswer hhead hhops

/-! The calls -/

theorem assetCalls_moves (h : asset.isSoroban = true) (source target : Address) (amount : I128) :
    ∃ call, assetCalls asset source target amount = [call] ∧ call.Moves asset source target amount := by
  cases asset with
  | soroban token => exact ⟨_, rfl, token, rfl, rfl⟩
  | native | issued issuer code => cases h

/-- A successful swap is settled exactly when its input and its output are
Soroban tokens. -/
theorem swap_settled_iff {first last : RouteHop} (hw : Reachable H w)
    (hc : c.swap = some (sender, params)) (h : invoke H auth c w = .ok (.swapped s, w'))
    (hfirst : params.route.hops.head? = some first)
    (hlast : params.route.hops.getLast? = some last) :
    Settled H sender params s first last w w' ↔
      first.source.isSoroban = true ∧ last.destination.isSoroban = true := by
  constructor
  · rintro ⟨⟨debit, credit, rest, -, ⟨token, hin, -⟩, ⟨token', hout, -⟩, -⟩, -, -⟩
    exact ⟨hin ▸ rfl, hout ▸ rfl⟩
  · rintro ⟨hin, hout⟩
    obtain ⟨s', es, commitment, hs', -, hexec⟩ := invoke_swap_eq_ok hc h
    obtain rfl : s = s' := Ret.swapped.inj hs'
    obtain ⟨hamounts, hminimum⟩ :=
      executeSwapInternal_amounts (w := swapStart es commitment w) hw.configBounds.feeRate hfirst hexec
    refine ⟨?_, hamounts, hminimum⟩
    obtain ⟨w₁, first', last', fee, v, u, hs⟩ := executeSwapInternal_swapped hexec
    obtain rfl : first = first' := mem_unique hfirst hs.head
    obtain rfl : last = last' := mem_unique hlast hs.getLast
    obtain ⟨debit, hdebit, hdebitMoves⟩ := assetCalls_moves hin sender first.pool params.amountIn
    obtain ⟨credit, hcredit, hcreditMoves⟩ :=
      assetCalls_moves hout H.contract params.recipient s.amountOut
    obtain ⟨rest, hrest, hsource⟩ := (collectFee_rest hs.collect).calls
    refine ⟨debit, credit, rest, ?_, hdebitMoves, hcreditMoves, hsource⟩
    have hcalls := hs.moved.calls
    rw [hdebit, hcredit] at hcalls
    rw [hs.after.books.calls, hrest, hcalls]
    simp [swapStart]

def swapOver (source destination : Asset) : SwapParams :=
  { route := ⟨[⟨source, destination, 9, .ammConstProd⟩], 0, 900, 0⟩, amountIn := 1000,
    minAmountOut := 950, recipient := 6, deadline := 10, notBefore := 0, maxPriceImpactBps := 0,
    maxExecutionSpreadBps := 0 }

def poolNine : World Unit :=
  run quietHost quietWorld [quietSetup, .invoke [1] (.registerPool 9)]

theorem reachable_poolNine : Reachable quietHost poolNine := reachable_quietWorld.run _

theorem tokens_settled : ∃ s w',
    invoke quietHost [5, 6] (.executeSwap 5 (swapOver (.soroban 20) (.soroban 21))) poolNine =
        .ok (.swapped s, w') ∧
      Settled quietHost 5 (swapOver (.soroban 20) (.soroban 21)) s
        ⟨.soroban 20, .soroban 21, 9, .ammConstProd⟩ ⟨.soroban 20, .soroban 21, 9, .ammConstProd⟩
        poolNine w' := by
  have hok : (executeSwap quietHost [5, 6] 5 (swapOver (.soroban 20) (.soroban 21)) poolNine).map
      (fun _ => ()) = .ok () := by decide
  obtain ⟨⟨s, w'⟩, hw', -⟩ := map_eq_ok.mp hok
  have hinvoke := swapRet_eq_ok.mpr ⟨s, rfl, hw'⟩
  exact ⟨s, w', hinvoke,
    (swap_settled_iff (c := .executeSwap 5 (swapOver (.soroban 20) (.soroban 21))) reachable_poolNine
      rfl hinvoke rfl rfl).mpr ⟨rfl, rfl⟩⟩

/-- A swap of native for issued assets succeeds and reports 990, but nothing is moved. -/
theorem native_not_settled : ∃ s w',
    invoke quietHost [5, 6] (.executeSwap 5 (swapOver .native (.issued 30 "USD"))) poolNine =
        .ok (.swapped s, w') ∧
      Reachable quietHost poolNine ∧ s.amountOut.toInt = 990 ∧ w'.calls = poolNine.calls ∧
      ¬ Settled quietHost 5 (swapOver .native (.issued 30 "USD")) s
        ⟨.native, .issued 30 "USD", 9, .ammConstProd⟩ ⟨.native, .issued 30 "USD", 9, .ammConstProd⟩
        poolNine w' := by
  have hok : (executeSwap quietHost [5, 6] 5 (swapOver .native (.issued 30 "USD")) poolNine).map
      (fun r => (r.1.amountOut.toInt, r.2.calls)) = .ok (990, []) := by decide
  obtain ⟨⟨s, w'⟩, hw', hout⟩ := map_eq_ok.mp hok
  rw [Prod.mk.injEq] at hout
  refine ⟨s, w', swapRet_eq_ok.mpr ⟨s, rfl, hw'⟩, reachable_poolNine, hout.1, hout.2, fun hsettled => ?_⟩
  obtain ⟨debit, credit, rest, -, ⟨token, hnative, -⟩, -⟩ := hsettled.calls
  cases hnative

end StellarRoute.Contracts
