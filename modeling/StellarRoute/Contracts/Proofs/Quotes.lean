import StellarRoute.Contracts.Proofs.Settlement

/-! Quotes and swaps. `get_quote` and `execute_swap_internal` go over the hops in loops of their
own; where the pools swap what they quoted, the swap pays the output and charges the fee of the
quote. -/

namespace StellarRoute.Contracts

open Lib Governance

variable {X : Type} {H : Host X} {auth : Auth} {c : Call} {w w' : World X} {sender : Address}
  {params : SwapParams} {s : SwapResult}

/-- Hop by hop the pool's swap, made with the chain in `y`, returns what its quote, made with the
chain in `x`, returned for the same input. -/
def SameAnswers (H : Host X) : List RouteHop → I128 → X → X → Prop
  | [], _, _, _ => True
  | hop :: rest, amount, x, y =>
    match H.quote x hop.pool hop.source hop.destination amount,
      H.swap y hop.pool hop.source hop.destination amount 0 with
    | some (quoted, x), some (swapped, y) => swapped = quoted ∧ SameAnswers H rest quoted x y
    | _, _ => True

/-- The chain in which the hops of a swap start: the reserves are read and the input is moved. -/
def chainAtHops (H : Host X) (sender : Address) (params : SwapParams) (x : X) : Option X :=
  params.route.hops.head?.bind fun first =>
    inputMoved H sender params first (snapshotReserves H params.route.hops x).2

/-- The swap from `w` to `w'` charged `fee`: what the last pool returned is the output and the fee,
the fee is booked for the asset of the output, and it is the fee that is announced. -/
structure FeeCharged (H : Host X) (sender : Address) (params : SwapParams) (s : SwapResult)
    (w w' : World X) (fee : I128) : Prop where
  kept : ∃ returned, (chainAtHops H sender params w.ext).bind
      (lastAnswer H params.route.hops params.amountIn) = some returned ∧
    s.amountOut.toInt + fee.toInt = returned.toInt
  booked : ∀ last, params.route.hops.getLast? = some last → w'.fees.totalFeesCollected =
    (if 0 < fee then addFeeBalance last.destination fee w else w).fees.totalFeesCollected
  announced : ∃ ledger, w'.events.getLast? =
    some (.swapExecuted sender params.amountIn s.amountOut fee params.route ledger)

theorem swapHops_eq_quoteHops {hops : List RouteHop} :
    ∀ {amount quoted swapped : I128} {impact i j : UInt32} {x x' y y' : X},
      SameAnswers H hops amount x y → quoteHops H hops amount impact x = .ok (quoted, i, x') →
      swapHops H hops amount impact y = .ok (swapped, j, y') → swapped = quoted := by
  induction hops with
  | nil =>
    intro amount quoted swapped impact i j x x' y y' _ hquote hswap
    simp only [quoteHops, pure_eq_ok, Prod.mk.injEq] at hquote
    simp only [swapHops, pure_eq_ok, Prod.mk.injEq] at hswap
    rw [← hquote.1, hswap.1]
  | cons hop rest ih =>
    intro amount quoted swapped impact i j x x' y y' hsame hquote hswap
    simp only [quoteHops, bind_eq_ok, okOr_eq_ok, Prod.exists] at hquote
    simp only [swapHops, bind_eq_ok, okOr_eq_ok, Prod.exists] at hswap
    obtain ⟨out, x1, hout, hquoteRest⟩ := hquote
    obtain ⟨out', y1, hout', hswapRest⟩ := hswap
    simp only [SameAnswers, hout, hout'] at hsame
    obtain ⟨rfl, hrest⟩ := hsame
    exact ih hrest hquoteRest hswapRest

variable {asset : Asset} {fee : I128}

theorem booked_congr {v : World X} (hfees : v.fees = w.fees) :
    (if 0 < fee then addFeeBalance asset fee v else v).fees.totalFeesCollected =
      (if 0 < fee then addFeeBalance asset fee w else w).fees.totalFeesCollected := by
  split_ifs
  · simp only [addFeeBalance, hfees]
  · rw [hfees]

theorem splitFee_sum {feeRate : UInt32} {amount out : I128}
    (h : splitFee feeRate amount = .ok (fee, out)) : out.toInt + fee.toInt = amount.toInt := by
  simp only [splitFee, bind_eq_ok, okOr_eq_ok, pure_eq_ok, Prod.mk.injEq] at h
  obtain ⟨product, -, fee', -, out', hsub, rfl, rfl⟩ := h
  rw [SInt.checkedSub, SInt.ofInt?_eq_some] at hsub
  omega

theorem executeSwapInternal_charged
    (h : executeSwapInternal H auth sender params w = .ok (s, w')) :
    ∃ x amount impact y fee, chainAtHops H sender params w.ext = some x ∧
      swapHops H params.route.hops params.amountIn 0 x = .ok (amount, impact, y) ∧
      splitFee w.config.feeRate amount = .ok (fee, s.amountOut) ∧
      FeeCharged H sender params s w w' fee := by
  obtain ⟨w1, first, last, fee, v, u, w2, amount, hs, hhopped, hevent⟩ :=
    executeSwapInternal_hopped h
  obtain ⟨impact, y, hhops, -⟩ := hhopped.hops
  obtain ⟨mev, hmev, -⟩ := rateLimit_eq_ok hs.rate
  have hchain : chainAtHops H sender params w.ext = some w2.ext := by
    have hmoved := transferAsset_inputMoved hhopped.paid
    rw [hmev] at hmoved
    rw [chainAtHops, hs.head, Option.bind_some]
    exact hmoved
  have hne : params.route.hops ≠ [] := by
    intro hempty
    have hhead := hs.head
    simp [hempty] at hhead
  refine ⟨w2.ext, amount, impact, y, fee, hchain, hhops, hhopped.split, ?kept, ?booked, hevent⟩
  case kept =>
    rw [hchain, Option.bind_some]
    exact ⟨amount, swapHops_lastAnswer hne hhops, splitFee_sum hhopped.split⟩
  case booked =>
    intro last' hlast'
    obtain rfl : last = last' := Option.mem_unique hs.getLast hlast'
    rw [hs.after.books.fees, ← booked_congr hs.moved.fees]
    rcases collectFee_cases hs.collect with ⟨hzero, rfl⟩ | ⟨hpos, rfl | ⟨config, ps, -, -, hdist⟩⟩
    · rw [if_neg hzero]
    · rw [if_pos hpos]
      rfl
    · rw [if_pos hpos]
      rcases distributeFeesInternal_cases hdist with ⟨-, rfl⟩ | ⟨v, hv, rfl⟩
      · rfl
      · exact (payRecipients_paid hv).collected

/-- A quote and a swap of the same route and amount that both succeed in the same state. -/
theorem swap_as_quoted {q : QuoteResult} {wq : World X} (hc : c.swap = some (sender, params))
    (hquote : getQuote H params.amountIn params.route w = .ok (q, wq))
    (hswap : invoke H auth c w = .ok (.swapped s, w'))
    (hsame : ∀ x, chainAtHops H sender params w.ext = some x →
      SameAnswers H params.route.hops params.amountIn w.ext x) :
    s.amountOut = q.expectedOutput ∧ FeeCharged H sender params s w w' q.feeAmount := by
  simp only [getQuote, bind_eq_ok, pure_eq_ok, Prod.mk.injEq, Prod.exists] at hquote
  obtain ⟨-, -, -, -, quoted, impact, x, hhops, _, _, hsplit, rfl, -⟩ := hquote
  obtain ⟨s', es, commitment, hs', -, hexec⟩ := invoke_swap_eq_ok hc hswap
  obtain rfl : s = s' := Ret.swapped.inj hs'
  obtain ⟨y, swapped, impact', y', fee, hchain, hhops', hsplit', hcharged⟩ :=
    executeSwapInternal_charged hexec
  -- the entry points change neither the chain nor the fee rate nor the fee accounts before the swap
  change chainAtHops H sender params w.ext = some y at hchain
  change splitFee w.config.feeRate swapped = _ at hsplit'
  obtain rfl : swapped = quoted := swapHops_eq_quoteHops (hsame y hchain) hhops hhops'
  rw [hsplit, Except.ok.injEq, Prod.mk.injEq] at hsplit'
  obtain ⟨rfl, hout⟩ := hsplit'
  refine ⟨hout.symm, hcharged.kept, ?_, hcharged.announced⟩
  intro last hlast
  rw [hcharged.booked last hlast]
  exact booked_congr rfl

theorem swap_as_quoted_tokens : ∃ q wq s w',
    getQuote quietHost 1000 (swapOver (.soroban 20) (.soroban 21)).route poolNine = .ok (q, wq) ∧
      invoke quietHost [5, 6] (.executeSwap 5 (swapOver (.soroban 20) (.soroban 21))) poolNine =
        .ok (.swapped s, w') ∧
      s.amountOut = q.expectedOutput ∧
      FeeCharged quietHost 5 (swapOver (.soroban 20) (.soroban 21)) s poolNine w' q.feeAmount := by
  have hquoted : (getQuote quietHost 1000 (swapOver (.soroban 20) (.soroban 21)).route poolNine).map
      (fun _ => ()) = .ok () := by decide
  have hswapped : (executeSwap quietHost [5, 6] 5 (swapOver (.soroban 20) (.soroban 21))
      poolNine).map (fun _ => ()) = .ok () := by decide
  obtain ⟨⟨q, wq⟩, hq, -⟩ := map_eq_ok.mp hquoted
  obtain ⟨⟨s, w'⟩, hw', -⟩ := map_eq_ok.mp hswapped
  have hinvoke : invoke quietHost [5, 6]
      (.executeSwap 5 (swapOver (.soroban 20) (.soroban 21))) poolNine = .ok (.swapped s, w') :=
    swapRet_eq_ok.mpr ⟨s, rfl, hw'⟩
  exact ⟨q, wq, s, w', hq, hinvoke,
    swap_as_quoted rfl hq hinvoke fun _ _ => ⟨rfl, trivial⟩⟩

end StellarRoute.Contracts
