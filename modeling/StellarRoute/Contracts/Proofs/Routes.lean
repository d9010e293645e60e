import StellarRoute.Contracts.Sanity.Frame

/-! Swaps against the route validator. The execution path repeats only part of
what `validate_route` checks: not the continuity of the hops, not the expiry of
the route, not the estimate, and behind a commitment not the allowlist. -/

namespace StellarRoute.Contracts

open Lib

variable {X : Type} {H : Host X} {auth : Auth} {c : Call} {w w' : World X}

def Call.swapParams : Call → Option SwapParams
  | .executeSwap _ params => some params
  | .execute _ params => some params
  | .revealAndExecute _ params _ => some params
  | _ => none

def Call.isReveal : Call → Bool
  | .revealAndExecute .. => true
  | _ => false

/-- What no entry point checks before it swaps. -/
structure SoundRoute (w : World X) (route : Route) : Prop where
  continuous : continuous route.hops = true
  fresh : route.expiresAt = 0 ∨ w.now ≤ route.expiresAt
  estimate : 0 ≤ route.estimatedOutput
  minimum : 0 < route.estimatedOutput → route.minOutput ≤ route.estimatedOutput

/-- What every entry point checks. -/
structure SwapChecked (w : World X) (route : Route) : Prop where
  nonempty : route.hops ≠ []
  hops : route.hops.length ≤ MAX_HOPS
  minOutput : 0 ≤ route.minOutput
  pools : ∀ hop ∈ route.hops, isSupportedPool w hop.pool = true

theorem validateRoute_eq_ok {route : Route} (hchecked : SwapChecked w route) :
    validateRoute w route = .ok () ↔
      SoundRoute w route ∧ validateRouteAssets w route = .ok () := by
  have hpools : batchCheckPools w (route.hops.map (·.pool)) = true := by
    rw [batchCheckPools, List.all_map, List.all_eq_true]
    exact hchecked.pools
  simp only [validateRoute, bind_eq_ok, require_eq_ok, exists_const]
  constructor
  · rintro ⟨-, -, hfresh, hestimate, hminimum, hcontinuous, _, hassets, -⟩
    exact ⟨⟨hcontinuous, hfresh, hestimate.1, hminimum⟩, hassets⟩
  · rintro ⟨hsound, hassets⟩
    exact ⟨hchecked.nonempty, hchecked.hops, hsound.fresh, ⟨hsound.estimate, hchecked.minOutput⟩,
      hsound.minimum, hsound.continuous, (), hassets, hpools⟩

variable {params : SwapParams} {sender : Address} {s : SwapResult}

theorem executeSwapInternal_checked (h : executeSwapInternal H auth sender params w = .ok (s, w')) :
    SwapChecked w params.route := by
  simp only [executeSwapInternal, checkSwapParams, bind_eq_ok, require_eq_ok, exists_const] at h
  obtain ⟨⟨-, hmin, -, -, -, -, -, -, ⟨hne, hlen⟩, hpools⟩, -⟩ := h
  exact ⟨hne, hlen, hmin.2, hpools⟩

theorem executeSwap_checked (h : executeSwap H auth sender params w = .ok (s, w')) :
    SwapChecked w params.route ∧ validateRouteAssets w params.route = .ok () := by
  simp only [executeSwap, bind_eq_ok] at h
  obtain ⟨-, -, -, -, _, hassets, -, -, h⟩ := h
  exact ⟨executeSwapInternal_checked h, hassets⟩

theorem revealAndExecute_checked {salt : Bytes32}
    (h : revealAndExecute H auth sender params salt w = .ok (s, w')) :
    SwapChecked w params.route := by
  simp only [revealAndExecute, bind_eq_ok] at h
  obtain ⟨-, -, -, -, commitment, -, -, -, -, -, h⟩ := h
  have hchecked := executeSwapInternal_checked h
  exact ⟨hchecked.nonempty, hchecked.hops, hchecked.minOutput, hchecked.pools⟩

/-- A swap that went through used a route that the validator accepts exactly
when the route also passes the checks the execution leaves out. -/
theorem swap_route_valid_iff {params : SwapParams} {r : Ret} (hc : c.swapParams = some params)
    (h : invoke H auth c w = .ok (r, w')) :
    validateRoute w params.route = .ok () ↔
      SoundRoute w params.route ∧
        (c.isReveal = true → validateRouteAssets w params.route = .ok ()) := by
  cases c <;> simp only [Call.swapParams, Option.some.injEq, reduceCtorEq] at hc <;> subst hc <;>
    simp only [invoke, swapRet_eq_ok] at h <;> obtain ⟨s, -, h⟩ := h
  case executeSwap sender params =>
    obtain ⟨hchecked, hassets⟩ := executeSwap_checked h
    simp [validateRoute_eq_ok hchecked, hassets, Call.isReveal]
  case execute sender params =>
    obtain ⟨hchecked, hassets⟩ := executeSwap_checked h
    have hchecked' : SwapChecked w params.route :=
      ⟨hchecked.nonempty, hchecked.hops, hchecked.minOutput, hchecked.pools⟩
    have hassets' : validateRouteAssets w params.route = .ok () := hassets
    simp [validateRoute_eq_ok hchecked', hassets', Call.isReveal]
  case revealAndExecute sender params salt =>
    simp [validateRoute_eq_ok (revealAndExecute_checked h), Call.isReveal]

/-- The hops do not fit together, and the route has been stale for long. -/
def brokenRoute : Route :=
  { hops := [⟨.soroban 20, .soroban 21, 9, .ammConstProd⟩, ⟨.soroban 30, .soroban 31, 9, .ammConstProd⟩],
    estimatedOutput := 0, minOutput := 0, expiresAt := 5 }

def goodRoute : Route :=
  { hops := [⟨.soroban 20, .soroban 21, 9, .ammConstProd⟩, ⟨.soroban 21, .soroban 31, 9, .ammConstProd⟩],
    estimatedOutput := 0, minOutput := 0, expiresAt := 500 }

def swapAlong (route : Route) : SwapParams :=
  { route := route, amountIn := 1000, minAmountOut := 0, recipient := 5, deadline := 200,
    notBefore := 0, maxPriceImpactBps := 0, maxExecutionSpreadBps := 0 }

/-- One pool is registered and a hundred ledgers have closed. -/
def onePool : World Unit :=
  run quietHost quietWorld [quietSetup, .invoke [1] (.registerPool 9), .advance 100]

theorem goodRoute_valid : ∃ r w',
    invoke quietHost [5] (.executeSwap 5 (swapAlong goodRoute)) onePool = .ok (r, w') ∧
      validateRoute onePool goodRoute = .ok () := by
  have hok : (invoke quietHost [5] (.executeSwap 5 (swapAlong goodRoute)) onePool).map
      (fun _ => ()) = .ok () := by decide
  obtain ⟨⟨r, w'⟩, hw', -⟩ := map_eq_ok.mp hok
  refine ⟨r, w', hw', (swap_route_valid_iff rfl hw').mpr ⟨?_, ?_⟩⟩
  · exact ⟨by decide, .inr (by decide), by decide, by decide⟩
  · exact nofun

/-- The validator refuses the route; the swap goes through. -/
theorem brokenRoute_swapped :
    Reachable quietHost onePool ∧
      validateRoute onePool brokenRoute = .error (fail .routeExpired) ∧
      continuous brokenRoute.hops = false ∧
      ∃ r w', invoke quietHost [5] (.executeSwap 5 (swapAlong brokenRoute)) onePool = .ok (r, w') := by
  have hok : (invoke quietHost [5] (.executeSwap 5 (swapAlong brokenRoute)) onePool).map
      (fun _ => ()) = .ok () := by decide
  obtain ⟨⟨r, w'⟩, hw', -⟩ := map_eq_ok.mp hok
  exact ⟨reachable_quietWorld.run _, by decide, by decide, r, w', hw'⟩

end StellarRoute.Contracts
