import StellarRoute.Lib.MachineInt
import StellarRoute.Routing.Spec.ChainAsset

/-! Price impact and constant-product quotes (`impact.rs`). -/

namespace StellarRoute.Routing

open Lib

/-- How a computation ends without a result: with an error, where an operation that is not checked
leaves the range of `i128` (a debug build panics there, a release build goes on with the wrapped
value), or with a division by zero. -/
inductive Fault where
  | error (e : RoutingError)
  | overflow
  | divisionByZero
deriving DecidableEq

abbrev Calc := Except Fault

namespace Impact

def SCALE_1E7 : ℤ := 10000000
def BASIS_POINTS : ℤ := 10000

/-- The result of an operation that is not checked. -/
def unchecked (z : ℤ) : Calc I128 := okOr (SInt.ofInt? 128 z) .overflow

/-- The result of a `checked_` operation. -/
def checked (z : ℤ) : Calc I128 := okOr (SInt.ofInt? 128 z) (.error .overflow)

def quotient (a b : ℤ) : Calc I128 := do
  require (b ≠ 0) .divisionByZero
  unchecked (a.tdiv b)

def invalidAmount (msg : String) : Fault := .error (.invalidAmount msg)

def insufficientLiquidity (msg : String) : Fault := .error (.insufficientLiquidity msg)

/-- The excess of a price over another in basis points, and its conversion to `u32`. -/
def impactBps (after before : ℤ) : Calc UInt32 := do
  let bps ← if before < after then do
      let excess ← unchecked (after - before)
      quotient (← unchecked (excess.toInt * BASIS_POINTS)).toInt before
    else pure 0
  pure (UInt32.ofNat (bps.toInt % 2 ^ 32).toNat)

/-! ### Order books -/

/-- A price and the amount that is available at it. -/
abbrev Level := I128 × I128

/-- An amount and the price at which it is filled. -/
abbrev PartialFill := I128 × I128

def fillLevels (remaining totalCost : I128) (partialFills : List PartialFill) :
    List Level → Calc (I128 × I128 × List PartialFill)
  | [] => pure (remaining, totalCost, partialFills)
  | (price, available) :: levels => do
    require (0 < price ∧ 0 < available) (invalidAmount "invalid level")
    if remaining = 0 then pure (remaining, totalCost, partialFills)
    else
      let fillAmount := if remaining ≤ available then remaining else available
      let cost ← quotient (← unchecked (fillAmount.toInt * price.toInt)).toInt SCALE_1E7
      let totalCost ← checked (totalCost.toInt + cost.toInt)
      let remaining ← unchecked (remaining.toInt - fillAmount.toInt)
      fillLevels remaining totalCost (partialFills ++ [(fillAmount, price)]) levels

def calculateImpact (amountIn : I128) (orderbookLevels : List Level) :
    Calc (UInt32 × I128 × List PartialFill) := do
  require (0 < amountIn) (invalidAmount "amount_in must be positive")
  let baseline ← okOr orderbookLevels.head? (insufficientLiquidity "empty orderbook")
  let (remaining, totalCost, partialFills) ← fillLevels amountIn 0 [] orderbookLevels
  require (remaining ≤ 0)
    (insufficientLiquidity s!"insufficient liquidity: {remaining.toInt} remaining")
  let effectivePrice ← quotient (← unchecked (totalCost.toInt * SCALE_1E7)).toInt amountIn.toInt
  let impact ← impactBps effectivePrice.toInt baseline.1.toInt
  pure (impact, effectivePrice, partialFills)

/-! ### Constant-product pools -/

/-- What is left of the scale after the fee. -/
def feeMultiplier (feeBps : UInt32) : ℤ := BASIS_POINTS - feeBps.toNat

def quoteConstantProduct (amountIn reserveIn reserveOut : I128) (feeBps : UInt32) :
    Calc (I128 × UInt32) := do
  require (0 < amountIn) (invalidAmount "amount_in must be positive")
  require (0 < reserveIn ∧ 0 < reserveOut) (invalidAmount "reserves must be positive")
  require (feeBps ≤ 10000) (invalidAmount "fee_bps must be in [0, 10000]")
  let amountInWithFee ←
    quotient (← unchecked (amountIn.toInt * feeMultiplier feeBps)).toInt BASIS_POINTS
  let numerator ← checked (amountInWithFee.toInt * reserveOut.toInt)
  let denominator ← checked (reserveIn.toInt + amountInWithFee.toInt)
  require (denominator ≠ 0) (invalidAmount "invalid reserve state")
  let output ← quotient numerator.toInt denominator.toInt
  require (0 < output) (insufficientLiquidity "zero output from AMM")
  let priceBefore ← quotient (← unchecked (reserveOut.toInt * SCALE_1E7)).toInt reserveIn.toInt
  let priceAfter ← quotient (← unchecked (amountIn.toInt * SCALE_1E7)).toInt output.toInt
  pure (output, ← impactBps priceAfter.toInt priceBefore.toInt)

def quoteConstantProductReverse (amountOut reserveIn reserveOut : I128) (feeBps : UInt32) :
    Calc (I128 × UInt32) := do
  require (0 < amountOut ∧ amountOut < reserveOut) (invalidAmount "invalid amount_out")
  require (0 < reserveIn ∧ 0 < reserveOut) (invalidAmount "reserves must be positive")
  let numerator ← checked (reserveIn.toInt * amountOut.toInt)
  let denominator ← checked (reserveOut.toInt - amountOut.toInt)
  require (0 < denominator) (insufficientLiquidity "insufficient reserve_out")
  let quotientDown ← quotient numerator.toInt denominator.toInt
  let inputBeforeFee ← checked (quotientDown.toInt + 1)
  require (0 < feeMultiplier feeBps) (invalidAmount "invalid fee")
  let scaled ←
    quotient (← unchecked (inputBeforeFee.toInt * BASIS_POINTS)).toInt (feeMultiplier feeBps)
  let inputRequired ← unchecked (scaled.toInt + 1)
  let priceBefore ← quotient (← unchecked (reserveOut.toInt * SCALE_1E7)).toInt reserveIn.toInt
  let priceAfter ← quotient (← unchecked (inputRequired.toInt * SCALE_1E7)).toInt amountOut.toInt
  pure (inputRequired, ← impactBps priceAfter.toInt priceBefore.toInt)

end Impact

end StellarRoute.Routing
