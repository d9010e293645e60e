import StellarRoute.Lib.Guard
import StellarRoute.Contracts.Spec.Types

/-! The adapter of a constant-product pool (`constant_product_adapter.rs`). The
pool is the pair of reserves with which it answers `get_rsrvs`; a panic is an
error with its text. -/

namespace StellarRoute.Contracts.ConstantProductAdapter

open Lib

/-- The reserves in the order in which the pool has them. -/
abbrev Pool := I128 × I128

def getRsrvs (pool : Pool) : I128 × I128 := pool

/-- The reserves `res_in` and `res_out` of a quote, which does not look at the assets. -/
def quoteReserves (pool : Pool) (_inputAsset _outputAsset : Asset) : I128 × I128 := getRsrvs pool

def adapterQuote (pool : Pool) (inputAsset outputAsset : Asset) (amountIn : I128) :
    Except String I128 := do
  let (resIn, resOut) := quoteReserves pool inputAsset outputAsset
  let amountWithFee ← okOr (amountIn.checkedMul 997) "overflow: amount_with_fee"
  let numerator ← okOr (amountWithFee.checkedMul resOut) "overflow: numerator"
  let denominator ← okOr ((resIn.checkedMul 1000).bind (·.checkedAdd amountWithFee))
    "overflow: denominator"
  require (denominator ≠ 0) "division by zero: empty pool reserves"
  okOr (numerator.checkedDiv denominator) "overflow: division"

end StellarRoute.Contracts.ConstantProductAdapter
