import StellarRoute.Contracts.Spec.World

/-! The token allowlist (`tokens.rs`). -/

namespace StellarRoute.Contracts

open Lib

variable {X : Type} (H : Host X) (auth : Auth)

def MAX_BATCH : ℕ := 10
def MAX_DECIMALS : UInt32 := 19

def validateTokenInfo (info : TokenInfo) : Result Unit :=
  require (info.decimals ≤ MAX_DECIMALS) (fail .invalidAmount)

def isTokenAllowed (w : World X) (asset : Asset) : Bool := (w.tokens.allowedToken asset).isSome

def saveTokenInfo (info : TokenInfo) (w : World X) : World X :=
  { w with tokens.allowedToken := Function.update w.tokens.allowedToken info.asset (some info) }

/-- `storage::remove_token` together with the count, which never goes below zero. -/
def dropToken (asset : Asset) (w : World X) : World X :=
  { w with
    tokens.allowedToken := Function.update w.tokens.allowedToken asset none
    tokens.tokenCount := if 0 < w.tokens.tokenCount then w.tokens.tokenCount - 1 else
        w.tokens.tokenCount }

/-- The index is append-only: entry `catLen` is written and the length grows. -/
def pushCatEntry (category : TokenCategory) (asset : Asset) (w : World X) : Result (World X) := do
  let idx := w.tokens.catLen category
  let len ← okOr (idx.checkedAdd 1) .trap
  pure { w with
    tokens.catEntry := Function.update w.tokens.catEntry category
      (Function.update (w.tokens.catEntry category) idx (some asset))
    tokens.catLen := Function.update w.tokens.catLen category len }

def requireAdminAuth (caller : Address) (w : World X) : Result Unit := do
  requireAuth auth caller
  require (w.gov.isMultiSig = false) (fail .useGovernance)
  let admin ← getAdmin w
  require (admin = caller) (fail .unauthorized)

def addTokenInternal (caller : Address) (info : TokenInfo) (w : World X) : Result (World X) := do
  validateTokenInfo info
  require (isTokenAllowed w info.asset = false) (fail .tokenAlreadyAdded)
  let w := saveTokenInfo info w
  let w ← pushCatEntry info.category info.asset w
  let count ← okOr (w.tokens.tokenCount.checkedAdd 1) .trap
  let w := { w with tokens.tokenCount := count }
  pure (extendInstanceTtl H (emit (.tokenAdded info.asset caller) w))

def addToken (caller : Address) (info : TokenInfo) (w : World X) : Result (World X) := do
  requireAdminAuth auth caller w
  addTokenInternal H caller info w

def removeTokenInternal (caller : Address) (asset : Asset) (w : World X) : Result (World X) := do
  require (isTokenAllowed w asset = true) (fail .tokenNotAllowed)
  match asset with
  | .soroban addr => do
    require (isSupportedPool w addr = false) (fail .tokenInUse)
    pure (extendInstanceTtl H (emit (.tokenRemoved asset caller) (dropToken asset w)))
  | _ => pure (extendInstanceTtl H (emit (.tokenRemoved asset caller) (dropToken asset w)))

def removeToken (caller : Address) (asset : Asset) (w : World X) : Result (World X) := do
  requireAdminAuth auth caller w
  removeTokenInternal H caller asset w

/-- The category index is not touched, whatever category `updated` carries. -/
def updateTokenInternal (caller : Address) (asset : Asset) (updated : TokenInfo) (w : World X) :
    Result (World X) := do
  require (isTokenAllowed w asset = true) (fail .tokenNotAllowed)
  require (updated.asset = asset) (fail .invalidAmount)
  validateTokenInfo updated
  pure (extendInstanceTtl H (emit (.tokenUpdated asset caller) (saveTokenInfo updated w)))

def updateToken (caller : Address) (asset : Asset) (updated : TokenInfo) (w : World X) :
    Result (World X) := do
  requireAdminAuth auth caller w
  updateTokenInternal H caller asset updated w

def addTokensBatch (caller : Address) (tokens : List TokenInfo) (w : World X) :
    Result (World X) := do
  requireAdminAuth auth caller w
  require (tokens.length ≤ MAX_BATCH) (fail .batchTooLarge)
  tokens.foldlM (fun w info => addTokenInternal H caller info w) w

/-- The assets written in the index of `category`, oldest first. -/
def catIndex (w : World X) (category : TokenCategory) : List Asset :=
  (List.range (w.tokens.catLen category).toNat).filterMap fun i =>
    w.tokens.catEntry category (UInt32.ofNat i)

def getTokensByCategory (w : World X) (category : TokenCategory) : List Asset :=
  (catIndex w category).filter fun asset => isTokenAllowed w asset

/-- Skipped while the allowlist is empty. Both assets of a hop fail with the
same error, so the order of the checks does not show. -/
def validateRouteAssets (w : World X) (route : Route) : Result Unit :=
  if w.tokens.tokenCount = 0 then pure ()
  else require (∀ hop ∈ route.hops, isTokenAllowed w hop.source ∧ isTokenAllowed w hop.destination)
    (fail .tokenNotAllowed)

end StellarRoute.Contracts
