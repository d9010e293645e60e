import StellarRoute.Contracts.Spec.World

/-! Versions and code upgrades (`upgrade.rs`). -/

namespace StellarRoute.Contracts

open Lib

variable {X : Type} (H : Host X) (auth : Auth)

def MIN_DELAY_LEDGERS : UInt64 := 4320

def getVersion (w : World X) : ContractVersion :=
  w.upgrades.contractVersion.getD
    { major := 1, minor := 0, patch := 0, wasmHash := zeroHash, upgradedAt := 0 }

/-- The version is also kept in the history, under the ledger it was activated at. -/
def setContractVersion (v : ContractVersion) (w : World X) : World X :=
  { w with
    upgrades.contractVersion := some v
    upgrades.versionHistory := Function.update w.upgrades.versionHistory v.upgradedAt (some v) }

def setInitialVersion (wasmHash : Bytes32) (w : World X) : World X :=
  setContractVersion
    { major := 1, minor := 0, patch := 0, wasmHash := wasmHash, upgradedAt := 0 } w

def getVersionAt (w : World X) (ledger : UInt64) : Option ContractVersion :=
  w.upgrades.versionHistory ledger

def setPendingUpgrade (p : Option PendingUpgrade) (w : World X) : World X :=
  { w with upgrades.pendingUpgrade := p }

def proposeUpgrade (admin : Address) (newWasmHash : Bytes32) (executeAfter : UInt64) (w : World X) :
    Result (World X) := do
  requireAuth auth admin
  let current ← getAdmin w
  require (current = admin) (fail .unauthorized)
  require (w.gov.isMultiSig = false) (fail .useGovernance)
  require (getPaused w = false) (fail .paused)
  require ((getVersion w).wasmHash ≠ newWasmHash) (fail .sameWasmHash)
  require (newWasmHash ≠ zeroHash) (fail .invalidAmount)
  require (w.upgrades.pendingUpgrade = none) (fail .upgradePending)
  let effectiveAfter :=
    if executeAfter < w.now + MIN_DELAY_LEDGERS then w.now + MIN_DELAY_LEDGERS else executeAfter
  let w' := setPendingUpgrade
    (some { newWasmHash := newWasmHash, proposedAt := w.now, executeAfter := effectiveAfter,
            proposer := admin }) w
  pure (extendInstanceTtl H
    (emit (.upgradeProposed admin (getVersion w).wasmHash newWasmHash effectiveAfter) w'))

def migrate (version : ContractVersion) (w : World X) : Result (World X) := do
  let key := (version.major, version.minor, version.patch)
  require (w.upgrades.migrationDone key = false) (fail .migrationAlreadyDone)
  pure (emit (.migrationCompleted version.major version.minor version.patch)
    { w with upgrades.migrationDone := Function.update w.upgrades.migrationDone key true })

/-- `update_current_contract_wasm` traps for code that was never uploaded; the
patch number wraps. -/
def executeWasmUpgrade (newWasmHash : Bytes32) (w : World X) : Result (World X) := do
  let old := getVersion w
  require (old.wasmHash ≠ newWasmHash) (fail .sameWasmHash)
  require (H.hasWasm w.ext newWasmHash = true) .trap
  let version : ContractVersion :=
    { major := old.major, minor := old.minor, patch := old.patch + 1,
      wasmHash := newWasmHash, upgradedAt := w.now }
  let w := setContractVersion version { w with upgrades.wasm := newWasmHash }
  migrate version (emit (.upgradeCompleted old.wasmHash newWasmHash w.now) w)

/-- There is no check of the administration mode here. -/
def executeUpgrade (admin : Address) (w : World X) : Result (World X) := do
  let current ← getAdmin w
  require (current = admin) (fail .unauthorized)
  requireAuth auth admin
  let pending ← okOr w.upgrades.pendingUpgrade (fail .noUpgradePending)
  require (pending.executeAfter ≤ w.now) (fail .upgradeLocked)
  require (getPaused w = false) (fail .paused)
  let w ← executeWasmUpgrade H pending.newWasmHash (setPendingUpgrade none w)
  pure (extendInstanceTtl H w)

def cancelUpgrade (admin : Address) (w : World X) : Result (World X) := do
  requireAuth auth admin
  let pending ← okOr w.upgrades.pendingUpgrade (fail .noUpgradePending)
  require (pending.proposer = admin) (fail .unauthorized)
  pure (extendInstanceTtl H (emit (.upgradeCancelled admin) (setPendingUpgrade none w)))

end StellarRoute.Contracts
