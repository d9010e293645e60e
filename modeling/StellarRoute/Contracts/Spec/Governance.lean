import StellarRoute.Contracts.Spec.Upgrade

/-! Multi-signature governance (`governance.rs`). -/

namespace StellarRoute.Contracts.Governance

open Lib

variable {X : Type} (H : Host X) (auth : Auth)

def MAX_SIGNERS : ℕ := 10

def isSigner (config : GovernanceConfig) (addr : Address) : Bool := addr ∈ config.signers

def hasApproved (p : Proposal) (addr : Address) : Bool := addr ∈ p.approvals

/-- The shares added with `checked_add`. -/
def checkedTotalBps (recipients : List FeeRecipient) : Result UInt32 :=
  recipients.foldlM (fun total r => okOr (total.checkedAdd r.shareBps) (fail .invalidFeeConfig)) 0

def checkFeeConfig (config : FeeConfig) : Result Unit := do
  require (config.recipients.length ≤ 5) (fail .invalidFeeConfig)
  let total ← checkedTotalBps config.recipients
  require (total = 10000) (fail .invalidFeeConfig)

/-- The pool list is not touched by the two pool actions, and neither looks at
whether the pool is registered. -/
def dispatchAction (action : ProposalAction) (w : World X) : Result (World X) :=
  match action with
  | .setFeeRate rate => do
    require (rate ≤ 1000) (fail .invalidAmount)
    pure (setFeeRate rate w)
  | .setFeeTo addr => pure { w with config.feeTo := some addr }
  | .setFeeConfig config => do
    checkFeeConfig config
    pure (setFeeConfig config w)
  | .registerPool pool _ => do
    let w := extendPoolEntry H 17280 (17280 * 30) pool (setSupportedPool H pool w)
    let count ← okOr (w.pools.poolCount.checkedAdd 1) .trap
    pure (emit (.poolRegistered pool) (setPoolCount count w))
  | .deregisterPool pool =>
    pure { w with
      pools.supportedPool := Function.update w.pools.supportedPool pool false
      pools.poolCount := if 0 < w.pools.poolCount then w.pools.poolCount - 1 else w.pools.poolCount }
  | .pause => pure (emit .paused (setPaused true w))
  | .unpause => pure (emit .unpaused (setPaused false w))
  | .upgrade wasmHash => executeWasmUpgrade H wasmHash w
  | .addSigner newSigner => do
    let config ← getGovernance w
    require (config.signers.length < MAX_SIGNERS) (fail .signerLimitReached)
    pure (setGovernance { config with signers := config.signers ++ [newSigner] } w)
  | .removeSigner signer => do
    let config ← getGovernance w
    require (config.threshold.toNat < config.signers.length) (fail .thresholdNotMet)
    pure (setGovernance { config with signers := config.signers.filter (· ≠ signer) } w)
  | .changeThreshold newThreshold => do
    let config ← getGovernance w
    require (newThreshold ≠ 0 ∧ newThreshold.toNat ≤ config.signers.length) (fail .invalidAmount)
    pure (setGovernance { config with threshold := newThreshold } w)

def initGovernance (signers : List Address) (threshold : UInt32) (proposalTtl : UInt64)
    (guardian : Option Address) (w : World X) : Result (World X) := do
  require (signers ≠ [] ∧ threshold ≠ 0 ∧ threshold.toNat ≤ signers.length) (fail .invalidAmount)
  require (signers.length ≤ MAX_SIGNERS) (fail .signerLimitReached)
  require (proposalTtl ≠ 0) (fail .invalidAmount)
  require (signers.Nodup) (fail .invalidAmount)
  require (H.contract ∉ signers) (fail .invalidRecipient)
  let w := setGovernance { signers := signers, threshold := threshold, proposalTtl := proposalTtl } w
  match guardian with
  | some g => pure (emit (.guardianSet g) (setGuardian g w))
  | none => pure w

def migrateToMultisig (admin : Address) (signers : List Address) (threshold : UInt32)
    (proposalTtl : UInt64) (guardian : Option Address) (w : World X) : Result (World X) := do
  requireAuth auth admin
  let current ← getAdmin w
  require (current = admin) (fail .unauthorized)
  require (w.gov.isMultiSig = false) (fail .alreadyInitialized)
  let w ← initGovernance H signers threshold proposalTtl guardian w
  pure (extendInstanceTtl H
    (emit (.governanceMigrated admin signers.length threshold) (setMultisig w)))

/-- The number of approvals is compared with the threshold, not who gave them. -/
def executeProposal (id : UInt64) (w : World X) : Result (World X) := do
  let config ← getGovernance w
  let proposal ← okOr (getProposal w id) (fail .proposalNotFound)
  require (proposal.executed = false) (fail .proposalAlreadyExecuted)
  require (w.now ≤ proposal.expiresAt) (fail .proposalExpired)
  require (config.threshold.toNat ≤ proposal.approvals.length) (fail .thresholdNotMet)
  let w := saveProposal { proposal with executed := true } w
  let w ← dispatchAction H proposal.action
    { w with gov.dispatched := w.gov.dispatched ++ [⟨proposal, config, w.ledger⟩] }
  pure (extendInstanceTtl H (emit (.proposalExecuted id) w))

/-- Execution in the same call, once enough approvals are there. -/
def autoExecute (reached : Bool) (id : UInt64) (w : World X) : Result (World X) :=
  if reached then executeProposal H id w else pure w

def propose (signer : Address) (action : ProposalAction) (w : World X) :
    Result (UInt64 × World X) := do
  requireAuth auth signer
  let config ← getGovernance w
  require (isSigner config signer = true) (fail .unauthorized)
  let (id, w) ← nextProposalId w
  let proposal : Proposal :=
    { id := id, action := action, proposer := signer, approvals := [signer],
      createdAt := w.now, expiresAt := w.now.saturatingAdd config.proposalTtl, executed := false }
  let w := emit (.proposalCreated id signer action) (saveProposal proposal w)
  let w ← autoExecute H (config.threshold = 1) id w
  pure (id, extendInstanceTtl H w)

def approve (signer : Address) (id : UInt64) (w : World X) : Result (World X) := do
  requireAuth auth signer
  let config ← getGovernance w
  require (isSigner config signer = true) (fail .unauthorized)
  let proposal ← okOr (getProposal w id) (fail .proposalNotFound)
  require (proposal.executed = false) (fail .proposalAlreadyExecuted)
  require (w.now ≤ proposal.expiresAt) (fail .proposalExpired)
  require (hasApproved proposal signer = false) (fail .alreadyApproved)
  let proposal := { proposal with approvals := proposal.approvals ++ [signer] }
  let w := emit (.proposalApproved id signer proposal.approvals.length) (saveProposal proposal w)
  let w ← autoExecute H (config.threshold.toNat ≤ proposal.approvals.length) id w
  pure (extendInstanceTtl H w)

def cancel (signer : Address) (id : UInt64) (w : World X) : Result (World X) := do
  requireAuth auth signer
  let config ← getGovernance w
  let proposal ← okOr (getProposal w id) (fail .proposalNotFound)
  require (proposal.executed = false) (fail .proposalAlreadyExecuted)
  require (proposal.proposer = signer ∨ isSigner config signer = true) (fail .unauthorized)
  let w := saveProposal { proposal with executed := true } w
  pure (extendInstanceTtl H (emit (.proposalCancelled id signer) w))

/-- The guardian may pause in either mode. -/
def guardianPause (guardian : Address) (w : World X) : Result (World X) := do
  requireAuth auth guardian
  let stored ← okOr w.gov.guardian (fail .unauthorized)
  require (stored = guardian) (fail .unauthorized)
  pure (extendInstanceTtl H (emit (.guardianPaused guardian) (setPaused true w)))

end StellarRoute.Contracts.Governance
