import StellarRoute.Lib.Transition
import StellarRoute.Contracts.Spec.Swap

/-! Runs of the router. Invocations of its entry points by any callers are
interleaved with the closing of ledgers and with whatever happens on the chain
outside it. A failed invocation leaves no trace. -/

namespace StellarRoute.Contracts

open Lib

variable {X : Type} (H : Host X)

/-- The entry points that write; the getters and `get_quote` change nothing of the router. -/
inductive Call where
  | initializeRouter (admin : Address) (feeRate : UInt32) (feeTo : Address)
      (initialWasmHash : Option Bytes32)
  | migrateToMultisig (admin : Address) (signers : List Address) (threshold : UInt32)
      (proposalTtl : UInt64) (guardian : Option Address)
  | setAdmin (newAdmin : Address)
  | setFeeDistributionConfig (config : FeeConfig)
  | distributeFees (asset : Asset)
  | registerPool (pool : Address)
  | pause (caller : Address)
  | unpause (caller : Address)
  | propose (signer : Address) (action : ProposalAction)
  | approveProposal (signer : Address) (id : UInt64)
  | executeProposal (id : UInt64)
  | cancelProposal (signer : Address) (id : UInt64)
  | guardianPause (guardian : Address)
  | proposeUpgrade (admin : Address) (newWasmHash : Bytes32) (executeAfter : UInt64)
  | executeUpgrade (admin : Address)
  | cancelUpgrade (admin : Address)
  | addToken (caller : Address) (info : TokenInfo)
  | removeToken (caller : Address) (asset : Asset)
  | updateToken (caller : Address) (asset : Asset) (updated : TokenInfo)
  | addTokensBatch (caller : Address) (tokens : List TokenInfo)
  | configureMev (config : MevConfig)
  | setWhitelist (address : Address) (whitelisted : Bool)
  | updateKnownPrice (tokenA tokenB : Address) (price : I128)
  | commitSwap (sender : Address) (commitmentHash : Bytes32) (depositAmount : I128)
  | revealAndExecute (sender : Address) (params : SwapParams) (salt : Bytes32)
  | executeSwap (sender : Address) (params : SwapParams)
  | execute (sender : Address) (params : SwapParams)
  | extendStorageTtl

inductive Ret where
  | unit
  | proposalId (id : UInt64)
  | swapped (result : SwapResult)

def noRet (r : Result (World X)) : Result (Ret × World X) := do
  let w ← r
  pure (.unit, w)

def swapRet (r : Result (SwapResult × World X)) : Result (Ret × World X) := do
  let (result, w) ← r
  pure (.swapped result, w)

def invoke (auth : Auth) (c : Call) (w : World X) : Result (Ret × World X) :=
  match c with
  | .initializeRouter admin feeRate feeTo hash => noRet (initializeRouter admin feeRate feeTo hash w)
  | .migrateToMultisig admin signers threshold ttl guardian =>
    noRet (Governance.migrateToMultisig H auth admin signers threshold ttl guardian w)
  | .setAdmin newAdmin => noRet (setAdmin H auth newAdmin w)
  | .setFeeDistributionConfig config => noRet (setFeeDistributionConfig H auth config w)
  | .distributeFees asset => noRet (distributeFees H asset w)
  | .registerPool pool => noRet (registerPool H auth pool w)
  | .pause caller => noRet (pause H auth caller w)
  | .unpause caller => noRet (unpause H auth caller w)
  | .propose signer action => do
    let (id, w) ← propose H auth signer action w
    pure (.proposalId id, w)
  | .approveProposal signer id => noRet (approveProposal H auth signer id w)
  | .executeProposal id => noRet (executeProposal H id w)
  | .cancelProposal signer id => noRet (cancelProposal H auth signer id w)
  | .guardianPause guardian => noRet (Governance.guardianPause H auth guardian w)
  | .proposeUpgrade admin hash after => noRet (proposeUpgrade H auth admin hash after w)
  | .executeUpgrade admin => noRet (executeUpgrade H auth admin w)
  | .cancelUpgrade admin => noRet (cancelUpgrade H auth admin w)
  | .addToken caller info => noRet (addToken H auth caller info w)
  | .removeToken caller asset => noRet (removeToken H auth caller asset w)
  | .updateToken caller asset updated => noRet (updateToken H auth caller asset updated w)
  | .addTokensBatch caller tokens => noRet (addTokensBatch H auth caller tokens w)
  | .configureMev config => noRet (configureMev H auth config w)
  | .setWhitelist address whitelisted => noRet (setWhitelist H auth address whitelisted w)
  | .updateKnownPrice tokenA tokenB price => noRet (updateKnownPrice H auth tokenA tokenB price w)
  | .commitSwap sender hash deposit => noRet (commitSwap H auth sender hash deposit w)
  | .revealAndExecute sender params salt => swapRet (revealAndExecute H auth sender params salt w)
  | .executeSwap sender params => swapRet (executeSwap H auth sender params w)
  | .execute sender params => swapRet (execute H auth sender params w)
  | .extendStorageTtl => pure (.unit, extendStorageTtl H w)

inductive Op (X : Type) where
  | invoke (auth : Auth) (c : Call)
  /-- ledgers close; the sequence number is a `u32` -/
  | advance (ledgers : ℕ)
  /-- other contracts and accounts act -/
  | outside (ext : X)

def step (w : World X) : Op X → World X
  | .invoke auth c =>
    match invoke H auth c w with
    | .ok (_, w') => w'
    | .error _ => w
  | .advance n =>
    if w.ledger.toNat + n < 2 ^ 32 then { w with ledger := UInt32.ofNat (w.ledger.toNat + n) } else w
  | .outside x => { w with ext := x }

abbrev run (w : World X) (ops : List (Op X)) : World X := Transition.run (step H) w ops

/-- A state of some run of the contract from its deployment on. -/
def Reachable (w : World X) : Prop :=
  ∃ ledger wasm ext ops, w = run H (World.deployed H ledger wasm ext) ops

/-- A host in which every call outside the router succeeds, with the limits of
the main network. Concrete runs are made in it. -/
def quietHost : Host Unit where
  contract := 0
  sha256 := fun _ => zeroHash
  hasWasm := fun _ _ => true
  transfer := fun x _ _ _ _ => some x
  burn := fun x _ _ _ => some x
  quote := fun x _ _ _ amount => some (amount, x)
  swap := fun x _ _ _ amount _ => some (amount, x)
  getRsrvs := fun x _ => (some (1000, 1000), x)
  minTempTtl := 17280
  minPersistentTtl := 2073600
  maxEntryTtl := 3110400

def quietWorld : World Unit := World.deployed quietHost 1 zeroHash ()

/-- The first call: 1 is the admin, 2 gets the fees of one percent. -/
def quietSetup : Op Unit := .invoke [] (.initializeRouter 1 100 2 none)

end StellarRoute.Contracts
