import StellarRoute.Cctp.Spec.Message

/-! Stellar transactions as the bridge reads them: the hashes of an envelope
(`stellar_payload.rs`), the one contract call in it and the answer of
`getTransaction` (`stellar_tx.rs`). -/

namespace StellarRoute.Cctp

open Lib

def STELLAR_TESTNET_PASSPHRASE : String := "Test SDF Network ; September 2015"

/-- The settings that the modelled code reads. `configured` is the result of `is_configured`. -/
structure CctpConfig where
  enabled : Bool
  configured : Bool
  stellarNetworkPassphrase : String
  amountCap : String
  quoteTtlSecs : ℕ
  pollTimeoutSecs : ℕ

variable (c : Codec) (cfg : CctpConfig)

def passphraseForConfig : String :=
  if cfg.stellarNetworkPassphrase.isEmpty then STELLAR_TESTNET_PASSPHRASE
  else cfg.stellarNetworkPassphrase

def unsignedEnvelopeXdr (envelopeXdr : String) : Except VerifierError String := do
  match ← (c.envelopeFromXdr envelopeXdr).mapError VerifierError.failed with
  | .tx _ _ => pure (c.withoutSignatures envelopeXdr)
  | .txFeeBump => .error (.failed "fee-bump envelopes unsupported")
  | .txV0 => .error (.failed "v0 envelopes unsupported")

/-- SHA-256 of the JSON of the payload, its signatures removed. -/
def payloadHashFromEnvelopeXdr (envelopeXdr : String) : Except VerifierError String := do
  let xdrEnvelope ← unsignedEnvelopeXdr c envelopeXdr
  let payload := PreparedWalletPayload.stellarXdr (passphraseForConfig cfg) xdrEnvelope none
  pure (hexEncode (c.sha256 (c.walletPayloadJson payload)).bytes)

def transactionHashFromEnvelopeXdr (envelopeXdr networkPassphrase : String) :
    Except VerifierError String := do
  match ← (c.envelopeFromXdr envelopeXdr).mapError VerifierError.failed with
  | .tx _ _ => pure (hexEncode (c.transactionHash envelopeXdr networkPassphrase).bytes)
  | .txFeeBump => .error (.failed "fee-bump envelopes unsupported")
  | .txV0 => .error (.failed "v0 envelopes unsupported")

/-- `wallet_payload_hash` of `service.rs`. -/
def walletPayloadHash (payload : PreparedWalletPayload) : Except VerifierError String :=
  match payload with
  | .stellarXdr _ xdrEnvelope _ => payloadHashFromEnvelopeXdr c cfg xdrEnvelope
  | .evmTransaction .. => .ok (hexEncode (c.sha256 (c.walletPayloadJson payload)).bytes)

inductive TxStatus where
  | success
  | failed
deriving DecidableEq

structure FinalizedTx where
  txHash : String
  status : TxStatus
  ledger : ℕ
  latestLedger : Option ℕ
  envelopeXdr : String
  contractEvents : List ContractEvent

structure ParsedInvoke where
  sourceAccount : String
  operationSource : String
  contractStrkey : String
  contractHash : Bytes32
  function : String
  args : List ScVal

def muxedAccountToStrkey : MuxedAccount → String
  | .ed25519 key => c.accountToString key
  | .muxedEd25519 key id => c.muxedToString key id

def parseInvokeArgs (source operationSource : String) (contractAddress : ScAddress)
    (function : String) (args : List ScVal) : Except VerifierError ParsedInvoke :=
  match contractAddress with
  | .contract id => .ok { sourceAccount := source, operationSource
                          contractStrkey := c.contractToString id, contractHash := id
                          function, args }
  | _ => .error (.failed "invoke target not contract")

def parseInvokeEnvelope (envelopeXdr : String) : Except VerifierError ParsedInvoke := do
  match ← (c.envelopeFromXdr envelopeXdr).mapError VerifierError.failed with
  | .tx sourceAccount [op] =>
    let txSource := muxedAccountToStrkey c sourceAccount
    let operationSource := (op.sourceAccount.map (muxedAccountToStrkey c)).getD txSource
    match op.body with
    | .invokeContract contractAddress functionName args =>
      parseInvokeArgs c txSource operationSource contractAddress functionName args
    | .invokeOther => .error (.failed "expected contract invoke")
    | .other => .error (.failed "expected invoke")
  | .tx _ _ => .error (.failed "expected single operation")
  | _ => .error (.failed "expected v1 tx")

/-- Trimmed, without `0x`, in lower case. The length is checked before trimming. -/
def normalizeStellarTxHash (hash : String) : Except VerifierError String := do
  require (byteLen hash ≤ MAX_TX_HASH_LEN) (.failed "tx_hash exceeds max 66 chars")
  let hex := strip0x (trim hash)
  require (byteLen hex = 64 ∧ hex.toList.all isAsciiHexdigit) (.failed "invalid stellar tx hash")
  pure (toAsciiLowercase hex)

/-- The answer of `getTransaction`. -/
structure GetTransactionResult where
  status : String
  txHash : Option String
  ledger : Option ℕ
  latestLedger : Option ℕ
  envelopeXdr : Option String
  contractEventsXdr : List (List String)

def MAX_CONTRACT_EVENTS_PER_TX : ℕ := 256
def MAX_EVENTS_PER_OPERATION : ℕ := 64

def decodeContractEventXdr (b64 : String) : Except VerifierError ContractEvent :=
  (c.contractEventFromXdr b64).mapError VerifierError.failed

def collectGroup (group : List String) : Except VerifierError (List ContractEvent) := do
  require (group.length ≤ MAX_EVENTS_PER_OPERATION) (.failed "too many contract events")
  group.mapM fun b64 => do
    require (byteLen b64 ≤ 256 * 1024) (.failed "event xdr too large")
    decodeContractEventXdr c b64

def collectContractEvents (nested : List (List String)) :
    Except VerifierError (List ContractEvent) := do
  require (nested.length ≤ MAX_CONTRACT_EVENTS_PER_TX) (.failed "too many operation event groups")
  let out ← nested.mapM (collectGroup c)
  require (out.flatten.length ≤ MAX_CONTRACT_EVENTS_PER_TX) (.failed "too many contract events")
  pure out.flatten

/-- What the node at hand answers for a hash, and its latest ledger. -/
def getFinalizedTransaction (getTransaction : String → Except VerifierError GetTransactionResult)
    (latestLedger : Except VerifierError ℕ) (txHash : String) :
    Except VerifierError FinalizedTx := do
  let normalized ← normalizeStellarTxHash txHash
  let result ← getTransaction normalized
  let status ← match result.status with
    | "NOT_FOUND" => .error VerifierError.txNotFound
    | "SUCCESS" => .ok TxStatus.success
    | "FAILED" => .ok TxStatus.failed
    | other => .error (.failed s!"unknown tx status {other}")
  let envelopeXdr ← okOr result.envelopeXdr (.failed "missing envelope")
  require (byteLen envelopeXdr ≤ 512 * 1024) (.failed "envelope too large")
  let computedHash ← transactionHashFromEnvelopeXdr c envelopeXdr cfg.stellarNetworkPassphrase
  require (computedHash = normalized) (.failed "envelope hash mismatch")
  match result.txHash with
  | none => pure ()
  | some returned =>
    let returnedNorm ← normalizeStellarTxHash returned
    require (returnedNorm = normalized ∧ returnedNorm = computedHash) (.failed "tx hash mismatch")
  let ledger ← okOr result.ledger (.failed "missing ledger")
  let latest ← match result.latestLedger with
    | some latest => .ok latest
    | none => latestLedger
  require (ledger ≤ latest) (.transient "tx ledger ahead of network latest")
  let contractEvents ← collectContractEvents c result.contractEventsXdr
  pure { txHash := computedHash, status, ledger, latestLedger := result.latestLedger
         envelopeXdr, contractEvents }

end StellarRoute.Cctp
