import StellarRoute.Lib.Guard
import StellarRoute.Lib.Hex

/-! Transaction envelopes and their validation against a prepared quote
(`swap/tx.rs`). The XDR codec, the hash, account addresses and signature
verification belong to other crates and are parameters. -/

namespace StellarRoute.Swap

open Lib

inductive MuxedAccount where
  | ed25519 (key : List UInt8)
  | muxedEd25519 (id : UInt64) (key : List UInt8)
deriving DecidableEq

/-- `Body` is what follows the source account: fee, sequence number, preconditions, memo and
operations. -/
structure Transaction (Body : Type) where
  sourceAccount : MuxedAccount
  body : Body
deriving DecidableEq

structure DecoratedSignature where
  hint : List UInt8
  signature : List UInt8
deriving DecidableEq

inductive TransactionEnvelope (Body : Type) where
  | tx (tx : Transaction Body) (signatures : List DecoratedSignature)
  /-- an older version, or a fee bump -/
  | other

structure Stellar (Body : Type) where
  isBase64 : String → Bool
  fromXdrBase64 : String → Except String (TransactionEnvelope Body)
  /-- of an envelope of the current version -/
  toXdrBase64 : Transaction Body → List DecoratedSignature → Except String String
  /-- what is hashed for a signature, by network id and transaction -/
  signaturePayload : List UInt8 → Transaction Body → Except String (List UInt8)
  sha256 : List UInt8 → List UInt8
  publicKeyToString : List UInt8 → String
  publicKeyFromString : String → Option (List UInt8)
  isVerifyingKey : List UInt8 → Bool
  verify (key message signature : List UInt8) : Bool
  toXdr_injective : ∀ tx sigs tx' sigs' xdr, toXdrBase64 tx sigs = .ok xdr →
    toXdrBase64 tx' sigs' = .ok xdr → tx = tx' ∧ sigs = sigs'
  sha256_injective : Function.Injective sha256

inductive TxBuildError where
  | validation (message : String)
  | accountLookup (message : String)
  | xdr (message : String)
deriving DecidableEq

def TxBuildError.display : TxBuildError → String
  | .validation m => s!"validation: {m}"
  | .accountLookup m => s!"account lookup failed: {m}"
  | .xdr m => s!"xdr encode/decode: {m}"

inductive EnvelopeValidationError where
  | malformed (message : String)
  | missingSignatures
  | quoteMismatch
  | signerMismatch
  | badSignature
  | unsupportedAccount (message : String)
deriving DecidableEq

namespace Stellar

variable {Body : Type} (stellar : Stellar Body)

def hashXdr (xdr : String) : String := hexEncode (stellar.sha256 (utf8 xdr))

def networkId (passphrase : String) : List UInt8 := stellar.sha256 (utf8 passphrase)

def transactionHash (tx : Transaction Body) (passphrase : String) :
    Except TxBuildError (List UInt8) := do
  let payload ← (stellar.signaturePayload (stellar.networkId passphrase) tx).mapError .xdr
  return stellar.sha256 payload

def transactionHashHex (tx : Transaction Body) (passphrase : String) :
    Except TxBuildError String := do
  let hash ← stellar.transactionHash tx passphrase
  return hexEncode hash

structure UnsignedEnvelope where
  unsignedXdrHash : String
  xdrEnvelope : String
  txHash : String
deriving DecidableEq

/-- `build_unsigned_swap_tx` once the transaction is put together. -/
def sealUnsigned (tx : Transaction Body) (networkPassphrase : String) :
    Except TxBuildError UnsignedEnvelope := do
  let txHash ← stellar.transactionHashHex tx networkPassphrase
  let xdrEnvelope ← (stellar.toXdrBase64 tx []).mapError .xdr
  return ⟨stellar.hashXdr xdrEnvelope, xdrEnvelope, txHash⟩

def sourceGAddress : MuxedAccount → Except EnvelopeValidationError String
  | .ed25519 key => .ok (stellar.publicKeyToString key)
  | .muxedEd25519 _ _ => .error (.unsupportedAccount
      "muxed accounts are not supported; use a standard G-address")

def expectTx : TransactionEnvelope Body →
    Except EnvelopeValidationError (Transaction Body × List DecoratedSignature)
  | .tx tx signatures => .ok (tx, signatures)
  | .other => .error (.malformed "expected TransactionV1 envelope")

def onlySignature : List DecoratedSignature → Except EnvelopeValidationError DecoratedSignature
  | [] => .error .missingSignatures
  | [decorated] => .ok decorated
  | _ => .error (.unsupportedAccount
      "multisig envelopes are not supported in this prepare/submit path")

def checkSignature (senderAccount : String) (hash : List UInt8) (decorated : DecoratedSignature) :
    Except EnvelopeValidationError Unit := do
  let key ← okOr (stellar.publicKeyFromString (trim senderAccount)) .signerMismatch
  require (stellar.isVerifyingKey key) .badSignature
  require (decorated.signature.length = 64) .badSignature
  -- the hint is the last four of the 32 bytes of the key
  require (decorated.hint = (key.drop 28).take 4) .badSignature
  require (stellar.verify key hash decorated.signature) .badSignature

def validateSignedAgainstPrepared
    (signedXdr unsignedXdrHash senderAccount networkPassphrase : String) :
    Except EnvelopeValidationError String := do
  let envelope ← (stellar.fromXdrBase64 (trim signedXdr)).mapError .malformed
  let (tx, signatures) ← expectTx envelope
  let decorated ← onlySignature signatures
  let source ← stellar.sourceGAddress tx.sourceAccount
  require (source = trim senderAccount) .signerMismatch
  let recomputed ← (stellar.toXdrBase64 tx []).mapError .malformed
  require (stellar.hashXdr recomputed = unsignedXdrHash) .quoteMismatch
  let hash ← (stellar.transactionHash tx networkPassphrase).mapError fun e => .malformed e.display
  stellar.checkSignature senderAccount hash decorated
  return hexEncode hash

end Stellar

end StellarRoute.Swap
