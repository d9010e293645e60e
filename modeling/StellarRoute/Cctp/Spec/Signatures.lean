import StellarRoute.Cctp.Spec.Message
import StellarRoute.Cctp.Spec.Trust

/-! The check of an attestation against the enabled attesters
(`attestation_crypto.rs`). The recovery of an address from a signature is a
parameter. -/

namespace StellarRoute.Cctp

open Lib

def SIGNATURE_LENGTH : ℕ := 65

inductive AttestationCryptoError where
  | emptyMessage
  | emptyAttestation
  | messageTooLarge
  | attestationTooLarge
  | invalidAttestationLength
  | invalidSignatureComponent
  | highS
  | invalidRecoveryId
  | recoveryFailed
  | invalidSignatureOrder
  | unknownSigner
  | thresholdZero
  | thresholdOverflow
deriving DecidableEq

/-- `enabled_sorted`: in a sorted slice `binary_search` finds the members. -/
structure EnabledSet where
  addresses : List EvmAddress
  sorted : addresses.Pairwise (· < ·)

def zeroAddress : EvmAddress := ⟨List.replicate 20 0, List.length_replicate⟩

/-- The slices that the loop goes through. -/
def signatures (attestation : Bytes) (threshold : ℕ) : List Bytes :=
  (List.range threshold).map fun i =>
    (attestation.drop (i * SIGNATURE_LENGTH)).take SIGNATURE_LENGTH

variable (keccak256 : Bytes → Bytes32)
  (recoverSignerAddress : Bytes32 → Bytes → Except AttestationCryptoError EvmAddress)

/-- The loop, from the latest address on. -/
def recoverSigners (digest : Bytes32) (enabled : EnabledSet) :
    EvmAddress → List Bytes → Except AttestationCryptoError (List EvmAddress)
  | _, [] => pure []
  | latest, sig :: sigs => do
    let addr ← recoverSignerAddress digest sig
    require (latest < addr) .invalidSignatureOrder
    require (addr ∈ enabled.addresses) .unknownSigner
    let recovered ← recoverSigners digest enabled addr sigs
    pure (addr :: recovered)

def verifyAttestationSignatures (message attestation : Bytes) (signatureThreshold : ℕ)
    (enabled : EnabledSet) : Except AttestationCryptoError (List EvmAddress) := do
  require (message ≠ []) .emptyMessage
  require (attestation ≠ []) .emptyAttestation
  require (message.length ≤ MAX_RAW_MESSAGE_BYTES) .messageTooLarge
  require (attestation.length ≤ MAX_ATTESTATION_BYTES) .attestationTooLarge
  require (signatureThreshold ≠ 0) .thresholdZero
  require (signatureThreshold * SIGNATURE_LENGTH < 2 ^ 64) .thresholdOverflow
  require (attestation.length = signatureThreshold * SIGNATURE_LENGTH) .invalidAttestationLength
  recoverSigners recoverSignerAddress (keccak256 message) enabled zeroAddress
    (signatures attestation signatureThreshold)

end StellarRoute.Cctp
