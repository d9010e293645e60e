import StellarRoute.Cctp.Spec.Signatures

/-! What an accepted attestation consists of: signatures by different enabled
attesters, in the order of their addresses, and nothing else. -/

namespace StellarRoute.Cctp

open Lib List

variable {keccak256 : Bytes → Bytes32}
  {recover : Bytes32 → Bytes → Except AttestationCryptoError EvmAddress} {digest : Bytes32}
  {enabled : EnabledSet} {message attestation attestation' : Bytes} {threshold : ℕ}
  {signers signers' : List EvmAddress}

theorem recoverSigners_eq_ok {sigs : List Bytes} {latest : EvmAddress} :
    recoverSigners recover digest enabled latest sigs = .ok signers ↔
      sigs.map (recover digest) = signers.map .ok ∧ (latest :: signers).Pairwise (· < ·) ∧
        ∀ a ∈ signers, a ∈ enabled.addresses := by
  induction sigs generalizing latest signers with
  | nil => cases signers <;> simp [recoverSigners, pure_eq_ok]
  | cons sig sigs ih =>
    simp only [recoverSigners, bind_eq_ok, require_eq_ok, pure_eq_ok, exists_const, ih]
    constructor
    · rintro ⟨addr, haddr, hlt, hmem, rest, ⟨hmap, hsorted, henabled⟩, rfl⟩
      have hfirst := (pairwise_cons.mp hsorted).1
      refine ⟨by simp [haddr, hmap], pairwise_cons.mpr ⟨?_, hsorted⟩,
        forall_mem_cons.mpr ⟨hmem, henabled⟩⟩
      exact forall_mem_cons.mpr ⟨hlt, fun b hb => hlt.trans (hfirst b hb)⟩
    · rintro ⟨hmap, hsorted, henabled⟩
      cases signers with
      | nil => simp at hmap
      | cons addr rest =>
        rw [map_cons, map_cons, cons.injEq] at hmap
        rw [forall_mem_cons] at henabled
        obtain ⟨hfirst, hrest⟩ := pairwise_cons.mp hsorted
        exact ⟨addr, hmap.1, hfirst addr mem_cons_self, henabled.1, rest,
          ⟨hmap.2, hrest, henabled.2⟩, rfl⟩

/-- `threshold` signatures whose addresses are enabled and strictly increasing, above the zero
address. -/
structure ConsistsOf (recover : Bytes32 → Bytes → Except AttestationCryptoError EvmAddress)
    (digest : Bytes32) (enabled : EnabledSet) (attestation : Bytes) (threshold : ℕ)
    (signers : List EvmAddress) : Prop where
  length_eq : attestation.length = threshold * SIGNATURE_LENGTH
  recovered : (signatures attestation threshold).map (recover digest) = signers.map .ok
  increasing : (zeroAddress :: signers).Pairwise (· < ·)
  enabled : ∀ a ∈ signers, a ∈ enabled.addresses

theorem verify_eq_ok : verifyAttestationSignatures keccak256 recover message attestation threshold
      enabled = .ok signers ↔
    (message ≠ [] ∧ message.length ≤ MAX_RAW_MESSAGE_BYTES ∧
      attestation.length ≤ MAX_ATTESTATION_BYTES ∧ threshold ≠ 0) ∧
    ConsistsOf recover (keccak256 message) enabled attestation threshold signers := by
  simp only [verifyAttestationSignatures, bind_eq_ok, require_eq_ok, exists_const,
    recoverSigners_eq_ok]
  constructor
  · rintro ⟨hmessage, -, hsize, hlen, hthreshold, -, heq, hmap, hsorted, henabled⟩
    exact ⟨⟨hmessage, hsize, hlen, hthreshold⟩, heq, hmap, hsorted, henabled⟩
  · rintro ⟨⟨hmessage, hsize, hlen, hthreshold⟩, heq, hmap, hsorted, henabled⟩
    have hne : attestation ≠ [] := by
      rintro rfl
      simp only [length_nil, SIGNATURE_LENGTH] at heq
      omega
    have hfits : threshold * SIGNATURE_LENGTH < 2 ^ 64 := by
      unfold MAX_ATTESTATION_BYTES at hlen
      omega
    exact ⟨hmessage, hne, hsize, hlen, hthreshold, hfits, heq, hmap, hsorted, henabled⟩

theorem flatten_signatures (attestation : Bytes) (n : ℕ) :
    (signatures attestation n).flatten = attestation.take (n * SIGNATURE_LENGTH) := by
  induction n with
  | zero => simp [signatures]
  | succ n ih =>
    rw [signatures, range_succ, map_append, flatten_append, ← signatures, ih,
      Nat.succ_mul, take_add]
    simp

theorem ConsistsOf.flatten (h : ConsistsOf recover digest enabled attestation threshold signers) :
    (signatures attestation threshold).flatten = attestation := by
  rw [flatten_signatures, ← h.length_eq, take_length]

/-- The address of the first signature is below that of the second. -/
def SignsBefore (recover : Bytes32 → Bytes → Except AttestationCryptoError EvmAddress)
    (digest : Bytes32) (sig sig' : Bytes) : Prop :=
  ∃ a b, recover digest sig = .ok a ∧ recover digest sig' = .ok b ∧ a < b

theorem SignsBefore.asymm {sig sig' : Bytes} (h : SignsBefore recover digest sig sig')
    (h' : SignsBefore recover digest sig' sig) : False := by
  obtain ⟨a, b, ha, hb, hlt⟩ := h
  obtain ⟨b', a', hb', ha', hlt'⟩ := h'
  cases ha.symm.trans ha'
  cases hb.symm.trans hb'
  exact lt_asymm hlt hlt'

theorem ConsistsOf.ordered (h : ConsistsOf recover digest enabled attestation threshold signers) :
    (signatures attestation threshold).Pairwise (SignsBefore recover digest) := by
  have hsorted : (signers.map (Except.ok (ε := AttestationCryptoError))).Pairwise
      fun x y => ∃ a b, x = .ok a ∧ y = .ok b ∧ a < b :=
    pairwise_map.mpr ((pairwise_cons.mp h.increasing).2.imp fun hlt =>
      ⟨_, _, rfl, rfl, hlt⟩)
  rwa [← h.recovered, pairwise_map] at hsorted

/-- An attestation is accepted exactly when the message and it are within their limits, the threshold
is not zero, and it consists of that many signatures, with addresses that are enabled and strictly
increasing. Then as many different attesters have signed, no signature stands twice, no other order
of the signatures is accepted, and nothing may follow them. -/
theorem attestation_accepted_exactly (keccak256 : Bytes → Bytes32)
    (recover : Bytes32 → Bytes → Except AttestationCryptoError EvmAddress) (enabled : EnabledSet)
    (message attestation : Bytes) (threshold : ℕ) (signers : List EvmAddress) :
    let verify := fun attestation =>
      verifyAttestationSignatures keccak256 recover message attestation threshold enabled
    (verify attestation = .ok signers ↔
      (message ≠ [] ∧ message.length ≤ MAX_RAW_MESSAGE_BYTES ∧
        attestation.length ≤ MAX_ATTESTATION_BYTES ∧ threshold ≠ 0) ∧
      ConsistsOf recover (keccak256 message) enabled attestation threshold signers) ∧
    (verify attestation = .ok signers →
      (signers.length = threshold ∧ signers.Nodup ∧ ∀ a ∈ signers, a ∈ enabled.addresses ∧
        ∃ sig ∈ signatures attestation threshold, recover (keccak256 message) sig = .ok a) ∧
      (signatures attestation threshold).Nodup ∧
      (∀ attestation' signers', verify attestation' = .ok signers' →
        (signatures attestation' threshold).Perm (signatures attestation threshold) →
        attestation' = attestation) ∧
      ∀ extra signers', verify (attestation ++ extra) = .ok signers' → extra = []) := by
  refine ⟨verify_eq_ok, fun haccepted => ?_⟩
  obtain ⟨-, h⟩ := verify_eq_ok.mp haccepted
  have hlen : signers.length = threshold := by
    have hmap := congrArg length h.recovered
    simpa [signatures] using hmap.symm
  refine ⟨⟨hlen, ?_, fun a ha => ⟨h.enabled a ha, ?_⟩⟩, ?_, ?_, ?_⟩
  · exact (pairwise_cons.mp h.increasing).2.imp ne_of_lt
  · have hmem : Except.ok a ∈ (signatures attestation threshold).map (recover (keccak256 message)) := by
      rw [h.recovered]
      exact mem_map_of_mem ha
    exact mem_map.mp hmem
  · apply h.ordered.imp
    rintro sig _ hbefore rfl
    exact hbefore.asymm hbefore
  · intro attestation' signers' haccepted' hperm
    obtain ⟨-, h'⟩ := verify_eq_ok.mp haccepted'
    have hsigs := hperm.eq_of_pairwise (fun _ _ _ _ hab hba => (hab.asymm hba).elim) h'.ordered
      h.ordered
    rw [← h'.flatten, ← h.flatten, hsigs]
  · intro extra signers' haccepted'
    obtain ⟨-, h'⟩ := verify_eq_ok.mp haccepted'
    have hlength := h'.length_eq
    rw [length_append, h.length_eq] at hlength
    exact length_eq_zero_iff.mp (by omega)

/-- No signature at all, with a threshold of zero. -/
theorem no_signatures_refused : ∃ keccak256 recover enabled,
    ConsistsOf recover (keccak256 [1]) enabled [] 0 [] ∧
    verifyAttestationSignatures keccak256 recover [1] [] 0 enabled = .error .emptyAttestation :=
  ⟨fun _ => ⟨replicate 32 0, rfl⟩, fun _ _ => .ok zeroAddress, ⟨[], .nil⟩,
    ⟨rfl, rfl, pairwise_singleton _ _, nofun⟩, rfl⟩

end StellarRoute.Cctp
