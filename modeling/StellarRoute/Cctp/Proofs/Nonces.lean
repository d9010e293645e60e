import StellarRoute.Cctp.Proofs.MintBinding

/-! The nonce of a message. The Circle service reports it beside the message,
and nothing compares the two before the mint is to be completed. -/

namespace StellarRoute.Cctp

open Lib Lib.Interleave

/-- The nonce denotes, in hexadecimal or decimal, the 32 bytes in the message. -/
def Denotes (nonce : String) (raw : Bytes) : Prop :=
  ∃ parsed, parseCctpV2Message raw = .ok parsed ∧ parseStoredNonce nonce = .ok parsed.nonce

/-- The reported nonce is that of the reported message, if there is one to be read. -/
def IrisMessage.Agrees (msg : IrisMessage) : Prop :=
  ∀ raw parsed, decodeHexMessage msg.messageHex = .ok raw → parseCctpV2Message raw = .ok parsed →
    parseStoredNonce msg.eventNonce = .ok parsed.nonce

/-- The Circle service reports complete messages with their own nonces. -/
def NonceHonest (env : Env) : Op → Prop
  | .ask (.pollMessagesByTx domain txHash) =>
    ∀ msg, env.answer (.pollMessagesByTx domain txHash) = .ok (.complete msg) → msg.Agrees
  | _ => True

/-- In a run in which the Circle service reports messages with their own nonces, every transfer
that has become `AttestationReady` holds a nonce that denotes the one in its message. -/
theorem attested_nonce_denotes {c : Codec} {cfg : CctpConfig} {choices : List (Choice Env Call)}
    (hok : ServedUnder c cfg (fun env _ o => NonceHonest env o) choices) {id : Uuid}
    {t : CctpTransfer} (ht : (serve c cfg choices).state.transfer id = some t)
    (hattested : t.status.attested) :
    ∃ raw nonce, t.rawMessage = some raw ∧ t.messageNonce = some nonce ∧ Denotes nonce raw := by
  have hevidence := serve_evidenced (c := c) choices id t ht
  obtain ⟨raw, attestation, nonce, hraw, hattestation, hnonce⟩ := hevidence.message hattested
  obtain ⟨-, hex, expectations, parsed, -, hvalid, hbytes⟩ :=
    hevidence.messageVerified raw attestation hraw hattestation
  simp only [validateMessageForCorridor, bind_eq_ok, mapError_eq_ok, pure_eq_ok] at hvalid
  obtain ⟨bytes, hdecoded, -, -, parsed, hparsed, -⟩ := hvalid
  obtain rfl : bytes = raw := Except.ok.inj (hdecoded.symm.trans hbytes)
  obtain ⟨domain, txHash, msg, ⟨env, s, he, hanswer⟩, hmessage, rfl⟩ :=
    hevidence.nonceReported bytes nonce hraw hnonce
  have hagrees : msg.Agrees := performed_allowed hok he msg hanswer
  exact ⟨bytes, _, hraw, hnonce, parsed, hparsed, hagrees bytes parsed hmessage hparsed⟩

example : parseStoredNonce " 10 " = parseStoredNonce "10" := by decide

/-! ### Two reports -/

theorem exists_reported {P : Env → Prop} (nonce : String) (hnonempty : nonce ≠ "")
    (hlen : byteLen nonce ≤ MAX_MESSAGE_NONCE_LEN) (hpending : P (mintWorld plainChains .pending))
    (hcomplete : ∀ e txHash, e.Meetable →
      P (mintWorld plainChains (.complete (irisMessage e txHash nonce)))) :
    ∃ choices, (∀ choice ∈ choices, choice.Meets P) ∧
      (serve burnCodec plainConfig choices).state = attestedAlone burnCodec nonce outboundRow := by
  obtain ⟨e, -, -, hleads⟩ := leads_attestedAlone _ mintWorld_attests (fun _ => rfl)
    burnCodec_strkeysShort hcomplete ⟨_, mints_fail.1.1⟩ rfl (by decide) rfl hnonempty hlen
  obtain ⟨more, hmeets, hrun, -⟩ := hleads.run _ mints_fail.1.1
  exact ⟨_, List.forall_mem_append.mpr ⟨burned_meets hpending _ _, hmeets⟩, hrun⟩

/-- A nonce that denotes the zero of `messageFor` agrees. -/
theorem agrees_irisMessage {e : CorridorMessageExpectations} (he : e.Meetable) (txHash : String) :
    (irisMessage e txHash "0").Agrees := by
  intro raw parsed hraw hparsed
  obtain rfl : encodeMessage (messageFor e) = raw :=
    Except.ok.inj ((decodeHexMessage_hexEncode _).symm.trans hraw)
  obtain rfl : messageFor e = parsed :=
    Except.ok.inj ((parse_encodeMessage (fits_messageFor he)).symm.trans hparsed)
  change parseStoredNonce "0" = .ok zero32
  decide

theorem mintWorld_honest {iris : IrisPollOutcome} (h : ∀ msg, iris = .complete msg → msg.Agrees)
    (o : Op) : NonceHonest (mintWorld plainChains iris) o := by
  unfold NonceHonest
  split
  · intro msg hmsg
    exact h msg (Except.ok.inj hmsg)
  · trivial

/-- Reported with the nonce of the message, the transfer holds it. -/
theorem attested_nonce_denotes_zero : ∃ choices t raw nonce,
    (serve burnCodec plainConfig choices).state.transfer 0 = some t ∧ t.status = .attestationReady ∧
    t.rawMessage = some raw ∧ t.messageNonce = some nonce ∧ Denotes nonce raw := by
  obtain ⟨choices, hmeets, hstate⟩ :=
    exists_reported (P := fun env => ∀ o, NonceHonest env o) "0" (by decide) (by decide)
      (mintWorld_honest fun msg h => nomatch h)
      (fun e txHash he => mintWorld_honest fun msg h => by
        obtain rfl := IrisPollOutcome.complete.inj h
        exact agrees_irisMessage he txHash)
  have hok : ServedUnder burnCodec plainConfig (fun env _ o => NonceHonest env o) choices :=
    (stepsOk_of_meets hmeets _).mono fun p choice hallowed =>
      hallowed.mono fun env s o hhonest => hhonest o
  obtain ⟨t, ht, hstatus⟩ : ∃ t, (attestedAlone burnCodec "0" outboundRow).transfer 0 = some t ∧
    t.status = .attestationReady := by decide
  rw [← hstate] at ht
  obtain ⟨raw, nonce, hraw, hnonce, hdenotes⟩ :=
    attested_nonce_denotes hok ht (by rw [hstatus]; rfl)
  exact ⟨choices, t, raw, nonce, ht, hstatus, hraw, hnonce, hdenotes⟩

/-- Reported with another nonce, the transfer holds that one. -/
theorem foreign_nonce_stored : ∃ choices t raw nonce,
    (serve burnCodec plainConfig choices).state.transfer 0 = some t ∧ t.status = .attestationReady ∧
    t.rawMessage = some raw ∧ t.messageNonce = some nonce ∧ ¬ Denotes nonce raw := by
  obtain ⟨choices, -, hstate⟩ := exists_reported (P := fun _ => True) "1" (by decide) (by decide)
    trivial (fun _ _ _ => trivial)
  obtain ⟨t, ht, hstatus, hnonce, raw, hraw, hdenotes⟩ : ∃ t,
      (attestedAlone burnCodec "1" outboundRow).transfer 0 = some t ∧ t.status = .attestationReady ∧
      t.messageNonce = some "1" ∧ ∃ raw, t.rawMessage = some raw ∧
        ¬ ∃ parsed, parseCctpV2Message raw = .ok parsed ∧ parseStoredNonce "1" = .ok parsed.nonce := by
    decide +kernel
  rw [← hstate] at ht
  exact ⟨choices, t, raw, "1", ht, hstatus, hraw, hnonce, hdenotes⟩

end StellarRoute.Cctp
