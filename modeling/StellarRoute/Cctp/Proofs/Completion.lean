import StellarRoute.Cctp.Sanity.Journey

/-! Whether a transfer with a verified burn can still be completed. While the
quote is open, every stage that is not stuck has a way to the end. After the
quote has expired no mint payload can be prepared any more, so a transfer that
still needs one never completes. -/

namespace StellarRoute.Cctp

open Lib Lib.Interleave

section Open

variable {c : Codec} {cfg : CctpConfig} {s : State} {t : CctpTransfer} {id : Uuid}

/-- The statuses past the burn in which a mint payload has yet to be prepared. -/
def CctpTransferStatus.needsPayload : CctpTransferStatus → Bool
  | .awaitingAttestation | .attestationFailed | .attestationReady | .mintFailedRetryable => true
  | _ => false

def Open (cfg : CctpConfig) (T : Time) (s : State) (t : CctpTransfer) : Prop :=
  match t.status with
  | .awaitingAttestation =>
    Mintable T s t ∧ (T ≤ t.updatedAt + seconds cfg.pollTimeoutSecs ∨ Reattestable T t)
  | .attestationFailed => Mintable T s t ∧ Reattestable T t
  | .attestationReady | .mintFailedRetryable => Mintable T s t
  | .mintPrepared => ∃ payloadHash, Submittable T t payloadHash
  | .mintSubmitted => True
  | _ => False

/-- A mint that is submitted gets through. -/
def Outlook.Succeeds (w : Outlook) : Prop := w.submission = .pending ∧ w.completion = .succeeded

def Completes (c : Codec) (cfg : CctpConfig) (T : Time) (s : State) (id : Uuid) : Prop :=
  ∃ s' t', Arrives c cfg T s id .completed s' t'

theorem Arrives.completes {T : Time} {status : CctpTransferStatus} {s' : State} {t' : CctpTransfer}
    (h : Arrives c cfg T s id status s' t') (h' : Completes c cfg T s' id) :
    Completes c cfg T s id := by
  obtain ⟨s'', t'', hdone⟩ := h'
  exact ⟨s'', t'', h.leads.trans hdone.leads, hdone.stored, hdone.status_eq⟩

/-! From the last stage to the first. -/

theorem completes_mintPrepared {txHash payloadHash : String} (w : Outlook) (hs : Reached c cfg s)
    (ht : s.transfer id = some t) (hstatus : t.status = .mintPrepared)
    (hpayload : Submittable w.now t payloadHash) (hlen : byteLen txHash ≤ MAX_TX_HASH_LEN)
    (hfresh : ∀ u ∈ s.transfers, u.destinationTxHash ≠ some txHash) (hw : w.Succeeds) :
    Completes c cfg w.now s id := by
  obtain ⟨s', t', h | ⟨h, -⟩, -⟩ :=
    arrives_mintSubmitted w hs ht hstatus hpayload hlen hfresh hw.1 (by simp [hw.2])
  · exact h.completes (arrives_completed w (h.leads.reached hs) h.stored h.status_eq hw.2)
  · exact ⟨s', t', h⟩

variable {txHash nonce : String} (w : Outlook) (hw : w.Succeeds)
  (hc : c.StrkeysShort) (hcfg : cfg.enabled ∧ cfg.configured) (hs : Reached c cfg s)
  (ht : s.transfer id = some t) (hmint : Mintable w.now s t)
  (ho : Offer c w.now s w.bundle txHash)
include hw hcfg hs ht hmint ho

theorem completes_attestationReady
    (hstatus : t.status = .attestationReady ∨ t.status = .mintFailedRetryable) :
    Completes c cfg w.now s id := by
  obtain ⟨s', t', h, hpayload, ho'⟩ :=
    arrives_mintPrepared w hs ht hcfg hstatus hmint ho.acceptable
  exact h.completes (completes_mintPrepared w (h.leads.reached hs) h.stored h.status_eq hpayload
    ho.len (ho' _ _ ho).fresh hw)

include hc

theorem completes_awaitingAttestation (hstatus : t.status = .awaitingAttestation)
    (htime : w.now ≤ t.updatedAt + seconds cfg.pollTimeoutSecs) (hn : FreshNonce s t nonce) :
    Completes c cfg w.now s id := by
  obtain ⟨e, -, hleads⟩ := leads_attested (P := (·.now = w.now)) w.attests (fun _ => rfl) hc
    (fun _ _ _ => rfl) hs ht hstatus htime hn
  have h : Arrives c cfg w.now s id .attestationReady _ _ := arrives_put _ hleads ht rfl rfl rfl
  exact h.completes (completes_attestationReady w hw hcfg (h.leads.reached hs) h.stored
    (hmint.put rfl rfl rfl rfl fun row hrow => hrow) (ho.put ht _ rfl rfl) (.inl h.status_eq))

theorem completes_attestationFailed (hstatus : t.status = .attestationFailed)
    (hagain : Reattestable w.now t) (hn : FreshNonce s t nonce) : Completes c cfg w.now s id := by
  obtain ⟨s', t', h, hupdated, hn', hmint', ho'⟩ :=
    arrives_awaitingAttestation w hs ht hstatus hagain hn hmint
  have htime : w.now ≤ t'.updatedAt + seconds cfg.pollTimeoutSecs := by
    rw [hupdated]
    exact le_add_of_nonneg_right (mul_nonneg (Int.natCast_nonneg _) (by norm_num))
  exact h.completes (completes_awaitingAttestation w hw hc hcfg (h.leads.reached hs) h.stored hmint'
    (ho' _ _ ho) h.status_eq htime hn')

omit hmint in
theorem Open.completes (hopen : Open cfg w.now s t) (hn : FreshNonce s t nonce) :
    Completes c cfg w.now s id := by
  unfold Open at hopen
  split at hopen
  · next hstatus =>
    obtain ⟨hmint, htime | hagain⟩ := hopen
    · exact completes_awaitingAttestation w hw hc hcfg hs ht hmint ho hstatus htime hn
    · rcases le_or_gt w.now (t.updatedAt + seconds cfg.pollTimeoutSecs) with htime | htime
      · exact completes_awaitingAttestation w hw hc hcfg hs ht hmint ho hstatus htime hn
      · obtain ⟨s', t', h, hagain', hn', hmint', ho'⟩ :=
          arrives_attestationFailed w hs ht hstatus htime hagain hn hmint
        exact h.completes (completes_attestationFailed w hw hc hcfg (h.leads.reached hs) h.stored
          hmint' (ho' _ _ ho) h.status_eq hagain' hn')
  · next hstatus =>
    exact completes_attestationFailed w hw hc hcfg hs ht hopen.1 ho hstatus hopen.2 hn
  · next hstatus => exact completes_attestationReady w hw hcfg hs ht hopen ho (.inl hstatus)
  · next hstatus => exact completes_attestationReady w hw hcfg hs ht hopen ho (.inr hstatus)
  · next hstatus =>
    obtain ⟨payloadHash, hpayload⟩ := hopen
    exact completes_mintPrepared w hs ht hstatus hpayload ho.len ho.fresh hw
  · next hstatus => exact arrives_completed w hs ht hstatus hw.2
  · exact hopen.elim

end Open

/-! ### After the quote has expired -/

section Expired

variable {c : Codec} {cfg : CctpConfig} {P : Event Env State Op → Prop} {s : State}
  {t t' : CctpTransfer} {id : Uuid} {T : Time}

theorem Change.needsPayload {status : CctpTransferStatus} {patch : TransferPatch}
    (h : Change c P t status patch) (hneeds : t.status.needsPayload) : status.needsPayload := by
  have hnot : ∀ {status : CctpTransferStatus}, t.status = status → status.needsPayload = false →
      False := by
    intro status hstatus hfalse
    simp [hstatus, hfalse] at hneeds
  cases h with
  | prepareBurn h => exact (h.elim (hnot · rfl) (hnot · rfl)).elim
  | recordBurnPayload h bundle payloadHash | hint h error code => exact (hnot h rfl).elim
  | rateLimited h error code => rfl
  | timeout h error code => rfl
  | attested h raw attestation nonce hv hn => rfl
  | rejected h txHash facts reason hf ho => rfl
  | failed h reason => rfl
  | cancelled h =>
    revert hneeds h
    cases t.status <;> decide

theorem StoreOp.Rewrites.needsPayload {so : StoreOp} {now : Time} (hrw : so.Rewrites now s t t')
    (hdue : Due c P t so) (hdead : ¬ QuoteLive c P t) (hneeds : t.status.needsPayload) :
    t'.status.needsPayload := by
  cases so with
  | insert t | get id => exact hrw.elim
  | tryAcquirePollLease id leaseSecs minIntervalSecs
  | claimReattestLease id owner leaseSecs maxAttempts =>
    rw [hrw]
    exact hneeds
  | finalizeReattestSuccess id owner | finalizeReattestFailure id owner code error cooldown =>
    rw [hrw.2]
    rfl
  | recordApprovalSubmission id version txHash verifiedAt =>
    obtain ⟨-, -, -, rfl⟩ := hrw
    exact hneeds
  | recordVerifiedBurn id version txHash =>
    obtain ⟨-, -, -, rfl⟩ := hrw
    rfl
  | transition id version status patch =>
    rw [hrw.eq]
    exact Change.needsPayload hdue hneeds
  | recordMintPrepared id version payloadHash expiresAt mintSubmitter =>
    exact absurd hdue.2 hdead
  | recordMintSubmission id version txHash =>
    rw [hdue.1] at hneeds
    cases hneeds
  | recordMintCompleted id version =>
    have hstatus : t.status = .mintSubmitted := hdue
    rw [hstatus] at hneeds
    cases hneeds

/-- The record still needs a payload, and its quote ends before `T`. -/
def Stuck (T : Time) (id : Uuid) (s : State) : Prop :=
  ∃ t, s.transfer id = some t ∧ t.quoteExpiresAt < T ∧ t.status.needsPayload

theorem Stuck.exec {call : Call} {L : Trace} {env : Env} {o : Op} (h : Stuck T id s)
    (hL : ∀ e ∈ L, T ≤ e.env.now ∧ Grows (e.after (exec c)) s) (hjust : Justified c cfg call L o) :
    Stuck T id (exec c env o s).2 := by
  obtain ⟨t, ht, hexpired, hneeds⟩ := h
  obtain ⟨t', ht', rfl | ⟨so, rfl, rfl, hrw⟩⟩ := exec_transfer c env o ht
  · exact ⟨t', ht', hexpired, hneeds⟩
  · have hquote := congrArg CctpTransfer.quoteExpiresAt hrw.evolves.terms_eq
    have hdue := hjust.due (P := fun e => T ≤ e.env.now) ht hL hrw
    refine ⟨t', ht', hquote.trans_lt hexpired, hrw.needsPayload hdue ?_ hneeds⟩
    rintro ⟨now, ⟨env, s, he, rfl⟩, hle⟩
    exact absurd (he.trans hle) (not_le.mpr hexpired)

theorem Stuck.serve {choices more : List (Choice Env Call)}
    (h : Stuck T id (serve c cfg choices).state) (hrest : (serve c cfg choices).AtRest)
    (hmore : ∀ choice ∈ more, choice.Meets fun env => T ≤ env.now) :
    Stuck T id (serve c cfg (choices ++ more)).state := by
  rw [Cctp.serve, run, Transition.run_append]
  refine run_later Grows.refl Grows.trans (exec_grows c) ?_ program_justified hrest h hmore
  intro _ L env s o hstuck hL hjust _
  exact hstuck.exec hL hjust

end Expired

end StellarRoute.Cctp
