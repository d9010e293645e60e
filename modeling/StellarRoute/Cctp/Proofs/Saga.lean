import StellarRoute.Cctp.Sanity.Programs

/-! Every stored transfer has behind it what its status says: a verified burn,
a validated and signed message, a destination transaction. The evidence is in
what the callers have performed so far, and no interleaving of calls leaves a
record without it. -/

namespace StellarRoute.Cctp

open Lib Lib.Interleave

/-- `AwaitingAttestation` or later. -/
def CctpTransferStatus.burnDone : CctpTransferStatus → Bool
  | .awaitingAttestation | .attestationFailed | .attestationReady | .mintPrepared
  | .mintSubmitted | .mintFailedRetryable | .completed => true
  | _ => false

def CctpTransferStatus.attested : CctpTransferStatus → Bool
  | .attestationReady | .mintPrepared | .mintSubmitted | .mintFailedRetryable
  | .completed => true
  | _ => false

def CctpTransferStatus.mintSent : CctpTransferStatus → Bool
  | .mintSubmitted | .completed => true
  | _ => false

structure Evidence (c : Codec) (P : Event Env State Op → Prop) (t : CctpTransfer) : Prop where
  burn : t.status.burnDone → ∃ txHash, t.sourceTxHash = some txHash
  burnVerified : ∀ txHash, t.sourceTxHash = some txHash → BurnVerified c P t txHash
  message : t.status.attested → ∃ raw attestation nonce, t.rawMessage = some raw ∧
    t.attestation = some attestation ∧ t.messageNonce = some nonce
  messageVerified : ∀ raw attestation, t.rawMessage = some raw → t.attestation = some attestation →
    MessageVerified c P t raw attestation
  nonceReported : ∀ raw nonce, t.rawMessage = some raw → t.messageNonce = some nonce →
    NonceReported c P raw nonce
  mint : t.status.mintSent → ∃ txHash, t.destinationTxHash = some txHash

section Transport

variable {c : Codec} {P P' : Event Env State Op → Prop} {t t0 : CctpTransfer}

/-! The verdicts depend on the quoted terms only. -/

variable {txHash : String} {patch : TransferPatch} {status : CctpTransferStatus}

theorem BurnVerified.of_terms (h : t.terms = t0.terms)
    (hv : BurnVerified c P t0 txHash) : BurnVerified c P t txHash := by
  change BurnVerified c P t.terms txHash
  rw [h]
  exact hv

theorem MessageVerified.of_terms (h : t.terms = t0.terms) {raw attestation : Bytes}
    (hv : MessageVerified c P t0 raw attestation) : MessageVerified c P t raw attestation := by
  change MessageVerified c P t.terms raw attestation
  rw [h]
  exact hv

theorem MintReported.of_versioned (h : t.versioned = t0.versioned)
    {facts : VerifiedMintFacts} (hr : MintReported c P t0 txHash facts) :
    MintReported c P t txHash facts := by
  change MintReported c P t.versioned txHash facts
  rw [h]
  exact hr

theorem status_of_versioned (h : t.versioned = t0.versioned) : t.status = t0.status := by
  change t.versioned.status = t0.versioned.status
  rw [h]

theorem Change.mono (himp : ∀ e, P e → P' e)
    (h : Change c P t status patch) : Change c P' t status patch := by
  cases h with
  | prepareBurn h => exact .prepareBurn h
  | recordBurnPayload h bundle payloadHash => exact .recordBurnPayload h bundle payloadHash
  | rateLimited h error code => exact .rateLimited h error code
  | timeout h error code => exact .timeout h error code
  | attested h raw attestation nonce hv hn =>
    exact .attested h raw attestation nonce (hv.mono himp) (hn.mono himp)
  | rejected h txHash facts reason hf ho => exact .rejected h txHash facts reason (hf.mono himp) ho
  | failed h reason => exact .failed h reason
  | hint h error code => exact .hint h error code
  | cancelled h => exact .cancelled h

theorem Change.of_versioned (hterms : t.terms = t0.terms) (hversioned : t.versioned = t0.versioned)
    (h : Change c P t0 status patch) : Change c P t status patch := by
  have hstatus := status_of_versioned hversioned
  cases h with
  | prepareBurn h => exact .prepareBurn (by rwa [hstatus])
  | recordBurnPayload h bundle payloadHash =>
    exact .recordBurnPayload (hstatus.trans h) bundle payloadHash
  | rateLimited h error code => exact .rateLimited (hstatus.trans h) error code
  | timeout h error code => exact .timeout (hstatus.trans h) error code
  | attested h raw attestation nonce hv hn =>
    exact .attested (hstatus.trans h) raw attestation nonce (hv.of_terms hterms) hn
  | rejected h txHash facts reason hf ho =>
    exact .rejected (hstatus.trans h) txHash facts reason (hf.of_versioned hversioned) ho
  | failed h reason => exact .failed (hstatus.trans h) reason
  | hint h error code => exact .hint (hstatus.trans h) error code
  | cancelled h => exact .cancelled (by rwa [hstatus])

theorem QuoteLive.of_terms (h : t.terms = t0.terms) (hq : QuoteLive c P t0) : QuoteLive c P t := by
  change QuoteLive c P t.terms
  rw [h]
  exact hq

theorem Evidence.mono (himp : ∀ e, P e → P' e) (h : Evidence c P t) : Evidence c P' t where
  burn := h.burn
  burnVerified txHash hsource := (h.burnVerified txHash hsource).mono himp
  message := h.message
  messageVerified raw attestation hraw hattestation :=
    (h.messageVerified raw attestation hraw hattestation).mono himp
  nonceReported raw nonce hraw hnonce := (h.nonceReported raw nonce hraw hnonce).mono himp
  mint := h.mint

/-- A rewrite that touches neither the terms nor the evidence, to a status that needs no more of
it. -/
theorem Evidence.keep {t' : CctpTransfer} (h : Evidence c P t) (hterms : t'.terms = t.terms)
    (hsource : t'.sourceTxHash = t.sourceTxHash) (hraw : t'.rawMessage = t.rawMessage)
    (hattestation : t'.attestation = t.attestation) (hnonce : t'.messageNonce = t.messageNonce)
    (hdestination : t'.destinationTxHash = t.destinationTxHash)
    (hburn : t'.status.burnDone → t.status.burnDone)
    (hattested : t'.status.attested → t.status.attested)
    (hmint : t'.status.mintSent → t.status.mintSent) : Evidence c P t' where
  burn hs := by
    rw [hsource]
    exact h.burn (hburn hs)
  burnVerified txHash hs := (h.burnVerified txHash (hsource ▸ hs)).of_terms hterms
  message hs := by
    rw [hraw, hattestation, hnonce]
    exact h.message (hattested hs)
  messageVerified raw attestation hr ha :=
    (h.messageVerified raw attestation (hraw ▸ hr) (hattestation ▸ ha)).of_terms hterms
  nonceReported raw nonce hr hn := h.nonceReported raw nonce (hraw ▸ hr) (hnonce ▸ hn)
  mint hs := by
    rw [hdestination]
    exact h.mint (hmint hs)

end Transport

/-! ### One write -/

section Step

variable {c : Codec} {cfg : CctpConfig} {P : Event Env State Op → Prop} {t t' : CctpTransfer}
  {L : Trace} {s : State} {now : Time} {id : Uuid}

/-- What stands behind a write to the record `t`. -/
def Due (c : Codec) (P : Event Env State Op → Prop) (t : CctpTransfer) : StoreOp → Prop
  | .transition _ _ status patch => Change c P t status patch
  | .recordVerifiedBurn _ _ txHash => BurnVerified c P t txHash
  | .recordMintPrepared .. =>
    (t.status = .attestationReady ∨ t.status = .mintFailedRetryable) ∧ QuoteLive c P t
  | .recordMintSubmission _ _ txHash =>
    t.status = .mintPrepared ∧ ∃ facts, MintReported c P t txHash facts ∧ facts.submissionOk
  | .recordMintCompleted .. => t.status = .mintSubmitted
  | _ => True

variable {so : StoreOp}

theorem Read.current {t0 : CctpTransfer} (hread : Read c L id t0)
    (hL : ∀ e ∈ L, Grows (e.after (exec c)) s) (ht : s.transfer id = some t)
    (hversion : t.version = t0.version) : t.terms = t0.terms ∧ t.versioned = t0.versioned := by
  obtain ⟨e, he, ht0⟩ := hread
  obtain ⟨u, hu, hevolves⟩ := hL e he _ t0 ht0
  obtain rfl := Option.mem_unique ht hu
  rcases hevolves.newer_or_same with hlt | hsame
  · exact absurd hversion (by omega)
  · exact ⟨hevolves.terms_eq, hsame⟩

/-- The record that a write meets is the one its call has read, so what the call has seen speaks
about it. -/
theorem Justified.due {call : Call} (hjust : Justified c cfg call L (.store so))
    (ht : s.transfer so.target = some t) (hL : ∀ e ∈ L, P e ∧ Grows (e.after (exec c)) s)
    (hrw : so.Rewrites now s t t') : Due c P t so := by
  have hseen : ∀ e, e ∈ L → P e := fun e he => (hL e he).1
  have hcurrent : ∀ {t0 : CctpTransfer}, Read c L so.target t0 → t.version = t0.version →
      t.terms = t0.terms ∧ t.versioned = t0.versioned :=
    fun hread hversion => hread.current (fun e he => (hL e he).2) ht hversion
  cases so with
  | recordVerifiedBurn id version txHash =>
    obtain ⟨t0, hread, hversion0, hverified⟩ := hjust
    obtain ⟨hterms, -⟩ := hcurrent hread (hrw.1.trans hversion0.symm)
    exact (hverified.mono hseen).of_terms hterms
  | transition id version status patch =>
    obtain ⟨t0, hread, hversion0, hchange, -⟩ := hjust
    obtain ⟨hterms, hversioned⟩ := hcurrent hread (hrw.version_eq.trans hversion0.symm)
    exact (hchange.of_versioned hterms hversioned).mono hseen
  | recordMintPrepared id version payloadHash expiresAt mintSubmitter =>
    obtain ⟨t0, hread, hversion0, -, hstatus, hlive⟩ := hjust
    obtain ⟨hterms, hversioned⟩ := hcurrent hread (hrw.version_eq.trans hversion0.symm)
    rw [← status_of_versioned hversioned] at hstatus
    exact ⟨hstatus, (hlive.mono hseen).of_terms hterms⟩
  | recordMintSubmission id version txHash =>
    obtain ⟨t0, facts, hread, hversion0, hstatus, hreported, hok, -⟩ := hjust
    obtain ⟨-, hversioned⟩ := hcurrent hread (hrw.version_eq.trans hversion0.symm)
    exact ⟨(status_of_versioned hversioned).trans hstatus, facts,
      (hreported.mono hseen).of_versioned hversioned, hok⟩
  | recordMintCompleted id version =>
    obtain ⟨t0, hread, hversion0, hstatus⟩ := hjust
    obtain ⟨-, hversioned⟩ := hcurrent hread (hrw.version_eq.trans hversion0.symm)
    exact (status_of_versioned hversioned).trans hstatus
  | _ => trivial

theorem Evidence.change {status : CctpTransferStatus} {patch : TransferPatch}
    (h : Evidence c P t) (hchange : Change c P t status patch) :
    Evidence c P (applyPatch now status patch t) := by
  cases hchange with
  | prepareBurn hstatus | cancelled hstatus =>
    refine h.keep rfl rfl rfl rfl rfl rfl ?_ ?_ ?_ <;> exact nofun
  | recordBurnPayload hstatus bundle payloadHash =>
    obtain ⟨a, e, hpatch⟩ := burnPatch_eq bundle payloadHash
    rw [hpatch]
    refine h.keep rfl rfl rfl rfl rfl rfl ?_ ?_ ?_ <;> exact nofun
  | rateLimited hstatus error code =>
    refine h.keep rfl rfl rfl rfl rfl rfl ?_ ?_ ?_ <;> rw [hstatus] <;> exact id
  | timeout hstatus error code | rejected hstatus txHash facts reason hf ho
  | hint hstatus error code =>
    refine h.keep rfl rfl rfl rfl rfl rfl ?_ ?_ ?_ <;> rw [hstatus] <;> exact fun hs => hs
  | attested hstatus raw attestation nonce hv hn =>
    refine ⟨fun _ => h.burn (by rw [hstatus]; rfl), h.burnVerified, fun _ => ⟨_, _, _, rfl, rfl, rfl⟩,
      ?_, ?_, fun hs => nomatch hs⟩
    · intro raw' attestation' hraw hattestation
      cases hraw
      cases hattestation
      exact hv
    · intro raw' nonce' hraw hnonce
      cases hraw
      cases hnonce
      exact hn
  | failed hstatus reason =>
    refine h.keep rfl rfl rfl rfl rfl rfl ?_ ?_ ?_ <;> rw [hstatus] <;> intro _ <;> rfl

theorem Evidence.rewrites (h : Evidence c P t) (hdue : Due c P t so)
    (hrw : so.Rewrites now s t t') : Evidence c P t' := by
  cases so with
  | insert t | get id => exact hrw.elim
  | tryAcquirePollLease id leaseSecs minIntervalSecs
  | claimReattestLease id owner leaseSecs maxAttempts =>
    rw [hrw]
    exact h.keep rfl rfl rfl rfl rfl rfl (fun hs => hs) (fun hs => hs) (fun hs => hs)
  | finalizeReattestSuccess id owner | finalizeReattestFailure id owner code error cooldown =>
    obtain ⟨hclaimed, rfl⟩ := hrw
    have hstatus := (claimedBy_eq_true hclaimed).1
    refine h.keep rfl rfl rfl rfl rfl rfl ?_ ?_ ?_ <;> rw [hstatus] <;> exact fun hs => hs
  | recordApprovalSubmission id version txHash verifiedAt =>
    obtain ⟨-, -, -, rfl⟩ := hrw
    exact h.keep rfl rfl rfl rfl rfl rfl (fun hs => hs) (fun hs => hs) (fun hs => hs)
  | recordVerifiedBurn id version txHash =>
    obtain ⟨-, -, -, rfl⟩ := hrw
    refine ⟨fun _ => ⟨_, rfl⟩, ?_, nofun, h.messageVerified, h.nonceReported, nofun⟩
    rintro txHash' hhash
    cases hhash
    exact hdue.of_terms rfl
  | transition id version status patch =>
    rw [hrw.eq]
    exact h.change hdue
  | recordMintPrepared id version payloadHash expiresAt mintSubmitter =>
    rw [hrw.eq]
    rcases hdue.1 with hstatus | hstatus <;>
      refine h.keep rfl rfl rfl rfl rfl rfl ?_ ?_ ?_ <;> rw [hstatus] <;> exact fun hs => hs
  | recordMintSubmission id version txHash =>
    have hstatus := hdue.1
    rw [hrw.eq]
    exact ⟨fun _ => h.burn (by rw [hstatus]; rfl), h.burnVerified,
      fun _ => h.message (by rw [hstatus]; rfl), h.messageVerified, h.nonceReported,
      fun _ => ⟨_, rfl⟩⟩
  | recordMintCompleted id version =>
    have hstatus : t.status = .mintSubmitted := hdue
    rw [hrw.eq]
    refine h.keep rfl rfl rfl rfl rfl rfl ?_ ?_ ?_ <;> rw [hstatus] <;> exact fun hs => hs

theorem evidence_new (hstatus : t.status = .created) : Evidence c P (insertedRow now t) := by
  have hcreated : (insertedRow now t).status = .created := hstatus
  constructor
  · rw [hcreated]
    exact nofun
  · exact nofun
  · rw [hcreated]
    exact nofun
  · exact nofun
  · exact nofun
  · rw [hcreated]
    exact nofun

end Step

/-! ### Every run -/

section Run

variable (c : Codec) (cfg : CctpConfig)

/-- Every stored record has its evidence. -/
def Evidenced (P : Event Env State Op → Prop) (s : State) : Prop :=
  ∀ id t, s.transfer id = some t → Evidence c P t

variable {c cfg}

theorem serve_evidenced (choices : List (Choice Env Call)) :
    Evidenced c (serve c cfg choices).Performed (serve c cfg choices).state := by
  apply serve_inv (J := Evidenced c) _ _ (servedUnder_true c cfg choices)
  · intro E _ L env s o h hL hjust _ id t' ht'
    have hmono : ∀ e, E e → E e ∨ e = ⟨env, s, o⟩ := fun e he => .inl he
    rcases transfer_exec ht' with hold | ⟨t, rfl, -, -, rfl⟩ | ⟨so, t, rfl, rfl, ht, hrw⟩
    · exact (h id t' hold).mono hmono
    · exact evidence_new hjust
    · exact ((h _ t ht).rewrites (hjust.due ht hL hrw) hrw).mono hmono
  · intro id t ht
    exact absurd ht (by simp [State.transfer_empty])

theorem isAllowedTransition_self (status : CctpTransferStatus) :
    isAllowedTransition status status := by
  unfold isAllowedTransition
  rw [if_pos rfl]

theorem StoreOp.Rewrites.allowed {so : StoreOp} {now : Time} {s : State} {t t' : CctpTransfer}
    (h : so.Rewrites now s t t') : isAllowedTransition t.status t'.status := by
  cases so with
  | insert t | get id => exact h.elim
  | tryAcquirePollLease id leaseSecs minIntervalSecs
  | claimReattestLease id owner leaseSecs maxAttempts =>
    rw [h]
    exact isAllowedTransition_self _
  | finalizeReattestSuccess id owner | finalizeReattestFailure id owner code error cooldown =>
    obtain ⟨hclaimed, rfl⟩ := h
    rw [(claimedBy_eq_true hclaimed).1]
    rfl
  | recordApprovalSubmission id version txHash verifiedAt =>
    obtain ⟨-, -, -, rfl⟩ := h
    exact isAllowedTransition_self _
  | recordVerifiedBurn id version txHash =>
    obtain ⟨-, hstatus, -, rfl⟩ := h
    rw [hstatus]
    rfl
  | transition id version status patch
  | recordMintPrepared id version payloadHash expiresAt mintSubmitter
  | recordMintSubmission id version txHash | recordMintCompleted id version =>
    rw [h.eq]
    exact Moves.allowed h

theorem serve_step_status (choices : List (Choice Env Call)) (choice : Choice Env Call) {id : Uuid}
    {t : CctpTransfer} (ht : (serve c cfg choices).state.transfer id = some t) :
    ∃ t', (serve c cfg (choices ++ [choice])).state.transfer id = some t' ∧
      isAllowedTransition t.status t'.status := by
  rw [serve_snoc]
  rcases step_cases (exec c) (start c cfg) (serve c cfg choices) choice with
    ⟨call, rfl, h⟩ | h | ⟨i, env, th, o, k, rfl, hth, hprog, h⟩
  · exact ⟨t, by rw [h]; exact ht, isAllowedTransition_self _⟩
  · exact ⟨t, by rw [h]; exact ht, isAllowedTransition_self _⟩
  · obtain ⟨t', ht', rfl | ⟨so, -, -, hrw⟩⟩ := exec_transfer c env o ht
    · exact ⟨t', by rw [h]; exact ht', isAllowedTransition_self _⟩
    · exact ⟨t', by rw [h]; exact ht', hrw.allowed⟩

end Run

/-- The saga, over every interleaving of service calls: a record stays, moves along the allowed
transitions and never leaves a terminal status; past the burn it has a source transaction that was
verified against the quote; with an attestation it has a message that passed the corridor checks and
the signature check; once the mint is submitted it has a destination transaction. -/
theorem saga_evidence (c : Codec) (cfg : CctpConfig) (choices : List (Choice Env Call)) :
    (∀ choice id t, (serve c cfg choices).state.transfer id = some t →
      ∃ t', (serve c cfg (choices ++ [choice])).state.transfer id = some t' ∧
        isAllowedTransition t.status t'.status ∧ (isTerminal t.status → t'.status = t.status)) ∧
    ∀ id t, (serve c cfg choices).state.transfer id = some t →
      (t.status.burnDone → ∃ txHash, t.sourceTxHash = some txHash ∧
        BurnVerified c (serve c cfg choices).Performed t txHash) ∧
      (t.status.attested → ∃ raw attestation nonce, t.rawMessage = some raw ∧
        t.attestation = some attestation ∧ t.messageNonce = some nonce ∧
        MessageVerified c (serve c cfg choices).Performed t raw attestation) ∧
      (t.status.mintSent → ∃ txHash, t.destinationTxHash = some txHash) := by
  constructor
  · intro choice id t ht
    obtain ⟨t', ht', hallowed⟩ := serve_step_status choices choice ht
    refine ⟨t', ht', hallowed, ?_⟩
    revert hallowed
    cases t.status <;> cases t'.status <;> decide
  · intro id t ht
    have h := serve_evidenced choices id t ht
    refine ⟨fun hs => ?_, fun hs => ?_, h.mint⟩
    · obtain ⟨txHash, hsource⟩ := h.burn hs
      exact ⟨txHash, hsource, h.burnVerified txHash hsource⟩
    · obtain ⟨raw, attestation, nonce, hraw, hattestation, hnonce⟩ := h.message hs
      exact ⟨raw, attestation, nonce, hraw, hattestation, hnonce,
        h.messageVerified raw attestation hraw hattestation⟩

/-- In `s'` a record has its terms, has changed with its version only, and stays behind its burn. -/
def Advances (s s' : State) : Prop :=
  ∀ id t, s.transfer id = some t → ∃ t', s'.transfer id = some t' ∧ Evolves t t' ∧
    (t.status.burnDone → t'.status.burnDone ∨ t'.status = .providerKilled)

theorem transfers_advance (c : Codec) (cfg : CctpConfig) (choices more : List (Choice Env Call)) :
    Advances (serve c cfg choices).state (serve c cfg (choices ++ more)).state := by
  intro id t ht
  induction more using List.reverseRecOn with
  | nil => exact ⟨t, by rwa [List.append_nil], .refl t, .inl⟩
  | append_singleton more choice ih =>
    obtain ⟨u, hu, hevolves, hdone⟩ := ih
    obtain ⟨t', ht', hallowed⟩ := serve_step_status (choices ++ more) choice hu
    obtain ⟨_, hu', hevolves'⟩ := serve_grows c cfg (choices ++ more) [choice] id u hu
    obtain rfl := Option.mem_unique ht' hu'
    refine ⟨t', by rwa [← List.append_assoc], hevolves.trans hevolves', fun h => ?_⟩
    have hbefore := hdone h
    revert hallowed hbefore
    cases u.status <;> cases t'.status <;> decide

end StellarRoute.Cctp
