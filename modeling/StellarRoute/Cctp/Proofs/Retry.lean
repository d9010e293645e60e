import StellarRoute.Cctp.Sanity.Journey

/-! The retry of a failed mint: a new payload is prepared and a new destination
transaction submitted. The hash of the earlier transaction stays in the record
and stands in the way of the new one. -/

namespace StellarRoute.Cctp

open Lib Lib.Interleave

/-! ### Preparing again -/

section Prepare

/-- Whatever the outside world does. -/
def Anywhere : Env → State → Op → Prop := fun _ _ _ => True

variable {c : Codec} {cfg : CctpConfig} {s : State} {t : CctpTransfer} {id : Uuid}

theorem yields_cachedMintBundle :
    Yields c Anywhere (cachedMintBundle t id) s fun _ s' => s'.transfers = s.transfers := by
  unfold cachedMintBundle
  split
  · exact yields_pure rfl
  refine yields_checked fun submitter _ => ?_
  refine yields_bind yields_lock fun active s1 h1 => ?_
  split
  · exact yields_pure h1
  split_ifs
  · exact yields_pure h1
  refine yields_utcNow fun env _ => ?_
  split_ifs
  · exact yields_pure h1
  split
  · exact yields_pure h1
  refine yields_checked fun bundle _ => ?_
  split_ifs
  · exact yields_pure h1
  · exact yields_pure h1

theorem yields_reserveMint {bundle : PreparedMintBundle} :
    Yields c Anywhere (reserveMint c t id bundle) s fun _ s' => s'.transfers = s.transfers := by
  unfold reserveMint
  split
  · exact yields_pure rfl
  refine yields_checked fun submitter _ => ?_
  refine yields_expiryOrNow fun expires => ?_
  refine yields_checked fun payload _ => ?_
  refine yields_bind (yields_utcNow fun env _ => yields_lock) fun result s1 h1 => ?_
  split
  · exact yields_pure h1
  · split
    · exact yields_checked fun cached _ => yields_pure h1
    · exact yields_pure h1
  · exact yields_throw

/-- The records after a mint bundle was returned: as they were, or with the bundle in the record. -/
def Prepared (s : State) (t : CctpTransfer) (bundle : PreparedMintBundle) (s' : State) : Prop :=
  bundle.isTrustline = false → s'.transfers = s.transfers ∨
    ∃ now expires, s'.transfers = (s.put (mintPreparedRow now expires bundle t)).transfers

theorem yields_buildMint (ht : s.transfer id = some t) :
    Yields c Anywhere (buildMint c t id) s (Prepared s t) := by
  refine yields_ask fun env _ => ?_
  refine yields_checked fun bundle _ => ?_
  split_ifs with htrustline
  · exact yields_pure fun hmint => absurd htrustline (by simp [hmint])
  refine yields_bind yields_reserveMint fun cached s1 h1 => ?_
  split
  · exact yields_pure fun _ => .inl h1
  refine yields_expiryOrNow fun expires => ?_
  have hrecord : Yields c Anywhere (store (.recordMintPrepared id t.version bundle.payloadHash expires
      t.mintSubmitter)) s1 fun _ s' => ∃ now, s'.transfers =
        (s.put (mintPreparedRow now expires bundle t)).transfers := by
    refine yields_store fun env _ r hr => ⟨env.now, ?_⟩
    obtain ⟨-, t0, ht0, hmoves, hstate⟩ := transition_eq_ok.mp (StoreOp.exec_eq_ok hr)
    rw [State.transfer_congr h1, ht] at ht0
    cases ht0
    change ((StoreOp.recordMintPrepared _ _ _ _ _).exec env.now env.database s1).2.transfers = _
    rw [hstate, hmoves.eq]
    exact congrArg (Table.set CctpTransfer.transferId _) h1
  refine yields_bind hrecord ?_
  rintro _ s2 ⟨now, h2⟩
  exact yields_pure fun _ => .inr ⟨now, expires, h2⟩

theorem yields_prepareMint (ht : s.transfer id = some t) :
    Yields c Anywhere (prepareMint c cfg id) s (Prepared s t) := by
  refine yields_ensure fun _ => ?_
  refine yields_getTransfer ht ?_
  refine yields_ensure fun _ => ?_
  refine yields_bind (R := fun _ s' => s' = s) (yields_utcNow fun env _ => runs_mk fun _ _ => rfl) ?_
  rintro _ _ rfl
  refine yields_bind yields_cachedMintBundle fun cached s1 h1 => ?_
  split
  · exact yields_pure fun _ => .inl h1
  refine yields_ensure fun _ => ?_
  refine (yields_buildMint ((State.transfer_congr h1).trans ht)).mono fun r s' h bundle hr hmint => ?_
  rcases h bundle hr hmint with h2 | ⟨now, expires, h2⟩
  · exact .inl (h2.trans h1)
  · exact .inr ⟨now, expires, h2.trans (congrArg (Table.set CctpTransfer.transferId _) h1)⟩

end Prepare

/-! ### Submitting again -/

section Submit

variable {α β : Type} {c : Codec} {G : Env → State → Op → Prop} {s : State} {t : CctpTransfer}
  {id : Uuid} {txHash payloadHash : String} {T : Time}

/-- Alone from `s`, in worlds with `G`, nothing is written. -/
abbrev Still (c : Codec) (G : Env → State → Op → Prop) (x : Svc α) (s : State) : Prop :=
  Goes c G x s fun _ s' => s' = s

theorem still_checked {x : Except CctpServiceError β} {k : β → Svc α}
    (hk : ∀ b, x = .ok b → Still c G (k b) s) : Still c G (checked x >>= k) s := by
  refine runs_bind (runs_mk ?_)
  cases x with
  | error e => rfl
  | ok b => exact hk b rfl

theorem still_ensureMintPayloadValid {k : Unit → Svc α}
    (hclock : ∀ env s, G env s .clock → env.now = T)
    (hk : (∀ exp, t.mintPayloadExpiresAt = some exp → T ≤ exp) → Still c G (k ()) s) :
    Still c G (ensureMintPayloadValid t >>= k) s := by
  unfold ensureMintPayloadValid
  split
  · next hnone => exact runs_bind (runs_pure (hk fun exp hexp => nomatch hnone.symm.trans hexp))
  · next exp hexp =>
    refine runs_bind (goes_utcNow fun env hg => runs_mk ?_)
    by_cases hle : env.now ≤ exp
    · rw [require, if_pos hle]
      refine hk fun exp' hexp' => ?_
      obtain rfl := Option.mem_unique hexp hexp'
      rwa [← hclock env s hg]
    · rw [require, if_neg hle]

/-- A submission that the verifier accepts is refused for three reasons: the transfer is not
prepared, its payload has expired, or it has another destination transaction. -/
theorem still_recordMintSubmission (hG : ∀ env s o, G env s o → AcceptsMint txHash payloadHash env)
    (hclock : ∀ env s, G env s .clock → env.now = T) (ht : s.transfer id = some t)
    (hrefused : t.status = .mintPrepared → (∀ exp, t.mintPayloadExpiresAt = some exp → T ≤ exp) →
      t.mintPayloadHash = some payloadHash ∧
        ∃ existing, t.destinationTxHash = some existing ∧ existing ≠ txHash) :
    Still c G (recordMintSubmission id txHash) s := by
  refine goes_getTransfer ht (fun env hg => (hG _ _ _ hg).database) ?_
  refine still_checked fun _ hstatus => ?_
  refine still_ensureMintPayloadValid hclock fun hvalid => ?_
  obtain ⟨hhash, existing, hdestination, hne⟩ := hrefused (require_eq_ok.mp hstatus) hvalid
  refine goes_ready (fun env hg => (hG _ _ _ hg).ready _) ?_
  refine still_checked ?_
  rintro ⟨payloadHash', message, attestation, nonce⟩ hevidence
  have hhash' : t.mintPayloadHash = some payloadHash' := by
    rw [mintEvidence, bind_eq_ok] at hevidence
    obtain ⟨h, hfound, hevidence⟩ := hevidence
    simp only [bind_eq_ok, pure_eq_ok, Prod.mk.injEq] at hevidence
    obtain ⟨_, -, _, -, _, -, rfl, -⟩ := hevidence
    exact okOr_eq_ok.mp hfound
  obtain rfl := Option.mem_unique hhash hhash'
  refine goes_ask fun env hg => ?_
  obtain ⟨facts, hfacts, hhash, hok⟩ := (hG _ _ _ hg).submission t.direction message attestation
    nonce (expectedMintSubmitter t)
  refine goes_checked (mapError_eq_ok.mpr hfacts) ?_
  refine goes_ensure hhash ?_
  split
  · next reason houtcome => simp [VerifiedMintFacts.submissionOk, houtcome] at hok
  refine goes_ensure hok ?_
  unfold submitMint
  rw [hdestination]
  exact still_checked fun _ heq => absurd (require_eq_ok.mp heq) hne

end Submit

section Retry

variable {c : Codec} {cfg : CctpConfig} {s1 s2 : State} {t t1 : CctpTransfer} {id : Uuid}
  {bundle : PreparedMintBundle} {txHash : String} {out : Outcome} {T : Time}
  {L : List (Event Env State Op)}

def Submits (txHash payloadHash : String) (T : Time) (env : Env) (_ : State) (o : Op) : Prop :=
  AcceptsMint txHash payloadHash env ∧ (o = .clock → env.now = T)

def Submitted (s : State) (id : Uuid) : Prop :=
  ∃ t, s.transfer id = some t ∧ (t.status = .mintSubmitted ∨ t.status = .completed)

theorem not_submitted_of_still (ht1 : s1.transfer id = some t1)
    (hstatus : t1.status = .mintPrepared ∨ t1.status = .mintFailedRetryable)
    (hstill : Still c (Submits txHash bundle.payloadHash T) (recordMintSubmission id txHash) s1)
    (hsubmit : Ends (exec c) (start c cfg (.submitMint id txHash)) s1 L out s2)
    (hworlds : ∀ e ∈ L, Submits txHash bundle.payloadHash T e.env e.state e.op) :
    ¬ Submitted s2 id := by
  rintro ⟨t2, ht2, hdone⟩
  have hsame : s2 = s1 :=
    (goes_program cfg (.submitMint id txHash) rfl hstill).alone.ends hsubmit hworlds
  rw [hsame, ht1] at ht2
  cases ht2
  rcases hstatus with hstatus | hstatus <;> rw [hstatus] at hdone <;> simp at hdone

theorem submitted_iff_of_recorded {now expires : Time} (hs1 : Reached c cfg s1)
    (ht1 : s1.transfer id = some (mintPreparedRow now expires bundle t))
    (hlen : byteLen txHash ≤ MAX_TX_HASH_LEN)
    (hfresh : ∀ u ∈ s1.transfers, u.destinationTxHash ≠ some txHash)
    (hsubmit : Ends (exec c) (start c cfg (.submitMint id txHash)) s1 L out s2)
    (hworlds : ∀ e ∈ L, Submits txHash bundle.payloadHash T e.env e.state e.op) :
    Submitted s2 id ↔ t.destinationTxHash = none ∧ T ≤ expires := by
  constructor
  · contrapose!
    intro hrefused
    refine not_submitted_of_still ht1 (.inl rfl) ?_ hsubmit hworlds
    refine still_recordMintSubmission (fun _ _ _ h => h.1) (fun _ _ h => h.2 rfl) ht1
      fun _ hvalid => ⟨rfl, ?_⟩
    have hne : t.destinationTxHash ≠ none :=
      fun hnone => absurd (hvalid expires rfl) (not_le.mpr (hrefused hnone))
    obtain ⟨existing, hexisting⟩ := Option.ne_none_iff_exists'.mp hne
    refine ⟨existing, hexisting, ?_⟩
    rintro rfl
    exact hfresh _ (State.mem_of_transfer ht1) hexisting
  · rintro ⟨hdestination, hvalid⟩
    have hclock : ∀ env, Submits txHash bundle.payloadHash T env s1 .clock → ∀ exp,
        some expires = some exp → env.now ≤ exp := by
      rintro env hsubmits _ ⟨⟩
      rw [hsubmits.2 rfl]
      exact hvalid
    obtain ⟨message, attestation, nonce, hevidence⟩ := hs1.mintEvidence ht1 rfl rfl
    have hgoes := goes_submit_accepted (c := c) (fun env s o h => h.1) ht1 hs1.indexed rfl hclock
      hevidence hdestination hlen hfresh
    obtain ⟨t2, ht2, hdone, -⟩ :=
      (goes_program cfg (.submitMint id txHash) rfl hgoes).alone.ends hsubmit hworlds
    exact ⟨t2, ht2, hdone.imp_right And.left⟩

end Retry

/-- A mint that failed is retried: a new payload is prepared, and a new destination transaction is
submitted that the verifier accepts for it. The transfer moves on exactly if it has no destination
transaction yet and, when the submission comes, the payload is recorded and has not expired. -/
theorem mint_retry_iff {c : Codec} {cfg : CctpConfig} {s s₁ s₂ : State} {t : CctpTransfer} {id : Uuid}
    {bundle : PreparedMintBundle} {txHash : String} {out : Outcome} {T : Time}
    {L₁ L₂ : List (Event Env State Op)} (hs : Reached c cfg s) (ht : s.transfer id = some t)
    (hstatus : t.status = .mintFailedRetryable)
    (hprepare : Ends (exec c) (start c cfg (.prepareMint id)) s L₁ (.ok (.mint bundle)) s₁)
    (hmint : bundle.isTrustline = false) (hlen : byteLen txHash ≤ MAX_TX_HASH_LEN)
    (hfresh : ∀ u ∈ s₁.transfers, u.destinationTxHash ≠ some txHash)
    (hsubmit : Ends (exec c) (start c cfg (.submitMint id txHash)) s₁ L₂ out s₂)
    (haccepts : ∀ e ∈ L₂, AcceptsMint txHash bundle.payloadHash e.env)
    (hclock : ∀ e ∈ L₂, e.op = .clock → e.env.now = T) :
    (∃ t₂, s₂.transfer id = some t₂ ∧ (t₂.status = .mintSubmitted ∨ t₂.status = .completed)) ↔
      t.destinationTxHash = none ∧ ∃ t₁, s₁.transfer id = some t₁ ∧ t₁.status = .mintPrepared ∧
        ∀ exp, t₁.mintPayloadExpiresAt = some exp → T ≤ exp := by
  have hworlds : ∀ e ∈ L₂, Submits txHash bundle.payloadHash T e.env e.state e.op :=
    fun e he => ⟨haccepts e he, hclock e he⟩
  have hcall : Yields c Anywhere (Call.program c cfg (.prepareMint id)) s
      fun reply s' => ∀ bundle, reply = .mint bundle → Prepared s t bundle s' := by
    refine yields_bind (yields_prepareMint ht) fun bundle s' hprepared => yields_pure ?_
    rintro _ ⟨⟩
    exact hprepared
  rcases hcall.alone.ends hprepare (fun _ _ => trivial) _ rfl bundle rfl hmint with
    hsame | ⟨now, expires, hput⟩
  · -- the payload comes from a reservation, and the record was not touched
    have ht₁ := (State.transfer_congr hsame).trans ht
    have hne : t.status ≠ .mintPrepared := by
      rw [hstatus]
      decide
    have hstill : Still c (Submits txHash bundle.payloadHash T) (recordMintSubmission id txHash) s₁ :=
      still_recordMintSubmission (fun _ _ _ h => h.1) (fun _ _ h => h.2 rfl) ht₁
        fun hprepared => absurd hprepared hne
    apply iff_of_false (not_submitted_of_still ht₁ (.inr hstatus) hstill hsubmit hworlds)
    rintro ⟨-, t₁, ht₁', hprepared, -⟩
    rw [ht₁] at ht₁'
    cases ht₁'
    exact hne hprepared
  · have ht₁ : s₁.transfer id = some (mintPreparedRow now expires bundle t) :=
      (State.transfer_congr hput).trans (State.transfer_put ht rfl)
    have hs₁ : Reached c cfg s₁ :=
      (leads_ends (P := fun _ => True) hprepare fun _ _ => trivial).reached hs
    refine (submitted_iff_of_recorded hs₁ ht₁ hlen hfresh hsubmit hworlds).trans
      (and_congr_right fun _ => ⟨fun hvalid => ⟨_, ht₁, rfl, ?_⟩, ?_⟩)
    · rintro _ ⟨⟩
      exact hvalid
    · rintro ⟨t₁, ht₁', -, hvalid⟩
      rw [ht₁] at ht₁'
      cases ht₁'
      exact hvalid expires rfl

/-! ### One USDC again -/

section Plain

/-- A call that comes alone, in the world at the time 0. -/
def plainEval (submission completion : MintVerifyOutcome) (call : Call) (s : State) :
    Except CctpServiceError Reply × State :=
  (start plainCodec plainConfig call).eval (exec plainCodec) (plainOutlook submission completion).env s

/-- The mint of the transfer is prepared. -/
def plainPrepared : State :=
  (plainEval .pending .pending (.prepareMint 0) (attestedAlone plainCodec "1" plainRow)).2

/-- It is submitted, and the verifier reports at once that it has failed. -/
def plainRejected : State :=
  (plainEval (.failedRetryable "reverted") .pending (.submitMint 0 "0x01") plainPrepared).2

/-- It is submitted, and the chain reports later that it has failed. -/
def plainFailed : State :=
  (plainEval .pending (.failedRetryable "reverted") (.poll 0)
    (plainEval .pending .pending (.submitMint 0 "0x01") plainPrepared).2).2

theorem plainEval_reached {s : State} (hs : Reached plainCodec plainConfig s)
    (submission completion : MintVerifyOutcome) (call : Call) :
    Reached plainCodec plainConfig (plainEval submission completion call s).2 :=
  (leads_eval (P := fun _ => True) call trivial).reached hs

theorem plainPrepared_reached : Reached plainCodec plainConfig plainPrepared := by
  obtain ⟨e, -, -, hleads⟩ := leads_attestedAlone (P := fun _ => True) "1"
    (plainOutlook .pending .pending).attests (fun _ => rfl) plainCodec_strkeysShort
    (fun _ _ _ => trivial) plain_reached rfl (by decide) rfl (by decide) (by decide)
  exact plainEval_reached (hleads.reached plain_reached) _ _ _

/-- A payload is prepared once more. -/
def retryPrepared (s : State) : Except CctpServiceError Reply × State :=
  plainEval .pending .succeeded (.prepareMint 0) s

/-- A new transaction is submitted, and the verifier accepts it. -/
def retrySubmitted (s : State) : Except CctpServiceError Reply × State :=
  plainEval .pending .succeeded (.submitMint 0 "0x02") (retryPrepared s).2

theorem retry_ends {s : State} (hbundle : (retryPrepared s).1 = .ok (.mint plainBundle)) :
    ∃ L₁ L₂, Ends (exec plainCodec) (start plainCodec plainConfig (.prepareMint 0)) s L₁
        (.ok (.mint plainBundle)) (retryPrepared s).2 ∧
      Ends (exec plainCodec) (start plainCodec plainConfig (.submitMint 0 "0x02"))
        (retryPrepared s).2 L₂ (retrySubmitted s).1 (retrySubmitted s).2 ∧
      ∀ e ∈ L₂, AcceptsMint "0x02" plainBundle.payloadHash e.env ∧ e.env.now = 0 := by
  obtain ⟨L₁, hprepare, -⟩ := exists_ends (exec plainCodec) (plainOutlook .pending .succeeded).env
    (start plainCodec plainConfig (.prepareMint 0)) s
  obtain ⟨L₂, hsubmit, henv⟩ := exists_ends (exec plainCodec) (plainOutlook .pending .succeeded).env
    (start plainCodec plainConfig (.submitMint 0 "0x02")) (retryPrepared s).2
  refine ⟨L₁, L₂, by rwa [← hbundle], hsubmit, fun e he => ?_⟩
  rw [henv e he]
  exact ⟨Outlook.acceptsMint _ plainBundle_acceptable.hash rfl nofun, rfl⟩

theorem plainRejected_prepared :
    (∃ t, plainRejected.transfer 0 = some t ∧ t.status = .mintFailedRetryable ∧
      t.destinationTxHash = none) ∧
    (retryPrepared plainRejected).1 = .ok (.mint plainBundle) ∧
    (∃ t₁, (retryPrepared plainRejected).2.transfer 0 = some t₁ ∧ t₁.status = .mintPrepared ∧
      t₁.mintPayloadExpiresAt = some (seconds 1000)) ∧
    ∀ u ∈ (retryPrepared plainRejected).2.transfers, u.destinationTxHash ≠ some "0x02" := by
  decide

/-- A submission that was rejected at once leaves no destination transaction, and the retry gets
through. -/
theorem mint_retry_plain : ∃ s s₁ s₂ t L₁ L₂ out,
    Reached plainCodec plainConfig s ∧ s.transfer 0 = some t ∧ t.status = .mintFailedRetryable ∧
    Ends (exec plainCodec) (start plainCodec plainConfig (.prepareMint 0)) s L₁
      (.ok (.mint plainBundle)) s₁ ∧
    Ends (exec plainCodec) (start plainCodec plainConfig (.submitMint 0 "0x02")) s₁ L₂ out s₂ ∧
    ∃ t₂, s₂.transfer 0 = some t₂ ∧ (t₂.status = .mintSubmitted ∨ t₂.status = .completed) := by
  have hs : Reached plainCodec plainConfig plainRejected :=
    plainEval_reached plainPrepared_reached _ _ _
  obtain ⟨⟨t, ht, hstatus, hdestination⟩, hbundle, ⟨t₁, ht₁, hprepared, hexpires⟩, hfresh⟩ :=
    plainRejected_prepared
  obtain ⟨L₁, L₂, hprepare, hsubmit, hworld⟩ := retry_ends hbundle
  refine ⟨_, _, _, t, L₁, L₂, _, hs, ht, hstatus, hprepare, hsubmit, ?_⟩
  refine (mint_retry_iff hs ht hstatus hprepare rfl (by decide) hfresh hsubmit
    (fun e he => (hworld e he).1) fun e he _ => (hworld e he).2).mpr
    ⟨hdestination, t₁, ht₁, hprepared, fun exp hexp => ?_⟩
  rw [hexpires] at hexp
  cases hexp
  decide

theorem plainFailed_refused :
    (∃ t, plainFailed.transfer 0 = some t ∧ t.status = .mintFailedRetryable) ∧
    (retryPrepared plainFailed).1 = .ok (.mint plainBundle) ∧
    (∀ u ∈ (retryPrepared plainFailed).2.transfers, u.destinationTxHash ≠ some "0x02") ∧
    ¬ ∃ t₂, (retrySubmitted plainFailed).2.transfer 0 = some t₂ ∧
      (t₂.status = .mintSubmitted ∨ t₂.status = .completed) := by
  decide

/-- A mint that was submitted and then failed can not be retried: the new payload is prepared, and
the new transaction, accepted by the verifier, is refused for the old one. -/
theorem failed_mint_blocks_retry : ∃ s s₁ s₂ t L₁ L₂ out,
    Reached plainCodec plainConfig s ∧ s.transfer 0 = some t ∧ t.status = .mintFailedRetryable ∧
    Ends (exec plainCodec) (start plainCodec plainConfig (.prepareMint 0)) s L₁
      (.ok (.mint plainBundle)) s₁ ∧
    (∀ u ∈ s₁.transfers, u.destinationTxHash ≠ some "0x02") ∧
    Ends (exec plainCodec) (start plainCodec plainConfig (.submitMint 0 "0x02")) s₁ L₂ out s₂ ∧
    (∀ e ∈ L₂, AcceptsMint "0x02" plainBundle.payloadHash e.env ∧ e.env.now = 0) ∧
    ¬ ∃ t₂, s₂.transfer 0 = some t₂ ∧ (t₂.status = .mintSubmitted ∨ t₂.status = .completed) := by
  have hs : Reached plainCodec plainConfig plainFailed :=
    plainEval_reached (plainEval_reached plainPrepared_reached _ _ _) _ _ _
  obtain ⟨⟨t, ht, hstatus⟩, hbundle, hfresh, hrefused⟩ := plainFailed_refused
  obtain ⟨L₁, L₂, hprepare, hsubmit, hworld⟩ := retry_ends hbundle
  exact ⟨_, _, _, t, L₁, L₂, _, hs, ht, hstatus, hprepare, hfresh, hsubmit, hworld, hrefused⟩

end Plain

end StellarRoute.Cctp
