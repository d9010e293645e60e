import StellarRoute.Cctp.Proofs.Saga
import StellarRoute.Lib.Tally

/-! Asking the Circle service for an attestation again. A caller claims a lease
on the transfer, asks the provider and then finalises, and only the last step
counts the attempt. The attempts that are counted, together with the lease that
is recorded, never pass the limit. The provider is asked by message nonce, and
the nonce is stored with the attestation only: a transfer that can be claimed
has none. -/

namespace StellarRoute.Cctp

open Lib Lib.Interleave

/-! ### What is stored -/

section Stored

variable {c : Codec} {cfg : CctpConfig} {s s' : State} {t t' : CctpTransfer} {id : Uuid}
  {now : Time} {env : Env} {o : Op} {call : Call} {L : Trace} {P : Event Env State Op → Prop}

/-- The attempts that are counted, and the one under way. -/
def CctpTransfer.attempts (t : CctpTransfer) : ℕ :=
  t.reattestAttemptCount + if t.reattestLeaseOwnerHash.isSome then 1 else 0

structure CctpTransfer.Retriable (t : CctpTransfer) : Prop where
  attempts : t.attempts ≤ REATTEST_MAX_ATTEMPTS
  nonce : t.status.attested = false → t.messageNonce = none

theorem StoreOp.Rewrites.attempts {so : StoreOp} (h : so.Rewrites now s t t')
    (hclaim : ∀ id owner leaseSecs limit, so ≠ .claimReattestLease id owner leaseSecs limit) :
    t'.attempts = t.attempts := by
  cases so with
  | insert t | get id => exact h.elim
  | tryAcquirePollLease id leaseSecs minIntervalSecs =>
    rw [h]
    rfl
  | claimReattestLease id owner leaseSecs limit => exact absurd rfl (hclaim _ _ _ _)
  | finalizeReattestSuccess id owner | finalizeReattestFailure id owner code error cooldown =>
    obtain ⟨hclaimed, rfl⟩ := h
    simp [CctpTransfer.attempts, (claimedBy_eq_true hclaimed).2]
  | recordApprovalSubmission id version txHash verifiedAt | recordVerifiedBurn id version txHash =>
    obtain ⟨-, -, -, rfl⟩ := h
    rfl
  | transition id version status patch
  | recordMintPrepared id version payloadHash expiresAt mintSubmitter
  | recordMintSubmission id version txHash | recordMintCompleted id version =>
    rw [h.eq]
    rfl

theorem nonce_change {status : CctpTransferStatus} {patch : TransferPatch}
    (h : Change c P t status patch) (hnone : t.status.attested = false → t.messageNonce = none)
    (hstatus : status.attested = false) : (applyPatch now status patch t).messageNonce = none := by
  cases h with
  | attested hs raw attestation nonce hv hn => exact absurd hstatus (by decide)
  | recordBurnPayload hs bundle payloadHash =>
    obtain ⟨a, e, hpatch⟩ := burnPatch_eq bundle payloadHash
    rw [hpatch]
    exact hnone (by rw [hs]; rfl)
  | prepareBurn hs =>
    rcases hs with hs | hs <;> exact hnone (by rw [hs]; rfl)
  | rateLimited hs | timeout hs => exact hnone (by rw [hs]; rfl)
  | rejected | failed | hint => exact absurd hstatus (by decide)
  | cancelled hs =>
    apply hnone
    cases hstatus : t.status <;> simp [hstatus, canCancel] at hs <;> rfl

/-- A write that leaves a transfer unattested found it so, and adds no nonce. -/
theorem StoreOp.Rewrites.nonce {so : StoreOp} (h : so.Rewrites now s t t') (hdue : Due c P t so)
    (hnone : t.status.attested = false → t.messageNonce = none)
    (hstatus : t'.status.attested = false) : t'.messageNonce = none := by
  cases so with
  | insert t | get id => exact h.elim
  | tryAcquirePollLease id leaseSecs minIntervalSecs
  | claimReattestLease id owner leaseSecs limit =>
    rw [h] at hstatus ⊢
    exact hnone hstatus
  | finalizeReattestSuccess id owner | finalizeReattestFailure id owner code error cooldown =>
    obtain ⟨hclaimed, rfl⟩ := h
    exact hnone (by rw [(claimedBy_eq_true hclaimed).1]; rfl)
  | recordApprovalSubmission id version txHash verifiedAt | recordVerifiedBurn id version txHash =>
    obtain ⟨-, hprepared, -, rfl⟩ := h
    exact hnone (by rw [hprepared]; rfl)
  | transition id version status patch =>
    rw [h.eq] at hstatus ⊢
    exact nonce_change hdue hnone hstatus
  | recordMintPrepared id version payloadHash expiresAt mintSubmitter
  | recordMintSubmission id version txHash | recordMintCompleted id version =>
    rw [h.eq] at hstatus
    exact absurd hstatus (by simp [applyPatch, CctpTransferStatus.attested])

theorem claimReattestLease_cases {owner : String} {leaseSecs : ℤ} {limit : ℕ}
    {found : Option (CctpTransfer × ReattestClaimOutcome)}
    (h : claimReattestLease now id owner leaseSecs limit s = .ok (found, s')) :
    (s' = s ∧ ∀ t, found ≠ some (t, .claimed)) ∨
    ∃ t t', s.transfer id = some t ∧ t.status = .attestationFailed ∧
      t.reattestAttemptCount < limit ∧ s'.transfer id = some t' ∧ found = some (t', .claimed) ∧
      t'.attempts = t.reattestAttemptCount + 1 ∧ t'.messageNonce = t.messageNonce := by
  unfold claimReattestLease at h
  split at h
  · cases h
    exact .inl ⟨rfl, by simp⟩
  · next t ht =>
    split_ifs at h with hclaim
    · cases h
      refine .inr ⟨t, _, ht, hclaim.1, hclaim.2.1, State.transfer_put ht ?_, rfl, ?_⟩
      · rfl
      · exact ⟨rfl, rfl⟩
    all_goals
      cases h
      exact .inl ⟨rfl, by simp⟩

theorem claimed_attempts {owner : String} {leaseSecs : ℤ} {limit : ℕ}
    (hs : ∀ t, s.transfer id = some t → t.attempts ≤ limit)
    (ht' : (exec c env (.store (.claimReattestLease id owner leaseSecs limit)) s).2.transfer id =
      some t') : t'.attempts ≤ limit := by
  rcases StoreOp.exec_cases (.claimReattestLease id owner leaseSecs limit) env.now env.database s
    with hsame | ⟨found, hok⟩
  · rw [exec, hsame] at ht'
    exact hs t' ht'
  · rcases claimReattestLease_cases hok with
      ⟨hsame, -⟩ | ⟨u, u', -, -, hleft, hu', -, hcount, -⟩
    · rw [exec, hsame] at ht'
      exact hs t' ht'
    · obtain rfl : u' = t' := Option.mem_unique hu' ht'
      omega

theorem retriable_exec (hs : ∀ id t, s.transfer id = some t → t.Retriable)
    (hL : ∀ e ∈ L, P e ∧ Grows (e.after (exec c)) s) (hjust : Justified c cfg call L o)
    (ht' : (exec c env o s).2.transfer id = some t') : t'.Retriable := by
  rcases transfer_exec ht' with hold | ⟨t, rfl, -, -, rfl⟩ | ⟨so, t, rfl, rfl, ht, hrw⟩
  · exact hs id t' hold
  · exact ⟨Nat.zero_le _, fun _ => rfl⟩
  · refine ⟨?_, hrw.nonce (hjust.due ht hL hrw) (hs _ t ht).nonce⟩
    by_cases hclaim : ∃ id owner leaseSecs limit, so = .claimReattestLease id owner leaseSecs limit
    · obtain ⟨id, owner, leaseSecs, limit, rfl⟩ := hclaim
      obtain rfl : limit = REATTEST_MAX_ATTEMPTS := hjust
      exact claimed_attempts (fun t ht => (hs id t ht).attempts) ht'
    · rw [hrw.attempts fun id owner leaseSecs limit h => hclaim ⟨id, owner, leaseSecs, limit, h⟩]
      exact (hs _ t ht).attempts

end Stored

/-! ### Every run -/

/-- A request to the reattest endpoint for the transfer. -/
def asksProvider (id : Uuid) : Call → Event Env State Op → Bool
  | .reattest id', ⟨_, _, .ask (.irisReattest _)⟩ => id' = id
  | _, _ => false

/-- How often the reattest endpoint was called for the transfer. -/
def Callers.providerCalls (p : Callers) (id : Uuid) : ℕ := p.count (asksProvider id)

section Run

variable (c : Codec) (cfg : CctpConfig) (choices : List (Choice Env Call))

theorem serve_retriable (id : Uuid) (t : CctpTransfer)
    (ht : (serve c cfg choices).state.transfer id = some t) : t.Retriable := by
  suffices h : ∀ id t, (serve c cfg choices).state.transfer id = some t → t.Retriable from h id t ht
  apply serve_inv (J := fun _ s => ∀ id t, s.transfer id = some t → t.Retriable) _ _
    (servedUnder_true c cfg choices)
  · exact fun E _ L env s o hs hL hjust _ id t => retriable_exec hs hL hjust
  · exact fun id t ht => absurd ht (by simp [State.transfer_empty])

/-- A claim that was granted found no nonce. -/
theorem claimed_nonce {id : Uuid} {owner : String} {leaseSecs : ℤ} {limit : ℕ} {t : CctpTransfer}
    (hdid : Did (exec c) (serve c cfg choices).Performed
      (.store (.claimReattestLease id owner leaseSecs limit)) (.ok (some (t, .claimed)))) :
    t.messageNonce = none := by
  obtain ⟨env, s, he, hclaimed⟩ := hdid
  obtain ⟨before, rest, -, hs⟩ := performed_moment he
  rcases claimReattestLease_cases (StoreOp.exec_eq_ok hclaimed) with
    ⟨-, hnot⟩ | ⟨u, t', hu, hstatus, -, -, hfound, -, hnonce⟩
  · exact absurd rfl (hnot t)
  · cases hfound
    rw [hnonce]
    have hfound : (serve c cfg before).state.transfer id = some u :=
      (congrArg (·.transfer id) hs).trans hu
    exact (serve_retriable c cfg before id u hfound).nonce (by rw [hstatus]; rfl)

theorem provider_not_asked (e : Event Env State Op) (he : (serve c cfg choices).Performed e)
    (nonce : String) : e.op ≠ .ask (.irisReattest nonce) := by
  intro hop
  obtain ⟨th, hth, he⟩ := he
  obtain ⟨later, earlier, htrace⟩ := List.append_of_mem he
  have hjust : Justified c cfg th.call earlier e.op :=
    run_ruled program_justified State.empty choices th hth e earlier ⟨later, htrace.symm⟩
  rw [hop] at hjust
  obtain ⟨id, owner, leaseSecs, limit, t, hdid, hnonce⟩ := hjust
  have hperformed : ∀ e' ∈ earlier, (serve c cfg choices).Performed e' :=
    fun e' he' => ⟨th, hth, by rw [htrace]; simp [he']⟩
  rw [claimed_nonce c cfg choices (hdid.mono hperformed)] at hnonce
  cases hnonce

theorem providerCalls_eq_zero (id : Uuid) : (serve c cfg choices).providerCalls id = 0 := by
  apply count_eq_zero
  intro th hth e he
  unfold asksProvider
  split
  · next hevent => exact absurd rfl (provider_not_asked c cfg choices _ ⟨th, hth, he⟩ _)
  · rfl

/-- Over every interleaving of service calls from the empty store, with any lease expiries: the
requests to the reattest endpoint for a transfer and the attempts that it counts stay within the
limit. -/
theorem reattest_calls_bounded (id : Uuid) :
    (serve c cfg choices).providerCalls id ≤ REATTEST_MAX_ATTEMPTS ∧
    ∀ t, (serve c cfg choices).state.transfer id = some t →
      t.reattestAttemptCount ≤ REATTEST_MAX_ATTEMPTS := by
  constructor
  · rw [providerCalls_eq_zero]
    exact Nat.zero_le _
  · intro t ht
    have hattempts := (serve_retriable c cfg choices id t ht).attempts
    unfold CctpTransfer.attempts at hattempts
    omega

end Run

end StellarRoute.Cctp
