import StellarRoute.Cctp.Sanity.Indexes

/-! Calls that are not interfered with. The rules go through a program from
its first operation on; the lemmas about the calls say what each of them leaves
in the store when the outside world answers favourably and does not change
meanwhile. -/

namespace StellarRoute.Cctp

open Lib Lib.Interleave

/-- The outside world is `E`. -/
def In (E : Env) : Env → State → Op → Prop := fun env _ _ => E = env

theorem in_of {E : Env} {s : State} {o : Op} {P : Env → Prop} (h : P E) (env : Env)
    (henv : In E env s o) : P env := henv ▸ h

section Rules

variable {α β : Type} {c : Codec} {G : Env → State → Op → Prop} {s : State}
  {Post : Except CctpServiceError α → State → Prop}

abbrev Goes (c : Codec) (G : Env → State → Op → Prop) (x : Svc α) (s : State)
    (Post : Except CctpServiceError α → State → Prop) : Prop := Runs (exec c) G x s Post

theorem goes_checked {x : Except CctpServiceError β} {b : β} {k : β → Svc α} (h : x = .ok b)
    (hk : Goes c G (k b) s Post) : Goes c G (checked x >>= k) s Post := runs_mk_bind h hk

variable {e : CctpServiceError} {k : Unit → Svc α} {p : Prop}

theorem goes_ensure [Decidable p] (h : p)
    (hk : Goes c G (k ()) s Post) : Goes c G (ensure p e >>= k) s Post :=
  goes_checked (require_eq_ok.mpr h) hk

theorem goes_ensure_last [Decidable p]
    {Post : Except CctpServiceError Unit → State → Prop} (h : p) (hpost : Post (.ok ()) s) :
    Goes c G (ensure p e) s Post := by
  have hok : require p e = .ok () := require_eq_ok.mpr h
  exact runs_mk (hok ▸ hpost)

theorem goes_utcNow {k : Time → Svc α}
    (hk : ∀ env, G env s .clock → Goes c G (k env.now) s Post) :
    Goes c G (utcNow >>= k) s Post := runs_bind (runs_lift_call hk)

theorem goes_ask {q : Query} {k : q.Answer → Svc α}
    (hk : ∀ env, G env s (.ask q) → Goes c G (k (env.answer q)) s Post) :
    Goes c G (ask q >>= k) s Post := runs_bind (runs_lift_call hk)

theorem goes_store {o : StoreOp} {Post : Except CctpServiceError o.Ret → State → Prop}
    (hdb : ∀ env, G env s (.store o) → env.database = .answers) (hlen : o.tooLong = false)
    (h : ∀ env, G env s (.store o) → ∃ r s', o.statement env.now s = .ok (r, s') ∧
      Post (.ok r) s') : Goes c G (store o) s Post := by
  refine runs_bind (runs_lift_call fun env hg => ?_)
  obtain ⟨r, s', hstatement, hpost⟩ := h env hg
  have hexec : o.exec env.now env.database s = (.ok r, s') := by
    rw [hdb env hg]
    simp [StoreOp.exec, hlen, hstatement]
  change Runs _ _ (checked ((o.exec env.now env.database s).1.mapError _))
    (o.exec env.now env.database s).2 Post
  rw [hexec]
  exact runs_mk hpost

theorem goes_lock {o : LockOp} {Post : Except CctpServiceError o.Ret → State → Prop}
    (h : ∀ env, G env s (.lock o) → ∃ r s',
      o.exec c env.now env.database env.lockRow s = (.ok r, s') ∧ Post (.ok r) s') :
    Goes c G (lock o) s Post := by
  refine runs_bind (runs_lift_call fun env hg => ?_)
  obtain ⟨r, s', hexec, hpost⟩ := h env hg
  change Runs _ _ (checked ((o.exec c env.now env.database env.lockRow s).1.mapError _))
    (o.exec c env.now env.database env.lockRow s).2 Post
  rw [hexec]
  exact runs_mk hpost

theorem goes_releaseFor {source : Option String} {id : Uuid}
    {Post : Except CctpServiceError Unit → State → Prop}
    (h : ∀ s', s'.transfers = s.transfers → (∀ row ∈ s'.locks, row ∈ s.locks) → Post (.ok ()) s') :
    Goes c G (releaseFor source id) s Post := by
  cases source with
  | none => exact runs_pure (h s rfl fun _ hrow => hrow)
  | some source =>
    refine runs_bind (runs_lift_call fun env _ => runs_pure (h _ ?_ fun row hrow => ?_))
    · rcases exec_transfers c env (.lock (.release source id)) s with h | ⟨t, h, -⟩ | ⟨so, t, t', h, -⟩
      · exact h
      · cases h
      · cases h
    · rcases mem_locks_exec hrow with h | ⟨q, h, -⟩
      · exact h
      · cases h

theorem goes_release {t : CctpTransfer}
    (hk : ∀ s', s'.transfers = s.transfers → (∀ row ∈ s'.locks, row ∈ s.locks) →
      Goes c G (k ()) s' Post) : Goes c G (releaseTransferPrepareLocks t >>= k) s Post := by
  refine runs_bind (runs_bind (goes_releaseFor fun s1 h1 hlocks1 => ?_))
  refine goes_releaseFor fun s2 h2 hlocks2 => hk s2 (h2.trans h1) ?_
  exact fun row hrow => hlocks1 row (hlocks2 row hrow)

end Rules

/-! ### What a call leaves when it succeeds -/

section Yields

variable {α β : Type} {c : Codec} {G : Env → State → Op → Prop} {s : State} {Q : α → State → Prop}

/-- Alone from `s`, in worlds with `G`, `x` fails or returns a result that satisfies `Q`. -/
abbrev Yields (c : Codec) (G : Env → State → Op → Prop) (x : Svc α) (s : State)
    (Q : α → State → Prop) : Prop := Goes c G x s fun r s' => ∀ a, r = .ok a → Q a s'

theorem yields_pure {a : α} (h : Q a s) : Yields c G (pure a) s Q := by
  apply runs_pure
  rintro _ ⟨⟩
  exact h

variable {e : CctpServiceError} {k : β → Svc α}

theorem yields_throw : Yields c G (throw e) s Q :=
  runs_throw fun _ ha => nomatch ha

theorem yields_bind {x : Svc β} {R : β → State → Prop} (hx : Yields c G x s R)
    (hk : ∀ b s', R b s' → Yields c G (k b) s' Q) : Yields c G (x >>= k) s Q := by
  refine runs_bind (hx.mono ?_)
  rintro (e | b) s' h
  · exact nofun
  · exact hk b s' (h b rfl)

theorem yields_checked {x : Except CctpServiceError β}
    (hk : ∀ b, x = .ok b → Yields c G (k b) s Q) : Yields c G (checked x >>= k) s Q := by
  apply yields_bind (R := fun b s' => x = .ok b ∧ s' = s) (runs_mk fun b hb => ⟨hb, rfl⟩)
  rintro b _ ⟨hb, rfl⟩
  exact hk b hb

theorem yields_ensure {p : Prop} [Decidable p] {k : Unit → Svc α}
    (hk : p → Yields c G (k ()) s Q) : Yields c G (ensure p e >>= k) s Q :=
  yields_checked fun _ hok => hk (require_eq_ok.mp hok)

theorem yields_utcNow {k : Time → Svc α}
    (hk : ∀ env, G env s .clock → Yields c G (k env.now) s Q) :
    Yields c G (utcNow >>= k) s Q := goes_utcNow hk

theorem yields_ask {q : Query} {k : q.Answer → Svc α}
    (hk : ∀ env, G env s (.ask q) → Yields c G (k (env.answer q)) s Q) :
    Yields c G (ask q >>= k) s Q := goes_ask hk

theorem yields_store {o : StoreOp} {Q : o.Ret → State → Prop}
    (h : ∀ env, G env s (.store o) → ∀ r, (exec c env (.store o) s).1 = .ok r →
      Q r (exec c env (.store o) s).2) : Yields c G (store o) s Q := by
  refine runs_bind (runs_lift_call fun env hg => runs_mk fun r hr => ?_)
  exact h env hg r (mapError_eq_ok.mp hr)

theorem yields_lock {o : LockOp} :
    Yields c G (lock o) s fun _ s' => s'.transfers = s.transfers := by
  refine runs_bind (runs_lift_call fun env _ => runs_mk fun r hr => ?_)
  rcases exec_transfers c env (.lock o) s with h | ⟨t, h, -⟩ | ⟨so, t, t', h, -⟩
  · exact h
  · cases h
  · cases h

theorem yields_getTransfer {id : Uuid} {t : CctpTransfer} {k : CctpTransfer → Svc α}
    (ht : s.transfer id = some t) (hk : Yields c G (k t) s Q) :
    Yields c G (getTransfer id >>= k) s Q := by
  have hget : Yields c G (store (.get id)) s fun found s' => found = some t ∧ s' = s := by
    refine yields_store fun env _ r hr => ?_
    have hstatement := StoreOp.exec_eq_ok hr
    simp only [StoreOp.statement, Cctp.get, Except.ok.injEq, Prod.mk.injEq] at hstatement
    exact ⟨hstatement.1.symm.trans ht, hstatement.2.symm⟩
  have hread : Yields c G (getTransfer id) s fun t' s' => t' = t ∧ s' = s := by
    refine yields_bind hget ?_
    rintro _ _ ⟨rfl, rfl⟩
    exact runs_mk fun t' ht' => ⟨(Option.some.inj (okOr_eq_ok.mp ht')).symm, rfl⟩
  refine yields_bind hread ?_
  rintro _ _ ⟨rfl, rfl⟩
  exact hk

theorem yields_expiryOrNow {expiresAt : ℤ} {k : Time → Svc α}
    (hk : ∀ expires, Yields c G (k expires) s Q) :
    Yields c G (expiryOrNow expiresAt >>= k) s Q := by
  unfold expiryOrNow
  split
  · exact runs_bind (runs_pure (hk _))
  · exact yields_utcNow fun env _ => hk env.now

end Yields

/-! ### Statements and checks that pass -/

section Checks

variable {α : Type} {c : Codec} {G : Env → State → Op → Prop} {s : State} {t : CctpTransfer}
  {id : Uuid} {Post : Except CctpServiceError α → State → Prop}

theorem transition_ok {status : CctpTransferStatus} {patch : TransferPatch} {now : Time}
    (ht : s.transfer id = some t) (hallowed : isAllowedTransition t.status status)
    (hpatch : validatePatch patch = .ok ())
    (hunique : checkUnique s (applyPatch now status patch t) = .ok ()) :
    transition now id t.version status patch s =
      .ok (applyPatch now status patch t, s.put (applyPatch now status patch t)) :=
  transition_eq_ok.mpr ⟨hpatch, t, ht, ⟨rfl, hallowed, hunique, rfl⟩, rfl⟩

theorem goes_getTransfer {k : CctpTransfer → Svc α} (ht : s.transfer id = some t)
    (hdb : ∀ env, G env s (.store (.get id)) → env.database = .answers)
    (hk : Goes c G (k t) s Post) : Goes c G (getTransfer id >>= k) s Post := by
  refine runs_bind (runs_bind (goes_store hdb rfl fun env hg => ⟨some t, s, ?_, runs_mk hk⟩))
  simp [StoreOp.statement, Cctp.get, ht]

theorem goes_transition {status : CctpTransferStatus} {patch : TransferPatch}
    {Post : Except CctpServiceError CctpTransfer → State → Prop} (ht : s.transfer id = some t)
    (hdb : ∀ env o, G env s o → env.database = .answers)
    (hallowed : isAllowedTransition t.status status) (hpatch : validatePatch patch = .ok ())
    (hunique : ∀ now, checkUnique s (applyPatch now status patch t) = .ok ())
    (hpost : ∀ env o, G env s o → Post (.ok (applyPatch env.now status patch t))
      (s.put (applyPatch env.now status patch t))) :
    Goes c G (store (.transition id t.version status patch)) s Post := by
  refine goes_store (fun env => hdb env _) rfl fun env hg => ⟨_, _, ?_, hpost env _ hg⟩
  exact transition_ok ht hallowed hpatch (hunique _)

variable {k : Unit → Svc α}

theorem goes_ensureQuoteNotExpired
    (h : ∀ env, G env s .clock → env.now ≤ t.quoteExpiresAt) (hk : Goes c G (k ()) s Post) :
    Goes c G (ensureQuoteNotExpired t >>= k) s Post :=
  runs_bind (goes_utcNow fun env hg => goes_ensure_last (h env hg) hk)

theorem goes_ensureFeeNotExpired
    (h : ∀ env, G env s .clock → ∀ exp, t.feeExpiresAt = some exp → env.now ≤ exp)
    (hk : Goes c G (k ()) s Post) : Goes c G (ensureFeeNotExpired t >>= k) s Post := by
  unfold ensureFeeNotExpired
  split
  · exact runs_bind (runs_pure hk)
  · next exp hexp =>
    exact runs_bind (goes_utcNow fun env hg => goes_ensure_last (h env hg exp hexp) hk)

theorem goes_ensureMintPayloadValid
    (h : ∀ env, G env s .clock → ∀ exp, t.mintPayloadExpiresAt = some exp → env.now ≤ exp)
    (hk : Goes c G (k ()) s Post) : Goes c G (ensureMintPayloadValid t >>= k) s Post := by
  unfold ensureMintPayloadValid
  split
  · exact runs_bind (runs_pure hk)
  · next exp hexp =>
    exact runs_bind (goes_utcNow fun env hg => goes_ensure_last (h env hg exp hexp) hk)

theorem goes_ready {q : Query} {p : q.Answer → Prop} [∀ a, Decidable (p a)] {e : CctpServiceError}
    (h : ∀ env, G env s (.ask q) → p (env.answer q)) (hk : Goes c G (k ()) s Post) :
    Goes c G ((ask q >>= fun a => ensure (p a) e) >>= k) s Post :=
  runs_bind (goes_ask fun env hg => goes_ensure_last (h env hg) hk)

end Checks

/-! ### The calls in a favourable world -/

section Calls

variable {c : Codec} {cfg : CctpConfig} {E : Env} {s : State} {t : CctpTransfer} {id : Uuid}
  (hdb : E.database = .answers) (ht : s.transfer id = some t)
include hdb ht

theorem goes_recordBurnSubmission {txHash : String} {facts expected : VerifiedBurnFacts}
    (hindexed : s.Indexed) (hstatus : t.status = .burnPrepared)
    (hquote : E.now ≤ t.quoteExpiresAt) (hfee : ∀ exp, t.feeExpiresAt = some exp → E.now ≤ exp)
    (hready : E.answer (.burnVerifierReady t.direction) = true)
    (hverify : E.answer (.verifyBurn t.direction txHash) = .ok facts)
    (hexpected : buildExpectedBurnFacts c t txHash = .ok expected)
    (hmatch : factsMatch expected facts = .ok ()) (hlen : byteLen txHash ≤ MAX_TX_HASH_LEN)
    (hfree : ∀ u ∈ s.transfers, u.sourceTxHash = some txHash → u.transferId = id) :
    Goes c (In E) (recordBurnSubmission c id txHash) s fun r s' =>
      r = .ok (burnedRow E.now txHash t) ∧
        s'.transfers = (s.put (burnedRow E.now txHash t)).transfers ∧
        ∀ row ∈ s'.locks, row ∈ s.locks := by
  apply goes_getTransfer ht (in_of hdb)
  apply goes_ensure hstatus
  apply goes_ensureQuoteNotExpired (in_of hquote)
  apply goes_ensureFeeNotExpired (in_of hfee)
  apply goes_ready (in_of hready)
  refine goes_ask (in_of ?_)
  apply goes_checked (mapError_eq_ok.mpr hverify)
  apply goes_checked (mapError_eq_ok.mpr hexpected)
  apply goes_checked (mapError_eq_ok.mpr hmatch)
  have hmem := State.mem_of_transfer ht
  have hsource : s.taken CctpTransfer.sourceTxHash (burnedRow E.now txHash t) = false := by
    rw [State.taken_eq_false]
    rintro u hu _ ⟨⟩ husource
    exact (hfree u hu husource).trans (State.id_of_transfer ht).symm
  have hunique : checkUnique s (burnedRow E.now txHash t) = .ok () :=
    checkUnique_eq_ok.mpr ⟨hsource, hindexed.nonce.not_taken hmem rfl rfl,
      hindexed.destination.not_taken hmem rfl rfl, hindexed.approval.not_taken hmem rfl rfl⟩
  have hlen' : (StoreOp.recordVerifiedBurn id t.version txHash).tooLong = false :=
    decide_eq_false (not_lt.mpr hlen)
  have hburn : verifiedBurn E.now id t.version txHash s =
      .ok (burnedRow E.now txHash t, s.put (burnedRow E.now txHash t)) :=
    verifiedBurn_eq_ok.mpr ⟨t, ht, ⟨rfl, hstatus, hunique, rfl⟩, rfl⟩
  refine runs_bind (goes_store (in_of hdb) hlen' (in_of ⟨_, _, hburn, ?_⟩))
  refine goes_release fun s' htransfers hlocks => runs_pure ⟨rfl, htransfers, hlocks⟩

/-! #### Attestation -/

theorem goes_poll_attested (cfg : CctpConfig) {txHash : String} {msg : IrisMessage}
    {raw attestation : Bytes} (hindexed : s.Indexed) (hstatus : t.status = .awaitingAttestation)
    (htime : E.now ≤ t.updatedAt + seconds cfg.pollTimeoutSecs) (hsource : t.sourceTxHash = some txHash)
    (hiris : E.answer (.pollMessagesByTx (sourceChain t.direction).2.1 txHash) =
      .ok (.complete msg))
    (hready : E.answer .attestationVerifierReady = true)
    (hcheck : checkIrisMessage c t msg = .ok (raw, attestation))
    (hverify : E.answer (.verifyAttestation raw attestation) = .ok ()) (hnonce : msg.eventNonce ≠ "")
    (hlen : byteLen msg.eventNonce ≤ MAX_MESSAGE_NONCE_LEN)
    (hfresh : ∀ u ∈ s.transfers, nonceKey u ≠ some (t.sourceChainId, msg.eventNonce)) :
    Goes c (In E) (pollOneTransfer c cfg id) s fun _ s' =>
      s' = s.put (applyPatch E.now .attestationReady
        { rawMessage := some raw, attestation := some attestation
          messageNonce := some msg.eventNonce } t) := by
  apply goes_getTransfer ht (in_of hdb)
  rw [hstatus]
  refine goes_utcNow (in_of ?_)
  rw [if_neg (not_lt.mpr htime)]
  apply goes_checked (okOr_eq_ok.mpr hsource)
  refine goes_ask (in_of ?_)
  apply goes_checked (mapError_eq_ok.mpr hiris)
  apply goes_ready (in_of hready)
  apply goes_checked hcheck
  refine goes_ask (in_of ?_)
  apply goes_checked (mapError_eq_ok.mpr hverify)
  apply goes_ensure hnonce
  obtain ⟨-, -, -, -, -, hraw, hattestation⟩ := checkIrisMessage_eq_ok hcheck
  have hpatch : validatePatch { rawMessage := some raw, attestation := some attestation
                                messageNonce := some msg.eventNonce } = .ok () := by
    simp [validatePatch, bind_eq_ok, require_eq_ok, hraw, hattestation, hlen]
  have hmem := State.mem_of_transfer ht
  rw [State.id_of_transfer ht]
  refine goes_transition ht (fun _ _ h => h ▸ hdb) (by rw [hstatus]; rfl) hpatch
    (fun now => checkUnique_eq_ok.mpr ?_) (by rintro _ _ rfl; rfl)
  exact ⟨hindexed.source.not_taken hmem rfl rfl, State.not_taken_of_fresh rfl hfresh,
    hindexed.destination.not_taken hmem rfl rfl, hindexed.approval.not_taken hmem rfl rfl⟩

structure Reattestable (now : Time) (t : CctpTransfer) : Prop where
  attempts : t.reattestAttemptCount < REATTEST_MAX_ATTEMPTS
  cooldown : t.reattestCooldownUntil.all (· ≤ now)
  lease : t.reattestLeaseUntil.all (· ≤ now)

theorem goes_reattest (hstatus : t.status = .attestationFailed) (hagain : Reattestable E.now t)
    (hsource : t.sourceTxHash.isSome)
    (hiris : ∀ nonce, t.messageNonce = some nonce → E.answer (.irisReattest nonce) = .ok ()) :
    Goes c (In E) (reattest id) s fun _ s' => s' = s.put (reattestedRow E.now t) := by
  refine goes_ask (in_of ?_)
  let claimed : CctpTransfer := { t with
    reattestLeaseOwnerHash := some (E.answer .leaseOwner)
    reattestLeaseUntil := some (E.now + seconds REATTEST_LEASE_SECS), updatedAt := E.now }
  have hclaim : claimReattestLease E.now id (E.answer .leaseOwner) REATTEST_LEASE_SECS
      REATTEST_MAX_ATTEMPTS s = .ok (some (claimed, .claimed), s.put claimed) := by
    simp only [claimReattestLease, ht]
    rw [if_pos ⟨hstatus, hagain.attempts, hagain.cooldown, .inl hagain.lease⟩]
  have hstored : (s.put claimed).transfer id = some claimed := State.transfer_put ht rfl
  have hfinal : finalizeReattestSuccess E.now id (E.answer .leaseOwner) (s.put claimed) =
      .ok (some (reattestedRow E.now t), s.put (reattestedRow E.now t)) := by
    have hfilter : (some claimed).filter (claimedBy (E.answer .leaseOwner)) = some claimed := by
      simp [claimed, claimedBy, hstatus]
    have hput : (s.put claimed).put (reattestedRow E.now t) = s.put (reattestedRow E.now t) :=
      State.put_put rfl
    simp only [finalizeReattestSuccess, hstored, hfilter]
    rw [← hput]
  refine runs_bind (goes_store (in_of hdb) rfl (in_of ⟨_, _, hclaim, ?_⟩))
  apply goes_checked rfl
  apply goes_ensure rfl
  have hrequest : Goes c (In E) (requestReattest claimed id (E.answer .leaseOwner)
      REATTEST_COOLDOWN_SECS) (s.put claimed)
      fun r s' => r = .ok (.ok ()) ∧ s' = s.put claimed := by
    unfold requestReattest
    split
    · next nonce hnonce =>
      apply runs_lift_call
      rintro _ rfl
      exact ⟨congrArg Except.ok (hiris nonce hnonce), rfl⟩
    · rw [if_pos hsource]
      exact runs_pure ⟨rfl, rfl⟩
  refine runs_bind (hrequest.mono ?_)
  rintro _ _ ⟨rfl, rfl⟩
  refine runs_bind (goes_store (in_of hdb) rfl (in_of ⟨_, _, hfinal, ?_⟩))
  exact runs_mk rfl

/-! #### Mint -/

omit hdb ht in
theorem goes_expiryOrNow {α : Type} {expiresAt : ℤ} {k : Time → Svc α}
    {Post : Except CctpServiceError α → State → Prop}
    (hk : Goes c (In E) (k ((fromTimestamp expiresAt).getD E.now)) s Post) :
    Goes c (In E) (expiryOrNow expiresAt >>= k) s Post := by
  unfold expiryOrNow
  cases hexpiry : fromTimestamp expiresAt with
  | some expires =>
    rw [hexpiry] at hk
    exact runs_bind (runs_pure hk)
  | none =>
    rw [hexpiry] at hk
    refine goes_utcNow (in_of ?_)
    exact hk

/-- No live reservation is in the way of the transfer's mint payload. -/
def SubmitterFree (now : Time) (s : State) (t : CctpTransfer) : Prop :=
  t.direction = .evmToStellar → ∃ submitter, t.mintSubmitter = some submitter ∧
    ∀ row ∈ s.locks, row.sourceAccount = submitter → row.expiresAt ≤ now

variable {α : Type} {Post : Except CctpServiceError α → State → Prop}
  {k : Option PreparedMintBundle → Svc α} {bundle : PreparedMintBundle}

omit ht in
theorem goes_cachedMintBundle (hfree : SubmitterFree E.now s t)
    (hk : Goes c (In E) (k none) s Post) : Goes c (In E) (cachedMintBundle t id >>= k) s Post := by
  unfold cachedMintBundle
  split
  · exact runs_bind (runs_pure hk)
  · next hdirection =>
    obtain ⟨submitter, hsubmitter, hrows⟩ := hfree hdirection
    refine runs_bind (goes_checked (okOr_eq_ok.mpr hsubmitter) ?_)
    refine runs_bind (goes_lock ?_)
    rintro _ rfl
    rw [hdb]
    refine ⟨_, s, rfl, ?_⟩
    dsimp only
    split
    · exact runs_pure hk
    · next row hrow =>
      have hlive : row ∈ s.liveRows E.now id := List.mem_of_getElem? hrow
      simp only [State.liveRows, List.mem_filter, Bool.and_eq_true, decide_eq_true_eq] at hlive
      rw [if_pos ?_]
      · exact runs_pure hk
      · intro hsource
        exact absurd (hrows row hlive.1 hsource) (not_le.mpr hlive.2.2)

/-- A mint bundle that can be reserved and recorded, and that is valid at `now`. -/
structure Acceptable (c : Codec) (now : Time) (bundle : PreparedMintBundle) : Prop where
  mint : bundle.isTrustline = false
  hash : bundle.payloadHash ≠ ""
  hashLen : byteLen bundle.payloadHash ≤ MAX_PAYLOAD_HASH_LEN
  json : c.mintBundleJsonLen bundle ≠ 0
  jsonLen : c.mintBundleJsonLen bundle ≤ MAX_PREPARED_PAYLOAD_LEN
  expiry : now ≤ (fromTimestamp bundle.expiresAt).getD now

theorem goes_reserveMint (hfree : SubmitterFree E.now s t) (hbundle : Acceptable c E.now bundle)
    (hk : ∀ s', s'.transfers = s.transfers → Goes c (In E) (k none) s' Post) :
    Goes c (In E) (reserveMint c t id bundle >>= k) s Post := by
  unfold reserveMint
  split
  · exact runs_bind (runs_pure (hk s rfl))
  · next hdirection =>
    obtain ⟨submitter, hsubmitter, hrows⟩ := hfree hdirection
    have hserialize : serializePayload c (.mint bundle) = .ok (.mint bundle) := by
      simp only [serializePayload, bind_eq_ok, require_eq_ok, pure_eq_ok, exists_const, and_true]
      exact hbundle.jsonLen
    refine runs_bind (goes_checked (okOr_eq_ok.mpr hsubmitter) ?_)
    apply goes_expiryOrNow
    apply goes_checked hserialize
    refine runs_bind (goes_utcNow (in_of ?_))
    apply goes_lock
    rintro _ rfl
    let r : CctpActivePrepare :=
      { sourceAccount := submitter, transferId := id, kind := .mint
        payloadHash := bundle.payloadHash, preparedPayload := some (.mint bundle)
        expiresAt := (fromTimestamp bundle.expiresAt).getD E.now, updatedAt := E.now }
    have hvalid : validateReservation c r = .ok () := by
      simp only [validateReservation, bind_eq_ok, require_eq_ok, exists_const]
      refine ⟨⟨hbundle.hash, hbundle.hashLen⟩, ?_⟩
      simp [r, CachedPayload.len, hbundle.json, hbundle.jsonLen]
    have hnone : s.locks.find? (fun row =>
        row.sourceAccount = r.sourceAccount && E.now < row.expiresAt) = none := by
      rw [List.find?_eq_none]
      intro row hrow hlive
      simp only [Bool.and_eq_true, decide_eq_true_eq] at hlive
      exact absurd (hrows row hrow hlive.1) (not_le.mpr hlive.2)
    have hacquire : ∃ s', tryAcquire E.now r s = .ok (.acquired, s') ∧
        s'.transfers = s.transfers := by
      unfold tryAcquire
      simp only [hnone]
      rw [if_pos (by simp [r, ht])]
      exact ⟨_, rfl, rfl⟩
    obtain ⟨s', hacquire, htransfers⟩ := hacquire
    refine ⟨.acquired, s', ?_, runs_pure (hk s' htransfers)⟩
    simp [hdb, LockOp.exec, LockOp.validate, LockOp.statement, r, hvalid, hacquire]

/-- The record after a mint payload was recorded. -/
def mintPreparedRow (now expires : Time) (bundle : PreparedMintBundle) (t : CctpTransfer) :
    CctpTransfer :=
  applyPatch now .mintPrepared
    { mintPayloadHash := some bundle.payloadHash, mintPayloadExpiresAt := some expires
      mintSubmitter := t.mintSubmitter } t

theorem goes_prepareMint (hindexed : s.Indexed) (hcfg : cfg.enabled ∧ cfg.configured)
    (hstatus : t.status = .attestationReady ∨ t.status = .mintFailedRetryable)
    (hquote : E.now ≤ t.quoteExpiresAt) (hfree : SubmitterFree E.now s t)
    (hbuild : E.answer (.prepareMint t) = .ok bundle) (hbundle : Acceptable c E.now bundle) :
    Goes c (In E) (prepareMint c cfg id) s fun r s' => r = .ok bundle ∧
      s'.transfers = (s.put (mintPreparedRow E.now
        ((fromTimestamp bundle.expiresAt).getD E.now) bundle t)).transfers := by
  refine goes_ensure hcfg ?_
  refine goes_getTransfer ht (in_of hdb) ?_
  refine goes_ensure (by tauto) ?_
  refine goes_ensureQuoteNotExpired (in_of hquote) ?_
  refine goes_cachedMintBundle hdb hfree ?_
  refine goes_ensure (by rcases hstatus with h | h <;> rw [h] <;> decide) ?_
  refine goes_ask (in_of ?_)
  refine goes_checked (mapError_eq_ok.mpr hbuild) ?_
  rw [hbundle.mint, if_neg Bool.false_ne_true]
  refine goes_reserveMint hdb ht hfree hbundle fun s' htransfers => ?_
  refine goes_expiryOrNow ?_
  have ht' : s'.transfer id = some t := (State.transfer_congr htransfers).trans ht
  have hlen : (StoreOp.recordMintPrepared id t.version bundle.payloadHash
      ((fromTimestamp bundle.expiresAt).getD E.now) t.mintSubmitter).tooLong = false :=
    decide_eq_false (not_lt.mpr hbundle.hashLen)
  have hallowed : isAllowedTransition t.status .mintPrepared := by
    rcases hstatus with h | h <;> rw [h] <;> rfl
  have hunique : checkUnique s' (mintPreparedRow E.now
      ((fromTimestamp bundle.expiresAt).getD E.now) bundle t) = .ok () :=
    (hindexed.of_transfers htransfers).unique ht' rfl rfl rfl rfl rfl rfl
  have hrecord := transition_ok ht' hallowed rfl hunique
  refine runs_bind (goes_store (in_of hdb) hlen (in_of ⟨_, _, hrecord, runs_pure ⟨rfl, ?_⟩⟩))
  unfold State.put
  rw [htransfers]
  rfl

theorem goes_poll_completed (cfg : CctpConfig) {txHash nonce : String} {message : Bytes}
    (hindexed : s.Indexed) (hstatus : t.status = .mintSubmitted)
    (hdestination : t.destinationTxHash = some txHash) (hmessage : t.rawMessage = some message)
    (hnonce : t.messageNonce = some nonce)
    (hcompletion : E.answer (.verifyMintCompletion t.direction txHash message nonce t.recipient
      t.finality) = .ok .succeeded) :
    Goes c (In E) (pollOneTransfer c cfg id) s fun _ s' =>
      s'.transfers = (s.put (applyPatch E.now .completed {} t)).transfers := by
  apply goes_getTransfer ht (in_of hdb)
  rw [hstatus]
  apply goes_checked (okOr_eq_ok.mpr hdestination)
  apply goes_checked (okOr_eq_ok.mpr hmessage)
  apply goes_checked (okOr_eq_ok.mpr hnonce)
  refine goes_ask (in_of ?_)
  apply goes_checked (mapError_eq_ok.mpr hcompletion)
  rw [settleMint, State.id_of_transfer ht]
  have hunique : checkUnique s (applyPatch E.now .completed {} t) = .ok () :=
    hindexed.unique ht rfl rfl rfl rfl rfl rfl
  have hok := transition_ok ht (by rw [hstatus]; rfl) rfl hunique
  refine runs_bind (goes_store (in_of hdb) rfl (in_of ⟨_, _, hok, ?_⟩))
  exact goes_release fun s' htransfers _ => runs_pure htransfers

end Calls

/-! ### A submission that is accepted -/

/-- The outside world accepts the transaction for the payload, and does not see it fail. -/
structure AcceptsMint (txHash payloadHash : String) (env : Env) : Prop where
  database : env.database = .answers
  ready : ∀ direction, env.answer (.mintVerifierReady direction) = true
  submission : ∀ direction message attestation nonce submitter, ∃ facts,
    env.answer (.verifyMintSubmission direction txHash message attestation nonce payloadHash
      submitter) = .ok facts ∧ facts.payloadHash = payloadHash ∧ facts.submissionOk
  completion : ∀ direction message nonce recipient finality reason,
    env.answer (.verifyMintCompletion direction txHash message nonce recipient finality) ≠
      .ok (.failedRetryable reason)

section Submission

variable {c : Codec} {G : Env → State → Op → Prop} {s : State} {t : CctpTransfer} {id : Uuid}
  {txHash payloadHash : String} (hG : ∀ env s o, G env s o → AcceptsMint txHash payloadHash env)
include hG

theorem goes_settleMint {outcome : MintVerifyOutcome} (t0 : CctpTransfer)
    (ht : s.transfer t.transferId = some t) (hindexed : s.Indexed)
    (hstatus : t.status = .mintSubmitted) (hne : ∀ reason, outcome ≠ .failedRetryable reason) :
    Goes c G (settleMint t0 t outcome) s fun _ s' =>
      ∃ t', s'.transfer t.transferId = some t' ∧
        (t'.status = .mintSubmitted ∨ t'.status = .completed ∧ outcome = .succeeded) ∧
        ∀ u ∈ s'.transfers, u.destinationTxHash = t.destinationTxHash ∨ u ∈ s.transfers := by
  have hunique : ∀ status patch now, patch.sourceTxHash = none → patch.messageNonce = none →
      patch.destinationTxHash = none → patch.sourceApprovalTxHash = none →
      checkUnique s (applyPatch now status patch t) = .ok () := by
    intro status patch now h1 h2 h3 h4
    refine hindexed.unique ht ?_ ?_ ?_ ?_ ?_ ?_ <;> simp [applyPatch, h1, h2, h3, h4]
  cases outcome with
  | succeeded =>
    refine runs_bind (goes_store (fun env hg => (hG _ _ _ hg).database) rfl fun env _ => ?_)
    have hok := transition_ok ht (by rw [hstatus]; rfl) rfl
      (hunique .completed {} env.now rfl rfl rfl rfl)
    refine ⟨_, _, hok, goes_release fun s' htransfers _ => runs_pure ?_⟩
    exact ⟨_, (State.transfer_congr htransfers).trans (State.transfer_put ht rfl),
      .inr ⟨rfl, rfl⟩, State.rows_of_put htransfers rfl⟩
  | pending => exact runs_pure ⟨t, ht, .inl hstatus, fun _ hu => .inr hu⟩
  | reconciliationNonceConsumed =>
    unfold settleMint recordMintReconciliationHint
    split_ifs
    · exact runs_pure ⟨t, ht, .inl hstatus, fun _ hu => .inr hu⟩
    · refine goes_transition ht (fun _ _ hg => (hG _ _ _ hg).database) (by rw [hstatus]; rfl) rfl
        (fun now => hunique _ _ now rfl rfl rfl rfl) fun env _ _ => ?_
      exact ⟨_, State.transfer_put ht rfl, .inl hstatus, State.rows_of_put rfl rfl⟩
  | failedRetryable reason => exact absurd rfl (hne reason)

/-- A submission that the verifier accepts is recorded, and completed only by a verdict. -/
theorem goes_submit_accepted {message attestation : Bytes} {nonce : String}
    (ht : s.transfer id = some t) (hindexed : s.Indexed) (hstatus : t.status = .mintPrepared)
    (hvalid : ∀ env, G env s .clock → ∀ exp, t.mintPayloadExpiresAt = some exp → env.now ≤ exp)
    (hevidence : mintEvidence t = .ok (payloadHash, message, attestation, nonce))
    (hdestination : t.destinationTxHash = none) (hlen : byteLen txHash ≤ MAX_TX_HASH_LEN)
    (hfresh : ∀ u ∈ s.transfers, u.destinationTxHash ≠ some txHash) :
    Goes c G (recordMintSubmission id txHash) s fun _ s' =>
      ∃ t', s'.transfer id = some t' ∧ (t'.status = .mintSubmitted ∨ t'.status = .completed ∧
        ∃ env s o, G env s o ∧ env.answer (.verifyMintCompletion t.direction txHash message nonce
          t.recipient t.finality) = .ok .succeeded) ∧
        ∀ u ∈ s'.transfers, u.destinationTxHash = some txHash ∨ u ∈ s.transfers := by
  refine goes_getTransfer ht (fun env hg => (hG _ _ _ hg).database) ?_
  refine goes_ensure hstatus ?_
  refine goes_ensureMintPayloadValid hvalid ?_
  refine goes_ready (fun env hg => (hG _ _ _ hg).ready _) ?_
  refine goes_checked hevidence ?_
  refine goes_ask fun env hg => ?_
  obtain ⟨facts, hfacts, hhash, hok⟩ := (hG _ _ _ hg).submission t.direction message attestation
    nonce (expectedMintSubmitter t)
  refine goes_checked (mapError_eq_ok.mpr hfacts) ?_
  refine goes_ensure hhash ?_
  split
  · next reason houtcome => simp [VerifiedMintFacts.submissionOk, houtcome] at hok
  refine goes_ensure hok ?_
  unfold submitMint
  rw [hdestination]
  have hmem := State.mem_of_transfer ht
  have hunique : ∀ now, checkUnique s (applyPatch now .mintSubmitted
      { destinationTxHash := some txHash } t) = .ok () := fun now => checkUnique_eq_ok.mpr
    ⟨hindexed.source.not_taken hmem rfl rfl, hindexed.nonce.not_taken hmem rfl rfl,
      State.not_taken_of_fresh rfl hfresh, hindexed.approval.not_taken hmem rfl rfl⟩
  have hlen' : (StoreOp.recordMintSubmission id t.version txHash).tooLong = false :=
    decide_eq_false (not_lt.mpr hlen)
  refine runs_bind (goes_store (fun env hg => (hG _ _ _ hg).database) hlen' fun env _ =>
    ⟨_, _, transition_ok ht (by rw [hstatus]; rfl) rfl (hunique env.now), ?_⟩)
  have hstored := State.transfer_put (t := applyPatch env.now .mintSubmitted
    { destinationTxHash := some txHash } t) ht rfl
  have hrows : ∀ u ∈ (s.put (applyPatch env.now .mintSubmitted
      { destinationTxHash := some txHash } t)).transfers,
      u.destinationTxHash = some txHash ∨ u ∈ s.transfers := State.rows_of_put rfl rfl
  refine goes_ask fun env' hg' => ?_
  have hnot := (hG _ _ _ hg').completion t.direction message nonce t.recipient t.finality
  cases hanswer : env'.answer (.verifyMintCompletion t.direction txHash message nonce t.recipient
    t.finality) with
  | error e => exact runs_bind (runs_mk ⟨_, hstored, .inl rfl, hrows⟩)
  | ok outcome =>
    refine goes_checked rfl ?_
    obtain rfl := State.id_of_transfer ht
    have hne : ∀ reason, outcome ≠ .failedRetryable reason :=
      fun reason heq => hnot reason (by rw [hanswer, heq])
    refine (goes_settleMint hG t hstored (hindexed.put (hunique env.now)) rfl hne).mono ?_
    rintro _ s' ⟨t', ht', hdone, hsettled⟩
    refine ⟨t', ht', ?_, fun u hu => (hsettled u hu).elim .inl (hrows u)⟩
    rcases hdone with hsubmitted | ⟨hdone, rfl⟩
    · exact .inl hsubmitted
    · exact .inr ⟨hdone, env', _, _, hg', hanswer⟩

end Submission

end StellarRoute.Cctp
