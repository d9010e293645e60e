import StellarRoute.Cctp.Sanity.Records

/-! What every service call has seen before it writes. `Justified` demands of
each write the reads and outside answers behind it, in the trace of the call
that performs it; `program_justified` shows that every call meets it, whatever
other callers do in between. -/

namespace StellarRoute.Cctp

open Lib Lib.Interleave

section Evidence

variable (c : Codec) (cfg : CctpConfig) (P : Event Env State Op → Prop)

/-- The burn verifier vouched for `txHash`, and its facts are those the quote expects. -/
def BurnVerified (t : CctpTransfer) (txHash : String) : Prop :=
  ∃ facts expected, Did (exec c) P (.ask (.verifyBurn t.direction txHash)) (.ok facts) ∧
    buildExpectedBurnFacts c t txHash = .ok expected ∧ factsMatch expected facts = .ok ()

/-- The message passed the validation for the corridor of `t`, and its signatures were verified. -/
def MessageVerified (t : CctpTransfer) (raw attestation : Bytes) : Prop :=
  Did (exec c) P (.ask (.verifyAttestation raw attestation)) (.ok ()) ∧
    ∃ hex expectations parsed, buildCorridorExpectations c t = .ok expectations ∧
      validateMessageForCorridor hex expectations = .ok parsed ∧ decodeHexMessage hex = .ok raw

/-- The Circle service reported the message together with the nonce. -/
def NonceReported (raw : Bytes) (nonce : String) : Prop :=
  ∃ domain txHash msg, Did (exec c) P (.ask (.pollMessagesByTx domain txHash)) (.ok (.complete msg)) ∧
    decodeHexMessage msg.messageHex = .ok raw ∧ msg.eventNonce = nonce

/-- The mint verifier reported `facts` about `txHash`, asked with the message, the attestation and
the payload hash of `t`. -/
def MintReported (t : CctpTransfer) (txHash : String) (facts : VerifiedMintFacts) : Prop :=
  ∃ payloadHash message attestation nonce, mintEvidence t = .ok
      (payloadHash, message, attestation, nonce) ∧ facts.payloadHash = payloadHash ∧
    Did (exec c) P (.ask (.verifyMintSubmission t.direction txHash message attestation nonce
      payloadHash (expectedMintSubmitter t))) (.ok facts)

/-- The transitions the service asks for, from a record it has read. -/
inductive Change (t : CctpTransfer) : CctpTransferStatus → TransferPatch → Prop where
  | prepareBurn (h : t.status = .created ∨ t.status = .burnPrepared) :
      Change t .burnPrepared {}
  | recordBurnPayload (h : t.status = .burnPrepared) (bundle : PreparedBurnBundle)
      (payloadHash : String) : Change t .burnPrepared (burnPatch bundle payloadHash)
  | rateLimited (h : t.status = .awaitingAttestation) (error code : Option String) :
      Change t .awaitingAttestation { lastProviderError := error, lastProviderCode := code }
  | timeout (h : t.status = .awaitingAttestation) (error code : Option String) :
      Change t .attestationFailed { lastProviderError := error, lastProviderCode := code }
  | attested (h : t.status = .awaitingAttestation) (raw attestation : Bytes) (nonce : String)
      (hv : MessageVerified c P t raw attestation) (hn : NonceReported c P raw nonce) :
      Change t .attestationReady
        { rawMessage := some raw, attestation := some attestation, messageNonce := some nonce }
  | rejected (h : t.status = .mintPrepared) (txHash : String) (facts : VerifiedMintFacts)
      (reason : String) (hf : MintReported c P t txHash facts)
      (ho : facts.outcome = .failedRetryable reason) :
      Change t .mintFailedRetryable (mintRetryablePatch reason)
  | failed (h : t.status = .mintSubmitted) (reason : String) :
      Change t .mintFailedRetryable (mintRetryablePatch reason)
  | hint (h : t.status = .mintSubmitted) (error code : Option String) :
      Change t .mintSubmitted { lastProviderError := error, lastProviderCode := code }
  | cancelled (h : canCancel t.status) : Change t .cancelled {}

theorem burnPatch_eq (bundle : PreparedBurnBundle) (payloadHash : String) :
    ∃ approval ledger, burnPatch bundle payloadHash =
      { burnPrepareStep := some bundle.step.str, burnPayloadHash := some payloadHash
        approvalPayloadHash := approval, approvalExpirationLedger := ledger } := by
  unfold burnPatch
  cases bundle.step with
  | approval => exact ⟨_, _, rfl⟩
  | burn => exact ⟨none, none, rfl⟩

/-- The hash and the kind of a reservation are those of the bundle cached in it. -/
def CctpActivePrepare.Matches (r : CctpActivePrepare) : Prop :=
  match r.preparedPayload with
  | none => False
  | some (.burn bundle) =>
    walletPayloadHash c cfg bundle.primary = .ok r.payloadHash ∧ r.kind = bundle.step.kind
  | some (.mint bundle) =>
    bundle.payloadHash = r.payloadHash ∧ r.kind = .mint ∧ bundle.isTrustline = false

/-- The call has found the quote unexpired. -/
def QuoteLive (t : CctpTransfer) : Prop := ∃ now, Did (exec c) P .clock now ∧ now ≤ t.quoteExpiresAt

/-- What the trace of a call shows when it performs an operation. -/
def Justified (call : Call) (L : Trace) : Op → Prop
  | .store (.insert t) => t.status = .created
  | .store (.transition id version status patch) =>
    ∃ t, Read c L id t ∧ t.version = version ∧ Change c (· ∈ L) t status patch ∧
      (status = .mintFailedRetryable → t.status = .mintSubmitted ∨
        ∃ txHash, call = .submitMint id txHash)
  | .store (.recordVerifiedBurn id version txHash) =>
    ∃ t, Read c L id t ∧ t.version = version ∧ BurnVerified c (· ∈ L) t txHash
  | .store (.recordMintPrepared id version _ _ mintSubmitter) =>
    ∃ t, Read c L id t ∧ t.version = version ∧ mintSubmitter = t.mintSubmitter ∧
      (t.status = .attestationReady ∨ t.status = .mintFailedRetryable) ∧ QuoteLive c (· ∈ L) t
  | .store (.recordMintSubmission id version txHash) =>
    ∃ t facts, Read c L id t ∧ t.version = version ∧ t.status = .mintPrepared ∧
      MintReported c (· ∈ L) t txHash facts ∧ facts.submissionOk ∧ call = .submitMint id txHash
  | .store (.recordMintCompleted id version) =>
    ∃ t, Read c L id t ∧ t.version = version ∧ t.status = .mintSubmitted
  | .store (.claimReattestLease _ _ _ maxAttempts) => maxAttempts = REATTEST_MAX_ATTEMPTS
  | .ask (.verifyMintSubmission _ txHash _ _ _ _ _) => ∃ id, call = .submitMint id txHash
  | .ask (.irisReattest nonce) =>
    ∃ id owner leaseSecs maxAttempts t, Did (exec c) (· ∈ L)
      (.store (.claimReattestLease id owner leaseSecs maxAttempts)) (.ok (some (t, .claimed))) ∧
      t.messageNonce = some nonce
  | .lock (.tryAcquire r) => r.Matches c cfg
  | _ => True

end Evidence

/-! ### The building blocks -/

section Blocks

variable {c : Codec} {cfg : CctpConfig} {call : Call} {L L' : Trace} {id : Uuid} {t : CctpTransfer}

/-- The rule for service programs. -/
abbrev Shows {α : Type} (c : Codec) (cfg : CctpConfig) (call : Call) (x : Svc α) (L : Trace)
    (Post : α → Trace → Prop) : Prop := Spec (exec c) (Justified c cfg call) x L Post

/-- A service program whose answer no later step relies on. -/
abbrev Behaves {α : Type} (c : Codec) (cfg : CctpConfig) (call : Call) (x : Svc α) (L : Trace) : Prop :=
  Shows c cfg call x L fun _ _ => True

theorem shows_ask {q : Query} (hpre : Justified c cfg call L (.ask q)) :
    Shows c cfg call (ask q) L fun a L' => Did (exec c) (· ∈ L') (.ask q) a := spec_lift_call hpre

theorem shows_utcNow :
    Shows c cfg call utcNow L fun now L' => Did (exec c) (· ∈ L') .clock now := spec_lift_call trivial

variable {α : Type} {e : CctpServiceError} {p : Prop} {o : StoreOp}

theorem shows_checked {x : Except CctpServiceError α} :
    Shows c cfg call (checked x) L fun a _ => x = .ok a := spec_mk fun _ h => h

theorem shows_ensure [Decidable p] :
    Shows c cfg call (ensure p e) L fun _ _ => p := spec_mk fun _ h => require_eq_ok.mp h

theorem shows_ensure_bind [Decidable p] {k : Unit → Svc α}
    {Post : α → Trace → Prop} (hk : p → Shows c cfg call (k ()) L Post) :
    Shows c cfg call (ensure p e >>= k) L Post := spec_mk_bind fun _ h => hk (require_eq_ok.mp h)

theorem shows_store (hpre : Justified c cfg call L (.store o)) :
    Shows c cfg call (store o) L fun r L' => Did (exec c) (· ∈ L') (.store o) (.ok r) := by
  refine spec_bind (spec_lift_call hpre) fun r L' _ hdid => spec_mk fun a ha => ?_
  rw [mapError_eq_ok] at ha
  exact ha ▸ hdid

theorem shows_lock {o : LockOp} (hpre : Justified c cfg call L (.lock o)) :
    Shows c cfg call (lock o) L fun r L' => Did (exec c) (· ∈ L') (.lock o) (.ok r) := by
  refine spec_bind (spec_lift_call hpre) fun r L' _ hdid => spec_mk fun a ha => ?_
  rw [mapError_eq_ok] at ha
  exact ha ▸ hdid

/-- The rule for a transition: the record was read, and the change is one of the service's. -/
theorem shows_transition {status : CctpTransferStatus} {patch : TransferPatch}
    (hread : Read c L id t) (hchange : Change c (· ∈ L) t status patch)
    (hown : status = .mintFailedRetryable → t.status = .mintSubmitted ∨
      ∃ txHash, call = .submitMint id txHash) :
    Shows c cfg call (store (.transition id t.version status patch)) L fun r L' =>
      Did (exec c) (· ∈ L') (.store (.transition id t.version status patch)) (.ok r) := by
  have hjust : Justified c cfg call L (.store (.transition id t.version status patch)) :=
    ⟨t, hread, rfl, hchange, hown⟩
  exact shows_store hjust

theorem shows_getTransfer (id : Uuid) :
    Shows c cfg call (getTransfer id) L fun t L' => Read c L' id t := by
  refine spec_bind (shows_store (o := .get id) trivial) fun found L' _ hdid => ?_
  exact shows_checked.mono fun t L'' hL ht => (Read.of_did hdid (okOr_eq_ok.mp ht)).mono hL

/-! Checks and releases read nothing that a later step relies on. -/

theorem shows_ensureNotKilled : Behaves c cfg call ensureNotKilled L :=
  spec_bind (shows_ask trivial) fun _ _ _ _ => shows_ensure.any

theorem shows_ensureAttestationVerifierReady : Behaves c cfg call ensureAttestationVerifierReady L :=
  spec_bind (shows_ask trivial) fun _ _ _ _ => shows_ensure.any

theorem shows_ensureQuoteNotExpired (t : CctpTransfer) :
    Shows c cfg call (ensureQuoteNotExpired t) L fun _ L' => QuoteLive c (· ∈ L') t := by
  refine spec_bind shows_utcNow fun now L1 _ hnow => ?_
  exact shows_ensure.mono fun _ L2 h2 hle => ⟨now, hnow.mono h2.subset, hle⟩

theorem shows_ensureFeeNotExpired (t : CctpTransfer) :
    Behaves c cfg call (ensureFeeNotExpired t) L := by
  unfold ensureFeeNotExpired
  split
  · exact spec_pure trivial
  · exact spec_bind shows_utcNow fun _ _ _ _ => shows_ensure.any

theorem shows_ensureMintPayloadValid (t : CctpTransfer) :
    Behaves c cfg call (ensureMintPayloadValid t) L := by
  unfold ensureMintPayloadValid
  split
  · exact spec_pure trivial
  · exact spec_bind shows_utcNow fun _ _ _ _ => shows_ensure.any

theorem shows_expiryOrNow (expiresAt : ℤ) : Behaves c cfg call (expiryOrNow expiresAt) L := by
  unfold expiryOrNow
  split
  · exact spec_pure trivial
  · exact shows_utcNow.any

theorem shows_releaseFor (source : Option String) (id : Uuid) :
    Behaves c cfg call (releaseFor source id) L := by
  unfold releaseFor
  split
  · exact spec_pure trivial
  · exact Spec.reply (spec_lift_call trivial)

theorem shows_releaseTransferPrepareLocks (t : CctpTransfer) :
    Behaves c cfg call (releaseTransferPrepareLocks t) L :=
  spec_bind (shows_releaseFor _ _) fun _ _ _ _ => shows_releaseFor _ _

end Blocks

/-! ### More seen, more shown -/

section Mono

variable {c : Codec} {P P' : Event Env State Op → Prop} {t : CctpTransfer} (himp : ∀ e, P e → P' e)
include himp

theorem QuoteLive.mono (h : QuoteLive c P t) : QuoteLive c P' t := by
  obtain ⟨now, hdid, hle⟩ := h
  exact ⟨now, hdid.mono himp, hle⟩

variable {txHash : String} {raw : Bytes}

theorem BurnVerified.mono (h : BurnVerified c P t txHash) : BurnVerified c P' t txHash := by
  obtain ⟨facts, expected, hdid, hexpected, hmatch⟩ := h
  exact ⟨facts, expected, hdid.mono himp, hexpected, hmatch⟩

theorem MessageVerified.mono {attestation : Bytes}
    (h : MessageVerified c P t raw attestation) : MessageVerified c P' t raw attestation :=
  ⟨h.1.mono himp, h.2⟩

theorem NonceReported.mono {nonce : String}
    (h : NonceReported c P raw nonce) : NonceReported c P' raw nonce := by
  obtain ⟨domain, txHash, msg, hdid, hraw, hnonce⟩ := h
  exact ⟨domain, txHash, msg, hdid.mono himp, hraw, hnonce⟩

theorem MintReported.mono {facts : VerifiedMintFacts}
    (h : MintReported c P t txHash facts) : MintReported c P' t txHash facts := by
  obtain ⟨payloadHash, message, attestation, nonce, hevidence, hhash, hdid⟩ := h
  exact ⟨payloadHash, message, attestation, nonce, hevidence, hhash, hdid.mono himp⟩

end Mono

/-! ### The calls -/

section Calls

variable {c : Codec} {cfg : CctpConfig} {call : Call} {L : Trace} {id : Uuid} {t : CctpTransfer}

theorem shows_buildQuoteTransfer (request : CctpQuoteRequest) (id : Uuid) (token : String) :
    Shows c cfg call (buildQuoteTransfer c cfg request id token) L fun t _ =>
      t.status = .created ∧ t.transferId = id := by
  refine shows_ensure_bind fun _ => ?_
  refine spec_bind shows_ensureNotKilled fun _ _ _ _ => ?_
  refine spec_mk_bind fun _ _ => ?_
  refine spec_mk_bind fun _ _ => ?_
  refine shows_ensure_bind fun _ => ?_
  refine shows_ensure_bind fun _ => ?_
  refine spec_bind (shows_ask trivial) fun _ _ _ _ => ?_
  refine spec_mk_bind fun _ _ => ?_
  refine spec_mk_bind fun _ _ => ?_
  refine spec_bind shows_utcNow fun _ _ _ _ => ?_
  refine spec_mk_bind fun _ _ => ?_
  exact spec_pure ⟨rfl, rfl⟩

theorem shows_quoteCore (request : CctpQuoteRequest) (token : String) :
    Behaves c cfg call (quoteCore c cfg request token) L := by
  refine spec_bind (shows_ask trivial) fun newId _ _ _ => ?_
  refine spec_bind (shows_buildQuoteTransfer request newId token) fun t _ _ hcreated => ?_
  exact Spec.reply (shows_store hcreated.1)

/-- The checks before anything is done about a burn. -/
theorem shows_burnChecks {α : Type} {k : Svc α} {Post : α → Trace → Prop}
    (hread : Read c L id t) (hk : ∀ L', Read c L' id t → Shows c cfg call k L' Post) :
    Shows c cfg call (do
      ensureQuoteNotExpired t
      ensureFeeNotExpired t
      ensureBurnVerifierReady t.direction
      k) L Post := by
  refine spec_bind (shows_ensureQuoteNotExpired t) fun _ L1 h1 _ => ?_
  refine spec_bind (shows_ensureFeeNotExpired t) fun _ L2 h2 _ => ?_
  refine spec_bind (spec_bind (shows_ask trivial) fun _ _ _ _ => shows_ensure.any) fun _ L3 h3 _ => ?_
  exact hk L3 (hread.mono ((h1.trans h2).trans h3))

theorem shows_prepareBurn (id : Uuid) : Behaves c cfg call (prepareBurn cfg id) L := by
  refine shows_ensure_bind fun _ => ?_
  refine spec_bind shows_ensureNotKilled fun _ _ _ _ => ?_
  refine spec_bind (shows_getTransfer id) fun t L1 _ hread => ?_
  split_ifs
  · exact spec_pure trivial
  · refine shows_ensure_bind fun hcreated => ?_
    refine shows_burnChecks hread fun _ hread => ?_
    exact (shows_transition hread (.prepareBurn (.inl hcreated)) (by simp)).any

theorem shows_recordBurnSubmission (id : Uuid) (txHash : String) :
    Behaves c cfg call (recordBurnSubmission c id txHash) L := by
  refine spec_bind (shows_getTransfer id) fun t L1 _ hread => ?_
  refine shows_ensure_bind fun hprepared => ?_
  refine shows_burnChecks hread fun L5 hread => ?_
  refine spec_bind (shows_ask trivial) fun answer L6 h6 hasked => ?_
  refine spec_mk_bind fun facts hfacts => ?_
  refine spec_mk_bind fun expected hexpected => ?_
  refine spec_mk_bind fun _ hmatch => ?_
  rw [mapError_eq_ok] at hfacts hexpected hmatch
  subst hfacts
  have hread := hread.mono h6
  have hverified : BurnVerified c (· ∈ L6) t txHash := ⟨facts, expected, hasked, hexpected, hmatch⟩
  refine spec_bind (shows_store ⟨t, hread, rfl, hverified⟩) fun awaiting _ _ _ => ?_
  exact (shows_releaseTransferPrepareLocks t).reply

theorem shows_verifyAndRecordApproval (t : CctpTransfer) (id : Uuid) (txHash : String) :
    Behaves c cfg call (verifyAndRecordApproval t id txHash) L := by
  refine spec_bind shows_utcNow fun verifiedAt _ _ _ => ?_
  refine spec_bind (shows_ask trivial) fun ready _ _ _ => ?_
  refine shows_ensure_bind fun _ => ?_
  refine spec_mk_bind fun required _ => ?_
  refine spec_bind (shows_ask trivial) fun answer _ _ _ => ?_
  refine spec_mk_bind fun _ _ => ?_
  refine spec_bind (shows_store trivial) fun updated _ _ _ => ?_
  split_ifs
  · exact spec_pure trivial
  · exact (shows_releaseTransferPrepareLocks t).reply

theorem shows_recordApprovalSubmission (id : Uuid) (txHash : String) :
    Behaves c cfg call (recordApprovalSubmission id txHash) L := by
  refine spec_bind (shows_getTransfer id) fun t _ _ _ => ?_
  refine shows_ensure_bind fun _ => ?_
  refine spec_bind (shows_ensureQuoteNotExpired t) fun _ _ _ _ => ?_
  refine spec_bind (shows_ensureFeeNotExpired t) fun _ _ _ _ => ?_
  split
  · refine shows_ensure_bind fun _ => ?_
    split_ifs
    · exact spec_pure trivial
    · exact shows_verifyAndRecordApproval t id txHash
  · exact shows_verifyAndRecordApproval t id txHash

theorem shows_recordSourceSubmission (id : Uuid) (txHash : String) :
    Behaves c cfg call (recordSourceSubmission c id txHash) L := by
  refine spec_bind (shows_getTransfer id) fun t _ _ _ => ?_
  split
  · have hclassify : ∀ L : Trace, Behaves c cfg call (classifyStellarSourceSubmission c txHash) L := by
      intro L
      refine spec_bind (shows_ask trivial) fun _ _ _ _ => ?_
      refine spec_mk_bind fun _ _ => ?_
      exact shows_checked.any
    refine spec_bind (hclassify _) fun kind _ _ _ => ?_
    cases kind with
    | approval => exact shows_recordApprovalSubmission id txHash
    | burn =>
      refine spec_tryCatch (shows_recordBurnSubmission id txHash) fun e _ _ => ?_
      split_ifs
      · exact shows_recordApprovalSubmission id txHash
      · exact spec_throw
  · split_ifs
    · exact shows_recordApprovalSubmission id txHash
    · exact shows_recordBurnSubmission id txHash

theorem shows_burnPreparedTransfer (id : Uuid) :
    Shows c cfg call (burnPreparedTransfer id) L
      fun t L' => Read c L' id t ∧ (t.status = .burnPrepared) := by
  refine spec_bind (shows_getTransfer id) fun t L1 _ hread => ?_
  split
  · next hcreated =>
    refine shows_burnChecks hread fun _ hread => ?_
    refine spec_mk_bind fun _ _ => ?_
    refine (shows_transition hread (.prepareBurn (.inl hcreated)) (by simp)).mono
      fun t' L' _ hdid => ⟨Read.of_did hdid rfl, ?_⟩
    obtain ⟨env, s, -, hok⟩ := hdid
    exact transition_status (StoreOp.exec_eq_ok hok)
  · next hprepared =>
    exact shows_burnChecks hread fun _ hread => spec_pure ⟨hread, hprepared⟩
  · exact spec_throw

/-- Where a burn bundle comes from: the call has recorded it, or found it reserved under its hash. -/
def BurnAnswer (c : Codec) (cfg : CctpConfig) (P : Event Env State Op → Prop) (id : Uuid)
    (bundle : PreparedBurnBundle) : Prop :=
  (∃ version payloadHash t, walletPayloadHash c cfg bundle.primary = .ok payloadHash ∧
    Did (exec c) P (.store (.transition id version .burnPrepared (burnPatch bundle payloadHash)))
      (.ok t)) ∨
  ∃ r row, r.transferId = id ∧ row.preparedPayload = some (.burn bundle) ∧
    Did (exec c) P (.lock (.tryAcquire r)) (.ok (.idempotent row))

variable {payload : CachedPayload} {bundle : PreparedMintBundle} {msg : IrisMessage}
  {txHash : String} {facts : VerifiedMintFacts}

theorem serializePayload_eq_ok {payload' : CachedPayload}
    (h : serializePayload c payload = .ok payload') : payload = payload' := by
  simp only [serializePayload, bind_eq_ok, pure_eq_ok] at h
  obtain ⟨-, -, h⟩ := h
  exact h

theorem deserializeMintBundle_eq_ok :
    deserializeMintBundle payload = .ok bundle ↔ payload = .mint bundle := by
  cases payload <;> simp [deserializeMintBundle]

theorem shows_reserve {source : String} {kind : CctpPrepareKind} {payloadHash : String}
    {expiresAt : Time} (hmatches : ∀ now, CctpActivePrepare.Matches c cfg
      { sourceAccount := source, transferId := id, kind, payloadHash
        preparedPayload := some payload, expiresAt, updatedAt := now }) :
    Shows c cfg call (reserve source id kind payloadHash payload expiresAt) L
      fun result L' => ∃ r, r.transferId = id ∧
        Did (exec c) (· ∈ L') (.lock (.tryAcquire r)) (.ok result) := by
  refine spec_bind shows_utcNow fun now L1 _ _ => ?_
  have hjust : Justified c cfg call L1 (.lock (.tryAcquire
      { sourceAccount := source, transferId := id, kind, payloadHash
        preparedPayload := some payload, expiresAt, updatedAt := now })) := hmatches now
  exact (shows_lock hjust).mono fun result L' _ hdid => ⟨_, rfl, hdid⟩

theorem shows_prepareBurnWallet (id : Uuid) :
    Shows c cfg call (prepareBurnWallet c cfg id) L
      fun bundle L' => BurnAnswer c cfg (· ∈ L') id bundle := by
  refine shows_ensure_bind fun _ => ?_
  refine spec_bind shows_ensureNotKilled fun _ _ _ _ => ?_
  refine spec_bind (shows_burnPreparedTransfer id) fun t L1 _ ⟨hread, hprepared⟩ => ?_
  refine spec_mk_bind fun source _ => ?_
  refine spec_bind (shows_ask trivial) fun answer L3 h3 _ => ?_
  refine spec_mk_bind fun bundle _ => ?_
  refine spec_mk_bind fun payloadHash hhash => ?_
  refine spec_bind (shows_expiryOrNow _) fun expires L6 h6 _ => ?_
  refine spec_mk_bind fun payload hpayload => ?_
  rw [mapError_eq_ok] at hhash
  obtain rfl := serializePayload_eq_ok hpayload
  refine spec_bind (shows_reserve fun now => ⟨hhash, rfl⟩) fun result L8 h8 hdid => ?_
  have hread := hread.mono ((h3.trans h6).trans h8)
  have hrecord : Shows c cfg call (do
      let _ ← store (.transition id t.version .burnPrepared (burnPatch bundle payloadHash))
      pure bundle) L8 fun bundle L' => BurnAnswer c cfg (· ∈ L') id bundle := by
    have hchange := Change.recordBurnPayload (c := c) (P := (· ∈ L8)) hprepared bundle payloadHash
    refine spec_bind (shows_transition hread hchange (by simp)) fun t' _ _ hdid => ?_
    exact spec_pure (.inl ⟨_, payloadHash, t', hhash, hdid⟩)
  obtain ⟨r, hr, hdid⟩ := hdid
  cases result with
  | acquired => exact hrecord
  | idempotent active =>
    dsimp only
    split
    · next payload hcached =>
      refine shows_checked.mono fun cached L' hL' hburn => .inr ⟨r, active, hr, ?_, ?_⟩
      · cases payload with
        | burn _ => rw [hcached, Except.ok.inj hburn]
        | mint _ => cases hburn
      · exact hdid.mono hL'.subset
    · exact hrecord
  | conflictOtherTransfer holder => exact spec_throw

/-! #### Attestation -/

theorem shows_requestReattest {owner : String} {leaseSecs cooldownSecs : ℤ} {maxAttempts : ℕ}
    (hclaim : Did (exec c) (· ∈ L) (.store (.claimReattestLease id owner leaseSecs maxAttempts))
      (.ok (some (t, .claimed)))) :
    Behaves c cfg call (requestReattest t id owner cooldownSecs) L := by
  unfold requestReattest
  split
  · next nonce hnonce =>
    have hjust : Justified c cfg call L (.ask (.irisReattest nonce)) :=
      ⟨id, owner, leaseSecs, maxAttempts, t, hclaim, hnonce⟩
    exact (shows_ask hjust).any
  · split_ifs
    · exact spec_pure trivial
    · exact spec_bind (spec_lift_call trivial) fun _ _ _ _ => spec_throw

theorem shows_reattest (id : Uuid) : Behaves c cfg call (reattest id) L := by
  refine spec_bind (shows_ask trivial) fun owner _ _ _ => ?_
  refine spec_bind (shows_store rfl) fun claim _ _ hclaim => ?_
  refine spec_mk_bind fun ⟨t, outcome⟩ hfound => ?_
  refine shows_ensure_bind fun hclaimed => ?_
  obtain rfl := okOr_eq_ok.mp hfound
  subst hclaimed
  refine spec_bind (shows_requestReattest hclaim) fun irisResult _ _ _ => ?_
  split
  · refine spec_bind (shows_store trivial) fun updated _ _ _ => ?_
    exact shows_checked.any
  · exact spec_bind (spec_lift_call trivial) fun _ _ _ _ => spec_throw

theorem checkIrisMessage_eq_ok {raw attestation : Bytes}
    (h : checkIrisMessage c t msg = .ok (raw, attestation)) :
    ∃ expectations parsed, buildCorridorExpectations c t = .ok expectations ∧
      validateMessageForCorridor msg.messageHex expectations = .ok parsed ∧
      decodeHexMessage msg.messageHex = .ok raw ∧ raw.length ≤ MAX_RAW_MESSAGE_BYTES ∧
      attestation.length ≤ MAX_ATTESTATION_BYTES := by
  simp only [checkIrisMessage, bind_eq_ok, mapError_eq_ok, require_eq_ok, pure_eq_ok,
    Prod.mk.injEq] at h
  obtain ⟨-, -, _, -, _, -, -, -, _, -, -, -, expectations, hexp, parsed, hparsed, raw', hraw, -,
    hrawLen, attestation', -, -, hattLen, rfl, rfl⟩ := h
  exact ⟨expectations, parsed, hexp, hparsed, hraw, hrawLen, hattLen⟩

theorem shows_validateAndMarkAttestationReady {domain : ℕ}
    (hread : Read c L t.transferId t) (hstatus : t.status = .awaitingAttestation)
    (hiris : Did (exec c) (· ∈ L) (.ask (.pollMessagesByTx domain txHash)) (.ok (.complete msg))) :
    Behaves c cfg call (validateAndMarkAttestationReady c t msg) L := by
  refine spec_bind shows_ensureAttestationVerifierReady fun _ L1 h1 _ => ?_
  refine spec_mk_bind fun ⟨raw, attestation⟩ hcheck => ?_
  refine spec_bind (shows_ask trivial) fun answer L3 h3 hasked => ?_
  refine spec_mk_bind fun _ hanswer => ?_
  refine shows_ensure_bind fun _ => ?_
  rw [mapError_eq_ok] at hanswer
  subst hanswer
  obtain ⟨expectations, parsed, hexp, hparsed, hraw, -, -⟩ := checkIrisMessage_eq_ok hcheck
  have hverified : MessageVerified c (· ∈ L3) t raw attestation :=
    ⟨hasked, msg.messageHex, expectations, parsed, hexp, hparsed, hraw⟩
  have hlater := h1.trans h3
  have hreported : NonceReported c (· ∈ L3) raw msg.eventNonce :=
    ⟨domain, txHash, msg, hiris.mono hlater.subset, hraw, rfl⟩
  have hread := hread.mono hlater
  have hchange := Change.attested hstatus raw attestation msg.eventNonce hverified hreported
  exact (shows_transition hread hchange (by simp)).any

theorem shows_settleMint {submitted : CctpTransfer} (hid : submitted.transferId = t.transferId)
    (hread : Read c L submitted.transferId submitted) (hstatus : submitted.status = .mintSubmitted)
    (outcome : MintVerifyOutcome) :
    Behaves c cfg call (settleMint t submitted outcome) L := by
  cases outcome with
  | succeeded =>
    refine spec_bind (shows_store ⟨submitted, hread, rfl, hstatus⟩) fun _ _ _ _ => ?_
    exact (shows_releaseTransferPrepareLocks t).reply
  | pending => exact spec_pure trivial
  | reconciliationNonceConsumed =>
    change Behaves c cfg call (recordMintReconciliationHint submitted) L
    unfold recordMintReconciliationHint
    split_ifs
    · exact spec_pure trivial
    · rw [hstatus]
      exact (shows_transition hread (.hint hstatus _ _) (by simp)).any
  | failedRetryable reason =>
    rw [hid] at hread
    have hchange := Change.failed (c := c) (P := (· ∈ L)) hstatus reason
    refine spec_bind (shows_transition hread hchange fun _ => .inl hstatus) fun _ _ _ _ => ?_
    exact (shows_releaseTransferPrepareLocks t).reply

theorem shows_pollAttestation (hread : Read c L t.transferId t)
    (hstatus : t.status = .awaitingAttestation) :
    Behaves c cfg call (pollAttestation c t) L := by
  refine spec_mk_bind fun _ _ => ?_
  refine spec_bind (shows_ask trivial) fun answer L2 h2 hasked => ?_
  refine spec_mk_bind fun outcome hanswer => ?_
  rw [mapError_eq_ok] at hanswer
  subst hanswer
  have hread := hread.mono h2
  split
  · exact spec_pure trivial
  · exact spec_pure trivial
  · have hjust := Change.rateLimited (c := c) (P := (· ∈ L2)) hstatus
    refine spec_bind (spec_lift_call ⟨t, hread, rfl, hjust _ _, by simp⟩) fun _ _ _ _ => ?_
    exact spec_pure trivial
  · exact shows_validateAndMarkAttestationReady hread hstatus hasked

theorem shows_pollOneTransfer (id : Uuid) : Behaves c cfg call (pollOneTransfer c cfg id) L := by
  refine spec_bind (shows_getTransfer id) fun t L1 _ hread => ?_
  obtain rfl := hread.id_eq
  split
  · next hstatus =>
    refine spec_mk_bind fun _ _ => ?_
    refine spec_mk_bind fun _ _ => ?_
    refine spec_mk_bind fun _ _ => ?_
    refine spec_bind (shows_ask trivial) fun _ L4 h4 _ => ?_
    refine spec_mk_bind fun completion _ => ?_
    exact shows_settleMint rfl (hread.mono h4) hstatus completion
  · next hstatus =>
    refine spec_bind shows_utcNow fun now L2 h2 _ => ?_
    split_ifs
    · refine spec_bind (shows_transition (hread.mono h2) (.timeout hstatus _ _) (by simp))
        fun _ _ _ _ => ?_
      exact (shows_releaseTransferPrepareLocks t).reply
    · exact shows_pollAttestation (hread.mono h2) hstatus
  · exact spec_pure trivial

theorem shows_pollOneTransferWithLease (id : Uuid) (leaseSecs minIntervalSecs : ℤ) :
    Behaves c cfg call (pollOneTransferWithLease c cfg id leaseSecs minIntervalSecs) L := by
  refine spec_bind (shows_store trivial) fun _ _ _ _ => ?_
  refine spec_mk_bind fun ⟨t, outcome⟩ _ => ?_
  cases outcome with
  | skipped => exact spec_pure trivial
  | acquired => exact shows_pollOneTransfer id

/-! #### Mint -/

/-- The mint bundle was found reserved. -/
def MintCached (c : Codec) (P : Event Env State Op → Prop) (id : Uuid)
    (bundle : PreparedMintBundle) : Prop :=
  ∃ row : CctpActivePrepare, row.preparedPayload = some (.mint bundle) ∧
    (Did (exec c) P (.lock (.getForTransfer id)) (.ok (some row)) ∨
      ∃ r, r.transferId = id ∧ Did (exec c) P (.lock (.tryAcquire r)) (.ok (.idempotent row)))

/-- Where a mint bundle comes from: the call has recorded it, or found it reserved. -/
def MintAnswer (c : Codec) (P : Event Env State Op → Prop) (id : Uuid)
    (bundle : PreparedMintBundle) : Prop :=
  (∃ version expiresAt submitter t, Did (exec c) P (.store
    (.recordMintPrepared id version bundle.payloadHash expiresAt submitter)) (.ok t)) ∨
  MintCached c P id bundle

theorem shows_activeMintBundleForTransfer (id : Uuid) (submitter : String) :
    Shows c cfg call (activeMintBundleForTransfer id submitter) L
      fun found L' => ∀ bundle, found = some bundle → MintCached c (· ∈ L') id bundle := by
  have hnone : ∀ L', Shows c cfg call (pure none) L'
      fun found L' => ∀ bundle, found = some bundle → MintCached c (· ∈ L') id bundle :=
    fun L' => spec_pure fun bundle h => nomatch h
  refine spec_bind (shows_lock trivial) fun active L1 _ hdid => ?_
  split
  · exact hnone _
  · next row =>
    split_ifs
    · exact hnone _
    · refine spec_bind shows_utcNow fun now L2 h2 _ => ?_
      split_ifs
      · exact hnone _
      · split
        · exact hnone _
        · next payload hpayload =>
          refine spec_mk_bind fun cached hcached => ?_
          split_ifs
          · exact hnone _
          · refine spec_pure fun bundle hbundle => ?_
            cases hbundle
            refine ⟨row, ?_, .inl (hdid.mono h2.subset)⟩
            rw [hpayload, deserializeMintBundle_eq_ok.mp hcached]

theorem shows_reserveMint (t : CctpTransfer) (id : Uuid) (hmint : bundle.isTrustline = false) :
    Shows c cfg call (reserveMint c t id bundle) L
      fun found L' => ∀ bundle, found = some bundle → MintCached c (· ∈ L') id bundle := by
  unfold reserveMint
  split
  · exact spec_pure fun bundle h => nomatch h
  · refine spec_mk_bind fun submitter _ => ?_
    refine spec_bind (shows_expiryOrNow _) fun expires _ _ _ => ?_
    refine spec_mk_bind fun payload hpayload => ?_
    obtain rfl := serializePayload_eq_ok hpayload
    refine spec_bind (shows_reserve fun now => ⟨rfl, rfl, hmint⟩)
      fun result L1 _ hdid => ?_
    obtain ⟨r, hr, hdid⟩ := hdid
    cases result with
    | acquired => exact spec_pure fun bundle h => nomatch h
    | idempotent row =>
      dsimp only
      split
      · next payload hpayload =>
        refine spec_mk_bind fun cached hcached => spec_pure fun bundle hbundle => ?_
        cases hbundle
        refine ⟨row, ?_, .inr ⟨r, hr, hdid⟩⟩
        rw [hpayload, deserializeMintBundle_eq_ok.mp hcached]
      · exact spec_pure fun bundle h => nomatch h
    | conflictOtherTransfer holder => exact spec_throw

theorem shows_buildMint (hread : Read c L id t)
    (hstatus : t.status = .attestationReady ∨ t.status = .mintFailedRetryable)
    (hlive : QuoteLive c (· ∈ L) t) :
    Shows c cfg call (buildMint c t id) L
      fun bundle L' => bundle.isTrustline = false → MintAnswer c (· ∈ L') id bundle := by
  refine spec_bind (shows_ask trivial) fun answer L1 h1 _ => ?_
  refine spec_mk_bind fun bundle _ => ?_
  split_ifs with htrustline
  · exact spec_pure fun hmint => absurd htrustline (by simp [hmint])
  · rw [Bool.not_eq_true] at htrustline
    refine spec_bind (shows_reserveMint t id htrustline) fun found L3 h3 hfound => ?_
    split
    · next cached => exact spec_pure fun _ => .inr (hfound cached rfl)
    · refine spec_bind (shows_expiryOrNow _) fun expires L4 h4 _ => ?_
      have hle := (h1.trans h3).trans h4
      refine spec_bind (shows_store ⟨t, hread.mono hle, rfl, rfl, hstatus, hlive.mono hle.subset⟩)
        fun t' L5 _ hdid => ?_
      exact spec_pure fun _ => .inl ⟨_, _, _, t', hdid⟩

theorem shows_prepareMint (id : Uuid) :
    Shows c cfg call (prepareMint c cfg id) L
      fun bundle L' => bundle.isTrustline = false → MintAnswer c (· ∈ L') id bundle := by
  refine shows_ensure_bind fun _ => ?_
  refine spec_bind (shows_getTransfer id) fun t L1 _ hread => ?_
  refine shows_ensure_bind fun hstatus => ?_
  refine spec_bind (shows_ensureQuoteNotExpired t) fun _ L3 h3 hlive => ?_
  have hcached : Shows c cfg call (cachedMintBundle t id) L3
      fun found L' => ∀ bundle, found = some bundle → MintCached c (· ∈ L') id bundle := by
    unfold cachedMintBundle
    split
    · exact spec_pure fun bundle h => nomatch h
    · exact spec_mk_bind fun submitter _ => shows_activeMintBundleForTransfer id submitter
  refine spec_bind hcached fun found L4 h4 hfound => ?_
  split
  · next bundle => exact spec_pure fun _ => .inr (hfound bundle rfl)
  · refine shows_ensure_bind fun hnot => ?_
    refine shows_buildMint (hread.mono (h3.trans h4)) ?_ (hlive.mono h4.subset)
    tauto

theorem shows_submitMint (hread : Read c L id t) (hstatus : t.status = .mintPrepared)
    (hreported : MintReported c (· ∈ L) t txHash facts) (hok : facts.submissionOk)
    (message : Bytes) (nonce : String) :
    Behaves c cfg (.submitMint id txHash) (submitMint t id txHash message nonce) L := by
  unfold submitMint
  split
  · exact shows_ensure.reply
  · have hid := hread.id_eq
    have hjust : Justified c cfg (.submitMint id txHash) L
        (.store (.recordMintSubmission id t.version txHash)) :=
      ⟨t, facts, hread, rfl, hstatus, hreported, hok, rfl⟩
    refine spec_bind (shows_store hjust) fun submitted L1 _ hdid => ?_
    have hsubmitted : Read c L1 id submitted := Read.of_did hdid rfl
    have hstatus' : submitted.status = .mintSubmitted := by
      obtain ⟨env, s, -, hok⟩ := hdid
      exact transition_status (StoreOp.exec_eq_ok hok)
    refine spec_bind (shows_ask trivial) fun _ L2 h2 _ => ?_
    refine spec_mk_bind fun completion _ => ?_
    have hsame := hsubmitted.id_eq
    refine shows_settleMint (hsame.trans hid.symm) ?_ hstatus' completion
    rw [hsame]
    exact hsubmitted.mono h2

theorem shows_recordMintSubmission (id : Uuid) (txHash : String) :
    Behaves c cfg (.submitMint id txHash) (recordMintSubmission id txHash) L := by
  refine spec_bind (shows_getTransfer id) fun t L1 _ hread => ?_
  refine shows_ensure_bind fun hstatus => ?_
  refine spec_bind (shows_ensureMintPayloadValid t) fun _ L3 h3 _ => ?_
  refine spec_bind (spec_bind (shows_ask trivial) fun _ _ _ _ => shows_ensure.any) fun _ L4 h4 _ => ?_
  refine spec_mk_bind fun ⟨payloadHash, message, attestation, nonce⟩ hev => ?_
  refine spec_bind (shows_ask ⟨id, rfl⟩) fun answer L6 h6 hasked => ?_
  refine spec_mk_bind fun facts hanswer => ?_
  refine shows_ensure_bind fun hhash => ?_
  rw [mapError_eq_ok] at hanswer
  subst hanswer
  have hread := hread.mono ((h3.trans h4).trans h6)
  have hreported : MintReported c (· ∈ L6) t txHash facts :=
    ⟨payloadHash, message, attestation, nonce, hev, hhash, hasked⟩
  split
  · next reason houtcome =>
    refine spec_bind (shows_releaseTransferPrepareLocks t) fun _ L7 h7 _ => ?_
    have hchange := Change.rejected hstatus txHash facts reason (hreported.mono h7.subset) houtcome
    exact (shows_transition (hread.mono h7) hchange fun _ => .inr ⟨txHash, rfl⟩).any
  · refine shows_ensure_bind fun hok => ?_
    exact shows_submitMint hread hstatus hreported hok message nonce

theorem shows_cancel (id : Uuid) : Behaves c cfg call (cancel id) L := by
  refine spec_bind (shows_getTransfer id) fun t L1 _ hread => ?_
  refine shows_ensure_bind fun hcan => ?_
  refine spec_bind (shows_transition hread (.cancelled hcan) (by simp)) fun _ _ _ _ => ?_
  exact (shows_releaseTransferPrepareLocks t).reply

def Answered (c : Codec) (cfg : CctpConfig) (L : Trace) : Call → Reply → Prop
  | .prepareBurnWallet id, .burn bundle => BurnAnswer c cfg (· ∈ L) id bundle
  | .prepareMint id, .mint bundle =>
    bundle.isTrustline = false → MintAnswer c (· ∈ L) id bundle
  | _, _ => True

theorem shows_program (call : Call) :
    Shows c cfg call (call.program c cfg) [] fun reply L => Answered c cfg L call reply := by
  cases call with
  | quote request token => exact (shows_quoteCore request token).reply
  | prepareBurn id => exact (shows_prepareBurn id).reply
  | prepareBurnWallet id =>
    exact spec_bind (shows_prepareBurnWallet id) fun _ _ _ h => spec_pure h
  | submitSource id txHash => exact (shows_recordSourceSubmission id txHash).reply
  | submitBurn id txHash => exact (shows_recordBurnSubmission id txHash).reply
  | submitApproval id txHash => exact (shows_recordApprovalSubmission id txHash).reply
  | poll id => exact (shows_pollOneTransfer id).reply
  | pollWithLease id leaseSecs minIntervalSecs =>
    exact (shows_pollOneTransferWithLease id leaseSecs minIntervalSecs).reply
  | reattest id => exact (shows_reattest id).reply
  | prepareMint id => exact spec_bind (shows_prepareMint id) fun _ _ _ h => spec_pure h
  | submitMint id txHash => exact (shows_recordMintSubmission id txHash).reply
  | cancel id => exact (shows_cancel id).reply

theorem program_justified (call : Call) :
    (start c cfg call).Holds (exec c) (Justified c cfg call)
      (fun outcome L => ∀ reply, outcome = .ok reply → Answered c cfg L call reply) [] := by
  apply Prog.Holds.mono _ (shows_program call).holds
  rintro outcome L ⟨-, h⟩
  exact h

end Calls

/-! ### Runs -/

section Run

variable {c : Codec} {cfg : CctpConfig} {G : Env → State → Op → Prop}

/-- The steps of a run meet `G`. -/
abbrev ServedUnder (c : Codec) (cfg : CctpConfig) (G : Env → State → Op → Prop)
    (choices : List (Choice Env Call)) : Prop :=
  Transition.StepsOk (step (exec c) (start c cfg)) (Allowed G) Callers.initial choices

theorem servedUnder_true (c : Codec) (cfg : CctpConfig) (choices : List (Choice Env Call)) :
    ServedUnder c cfg (fun _ _ _ => True) choices :=
  Transition.stepsOk_of_forall allowed_true _ _

/-- An invariant of the stores and of what was performed holds in every run if every justified
operation keeps it. -/
theorem serve_inv {J : (Event Env State Op → Prop) → State → Prop}
    (hstep : ∀ E call L env s o, J E s → (∀ e ∈ L, E e ∧ Grows (e.after (exec c)) s) →
      Justified c cfg call L o → G env s o → J (fun e => E e ∨ e = ⟨env, s, o⟩) (exec c env o s).2)
    (hinit : J (fun _ => False) State.empty) {choices : List (Choice Env Call)}
    (hok : ServedUnder c cfg G choices) :
    J (serve c cfg choices).Performed (serve c cfg choices).state :=
  (run_inv Grows.refl Grows.trans (fun env s o _ => exec_grows c env s o)
    (fun E call L env s o hJ hL _ hjust hg => hstep E call L env s o hJ hL hjust hg)
    program_justified hinit hok).1

theorem serve_snoc (c : Codec) (cfg : CctpConfig) (choices : List (Choice Env Call))
    (choice : Choice Env Call) : serve c cfg (choices ++ [choice]) =
      step (exec c) (start c cfg) (serve c cfg choices) choice := by
  rw [serve, run, Transition.run_concat]

theorem serve_grows (c : Codec) (cfg : CctpConfig) (choices more : List (Choice Env Call)) :
    Grows (serve c cfg choices).state (serve c cfg (choices ++ more)).state := by
  induction more using List.reverseRecOn with
  | nil =>
    rw [List.append_nil]
    exact Grows.refl _
  | append_singleton more choice ih =>
    rw [← List.append_assoc, serve_snoc]
    refine Grows.trans _ _ _ ih (step_rel Grows.refl ?_ (allowed_true _ choice))
    exact fun env s o _ => exec_grows c env s o

/-- One more step of a run leaves the stores or performs an operation of a call, and that is
justified by what the call has seen. -/
theorem serve_step (c : Codec) (cfg : CctpConfig) (choices : List (Choice Env Call))
    (choice : Choice Env Call) :
    (serve c cfg (choices ++ [choice])).state = (serve c cfg choices).state ∨
    ∃ i env th o, choice = .step i env ∧ (serve c cfg choices).threads[i]? = some th ∧
      (serve c cfg (choices ++ [choice])).state = (exec c env o (serve c cfg choices).state).2 ∧
      Justified c cfg th.call th.trace o ∧
      ∀ e ∈ th.trace, Grows (e.after (exec c)) (serve c cfg choices).state := by
  have hgrows := (run_inv (J := fun _ _ => True) Grows.refl Grows.trans
    (fun env s o _ => exec_grows c env s o) (fun _ _ _ _ _ _ _ _ _ _ _ => trivial)
    program_justified trivial
    (servedUnder_true c cfg choices)).2
  rw [serve_snoc]
  rcases step_cases (exec c) (start c cfg) (serve c cfg choices) choice with
    ⟨call, rfl, h⟩ | h | ⟨i, env, th, o, k, rfl, hth, hprog, h⟩
  · rw [h]
    exact .inl rfl
  · rw [h]
    exact .inl rfl
  · have hmem := List.mem_of_getElem? hth
    have hsound := run_sound State.empty (fun call => program_justified call) choices th hmem
    rw [hprog] at hsound
    rw [h]
    exact .inr ⟨i, env, th, o, rfl, hth, rfl, hsound.1, fun e he => (hgrows e ⟨th, hmem, he⟩).1⟩

end Run

end StellarRoute.Cctp
