import StellarRoute.Cctp.Proofs.Burns
import StellarRoute.Lib.Tally

/-! Which destination transactions move a transfer. The production verifiers
tie a transaction to the message, the attestation and the payload of the
transfer before they report on it, except for a Stellar transaction that
failed: that one is reported as it is. -/

namespace StellarRoute.Cctp

open Lib Lib.Interleave

section Bound

variable (c : Codec) (cfg : CctpConfig)

/-- A Sepolia transaction that calls the message transmitter with the message and the attestation,
and whose payload has this hash. -/
def EvmMintOf (node : EvmNode) (txHash : String) (message attestation : Bytes)
    (payloadHash : String) : Prop :=
  ∃ tx target input, node.getTransactionByHash (normalizeHash txHash) = .ok tx ∧
    tx.target = some target ∧ toAsciiLowercase target = sepoliaMessageTransmitter.format ∧
    tx.input = some input ∧ decodeReceiveInput c input = .ok (message, attestation) ∧
    receivePayloadHash c message attestation = payloadHash

/-- A Stellar transaction that calls the forwarder with the message and the attestation, and whose
unsigned envelope has this hash. -/
def StellarMintOf (node : StellarNode) (txHash : String) (message attestation : Bytes)
    (payloadHash : String) : Prop :=
  ∃ tx invoke, finalizedTransaction c cfg node txHash = .ok tx ∧
    parseInvokeEnvelope c tx.envelopeXdr = .ok invoke ∧
    invoke.contractStrkey = STELLAR_CCTP_FORWARDER ∧
    decodeMintInvoke invoke = .ok (message, attestation) ∧
    payloadHashFromEnvelopeXdr c cfg tx.envelopeXdr = .ok payloadHash

/-- The transaction targets the configured contract and carries what was prepared for `t`. -/
def MintOf (w : Chains) (t : CctpTransfer) (txHash : String) : Prop :=
  ∃ message attestation payloadHash, t.rawMessage = some message ∧
    t.attestation = some attestation ∧ t.mintPayloadHash = some payloadHash ∧
    match t.direction with
    | .stellarToEvm => EvmMintOf c w.evm txHash message attestation payloadHash
    | .evmToStellar => StellarMintOf c cfg w.stellar txHash message attestation payloadHash

/-- The verifier is asked about this transaction as the mint of a transfer. -/
def Op.SubmitsMint (txHash : String) : Op → Prop
  | .ask (.verifyMintSubmission _ submitted _ _ _ _ _) => submitted = txHash
  | _ => False

/-- A mint on Stellar is not asked about with the hash of a transaction that failed. -/
def NoFailedMint (env : Env) : Op → Prop
  | .ask (.verifyMintSubmission .evmToStellar txHash _ _ _ _ _) =>
    ∀ tx, env.answer (.finalizedTransaction txHash) = .ok tx → tx.status ≠ .failed
  | _ => True

end Bound

section Verdicts

variable {c : Codec} {cfg : CctpConfig} {w : Chains} {t : CctpTransfer} {txHash : String}
  {message attestation : Bytes} {nonce payloadHash : String} {submitter : Option String}
  {facts : VerifiedMintFacts}

theorem stellarVerifyMintSubmission_bound {ready : Bool} {node : StellarNode}
    (h : stellarVerifyMintSubmission c cfg ready node txHash message attestation nonce payloadHash
      submitter = .ok facts)
    (hnotFailed : ∀ tx, finalizedTransaction c cfg node txHash = .ok tx → tx.status ≠ .failed) :
    StellarMintOf c cfg node txHash message attestation payloadHash := by
  simp only [stellarVerifyMintSubmission, bind_eq_ok] at h
  obtain ⟨-, -, tx, htx, h⟩ := h
  split at h
  · next hfailed => exact absurd hfailed (hnotFailed tx htx)
  · simp only [stellarMintBound, bind_eq_ok, require_eq_ok, pure_eq_ok] at h
    obtain ⟨_, ⟨invoke, hinvoke, -, -, -, hcontract, ⟨txMessage, txAttestation⟩, hdecode, -,
      ⟨rfl, rfl⟩, computed, hcomputed, -, rfl, rfl⟩, -⟩ := h
    exact ⟨tx, invoke, htx, hinvoke, hcontract, hdecode, hcomputed⟩

theorem MintReported.mintOf {P : Event Env State Op → Prop} (h : MintReported c P t txHash facts)
    (hP : ∀ e, P e → e.env.Production c cfg ∧ NoFailedMint e.env e.op) :
    ∃ e w, P e ∧ e.op.SubmitsMint txHash ∧ e.env.Asks c cfg w ∧ MintOf c cfg w t txHash := by
  obtain ⟨payloadHash, message, attestation, nonce, hevidence, -, env, s, he, hanswer⟩ := h
  obtain ⟨⟨w, hasks⟩, hnotFailed⟩ := hP _ he
  simp only [mintEvidence, bind_eq_ok, okOr_eq_ok, pure_eq_ok, Prod.mk.injEq] at hevidence
  obtain ⟨_, hhash, _, hmessage, _, hattestation, _, -, rfl, rfl, rfl, rfl⟩ := hevidence
  refine ⟨_, w, he, rfl, hasks, _, _, _, hmessage, hattestation, hhash, ?_⟩
  have hverdict := (hasks.verifyMintSubmission t.direction txHash _ _ _ _
    (expectedMintSubmitter t)).symm.trans hanswer
  cases hd : t.direction with
  | stellarToEvm =>
    rw [hd] at hverdict
    change evmVerifyMintSubmission _ _ _ _ _ _ _ _ _ = _ at hverdict
    simp only [evmVerifyMintSubmission, bind_eq_ok, require_eq_ok, okOr_eq_ok] at hverdict
    obtain ⟨-, -, -, -, tx, htx, receipt, -, -, -, -, -, target, htarget, -, hlower, input, hinput,
      ⟨txMessage, txAttestation⟩, hdecode, -, ⟨rfl, rfl⟩, -, hpayload, -⟩ := hverdict
    exact ⟨tx, target, input, htx, htarget, hlower, hinput, hdecode, hpayload⟩
  | evmToStellar =>
    rw [hd] at hverdict hnotFailed
    refine stellarVerifyMintSubmission_bound hverdict fun tx htx => hnotFailed tx ?_
    rw [hasks.finalizedTransaction, htx]

/-- The writes that take a transfer from `MintPrepared` towards its end come from a report on a
submitted transaction. -/
theorem Due.mintReported {P : Event Env State Op → Prop} {so : StoreOp} {now : Time} {s : State}
    {t' : CctpTransfer} (hdue : Due c P t so) (hrw : so.Rewrites now s t t')
    (hprepared : t.status = .mintPrepared)
    (hleft : t'.status = .mintSubmitted ∨ t'.status = .completed ∨
      t'.status = .mintFailedRetryable) :
    ∃ txHash facts, MintReported c P t txHash facts ∧
      ((∃ id version, so = .recordMintSubmission id version txHash) ∨
        ∃ id version patch, so = .transition id version .mintFailedRetryable patch) := by
  cases so with
  | insert t | get id => exact hrw.elim
  | transition id version status patch =>
    rw [hrw.eq] at hleft
    have hchange : Change c P t status patch := hdue
    cases hchange with
    | rejected h txHash facts reason hf ho =>
      exact ⟨txHash, facts, hf, .inr ⟨id, version, _, rfl⟩⟩
    | prepareBurn h | recordBurnPayload h bundle payloadHash | rateLimited h error code
    | timeout h error code | attested h raw attestation nonce hv hn | cancelled h =>
      simp [applyPatch] at hleft
    | failed h reason | hint h error code => simp [hprepared] at h
  | recordMintSubmission id version txHash =>
    obtain ⟨-, facts, hreported, -⟩ := hdue
    exact ⟨txHash, facts, hreported, .inl ⟨id, version, rfl⟩⟩
  | recordMintCompleted id version =>
    have hsubmitted : t.status = .mintSubmitted := hdue
    simp [hprepared] at hsubmitted
  | recordMintPrepared id version hash expiresAt submitter =>
    rw [hrw.eq] at hleft
    simp [applyPatch] at hleft
  | tryAcquirePollLease id leaseSecs minIntervalSecs
  | claimReattestLease id owner leaseSecs maxAttempts =>
    rw [hrw] at hleft
    simp [hprepared] at hleft
  | finalizeReattestSuccess id owner | finalizeReattestFailure id owner code error cooldown =>
    have hfailed := (claimedBy_eq_true hrw.1).1
    simp [hprepared] at hfailed
  | recordApprovalSubmission id version txHash verifiedAt | recordVerifiedBurn id version txHash =>
    have hburn := hrw.2.1
    simp [hprepared] at hburn

theorem submits_own {choices : List (Choice Env Call)}
    {th : Thread Env State Op Op.Res Call (Except CctpServiceError Reply)}
    (hth : th ∈ (serve c cfg choices).threads) {e : Event Env State Op} (he : e ∈ th.trace)
    (hop : e.op.SubmitsMint txHash) : ∃ id, th.call = .submitMint id txHash := by
  obtain ⟨later, earlier, htrace⟩ := List.append_of_mem he
  have hjust := run_ruled program_justified State.empty choices th hth e earlier ⟨later, htrace.symm⟩
  unfold Op.SubmitsMint at hop
  split at hop
  · next heq =>
    rw [heq, hop] at hjust
    exact hjust
  · exact hop.elim

end Verdicts

/-- Under the production verifiers, in a run in which no Stellar mint is submitted with the hash of
a failed transaction, a transfer leaves `MintPrepared` towards `MintSubmitted`, `Completed` or
`MintFailedRetryable` only by a call of `submit_mint` for it, and after this call has asked the
verifier about its transaction: that calls the configured contract with the message and the
attestation of the transfer and has the prepared payload hash. Unless the mint has failed, the
transfer stores its hash. -/
theorem mint_prepared_left_by_own_mint {c : Codec} {cfg : CctpConfig}
    {choices : List (Choice Env Call)} {choice : Choice Env Call}
    (hok : ServedUnder c cfg (fun env _ o => env.Production c cfg ∧ NoFailedMint env o) choices)
    {id : Uuid} {t t' : CctpTransfer} (ht : (serve c cfg choices).state.transfer id = some t)
    (hprepared : t.status = .mintPrepared)
    (ht' : (serve c cfg (choices ++ [choice])).state.transfer id = some t')
    (hleft : t'.status = .mintSubmitted ∨ t'.status = .completed ∨
      t'.status = .mintFailedRetryable) :
    ∃ i env th txHash e w, choice = .step i env ∧ (serve c cfg choices).threads[i]? = some th ∧
      th.call = .submitMint id txHash ∧ e ∈ th.trace ∧ e.op.SubmitsMint txHash ∧
      e.env.Asks c cfg w ∧ MintOf c cfg w t txHash ∧
      (t'.status ≠ .mintFailedRetryable → t'.destinationTxHash = some txHash) := by
  rcases serve_step c cfg choices choice with
    hsame | ⟨i, env, th, o, rfl, hth, hstate, hjust, hgrows⟩
  · rw [hsame, ht] at ht'
    cases ht'
    simp [hprepared] at hleft
  · rw [hstate] at ht'
    obtain ⟨t'', ht'', hwrite⟩ := exec_transfer c env o ht
    obtain rfl : t'' = t' := Option.mem_unique ht'' ht'
    rcases hwrite with rfl | ⟨so, rfl, rfl, hrw⟩
    · simp [hprepared] at hleft
    · have hmem := List.mem_of_getElem? hth
      have hdue := hjust.due (P := (· ∈ th.trace)) ht (fun e he => ⟨he, hgrows e he⟩) hrw
      obtain ⟨txHash, facts, hreported, hso⟩ := hdue.mintReported hrw hprepared hleft
      obtain ⟨e, w, he, hop, hasks, hmint⟩ := hreported.mintOf fun e he =>
        performed_allowed hok ⟨th, hmem, he⟩
      rcases hso with ⟨id, version, rfl⟩ | ⟨id, version, patch, rfl⟩
      · obtain ⟨-, -, -, -, -, -, -, hcall⟩ := hjust
        refine ⟨i, env, th, txHash, e, w, rfl, hth, hcall, he, hop, hasks, hmint, fun _ => ?_⟩
        rw [hrw.eq]
        rfl
      · obtain ⟨t0, hread, hversion, -, hown⟩ := hjust
        obtain ⟨-, hversioned⟩ := hread.current hgrows ht (hrw.version_eq.trans hversion.symm)
        have hstill : t0.status ≠ .mintSubmitted := by
          rw [← status_of_versioned hversioned, hprepared]
          decide
        obtain ⟨submitted, hcall⟩ := (hown rfl).resolve_left hstill
        obtain ⟨id', hcall'⟩ := submits_own hmem he hop
        rw [hcall, Call.submitMint.injEq] at hcall'
        obtain ⟨-, rfl⟩ := hcall'
        refine ⟨i, env, th, submitted, e, w, rfl, hth, hcall, he, hop, hasks, hmint, fun hne => ?_⟩
        rw [hrw.eq] at hne
        exact absurd rfl hne

/-! ### A mint in production -/

theorem burnCodec_strkeysShort : burnCodec.StrkeysShort := by
  intro key
  cases key with
  | account key => exact plainCodec_strkeysShort (.account key)
  | muxed key id => exact plainCodec_strkeysShort (.muxed key id)
  | contract id => exact strkeys_short STELLAR_TOKEN_MESSENGER (by simp)

/-- The production world of the chains at the time 0, with this answer of the Circle service. -/
def mintWorld (w : Chains) (iris : IrisPollOutcome) : Env :=
  w.wire burnCodec plainConfig (Outlook.env { plainOutlook .pending .pending with iris := iris })

theorem mintWorld_attests (msg : IrisMessage) : Attests (mintWorld plainChains (.complete msg)) msg :=
  ⟨rfl, fun _ _ => rfl, rfl, fun _ _ => rfl⟩

/-- The message for the burn of the record is attested, and a payload is prepared. -/
def mintPrepared (row : CctpTransfer) : State :=
  ((start burnCodec plainConfig (.prepareMint 0)).eval (exec burnCodec)
    (mintWorld plainChains .pending) (attestedAlone burnCodec "0" row)).2

/-- The mint is being submitted, and `n` operations of the call are done. -/
def mintSubmitting (w : Chains) (row : CctpTransfer) (txHash : String) (n : ℕ) : State :=
  ((fun x => Thread.advance (exec burnCodec) (mintWorld w .pending) x.2 x.1)^[n]
    (⟨Call.submitMint 0 txHash, start burnCodec plainConfig (.submitMint 0 txHash), []⟩,
      mintPrepared row)).2

/-- The burn is recorded as `row`, and operation `n` of the submission makes the mint fail. -/
abbrev FailsAt (request : CctpQuoteRequest) (row : CctpTransfer) (burnHash : String) (w : Chains)
    (mintHash : String) (n : ℕ) : Prop :=
  (serve burnCodec plainConfig (burned 0 request burnHash)).state =
    { transfers := [row], locks := [] } ∧
  (∃ t, (mintSubmitting w row mintHash n).transfer 0 = some t ∧ t.status = .mintPrepared ∧
    t.direction = row.direction) ∧
  ∃ t, (mintSubmitting w row mintHash (n + 1)).transfer 0 = some t ∧ t.status = .mintFailedRetryable

theorem exists_failed_mint {P : Env → Prop} {request : CctpQuoteRequest} {row : CctpTransfer}
    {burnHash : String} {w : Chains} {mintHash : String} {n : ℕ}
    (hfails : FailsAt request row burnHash w mintHash n)
    (hstatus : row.status = .awaitingAttestation) (hupdated : row.updatedAt = 0)
    (hnonce : row.messageNonce = none) (hP : ∀ iris, P (mintWorld plainChains iris))
    (hw : P (mintWorld w .pending)) :
    ∃ choices choice t t', (∀ choice ∈ choices, choice.Meets P) ∧
      (serve burnCodec plainConfig choices).state.transfer 0 = some t ∧
      t.status = .mintPrepared ∧ t.direction = row.direction ∧
      (serve burnCodec plainConfig (choices ++ [choice])).state.transfer 0 = some t' ∧
      t'.status = .mintFailedRetryable := by
  obtain ⟨hburned, ⟨t, ht, hprepared⟩, t', ht', hfailed⟩ := hfails
  obtain ⟨e, -, -, hattested⟩ := leads_attestedAlone (P := P) "0" mintWorld_attests
    (fun _ => rfl) burnCodec_strkeysShort (fun _ _ _ => hP _) ⟨_, hburned⟩ hstatus
    (by rw [hupdated]; decide) hnonce (by decide) (by decide)
  obtain ⟨more, hmeets, hrun, -⟩ :=
    (hattested.trans (leads_eval (.prepareMint 0) (hP .pending))).run _ hburned
  let next : Choice Env Call := .step (serve burnCodec plainConfig
    (burned 0 request burnHash ++ more)).threads.length (mintWorld w .pending)
  let submission (n : ℕ) : List (Choice Env Call) :=
    burned 0 request burnHash ++ more ++ .spawn (.submitMint 0 mintHash) :: List.replicate n next
  have hstate : ∀ n, (serve burnCodec plainConfig (submission n)).state =
      mintSubmitting w row mintHash n := by
    intro n
    rw [serve, run, Transition.run_append]
    exact (run_iterate _ n).trans (by rw [mintSubmitting, mintPrepared, ← hrun])
  refine ⟨submission n, next, t, t', ?_, by rw [hstate, ht], hprepared.1, hprepared.2, ?_, hfailed⟩
  · simp only [submission, List.forall_mem_append, List.forall_mem_cons]
    refine ⟨⟨burned_meets (hP _) _ _, hmeets⟩, trivial, fun choice hchoice => ?_⟩
    rw [List.eq_of_mem_replicate hchoice]
    exact hw
  · rw [← ht', ← hstate, List.append_assoc, List.cons_append, ← List.replicate_succ']

def outboundRow : CctpTransfer := awaitingRow plainConfig plainRequest 0 "" "1" zeroHash 0

def mintEvmNode (status : String) : EvmNode where
  getTransactionByHash _ :=
    .ok ⟨some plainSender, some sepoliaMessageTransmitter.format, some "0x"⟩
  getTransactionReceipt _ := .ok ⟨some status, some [], some "0x1"⟩
  chainId := .ok "0xaa36a7"
  blockNumber := .ok "0x1"
  call _ _ := .ok "0x"

/-- The mint succeeds, and has failed when it is looked at once more. -/
def reorgChains : Chains :=
  { plainChains with evm := mintEvmNode "0x1", evmAgain := mintEvmNode "0x0" }

def inboundRow : CctpTransfer :=
  awaitingRow plainConfig inboundRequest 0 "" "1.0000000" ("0x" ++ zeroHash) 0

def failedStellarNode : StellarNode :=
  { plainStellarNode with
    getTransaction := fun _ => .ok
      { status := "FAILED", txHash := none, ledger := some 1, latestLedger := some 1
        envelopeXdr := some "", contractEventsXdr := [] } }

/-- A mint on Sepolia fails in a reorganisation, and one on Stellar by a transaction that failed. -/
theorem mints_fail :
    FailsAt plainRequest outboundRow zeroHash reorgChains ("0x" ++ zeroHash) 5 ∧
    FailsAt inboundRequest inboundRow ("0x" ++ zeroHash)
      { plainChains with stellar := failedStellarNode } zeroHash 6 := by
  decide +kernel

/-! #### From Stellar to Sepolia -/

/-- The production verifiers are in place, and no Stellar transaction has failed. -/
def Env.Sound (c : Codec) (cfg : CctpConfig) (env : Env) : Prop :=
  env.Production c cfg ∧ ∀ o, NoFailedMint env o

theorem wire_sound {c : Codec} {cfg : CctpConfig} {w : Chains} (hw : w.stellar = plainStellarNode)
    (rest : Env) : (w.wire c cfg rest).Sound c cfg := by
  refine ⟨⟨w, Chains.wire_asks _ _ _ _⟩, fun o => ?_⟩
  unfold NoFailedMint
  split
  · next txHash _ _ _ _ _ =>
    intro tx htx hfailed
    rw [(Chains.wire_asks c cfg w rest).finalizedTransaction, hw] at htx
    obtain ⟨result, hresult, hstatus, -⟩ := finalizedTransaction_found htx
    cases hresult
    exact absurd (hstatus hfailed) (by decide)
  · trivial

/-- The mint of one USDC on Sepolia fails in a reorganisation, and it was the mint of the transfer. -/
theorem mint_prepared_left_by_own_mint_sepolia :
    ∃ choices t txHash w, (serve burnCodec plainConfig choices).state.transfer 0 = some t ∧
    t.status = .mintPrepared ∧ MintOf burnCodec plainConfig w t txHash ∧
    ∃ th ∈ (serve burnCodec plainConfig choices).threads, th.call = .submitMint 0 txHash ∧
    ∃ e ∈ th.trace, e.op.SubmitsMint txHash ∧ e.env.Asks burnCodec plainConfig w := by
  obtain ⟨choices, choice, t, t', hmeets, ht, hprepared, -, ht', hfailed⟩ :=
    exists_failed_mint (P := Env.Sound burnCodec plainConfig) mints_fail.1 rfl rfl rfl
      (fun _ => wire_sound rfl _) (wire_sound rfl _)
  have hok : ServedUnder burnCodec plainConfig
      (fun env _ o => env.Production burnCodec plainConfig ∧ NoFailedMint env o) choices :=
    (stepsOk_of_meets hmeets _).mono fun p choice hallowed =>
      hallowed.mono fun env s o hsound => ⟨hsound.1, hsound.2 o⟩
  obtain ⟨i, env, th, txHash, e, w, -, hth, hcall, he, hop, hasks, hmint, -⟩ :=
    mint_prepared_left_by_own_mint hok ht hprepared ht' (.inr (.inr hfailed))
  exact ⟨choices, t, txHash, w, ht, hprepared, hmint, th, List.mem_of_getElem? hth, hcall, e, he,
    hop, hasks⟩

/-! #### From Sepolia to Stellar -/

theorem burnCodec_not_mint {w : Chains} {t : CctpTransfer} {txHash : String}
    (hdirection : t.direction = .evmToStellar) : ¬ MintOf burnCodec plainConfig w t txHash := by
  rintro ⟨message, attestation, payloadHash, -, -, -, hmint⟩
  rw [hdirection] at hmint
  obtain ⟨tx, invoke, -, hinvoke, hcontract, -⟩ := hmint
  have hconst : parseInvokeEnvelope burnCodec tx.envelopeXdr = parseInvokeEnvelope burnCodec "" := rfl
  have hmessenger : (parseInvokeEnvelope burnCodec "").toOption.map ParsedInvoke.contractStrkey =
      some STELLAR_TOKEN_MESSENGER := by decide
  rw [← hconst, hinvoke] at hmessenger
  have hsame : invoke.contractStrkey = STELLAR_TOKEN_MESSENGER := Option.some.inj hmessenger
  exact absurd (hcontract.symm.trans hsame) (by decide)

/-- A failed burn on Stellar makes a prepared mint fail. -/
theorem failed_burn_fails_mint : ∃ choices choice t t',
    ServedUnder burnCodec plainConfig (fun env _ _ => env.Production burnCodec plainConfig) choices ∧
    (serve burnCodec plainConfig choices).state.transfer 0 = some t ∧ t.status = .mintPrepared ∧
    (serve burnCodec plainConfig (choices ++ [choice])).state.transfer 0 = some t' ∧
    (t'.status = .mintSubmitted ∨ t'.status = .completed ∨ t'.status = .mintFailedRetryable) ∧
    ∀ w txHash, ¬ MintOf burnCodec plainConfig w t txHash := by
  have hproduction : ∀ w iris, (mintWorld w iris).Production burnCodec plainConfig :=
    fun w iris => ⟨w, Chains.wire_asks _ _ _ _⟩
  obtain ⟨choices, choice, t, t', hmeets, ht, hprepared, hdirection, ht', hfailed⟩ :=
    exists_failed_mint (P := Env.Production burnCodec plainConfig) mints_fail.2 rfl rfl rfl
      (hproduction _) (hproduction _ _)
  exact ⟨choices, choice, t, t', stepsOk_of_meets hmeets _, ht, hprepared, ht', .inr (.inr hfailed),
    fun w txHash => burnCodec_not_mint hdirection⟩

end StellarRoute.Cctp
