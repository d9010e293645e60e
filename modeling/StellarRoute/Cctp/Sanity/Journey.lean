import StellarRoute.Cctp.Proofs.Saga
import StellarRoute.Cctp.Sanity.Message
import StellarRoute.Cctp.Sanity.Solo

/-! The way of a transfer through its stages. Each stage has one call that
carries it to the next when the outside world is favourable and nobody
interferes; any run that is in the state before the call can go on with it. -/

namespace StellarRoute.Cctp

open Lib Lib.Interleave List

/-! ### Going on with a run -/

section Leads

variable (c : Codec) (cfg : CctpConfig) (P : Env → Prop)

def Reached (s : State) : Prop := ∃ choices, (serve c cfg choices).state = s

/-- Every run that is in `s` goes on to `s'`, in worlds with `P` and with no call left open. -/
structure Leads (s s' : State) : Prop where
  run : ∀ choices, (serve c cfg choices).state = s →
    ∃ more, (∀ choice ∈ more, choice.Meets P) ∧ (serve c cfg (choices ++ more)).state = s' ∧
      ((serve c cfg choices).AtRest → (serve c cfg (choices ++ more)).AtRest)

variable {c cfg P} {s s1 s2 : State}

theorem Leads.trans (h1 : Leads c cfg P s s1) (h2 : Leads c cfg P s1 s2) :
    Leads c cfg P s s2 where
  run choices hs := by
    obtain ⟨more1, hmeets1, hs1, hrest1⟩ := h1.run choices hs
    obtain ⟨more2, hmeets2, hs2, hrest2⟩ := h2.run (choices ++ more1) hs1
    refine ⟨more1 ++ more2, forall_mem_append.mpr ⟨hmeets1, hmeets2⟩, ?_⟩
    rw [← append_assoc]
    exact ⟨hs2, fun hrest => hrest2 (hrest1 hrest)⟩

theorem Leads.reached (h : Leads c cfg P s s1) (hs : Reached c cfg s) : Reached c cfg s1 := by
  obtain ⟨choices, hs⟩ := hs
  obtain ⟨more, -, hs1, -⟩ := h.run choices hs
  exact ⟨choices ++ more, hs1⟩

theorem leads_ends {call : Call} {L : List (Event Env State Op)} {out : Except CctpServiceError Reply}
    (hends : Ends (exec c) (start c cfg call) s L out s1) (hP : ∀ e ∈ L, P e.env) :
    Leads c cfg P s s1 where
  run choices hs := by
    subst hs
    have hrun := run_ends (p := serve c cfg choices) hends
    refine ⟨.spawn call :: L.map fun e => .step (serve c cfg choices).threads.length e.env, ?_, ?_⟩
    · rw [forall_mem_cons, forall_mem_map]
      exact ⟨trivial, hP⟩
    · rw [serve, run, Transition.run_append]
      refine ⟨congrArg Pool.state hrun, fun hrest th hth => ?_⟩
      rw [congrArg Pool.threads hrun] at hth
      rcases mem_append.mp hth with hth | hth
      · exact hrest th hth
      · rw [mem_singleton.mp hth]
        exact ⟨out, rfl⟩

variable {E : Env} {Q : State → Prop} {α : Type}

theorem leads_eval (call : Call) (hE : P E) :
    Leads c cfg P s ((start c cfg call).eval (exec c) E s).2 := by
  obtain ⟨L, hends, henv⟩ := exists_ends (exec c) E (start c cfg call) s
  exact leads_ends hends fun e he => (henv e he).symm ▸ hE

variable {reply : α → Reply} {x : Svc α}

theorem goes_program {G : Env → State → Op → Prop} (cfg : CctpConfig) (call : Call)
    (hcall : call.program c cfg = x >>= fun a => pure (reply a))
    (h : Goes c G x s fun _ s' => Q s') : Goes c G (call.program c cfg) s fun _ s' => Q s' := by
  rw [hcall]
  refine runs_bind (h.mono ?_)
  rintro (e | a) s' hq
  · exact hq
  · exact runs_pure hq

theorem leads_call (cfg : CctpConfig) (call : Call)
    (hcall : call.program c cfg = x >>= fun a => pure (reply a)) (hE : P E)
    (h : Goes c (In E) x s fun _ s' => Q s') : ∃ s', Q s' ∧ Leads c cfg P s s' := by
  have hprogram := goes_program cfg call hcall h
  obtain ⟨L, hends, henv⟩ := exists_ends (exec c) E (start c cfg call) s
  exact ⟨_, hprogram.alone.ends hends fun e he => (henv e he).symm, leads_eval call hE⟩

theorem Reached.evidence {id : Uuid} {t : CctpTransfer} (hs : Reached c cfg s)
    (ht : s.transfer id = some t) : ∃ P, Evidence c P t := by
  obtain ⟨choices, rfl⟩ := hs
  exact ⟨_, serve_evidenced choices id t ht⟩

theorem Reached.indexed (hs : Reached c cfg s) : s.Indexed := by
  obtain ⟨choices, rfl⟩ := hs
  exact serve_indexed c cfg choices

end Leads

/-! ### A favourable world -/

/-- What the outside world has to say. -/
structure Outlook where
  now : Time
  newId : Uuid
  burn : Except VerifierError VerifiedBurnFacts
  iris : IrisPollOutcome
  burnBundle : Except BuilderError PreparedBurnBundle
  bundle : PreparedMintBundle
  submission : MintVerifyOutcome
  completion : MintVerifyOutcome

/-- The facts about a transaction that carries what it has to carry. -/
def mintFacts (txHash nonce payloadHash : String) (outcome : MintVerifyOutcome) :
    VerifiedMintFacts where
  txHash := txHash
  destinationChainId := ""
  contractAddress := ""
  functionSelector := ""
  messageHash := zero32
  attestationHash := zero32
  nonce := nonce
  payloadHash := payloadHash
  outcome := outcome
  recipientEvidence := none

def Outlook.env (w : Outlook) : Env where
  now := w.now
  database := .answers
  lockRow := 0
  answer
    | .providerKilled => false
    | .newTransferId => w.newId
    | .leaseOwner => ""
    | .fetchBurnFees .. => .ok ⟨"0", none⟩
    | .pollMessagesByTx .. => .ok w.iris
    | .irisReattest _ => .ok ()
    | .burnVerifierReady _ => true
    | .attestationVerifierReady => true
    | .mintVerifierReady _ => true
    | .approvalVerifierReady _ => true
    | .verifyBurn .. => w.burn
    | .verifyAttestation .. => .ok ()
    | .verifyApproval .. => .ok ()
    | .verifyMintSubmission _ txHash _ _ nonce payloadHash _ =>
      .ok (mintFacts txHash nonce payloadHash w.submission)
    | .verifyMintCompletion .. => .ok w.completion
    | .prepareBurn _ => w.burnBundle
    | .prepareMint _ => .ok w.bundle
    | .finalizedTransaction _ => .error .txNotFound

theorem Outlook.acceptsMint (w : Outlook) {txHash payloadHash : String} (hhash : payloadHash ≠ "")
    (hsubmission : w.submission = .pending)
    (hcompletion : ∀ reason, w.completion ≠ .failedRetryable reason) :
    AcceptsMint txHash payloadHash w.env where
  database := rfl
  ready _ := rfl
  submission _ _ _ nonce _ := by
    refine ⟨mintFacts txHash nonce payloadHash w.submission, rfl, rfl, ?_⟩
    simpa [VerifiedMintFacts.submissionOk, mintFacts, hsubmission] using hhash
  completion _ _ _ _ _ reason h := hcompletion reason (Except.ok.inj h)

/-! ### The stages -/

section Stages

variable {c : Codec} {cfg : CctpConfig} {T : Time} {s s' : State} {t t' : CctpTransfer} {id : Uuid}

structure Arrives (c : Codec) (cfg : CctpConfig) (T : Time) (s : State) (id : Uuid)
    (status : CctpTransferStatus) (s' : State) (t' : CctpTransfer) : Prop where
  leads : Leads c cfg (·.now = T) s s'
  stored : s'.transfer id = some t'
  status_eq : t'.status = status

theorem arrives_put {status : CctpTransferStatus} (t' : CctpTransfer)
    (hleads : Leads c cfg (·.now = T) s s') (ht : s.transfer id = some t)
    (heq : s'.transfers = (s.put t').transfers) (hid : t'.transferId = t.transferId)
    (hstatus : t'.status = status) : Arrives c cfg T s id status s' t' :=
  ⟨hleads, (State.transfer_congr heq).trans (State.transfer_put ht hid), hstatus⟩

theorem fresh_of_put {κ : Type} {column : CctpTransfer → Option κ} {k : κ} (t' : CctpTransfer)
    (hfresh : ∀ u ∈ s.transfers, column u ≠ some k) (ht : s.transfer id = some t)
    (hcolumn : column t' = column t) (heq : s'.transfers = (s.put t').transfers) :
    ∀ u ∈ s'.transfers, column u ≠ some k := by
  intro u hu
  rcases State.rows_of_put heq hcolumn u hu with hcolumn' | hu
  · rw [hcolumn']
    exact hfresh t (State.mem_of_transfer ht)
  · exact hfresh u hu

/-- A payload and a destination transaction that can be had for a mint. -/
structure Offer (c : Codec) (T : Time) (s : State) (bundle : PreparedMintBundle)
    (txHash : String) : Prop where
  acceptable : Acceptable c T bundle
  len : byteLen txHash ≤ MAX_TX_HASH_LEN
  fresh : ∀ u ∈ s.transfers, u.destinationTxHash ≠ some txHash

variable {txHash nonce payloadHash : String}

theorem Offer.put {bundle : PreparedMintBundle} (h : Offer c T s bundle txHash)
    (ht : s.transfer id = some t) (t' : CctpTransfer) (heq : s'.transfers = (s.put t').transfers)
    (hdestination : t'.destinationTxHash = t.destinationTxHash) : Offer c T s' bundle txHash where
  acceptable := h.acceptable
  len := h.len
  fresh := fresh_of_put t' h.fresh ht hdestination heq

/-- An event nonce that Iris can report for `t`. -/
structure FreshNonce (s : State) (t : CctpTransfer) (nonce : String) : Prop where
  nonempty : nonce ≠ ""
  len : byteLen nonce ≤ MAX_MESSAGE_NONCE_LEN
  fresh : ∀ u ∈ s.transfers, nonceKey u ≠ some (t.sourceChainId, nonce)

theorem FreshNonce.put (h : FreshNonce s t nonce) (ht : s.transfer id = some t)
    (hchain : t'.sourceChainId = t.sourceChainId) (hnonce : t'.messageNonce = t.messageNonce)
    (heq : s'.transfers = (s.put t').transfers) : FreshNonce s' t' nonce where
  nonempty := h.nonempty
  len := h.len
  fresh := by
    rw [hchain]
    refine fresh_of_put t' h.fresh ht ?_ heq
    rw [nonceKey, nonceKey, hnonce, hchain]

/-- The quote is open and nothing stands in the way of a new payload. -/
structure Mintable (T : Time) (s : State) (t : CctpTransfer) : Prop where
  quote : T ≤ t.quoteExpiresAt
  destination : t.destinationTxHash = none
  submitter : SubmitterFree T s t

theorem Mintable.put (h : Mintable T s t) (hquote : t'.quoteExpiresAt = t.quoteExpiresAt)
    (hdestination : t'.destinationTxHash = t.destinationTxHash)
    (hdirection : t'.direction = t.direction) (hsubmitter : t'.mintSubmitter = t.mintSubmitter)
    (hlocks : ∀ row ∈ s'.locks, row ∈ s.locks) : Mintable T s' t' where
  quote := hquote ▸ h.quote
  destination := hdestination ▸ h.destination
  submitter hd := by
    obtain ⟨submitter, hs, hrows⟩ := h.submitter (hdirection ▸ hd)
    exact ⟨submitter, hsubmitter ▸ hs, fun row hrow => hrows row (hlocks row hrow)⟩

structure Submittable (T : Time) (t : CctpTransfer) (payloadHash : String) : Prop where
  valid : ∀ exp, t.mintPayloadExpiresAt = some exp → T ≤ exp
  hash : t.mintPayloadHash = some payloadHash
  nonempty : payloadHash ≠ ""
  destination : t.destinationTxHash = none

/-! #### Up to the burn -/

/-- The record of a quote at the time `now`. -/
def quotedRow (cfg : CctpConfig) (request : CctpQuoteRequest) (id : Uuid)
    (accessTokenHash destinationAmount : String) (now : Time) : CctpTransfer :=
  insertedRow now (newTransfer cfg request id accessTokenHash destinationAmount "0" now)

/-- The record once the quoted burn is verified, all at one time. -/
def awaitingRow (cfg : CctpConfig) (request : CctpQuoteRequest) (id : Uuid)
    (accessTokenHash destinationAmount txHash : String) (now : Time) : CctpTransfer :=
  burnedRow now txHash (applyPatch now .burnPrepared {}
    (quotedRow cfg request id accessTokenHash destinationAmount now))

/-! #### After the burn -/

/-- The message that the Circle service attests for the burn of `t`. -/
def irisMessage (e : CorridorMessageExpectations) (txHash nonce : String) : IrisMessage where
  messageHex := hexEncode (encodeMessage (messageFor e))
  attestationHex := some "00"
  cctpVersion := 2
  status := .complete
  eventNonce := nonce
  sourceTxHash := some txHash

theorem checkIrisMessage_irisMessage {e : CorridorMessageExpectations} (hc : c.StrkeysShort)
    (he : buildCorridorExpectations c t = .ok e) (hsource : t.sourceTxHash = some txHash) :
    checkIrisMessage c t (irisMessage e txHash nonce) = .ok (encodeMessage (messageFor e), [0]) := by
  have hmeetable := meetable_of_build hc he
  have hdecode := decodeHexMessage_hexEncode (encodeMessage (messageFor e))
  have hvalid := validate_messageFor hmeetable
  have hlen := length_messageFor_le hmeetable
  have hattestation : decodeHexMessage "00" = .ok [0] := by decide
  have hpending : ¬ eqIgnoreAsciiCase "00" "PENDING" := by decide
  simp [checkIrisMessage, irisMessage, bind_eq_ok, require_eq_ok, okOr, hsource, he, hvalid,
    hdecode, hlen, hattestation, hpending, txHashesEqual, MAX_ATTESTATION_BYTES]
  rfl

structure Attests (E : Env) (msg : IrisMessage) : Prop where
  database : E.database = .answers
  iris : ∀ domain txHash, E.answer (.pollMessagesByTx domain txHash) = .ok (.complete msg)
  ready : E.answer .attestationVerifierReady = true
  verified : ∀ raw attestation, E.answer (.verifyAttestation raw attestation) = .ok ()

theorem Outlook.attests (w : Outlook) (msg : IrisMessage) :
    Attests (Outlook.env { w with iris := .complete msg }) msg :=
  ⟨rfl, fun _ _ => rfl, rfl, fun _ _ => rfl⟩

def attestedRow (now : Time) (e : CorridorMessageExpectations) (nonce : String) (t : CctpTransfer) :
    CctpTransfer :=
  applyPatch now .attestationReady
    { rawMessage := some (encodeMessage (messageFor e)), attestation := some [0]
      messageNonce := some nonce } t

variable {E : IrisMessage → Env}

theorem leads_attested {P : Env → Prop} (hE : ∀ msg, Attests (E msg) msg)
    (hnow : ∀ msg, (E msg).now = T) (hc : c.StrkeysShort)
    (hP : ∀ e txHash, buildCorridorExpectations c t = .ok e → P (E (irisMessage e txHash nonce)))
    (hs : Reached c cfg s) (ht : s.transfer id = some t) (hstatus : t.status = .awaitingAttestation)
    (htime : T ≤ t.updatedAt + seconds cfg.pollTimeoutSecs) (hn : FreshNonce s t nonce) :
    ∃ e, buildCorridorExpectations c t = .ok e ∧ Leads c cfg P s (s.put (attestedRow T e nonce t)) := by
  obtain ⟨Q, hevidence⟩ := hs.evidence ht
  obtain ⟨txHash, hsource⟩ := hevidence.burn (by rw [hstatus]; rfl)
  obtain ⟨facts, expected, -, hexpected, -⟩ := hevidence.burnVerified txHash hsource
  simp only [buildExpectedBurnFacts, bind_eq_ok] at hexpected
  obtain ⟨-, -, e, he, -⟩ := hexpected
  have hattests := hE (irisMessage e txHash nonce)
  rw [← hnow (irisMessage e txHash nonce)] at htime ⊢
  have hgoes := goes_poll_attested hattests.database ht cfg hs.indexed hstatus htime hsource
    (hattests.iris _ _) hattests.ready (checkIrisMessage_irisMessage hc he hsource)
    (hattests.verified _ _) hn.nonempty hn.len hn.fresh
  obtain ⟨_, rfl, hleads⟩ := leads_call (P := P) cfg (.poll id) rfl (hP e txHash he) hgoes
  exact ⟨e, he, hleads⟩

def attestedAlone (c : Codec) (nonce : String) (t : CctpTransfer) : State :=
  match buildCorridorExpectations c t with
  | .ok e => { transfers := [attestedRow 0 e nonce t], locks := [] }
  | .error _ => State.empty

theorem leads_attestedAlone {P : Env → Prop} (nonce : String)
    (hE : ∀ msg, Attests (E msg) msg) (hnow : ∀ msg, (E msg).now = 0) (hc : c.StrkeysShort)
    (hP : ∀ e txHash, e.Meetable → P (E (irisMessage e txHash nonce)))
    (hs : Reached c cfg { transfers := [t], locks := [] }) (hstatus : t.status = .awaitingAttestation)
    (htime : 0 ≤ t.updatedAt + seconds cfg.pollTimeoutSecs) (hnone : t.messageNonce = none)
    (hnonempty : nonce ≠ "") (hlen : byteLen nonce ≤ MAX_MESSAGE_NONCE_LEN) :
    ∃ e, buildCorridorExpectations c t = .ok e ∧ e.Meetable ∧
      Leads c cfg P { transfers := [t], locks := [] } (attestedAlone c nonce t) := by
  have ht : State.transfer { transfers := [t], locks := [] } t.transferId = some t := by
    simp [State.transfer, Table.find]
  have hn : FreshNonce { transfers := [t], locks := [] } t nonce := by
    refine ⟨hnonempty, hlen, fun u hu => ?_⟩
    rw [mem_singleton.mp hu, nonceKey, hnone]
    rintro ⟨⟩
  obtain ⟨e, he, hleads⟩ := leads_attested hE hnow hc
    (fun e txHash he => hP e txHash (meetable_of_build hc he)) hs ht hstatus htime hn
  refine ⟨e, he, meetable_of_build hc he, ?_⟩
  have hput : State.put { transfers := [t], locks := [] } (attestedRow 0 e nonce t) =
      attestedAlone c nonce t := by
    simp only [attestedAlone, he, State.put, Table.set, map_cons, map_nil]
    rw [if_pos (show t.transferId = (attestedRow 0 e nonce t).transferId from rfl)]
  rwa [hput] at hleads

variable (w : Outlook) (hs : Reached c cfg s) (ht : s.transfer id = some t)
include hs ht

theorem arrives_awaitingAttestation (hstatus : t.status = .attestationFailed)
    (hagain : Reattestable w.now t) (hn : FreshNonce s t nonce) (hmint : Mintable w.now s t) :
    ∃ s' t', Arrives c cfg w.now s id .awaitingAttestation s' t' ∧ t'.updatedAt = w.now ∧
      FreshNonce s' t' nonce ∧ Mintable w.now s' t' ∧
      ∀ bundle txHash, Offer c w.now s bundle txHash → Offer c w.now s' bundle txHash := by
  obtain ⟨P, hevidence⟩ := hs.evidence ht
  have hsource := Option.isSome_iff_exists.mpr (hevidence.burn (by rw [hstatus]; rfl))
  have hgoes := goes_reattest (c := c) (E := w.env) rfl ht hstatus hagain hsource fun _ _ => rfl
  obtain ⟨s', rfl, hleads⟩ :=
    leads_call (P := (·.now = w.now)) cfg (.reattest id) rfl rfl hgoes
  let t' := reattestedRow w.now t
  refine ⟨_, t', arrives_put t' hleads ht rfl rfl rfl, rfl, hn.put ht rfl rfl rfl, ?_,
    fun bundle txHash ho => ?_⟩
  · exact hmint.put rfl rfl rfl rfl fun row hrow => hrow
  · exact ho.put ht t' rfl rfl

theorem arrives_attestationFailed (hstatus : t.status = .awaitingAttestation)
    (htime : t.updatedAt + seconds cfg.pollTimeoutSecs < w.now) (hagain : Reattestable w.now t)
    (hn : FreshNonce s t nonce) (hmint : Mintable w.now s t) :
    ∃ s' t', Arrives c cfg w.now s id .attestationFailed s' t' ∧ Reattestable w.now t' ∧
      FreshNonce s' t' nonce ∧ Mintable w.now s' t' ∧
      ∀ bundle txHash, Offer c w.now s bundle txHash → Offer c w.now s' bundle txHash := by
  let t' := applyPatch w.now .attestationFailed
    { lastProviderError := some "attestation poll timeout", lastProviderCode := some "poll_timeout" } t
  have hgoes : Goes c (In w.env) (pollOneTransfer c cfg id) s fun _ s' =>
      s'.transfers = (s.put t').transfers ∧ ∀ row ∈ s'.locks, row ∈ s.locks := by
    apply goes_getTransfer ht (in_of rfl)
    rw [hstatus]
    refine goes_utcNow (in_of ?_)
    rw [if_pos (show _ < w.env.now from htime)]
    apply runs_bind
    rw [State.id_of_transfer ht]
    refine goes_transition ht (fun _ _ h => h ▸ rfl) (by rw [hstatus]; rfl) rfl ?_ ?_
    · exact fun now => hs.indexed.unique ht rfl rfl rfl rfl rfl rfl
    · rintro _ _ rfl
      exact goes_release fun s' htransfers hlocks => runs_pure ⟨htransfers, hlocks⟩
  obtain ⟨s', ⟨heq, hlocks⟩, hleads⟩ := leads_call (P := (·.now = w.now)) cfg (.poll id) rfl rfl hgoes
  refine ⟨s', t', arrives_put t' hleads ht heq rfl rfl,
    ⟨hagain.attempts, hagain.cooldown, hagain.lease⟩, hn.put ht rfl rfl heq, ?_,
    fun bundle txHash ho => ho.put ht t' heq rfl⟩
  exact hmint.put rfl rfl rfl rfl hlocks

theorem arrives_mintPrepared (hcfg : cfg.enabled ∧ cfg.configured)
    (hstatus : t.status = .attestationReady ∨ t.status = .mintFailedRetryable)
    (hmint : Mintable w.now s t) (hbundle : Acceptable c w.now w.bundle) :
    ∃ s' t', Arrives c cfg w.now s id .mintPrepared s' t' ∧
      Submittable w.now t' w.bundle.payloadHash ∧
      ∀ bundle txHash, Offer c w.now s bundle txHash → Offer c w.now s' bundle txHash := by
  have hgoes := goes_prepareMint (c := c) (E := w.env) rfl ht hs.indexed hcfg hstatus hmint.quote
    hmint.submitter rfl hbundle
  obtain ⟨s', heq, hleads⟩ := leads_call (P := (·.now = w.now)) cfg (.prepareMint id) rfl rfl
    (hgoes.mono fun _ _ h => h.2)
  let t' := mintPreparedRow w.now ((fromTimestamp w.bundle.expiresAt).getD w.now) w.bundle t
  refine ⟨s', t', arrives_put t' hleads ht heq rfl rfl, ?_, fun _ _ ho => ho.put ht t' heq rfl⟩
  refine ⟨fun exp hexp => ?_, rfl, hbundle.hash, hmint.destination⟩
  obtain rfl : (fromTimestamp w.bundle.expiresAt).getD w.now = exp := Option.some.inj hexp
  exact hbundle.expiry

theorem Reached.mintEvidence (hstatus : t.status = .mintPrepared)
    (hhash : t.mintPayloadHash = some payloadHash) : ∃ message attestation nonce, mintEvidence t = .ok (payloadHash, message, attestation, nonce) := by
  obtain ⟨P, hevidence⟩ := hs.evidence ht
  obtain ⟨message, attestation, nonce, hraw, hattestation, hnonce⟩ :=
    hevidence.message (by rw [hstatus]; rfl)
  refine ⟨message, attestation, nonce, ?_⟩
  simp [Cctp.mintEvidence, hhash, hraw, hattestation, hnonce, okOr, bind_eq_ok]

theorem arrives_mintSubmitted (hstatus : t.status = .mintPrepared)
    (hpayload : Submittable w.now t payloadHash) (hlen : byteLen txHash ≤ MAX_TX_HASH_LEN)
    (hfresh : ∀ u ∈ s.transfers, u.destinationTxHash ≠ some txHash) (hw : w.submission = .pending)
    (hw' : ∀ reason, w.completion ≠ .failedRetryable reason) :
    ∃ s' t', (Arrives c cfg w.now s id .mintSubmitted s' t' ∨
      Arrives c cfg w.now s id .completed s' t' ∧ w.completion = .succeeded) ∧
      ∀ u ∈ s'.transfers, u.destinationTxHash = some txHash ∨ u ∈ s.transfers := by
  obtain ⟨message, attestation, nonce, hmint⟩ := hs.mintEvidence ht hstatus hpayload.hash
  have haccepts : ∀ env s o, In w.env env s o → AcceptsMint txHash payloadHash env := by
    rintro _ _ _ rfl
    exact w.acceptsMint hpayload.nonempty hw hw'
  have hclock : ∀ env, In w.env env s .clock → ∀ exp, t.mintPayloadExpiresAt = some exp →
      env.now ≤ exp := by
    rintro _ rfl
    exact hpayload.valid
  have hgoes := goes_submit_accepted (c := c) haccepts ht hs.indexed hstatus hclock hmint
    hpayload.destination hlen hfresh
  obtain ⟨s', ⟨t', ht', hdone, hrows⟩, hleads⟩ :=
    leads_call (P := (·.now = w.now)) cfg (.submitMint id txHash) rfl rfl hgoes
  refine ⟨s', t', ?_, hrows⟩
  rcases hdone with hsubmitted | ⟨hdone, _, _, _, rfl, hanswer⟩
  · exact .inl ⟨hleads, ht', hsubmitted⟩
  · exact .inr ⟨⟨hleads, ht', hdone⟩, Except.ok.inj hanswer⟩

theorem Reached.mintSubmitted (hstatus : t.status = .mintSubmitted) : ∃ txHash message nonce,
    t.destinationTxHash = some txHash ∧ t.rawMessage = some message ∧ t.messageNonce = some nonce := by
  obtain ⟨P, hevidence⟩ := hs.evidence ht
  obtain ⟨txHash, hdestination⟩ := hevidence.mint (by rw [hstatus]; rfl)
  obtain ⟨message, -, nonce, hmessage, -, hnonce⟩ := hevidence.message (by rw [hstatus]; rfl)
  exact ⟨txHash, message, nonce, hdestination, hmessage, hnonce⟩

theorem arrives_completed (hstatus : t.status = .mintSubmitted) (hw : w.completion = .succeeded) :
    ∃ s' t', Arrives c cfg w.now s id .completed s' t' := by
  obtain ⟨txHash, message, nonce, hdestination, hmessage, hnonce⟩ := hs.mintSubmitted ht hstatus
  have hgoes := goes_poll_completed (c := c) (E := w.env) rfl ht cfg hs.indexed hstatus
    hdestination hmessage hnonce (congrArg Except.ok hw)
  obtain ⟨s', heq, hleads⟩ := leads_call (P := (·.now = w.now)) cfg (.poll id) rfl rfl hgoes
  exact ⟨s', _, arrives_put (applyPatch w.now .completed {} t) hleads ht heq rfl rfl⟩

end Stages

/-! ### A transfer of one USDC to Sepolia -/

def zeroAccount : String := "GAAAAAAAAAAAAAAAAAAAAAAAAAAAAAAAAAAAAAAAAAAAAAAAAAAAAWHF"

/-- Keys and hashes play no part in what happens to this transfer. -/
def plainCodec : Codec where
  accountFromString key := if key.toList.head? = some 'G' then some zero32 else none
  accountToString _ := zeroAccount
  muxedFromString _ := none
  muxedToString _ _ := ""
  contractFromString key := if key.toList.head? = some 'C' then some zero32 else none
  contractToString _ := STELLAR_USDC_CONTRACT
  envelopeFromXdr _ := .ok (.tx (.ed25519 zero32) [])
  transactionHash _ _ := zero32
  withoutSignatures xdr := xdr
  contractEventFromXdr _ := .error ""
  abiDepositForBurn _ := .error ""
  abiDepositForBurnWithHook _ := .error ""
  abiReceiveMessage _ := .error ""
  encodeReceiveMessage _ _ := []
  encodeUsedNonces _ := []
  depositForBurnLog _ _ := none
  messageReceivedLog _ _ := none
  walletPayloadJson _ := []
  burnBundleJsonLen _ := 1
  mintBundleJsonLen _ := 1
  sha256 _ := zero32

theorem strkeys_short :
    ∀ key ∈ [zeroAccount, "", STELLAR_USDC_CONTRACT, STELLAR_TOKEN_MESSENGER],
      key.toUTF8.toList.length ≤ 69 := by
  decide +kernel

theorem plainCodec_strkeysShort : plainCodec.StrkeysShort := by
  intro key
  cases key with
  | account key => exact strkeys_short zeroAccount (by simp)
  | muxed key id => exact strkeys_short "" (by simp)
  | contract id => exact strkeys_short STELLAR_USDC_CONTRACT (by simp)

def plainConfig : CctpConfig where
  enabled := true
  configured := true
  stellarNetworkPassphrase := ""
  amountCap := "100"
  quoteTtlSecs := 300
  pollTimeoutSecs := 600

def plainRequest : CctpQuoteRequest where
  corridorId := CCTP_TESTNET_CORRIDOR_ID
  provider := CCTP_PROVIDER_ID
  direction := .stellarToEvm
  sourceChainId := STELLAR_TESTNET_CHAIN_ID
  destinationChainId := SEPOLIA_CHAIN_ID
  sourceAsset := ⟨STELLAR_TESTNET_CHAIN_ID, STELLAR_TESTNET_USDC_ASSET, STELLAR_TESTNET_USDC_CANONICAL,
    none⟩
  destinationAsset := ⟨SEPOLIA_CHAIN_ID, SEPOLIA_USDC_ASSET, SEPOLIA_USDC_CANONICAL, none⟩
  amount := "1"
  recipient := "0x00000000000000000000000000000000000000aa"
  sender := some zeroAccount
  mintSubmitter := none
  finality := .standard

def plainBundle : PreparedMintBundle where
  step := .mint
  trustlineRequired := false
  primary := .evmTransaction SEPOLIA_CHAIN_ID SEPOLIA_MESSAGE_TRANSMITTER "0x57ecfd28" "0"
  expiresAt := 1000
  payloadHash := hexEncode zero32.bytes

/-- The hash of a Stellar transaction. -/
def plainBurnHash : String := "00000000000000000000000000000000000000000000000000000000000000b1"

/-- The facts of the burn; the default is never used. -/
def plainFacts : Except VerifierError VerifiedBurnFacts :=
  (buildExpectedBurnFacts plainCodec (quotedRow plainConfig plainRequest 0 "" "1" 0)
    plainBurnHash).mapError fun _ => .notReady

/-- The record of the transfer once its burn is verified at the time 0. -/
def plainRow : CctpTransfer := awaitingRow plainConfig plainRequest 0 "" "1" plainBurnHash 0

/-- The world at the time 0. -/
def plainOutlook (submission completion : MintVerifyOutcome) : Outlook where
  now := 0
  newId := 0
  burn := plainFacts
  iris := .pending
  burnBundle := .error .notReady
  bundle := plainBundle
  submission := submission
  completion := completion

theorem plainBundle_acceptable : Acceptable plainCodec 0 plainBundle where
  mint := rfl
  hash := by decide
  hashLen := by decide
  json := by decide
  jsonLen := by decide
  expiry := by decide

/-- Call number `i` comes at the time 0 and is carried out. -/
def plainCall (i : ℕ) (call : Call) : List (Choice Env Call) :=
  .spawn call :: List.replicate 10 (.step i (plainOutlook .pending .succeeded).env)

/-- The transfer is quoted, prepared and burned. -/
def plainBurn : List (Choice Env Call) :=
  plainCall 0 (.quote plainRequest "") ++ plainCall 1 (.prepareBurn 0) ++
    plainCall 2 (.submitBurn 0 plainBurnHash)

theorem plain_burned :
    (serve plainCodec plainConfig plainBurn).state = { transfers := [plainRow], locks := [] } ∧
      (serve plainCodec plainConfig plainBurn).AtRest := by
  decide +kernel

theorem plain_reached : Reached plainCodec plainConfig { transfers := [plainRow], locks := [] } :=
  ⟨plainBurn, plain_burned.1⟩

end StellarRoute.Cctp
