import StellarRoute.Cctp.Proofs.Burns

/-! A genuine burn and the spellings in which it is reported. Validation
accepts a sender and a hash in several spellings and stores them as they came;
the verifiers report one spelling, and the comparison is letter by letter. -/

namespace StellarRoute.Cctp

open Lib Lib.Interleave

/-! ### Genuine burns -/

/-- On Sepolia: one confirmed transaction of the quoted sender called the token messenger, and the
one burn it made is the quoted one. The node reports the addresses in lower case. -/
structure EvmBurn (c : Codec) (node : EvmNode) (t : CctpTransfer) (txHash : String)
    (quoted : CorridorMessageExpectations) (sender : EvmAddress) (input : String)
    (call : DecodedBurnCall) (receipt : EthReceipt) (event : DepositForBurn) : Prop where
  expectations : buildCorridorExpectations c t = .ok quoted
  sender_eq : parseEvmAddress t.sender = some sender
  transaction : node.getTransactionByHash (normalizeHash txHash) =
    .ok ⟨some sender.format, some sepoliaTokenMessenger.format, some input⟩
  calldata : decodeCalldata c input = .ok call
  receipt_eq : node.getTransactionReceipt (normalizeHash txHash) = .ok receipt
  succeeded : receipt.status = some "0x1"
  chain : ensureChain node = .ok ()
  confirmed : confirmationsOk node receipt = .ok ()
  burn : decodeLogs c.depositForBurnLog sepoliaTokenMessenger (receipt.logs.getD []) = [event]
  same : calldataMatchesEvent call event
  amount : event.amount = quoted.amountCctpSubunits
  domain : event.destinationDomain = STELLAR_TESTNET_DOMAIN
  burnToken : leftPad event.burnToken = quoted.burnToken
  mintRecipient : event.mintRecipient = quoted.mintRecipient
  destinationCaller : event.destinationCaller = quoted.destinationCaller
  finality : event.minFinalityThreshold = corridorMinFinality t.finality
  hook : nonemptyHook event.hookData = quoted.hookData

/-- On Stellar: one finalized transaction of the quoted sender called the token messenger, and the
one burn and the one message it made are the quoted ones. -/
structure StellarBurn (c : Codec) (cfg : CctpConfig) (node : StellarNode) (t : CctpTransfer)
    (txHash : String) (quoted : CorridorMessageExpectations) (sender : Bytes32) (tx : FinalizedTx)
    (invoke : ParsedInvoke) (call : DecodedBurnInvoke) (tokenMessenger messageTransmitter : Bytes32)
    (event : DepositForBurnEvent) (raw : Bytes) (message : ParsedCctpMessage) : Prop where
  expectations : buildCorridorExpectations c t = .ok quoted
  sender_eq : c.accountFromString (trim t.sender) = some sender
  transaction : finalizedTransaction c cfg node (normalizeTxHash txHash) = .ok tx
  succeeded : tx.status = .success
  invocation : parseInvokeEnvelope c tx.envelopeXdr = .ok invoke
  target : invoke.contractStrkey = STELLAR_TOKEN_MESSENGER
  decoded : decodeBurnInvoke c invoke = .ok call
  source : invoke.operationSource = c.accountToString sender
  caller : call.caller = c.accountToString sender
  tokenMessenger_eq : stellarContractToBytes32 c STELLAR_TOKEN_MESSENGER = .ok tokenMessenger
  messageTransmitter_eq :
    stellarContractToBytes32 c STELLAR_MESSAGE_TRANSMITTER = .ok messageTransmitter
  events : findBurnEvents tx.contractEvents tokenMessenger messageTransmitter = .ok (event, raw)
  same : invokeMatchesEvent c call event
  parsed : parseCctpV2Message raw = .ok message
  messageAmount : message.body.amount = asU128 event.amount
  messageRecipient : message.body.mintRecipient = event.mintRecipient
  messageSource : message.sourceDomain = STELLAR_TESTNET_DOMAIN
  messageDomain : message.destinationDomain = event.destinationDomain
  messenger : event.destinationTokenMessenger = message.recipient
  localAmount : stellarLocalToCanonicalAmount call.localAmount = .ok event.amount
  amount : asU128 event.amount = quoted.amountCctpSubunits
  domain : event.destinationDomain = SEPOLIA_DOMAIN
  burnToken : stellarContractToBytes32 c call.burnToken = .ok quoted.burnToken
  mintRecipient : event.mintRecipient = quoted.mintRecipient
  destinationCaller : event.destinationCaller = quoted.destinationCaller
  finality : event.minFinalityThreshold = corridorMinFinality t.finality
  hook : nonemptyHook event.hookData = quoted.hookData

/-- The hash denotes a confirmed burn as it was quoted to `t`, by the quoted sender. -/
def GenuineBurn (c : Codec) (cfg : CctpConfig) (w : Chains) (t : CctpTransfer) (txHash : String) :
    Prop :=
  match t.direction with
  | .stellarToEvm => ∃ quoted sender tx invoke call tokenMessenger messageTransmitter event raw message,
      StellarBurn c cfg w.stellar t txHash quoted sender tx invoke call tokenMessenger
        messageTransmitter event raw message
  | .evmToStellar => ∃ quoted sender input call receipt event,
      EvmBurn c w.evm t txHash quoted sender input call receipt event

/-- The spelling in which the verifier reports the quoted sender. -/
def reportedSender (c : Codec) (t : CctpTransfer) : Option String :=
  match t.direction with
  | .stellarToEvm => (c.accountFromString (trim t.sender)).map c.accountToString
  | .evmToStellar => (parseEvmAddress t.sender).map EvmAddress.format

/-! ### What the service makes of them -/

section Accept

variable {c : Codec} {cfg : CctpConfig} {t : CctpTransfer} {txHash : String}

/-- The verifier vouches for the hash, and its facts are the expected ones. -/
def Vouched (c : Codec) (cfg : CctpConfig) (w : Chains) (t : CctpTransfer) (txHash : String) :
    Prop :=
  ∃ facts expected, w.verifyBurn c cfg t.direction txHash = .ok facts ∧
    buildExpectedBurnFacts c t txHash = .ok expected ∧ factsMatch expected facts = .ok ()

theorem Vouched.canonical {w : Chains} (h : Vouched c cfg w t txHash) :
    canonicalHash t.direction txHash = txHash := by
  obtain ⟨facts, expected, hfacts, hexpected, hmatch⟩ := h
  rw [← verifyBurn_txHash hfacts]
  exact (factsMatch_txHash hmatch).symm.trans (buildExpectedBurnFacts_txHash hexpected)

example : canonicalHash .evmToStellar "0XAB" = "0xab" := by decide

theorem evmTokenMessenger_bytes32 :
    evmAddressToBytes32 SEPOLIA_TOKEN_MESSENGER = .ok (leftPad sepoliaTokenMessenger) := by
  rfl

/-- The facts about a burn with the quoted terms. -/
def quotedFacts (t : CctpTransfer) (quoted : CorridorMessageExpectations) (txHash sender : String)
    (tokenMessenger : Bytes32) (blockOrLedger : Option String) : VerifiedBurnFacts where
  txHash := txHash
  sourceChainId := (sourceChain t.direction).1
  sourceDomain := (sourceChain t.direction).2.1
  destinationDomain := (sourceChain t.direction).2.2
  sender := sender
  amountCctpSubunits := quoted.amountCctpSubunits
  burnToken := quoted.burnToken
  mintRecipient := quoted.mintRecipient
  destinationCaller := quoted.destinationCaller
  minFinalityThreshold := corridorMinFinality t.finality
  hookData := quoted.hookData
  tokenMessenger := tokenMessenger
  blockOrLedger := blockOrLedger

variable {quoted : CorridorMessageExpectations}

theorem buildCorridorExpectations_amount (h : buildCorridorExpectations c t = .ok quoted) :
    amountCctpSubunits t = .ok quoted.amountCctpSubunits := by
  simp only [buildCorridorExpectations, bind_eq_ok] at h
  obtain ⟨amount, hamount, h⟩ := h
  split at h
  · simp only [bind_eq_ok, pure_eq_ok] at h
    obtain ⟨_, -, _, -, _, -, _, -, _, -, rfl⟩ := h
    exact hamount
  · simp only [bind_eq_ok, pure_eq_ok] at h
    obtain ⟨_, -, _, -, _, -, _, -, _, -, _, -, rfl⟩ := h
    exact hamount

/-- The messenger that the facts about a burn of this direction name. -/
def TokenMessenger (c : Codec) (direction : CctpDirection) (messenger : Bytes32) : Prop :=
  match direction with
  | .stellarToEvm => stellarContractToBytes32 c STELLAR_TOKEN_MESSENGER = .ok messenger
  | .evmToStellar => messenger = leftPad sepoliaTokenMessenger

variable {messenger : Bytes32} {sender : String}

theorem buildExpectedBurnFacts_quoted (txHash : String)
    (h : buildCorridorExpectations c t = .ok quoted) (hm : TokenMessenger c t.direction messenger) :
    buildExpectedBurnFacts c t txHash = .ok (quotedFacts t quoted txHash t.sender messenger none) := by
  have hamount := buildCorridorExpectations_amount h
  unfold TokenMessenger at hm
  cases hd : t.direction with
  | stellarToEvm =>
    rw [hd] at hm
    simp [buildExpectedBurnFacts, quotedFacts, hamount, h, hd, hm, expect, Except.mapError]
    rfl
  | evmToStellar =>
    rw [hd] at hm
    subst hm
    simp [buildExpectedBurnFacts, quotedFacts, hamount, h, hd, evmTokenMessenger_bytes32, expect,
      Except.mapError]
    rfl

theorem factsMatch_quoted {txHash' : String} {block : Option String} :
    factsMatch (quotedFacts t quoted txHash t.sender messenger none)
      (quotedFacts t quoted txHash' sender messenger block) = .ok () ↔
      txHash' = txHash ∧ sender = t.sender := by
  rw [factsMatch_eq_ok]
  simp only [quotedFacts, VerifiedBurnFacts.mk.injEq, true_and, and_true]
  exact ⟨fun h => ⟨h.1.symm, h.2.symm⟩, fun h => ⟨h.1.symm, h.2.symm⟩⟩

theorem EvmBurn.verifyBurn {node : EvmNode} {sender : EvmAddress} {input : String}
    {call : DecodedBurnCall} {receipt : EthReceipt} {event : DepositForBurn}
    (hdirection : t.direction = .evmToStellar)
    (h : EvmBurn c node t txHash quoted sender input call receipt event) :
    evmVerifyBurn c true node txHash = .ok (quotedFacts t quoted (normalizeHash txHash)
      sender.format (leftPad sepoliaTokenMessenger) receipt.blockNumber) := by
  have hamount : event.amount < 2 ^ 128 := by
    rw [h.amount]
    exact amountCctpSubunits_lt (buildCorridorExpectations_amount h.expectations)
  simp only [evmVerifyBurn, bind_eq_ok, require_eq_ok, okOr_eq_ok, exists_const]
  refine ⟨trivial, _, h.transaction, _, h.receipt_eq, h.succeeded, _, rfl, _, rfl,
    by decide, _, rfl, _, h.calldata, (), h.chain, (), h.confirmed, ?_⟩
  rw [h.burn]
  simp only [bind_eq_ok, require_eq_ok, pure_eq_ok, exists_const]
  refine ⟨h.same, ?_⟩
  rw [if_pos hamount, h.amount, h.domain, h.burnToken, h.mintRecipient, h.destinationCaller,
    h.finality, h.hook, quotedFacts, hdirection]
  rfl

theorem StellarBurn.verifyBurn {node : StellarNode} {sender : Bytes32} {tx : FinalizedTx}
    {invoke : ParsedInvoke} {call : DecodedBurnInvoke} {tokenMessenger messageTransmitter : Bytes32}
    {event : DepositForBurnEvent} {raw : Bytes} {message : ParsedCctpMessage}
    (hdirection : t.direction = .stellarToEvm) (h : StellarBurn c cfg node t txHash quoted sender tx
      invoke call tokenMessenger messageTransmitter event raw message) :
    stellarVerifyBurn c cfg true node (normalizeTxHash txHash) = .ok (quotedFacts t quoted tx.txHash
      (c.accountToString sender) tokenMessenger (some (toString tx.ledger))) := by
  simp only [stellarVerifyBurn, bind_eq_ok, require_eq_ok, pure_eq_ok, mapError_eq_ok, encodingFailed,
    exists_const]
  refine ⟨trivial, _, h.transaction, h.succeeded, _, h.invocation, h.target, _, h.decoded,
    h.caller.trans h.source.symm, _, h.tokenMessenger_eq, _, h.messageTransmitter_eq, _, h.events,
    h.same, _, h.parsed, h.messageAmount, h.messageRecipient, h.messageDomain, h.messenger, _,
    h.localAmount, rfl, _, h.burnToken, ?_⟩
  rw [h.messageSource, h.amount, h.domain, h.mintRecipient, h.destinationCaller, h.finality, h.hook,
    h.caller, quotedFacts, hdirection]
  rfl

/-- A burn whose facts are the quoted ones is vouched for in one spelling of its hash and of its
sender. -/
theorem vouched_iff_of_facts {w : Chains} (messenger : Bytes32)
    (block : Option String) (hquoted : buildCorridorExpectations c t = .ok quoted)
    (hmessenger : TokenMessenger c t.direction messenger) (hverify : canonicalHash t.direction
      txHash = txHash → w.verifyBurn c cfg t.direction txHash = .ok (quotedFacts t quoted txHash
      sender messenger block)) : Vouched c cfg w t txHash ↔
      canonicalHash t.direction txHash = txHash ∧ sender = t.sender := by
  have hexpected := buildExpectedBurnFacts_quoted txHash hquoted hmessenger
  constructor
  · rintro ⟨facts, expected, hfacts, hexpected', hmatch⟩
    rw [hexpected] at hexpected'
    cases hexpected'
    have hcanonical : canonicalHash t.direction txHash = txHash :=
      Vouched.canonical ⟨facts, _, hfacts, hexpected, hmatch⟩
    rw [hverify hcanonical] at hfacts
    cases hfacts
    exact ⟨hcanonical, (factsMatch_quoted.mp hmatch).2⟩
  · rintro ⟨hcanonical, hsender⟩
    exact ⟨_, _, hverify hcanonical, hexpected, factsMatch_quoted.mpr ⟨rfl, hsender⟩⟩

theorem GenuineBurn.vouched_iff {w : Chains} (h : GenuineBurn c cfg w t txHash)
    (hready : w.burnReady t.direction = true) :
    Vouched c cfg w t txHash ↔
      canonicalHash t.direction txHash = txHash ∧ reportedSender c t = some t.sender := by
  unfold GenuineBurn at h
  cases hd : t.direction with
  | stellarToEvm =>
    rw [hd] at h hready
    obtain ⟨quoted, sender, tx, invoke, call, tokenMessenger, messageTransmitter, event, raw, message,
      h⟩ := h
    have hsender : reportedSender c t = some (c.accountToString sender) := by
      rw [reportedSender, hd]
      exact congrArg (Option.map c.accountToString) h.sender_eq
    rw [hsender, Option.some.injEq, ← hd]
    refine vouched_iff_of_facts tokenMessenger (some (toString tx.ledger)) h.expectations ?_
      fun hcanonical => ?_
    · rw [hd]
      exact h.tokenMessenger_eq
    · rw [hd] at hcanonical ⊢
      have hnormal : normalizeTxHash txHash = txHash := hcanonical
      have hhash : tx.txHash = txHash := by
        rw [finalizedTransaction_txHash h.transaction, hnormal, hnormal]
      have hfacts := h.verifyBurn hd
      rw [hnormal, hhash] at hfacts
      rw [Chains.verifyBurn, hready]
      exact hfacts
  | evmToStellar =>
    rw [hd] at h hready
    obtain ⟨quoted, sender, input, call, receipt, event, h⟩ := h
    have hsender : reportedSender c t = some sender.format := by
      rw [reportedSender, hd]
      exact congrArg (Option.map EvmAddress.format) h.sender_eq
    rw [hsender, Option.some.injEq, ← hd]
    refine vouched_iff_of_facts (leftPad sepoliaTokenMessenger) receipt.blockNumber h.expectations ?_
      fun hcanonical => ?_
    · rw [hd]
      rfl
    · rw [hd] at hcanonical ⊢
      have hnormal : normalizeHash txHash = txHash := hcanonical
      have hfacts := h.verifyBurn hd
      rw [hnormal] at hfacts
      rw [Chains.verifyBurn, hready]
      exact hfacts

end Accept

/-! ### The submission -/

section Submission

variable {c : Codec} {cfg : CctpConfig} {s : State} {t : CctpTransfer} {id : Uuid} {E : Env}
  {w : Chains} {txHash : String}

theorem byteLen_of_canonical (hvalid : isValidTxHash txHash)
    (hcanonical : canonicalHash t.direction txHash = txHash) : byteLen txHash ≤ MAX_TX_HASH_LEN := by
  have hlen : byteLen (normalizeTxHash txHash) = 64 := by
    simp only [isValidTxHash, Bool.and_eq_true, decide_eq_true_eq] at hvalid
    exact (byteLen_toAsciiLowercase _).trans hvalid.1
  rw [← hcanonical, MAX_TX_HASH_LEN]
  cases t.direction with
  | stellarToEvm => exact hlen.le.trans (by decide)
  | evmToStellar =>
    change byteLen ("0x" ++ normalizeTxHash txHash) ≤ 66
    rw [byteLen_append, hlen]
    decide

variable (ht : s.transfer id = some t) (hstatus : t.status = .burnPrepared)
  (hquote : E.now ≤ t.quoteExpiresAt) (hfee : ∀ exp, t.feeExpiresAt = some exp → E.now ≤ exp)
  (hdb : E.database = .answers) (hasks : E.Asks c cfg w) (hready : w.burnReady t.direction = true)

include ht hstatus hquote hfee hdb hasks hready

theorem yields_recordBurnSubmission :
    Yields c (In E) (recordBurnSubmission c id txHash) s fun _ _ =>
      Vouched c cfg w t txHash ∧
        ∀ u ∈ s.transfers, u.sourceTxHash = some txHash → u.transferId = id := by
  refine goes_getTransfer ht (in_of hdb) ?_
  refine goes_ensure hstatus ?_
  refine goes_ensureQuoteNotExpired (in_of hquote) ?_
  refine goes_ensureFeeNotExpired (in_of hfee) ?_
  refine goes_ready (in_of ((hasks.burnReady _).trans hready)) ?_
  refine yields_ask (in_of ?_)
  refine yields_checked fun facts hfacts => ?_
  refine yields_checked fun expected hexpected => ?_
  refine yields_checked fun _ hmatch => ?_
  rw [mapError_eq_ok] at hfacts hexpected hmatch
  have hvouched : Vouched c cfg w t txHash :=
    ⟨facts, expected, (hasks.verifyBurn _ _).symm.trans hfacts, hexpected, hmatch⟩
  refine yields_bind (R := fun _ _ => Vouched c cfg w t txHash ∧
    ∀ u ∈ s.transfers, u.sourceTxHash = some txHash → u.transferId = id) ?_ fun awaiting s' h => ?_
  · refine yields_store fun env _ r hr => ⟨hvouched, fun u hu husource => ?_⟩
    obtain ⟨t0, ht0, ⟨-, -, hunique, rfl⟩, -⟩ := verifiedBurn_eq_ok.mp (StoreOp.exec_eq_ok hr)
    obtain ⟨hsource, -⟩ := checkUnique_eq_ok.mp hunique
    rw [State.taken_eq_false] at hsource
    have hid : t0.transferId = id := State.id_of_transfer ht0
    exact (hsource u hu txHash rfl husource).trans hid
  · exact goes_release fun _ _ _ => yields_pure h

theorem vouched_of_accepted {s' : State} {reply : Reply} {L : List (Event Env State Op)}
    (hends : Ends (exec c) (start c cfg (.submitBurn id txHash)) s L (.ok reply) s')
    (henv : ∀ e ∈ L, e.env = E) : Vouched c cfg w t txHash ∧
      ∀ u ∈ s.transfers, u.sourceTxHash = some txHash → u.transferId = id := by
  have hcall : Yields c (In E) (Call.program c cfg (.submitBurn id txHash)) s fun _ _ => _ :=
    yields_bind (yields_recordBurnSubmission ht hstatus hquote hfee hdb hasks hready)
      fun _ _ h => yields_pure h
  exact hcall.alone.ends hends (fun e he => (henv e he).symm) reply rfl

end Submission

/-- A genuine burn that no other transfer has is accepted exactly if its hash and the sender of the
quote are spelled as the verifier reports them. -/
theorem genuine_burn_accepted_iff {c : Codec} {cfg : CctpConfig} {s s' : State} {t : CctpTransfer}
    {id : Uuid} {E : Env} {w : Chains} {txHash : String} {out : Outcome}
    {L : List (Event Env State Op)} (hs : Reached c cfg s) (ht : s.transfer id = some t)
    (hstatus : t.status = .burnPrepared) (hvalid : isValidTxHash txHash)
    (hquote : E.now ≤ t.quoteExpiresAt) (hfee : ∀ exp, t.feeExpiresAt = some exp → E.now ≤ exp)
    (hdb : E.database = .answers) (hasks : E.Asks c cfg w) (hready : w.burnReady t.direction = true)
    (hgenuine : GenuineBurn c cfg w t txHash)
    (hends : Ends (exec c) (start c cfg (.submitBurn id txHash)) s L out s')
    (henv : ∀ e ∈ L, e.env = E) :
    (∃ reply, out = .ok reply) ↔
      (canonicalHash t.direction txHash = txHash ∧ reportedSender c t = some t.sender) ∧
        ∀ u ∈ s.transfers, u.sourceTxHash = some txHash → u.transferId = id := by
  -- a submission succeeds exactly if the verifier vouches for it and no other transfer has it
  rw [← hgenuine.vouched_iff hready]
  constructor
  · rintro ⟨reply, rfl⟩
    exact vouched_of_accepted ht hstatus hquote hfee hdb hasks hready hends henv
  · rintro ⟨hvouched, hfree⟩
    have hlen := byteLen_of_canonical hvalid hvouched.canonical
    obtain ⟨facts, expected, hfacts, hexpected, hmatch⟩ := hvouched
    have hgoes := goes_recordBurnSubmission (c := c) hdb ht hs.indexed hstatus hquote hfee
      ((hasks.burnReady _).trans hready) ((hasks.verifyBurn _ _).trans hfacts) hexpected hmatch hlen
      hfree
    have hcall : Goes c (In E) (Call.program c cfg (.submitBurn id txHash)) s
        fun r _ => ∃ reply, r = .ok reply := by
      refine runs_bind (hgoes.mono ?_)
      rintro _ s' ⟨rfl, -⟩
      exact runs_pure ⟨_, rfl⟩
    exact hcall.alone.ends hends fun e he => (henv e he).symm

/-! ### One USDC from Sepolia -/

/-- The same sender in capital letters, as in a checksummed address. -/
def capitalRequest : CctpQuoteRequest :=
  { inboundRequest with sender := some "0x00000000000000000000000000000000000000BB" }

def inboundQuoted : CorridorMessageExpectations where
  sourceDomain := SEPOLIA_DOMAIN
  destinationDomain := STELLAR_TESTNET_DOMAIN
  headerRecipient := zero32
  headerSender := leftPad sepoliaTokenMessenger
  burnToken := leftPad sepoliaUsdc
  mintRecipient := zero32
  destinationCaller := zero32
  amountCctpSubunits := 1000000
  minFinality := FINALITY_STANDARD
  bodyMessageSender := leftPad inboundEvent.depositor
  hookData := some inboundHook
  hookDataRequiredEmpty := false

def preparedBurn (request : CctpQuoteRequest) : List (Choice Env Call) :=
  carriedOut 0 0 (.quote request "") ++ carriedOut 0 1 (.prepareBurn 0)

def preparedBurnRow (request : CctpQuoteRequest) : CctpTransfer :=
  applyPatch 0 .burnPrepared {} (quotedRow plainConfig request 0 "" "1.0000000" 0)

theorem inbound_genuine {t : CctpTransfer} (hdirection : t.direction = .evmToStellar)
    (hfinality : t.finality = .standard) (txHash : String)
    (hexpectations : buildCorridorExpectations burnCodec t = .ok inboundQuoted)
    (hsender : parseEvmAddress t.sender = some inboundEvent.depositor) :
    GenuineBurn burnCodec plainConfig plainChains t txHash := by
  rw [GenuineBurn, hdirection]
  refine ⟨inboundQuoted, inboundEvent.depositor, "0x779b432d", inboundCall.decoded (some inboundHook),
    ⟨some "0x1", some [⟨sepoliaTokenMessenger.format, [hexEncode zero32.bytes], "0x"⟩], some "0x1"⟩,
    inboundEvent, ?_⟩
  constructor
  case expectations => exact hexpectations
  case sender_eq => exact hsender
  case finality =>
    rw [hfinality]
    rfl
  all_goals first | rfl | decide +kernel

/-- In lower case the burn is accepted. -/
theorem genuine_burn_accepted_lowercase : ∃ L reply s',
    Ends (exec burnCodec) (start burnCodec plainConfig (.submitBurn 0 ("0x" ++ zeroHash)))
      (serve burnCodec plainConfig (preparedBurn inboundRequest)).state L (.ok reply) s' := by
  have ht : (serve burnCodec plainConfig (preparedBurn inboundRequest)).state.transfer 0 =
      some (preparedBurnRow inboundRequest) := by decide +kernel
  have hgenuine : GenuineBurn burnCodec plainConfig plainChains (preparedBurnRow inboundRequest)
      ("0x" ++ zeroHash) := inbound_genuine rfl rfl _ (by decide +kernel) (by decide +kernel)
  obtain ⟨L, hends, henv⟩ := exists_ends (exec burnCodec) (burnWorld 0)
    (start burnCodec plainConfig (.submitBurn 0 ("0x" ++ zeroHash)))
    (serve burnCodec plainConfig (preparedBurn inboundRequest)).state
  obtain ⟨reply, hreply⟩ := (genuine_burn_accepted_iff ⟨_, rfl⟩ ht rfl (by decide +kernel) (by decide)
    (by rintro _ ⟨⟩; decide) rfl (Chains.wire_asks _ _ _ _) rfl hgenuine hends henv).mpr
    ⟨⟨by decide +kernel, by decide +kernel⟩, by decide +kernel⟩
  rw [hreply] at hends
  exact ⟨L, reply, _, hends⟩

/-- The sender was quoted in capital letters; the same burn is refused. -/
theorem capital_sender_refused : ∃ t L e s',
    capitalRequest.validate burnCodec = .ok () ∧
    (serve burnCodec plainConfig (preparedBurn capitalRequest)).state.transfer 0 = some t ∧
    t.sender = "0x00000000000000000000000000000000000000BB" ∧ t.status = .burnPrepared ∧
    (burnWorld 0).now ≤ t.quoteExpiresAt ∧ isValidTxHash ("0x" ++ zeroHash) ∧
    GenuineBurn burnCodec plainConfig plainChains t ("0x" ++ zeroHash) ∧
    Ends (exec burnCodec) (start burnCodec plainConfig (.submitBurn 0 ("0x" ++ zeroHash)))
      (serve burnCodec plainConfig (preparedBurn capitalRequest)).state L (.error e) s' ∧
    ∀ e ∈ L, e.env = burnWorld 0 := by
  have ht : (serve burnCodec plainConfig (preparedBurn capitalRequest)).state.transfer 0 =
      some (preparedBurnRow capitalRequest) := by decide +kernel
  have hgenuine : GenuineBurn burnCodec plainConfig plainChains (preparedBurnRow capitalRequest)
      ("0x" ++ zeroHash) := inbound_genuine rfl rfl _ (by decide +kernel) (by decide +kernel)
  obtain ⟨L, hends, henv⟩ := exists_ends (exec burnCodec) (burnWorld 0)
    (start burnCodec plainConfig (.submitBurn 0 ("0x" ++ zeroHash)))
    (serve burnCodec plainConfig (preparedBurn capitalRequest)).state
  generalize Prod.fst _ = out at hends
  cases out with
  | error e =>
    exact ⟨_, L, e, _, by decide +kernel, ht, rfl, rfl, by decide, by decide +kernel, hgenuine, hends,
      henv⟩
  | ok reply =>
    obtain ⟨hvouched, -⟩ := vouched_of_accepted ht rfl (by decide) (by rintro _ ⟨⟩; decide) rfl
      (Chains.wire_asks _ _ _ _) rfl hends henv
    exact absurd ((hgenuine.vouched_iff rfl).mp hvouched).2 (by decide +kernel)

end StellarRoute.Cctp
