import StellarRoute.Cctp.Spec.Verifiers
import StellarRoute.Cctp.Sanity.Journey

/-! Burns under the production verifiers. A verifier reports the hash of the
transaction in one spelling, and the service compares it with the hash that the
client sent. -/

namespace StellarRoute.Cctp

open Lib Lib.Interleave List

/-! ### The hash that a verifier reports -/

/-- The spelling of a transaction hash in the facts about a burn. -/
def canonicalHash : CctpDirection → String → String
  | .stellarToEvm, txHash => normalizeTxHash txHash
  | .evmToStellar, txHash => normalizeHash txHash

section Hashes

variable {c : Codec} {cfg : CctpConfig} {txHash : String} {facts : VerifiedBurnFacts}
  {node : StellarNode} {tx : FinalizedTx} {ready : Bool} {direction : CctpDirection}
  {t : CctpTransfer}

/-- The answer of `getTransaction` is only taken for the hash of its own envelope. -/
theorem finalizedTransaction_found (h : finalizedTransaction c cfg node txHash = .ok tx) :
    ∃ result, node.getTransaction (normalizeTxHash txHash) = .ok result ∧
      (tx.status = .failed → result.status = "FAILED") ∧ tx.txHash = normalizeTxHash txHash := by
  simp only [finalizedTransaction, getFinalizedTransaction, bind_eq_ok] at h
  obtain ⟨normalized, hnormalized, result, hresult, h⟩ := h
  simp only [normalizeStellarTxHash, bind_eq_ok, pure_eq_ok] at hnormalized
  obtain ⟨-, -, -, -, (rfl : normalizeTxHash txHash = normalized)⟩ := hnormalized
  refine ⟨result, hresult, ?_⟩
  -- whatever the status, the returned hash and the ledgers are, the computed hash is compared
  cases hreturned : result.txHash <;> cases hlatest : result.latestLedger <;>
    simp only [hreturned, hlatest] at h <;> split at h <;>
    simp only [bind_eq_ok, require_eq_ok, pure_eq_ok] at h <;> grind

theorem finalizedTransaction_txHash
    (h : finalizedTransaction c cfg node txHash = .ok tx) : tx.txHash = normalizeTxHash txHash := by
  obtain ⟨result, -, -, hhash⟩ := finalizedTransaction_found h
  exact hhash

theorem evmVerifyBurn_txHash {node : EvmNode}
    (h : evmVerifyBurn c ready node txHash = .ok facts) : facts.txHash = normalizeHash txHash := by
  simp only [evmVerifyBurn, bind_eq_ok] at h
  obtain ⟨-, -, tx, -, receipt, -, -, -, sender, -, target, -, -, -, input, -, call, -, -, -, -, -,
      h⟩ := h
  split at h
  · simp only [bind_eq_ok, pure_eq_ok] at h
    obtain ⟨-, -, rfl⟩ := h
    rfl
  · cases h

theorem stellarVerifyBurn_txHash (h : stellarVerifyBurn c cfg ready node txHash = .ok facts) :
    facts.txHash = normalizeTxHash txHash := by
  simp only [stellarVerifyBurn, bind_eq_ok, pure_eq_ok] at h
  obtain ⟨-, -, tx, htx, -, -, invoke, -, -, -, call, -, -, -, tmHash, -, mtHash, -,
    ⟨event, rawMessage⟩, -, -, -, parsed, -, -, -, -, -, -, -, -, -, canonical, -, -, -, burnToken, -,
    rfl⟩ := h
  exact finalizedTransaction_txHash htx

theorem verifyBurn_txHash {w : Chains} (h : w.verifyBurn c cfg direction txHash = .ok facts) :
    facts.txHash = canonicalHash direction txHash := by
  cases direction with
  | stellarToEvm => exact stellarVerifyBurn_txHash h
  | evmToStellar => exact evmVerifyBurn_txHash h

theorem buildExpectedBurnFacts_txHash
    (h : buildExpectedBurnFacts c t txHash = .ok facts) : facts.txHash = txHash := by
  simp only [buildExpectedBurnFacts, bind_eq_ok] at h
  obtain ⟨amount, -, expectations, -, h⟩ := h
  split at h <;> simp only [bind_eq_ok, pure_eq_ok] at h <;> obtain ⟨_, -, rfl⟩ := h <;> rfl

theorem factsMatch_txHash {expected : VerifiedBurnFacts} {u : Unit}
    (h : factsMatch expected facts = .ok u) : expected.txHash = facts.txHash := by
  have hsame := congrArg VerifiedBurnFacts.txHash (factsMatch_eq_ok.mp h)
  exact hsame

/-- So only the canonical spelling passes the comparison. -/
theorem BurnVerified.canonical {P : Event Env State Op → Prop}
    (h : BurnVerified c P t txHash) (hP : ∀ e, P e → e.env.Production c cfg) :
    txHash = canonicalHash t.direction txHash := by
  obtain ⟨facts, expected, ⟨env, s, he, hanswer⟩, hexpected, hmatch⟩ := h
  obtain ⟨w, hasks⟩ := hP _ he
  have hverify : w.verifyBurn c cfg t.direction txHash = .ok facts :=
    (hasks.verifyBurn t.direction txHash).symm.trans hanswer
  calc txHash = expected.txHash := (buildExpectedBurnFacts_txHash hexpected).symm
    _ = facts.txHash := factsMatch_txHash hmatch
    _ = canonicalHash t.direction txHash := verifyBurn_txHash hverify

end Hashes

/-! ### One burn, one transfer -/

/-- Under the production verifiers no burn is credited to two transfers: their hashes are different
texts, and in one direction, where both are transactions of one chain, different hashes. -/
theorem burn_credited_once {c : Codec} {cfg : CctpConfig} {choices : List (Choice Env Call)}
    (hproduction : ServedUnder c cfg (fun env _ _ => env.Production c cfg) choices)
    {id id' : Uuid} {t t' : CctpTransfer} {txHash txHash' : String} (hne : id ≠ id')
    (ht : (serve c cfg choices).state.transfer id = some t)
    (ht' : (serve c cfg choices).state.transfer id' = some t')
    (hsource : t.sourceTxHash = some txHash) (hsource' : t'.sourceTxHash = some txHash') :
    txHash ≠ txHash' ∧
      (t.direction = t'.direction → normalizeTxHash txHash ≠ normalizeTxHash txHash') := by
  have hseen : ∀ e, (serve c cfg choices).Performed e → e.env.Production c cfg :=
    fun e he => performed_allowed hproduction he
  have hdistinct : txHash ≠ txHash' := by
    rintro rfl
    have hid := (serve_indexed c cfg choices).source t (State.mem_of_transfer ht) t'
      (State.mem_of_transfer ht') txHash hsource hsource'
    rw [State.id_of_transfer ht, State.id_of_transfer ht'] at hid
    exact hne hid
  refine ⟨hdistinct, fun hdirection hsame => hdistinct ?_⟩
  have hcanonical := ((serve_evidenced choices id t ht).burnVerified _ hsource).canonical hseen
  have hcanonical' := ((serve_evidenced choices id' t' ht').burnVerified _ hsource').canonical hseen
  calc txHash = canonicalHash t.direction txHash := hcanonical
    _ = canonicalHash t.direction txHash' := by
      cases t.direction with
      | stellarToEvm => exact hsame
      | evmToStellar => exact congrArg ("0x" ++ ·) hsame
    _ = canonicalHash t'.direction txHash' := by rw [hdirection]
    _ = txHash' := hcanonical'.symm

/-! ### Three burns of one USDC -/

def plainSender : String := "0x00000000000000000000000000000000000000bb"

/-- The way back: from Sepolia to the account zero. -/
def inboundRequest : CctpQuoteRequest where
  corridorId := CCTP_TESTNET_CORRIDOR_ID
  provider := CCTP_PROVIDER_ID
  direction := .evmToStellar
  sourceChainId := SEPOLIA_CHAIN_ID
  destinationChainId := STELLAR_TESTNET_CHAIN_ID
  sourceAsset := ⟨SEPOLIA_CHAIN_ID, SEPOLIA_USDC_ASSET, SEPOLIA_USDC_CANONICAL, none⟩
  destinationAsset := ⟨STELLAR_TESTNET_CHAIN_ID, STELLAR_TESTNET_USDC_ASSET,
    STELLAR_TESTNET_USDC_CANONICAL, none⟩
  amount := "1"
  recipient := zeroAccount
  sender := some plainSender
  mintSubmitter := some zeroAccount
  finality := .standard

def inboundHook : Bytes :=
  List.replicate 24 0 ++ toBeBytes 4 0 ++ toBeBytes 4 56 ++ zeroAccount.toUTF8.toList

def sepoliaUsdc : EvmAddress := (parseEvmAddress SEPOLIA_USDC).get (by decide)

def inboundCall : BurnCall where
  amount := 1000000
  destinationDomain := STELLAR_TESTNET_DOMAIN
  mintRecipient := zero32
  burnToken := sepoliaUsdc
  destinationCaller := zero32
  maxFee := 0
  minFinalityThreshold := FINALITY_STANDARD
  hookData := inboundHook

def inboundEvent : DepositForBurn where
  burnToken := sepoliaUsdc
  amount := 1000000
  depositor := ⟨List.replicate 19 0 ++ [0xbb], rfl⟩
  mintRecipient := zero32
  destinationDomain := STELLAR_TESTNET_DOMAIN
  destinationTokenMessenger := zero32
  destinationCaller := zero32
  maxFee := 0
  minFinalityThreshold := FINALITY_STANDARD
  hookData := inboundHook

def plainRecipient : Bytes32 := ⟨List.replicate 31 0 ++ [0xaa], rfl⟩

def outboundArgs : List ScVal :=
  [.address (.account zero32), .i128 10000000, .u32 SEPOLIA_DOMAIN, .bytes plainRecipient.bytes,
    .address (.contract zero32), .bytes zero32.bytes, .i128 0, .u32 FINALITY_STANDARD]

def outboundBurn : ContractEvent where
  contractId := some zero32
  topics := [.symbol "deposit_for_burn", .address (.contract zero32), .address (.account zero32),
    .u32 FINALITY_STANDARD]
  data := .map (some [(.symbol "amount", .i128 1000000),
    (.symbol "mint_recipient", .bytes plainRecipient.bytes),
    (.symbol "destination_domain", .u32 SEPOLIA_DOMAIN),
    (.symbol "destination_token_messenger", .bytes zero32.bytes),
    (.symbol "destination_caller", .bytes zero32.bytes), (.symbol "max_fee", .i128 0)])

def outboundMessage : ParsedCctpMessage where
  version := 1
  sourceDomain := STELLAR_TESTNET_DOMAIN
  destinationDomain := SEPOLIA_DOMAIN
  nonce := zero32
  sender := zero32
  recipient := zero32
  destinationCaller := zero32
  minFinalityThreshold := FINALITY_STANDARD
  finalityThresholdExecuted := 0
  body := {
    version := 1
    burnToken := zero32
    mintRecipient := plainRecipient
    amount := 1000000
    messageSender := zero32
    maxFee := 0
    feeExecuted := 0
    expirationBlock := 0
    hookData := [] }

def outboundSent : ContractEvent where
  contractId := some zero32
  topics := [.symbol "message_sent"]
  data := .map (some [(.symbol "message", .bytes (encodeMessage outboundMessage))])

/-- The message that is minted for `plainRequest`. -/
def outboundMinted : Bytes :=
  (buildCorridorExpectations plainCodec (quotedRow plainConfig plainRequest 0 "" "1" 0)).toOption.elim
    [] fun e => encodeMessage (messageFor e)

/-- `plainCodec`, with a burn or a mint in every transaction. -/
def burnCodec : Codec :=
  { plainCodec with
    contractToString := fun _ => STELLAR_TOKEN_MESSENGER
    envelopeFromXdr := fun _ => .ok (.tx (.ed25519 zero32)
      [⟨none, .invokeContract (.contract zero32) "deposit_for_burn" outboundArgs⟩])
    contractEventFromXdr := fun b64 => .ok (if b64 = "burn" then outboundBurn else outboundSent)
    abiDepositForBurnWithHook := fun _ => .ok inboundCall
    abiReceiveMessage := fun _ => .ok (outboundMinted, [0])
    depositForBurnLog := fun _ _ => some inboundEvent }

def plainEvmNode : EvmNode where
  getTransactionByHash _ :=
    .ok ⟨some plainSender, some sepoliaTokenMessenger.format, some "0x779b432d"⟩
  getTransactionReceipt _ :=
    .ok ⟨some "0x1", some [⟨sepoliaTokenMessenger.format, [hexEncode zero32.bytes], "0x"⟩], some "0x1"⟩
  chainId := .ok "0xaa36a7"
  blockNumber := .ok "0x1"
  call _ _ := .ok "0x"

def plainStellarNode : StellarNode where
  getTransaction _ := .ok
    { status := "SUCCESS", txHash := none, ledger := some 1, latestLedger := some 1
      envelopeXdr := some "", contractEventsXdr := [["burn", "message"]] }
  latestLedger := .ok 1
  isNonceUsed _ := .ok false

def plainChains : Chains where
  burnReady _ := true
  mintReady _ := true
  evm := plainEvmNode
  evmAgain := plainEvmNode
  stellar := plainStellarNode

/-- The production world in which the next transfer is number `id`. -/
def burnWorld (id : Uuid) : Env :=
  plainChains.wire burnCodec plainConfig
    (Outlook.env { plainOutlook .pending .pending with newId := id })

def carriedOut (id : Uuid) (i : ℕ) (call : Call) : List (Choice Env Call) :=
  .spawn call :: List.replicate 10 (.step i (burnWorld id))

def burned (id : Uuid) (request : CctpQuoteRequest) (txHash : String) : List (Choice Env Call) :=
  carriedOut id (3 * id) (.quote request "") ++ carriedOut id (3 * id + 1) (.prepareBurn id) ++
    carriedOut id (3 * id + 2) (.submitBurn id txHash)

def zeroHash : String := "0000000000000000000000000000000000000000000000000000000000000000"

/-- A burn on Stellar and two on Sepolia. The first two have one hash. -/
def threeBurns : List (Choice Env Call) :=
  burned 0 plainRequest zeroHash ++ burned 1 inboundRequest ("0x" ++ zeroHash) ++
    burned 2 inboundRequest "0x0000000000000000000000000000000000000000000000000000000000000001"

variable {id : Uuid}

theorem burned_meets {P : Env → Prop} (hP : P (burnWorld id))
    (request : CctpQuoteRequest) (txHash : String) :
    ∀ choice ∈ burned id request txHash, choice.Meets P := by
  have hcarried : ∀ i call, ∀ choice ∈ carriedOut id i call, choice.Meets P := by
    intro i call choice hchoice
    rcases mem_cons.mp hchoice with rfl | hchoice
    · trivial
    · rw [eq_of_mem_replicate hchoice]
      exact hP
  simp only [burned, forall_mem_append]
  exact ⟨⟨hcarried _ _, hcarried _ _⟩, hcarried _ _⟩

theorem burnWorld_production (id : Uuid) : (burnWorld id).Production burnCodec plainConfig :=
  ⟨plainChains, Chains.wire_asks _ _ _ _⟩

theorem threeBurns_production : ServedUnder burnCodec plainConfig
    (fun env _ _ => env.Production burnCodec plainConfig) threeBurns := by
  refine stepsOk_of_meets (P := Env.Production burnCodec plainConfig) ?_ _
  simp only [threeBurns, forall_mem_append]
  exact ⟨⟨burned_meets (burnWorld_production 0) _ _, burned_meets (burnWorld_production 1) _ _⟩,
    burned_meets (burnWorld_production 2) _ _⟩

/-- The direction and the source transaction of a transfer. -/
def State.burnOf (s : State) (id : Uuid) : Option (CctpDirection × Option String) :=
  (s.transfer id).map fun t => (t.direction, t.sourceTxHash)

theorem State.transfer_of_burnOf {s : State} {direction : CctpDirection}
    {txHash : Option String} (h : s.burnOf id = some (direction, txHash)) :
    ∃ t, s.transfer id = some t ∧ t.direction = direction ∧ t.sourceTxHash = txHash := by
  obtain ⟨t, ht, heq⟩ := Option.map_eq_some_iff.mp h
  exact ⟨t, ht, congrArg Prod.fst heq, congrArg Prod.snd heq⟩

theorem threeBurns_recorded : (List.range 3).map (serve burnCodec plainConfig threeBurns).state.burnOf =
    [some (.stellarToEvm, some zeroHash), some (.evmToStellar, some ("0x" ++ zeroHash)),
      some (.evmToStellar,
        some "0x0000000000000000000000000000000000000000000000000000000000000001")] := by
  decide +kernel

/-- The two burns on Sepolia have different hashes. -/
theorem burn_credited_once_sepolia : ∃ t t' txHash txHash',
    (serve burnCodec plainConfig threeBurns).state.transfer 1 = some t ∧
    (serve burnCodec plainConfig threeBurns).state.transfer 2 = some t' ∧
    t.sourceTxHash = some txHash ∧ t'.sourceTxHash = some txHash' ∧ t.direction = t'.direction ∧
    normalizeTxHash txHash ≠ normalizeTxHash txHash' := by
  have hrecorded := threeBurns_recorded
  simp only [range, range.loop, map_cons, cons.injEq] at hrecorded
  obtain ⟨-, h₁, h₂, -⟩ := hrecorded
  obtain ⟨t, ht, hdirection, hsource⟩ := State.transfer_of_burnOf h₁
  obtain ⟨t', ht', hdirection', hsource'⟩ := State.transfer_of_burnOf h₂
  have hsame := hdirection.trans hdirection'.symm
  have honce := burn_credited_once threeBurns_production (by decide) ht ht' hsource hsource'
  exact ⟨t, t', _, _, ht, ht', hsource, hsource', hsame, honce.2 hsame⟩

/-- A burn on Stellar and one on Sepolia may have one hash. -/
theorem burns_share_hash : ∃ choices t t' txHash txHash',
    ServedUnder burnCodec plainConfig (fun env _ _ => env.Production burnCodec plainConfig) choices ∧
    (serve burnCodec plainConfig choices).state.transfer 0 = some t ∧
    (serve burnCodec plainConfig choices).state.transfer 1 = some t' ∧
    t.sourceTxHash = some txHash ∧ t'.sourceTxHash = some txHash' ∧
    normalizeTxHash txHash = normalizeTxHash txHash' := by
  have hrecorded := threeBurns_recorded
  simp only [range, range.loop, map_cons, cons.injEq] at hrecorded
  obtain ⟨h₀, h₁, -⟩ := hrecorded
  obtain ⟨t, ht, -, hsource⟩ := State.transfer_of_burnOf h₀
  obtain ⟨t', ht', -, hsource'⟩ := State.transfer_of_burnOf h₁
  exact ⟨threeBurns, t, t', _, _, threeBurns_production, ht, ht', hsource, hsource', by decide +kernel⟩

end StellarRoute.Cctp
