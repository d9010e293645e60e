import StellarRoute.Contracts.Spec.Run

/-! What each entry point can change. The storage is split into areas; every
successful invocation leaves the areas outside `Call.touches` as they were, and
none changes the ledger. Every invariant of a run is proved from this and from
the few entry points that do write the area in question. -/

namespace StellarRoute.Contracts

open Lib List

variable {X : Type} {H : Host X} {auth : Auth} {w w' : World X}

inductive Area where
  | config
  | gov
  | pools
  | tokens
  | upgrades
  | commitments
deriving DecidableEq

/-- `w'` agrees with `w` on the ledger and outside the areas `as`. -/
structure Touches (as : List Area) (w w' : World X) : Prop where
  ledger : w'.ledger = w.ledger
  config : .config ∉ as → w'.config = w.config
  gov : .gov ∉ as → w'.gov = w.gov
  pools : .pools ∉ as → w'.pools = w.pools
  tokens : .tokens ∉ as → w'.tokens = w.tokens
  upgrades : .upgrades ∉ as → w'.upgrades = w.upgrades
  commitments : .commitments ∉ as → w'.mev.commitment = w.mev.commitment

/-- The ledger and the areas outside `as`. -/
def World.besides (as : List Area) (w : World X) :=
  let keep {α : Type} (a : Area) (x : α) : Option α := if a ∈ as then none else some x
  (w.ledger, keep .config w.config, keep .gov w.gov, keep .pools w.pools, keep .tokens w.tokens,
    keep .upgrades w.upgrades, keep .commitments w.mev.commitment)

variable {as : List Area}

theorem touches_of_besides (h : w'.besides as = w.besides as) : Touches as w w' := by
  simp only [World.besides, Prod.mk.injEq] at h
  obtain ⟨hledger, hconfig, hgov, hpools, htokens, hupgrades, hcommitments⟩ := h
  exact ⟨hledger, fun n => by simpa [n] using hconfig, fun n => by simpa [n] using hgov,
    fun n => by simpa [n] using hpools, fun n => by simpa [n] using htokens,
    fun n => by simpa [n] using hupgrades, fun n => by simpa [n] using hcommitments⟩

theorem Touches.refl (as : List Area) (w : World X) : Touches as w w := touches_of_besides rfl

theorem Touches.trans {w1 w2 w3 : World X} (h : Touches as w1 w2) (h' : Touches as w2 w3) :
    Touches as w1 w3 :=
  ⟨h'.ledger.trans h.ledger, fun n => (h'.config n).trans (h.config n),
    fun n => (h'.gov n).trans (h.gov n), fun n => (h'.pools n).trans (h.pools n),
    fun n => (h'.tokens n).trans (h.tokens n), fun n => (h'.upgrades n).trans (h.upgrades n),
    fun n => (h'.commitments n).trans (h.commitments n)⟩

/-- A change of the areas `as` before or after does not count. -/
theorem Touches.congr {v v' : World X} (h : Touches as v v') (hw : v.besides as = w.besides as)
    (hw' : w'.besides as = v'.besides as) : Touches as w w' :=
  (touches_of_besides hw).trans (h.trans (touches_of_besides hw'))

theorem Touches.mono {bs : List Area} (hs : as ⊆ bs) (h : Touches as w w') : Touches bs w w' :=
  ⟨h.ledger, fun n => h.config fun m => n (hs m), fun n => h.gov fun m => n (hs m),
    fun n => h.pools fun m => n (hs m), fun n => h.tokens fun m => n (hs m),
    fun n => h.upgrades fun m => n (hs m), fun n => h.commitments fun m => n (hs m)⟩

def TokenCall.source : TokenCall → Address
  | .transfer _ source _ _ => source
  | .burn _ source _ => source

/-! Inversion of the small fallible helpers -/

variable {a sender admin caller signer : Address} {amount : I128} {asset : Asset}
  {P : World X → Prop} {ps : List Payout} {config : FeeConfig} {params : SwapParams}
  {r : SwapResult} {hash : Bytes32} {id : UInt64} {u : Unit} {α : Type} {source target : Address}
  {dust : ℕ} {total fee : I128} {guardian : Option Address} {signers : List Address}
  {threshold : UInt32} {ttl : UInt64} {info : TokenInfo} {action : ProposalAction} {op : Op X}

@[simp] theorem requireAuth_eq_ok : requireAuth auth a = .ok u ↔ a ∈ auth := require_eq_ok

@[simp] theorem getAdmin_eq_ok : getAdmin w = .ok a ↔ w.config.admin = some a :=
  okOr_eq_ok

@[simp] theorem requireNotPaused_eq_ok :
    requireNotPaused w = .ok u ↔ w.config.paused = false := require_eq_ok

@[simp] theorem getGovernance_eq_ok {g : GovernanceConfig} :
    getGovernance w = .ok g ↔ w.gov.governance = some g := okOr_eq_ok

@[simp] theorem requireAdminAuth_eq_ok : requireAdminAuth auth a w = .ok u ↔
      a ∈ auth ∧ w.gov.isMultiSig = false ∧ w.config.admin = some a := by
  simp only [requireAdminAuth, bind_eq_ok, getAdmin_eq_ok, require_eq_ok, requireAuth_eq_ok,
    exists_const]
  constructor
  · rintro ⟨ha, hm, b, hb, rfl⟩
    exact ⟨ha, hm, hb⟩
  · rintro ⟨ha, hm, hb⟩
    exact ⟨ha, hm, a, hb, rfl⟩

@[simp] theorem noRet_eq_ok {x : Result (World X)} {r : Ret} :
    noRet x = .ok (r, w') ↔ r = .unit ∧ x = .ok w' := by
  simp only [noRet, bind_eq_ok, pure_eq_ok, Prod.mk.injEq]
  constructor
  · rintro ⟨v, hv, rfl, rfl⟩
    exact ⟨rfl, hv⟩
  · rintro ⟨rfl, hv⟩
    exact ⟨w', hv, rfl, rfl⟩

@[simp] theorem swapRet_eq_ok {x : Result (SwapResult × World X)} {r : Ret} :
    swapRet x = .ok (r, w') ↔ ∃ result, r = .swapped result ∧ x = .ok (result, w') := by
  simp only [swapRet, bind_eq_ok, pure_eq_ok, Prod.mk.injEq, Prod.exists]
  constructor
  · rintro ⟨s, v, hv, rfl, rfl⟩
    exact ⟨s, rfl, hv⟩
  · rintro ⟨s, rfl, hv⟩
    exact ⟨s, w', hv, rfl, rfl⟩

/-! Helpers that touch no area -/

def Event.distribution (asset : Asset) : Event → Option DistributionRecord
  | .feesDistributed a total ledger => if a = asset then some ⟨ledger.toUInt64, total⟩ else none
  | _ => none

/-- Only events are added, none of them a distribution. -/
def Announces (w w' : World X) : Prop :=
  ∃ es, w' = { w with events := w.events ++ es } ∧ ∀ e ∈ es, ∀ asset, Event.distribution asset e = none

theorem announces_refl (w : World X) : Announces w w :=
  ⟨[], by rw [append_nil], forall_mem_nil _⟩

theorem announces_emit {e : Event} (he : ∀ asset, e.distribution asset = none) (w : World X) :
    Announces w (emit e w) := ⟨[e], rfl, forall_mem_singleton.mpr he⟩

theorem Announces.touches (h : Announces w w') : Touches [] w w' := by
  obtain ⟨es, rfl, -⟩ := h
  exact touches_of_besides rfl

theorem emit_touches (e : Event) (w : World X) : Touches [] w (emit e w) :=
  touches_of_besides rfl

theorem extendInstanceTtl_touches (w : World X) : Touches [] w (extendInstanceTtl H w) :=
  touches_of_besides rfl

theorem extendPoolTtl_touches (pool : Address) (w : World X) :
    Touches [] w (extendPoolTtl H pool w) := by
  unfold extendPoolTtl
  split_ifs
  · exact touches_of_besides rfl
  · exact Touches.refl _ _

theorem foldl_extendPoolTtl_touches (f : α → Address) (l : List α) (w : World X) :
    Touches [] w (l.foldl (fun w a => extendPoolTtl H (f a) w) w) := by
  induction l generalizing w with
  | nil => exact Touches.refl _ _
  | cons a l ih => exact (extendPoolTtl_touches (f a) w).trans (ih _)

def assetCalls (asset : Asset) (source target : Address) (amount : I128) : List TokenCall :=
  match asset with
  | .soroban token => [.transfer token source target amount]
  | _ => []

theorem source_of_mem_assetCalls {call : TokenCall}
    (h : call ∈ assetCalls asset source target amount) : call.source = source := by
  cases asset with
  | soroban token => rw [mem_singleton.mp h, TokenCall.source]
  | native | issued issuer code => cases h

theorem transferAsset_eq_ok (h : transferAsset H asset source target amount w = .ok w') :
    ∃ x, w' = { w with ext := x, calls := w.calls ++ assetCalls asset source target amount } := by
  cases asset with
  | soroban token =>
    simp only [transferAsset, bind_eq_ok, okOr_eq_ok, pure_eq_ok] at h
    obtain ⟨x, -, rfl⟩ := h
    exact ⟨x, rfl⟩
  | native | issued issuer code =>
    rw [← pure_eq_ok.mp h]
    exact ⟨w.ext, by simp [assetCalls]⟩

theorem transferAsset_touches
    (h : transferAsset H asset source target amount w = .ok w') : Touches [] w w' := by
  obtain ⟨x, rfl⟩ := transferAsset_eq_ok h
  exact touches_of_besides rfl

/-! Fees and swaps -/

variable {call : Option TokenCall}

/-- A payment is a transfer; a burn, by a call or not, is counted as well. -/
theorem payRecipient_cases {r : FeeRecipient}
    (h : payRecipient H asset r amount w = .ok (call, w')) : (r.label ≠ "burn" ∧ ∃ x, w' = { w with
      ext := x, calls := w.calls ++ assetCalls asset H.contract r.address amount }) ∨
    r.label = "burn" ∧ ∃ x es cs, w' = addTotalBurned asset amount { w with
        ext := x, events := w.events ++ es, calls := w.calls ++ cs } ∧
      (∀ e ∈ es, e = .feesBurned asset amount w.ledger) ∧ (∀ c ∈ cs, c.source = H.contract) ∧
      ∀ token, asset = .soroban token → cs = [.burn token H.contract amount] := by
  unfold payRecipient at h
  split_ifs at h with hb
  · refine .inr ⟨hb, ?_⟩
    cases asset with
    | soroban token =>
      simp only [bind_eq_ok, okOr_eq_ok, pure_eq_ok, Prod.mk.injEq] at h
      obtain ⟨x, -, -, rfl⟩ := h
      exact ⟨x, _, _, rfl, by simp, by simp [TokenCall.source], by simp⟩
    | issued issuer code =>
      simp only [bind_eq_ok, pure_eq_ok, Prod.mk.injEq] at h
      obtain ⟨v, hv, -, rfl⟩ := h
      obtain ⟨x, rfl⟩ := transferAsset_eq_ok hv
      exact ⟨x, _, _, rfl, by simp, fun _ hc => source_of_mem_assetCalls hc, by simp⟩
    | native =>
      simp only [pure_eq_ok, Prod.mk.injEq] at h
      exact ⟨w.ext, [], [], by rw [← h.2]; simp, by simp, by simp, by simp⟩
  · rw [bind_eq_ok] at h
    obtain ⟨v, hv, h⟩ := h
    have hmoved := transferAsset_eq_ok hv
    refine .inl ⟨hb, ?_⟩
    cases asset <;>
      · simp only [pure_eq_ok, Prod.mk.injEq] at h
        exact h.2 ▸ hmoved

theorem payRecipient_touches {r : FeeRecipient}
    (h : payRecipient H asset r amount w = .ok (call, w')) : Touches [] w w' := by
  rcases payRecipient_cases h with ⟨-, x, rfl⟩ | ⟨-, x, es, cs, rfl, -, -, -⟩
  · exact touches_of_besides rfl
  · exact touches_of_besides rfl

theorem payRecipients_inv {rs : List FeeRecipient} {i : ℕ} {remaining : I128} (hstep : ∀ r ∈ rs,
      ∀ amount call w w', 0 < amount → P w → payRecipient H asset r amount w = .ok (call, w') → P w')
    (hw : P w) (h : payRecipients H asset total dust i remaining rs w = .ok (ps, w')) : P w' := by
  induction rs generalizing i remaining w ps with
  | nil =>
    simp only [payRecipients, pure_eq_ok, Prod.mk.injEq] at h
    exact h.2 ▸ hw
  | cons r rs ih =>
    have hrest := fun r hr => hstep r (mem_cons_of_mem _ hr)
    simp only [payRecipients] at h
    split_ifs at h with hpos
    · simp only [bind_eq_ok, pure_eq_ok, Prod.mk.injEq, Prod.exists] at h
      obtain ⟨call, v, hv, qs, v', hv', -, rfl⟩ := h
      exact ih hrest (hstep r mem_cons_self _ call w v hpos hw hv) hv'
    · simp only [bind_eq_ok, pure_eq_ok, Prod.mk.injEq, Prod.exists] at h
      obtain ⟨qs, v', hv', -, rfl⟩ := h
      exact ih hrest hw hv'

/-- A distribution does nothing, or it empties the account, pays out of `v` and
puts the total on record. -/
theorem distributeFeesInternal_cases (h : distributeFeesInternal H asset config w = .ok (ps, w')) :
    w.fees.feeBalance asset = 0 ∧ w' = w ∨
      ∃ v, payRecipients H asset (w.fees.feeBalance asset) (dustIdx config.recipients) 0
          (w.fees.feeBalance asset) config.recipients (setFeeBalance asset 0 w) = .ok (ps, v) ∧
        w' = emit (.feesDistributed asset (w.fees.feeBalance asset) v.ledger)
          (pushDistributionHistory asset ⟨v.now, w.fees.feeBalance asset⟩ v) := by
  unfold distributeFeesInternal at h
  dsimp only at h
  split_ifs at h with hzero
  · simp only [pure_eq_ok, Prod.mk.injEq] at h
    exact .inl ⟨hzero, h.2.symm⟩
  · simp only [bind_eq_ok, pure_eq_ok, Prod.mk.injEq, Prod.exists] at h
    obtain ⟨qs, v, hv, rfl, rfl⟩ := h
    exact .inr ⟨v, hv, rfl⟩

theorem distributeFeesInternal_touches (h : distributeFeesInternal H asset config w = .ok (ps, w')) :
    Touches [] w w' := by
  rcases distributeFeesInternal_cases h with ⟨-, rfl⟩ | ⟨v, hv, rfl⟩
  · exact .refl _ w'
  · have ht : Touches [] (setFeeBalance asset 0 w) v := payRecipients_inv (P := Touches [] _)
      (fun _ _ _ _ _ _ _ hw hpay => hw.trans (payRecipient_touches hpay)) (.refl _ _) hv
    exact ht.congr rfl rfl

theorem rateLimit_eq_ok (h : rateLimit H sender w = .ok w') :
    ∃ mev, w' = { w with mev := mev } ∧ mev.commitment = w.mev.commitment := by
  unfold rateLimit at h
  split at h
  · exact ⟨w.mev, (pure_eq_ok.mp h).symm, rfl⟩
  · dsimp only at h
    split_ifs at h
    · exact ⟨w.mev, (pure_eq_ok.mp h).symm, rfl⟩
    · simp only [setAccountSwapCount, bind_eq_ok, pure_eq_ok] at h
      obtain ⟨-, -, t, -, rfl⟩ := h
      exact ⟨_, rfl, rfl⟩
    · simp only [setAccountSwapWindowStart, setAccountSwapCount, bind_eq_ok, pure_eq_ok] at h
      obtain ⟨v, ⟨t, -, rfl⟩, u, -, rfl⟩ := h
      exact ⟨_, rfl, rfl⟩

theorem rateLimit_touches (h : rateLimit H sender w = .ok w') : Touches [] w w' := by
  obtain ⟨mev, rfl, hmev⟩ := rateLimit_eq_ok h
  exact ⟨rfl, fun _ => rfl, fun _ => rfl, fun _ => rfl, fun _ => rfl, fun _ => rfl, fun _ => hmev⟩

def feeBooked (asset : Asset) (fee : I128) (w : World X) : World X :=
  emit (.feeCollected asset fee w.ledger) (addFeeBalance asset fee w)

theorem collectFee_cases (h : collectFee H asset fee w = .ok w') :
    ¬ 0 < fee ∧ w' = w ∨ 0 < fee ∧ (w' = feeBooked asset fee w ∨
      ∃ config ps, w.config.feeConfig = some config ∧ config.autoDistribute = true ∧
        distributeFeesInternal H asset config (feeBooked asset fee w) = .ok (ps, w')) := by
  unfold collectFee at h
  split_ifs at h with hpos
  · refine .inr ⟨hpos, ?_⟩
    dsimp only at h
    split at h
    · next config hconfig =>
      split_ifs at h with hauto
      · simp only [bind_eq_ok, pure_eq_ok, Prod.exists] at h
        obtain ⟨ps, v, hv, rfl⟩ := h
        exact .inr ⟨config, ps, hconfig, hauto.1, hv⟩
      · exact .inl (pure_eq_ok.mp h).symm
    · exact .inl (pure_eq_ok.mp h).symm
  · exact .inl ⟨hpos, (pure_eq_ok.mp h).symm⟩

theorem collectFee_touches (h : collectFee H asset fee w = .ok w') : Touches [] w w' := by
  have hbooked : Touches [] w (feeBooked asset fee w) :=
    touches_of_besides rfl
  rcases collectFee_cases h with ⟨-, rfl⟩ | ⟨-, rfl | ⟨config, ps, -, -, hdist⟩⟩
  · exact .refl _ w'
  · exact hbooked
  · exact hbooked.trans (distributeFeesInternal_touches hdist)

theorem incrementNonce_touches (h : incrementNonce a w = .ok w') : Touches [] w w' := by
  simp only [incrementNonce, bind_eq_ok, okOr_eq_ok, pure_eq_ok] at h
  obtain ⟨n, -, rfl⟩ := h
  exact touches_of_besides rfl

theorem checkTtlHealth_announces (w : World X) : Announces w (checkTtlHealth w) := by
  unfold checkTtlHealth
  dsimp only
  split_ifs
  · exact announces_refl w
  · exact announces_emit (fun _ => rfl) w
  · exact announces_refl w

theorem noteImpact_announces (sender : Address) (impact : UInt32) (amountIn : I128) (w : World X) :
    Announces w (noteImpact sender impact amountIn w) := by
  unfold noteImpact
  split
  · split_ifs
    · exact announces_emit (fun _ => rfl) w
    · exact announces_refl w
  · exact announces_refl w

theorem setExt_touches (x : X) (w : World X) : Touches [] w { w with ext := x } :=
  touches_of_besides rfl

theorem addSwapVolume_touches (amount : I128) (w : World X) :
    Touches [] w (addSwapVolume amount w) :=
  touches_of_besides rfl

theorem executeSwapInternal_touches (h : executeSwapInternal H auth sender params w = .ok (r, w')) :
    Touches [] w w' := by
  simp only [executeSwapInternal, bind_eq_ok, okOr_eq_ok, pure_eq_ok, Prod.mk.injEq,
    Prod.exists] at h
  obtain ⟨-, -, w1, h1, first, -, last, -, w2, h2, amount, impact, x, -, fee, out, -, -, -, x',
    -, w3, h3, w4, h4, w5, h5, -, rfl⟩ := h
  -- the state is threaded through the sub-steps in the order of the source
  have hin := (rateLimit_touches h1).trans ((setExt_touches _ _).trans (transferAsset_touches h2))
  have hout := ((setExt_touches x' w2).trans (noteImpact_announces sender impact params.amountIn _).touches).trans
    (transferAsset_touches h3)
  have hfee := (collectFee_touches h4).trans (incrementNonce_touches h5)
  have hend := (addSwapVolume_touches params.amountIn w5).trans
    (foldl_extendPoolTtl_touches (H := H) RouteHop.pool params.route.hops _)
  refine (hin.trans (hout.trans hfee)).trans (hend.trans ?_)
  exact ((extendInstanceTtl_touches _).trans (checkTtlHealth_announces _).touches).trans (emit_touches _ _)

theorem executeSwap_touches (h : executeSwap H auth sender params w = .ok (r, w')) :
    Touches [] w w' := by
  simp only [executeSwap, bind_eq_ok] at h
  obtain ⟨-, -, -, -, -, -, -, -, h⟩ := h
  exact executeSwapInternal_touches h

/-! The other entry points -/

theorem initGovernance_touches (h : Governance.initGovernance H signers threshold ttl guardian w =
        .ok w') : Touches [.gov] w w' := by
  simp only [Governance.initGovernance, bind_eq_ok, require_eq_ok, exists_const] at h
  obtain ⟨-, -, -, -, -, h⟩ := h
  cases guardian <;>
    · rw [← pure_eq_ok.mp h]
      exact touches_of_besides rfl

theorem migrateToMultisig_touches
    (h : Governance.migrateToMultisig H auth admin signers threshold ttl guardian w = .ok w') :
    Touches [.gov] w w' := by
  simp only [Governance.migrateToMultisig, bind_eq_ok, pure_eq_ok] at h
  obtain ⟨-, -, -, -, -, -, -, -, v, hv, rfl⟩ := h
  have ht := initGovernance_touches hv
  exact ht.congr rfl rfl

theorem registerPool_touches {pool : Address} (h : registerPool H auth pool w = .ok w') :
    Touches [.pools] w w' := by
  simp only [registerPool, bind_eq_ok, pure_eq_ok] at h
  obtain ⟨-, -, -, -, -, -, -, -, -, -, count, -, rfl⟩ := h
  have hset : Touches [.pools] w (setSupportedPool H pool w) :=
    touches_of_besides rfl
  have ht := hset.trans ((extendPoolTtl_touches (H := H) pool _).mono (nil_subset _))
  -- the rest does not look into the extended state
  generalize extendPoolTtl H pool (setSupportedPool H pool w) = v at ht
  exact ht.congr rfl rfl

theorem executeWasmUpgrade_touches (h : executeWasmUpgrade H hash w = .ok w') :
    Touches [.upgrades] w w' := by
  simp only [executeWasmUpgrade, migrate, bind_eq_ok, pure_eq_ok] at h
  obtain ⟨-, -, -, -, -, -, rfl⟩ := h
  exact touches_of_besides rfl

theorem executeUpgrade_touches (h : executeUpgrade H auth admin w = .ok w') :
    Touches [.upgrades] w w' := by
  simp only [executeUpgrade, bind_eq_ok, pure_eq_ok] at h
  obtain ⟨-, -, -, -, -, -, pending, -, -, -, -, -, v, hv, rfl⟩ := h
  have ht := executeWasmUpgrade_touches hv
  exact ht.congr rfl rfl

theorem addTokenInternal_touches (h : addTokenInternal H caller info w = .ok w') :
    Touches [.tokens] w w' := by
  simp only [addTokenInternal, pushCatEntry, bind_eq_ok, pure_eq_ok] at h
  obtain ⟨-, -, -, -, v, ⟨-, -, rfl⟩, -, -, rfl⟩ := h
  exact touches_of_besides rfl

theorem removeToken_touches (h : removeToken H auth caller asset w = .ok w') :
    Touches [.tokens] w w' := by
  simp only [removeToken, removeTokenInternal, bind_eq_ok] at h
  obtain ⟨-, -, -, -, h⟩ := h
  cases asset with
  | soroban addr =>
    simp only [bind_eq_ok, pure_eq_ok] at h
    obtain ⟨-, -, rfl⟩ := h
    exact touches_of_besides rfl
  | native | issued issuer code =>
    rw [← pure_eq_ok.mp h]
    exact touches_of_besides rfl

theorem extendStorageTtl_touches (w : World X) : Touches [] w (extendStorageTtl H w) := by
  have ht := (extendInstanceTtl_touches (H := H) w).trans
    (foldl_extendPoolTtl_touches (H := H) id w.pools.poolList _)
  exact ht.congr rfl rfl

/-! Governance: an executed action can write every area but the allowlist and
the commitments. -/

theorem dispatchAction_touches (h : Governance.dispatchAction H action w = .ok w') :
    Touches [.config, .gov, .pools, .upgrades] w w' := by
  cases action
  case upgrade => exact (executeWasmUpgrade_touches h).mono (by simp)
  all_goals
    refine (?_ : Yields _ _) _ h
    repeat refine yields_bind fun _ => ?_
    exact yields_pure (touches_of_besides rfl)

theorem governance_executeProposal_touches (h : Governance.executeProposal H id w = .ok w') :
    Touches [.config, .gov, .pools, .upgrades] w w' := by
  simp only [Governance.executeProposal, bind_eq_ok, pure_eq_ok] at h
  obtain ⟨config, -, p, -, -, -, -, -, -, -, v, hv, rfl⟩ := h
  have ht := dispatchAction_touches hv
  exact ht.congr rfl rfl

theorem autoExecute_touches {reached : Bool} (h : Governance.autoExecute H reached id w = .ok w') :
    Touches [.config, .gov, .pools, .upgrades] w w' := by
  unfold Governance.autoExecute at h
  split_ifs at h
  · exact governance_executeProposal_touches h
  · exact pure_eq_ok.mp h ▸ Touches.refl _ _

/-- The areas an entry point may write. -/
def Call.touches : Call → List Area
  | .initializeRouter .. => [.config, .upgrades]
  | .migrateToMultisig .. | .cancelProposal .. => [.gov]
  | .propose .. | .approveProposal .. | .executeProposal .. => [.config, .gov, .pools, .upgrades]
  | .setAdmin .. | .setFeeDistributionConfig .. | .pause .. | .unpause .. | .guardianPause ..
  | .configureMev .. | .setWhitelist .. | .updateKnownPrice .. => [.config]
  | .registerPool .. => [.pools]
  | .proposeUpgrade .. | .executeUpgrade .. | .cancelUpgrade .. => [.upgrades]
  | .addToken .. | .removeToken .. | .updateToken .. | .addTokensBatch .. => [.tokens]
  | .commitSwap .. | .revealAndExecute .. => [.commitments]
  | .distributeFees .. | .executeSwap .. | .execute .. | .extendStorageTtl => []

theorem invoke_touches {c : Call} {r : Ret} (h : invoke H auth c w = .ok (r, w')) :
    Touches c.touches w w' := by
  cases c <;> simp only [invoke, noRet_eq_ok, swapRet_eq_ok] at h
  case initializeRouter | setAdmin | setFeeDistributionConfig | pause | unpause | cancelProposal
      | guardianPause | proposeUpgrade | cancelUpgrade | updateToken | configureMev | setWhitelist
      | updateKnownPrice =>
    -- checks only, then writes to the areas of the call
    refine (?_ : Yields _ _) _ h.2
    repeat refine yields_bind fun _ => ?_
    exact yields_pure (touches_of_besides rfl)
  case migrateToMultisig => exact migrateToMultisig_touches h.2
  case distributeFees =>
    simp only [distributeFees, bind_eq_ok, pure_eq_ok, Prod.exists] at h
    obtain ⟨-, config, -, ps, v, hv, rfl⟩ := h
    exact distributeFeesInternal_touches hv
  case registerPool => exact registerPool_touches h.2
  case propose =>
    simp only [propose, Governance.propose, nextProposalId, bind_eq_ok, pure_eq_ok, Prod.mk.injEq,
      Prod.exists] at h
    obtain ⟨id, v, ⟨-, -, -, -, config, -, -, -, id', v', ⟨next, -, -, rfl⟩, u, hu, -, rfl⟩, -, rfl⟩ :=
      h
    have ht := autoExecute_touches hu
    exact ht.congr rfl rfl
  case approveProposal =>
    simp only [approveProposal, Governance.approve, bind_eq_ok, pure_eq_ok] at h
    obtain ⟨-, -, -, -, -, config, -, -, -, p, -, -, -, -, -, -, -, u, hu, rfl⟩ := h
    have ht := autoExecute_touches hu
    exact ht.congr rfl rfl
  case executeProposal =>
    simp only [executeProposal, bind_eq_ok] at h
    obtain ⟨-, -, -, h⟩ := h
    exact governance_executeProposal_touches h
  case executeUpgrade => exact executeUpgrade_touches h.2
  case addToken =>
    simp only [addToken, bind_eq_ok] at h
    obtain ⟨-, -, -, h⟩ := h
    exact addTokenInternal_touches h
  case removeToken => exact removeToken_touches h.2
  case addTokensBatch caller tokens =>
    simp only [addTokensBatch, bind_eq_ok] at h
    obtain ⟨-, -, -, -, -, h⟩ := h
    exact foldlM_inv (P := Touches [.tokens] w) tokens
      (fun _ _ _ _ hb hs => hb.trans (addTokenInternal_touches hs)) (Touches.refl _ w) h
  case commitSwap =>
    simp only [commitSwap, setCommitment, bind_eq_ok, pure_eq_ok] at h
    obtain ⟨-, -, -, -, -, -, -, -, -, -, -, v, ⟨t, -, rfl⟩, rfl⟩ := h
    exact touches_of_besides rfl
  case revealAndExecute =>
    simp only [revealAndExecute, bind_eq_ok] at h
    obtain ⟨result, -, -, -, -, -, c, -, -, -, -, -, h⟩ := h
    refine Touches.trans ?_ ((executeSwapInternal_touches h).mono (nil_subset _))
    exact touches_of_besides rfl
  case executeSwap =>
    obtain ⟨result, -, h⟩ := h
    exact executeSwap_touches h
  case execute =>
    obtain ⟨result, -, h⟩ := h
    exact (emit_touches _ _).trans (executeSwap_touches h)
  case extendStorageTtl =>
    simp only [pure_eq_ok, Prod.mk.injEq] at h
    exact h.2 ▸ extendStorageTtl_touches w

/-- What a step keeps is what the passing of time, the outside and the
successful invocations keep. -/
theorem step_inv (hw : P w) (htime : ∀ l, w.ledger ≤ l → P { w with ledger := l })
    (hext : ∀ x, P { w with ext := x })
    (hinvoke : ∀ auth c r w', op = .invoke auth c → invoke H auth c w = .ok (r, w') → P w') :
    P (step H w op) := by
  cases op with
  | invoke auth c =>
    rw [step]
    split
    · next r w' h => exact hinvoke auth c r w' rfl h
    · exact hw
  | advance n =>
    rw [step]
    split_ifs with h
    · apply htime _
      rw [UInt32.le_iff_toNat_le, UInt32.toNat_ofNat_of_lt' h]
      omega
    · exact hw
  | outside x => exact hext x

/-- What neither time nor the outside changes is changed by successful
invocations only. -/
theorem step_changed {f : World X → α}
    (htime : ∀ l, f { w with ledger := l } = f w) (hext : ∀ x, f { w with ext := x } = f w)
    (h : f (step H w op) ≠ f w) :
    ∃ auth c r, op = .invoke auth c ∧ invoke H auth c w = .ok (r, step H w op) := by
  cases op with
  | invoke auth c =>
    refine ⟨auth, c, ?_⟩
    rw [step] at h ⊢
    split at h
    · next r w' hw' => exact ⟨r, rfl, hw'⟩
    · exact absurd rfl h
  | advance n =>
    rw [step] at h
    split_ifs at h
    · exact absurd (htime _) h
    · exact absurd rfl h
  | outside x => exact absurd (hext x) h

/-- An invariant of the runs whose steps all meet `ok`. -/
theorem run_keeps_of_ok {ok : World X → Op X → Prop} {ops : List (Op X)}
    (htime : ∀ w l, w.ledger ≤ l → P w → P { w with ledger := l })
    (hext : ∀ w x, P w → P { w with ext := x }) (hinvoke : ∀ auth c r w w', P w → ok w (.invoke auth
      c) → invoke H auth c w = .ok (r, w') → P w') (hw : P w)
    (hops : Transition.StepsOk (step H) ok w ops) : P (run H w ops) := by
  refine Transition.run_inv_of_ok (fun w op hw hop => ?_) hw hops
  apply step_inv hw (fun l hl => htime w l hl hw) (fun x => hext w x hw)
  rintro auth c r w' rfl h
  exact hinvoke auth c r w w' hw hop h

theorem run_keeps (htime : ∀ w l, w.ledger ≤ l → P w → P { w with ledger := l })
    (hext : ∀ w x, P w → P { w with ext := x })
    (hinvoke : ∀ auth c r w w', P w → invoke H auth c w = .ok (r, w') → P w') (ops : List (Op X))
    (hw : P w) : P (run H w ops) := by
  refine Transition.run_inv (fun w op hw => ?_) ops hw
  exact step_inv hw (fun l hl => htime w l hl hw) (fun x => hext w x hw)
    fun auth c r w' _ h => hinvoke auth c r w w' hw h

theorem Reachable.run (hw : Reachable H w) (ops : List (Op X)) : Reachable H (run H w ops) := by
  obtain ⟨ledger, wasm, ext, ops', rfl⟩ := hw
  exact ⟨ledger, wasm, ext, ops' ++ ops, (Transition.run_append _ _ _ _).symm⟩

theorem reachable_quietWorld : Reachable quietHost quietWorld := ⟨1, zeroHash, (), [], rfl⟩

end StellarRoute.Contracts
