import StellarRoute.Contracts.Sanity.Frame

/-! The commit-reveal flow. A commitment binds the two amounts, the deadline and
the salt, since these are what is hashed; the rest of the swap is chosen at the
reveal. A stored commitment is only safe from others as long as none of them
commits the same hash, which overwrites it. -/

namespace StellarRoute.Contracts

open Lib List Function Option

variable {X : Type} {H : Host X} {auth : Auth} {c : Call} {w w' : World X}

/-! What the payload determines -/

theorem I128.toBeBytes_inj {a b : I128} (h : I128.toBeBytes a = I128.toBeBytes b) : a = b := by
  have ha := a.inRange
  have hb := b.inRange
  have hmod : (a.toInt % 2 ^ 128).toNat = (b.toInt % 2 ^ 128).toNat :=
    beBytes_inj_of_lt (by omega) (by omega) h
  apply SInt.ext
  have h1 := ha.1
  have h2 := ha.2
  have h3 := hb.1
  have h4 := hb.2
  omega

theorem U64.toBeBytes_inj {a b : UInt64} (h : U64.toBeBytes a = U64.toBeBytes b) : a = b := by
  have ha := a.toNat_lt
  have hb := b.toNat_lt
  exact UInt64.toNat_inj.mp (beBytes_inj_of_lt (by omega) (by omega) h)

structure SameHashed (params params' : SwapParams) (salt salt' : Bytes32) : Prop where
  amountIn : params.amountIn = params'.amountIn
  minAmountOut : params.minAmountOut = params'.minAmountOut
  deadline : params.deadline = params'.deadline
  salt : salt = salt'

variable {params : SwapParams} {salt hash : Bytes32} {sender : Address} {amount : I128}
  {asset : Asset} {params' : SwapParams} {salt' : Bytes32} {out : I128} {r : Ret}
  {t : Temp CommitmentData}

theorem commitmentPayload_inj
    (h : commitmentPayload params salt = commitmentPayload params' salt') :
    SameHashed params params' salt salt' := by
  simp only [commitmentPayload, append_assoc] at h
  obtain ⟨hin, h⟩ := append_inj h (by simp [I128.toBeBytes])
  obtain ⟨hout, h⟩ := append_inj h (by simp [I128.toBeBytes])
  obtain ⟨hdeadline, hsalt⟩ := append_inj h (by simp [U64.toBeBytes])
  refine ⟨I128.toBeBytes_inj hin, I128.toBeBytes_inj hout, U64.toBeBytes_inj hdeadline, ?_⟩
  cases salt
  cases salt'
  simpa using hsalt

/-! What a reveal does -/

theorem revealAndExecute_eq_ok {s : SwapResult}
    (h : revealAndExecute H auth sender params salt w = .ok (s, w')) :
    sender ∈ auth ∧
      (∃ d, getCommitment w (H.sha256 (commitmentPayload params salt)) = some d ∧ d.sender = sender) ∧
      w'.mev.commitment =
        Function.update w.mev.commitment (H.sha256 (commitmentPayload params salt)) none := by
  simp only [revealAndExecute, bind_eq_ok, require_eq_ok, requireAuth_eq_ok, requireNotPaused_eq_ok,
    okOr_eq_ok, exists_const] at h
  obtain ⟨hauth, -, d, hd, hsender, -, h⟩ := h
  exact ⟨hauth, ⟨d, hd, hsender⟩, (executeSwapInternal_touches h).commitments (by simp)⟩

/-- Some reveal of the swap uses up the commitment `hash`. -/
def Consumes (H : Host X) (hash : Bytes32) (params : SwapParams) (salt : Bytes32) : Prop :=
  ∃ auth sender w s w', revealAndExecute H auth sender params salt w = .ok (s, w') ∧
    w.mev.commitment hash ≠ none ∧ w'.mev.commitment hash = none

theorem Consumes.hash_eq (h : Consumes H hash params salt) :
    H.sha256 (commitmentPayload params salt) = hash := by
  obtain ⟨auth, sender, w, s, w', hreveal, hbefore, hafter⟩ := h
  by_contra hne
  rw [(revealAndExecute_eq_ok hreveal).2.2, update_of_ne (Ne.symm hne)] at hafter
  exact hbefore hafter

/-- When the hash tells the two payloads apart, a commitment can be used up by
both swaps only if they agree on the hashed fields; and swaps that agree on
these are revealed against the same commitments. -/
theorem commitment_binds_hashed {params params' : SwapParams} {salt salt' : Bytes32}
    (hsha : H.sha256 (commitmentPayload params salt) = H.sha256 (commitmentPayload params' salt') →
      commitmentPayload params salt = commitmentPayload params' salt') :
    (∀ hash, Consumes H hash params salt → Consumes H hash params' salt' →
      SameHashed params params' salt salt') ∧
    (SameHashed params params' salt salt' →
      H.sha256 (commitmentPayload params salt) = H.sha256 (commitmentPayload params' salt')) := by
  refine ⟨fun hash h h' => ?_, fun h => ?_⟩
  · exact commitmentPayload_inj (hsha (h.hash_eq.trans h'.hash_eq.symm))
  · rw [commitmentPayload, commitmentPayload, h.amountIn, h.minAmountOut, h.deadline, h.salt]

def committedSwap : SwapParams :=
  { route := ⟨[⟨.soroban 20, .soroban 21, 9, .ammConstProd⟩], 0, 0, 0⟩, amountIn := 1000,
    minAmountOut := 0, recipient := 5, deadline := 200, notBefore := 0, maxPriceImpactBps := 0,
    maxExecutionSpreadBps := 0 }

/-- Another route, another recipient and other limits for the same amounts. -/
def otherSwap : SwapParams :=
  { committedSwap with
    route := ⟨[⟨.soroban 30, .soroban 31, 9, .ammConstProd⟩], 0, 0, 0⟩
    recipient := 6
    notBefore := 1
    maxPriceImpactBps := 100 }

def sampleSalt : Bytes32 := ⟨List.replicate 32 7, List.length_replicate⟩

/-- SHA-256 of the payload of both swaps with this salt. -/
def sampleDigest : Bytes32 :=
  ⟨[149, 64, 80, 50, 245, 204, 38, 14, 143, 204, 193, 159, 104, 55, 240, 70, 111, 254, 57, 175, 76,
    20, 7, 148, 96, 96, 57, 95, 117, 79, 208, 209], by decide⟩

def digestHost : Host Unit :=
  { quietHost with
    sha256 := fun bs =>
      if bs = commitmentPayload committedSwap sampleSalt then sampleDigest else zeroHash }

def committed : World Unit :=
  run digestHost quietWorld
    [quietSetup, .invoke [1] (.registerPool 9), .invoke [1] (.configureMev ⟨500, 500, 100, 10, 500⟩),
      .invoke [5] (.commitSwap 5 sampleDigest 1)]

theorem committed_consumes (params : SwapParams)
    (hok : (revealAndExecute digestHost [5, 6] 5 params sampleSalt committed).map
      (fun r => (r.2.mev.commitment sampleDigest).isSome) = .ok false) :
    Consumes digestHost sampleDigest params sampleSalt := by
  obtain ⟨⟨s, w'⟩, hw', hafter⟩ := map_eq_ok.mp hok
  have hbefore : (committed.mev.commitment sampleDigest).isSome = true := by decide
  exact ⟨[5, 6], 5, committed, s, w', hw', isSome_iff_ne_none.mp hbefore, by simpa using hafter⟩

theorem sampleDigest_binds : SameHashed committedSwap otherSwap sampleSalt sampleSalt := by
  have hpayload : commitmentPayload committedSwap sampleSalt = commitmentPayload otherSwap sampleSalt :=
    rfl
  exact (commitment_binds_hashed (H := digestHost) fun _ => hpayload).1 sampleDigest
    (committed_consumes committedSwap (by decide))
    (committed_consumes otherSwap (by decide))

/-- Two different swaps can be revealed against one commitment. -/
theorem sampleDigest_two_swaps :
    Consumes digestHost sampleDigest committedSwap sampleSalt ∧
      Consumes digestHost sampleDigest otherSwap sampleSalt ∧
      commitmentPayload committedSwap sampleSalt = commitmentPayload otherSwap sampleSalt ∧
      committedSwap.route ≠ otherSwap.route ∧ committedSwap.recipient ≠ otherSwap.recipient :=
  ⟨committed_consumes committedSwap (by decide),
    committed_consumes otherSwap (by decide), rfl, by decide, by decide⟩

/-! The errors of the swap itself -/

/-- Not one of the two errors a reveal gives when the commitment is missing or
someone else's. -/
def SwapFailure (e : Failure) : Prop := e ≠ fail .commitmentNotFound ∧ e ≠ fail .invalidReveal

instance (e : Failure) : Decidable (SwapFailure e) := inferInstanceAs (Decidable (_ ∧ _))

theorem checkSwapParams_fails : FailsWith SwapFailure (checkSwapParams H auth sender params w) := by
  unfold checkSwapParams
  repeat' refine failsWith_check (by decide) fun _ => ?_
  exact failsWith_require (by decide)

theorem tempWrite_fails {α : Type} {now ttl : UInt32} {old : Option (Temp α)} {value : α} :
    FailsWith SwapFailure (Temp.write H now old value ttl) :=
  failsWith_check (by decide) fun _ => failsWith_check (by decide) fun _ => failsWith_pure _

theorem rateLimit_fails : FailsWith SwapFailure (rateLimit H sender w) := by
  unfold rateLimit
  split
  · exact failsWith_pure _
  · dsimp only
    split_ifs
    · exact failsWith_pure _
    · refine failsWith_check (by decide) fun _ => ?_
      exact failsWith_bind tempWrite_fails fun _ => failsWith_pure _
    · refine failsWith_bind (failsWith_bind tempWrite_fails fun _ => failsWith_pure _) fun _ => ?_
      exact failsWith_bind tempWrite_fails fun _ => failsWith_pure _

theorem transferAsset_fails {a b : Address} :
    FailsWith SwapFailure (transferAsset H asset a b amount w) := by
  unfold transferAsset
  split
  · exact failsWith_read (by decide) fun _ => failsWith_pure _
  · exact failsWith_pure _

theorem swapHops_fails (hops : List RouteHop) : ∀ (amount : I128) (impact : UInt32) (x : X),
    FailsWith SwapFailure (swapHops H hops amount impact x) := by
  induction hops with
  | nil => exact fun _ _ _ => failsWith_pure _
  | cons hop rest ih =>
    intro amount impact x
    exact failsWith_read (by decide) fun r => ih r.1 (impact + 5) r.2

theorem splitFee_fails {feeRate : UInt32} : FailsWith SwapFailure (splitFee feeRate amount) := by
  unfold splitFee
  repeat' refine failsWith_read (by decide) fun _ => ?_
  exact failsWith_pure _

theorem executionSpread_fails {estimated : I128} :
    FailsWith SwapFailure (executionSpread estimated out) := by
  unfold executionSpread
  split_ifs
  · repeat' refine failsWith_read (by decide) fun _ => ?_
    exact failsWith_okOr (by decide)
  · exact failsWith_pure _

theorem slippageGuards_fails {impact : UInt32} :
    FailsWith SwapFailure (slippageGuards params impact out) := by
  refine failsWith_check (by decide) fun _ => failsWith_bind ?_ fun _ =>
    failsWith_require (by decide)
  unfold checkSpread
  split_ifs
  · exact failsWith_bind executionSpread_fails fun _ => failsWith_require (by decide)
  · exact failsWith_pure _

theorem checkReserves_fails (hops : List (RouteHop × (I128 × I128))) : ∀ x : X,
    FailsWith SwapFailure (checkReserves H hops x) := by
  induction hops with
  | nil => exact fun _ => failsWith_pure _
  | cons hop rest ih =>
    intro x
    rw [checkReserves]
    split_ifs
    · exact ih x
    · split
      · exact failsWith_check (by decide) fun _ => ih _
      · exact ih _

theorem payRecipient_fails {r : FeeRecipient} :
    FailsWith SwapFailure (payRecipient H asset r amount w) := by
  unfold payRecipient
  split_ifs
  · split
    · exact failsWith_read (by decide) fun _ => failsWith_pure _
    · exact failsWith_bind transferAsset_fails fun _ => failsWith_pure _
    · exact failsWith_pure _
  · refine failsWith_bind transferAsset_fails fun _ => ?_
    split <;> exact failsWith_pure _

theorem payRecipients_fails {total : I128} {dust : ℕ} (rs : List FeeRecipient) :
    ∀ (i : ℕ) (remaining : I128) (w : World X),
      FailsWith SwapFailure (payRecipients H asset total dust i remaining rs w) := by
  induction rs with
  | nil => exact fun _ _ _ => failsWith_pure _
  | cons r rest ih =>
    intro i remaining w
    rw [payRecipients]
    split_ifs
    · exact failsWith_bind payRecipient_fails fun _ =>
        failsWith_bind (ih _ _ _) fun _ => failsWith_pure _
    · exact failsWith_bind (ih _ _ _) fun _ => failsWith_pure _

theorem collectFee_fails {fee : I128} : FailsWith SwapFailure (collectFee H asset fee w) := by
  unfold collectFee
  split_ifs
  · dsimp only
    split
    · split_ifs
      · refine failsWith_bind ?_ fun _ => failsWith_pure _
        unfold distributeFeesInternal
        dsimp only
        split_ifs
        · exact failsWith_pure _
        · exact failsWith_bind (payRecipients_fails _ _ _ _) fun _ => failsWith_pure _
      · exact failsWith_pure _
    · exact failsWith_pure _
  · exact failsWith_pure _

theorem executeSwapInternal_fails :
    FailsWith SwapFailure (executeSwapInternal H auth sender params w) := by
  unfold executeSwapInternal
  refine failsWith_bind checkSwapParams_fails fun _ => failsWith_bind rateLimit_fails fun _ => ?_
  refine failsWith_read (by decide) fun _ =>
    failsWith_read (by decide) fun _ => ?_
  refine failsWith_bind transferAsset_fails fun _ => failsWith_bind (swapHops_fails _ _ _ _) fun _ => ?_
  refine failsWith_bind splitFee_fails fun _ => failsWith_bind slippageGuards_fails fun _ => ?_
  refine failsWith_bind (checkReserves_fails _ _) fun _ => failsWith_bind transferAsset_fails fun _ => ?_
  refine failsWith_bind collectFee_fails fun _ => failsWith_bind ?_ fun _ => failsWith_pure _
  exact failsWith_read (by decide) fun _ => failsWith_pure _

/-! Commitments under the calls of others -/

/-- A commitment is readable up to the ledger it expires at. -/
def CommitmentsLast (w : World X) : Prop :=
  ∀ hash t, w.mev.commitment hash = some t → t.value.expiresAt.toNat ≤ t.liveUntil

theorem commitSwap_eq_ok {deposit : I128} (h : commitSwap H auth sender hash deposit w = .ok w') :
    ∃ t, w'.mev.commitment = Function.update w.mev.commitment hash (some t) ∧
      t.value.expiresAt.toNat ≤ t.liveUntil := by
  simp only [commitSwap, setCommitment, Temp.write, bind_eq_ok, pure_eq_ok] at h
  obtain ⟨-, -, -, -, -, -, -, -, mev, -, v, ⟨t, ⟨-, -, -, -, rfl⟩, rfl⟩, rfl⟩ := h
  refine ⟨_, rfl, ?_⟩
  -- the sum of two `u32` can only wrap downwards
  have hle : (w.ledger + mev.rateLimitWindowLedgers).toUInt64.toNat ≤
      w.ledger.toNat + mev.rateLimitWindowLedgers.toNat := by
    rw [UInt32.toNat_toUInt64, UInt32.toNat_add]
    exact Nat.mod_le _ _
  exact hle.trans (le_max_right _ _)

theorem invoke_commitmentsLast (hw : CommitmentsLast w)
    (h : invoke H auth c w = .ok (r, w')) : CommitmentsLast w' := by
  intro hash t ht
  by_cases hc : Area.commitments ∈ c.touches
  · cases c <;> simp only [Call.touches, mem_cons, not_mem_nil, reduceCtorEq, or_false] at hc
    case commitSwap sender hash' deposit =>
      simp only [invoke, noRet_eq_ok] at h
      obtain ⟨t', ht', hlast⟩ := commitSwap_eq_ok h.2
      rw [ht'] at ht
      rcases eq_or_ne hash hash' with rfl | hne
      · rw [update_self, some.injEq] at ht
        exact ht ▸ hlast
      · exact hw hash t (by simpa [hne] using ht)
    case revealAndExecute sender params salt =>
      simp only [invoke, swapRet_eq_ok] at h
      obtain ⟨s, -, h⟩ := h
      rw [(revealAndExecute_eq_ok h).2.2] at ht
      rcases eq_or_ne hash (H.sha256 (commitmentPayload params salt)) with rfl | hne
      · simp [update_self] at ht
      · exact hw hash t (by simpa [hne] using ht)
  · exact hw hash t ((invoke_touches h).commitments hc ▸ ht)

theorem Reachable.commitmentsLast (hw : Reachable H w) : CommitmentsLast w := by
  obtain ⟨ledger, wasm, ext, ops, rfl⟩ := hw
  refine run_keeps (P := CommitmentsLast) (fun _ _ _ hw => hw) (fun _ _ hw => hw)
    (fun _ _ _ _ _ hw h => invoke_commitmentsLast hw h) ops ?_
  intro hash t ht
  cases ht

/-- The call is made without the authorization of `a`. -/
def ByOthers (a : Address) : Op X → Prop
  | .invoke auth _ => a ∉ auth
  | _ => True

def NoCommitOf (hash : Bytes32) : Op X → Prop
  | .invoke _ (.commitSwap _ hash' _) => hash' ≠ hash
  | _ => True

theorem invoke_commitment_kept
    (ht : w.mev.commitment hash = some t) (hother : t.value.sender ∉ auth)
    (hhash : NoCommitOf hash (.invoke auth c : Op X)) (h : invoke H auth c w = .ok (r, w')) :
    w'.mev.commitment hash = some t := by
  by_cases hc : Area.commitments ∈ c.touches
  · cases c <;> simp only [Call.touches, mem_cons, not_mem_nil, reduceCtorEq, or_false] at hc
    case commitSwap sender hash' deposit =>
      simp only [invoke, noRet_eq_ok] at h
      obtain ⟨t', ht', -⟩ := commitSwap_eq_ok h.2
      rw [ht', update_of_ne (Ne.symm hhash), ht]
    case revealAndExecute sender params salt =>
      simp only [invoke, swapRet_eq_ok] at h
      obtain ⟨s, -, h⟩ := h
      obtain ⟨hauth, ⟨d, hd, hsender⟩, hupdate⟩ := revealAndExecute_eq_ok h
      -- a reveal needs the authorization of whoever made the commitment
      have hne : hash ≠ H.sha256 (commitmentPayload params salt) := by
        rintro rfl
        rw [getCommitment, ht, Temp.live, bind_some] at hd
        split_ifs at hd with hlive
        rw [some.injEq] at hd
        exact hother (hd ▸ hsender ▸ hauth)
      rw [hupdate, update_of_ne hne, ht]
  · rw [(invoke_touches h).commitments hc, ht]

theorem run_commitment_kept {ops : List (Op X)}
    (ht : w.mev.commitment hash = some t) (hothers : ∀ op ∈ ops, ByOthers t.value.sender op)
    (hhash : ∀ op ∈ ops, NoCommitOf hash op) : (run H w ops).mev.commitment hash = some t := by
  induction ops generalizing w with
  | nil => exact ht
  | cons op ops ih =>
    rw [forall_mem_cons] at hothers hhash
    refine ih ?_ hothers.2 hhash.2
    refine step_inv (P := fun w : World X => w.mev.commitment hash = some t) ht (fun _ _ => ht)
      (fun _ => ht) ?_
    rintro auth c r w' rfl h
    exact invoke_commitment_kept ht hothers.1 hhash.1 h

/-- A commitment of `a` that has not expired can be revealed by `a` after any
calls of others, none of which commits the same hash: the reveal finds it and
takes it for `a`'s. -/
theorem reveal_not_blocked {a : Address} {hash salt : Bytes32} {d : CommitmentData}
    {ops : List (Op X)} {params : SwapParams} (hw : Reachable H w)
    (hd : getCommitment w hash = some d) (ha : d.sender = a)
    (hothers : ∀ op ∈ ops, ByOthers a op) (hhash : ∀ op ∈ ops, NoCommitOf hash op)
    (htime : (run H w ops).now ≤ d.expiresAt)
    (hparams : H.sha256 (commitmentPayload params salt) = hash) :
    revealAndExecute H auth a params salt (run H w ops) ≠ .error (fail .commitmentNotFound) ∧
      revealAndExecute H auth a params salt (run H w ops) ≠ .error (fail .invalidReveal) := by
  obtain ⟨t, ht, hlive⟩ := bind_eq_some_iff.mp hd
  split_ifs at hlive with hnow
  obtain rfl := some.inj hlive
  subst ha hparams
  have hkept := run_commitment_kept (H := H) ht hothers hhash
  have hfound : getCommitment (run H w ops) (H.sha256 (commitmentPayload params salt)) =
      some t.value := by
    have hlast := hw.commitmentsLast _ t ht
    have hle := UInt64.le_iff_toNat_le.mp htime
    rw [World.now, UInt32.toNat_toUInt64] at hle
    rw [getCommitment, hkept, Temp.live, bind_some, if_pos (hle.trans hlast)]
  have hfails : FailsWith SwapFailure
      (revealAndExecute H auth t.value.sender params salt (run H w ops)) := by
    unfold revealAndExecute
    refine failsWith_check (by decide) fun _ =>
      failsWith_check (by decide) fun _ => ?_
    refine failsWith_okOr_bind hfound (failsWith_require_bind rfl ?_)
    exact failsWith_check (by decide) fun _ => executeSwapInternal_fails
  exact ⟨fun h => (hfails _ h).1 rfl, fun h => (hfails _ h).2 rfl⟩

def committedData : CommitmentData :=
  { sender := 5, depositAmount := 1, commitmentHash := sampleDigest, createdAt := 1, expiresAt := 101 }

theorem reachable_committed : Reachable digestHost committed := ⟨1, zeroHash, (), _, rfl⟩

def othersCommit : List (Op Unit) := [.advance 10, .invoke [6] (.commitSwap 6 sampleSalt 1)]

theorem othersCommit_harmless :
    revealAndExecute digestHost [5] 5 committedSwap sampleSalt (run digestHost committed othersCommit) ≠
        .error (fail .commitmentNotFound) ∧
      revealAndExecute digestHost [5] 5 committedSwap sampleSalt (run digestHost committed
          othersCommit) ≠
        .error (fail .invalidReveal) := by
  have hd : getCommitment committed sampleDigest = some committedData := by decide
  have hothers : ∀ op ∈ othersCommit, ByOthers 5 op := by simp [othersCommit, ByOthers]
  have hhash : ∀ op ∈ othersCommit, NoCommitOf sampleDigest op := by
    simp only [othersCommit, forall_mem_cons]
    exact ⟨trivial, show sampleSalt ≠ sampleDigest by decide, by simp⟩
  exact reveal_not_blocked reachable_committed hd rfl hothers hhash (by decide) rfl

/-- Account 6 copies the hash from the ledger; the commitment is then its own. -/
theorem copied_hash_blocks :
    Reachable digestHost committed ∧ getCommitment committed sampleDigest = some committedData ∧
      committedData.sender = 5 ∧
      (run digestHost committed [.invoke [6] (.commitSwap 6 sampleDigest 1)]).now ≤
        committedData.expiresAt ∧
      digestHost.sha256 (commitmentPayload committedSwap sampleSalt) = sampleDigest ∧
      revealAndExecute digestHost [5] 5 committedSwap sampleSalt
        (run digestHost committed [.invoke [6] (.commitSwap 6 sampleDigest 1)]) =
          .error (fail .invalidReveal) := by
  have herror : (revealAndExecute digestHost [5] 5 committedSwap sampleSalt
      (run digestHost committed [.invoke [6] (.commitSwap 6 sampleDigest 1)])).map (fun _ => ()) =
        .error (fail .invalidReveal) := by decide
  exact ⟨reachable_committed, by decide, rfl, by decide, rfl, map_eq_error.mp herror⟩

end StellarRoute.Contracts
