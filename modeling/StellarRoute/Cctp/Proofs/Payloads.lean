import StellarRoute.Cctp.Sanity.Journey

/-! The unsigned payloads that the prepare calls return. A payload is reserved
in one table and recorded in another, and a caller may be answered from the
reservation alone. -/

namespace StellarRoute.Cctp

open Lib Lib.Interleave List

/-- The store shows the payload that the call returned. -/
def Call.Recorded (c : Codec) (cfg : CctpConfig) (s : State) : Call → Reply → Prop
  | .prepareMint id, .mint bundle => bundle.isTrustline = false →
    ∃ t, s.transfer id = some t ∧ t.status = .mintPrepared ∧
      t.mintPayloadHash = some bundle.payloadHash
  | .prepareBurnWallet id, .burn bundle =>
    ∃ t payloadHash, s.transfer id = some t ∧
      walletPayloadHash c cfg bundle.primary = .ok payloadHash ∧
      t.burnPayloadHash = some payloadHash ∧ t.burnPrepareStep = some bundle.step.str
  | _, _ => True

/-- The record shows the payload that is reserved. -/
def Backed (s : State) (row : CctpActivePrepare) : Prop :=
  ∃ t, s.transfer row.transferId = some t ∧
    match row.preparedPayload with
    | some (.mint _) => t.status = .mintPrepared ∧ t.mintPayloadHash = some row.payloadHash
    | some (.burn bundle) =>
      t.burnPayloadHash = some row.payloadHash ∧ t.burnPrepareStep = some bundle.step.str
    | none => True

/-- A live reservation that would answer the operation is backed by the record. -/
def CacheBacked (env : Env) (s : State) : Op → Prop
  | .lock (.getForTransfer id) => ∀ row ∈ s.liveRows env.now id,
    (∃ bundle, row.preparedPayload = some (.mint bundle)) → Backed s row
  | .lock (.tryAcquire r) => ∀ row ∈ s.liveRows env.now r.transferId,
    row.sourceAccount = r.sourceAccount → row.payloadHash = r.payloadHash → Backed s row
  | _ => True

section Rows

variable {c : Codec} {cfg : CctpConfig} {row : CctpActivePrepare} {now : Time}

theorem mem_liveRows {id : Uuid} {s : State} :
    row ∈ s.liveRows now id ↔ row ∈ s.locks ∧ row.transferId = id ∧ now < row.expiresAt := by
  simp [State.liveRows, mem_filter]

theorem tryAcquire_live {r : CctpActivePrepare} {s s' : State}
    (h : tryAcquire now r s = .ok (.idempotent row, s')) :
    row ∈ s.liveRows now r.transferId ∧ row.sourceAccount = r.sourceAccount ∧
      row.payloadHash = r.payloadHash := by
  unfold tryAcquire at h
  cases hfound : s.locks.find? fun row =>
      row.sourceAccount = r.sourceAccount && now < row.expiresAt with
  | none =>
    simp only [hfound] at h
    split_ifs at h
    cases h
  | some active =>
    simp only [hfound] at h
    split_ifs at h with hid hhash
    · cases h
      have hlive := find?_some hfound
      simp only [Bool.and_eq_true, decide_eq_true_eq] at hlive
      exact ⟨mem_liveRows.mpr ⟨mem_of_find?_eq_some hfound, hid, hlive.2⟩, hlive.1, hhash⟩
    all_goals cases h

theorem serve_rows_match (choices : List (Choice Env Call)) :
    ∀ row ∈ (serve c cfg choices).state.locks, row.Matches c cfg := by
  apply serve_inv (J := fun _ s => ∀ row ∈ s.locks, row.Matches c cfg) _ _
    (servedUnder_true c cfg choices)
  · intro E _ L env s o h hL hjust _ row hrow
    rcases mem_locks_exec hrow with hold | ⟨q, rfl, rfl⟩
    · exact h row hold
    · exact hjust
  · intro row hrow
    exact absurd hrow not_mem_nil

end Rows

section Recorded

variable {c : Codec} {cfg : CctpConfig} {id : Uuid} {bundle : PreparedMintBundle} {s : State}
  {env : Env} {t : CctpTransfer} {version : ℕ}

theorem Backed.mint {row : CctpActivePrepare} (h : Backed s row) (hmatches : row.Matches c cfg)
    (hrow : row.preparedPayload = some (.mint bundle)) (hid : row.transferId = id) :
    (Call.prepareMint id).Recorded c cfg s (.mint bundle) := by
  obtain ⟨t, ht, hshown⟩ := h
  rw [hrow] at hshown
  simp only [CctpActivePrepare.Matches, hrow] at hmatches
  rw [hid] at ht
  exact fun _ => ⟨t, ht, hshown.1, hmatches.1 ▸ hshown.2⟩

/-! The store showed the payload before or after one of the operations of the call. -/

variable {L : Trace} (hbacked : ∀ e ∈ L, CacheBacked e.env e.state e.op)
  (hrows : ∀ e ∈ L, ∀ row ∈ e.state.locks, row.Matches c cfg)
include hbacked hrows

theorem BurnAnswer.recorded {bundle : PreparedBurnBundle}
    (h : BurnAnswer c cfg (· ∈ L) id bundle) :
    ∃ e ∈ L, (Call.prepareBurnWallet id).Recorded c cfg e.state (.burn bundle) ∨
      (Call.prepareBurnWallet id).Recorded c cfg (e.after (exec c)) (.burn bundle) := by
  rcases h with ⟨version, payloadHash, t, hhash, env, s, he, hok⟩ |
    ⟨r, row, rfl, hrow, env, s, he, hok⟩
  · obtain ⟨-, t0, -, hmoves, -⟩ := transition_eq_ok.mp (StoreOp.exec_eq_ok hok)
    obtain ⟨a, e, hpatch⟩ := burnPatch_eq bundle payloadHash
    rw [hpatch] at hmoves
    refine ⟨_, he, .inr ⟨t, payloadHash, returned_stored hok rfl, hhash, ?_, ?_⟩⟩
    · rw [hmoves.eq]
      rfl
    · rw [hmoves.eq]
      rfl
  · obtain ⟨hlive, hsource, hhash⟩ := tryAcquire_live (LockOp.exec_eq_ok hok)
    obtain ⟨hmem, hid, -⟩ := mem_liveRows.mp hlive
    obtain ⟨t, ht, hshown⟩ := hbacked _ he row hlive hsource hhash
    have hmatches := hrows _ he row hmem
    rw [hrow] at hshown
    simp only [CctpActivePrepare.Matches, hrow] at hmatches
    rw [hid] at ht
    exact ⟨_, he, .inl ⟨t, row.payloadHash, ht, hmatches.1, hshown.1, hshown.2⟩⟩

theorem MintAnswer.recorded (h : MintAnswer c (· ∈ L) id bundle) :
    ∃ e ∈ L, (Call.prepareMint id).Recorded c cfg e.state (.mint bundle) ∨
      (Call.prepareMint id).Recorded c cfg (e.after (exec c)) (.mint bundle) := by
  rcases h with ⟨version, expiresAt, submitter, t, env, s, he, hok⟩ |
    ⟨row, hrow, ⟨env, s, he, hok⟩ | ⟨r, rfl, env, s, he, hok⟩⟩
  · obtain ⟨-, t0, -, hmoves, -⟩ := transition_eq_ok.mp (StoreOp.exec_eq_ok hok)
    refine ⟨_, he, .inr fun _ => ⟨t, returned_stored hok rfl, ?_, ?_⟩⟩
    · rw [hmoves.eq]
      rfl
    · rw [hmoves.eq]
      rfl
  · have hfound := LockOp.exec_eq_ok hok
    simp only [LockOp.statement, getForTransfer, Except.ok.injEq, Prod.mk.injEq] at hfound
    have hlive := mem_of_getElem? hfound.1
    obtain ⟨hmem, hid, -⟩ := mem_liveRows.mp hlive
    exact ⟨_, he, .inl ((hbacked _ he row hlive ⟨bundle, hrow⟩).mint (hrows _ he row hmem) hrow hid)⟩
  · obtain ⟨hlive, hsource, hhash⟩ := tryAcquire_live (LockOp.exec_eq_ok hok)
    obtain ⟨hmem, hid, -⟩ := mem_liveRows.mp hlive
    exact ⟨_, he, .inl ((hbacked _ he row hlive hsource hhash).mint (hrows _ he row hmem) hrow hid)⟩

end Recorded

/-- The call that comes after `before` has returned `reply` when `mid` has happened. -/
def Returned (c : Codec) (cfg : CctpConfig) (before : List (Choice Env Call)) (call : Call)
    (mid : List (Choice Env Call)) (reply : Reply) : Prop :=
  ∃ th, (serve c cfg (before ++ .spawn call :: mid)).threads[
    (serve c cfg before).threads.length]? = some th ∧ th.prog = .ret (.ok reply)

/-- In every run in which a prepare call is never answered by a reservation that the record does not
show, a prepare call returns only what the store has shown at some moment of the call: for a mint
bundle a `MintPrepared` transfer with its hash, for a burn bundle its hash and its step. -/
theorem prepared_payload_recorded (c : Codec) (cfg : CctpConfig) {before mid : List (Choice Env Call)}
    {call : Call} {reply : Reply}
    (hok : ServedUnder c cfg CacheBacked (before ++ .spawn call :: mid))
    (hreturned : Returned c cfg before call mid reply) :
    ∃ since, since <+: mid ∧
      call.Recorded c cfg (serve c cfg (before ++ .spawn call :: since)).state reply := by
  obtain ⟨th, hth, hprog⟩ := hreturned
  obtain ⟨th', hth', hcall, hmoments⟩ := call_moments (exec c) (start c cfg) Callers.initial
    before call mid
  obtain rfl : th = th' := Option.mem_unique hth hth'
  have hmem := mem_of_getElem? hth
  have hsound := run_sound State.empty (fun call => program_justified call)
    (before ++ .spawn call :: mid) th hmem
  rw [hprog, hcall] at hsound
  have hanswered : Answered c cfg th.trace call reply := hsound reply rfl
  have hbacked : ∀ e ∈ th.trace, CacheBacked e.env e.state e.op :=
    fun e he => performed_allowed hok ⟨th, hmem, he⟩
  have hrows : ∀ e ∈ th.trace, ∀ row ∈ e.state.locks, row.Matches c cfg := by
    intro e he
    obtain ⟨since, choice, -, hstate, -⟩ := hmoments e he
    rw [← hstate]
    exact serve_rows_match _
  -- an operation of the call at which the store showed the payload is a moment of the run
  have hmoment : (∃ e ∈ th.trace, call.Recorded c cfg e.state reply ∨
      call.Recorded c cfg (e.after (exec c)) reply) → ∃ since, since <+: mid ∧
      call.Recorded c cfg (serve c cfg (before ++ .spawn call :: since)).state reply := by
    rintro ⟨e, he, hrecorded⟩
    obtain ⟨since, choice, hle, hstate, hafter⟩ := hmoments e he
    rcases hrecorded with h | h
    · exact ⟨since, (prefix_append _ _).trans hle, by rw [serve, hstate]; exact h⟩
    · exact ⟨since ++ [choice], hle, by rw [serve, hafter]; exact h⟩
  unfold Answered at hanswered
  split at hanswered
  · exact hmoment (hanswered.recorded hbacked hrows)
  · next id bundle =>
    by_cases hmint : bundle.isTrustline = false
    · exact hmoment ((hanswered hmint).recorded hbacked hrows)
    · exact ⟨[], nil_prefix, fun h => absurd h hmint⟩
  · next hburn hmint =>
    refine ⟨[], nil_prefix, ?_⟩
    unfold Call.Recorded
    split
    · next id bundle => exact absurd rfl (hmint id bundle rfl)
    · next id bundle => exact absurd rfl (hburn id bundle rfl)
    · trivial

/-! ### One USDC, prepared twice -/

def plainBurnBundle : PreparedBurnBundle where
  step := .burn
  approvalRequired := false
  primary := .stellarXdr STELLAR_TESTNET_PASSPHRASE "" none
  requiredApprovals := []
  requiredPriorPayloads := []
  expiresAt := 1000
  approvalExpirationLedger := none

def walletWorld : Env :=
  Outlook.env { plainOutlook .pending .pending with burnBundle := .ok plainBurnBundle }

def goOn (i n : ℕ) : List (Choice Env Call) := List.replicate n (.step i walletWorld)

def quotedOnce : List (Choice Env Call) := .spawn (.quote plainRequest "") :: goOn 0 10

/-- The transfer is quoted. A burn payload is reserved, and the database refuses to record it. -/
def reservedOnce : List (Choice Env Call) :=
  quotedOnce ++ .spawn (.prepareBurnWallet 0) :: goOn 1 9 ++
    [.step 1 { walletWorld with database := .refuses }]

/-- No reservation would answer the operation. -/
def unreserved (env : Env) (s : State) : Op → Bool
  | .lock (.getForTransfer id) => (s.liveRows env.now id).isEmpty
  | .lock (.tryAcquire r) => (s.liveRows env.now r.transferId).isEmpty
  | _ => true

theorem cacheBacked_of_unreserved (env : Env) (s : State) (o : Op) (h : unreserved env s o) :
    CacheBacked env s o := by
  unfold CacheBacked
  split
  · next id =>
    intro row hrow
    rw [isEmpty_iff.mp h] at hrow
    exact absurd hrow not_mem_nil
  · next r =>
    intro row hrow
    rw [isEmpty_iff.mp h] at hrow
    exact absurd hrow not_mem_nil
  · trivial

/-- The first preparation records its payload. -/
theorem prepared_payload_recorded_plain : ∃ since, since <+: goOn 1 10 ∧
    (Call.prepareBurnWallet 0).Recorded plainCodec plainConfig (serve plainCodec plainConfig
      (quotedOnce ++ .spawn (.prepareBurnWallet 0) :: since)).state (.burn plainBurnBundle) := by
  apply prepared_payload_recorded
  · exact stepsOk_of_check cacheBacked_of_unreserved (by decide)
  · exact Pool.ret_of_outcome (by decide)

/-- The reservation of a payload that was never recorded answers the next call. -/
theorem reserved_payload_unrecorded : ∃ before mid,
    Returned plainCodec plainConfig before (.prepareBurnWallet 0) mid (.burn plainBurnBundle) ∧
    ∀ since, since <+: mid → ¬ (Call.prepareBurnWallet 0).Recorded plainCodec plainConfig
      (serve plainCodec plainConfig (before ++ .spawn (.prepareBurnWallet 0) :: since)).state
      (.burn plainBurnBundle) := by
  refine ⟨reservedOnce, goOn 2 8, Pool.ret_of_outcome (by decide +kernel), fun since hsince => ?_⟩
  have hall : ∀ since ∈ (goOn 2 8).inits, (((serve plainCodec plainConfig
      (reservedOnce ++ .spawn (.prepareBurnWallet 0) :: since)).state.transfer 0).all
        fun t => t.burnPayloadHash.isNone) = true := by
    rw [← all_eq_true]
    decide +kernel
  rintro ⟨t, payloadHash, ht, -, hhash, -⟩
  have hnone := hall since ((mem_inits since _).mpr hsince)
  simp [ht, Option.all_some, hhash] at hnone

end StellarRoute.Cctp
