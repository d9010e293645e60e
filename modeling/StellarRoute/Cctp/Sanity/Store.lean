import StellarRoute.Cctp.Spec.Service

/-! What a statement can do to the transfers: nothing, add one new record, or
rewrite one record as `Rewrites` says. Everything else about the stores is
derived from that. A record that a statement returns is the stored one. -/

namespace StellarRoute.Cctp

open Lib Lib.Interleave Option

section State

variable {s s' : State} {t t' : CctpTransfer} {id : Uuid}

theorem State.id_of_transfer (h : s.transfer id = some t) : t.transferId = id :=
  Table.key_of_find h

theorem State.transfer_empty : State.empty.transfer id = none := rfl

theorem State.transfer_put_self (h : s.transfer t.transferId = some t') :
    (s.put t).transfer t.transferId = some t := Table.find_set_self h

theorem State.transfer_put_ne (hne : t.transferId ≠ id) :
    (s.put t).transfer id = s.transfer id := Table.find_set_ne hne

theorem State.put_put (h : t.transferId = t'.transferId) : (s.put t').put t = s.put t := by
  unfold State.put
  rw [Table.set_set h]

theorem State.transfer_put {t0 : CctpTransfer} (h : s.transfer id = some t0)
    (hid : t.transferId = t0.transferId) : (s.put t).transfer id = some t := by
  have hkey : t.transferId = id := hid.trans (State.id_of_transfer h)
  subst hkey
  exact State.transfer_put_self h

theorem State.transfer_congr (h : s'.transfers = s.transfers) : s'.transfer id = s.transfer id := by
  unfold State.transfer
  rw [h]

end State

section Attempt

variable {ε α σ : Type} {db : Database} {lost : ε} {x : Except ε (α × σ)} {s : σ} {a : α}

theorem attempt_cases (db : Database) (lost : ε) (x : Except ε (α × σ)) (s : σ) :
    (attempt db lost x s).2 = s ∨ ∃ a, x = .ok (a, (attempt db lost x s).2) := by
  rcases x with e | ⟨a, s'⟩ <;> cases db
  case ok.answers | ok.replyLost => exact .inr ⟨a, rfl⟩
  all_goals exact .inl rfl

theorem attempt_inv {P : σ → Prop} (hs : P s) (h : ∀ a s', x = .ok (a, s') → P s') :
    P (attempt db lost x s).2 := by
  rcases attempt_cases db lost x s with hsame | ⟨a, hok⟩
  · exact hsame.symm ▸ hs
  · exact h a _ hok

theorem attempt_eq_ok (h : (attempt db lost x s).1 = .ok a) :
    x = .ok (a, (attempt db lost x s).2) := by
  rcases x with e | ⟨a', s'⟩ <;> cases db <;> simp only [attempt, reduceCtorEq] at h ⊢
  cases h
  rfl

@[simp] theorem attempt_answers_ok {s' : σ} :
    attempt .answers lost (.ok (a, s') : Except ε (α × σ)) s = (.ok a, s') := rfl

end Attempt

/-- The transfer that a statement is about. -/
def StoreOp.target : StoreOp → Uuid
  | .insert t => t.transferId
  | .get id => id
  | .tryAcquirePollLease id _ _ => id
  | .claimReattestLease id _ _ _ => id
  | .finalizeReattestSuccess id _ => id
  | .finalizeReattestFailure id _ _ _ _ => id
  | .transition id _ _ _ => id
  | .recordApprovalSubmission id _ _ _ => id
  | .recordVerifiedBurn id _ _ => id
  | .recordMintPrepared id _ _ _ _ => id
  | .recordMintSubmission id _ _ => id
  | .recordMintCompleted id _ => id

/-- The record in the answer of a statement. -/
def StoreOp.returned : (o : StoreOp) → o.Ret → Option CctpTransfer
  | .insert _, _ => none
  | .get _, r => r
  | .tryAcquirePollLease .., r => r.map Prod.fst
  | .claimReattestLease .., r => r.map Prod.fst
  | .finalizeReattestSuccess .., r => r
  | .finalizeReattestFailure .., r => r
  | .transition .., r => some r
  | .recordApprovalSubmission .., r => some r
  | .recordVerifiedBurn .., r => some r
  | .recordMintPrepared .., r => some r
  | .recordMintSubmission .., r => some r
  | .recordMintCompleted .., r => some r

/-- A transition under the version check: the guards, and the record it leaves. -/
structure Moves (now : Time) (s : State) (version : ℕ) (status : CctpTransferStatus)
    (patch : TransferPatch) (t t' : CctpTransfer) : Prop where
  version_eq : t.version = version
  allowed : isAllowedTransition t.status status
  unique : checkUnique s t' = .ok ()
  eq : t' = applyPatch now status patch t

def StoreOp.Rewrites (now : Time) (s : State) (t t' : CctpTransfer) : StoreOp → Prop
  | .insert _ => False
  | .get _ => False
  | .tryAcquirePollLease _ leaseSecs _ =>
    t' = { t with
      pollLeaseUntil := some (now + seconds leaseSecs), lastPolledAt := some now
      updatedAt := now }
  | .claimReattestLease _ owner leaseSecs _ =>
    t' = { t with
      reattestLeaseOwnerHash := some owner, reattestLeaseUntil := some (now + seconds leaseSecs)
      updatedAt := now }
  | .finalizeReattestSuccess _ owner => claimedBy owner t ∧ t' = reattestedRow now t
  | .finalizeReattestFailure _ owner providerCode providerError cooldownSecs =>
    claimedBy owner t ∧ t' = refusedRow now providerCode providerError cooldownSecs t
  | .transition _ version status patch => Moves now s version status patch t t'
  | .recordApprovalSubmission _ version txHash verifiedAt =>
    t.version = version ∧ t.status = .burnPrepared ∧ checkUnique s t' = .ok () ∧
    t' = { t with
      sourceApprovalTxHash := some txHash, sourceApprovalVerifiedAt := some verifiedAt
      version := t.version + 1, updatedAt := now }
  | .recordVerifiedBurn _ version txHash =>
    t.version = version ∧ t.status = .burnPrepared ∧ checkUnique s t' = .ok () ∧
      t' = burnedRow now txHash t
  | .recordMintPrepared _ version payloadHash expiresAt mintSubmitter =>
    Moves now s version .mintPrepared
      { mintPayloadHash := some payloadHash, mintPayloadExpiresAt := some expiresAt
        mintSubmitter } t t'
  | .recordMintSubmission _ version txHash =>
    Moves now s version .mintSubmitted { destinationTxHash := some txHash } t t'
  | .recordMintCompleted _ version => Moves now s version .completed {} t t'

/-! A record keeps its quoted terms, and whatever else is rewritten, apart from leases and times, goes
with a new version. -/

/-- The fields that are fixed by the quote; the others are blanked. -/
def CctpTransfer.terms (t : CctpTransfer) : CctpTransfer :=
  { t with
    mintSubmitter := none, runtimeFeeQuote := none, maxFee := none, feeExpiresAt := none
    status := .created, sourceTxHash := none, sourceApprovalTxHash := none
    sourceApprovalVerifiedAt := none, destinationTxHash := none, irisMessageHash := none
    messageNonce := none, rawMessage := none, attestation := none, retryCount := 0
    lastProviderError := none, lastProviderCode := none, version := 0, updatedAt := 0
    terminalAt := none, mintPayloadHash := none, mintPayloadExpiresAt := none
    approvalPayloadHash := none, approvalExpirationLedger := none, burnPayloadHash := none
    burnPrepareStep := none, lastPolledAt := none, pollLeaseUntil := none
    reattestLeaseOwnerHash := none, reattestLeaseUntil := none, reattestAttemptCount := 0
    reattestCooldownUntil := none }

/-- The record without its leases and the time of the last update. -/
def CctpTransfer.versioned (t : CctpTransfer) : CctpTransfer :=
  { t with
    updatedAt := 0, lastPolledAt := none, pollLeaseUntil := none
    reattestLeaseOwnerHash := none, reattestLeaseUntil := none }

structure Evolves (t t' : CctpTransfer) : Prop where
  terms_eq : t'.terms = t.terms
  newer_or_same : t.version < t'.version ∨ t'.versioned = t.versioned

theorem Evolves.refl (t : CctpTransfer) : Evolves t t := ⟨rfl, .inr rfl⟩

theorem Evolves.trans {t1 t2 t3 : CctpTransfer} (h1 : Evolves t1 t2) (h2 : Evolves t2 t3) :
    Evolves t1 t3 := by
  refine ⟨h2.terms_eq.trans h1.terms_eq, ?_⟩
  rcases h1.newer_or_same with h | h <;> rcases h2.newer_or_same with h' | h'
  · exact .inl (h.trans h')
  · exact .inl (h.trans_eq (congrArg CctpTransfer.version h').symm)
  · exact .inl ((congrArg CctpTransfer.version h).symm.trans_lt h')
  · exact .inr (h'.trans h)

section Statements

variable {now : Time} {s s' : State} {t t' : CctpTransfer} {id : Uuid} {version : ℕ}
  {patch : TransferPatch} {status : CctpTransferStatus} {txHash : String}

theorem transition_eq_ok : transition now id version status patch s = .ok (t', s') ↔
      validatePatch patch = .ok () ∧ ∃ t, s.transfer id = some t ∧
        Moves now s version status patch t t' ∧ s' = s.put t' := by
  simp only [transition, bind_eq_ok, okOr_eq_ok, require_eq_ok, pure_eq_ok, Prod.mk.injEq,
    exists_const]
  constructor
  · rintro ⟨t, ht, hversion, hallowed, u, hpatch, u', hunique, rfl, rfl⟩
    exact ⟨hpatch, t, ht, ⟨hversion, hallowed, hunique, rfl⟩, rfl⟩
  · rintro ⟨hpatch, t, ht, ⟨hversion, hallowed, hunique, rfl⟩, rfl⟩
    exact ⟨t, ht, hversion, hallowed, (), hpatch, (), hunique, rfl, rfl⟩

theorem transition_status
    (h : transition now id version status patch s = .ok (t', s')) : t'.status = status := by
  obtain ⟨-, t, -, hmoves, -⟩ := transition_eq_ok.mp h
  rw [hmoves.eq]
  rfl

theorem verifiedBurn_eq_ok : verifiedBurn now id version txHash s = .ok (t', s') ↔
      ∃ t, s.transfer id = some t ∧
        (StoreOp.recordVerifiedBurn id version txHash).Rewrites now s t t' ∧ s' = s.put t' := by
  simp only [verifiedBurn, bind_eq_ok, okOr_eq_ok, require_eq_ok, pure_eq_ok, mapError_eq_ok,
    Prod.mk.injEq, exists_const]
  constructor
  · rintro ⟨t, ht, hversion, hstatus, u, hunique, rfl, rfl⟩
    exact ⟨t, ht, ⟨hversion, hstatus, hunique, rfl⟩, rfl⟩
  · rintro ⟨t, ht, ⟨hversion, hstatus, hunique, rfl⟩, rfl⟩
    exact ⟨t, ht, hversion, hstatus, (), hunique, rfl, rfl⟩

theorem claimedBy_eq_true {owner : String} (h : claimedBy owner t = true) :
    t.status = .attestationFailed ∧ t.reattestLeaseOwnerHash = some owner := by
  simpa [claimedBy] using h

theorem StoreOp.Rewrites.evolves {o : StoreOp} (h : o.Rewrites now s t t') : Evolves t t' := by
  cases o with
  | insert t | get id => exact h.elim
  | tryAcquirePollLease id leaseSecs minIntervalSecs
  | claimReattestLease id owner leaseSecs maxAttempts =>
    rw [h]
    exact ⟨rfl, .inr rfl⟩
  | finalizeReattestSuccess id owner | finalizeReattestFailure id owner code error cooldown =>
    rw [h.2]
    exact ⟨rfl, .inl (Nat.lt_succ_self _)⟩
  | recordApprovalSubmission id version txHash verifiedAt | recordVerifiedBurn id version txHash =>
    rw [h.2.2.2]
    exact ⟨rfl, .inl (Nat.lt_succ_self _)⟩
  | transition id version status patch | recordMintPrepared id version hash expiresAt submitter
  | recordMintSubmission id version txHash | recordMintCompleted id version =>
    rw [Moves.eq h]
    exact ⟨rfl, .inl (Nat.lt_succ_self _)⟩

theorem StoreOp.Rewrites.id_eq {o : StoreOp} (h : o.Rewrites now s t t') :
    t'.transferId = t.transferId := by
  have hterms := congrArg CctpTransfer.transferId h.evolves.terms_eq
  exact hterms

/-- A statement that was carried out changed nothing and returned what is stored, added a record, or
rewrote one and returned it. -/
theorem StoreOp.statement_cases {o : StoreOp} {r : o.Ret} (h : o.statement now s = .ok (r, s')) :
    (s' = s ∧ ∀ t, o.returned r = some t → s.transfer o.target = some t) ∨
    (∃ t, o = .insert t ∧ s.transfer t.transferId = none ∧
      s' = { s with transfers := s.transfers ++ [insertedRow now t] }) ∨
    ∃ t t', s.transfer o.target = some t ∧ o.Rewrites now s t t' ∧ o.returned r = some t' ∧
      s' = s.put t' := by
  cases o with
  | insert t =>
    simp only [statement, Cctp.insert, bind_eq_ok, require_eq_ok, pure_eq_ok, Prod.mk.injEq,
      exists_const, isNone_iff_eq_none] at h
    exact .inr (.inl ⟨t, rfl, h.1, h.2.2.symm⟩)
  | get id =>
    simp only [statement, Cctp.get, Except.ok.injEq, Prod.mk.injEq] at h
    obtain ⟨rfl, rfl⟩ := h
    exact .inl ⟨rfl, fun t ht => ht⟩
  | tryAcquirePollLease id leaseSecs minIntervalSecs
  | claimReattestLease id owner leaseSecs maxAttempts =>
    simp only [statement, Cctp.tryAcquirePollLease, Cctp.claimReattestLease] at h
    split at h
    · cases h
      exact .inl ⟨rfl, fun t ht => by cases ht⟩
    · next t ht =>
      split_ifs at h
      · cases h
        exact .inr (.inr ⟨t, _, ht, rfl, rfl, rfl⟩)
      all_goals
        cases h
        exact .inl ⟨rfl, fun t' ht' => ht.trans ht'⟩
  | finalizeReattestSuccess id owner | finalizeReattestFailure id owner code error cooldown =>
    simp only [statement, Cctp.finalizeReattestSuccess, Cctp.finalizeReattestFailure] at h
    split at h
    · cases h
      exact .inl ⟨rfl, fun t ht => by cases ht⟩
    · next t ht =>
      obtain ⟨hstored, hclaimed⟩ := filter_eq_some_iff.mp ht
      cases h
      exact .inr (.inr ⟨t, _, hstored, ⟨hclaimed, rfl⟩, rfl, rfl⟩)
  | recordApprovalSubmission id version txHash verifiedAt =>
    simp only [statement, approvalSubmission, bind_eq_ok, okOr_eq_ok, require_eq_ok, pure_eq_ok,
      mapError_eq_ok, Prod.mk.injEq, exists_const] at h
    obtain ⟨t, ht, hversion, hstatus, u, hunique, rfl, rfl⟩ := h
    exact .inr (.inr ⟨t, _, ht, ⟨hversion, hstatus, hunique, rfl⟩, rfl, rfl⟩)
  | recordVerifiedBurn id version txHash =>
    obtain ⟨t, ht, hrw, hs⟩ := verifiedBurn_eq_ok.mp h
    exact .inr (.inr ⟨t, r, ht, hrw, rfl, hs⟩)
  | transition id version status patch | recordMintPrepared id version hash expiresAt submitter
  | recordMintSubmission id version txHash | recordMintCompleted id version =>
    obtain ⟨-, t, ht, hmoves, hs⟩ := transition_eq_ok.mp h
    exact .inr (.inr ⟨t, r, ht, hmoves, rfl, hs⟩)

end Statements

/-- A statement to the reservations leaves the transfers alone, and every row it leaves was there or
is the reservation it was given. -/
theorem LockOp.statement_cases {o : LockOp} {now : Time} {pick : ℕ} {s s' : State} {r : o.Ret}
    (h : o.statement now pick s = .ok (r, s')) :
    s'.transfers = s.transfers ∧ ∀ row ∈ s'.locks, row ∈ s.locks ∨
      ∃ q, o = .tryAcquire q ∧ row = { q with updatedAt := now } := by
  cases o with
  | tryAcquire q =>
    have hnew : ∀ row ∈ (s.locks.filter fun row => row.sourceAccount ≠ q.sourceAccount) ++
        [{ q with updatedAt := now }], row ∈ s.locks ∨
          ∃ q', LockOp.tryAcquire q = .tryAcquire q' ∧ row = { q' with updatedAt := now } := by
      intro row hrow
      rcases List.mem_append.mp hrow with hrow | hrow
      · exact .inl (List.mem_filter.mp hrow).1
      · exact .inr ⟨q, rfl, List.mem_singleton.mp hrow⟩
    simp only [statement, Cctp.tryAcquire] at h
    split at h
    · split_ifs at h
      · cases h
        exact ⟨rfl, fun row hrow => .inl hrow⟩
      · cases h
        exact ⟨rfl, hnew⟩
      · cases h
        exact ⟨rfl, fun row hrow => .inl hrow⟩
    · split_ifs at h
      cases h
      exact ⟨rfl, hnew⟩
  | release source id =>
    cases h
    exact ⟨rfl, fun row hrow => .inl (List.mem_filter.mp hrow).1⟩
  | getForTransfer id =>
    cases h
    exact ⟨rfl, fun row hrow => .inl hrow⟩

section Exec

variable {c : Codec} {env : Env} {s : State} {o : Op} {id : Uuid} {t t' : CctpTransfer}

theorem StoreOp.exec_eq_ok {o : StoreOp} {r : o.Ret} {now : Time} {db : Database}
    (h : (o.exec now db s).1 = .ok r) : o.statement now s = .ok (r, (o.exec now db s).2) := by
  unfold StoreOp.exec at h ⊢
  split_ifs at h ⊢
  exact attempt_eq_ok h

theorem StoreOp.exec_cases (o : StoreOp) (now : Time) (db : Database) (s : State) :
    (o.exec now db s).2 = s ∨ ∃ r, o.statement now s = .ok (r, (o.exec now db s).2) := by
  unfold StoreOp.exec
  split_ifs
  · exact .inl rfl
  · exact attempt_cases db _ _ s

theorem LockOp.exec_eq_ok {o : LockOp} {r : o.Ret} {now : Time} {db : Database} {pick : ℕ}
    (h : (o.exec c now db pick s).1 = .ok r) :
    o.statement now pick s = .ok (r, (o.exec c now db pick s).2) := by
  unfold LockOp.exec at h ⊢
  cases hv : o.validate c with
  | error e => simp only [hv, reduceCtorEq] at h
  | ok u =>
    simp only [hv] at h ⊢
    exact attempt_eq_ok h

theorem LockOp.exec_cases (o : LockOp) (now : Time) (db : Database) (pick : ℕ) (s : State) :
    (o.exec c now db pick s).2 = s ∨
      ∃ r, o.statement now pick s = .ok (r, (o.exec c now db pick s).2) := by
  unfold LockOp.exec
  cases o.validate c with
  | error e => exact .inl rfl
  | ok u => exact attempt_cases db _ _ s

theorem exec_transfers (c : Codec) (env : Env) (o : Op) (s : State) :
    (exec c env o s).2.transfers = s.transfers ∨
    (∃ t, o = .store (.insert t) ∧ s.transfer t.transferId = none ∧
      (exec c env o s).2.transfers = s.transfers ++ [insertedRow env.now t]) ∨
    ∃ so t t', o = .store so ∧ s.transfer so.target = some t ∧ so.Rewrites env.now s t t' ∧
      (exec c env o s).2.transfers = (s.put t').transfers := by
  cases o with
  | clock | ask q => exact .inl rfl
  | lock o =>
    rcases o.exec_cases (c := c) env.now env.database env.lockRow s with h | ⟨r, h⟩
    · exact .inl (congrArg State.transfers h)
    · exact .inl (LockOp.statement_cases h).1
  | store o =>
    rcases o.exec_cases env.now env.database s with h | ⟨r, h⟩
    · exact .inl (congrArg State.transfers h)
    · rcases StoreOp.statement_cases h with ⟨hs, -⟩ | ⟨t, rfl, hnew, hs⟩ | ⟨t, t', ht, hrw, -, hs⟩
      · exact .inl (congrArg State.transfers hs)
      · exact .inr (.inl ⟨t, rfl, hnew, congrArg State.transfers hs⟩)
      · exact .inr (.inr ⟨o, t, t', rfl, ht, hrw, congrArg State.transfers hs⟩)

theorem transfer_exec (h : (exec c env o s).2.transfer id = some t') :
    s.transfer id = some t' ∨
    (∃ t, o = .store (.insert t) ∧ t.transferId = id ∧ s.transfer id = none ∧
      t' = insertedRow env.now t) ∨
    ∃ so t, o = .store so ∧ so.target = id ∧ s.transfer id = some t ∧
      so.Rewrites env.now s t t' := by
  rcases exec_transfers c env o s with hs | ⟨t, rfl, hnew, hs⟩ | ⟨so, t, u, rfl, ht, hrw, hs⟩
  · rw [State.transfer, hs] at h
    exact .inl h
  · rw [State.transfer, hs] at h
    by_cases hid : t.transferId = id
    · subst hid
      have hfresh : Table.find CctpTransfer.transferId (insertedRow env.now t).transferId
          s.transfers = none := hnew
      have hself := h.symm.trans (Table.find_append_self hfresh)
      exact .inr (.inl ⟨t, rfl, rfl, hnew, some.inj hself⟩)
    · have hne : (insertedRow env.now t).transferId ≠ id := hid
      rw [Table.find_append_ne hne] at h
      exact .inl h
  · have hkey : u.transferId = so.target := hrw.id_eq.trans (State.id_of_transfer ht)
    rw [State.transfer, hs] at h
    by_cases hid : so.target = id
    · subst hid
      have hself : (s.put u).transfer so.target = some u := by
        rw [← hkey]
        exact State.transfer_put_self (by rw [hkey]; exact ht)
      rw [mem_unique h hself]
      exact .inr (.inr ⟨so, t, rfl, rfl, ht, hrw⟩)
    · have hne : u.transferId ≠ id := fun h => hid (hkey.symm.trans h)
      exact .inl ((State.transfer_put_ne hne).symm.trans h)

/-- What becomes of a record: it stays or is rewritten. -/
theorem exec_transfer (c : Codec) (env : Env) (o : Op) (h : s.transfer id = some t) :
    ∃ t', (exec c env o s).2.transfer id = some t' ∧ (t' = t ∨
      ∃ so, o = .store so ∧ so.target = id ∧ so.Rewrites env.now s t t') := by
  rcases exec_transfers c env o s with hs | ⟨u, rfl, hnew, hs⟩ | ⟨so, u, u', rfl, hu, hrw, hs⟩
  · exact ⟨t, by rw [State.transfer, hs]; exact h, .inl rfl⟩
  · have hid : (insertedRow env.now u).transferId ≠ id := by
      rintro rfl
      exact absurd (hnew.symm.trans h) (by simp)
    exact ⟨t, by rw [State.transfer, hs, Table.find_append_ne hid]; exact h, .inl rfl⟩
  · have hkey : u'.transferId = so.target := hrw.id_eq.trans (State.id_of_transfer hu)
    by_cases hid : so.target = id
    · subst hid
      obtain rfl : u = t := mem_unique hu h
      refine ⟨u', ?_, .inr ⟨so, rfl, rfl, hrw⟩⟩
      rw [State.transfer, hs, ← hkey]
      exact State.transfer_put_self (by rw [hkey]; exact h)
    · have hne : u'.transferId ≠ id := fun h => hid (hkey.symm.trans h)
      refine ⟨t, ?_, .inl rfl⟩
      rw [State.transfer, hs]
      exact (State.transfer_put_ne hne).trans h

theorem returned_stored {o : StoreOp} {r : o.Ret} (h : (exec c env (.store o) s).1 = .ok r)
    (hr : o.returned r = some t) : (exec c env (.store o) s).2.transfer o.target = some t := by
  have hok := StoreOp.exec_eq_ok h
  change (o.exec env.now env.database s).2.transfer o.target = some t
  rcases StoreOp.statement_cases hok with ⟨hs, hsame⟩ | ⟨u, rfl, -, -⟩ | ⟨u, u', hu, hrw, hr', hs⟩
  · rw [hs]
    exact hsame t hr
  · exact absurd hr (by simp [StoreOp.returned])
  · obtain rfl : u' = t := mem_unique hr' hr
    have hkey : u'.transferId = o.target := hrw.id_eq.trans (State.id_of_transfer hu)
    rw [hs, ← hkey]
    exact State.transfer_put_self (by rw [hkey]; exact hu)

theorem mem_locks_exec {row : CctpActivePrepare} (h : row ∈ (exec c env o s).2.locks) :
    row ∈ s.locks ∨ ∃ q, o = .lock (.tryAcquire q) ∧ row = { q with updatedAt := env.now } := by
  cases o with
  | clock | ask q => exact .inl h
  | lock o =>
    rcases o.exec_cases (c := c) env.now env.database env.lockRow s with hs | ⟨r, hs⟩
    · left
      rw [← hs]
      exact h
    · rcases (LockOp.statement_cases hs).2 row h with hold | ⟨q, rfl, hq⟩
      · exact .inl hold
      · exact .inr ⟨q, rfl, hq⟩
  | store o =>
    left
    rcases o.exec_cases env.now env.database s with hs | ⟨r, hs⟩
    · rw [← hs]
      exact h
    · change row ∈ (o.exec env.now env.database s).2.locks at h
      rcases StoreOp.statement_cases hs with ⟨hs, -⟩ | ⟨t, rfl, -, hs⟩ | ⟨t, t', -, -, -, hs⟩
      · rwa [hs] at h
      · rwa [hs] at h
      · rwa [hs] at h

end Exec

end StellarRoute.Cctp
