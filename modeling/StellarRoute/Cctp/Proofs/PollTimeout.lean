import StellarRoute.Cctp.Sanity.Journey

/-! The poll timeout. A poll counts from the last update of the record, and the
lease it takes is an update: the time a transfer has waited before does not
matter, only how long the poll itself takes from its lease to its check. -/

namespace StellarRoute.Cctp

open Lib Lib.Interleave

variable {c : Codec} {cfg : CctpConfig} {G : Env → State → Op → Prop} {s s' : State}
  {t : CctpTransfer} {id : Uuid} {leaseSecs minIntervalSecs : ℤ} {leased read : Time}

/-! ### Waiting for the attestation -/

def NotFailed (id : Uuid) (s : State) : Prop :=
  ∀ t, s.transfer id = some t → t.status ≠ .attestationFailed

theorem waits_checked {α β : Type} {x : Except CctpServiceError β} {k : β → Svc α}
    (hs : NotFailed id s) (hk : ∀ b, Goes c G (k b) s fun _ s' => NotFailed id s') :
    Goes c G (checked x >>= k) s fun _ s' => NotFailed id s' := by
  refine runs_bind (runs_mk ?_)
  cases x with
  | error e => exact hs
  | ok b => exact hk b

theorem NotFailed.transition {status : CctpTransferStatus} (hs : NotFailed id s)
    (hne : status ≠ .attestationFailed) (env : Env) (version : ℕ) (patch : TransferPatch) :
    NotFailed id (exec c env (.store (.transition t.transferId version status patch)) s).2 := by
  intro t' ht'
  rcases transfer_exec ht' with ht | ⟨_, h, -⟩ | ⟨_, _, h, -, -, hrw⟩
  · exact hs t' ht
  · cases h
  · cases h
    rw [hrw.eq]
    exact hne

theorem waits_validateAndMarkAttestationReady {msg : IrisMessage} (hs : NotFailed id s) :
    Goes c G (validateAndMarkAttestationReady c t msg) s fun _ s' => NotFailed id s' := by
  refine runs_bind (goes_ask fun env _ => runs_mk ?_)
  cases require (env.answer .attestationVerifierReady) CctpServiceError.verifiersNotReady with
  | error e => exact hs
  | ok u =>
    refine waits_checked hs fun found => goes_ask fun env _ => ?_
    refine waits_checked hs fun _ => waits_checked hs fun _ => ?_
    exact runs_call_bind fun env _ => runs_mk (hs.transition (by decide) env _ _)

theorem waits_pollAttestation (hs : NotFailed id s) :
    Goes c G (pollAttestation c t) s fun _ s' => NotFailed id s' := by
  refine waits_checked hs fun txHash => goes_ask fun env _ => waits_checked hs fun outcome => ?_
  cases outcome with
  | pending | notFound => exact runs_pure hs
  | rateLimited retryAfterSecs =>
    exact runs_call_bind fun env _ => runs_pure (hs.transition (by decide) env _ _)
  | complete msg => exact waits_validateAndMarkAttestationReady hs

/-! ### A poll with its lease -/

/-- The database answers, the lease is taken at `leased`, and the clock is read at `read`. -/
def LeasedAt (leased read : Time) (env : Env) (_ : State) (o : Op) : Prop :=
  env.database = .answers ∧
  match o with
  | .store (.tryAcquirePollLease ..) => env.now = leased
  | .clock => env.now = read
  | _ => True

structure CctpTransfer.Leasable (t : CctpTransfer) (now : Time) (minIntervalSecs : ℤ) : Prop where
  lease : t.pollLeaseUntil.all (· ≤ now)
  interval : t.lastPolledAt.all (· ≤ now - seconds minIntervalSecs)

theorem goes_pollWithLease (hindexed : s.Indexed) (ht : s.transfer id = some t)
    (hstatus : t.status = .awaitingAttestation) (hleasable : t.Leasable leased minIntervalSecs) :
    Goes c (LeasedAt leased read) (pollOneTransferWithLease c cfg id leaseSecs minIntervalSecs) s
      fun _ s' => (s'.transfer id).map (·.status) = some .attestationFailed ↔
        leased + seconds cfg.pollTimeoutSecs < read := by
  -- the record under its lease: it was updated just now
  let t1 : CctpTransfer := { t with
    pollLeaseUntil := some (leased + seconds leaseSecs), lastPolledAt := some leased
    updatedAt := leased }
  have ht1 : (s.put t1).transfer id = some t1 := State.transfer_put ht rfl
  have hlease : tryAcquirePollLease leased id leaseSecs minIntervalSecs s =
      .ok (some (t1, .acquired), s.put t1) := by
    simp [tryAcquirePollLease, ht, hleasable.lease, hleasable.interval, t1]
  refine runs_bind (goes_store (fun _ hg => hg.1) rfl fun env hg =>
    ⟨some (t1, .acquired), s.put t1, ?_, ?_⟩)
  · rw [show env.now = leased from hg.2]
    exact hlease
  refine goes_checked rfl (goes_getTransfer ht1 (fun _ hg => hg.1) ?_)
  have hwaiting : t1.status = .awaitingAttestation := hstatus
  rw [hwaiting]
  refine goes_utcNow fun env hclock => ?_
  rw [show env.now = read from hclock.2]
  by_cases hlate : leased + seconds cfg.pollTimeoutSecs < read
  · rw [if_pos hlate]
    have hid : t1.transferId = id := State.id_of_transfer ht1
    have hindexed1 := hindexed.put (t := t1) (hindexed.unique ht rfl rfl rfl rfl rfl rfl)
    subst hid
    refine runs_bind (goes_transition ht1 (fun _ _ hg => hg.1) (by rw [hwaiting]; rfl) rfl
      (fun now => hindexed1.unique ht1 rfl rfl rfl rfl rfl rfl) fun env _ _ => ?_)
    refine goes_release fun s' htransfers _ => runs_pure (iff_of_true ?_ hlate)
    have hput := (State.transfer_congr htransfers).trans (State.transfer_put ht1 rfl)
    exact congrArg (Option.map (·.status)) hput
  · rw [if_neg hlate]
    have hnot : NotFailed id (s.put t1) := by
      intro t' ht'
      rw [Option.some.inj (ht'.symm.trans ht1), hwaiting]
      decide
    refine (waits_pollAttestation hnot).mono fun _ s' h => iff_of_false ?_ hlate
    intro hfailed
    obtain ⟨t', ht', hstatus'⟩ := Option.map_eq_some_iff.mp hfailed
    exact h t' ht' hstatus'

/-- However long a transfer has been waiting and whatever polls came before: a poll that takes the
lease moves it to `AttestationFailed` exactly when the poll reads the clock more than the timeout
after it took the lease. -/
theorem lease_poll_fails_iff {L : List (Event Env State Op)}
    {out : Except CctpServiceError CctpTransfer} (hindexed : s.Indexed)
    (ht : s.transfer id = some t) (hstatus : t.status = .awaitingAttestation)
    (hleasable : t.Leasable leased minIntervalSecs)
    (hends : Ends (exec c) (pollOneTransferWithLease c cfg id leaseSecs minIntervalSecs).run s L out
      s')
    (hworld : ∀ e ∈ L, LeasedAt leased read e.env e.state e.op) :
    (s'.transfer id).map (·.status) = some .attestationFailed ↔
      leased + seconds cfg.pollTimeoutSecs < read :=
  (goes_pollWithLease hindexed ht hstatus hleasable).alone.ends hends hworld

/-- The world after `secs` seconds, where the attestation is still pending. -/
def pendingWorld (secs : ℤ) : Env :=
  { (plainOutlook .pending .pending).env with now := seconds secs }

/-- A poll that is held up for eleven minutes once it has its lease. -/
def slowPoll : Op → Env
  | .store (.tryAcquirePollLease ..) => pendingWorld 0
  | _ => pendingWorld 660

theorem slowPoll_leasedAt (s : State) (o : Op) : LeasedAt 0 (seconds 660) (slowPoll o) s o := by
  cases o with
  | store o => cases o <;> exact ⟨rfl, by trivial⟩
  | lock o | ask q => exact ⟨rfl, trivial⟩
  | clock => exact ⟨rfl, rfl⟩

theorem lease_poll_fails_slow :
    ∃ L out s', Ends (exec plainCodec) (pollOneTransferWithLease plainCodec plainConfig 0 30 5).run
      { transfers := [plainRow], locks := [] } L out s' ∧
      (s'.transfer 0).map (·.status) = some .attestationFailed := by
  obtain ⟨L, out, s', hends, henv⟩ := exists_ends_in (exec plainCodec) slowPoll
    (pollOneTransferWithLease plainCodec plainConfig 0 30 5).run
    { transfers := [plainRow], locks := [] }
  refine ⟨L, out, s', hends, ?_⟩
  have hworld : ∀ e ∈ L, LeasedAt 0 (seconds 660) e.env e.state e.op := by
    intro e he
    rw [henv e he]
    exact slowPoll_leasedAt e.state e.op
  exact (lease_poll_fails_iff plain_reached.indexed rfl rfl ⟨rfl, rfl⟩ hends hworld).mpr (by decide)

/-- The burn was recorded at time 0, the timeout is ten minutes: an hour later a poll takes the lease
and the transfer goes on waiting. -/
theorem overdue_transfer_waits :
    let s := { transfers := [plainRow], locks := [] }
    Reached plainCodec plainConfig s ∧
    plainRow.updatedAt + seconds plainConfig.pollTimeoutSecs < (pendingWorld 3600).now ∧
    (((pollOneTransferWithLease plainCodec plainConfig 0 30 5).run.eval (exec plainCodec)
      (pendingWorld 3600) s).2.transfer 0).map (fun t => (t.status, t.lastPolledAt)) =
        some (.awaitingAttestation, some (seconds 3600)) :=
  ⟨plain_reached, by decide, by decide⟩

end StellarRoute.Cctp
