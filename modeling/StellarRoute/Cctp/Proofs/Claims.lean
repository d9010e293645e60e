import StellarRoute.Cctp.Proofs.Idempotency

/-! When a claim of an idempotency key comes back. The insert does nothing when
the key has a row, the row is read only while it has not expired, and without a
row to read the claim starts again: an expired row that nobody deletes keeps it
going for ever. -/

namespace StellarRoute.Cctp

open Lib Lib.Interleave

variable {ctx : QuoteContext} {key requestHash owner : String} {expiresAt began T : Time}
  {s s' : QuoteState} {retries : ℕ}

/-- The database answers, and the clock shows `T` or later. -/
def AnswersFrom (T : Time) (env : QuoteEnv) (_ : QuoteState) (_ : QuoteOp) : Prop :=
  env.service.database = .answers ∧ T ≤ env.service.now

variable {row : IdempotencyEntry} {G : QuoteEnv → QuoteState → QuoteOp → Prop}

theorem liveEntry_of_expired (hrow : s.entry key = some row)
    (hexpired : row.expiresAt ≤ began) : s.liveEntry key began = none := by
  rw [QuoteState.liveEntry, hrow, Option.filter_eq_none_iff]
  intro row' hrow'
  cases hrow'
  simpa using hexpired

theorem runs_utcNow_bind {α : Type} {Post : Except CctpIdempotencyError α → QuoteState → Prop}
    {k : Time → Http CctpIdempotencyError α} (h : ∀ env, G env s (.service .clock) →
      Runs (QuoteOp.exec ctx.codec) G (k env.service.now) s Post) :
    Runs (QuoteOp.exec ctx.codec) G (Http.utcNow >>= k) s Post := runs_call_bind h

/-- The rule of a round: the key is free, its row is live, or the claim starts again. -/
theorem runs_claimRound {Post : Except CctpIdempotencyError IdempotencyClaim → QuoteState → Prop}
    {again : Http CctpIdempotencyError IdempotencyClaim}
    (hG : ∀ env s o, G env s o → env.service.database = .answers)
    (hlive : (∀ row, s.entry key = some row → began < row.expiresAt) →
      ∀ r s', r ≠ .error .database → Post r s')
    (hagain : ∀ row, s.entry key = some row → row.expiresAt ≤ began →
      Runs (QuoteOp.exec ctx.codec) G again s Post) :
    Runs (QuoteOp.exec ctx.codec) G
      (claimRound ctx key requestHash owner expiresAt began again) s Post := by
  refine runs_call_bind fun env1 _ => ?_
  change Runs _ _ _ s Post
  refine runs_utcNow_bind fun env2 _ => ?_
  refine runs_call_bind fun env3 h3 => ?_
  cases hentry : s.entry key with
  | none =>
    simp only [QuoteOp.exec, hG _ _ _ h3, claimInsert, hentry, attempt]
    exact runs_mk_bind rfl (runs_pure (hlive (by simp [hentry]) _ _ (by simp)))
  | some row =>
    have htaken : ∀ e : IdempotencyEntry, e.key = key →
        QuoteOp.exec ctx.codec env3 (.claimInsert e) s = (.ok false, s) := by
      rintro e rfl
      simp [QuoteOp.exec, hG _ _ _ h3, claimInsert, hentry, attempt]
    rw [htaken _ rfl]
    refine runs_mk_bind rfl (runs_call_bind fun env4 h4 => ?_)
    simp only [QuoteOp.exec, hG _ _ _ h4]
    rcases le_or_gt row.expiresAt began with hexpired | hbefore
    · simp only [claimObserve, liveEntry_of_expired hentry hexpired]
      exact runs_mk_bind rfl (hagain row hentry hexpired)
    · have hnow : s.liveEntry key began = some row := by
        simp [QuoteState.liveEntry, hentry, Option.filter, hbefore]
      have hpost := hlive fun row' hrow' => Option.some.inj (hentry.symm.trans hrow') ▸ hbefore
      generalize hx : claimObserve began env4.service.now key requestHash owner _ s = x
      -- a live row is claimed, refused or in progress
      have hobserved : x ≠ .error .database ∧ ∀ s', x ≠ .ok (none, s') := by
        subst hx
        simp only [claimObserve, hnow, require]
        constructor
        · split_ifs <;> rintro ⟨⟩
        · intro s'
          split_ifs <;> rintro ⟨⟩
      rcases x with e | ⟨_ | claim, s'⟩
      · exact runs_bind (runs_mk (hpost _ _ fun he => hobserved.1 (by cases he; rfl)))
      · exact absurd rfl (hobserved.2 s')
      · exact runs_mk_bind rfl (runs_pure (hpost _ _ (by simp)))

/-- Nothing deletes the row, so every round finds it taken and expired. -/
theorem claimQuote_stuck (hrow : s.entry key = some row)
    (hexpired : row.expiresAt ≤ T) (retries : ℕ) : Runs (QuoteOp.exec ctx.codec) (AnswersFrom T)
      (claimQuote ctx key requestHash owner expiresAt retries) s
      fun r _ => r = .error .database := by
  induction retries with
  | zero => exact runs_throw rfl
  | succ retries ih =>
    refine runs_utcNow_bind fun env hclock => ?_
    refine runs_claimRound (fun _ _ _ => And.left) (fun hlive => ?_) fun _ _ _ => ih
    exact absurd (hlive row hrow) (not_lt.mpr (hexpired.trans hclock.2))

/-- With a database that answers, no other writer and a clock that does not run backwards: however
many rounds it has, a claim comes back exactly when the row of its key, if there is one, had not
expired as it began, and then one round is enough. -/
theorem claim_returns_iff {e : Event QuoteEnv QuoteState QuoteOp}
    {L : List (Event QuoteEnv QuoteState QuoteOp)} {out : Except CctpIdempotencyError IdempotencyClaim}
    (hends : Ends (QuoteOp.exec ctx.codec)
      (claimQuote ctx key requestHash owner expiresAt (retries + 1)).run s (e :: L) out s')
    (hworld : ∀ x ∈ e :: L, AnswersFrom e.env.service.now x.env x.state x.op) :
    out ≠ .error .database ↔ ∀ row, s.entry key = some row → e.env.service.now < row.expiresAt := by
  constructor
  · intro hout row hrow
    by_contra hexpired
    exact hout ((claimQuote_stuck hrow (not_lt.mp hexpired) _).alone.ends hends hworld)
  · intro hlive
    rw [claimQuote] at hends
    cases hends with
    | op hends =>
      refine (runs_claimRound (G := AnswersFrom _) (fun _ _ _ => And.left)
        (fun _ _ _ => id) fun row hrow hexpired => ?_).alone.ends hends
          fun x hx => hworld x (List.mem_cons_of_mem _ hx)
      exact absurd (hlive row hrow) (not_lt.mpr hexpired)

/-- A row of the key that expired at time zero. -/
def expiredRow : IdempotencyEntry where
  key := "key"
  requestHash := ""
  transferId := 0
  state := .pending
  leaseOwnerHash := none
  leaseExpiresAt := none
  expiresAt := 0

/-- The row is live before its time. -/
theorem claim_returns_before :
    ∃ L out s', Ends (QuoteOp.exec twoRequests.codec)
      (claimQuote twoRequests "key" "" "" 0 1).run ⟨State.empty, [expiredRow]⟩ L out s' ∧
      out ≠ .error .database := by
  obtain ⟨L, hends, henv⟩ := exists_ends (QuoteOp.exec twoRequests.codec) (quoteWorld (-1) 0)
    (claimQuote twoRequests "key" "" "" 0 1).run ⟨State.empty, [expiredRow]⟩
  refine ⟨L, _, _, hends, ?_⟩
  cases L with
  | nil => cases hends
  | cons e L =>
    have he := henv e List.mem_cons_self
    refine (claim_returns_iff hends fun x hx => ?_).mpr fun row hrow => ?_
    · rw [henv x hx, he]
      exact ⟨rfl, le_rfl⟩
    · cases hrow
      rw [he]
      decide

/-- A second later no number of rounds is enough. -/
theorem claim_never_returns : expiredRow.expiresAt ≤ seconds 1 ∧ ∀ retries : ℕ,
    ((claimQuote twoRequests "key" "" "" 0 retries).run.eval (QuoteOp.exec twoRequests.codec)
      (quoteWorld 1 0) ⟨State.empty, [expiredRow]⟩).1 = .error .database := by
  refine ⟨by decide, fun retries => ?_⟩
  obtain ⟨L, hends, henv⟩ := exists_ends (QuoteOp.exec twoRequests.codec) (quoteWorld 1 0)
    (claimQuote twoRequests "key" "" "" 0 retries).run ⟨State.empty, [expiredRow]⟩
  have hstuck := @claimQuote_stuck twoRequests "key" "" "" 0 (seconds 1)
    ⟨State.empty, [expiredRow]⟩ expiredRow rfl (by decide) retries
  refine hstuck.alone.ends hends fun x hx => ?_
  rw [henv x hx]
  exact ⟨rfl, le_rfl⟩

end StellarRoute.Cctp
