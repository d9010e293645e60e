import StellarRoute.Swap.Sanity.Envelope
import StellarRoute.Swap.Sanity.Store

/-! One active quote for each sender. The store keeps a new quote out while the
sender has one that is being submitted or that can still be. But an expired
quote no longer counts, and a claim does not look at the clock: a request that
found the quote unexpired may claim it after a new one has been inserted. -/

namespace StellarRoute.Swap

open Lib Lib.Interleave Sample

def PreparedSwapQuote.Active (q : PreparedSwapQuote) (now : ℤ) : Prop :=
  q.submissionStatus = .submitting ∨ q.submissionStatus = .prepared ∧ now < q.expiresAt

instance (q : PreparedSwapQuote) (now : ℤ) : Decidable (q.Active now) :=
  inferInstanceAs (Decidable (_ ∨ _))

def SwapState.OneActive (s : SwapState) (now : ℤ) : Prop :=
  ∀ k k' q q', s.quote k = some q → s.quote k' = some q' → q.senderAccount = q'.senderAccount →
    q.Active now → q'.Active now → k = k'

/-- The quote that the operation takes from prepared to submitting. -/
def SwapState.claims (s : SwapState) : SwapOp → Option PreparedSwapQuote
  | .claimForSubmit quoteId _ => (s.quote quoteId).filter (·.submissionStatus = .prepared)
  | _ => none

variable {Body : Type} {s : SwapState} {env : SwapEnv Body} {o : SwapOp} {now now' : ℤ}
  {k : String} {q : PreparedSwapQuote}

/-- A prepared quote is claimed before it expires. -/
def ClaimInTime (env : SwapEnv Body) (s : SwapState) (o : SwapOp) : Prop :=
  ∀ q ∈ s.claims o, s.instant env < q.expiresAt

instance : Decidable (ClaimInTime env s o) := inferInstanceAs (Decidable (∀ _ ∈ _, _))

theorem PreparedSwapQuote.Active.mono (h : q.Active now') (hle : now ≤ now') : q.Active now := by
  rcases h with h | ⟨h, hexp⟩
  · exact .inl h
  · exact .inr ⟨h, by omega⟩

theorem blocks_iff_active : SwapQuotes.blocks now q ↔ q.Active now := by
  cases h : q.submissionStatus <;> simp [SwapQuotes.blocks, PreparedSwapQuote.Active, h]

theorem SwapState.OneActive.mono (h : s.OneActive now) (hle : now ≤ now') : s.OneActive now' :=
  fun k k' q q' hq hq' hsender hactive hactive' =>
    h k k' q q' hq hq' hsender (hactive.mono hle) (hactive'.mono hle)

theorem active_before (hclaim : ClaimInTime env s o)
    (hq : (exec env o s).2.quote k = some q) (hactive : q.Active (s.instant env)) :
    (o = .insertUnblocked q ∧ q.quoteId = k ∧
      ¬ s.quotes.Blocked q.senderAccount (s.instant env)) ∨
    ∃ q0, s.quote k = some q0 ∧ q0.senderAccount = q.senderAccount ∧
      q0.Active (s.instant env) := by
  have hchange := exec_change env s o k
  rw [hq] at hchange
  cases hchange with
  | kept hold => exact .inr ⟨q, hold, rfl, hactive⟩
  | expired q0 hq0 hstatus hstale | finalized q0 txHash hq0 hstatus | failed q0 hq0 hstatus =>
    simp [PreparedSwapQuote.Active] at hactive
  | inserted quote hid hfree => exact .inl ⟨rfl, hid, hfree⟩
  | claimed q0 txHash hq0 hstatus =>
    have hlt : s.instant env < q0.expiresAt := by
      apply hclaim q0
      simp [SwapState.claims, SwapState.quote, hq0, hstatus]
    exact .inr ⟨q0, hq0, rfl, .inr ⟨hstatus, hlt⟩⟩

theorem exec_oneActive (hclaim : ClaimInTime env s o) (hone : s.OneActive s.clock) :
    (exec env o s).2.OneActive (exec env o s).2.clock := by
  have hclock : s.clock ≤ s.instant env := by
    unfold SwapState.instant
    omega
  intro k k' q q' hq hq' hsender hactive hactive'
  rcases active_before hclaim hq hactive with ⟨ho, rfl, hfree⟩ | ⟨q0, hq0, hs0, hactive0⟩
  · rcases active_before hclaim hq' hactive' with ⟨ho', rfl, -⟩ | ⟨q0', hq0', hs0', hactive0'⟩
    · rw [ho] at ho'
      cases ho'
      rfl
    · refine absurd ⟨k', q0', hq0', ?_, blocks_iff_active.mpr hactive0'⟩ hfree
      rw [hs0', hsender]
  · rcases active_before hclaim hq' hactive' with ⟨-, -, hfree⟩ | ⟨q0', hq0', hs0', hactive0'⟩
    · refine absurd ⟨k, q0, hq0, ?_, blocks_iff_active.mpr hactive0⟩ hfree
      rw [hs0, hsender]
    · apply hone k k' q0 q0' hq0 hq0' _ (hactive0.mono hclock) (hactive0'.mono hclock)
      rw [hs0, hs0', hsender]

theorem one_active_quote (stellar : Stellar Body) (clock : ℤ)
    (choices : List (Choice (SwapEnv Body) SwapCall))
    (hok : Transition.StepsOk (step exec (start stellar)) (Allowed ClaimInTime)
      ⟨⟨∅, clock⟩, []⟩ choices)
    (now : ℤ) (hnow : (run exec (start stellar) ⟨⟨∅, clock⟩, []⟩ choices).state.clock ≤ now) :
    (run exec (start stellar) ⟨⟨∅, clock⟩, []⟩ choices).state.OneActive now := by
  refine SwapState.OneActive.mono ?_ hnow
  apply Transition.run_inv_of_ok (P := fun p : Pool (SwapEnv Body) SwapState SwapOp
    (SwapOp.Res Body) SwapCall SwapOut => p.state.OneActive p.state.clock) _ _ hok
  · intro p c hp hc
    exact step_rel (R := fun s s' => s.OneActive s.clock → s'.OneActive s'.clock)
      (fun _ h => h) (fun env s o hclaim => exec_oneActive hclaim) hc hp
  · intro k k' q q' hq
    cases hq

/-- The first call prepares a quote, and the second has looked at the clock and not yet claimed
it when the third prepares another. -/
def overtaken : List (Choice (SwapEnv Unit) SwapCall) :=
  [.spawn (.prepare Sample.sender), .spawn (.submit (Sample.request "q1")),
      .spawn (.prepare Sample.sender)] ++
    List.replicate 6 (.step 0 (Sample.after 0 "q1")) ++
    [.step 1 (Sample.after 119 ""), .step 1 (Sample.after 0 "")] ++
    List.replicate 5 (.step 2 (Sample.after 0 "q2"))

theorem one_active_quote_overtaken :
    Transition.StepsOk (step exec (start Sample.network)) (Allowed ClaimInTime) ⟨⟨∅, 0⟩, []⟩
      (overtaken ++ [.step 1 (Sample.after 0 "")]) ∧
    (Sample.pool (overtaken ++ [.step 1 (Sample.after 0 "")])).state.OneActive
      (Sample.pool (overtaken ++ [.step 1 (Sample.after 0 "")])).state.clock := by
  have hok : Transition.StepsOk (step exec (start network)) (Allowed ClaimInTime)
      ⟨⟨∅, 0⟩, []⟩ (overtaken ++ [.step 1 (after 0 "")]) := by
    apply stepsOk_of_check (fun env s o h => of_decide_eq_true h)
    decide +kernel
  exact ⟨hok, one_active_quote network 0 _ hok _ le_rfl⟩

/-- The last look at the clock for the new quote comes after the first one has expired; then the
first one is claimed. -/
theorem two_active_quotes :
    let p := Sample.pool (overtaken ++ [.step 2 (Sample.after 2 ""), .step 1 (Sample.after 0 "")])
    ¬ p.state.OneActive p.state.clock := by
  intro p
  generalize hs : p.state = s
  have hsenders : (s.quote "q1").map (·.senderAccount) = some Sample.sender ∧
      (s.quote "q2").map (·.senderAccount) = some Sample.sender := by
    subst hs
    decide +kernel
  have hactive : (∀ q ∈ s.quote "q1", q.Active s.clock) ∧ ∀ q ∈ s.quote "q2", q.Active s.clock := by
    subst hs
    decide +kernel
  obtain ⟨q, hq, hsender⟩ := Option.map_eq_some_iff.mp hsenders.1
  obtain ⟨q', hq', hsender'⟩ := Option.map_eq_some_iff.mp hsenders.2
  intro hone
  exact absurd (hone "q1" "q2" q q' hq hq' (hsender.trans hsender'.symm) (hactive.1 q hq)
    (hactive.2 q' hq')) (by decide)

end StellarRoute.Swap
