import StellarRoute.Swap.Spec.Submit

/-! What each operation does to the quote under a given id. -/

namespace StellarRoute.Swap

open Lib Lib.Interleave

/-- The store holds a quote of the sender that keeps a new one out. -/
def SwapQuotes.Blocked (quotes : SwapQuotes) (sender : String) (now : ℤ) : Prop :=
  ∃ k q, AList.lookup k quotes = some q ∧ q.senderAccount = sender ∧ blocks now q

/-- What an operation executed at `now` may leave under the id `k`. -/
inductive Change (now : ℤ) (quotes : SwapQuotes) (k : String) :
    SwapOp → Option PreparedSwapQuote → Prop where
  | kept {o : SwapOp} {old : Option PreparedSwapQuote} (hold : AList.lookup k quotes = old) :
      Change now quotes k o old
  | expired (q : PreparedSwapQuote) (hq : AList.lookup k quotes = some q)
      (hstatus : q.submissionStatus = .prepared) (hstale : q.expiresAt ≤ now) :
      Change now quotes k (.expireStaleForSender q.senderAccount)
        (some { q with submissionStatus := .failed })
  | inserted (quote : PreparedSwapQuote) (hid : quote.quoteId = k)
      (hfree : ¬ quotes.Blocked quote.senderAccount now) :
      Change now quotes k (.insertUnblocked quote) (some quote)
  | claimed (q : PreparedSwapQuote) (txHash : String) (hq : AList.lookup k quotes = some q)
      (hstatus : q.submissionStatus = .prepared) :
      Change now quotes k (.claimForSubmit k txHash)
        (some { q with submissionStatus := .submitting, txHash := some txHash })
  | finalized (q : PreparedSwapQuote) (txHash : String) (hq : AList.lookup k quotes = some q)
      (hstatus : q.submissionStatus = .submitting) :
      Change now quotes k (.finalizeSubmit k txHash)
        (some { q with submissionStatus := .submitted, txHash := some txHash })
  | failed (q : PreparedSwapQuote) (hq : AList.lookup k quotes = some q)
      (hstatus : q.submissionStatus = .prepared ∨ q.submissionStatus = .submitting) :
      Change now quotes k (.markFailed k) (some { q with submissionStatus := .failed })

namespace SwapQuotes

variable {quotes : SwapQuotes} {k quoteId sender txHash : String} {now : ℤ}
  {quote q : PreparedSwapQuote}

theorem expireStaleForSender_change : Change now quotes k (.expireStaleForSender sender)
    (AList.lookup k (expireStaleForSender quotes sender now).2) := by
  rw [expireStaleForSender, HashMap.lookup_mapValues]
  cases hq : AList.lookup k quotes with
  | none =>
    exact .kept hq
  | some q =>
    rw [Option.map_some, expire]
    split_ifs with hstale
    · simp only [isStale, Bool.and_eq_true, decide_eq_true_eq] at hstale
      obtain ⟨⟨rfl, hstatus⟩, hexp⟩ := hstale
      exact .expired q hq hstatus hexp
    · exact .kept hq

theorem any_blocks_iff :
    quotes.values.any (fun q => q.senderAccount = sender && blocks now q) ↔
      quotes.Blocked sender now := by
  simp only [List.any_eq_true, HashMap.mem_values, Bool.and_eq_true, decide_eq_true_eq]
  constructor
  · rintro ⟨q, ⟨k, hq⟩, hsender, hblocks⟩
    exact ⟨k, q, hq, hsender, hblocks⟩
  · rintro ⟨k, q, hq, hsender, hblocks⟩
    exact ⟨q, ⟨k, hq⟩, hsender, hblocks⟩

theorem insertUnblocked_change : Change now quotes k (.insertUnblocked quote)
    (AList.lookup k (insertUnblocked quotes quote now).2) := by
  rw [insertUnblocked]
  split_ifs with hany
  · exact .kept rfl
  · rw [HashMap.lookup_insert_eq]
    split_ifs with hk
    · exact .inserted quote hk.symm (fun hblocked => hany (any_blocks_iff.mpr hblocked))
    · exact .kept rfl

theorem claimForSubmit_change : Change now quotes k (.claimForSubmit quoteId txHash)
    (AList.lookup k (claimForSubmit quotes quoteId txHash).2) := by
  rw [claimForSubmit]
  split_ifs with hempty
  · exact .kept rfl
  · cases hq : AList.lookup quoteId quotes with
    | none => exact .kept rfl
    | some q =>
      cases hstatus : q.submissionStatus with
      | prepared =>
        simp only [hstatus, HashMap.lookup_insert_eq]
        split_ifs with hk
        · subst hk
          exact .claimed q txHash hq hstatus
        · exact .kept rfl
      | submitting | submitted | failed =>
        simp only [hstatus]
        exact .kept rfl

theorem finalizeSubmit_change : Change now quotes k (.finalizeSubmit quoteId txHash)
    (AList.lookup k (finalizeSubmit quotes quoteId txHash).2) := by
  rw [finalizeSubmit]
  cases hq : AList.lookup quoteId quotes with
  | none => exact .kept rfl
  | some q =>
    by_cases hstatus : q.submissionStatus = .submitting
    · simp only [hstatus, ne_eq, not_true_eq_false, if_false, HashMap.lookup_insert_eq]
      split_ifs with hk
      · subst hk
        exact .finalized q txHash hq hstatus
      · exact .kept rfl
    · simp only [ne_eq, hstatus, not_false_eq_true, if_true]
      exact .kept rfl

theorem markFailed_change : Change now quotes k (.markFailed quoteId)
    (AList.lookup k (markFailed quotes quoteId)) := by
  rw [markFailed]
  cases hq : AList.lookup quoteId quotes with
  | none => exact .kept rfl
  | some q =>
    simp only
    split_ifs with hstatus
    · rw [HashMap.lookup_insert_eq]
      split_ifs with hk
      · subst hk
        exact .failed q hq hstatus
      · exact .kept rfl
    · exact .kept rfl

end SwapQuotes

variable {Body : Type}

theorem apply_change (env : SwapEnv Body) (now : ℤ) (quotes : SwapQuotes) (o : SwapOp)
    (k : String) : Change now quotes k o (AList.lookup k (o.apply env now quotes).2) := by
  cases o with
  | expireStaleForSender sender => exact SwapQuotes.expireStaleForSender_change
  | insertUnblocked quote => exact SwapQuotes.insertUnblocked_change
  | claimForSubmit quoteId txHash => exact SwapQuotes.claimForSubmit_change
  | finalizeSubmit quoteId txHash => exact SwapQuotes.finalizeSubmit_change
  | markFailed quoteId => exact SwapQuotes.markFailed_change
  | planSwap sender | newUuid | now | get quoteId | submit signedXdr | lookup txHash =>
    exact .kept rfl

def SwapState.quote (s : SwapState) (k : String) : Option PreparedSwapQuote := AList.lookup k s.quotes

theorem exec_change (env : SwapEnv Body) (s : SwapState) (o : SwapOp) (k : String) :
    Change (s.instant env) s.quotes k o ((exec env o s).2.quote k) :=
  apply_change env _ s.quotes o k

end StellarRoute.Swap
