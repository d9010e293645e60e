import StellarRoute.Swap.Sanity.Store

/-! What a request has done and been told when it performs an operation. -/

namespace StellarRoute.Swap

open Lib Lib.Interleave List

variable {Body : Type}

abbrev SwapEvent (Body : Type) := Event (SwapEnv Body) SwapState SwapOp

abbrev SwapTrace (Body : Type) := List (SwapEvent Body)

/-- The quote that the operation gives its caller. -/
def shown (e : SwapEvent Body) : Option PreparedSwapQuote :=
  match e.op with
  | .get quoteId => e.state.quote quoteId
  | .claimForSubmit quoteId txHash =>
    match (SwapQuotes.claimForSubmit e.state.quotes quoteId txHash).1 with
    | .ok (.claimed quote) => some quote
    | .ok (.inProgress quote) => some quote
    | _ => none
  | _ => none

/-- The network has accepted the envelope, or knows the transaction. -/
def Tells (txHash : String) (e : SwapEvent Body) : Prop :=
  match e.op with
  | .submit _ => ∃ r, e.env.submit = .ok r ∧ (r.txHash = "" ∨ r.txHash = txHash)
  | .lookup hash => hash = txHash ∧ ∃ r, e.env.lookup = .ok (some r) ∧ r.txHash = txHash
  | _ => False

/-- The network has refused the envelope for good. -/
def Refuses (e : SwapEvent Body) : Prop :=
  ∃ xdr err, e.op = .submit xdr ∧ e.env.submit = .error err ∧ err.isTransientTransport = false

/-- The clock was read after the time bounds of the quote. -/
def WindowClosed (q : PreparedSwapQuote) (e : SwapEvent Body) : Prop :=
  e.op = .now ∧ ∃ max, q.timeboundsMax = some max ∧ max < e.state.instant e.env / NANOS_PER_SEC

section Trace

variable (k : String) (q : PreparedSwapQuote) (L : SwapTrace Body)

def ReadPrepared : Prop :=
  ∃ e, L = [e] ∧ e.op = .get k ∧ e.state.quote k = some q ∧ q.submissionStatus = .prepared

def ReadClock : Prop := ∃ e L', L = e :: L' ∧ e.op = .now ∧ ReadPrepared k q L'

/-- The request has been given the quote, as one that is being submitted. -/
def Bound : Prop :=
  ∃ e ∈ L, (e.op = .get k ∨ ∃ txHash, e.op = .claimForSubmit k txHash) ∧ shown e = some q ∧
    q.submissionStatus = .submitting

/-- The last operation told nothing about a transaction. -/
def Quiet : Prop := ∀ e ∈ L.head?, ∀ txHash, ¬ Tells txHash e

/-- The last operation did not tell that the transaction of the quote is accepted or known. -/
def Untold : Prop :=
  Quiet L ∨ ∃ q txHash, Bound k q L ∧ q.txHash = some txHash ∧ ∀ e ∈ L.head?, ¬ Tells txHash e

end Trace

def closes : SwapOp → Bool
  | .finalizeSubmit _ _ => true
  | .markFailed _ => true
  | _ => false

/-- The request has neither finalized nor failed the quote. -/
def Unsettled (L : SwapTrace Body) : Prop := ∀ e ∈ L, closes e.op = false

/-- What a submit request has done when it performs an operation. -/
def SubmitRule (stellar : Stellar Body) (body : SwapSubmitRequest) (L : SwapTrace Body)
    (o : SwapOp) : Prop :=
  Unsettled L ∧
    match o with
    | .get k => k = trim body.quoteId ∧ L = []
    | .now => (∃ q, ReadPrepared (trim body.quoteId) q L) ∨
      Quiet L ∧ ∃ q, Bound (trim body.quoteId) q L
    | .claimForSubmit k txHash => k = trim body.quoteId ∧ ∃ q, ReadClock k q L ∧
      verifySubmitEnvelope stellar body q = .ok txHash
    | .lookup txHash => Quiet L ∧ ∃ q, Bound (trim body.quoteId) q L ∧ q.txHash = some txHash
    | .submit xdr => xdr = trim body.signedXdr ∧ Quiet L ∧ ∃ q txHash,
      Bound (trim body.quoteId) q L ∧ q.txHash = some txHash ∧
        verifySubmitEnvelope stellar body q = .ok txHash
    | .finalizeSubmit k txHash => k = trim body.quoteId ∧ ∃ q, Bound k q L ∧
      q.txHash = some txHash
    | .markFailed k => k = trim body.quoteId ∧ Quiet L ∧
      ((∃ q, ReadClock k q L) ∨ ∃ q, Bound k q L ∧ ∃ e ∈ L, Refuses e ∨ WindowClosed q e)
    | _ => False

/-- The quote is the one that a request for the sender prepares once this event has planned it. -/
structure Prepares (stellar : Stellar Body) (sender : String) (e : SwapEvent Body)
    (tx : Transaction Body) (quote : PreparedSwapQuote) : Prop where
  op : e.op = .planSwap sender
  plan : ∃ plan, e.env.plan = .ok plan ∧ plan.tx = tx ∧
    quote.networkPassphrase = plan.networkPassphrase
  xdr : ∃ xdr, stellar.toXdrBase64 tx [] = .ok xdr ∧ quote.unsignedXdrHash = stellar.hashXdr xdr
  sender : quote.senderAccount = trim sender
  status : quote.submissionStatus = .prepared
  unbound : quote.txHash = none

def PrepareRule (stellar : Stellar Body) (sender : String) (L : SwapTrace Body) : SwapOp → Prop
  | .planSwap _ => True
  | .newUuid => True
  | .now => True
  | .expireStaleForSender _ => True
  | .insertUnblocked quote => ∃ e ∈ L, ∃ tx, Prepares stellar sender e tx quote
  | _ => False

def Rule (stellar : Stellar Body) : SwapCall → SwapTrace Body → SwapOp → Prop
  | .prepare sender => PrepareRule stellar sender
  | .submit body => SubmitRule stellar body

def Post : SwapCall → SwapOut → SwapTrace Body → Prop
  | .prepare _, _, _ => True
  | .submit body, _, L => Untold (trim body.quoteId) L

/-! ### Traces -/

section Trace

variable {k : String} {q : PreparedSwapQuote} {L : SwapTrace Body} {e : SwapEvent Body}

theorem Bound.cons (h : Bound k q L) (e : SwapEvent Body) : Bound k q (e :: L) := by
  obtain ⟨e', he', hrest⟩ := h
  exact ⟨e', mem_cons_of_mem _ he', hrest⟩

theorem Unsettled.cons (h : Unsettled L) (he : closes e.op = false) : Unsettled (e :: L) :=
  forall_mem_cons.mpr ⟨he, h⟩

theorem quiet_cons (h : ∀ txHash, ¬ Tells txHash e) : Quiet (e :: L) := by
  intro e' he'
  cases he'
  exact h

theorem untold_cons (h : ∀ txHash, ¬ Tells txHash e) : Untold k (e :: L) := .inl (quiet_cons h)

theorem quiet_nil : Quiet ([] : SwapTrace Body) := fun _ he => nomatch he

theorem ReadPrepared.unsettled (h : ReadPrepared k q L) : Unsettled L := by
  obtain ⟨e, rfl, hop, -⟩ := h
  intro e' he'
  rw [mem_singleton.mp he', hop]
  rfl

theorem ReadClock.unsettled (h : ReadClock k q L) : Unsettled L := by
  obtain ⟨e, L', rfl, hop, hread⟩ := h
  apply hread.unsettled.cons
  rw [hop]
  rfl

theorem ReadClock.quiet (h : ReadClock k q L) : Quiet L := by
  obtain ⟨e, L', rfl, hop, -⟩ := h
  apply quiet_cons
  intro txHash
  simp [Tells, hop]

end Trace

/-! ### Submit requests -/

section Submit

variable {stellar : Stellar Body} {body : SwapSubmitRequest} {L : SwapTrace Body}
  {q : PreparedSwapQuote} {txHash : String}

/-- The program keeps the rule from the trace `L` on, and does not end on an unrecorded acceptance. -/
abbrev Settles (stellar : Stellar Body) (body : SwapSubmitRequest) (x : SwapM Body Submitted)
    (L : SwapTrace Body) : Prop :=
  Obeys exec (SubmitRule stellar body) x L fun _ => Untold (trim body.quoteId)

variable (hL : Unsettled L) (hq : Bound (trim body.quoteId) q L) (hhash : q.txHash = some txHash)

include hL in
theorem failQuote_settles (hquiet : Quiet L)
    (hwhy : (∃ q, ReadClock (trim body.quoteId) q L) ∨
      ∃ q, Bound (trim body.quoteId) q L ∧ ∃ e ∈ L, Refuses e ∨ WindowClosed q e)
    (err : ApiError) : Settles stellar body (failQuote body err) L := by
  apply obeys_call_bind
  · exact ⟨hL, rfl, hquiet, hwhy⟩
  · intro env s
    exact obeys_throw (untold_cons fun _ h => h)

include hL hq in
/-- The rule for the check of the submission window. -/
theorem quoteTimeboundsExpired_settles {k : Bool → SwapM Body Submitted} {err : ApiError}
    (hquiet : Quiet L) (hexpired : k true = failQuote body err)
    (hopen : ∀ L', Unsettled L' → Quiet L' → Bound (trim body.quoteId) q L' →
      Settles stellar body (k false) L') :
    Settles stellar body (quoteTimeboundsExpired q >>= k) L := by
  apply obeys_bind
  unfold quoteTimeboundsExpired
  cases hmax : q.timeboundsMax with
  | none => exact obeys_pure (hopen L hL hquiet hq)
  | some max =>
    dsimp only
    split_ifs
    · apply obeys_call_bind
      · exact ⟨hL, .inr ⟨hquiet, q, hq⟩⟩
      · intro env s
        apply obeys_pure
        have hquiet' : Quiet (⟨env, s, .now⟩ :: L) := quiet_cons fun _ h => h
        change Settles stellar body (k (decide (s.instant env / NANOS_PER_SEC > max))) _
        cases hlate : decide (s.instant env / NANOS_PER_SEC > max) with
        | true =>
          rw [hexpired]
          refine failQuote_settles (hL.cons rfl) hquiet' (.inr ⟨q, hq.cons _, _, mem_cons_self, ?_⟩) _
          exact .inr ⟨rfl, max, hmax, of_decide_eq_true hlate⟩
        | false => exact hopen _ (hL.cons rfl) hquiet' (hq.cons _)
    · exact obeys_pure (hopen L hL hquiet hq)

include hq hhash

theorem untold_of_other {e : SwapEvent Body} (hother : ¬ Tells txHash e) :
    Untold (trim body.quoteId) (e :: L) := by
  refine .inr ⟨q, txHash, hq.cons e, hhash, ?_⟩
  intro e' he'
  cases he'
  exact hother

include hL

theorem finalizeAndRespond_settles (quote : PreparedSwapQuote) (result : BroadcastResult) :
    Settles stellar body (finalizeAndRespond body quote txHash result) L := by
  apply obeys_call_bind
  · exact ⟨hL, rfl, q, hq, hhash⟩
  · intro env s
    have htold : Untold (trim body.quoteId)
        (⟨env, s, .finalizeSubmit (trim body.quoteId) txHash⟩ :: L) :=
      untold_cons fun _ h => h
    apply obeys_mk_bind
    · exact fun _ _ => htold
    · exact fun _ _ => obeys_pure htold

variable {env : SwapEnv Body} {s : SwapState}

theorem reconcileTimeout_settles (quote : PreparedSwapQuote) :
    Settles stellar body (reconcileTimeout body quote txHash env.lookup)
      (⟨env, s, .lookup txHash⟩ :: L) := by
  cases hfound : env.lookup with
  | error err =>
    apply obeys_throw
    apply untold_cons
    simp [Tells, hfound]
  | ok found =>
    cases found with
    | none =>
      apply obeys_throw
      apply untold_cons
      simp [Tells, hfound]
    | some found =>
      unfold reconcileTimeout
      dsimp only
      split_ifs with hne
      · apply obeys_throw
        apply untold_of_other hq hhash
        simpa [Tells, hfound] using hne
      · exact finalizeAndRespond_settles (hL.cons rfl) (hq.cons _) hhash quote found

theorem settleBroadcast_settles {xdr : String} (quote : PreparedSwapQuote) :
    Settles stellar body (settleBroadcast body quote txHash env.submit)
      (⟨env, s, .submit xdr⟩ :: L) := by
  have hL' : Unsettled (⟨env, s, .submit xdr⟩ :: L) := hL.cons rfl
  cases hanswer : env.submit with
  | error err =>
    have hquiet : Quiet (⟨env, s, .submit xdr⟩ :: L) := by
      apply quiet_cons
      simp [Tells, hanswer]
    unfold settleBroadcast
    dsimp only
    split_ifs with htransient
    · apply obeys_call_bind
      · exact ⟨hL', hquiet, q, hq.cons _, hhash⟩
      · intro env' s'
        exact reconcileTimeout_settles hL' (hq.cons _) hhash quote
    · apply failQuote_settles hL' hquiet
      refine .inr ⟨q, hq.cons _, _, mem_cons_self, .inl ⟨xdr, err, rfl, hanswer, ?_⟩⟩
      simpa using htransient
  | ok broadcast =>
    unfold settleBroadcast
    dsimp only
    split_ifs with hne hempty
    · apply obeys_throw
      apply untold_of_other hq hhash
      simpa [Tells, hanswer, not_or] using hne
    · exact finalizeAndRespond_settles hL' (hq.cons _) hhash quote _
    · exact finalizeAndRespond_settles hL' (hq.cons _) hhash quote _

theorem broadcastAndFinalize_settles (hquiet : Quiet L) :
    Settles stellar body (broadcastAndFinalize stellar body q txHash) L := by
  apply obeys_mk_bind
  · exact fun _ _ => .inl hquiet
  · intro recomputed hverify
    apply obeys_mk_bind
    · exact fun _ _ => .inl hquiet
    · intro _ hsame
      obtain rfl := require_eq_ok.mp hsame
      apply obeys_call_bind
      · exact ⟨hL, rfl, hquiet, q, recomputed, hq, hhash, hverify⟩
      · intro env s
        exact settleBroadcast_settles hL hq hhash q

theorem reconcile_settles :
    Settles stellar body (reconcile stellar body q txHash env.lookup)
      (⟨env, s, .lookup txHash⟩ :: L) := by
  have hL' : Unsettled (⟨env, s, .lookup txHash⟩ :: L) := hL.cons rfl
  cases hfound : env.lookup with
  | error err =>
    apply obeys_throw
    apply untold_cons
    simp [Tells, hfound]
  | ok found =>
    cases found with
    | none =>
      have hquiet : Quiet (⟨env, s, .lookup txHash⟩ :: L) := by
        apply quiet_cons
        simp [Tells, hfound]
      exact quoteTimeboundsExpired_settles hL' (hq.cons _) hquiet rfl fun L' hL'' hquiet' hq' =>
        broadcastAndFinalize_settles hL'' hq' hhash hquiet'
    | some found =>
      unfold reconcile
      dsimp only
      split_ifs with hne
      · apply obeys_throw
        apply untold_of_other hq hhash
        simpa [Tells, hfound] using hne
      · exact finalizeAndRespond_settles hL' (hq.cons _) hhash q found

omit hhash in
theorem resumeSubmitting_settles (hquiet : Quiet L) :
    Settles stellar body (resumeSubmitting stellar body q) L := by
  unfold resumeSubmitting
  cases hbound : q.txHash.filter (· ≠ "") with
  | none =>
    exact quoteTimeboundsExpired_settles hL hq hquiet rfl fun _ _ hquiet' _ =>
      obeys_throw (.inl hquiet')
  | some storedHash =>
    have hhash : q.txHash = some storedHash := (Option.filter_eq_some_iff.mp hbound).1
    apply obeys_mk_bind
    · exact fun _ _ => .inl hquiet
    · intro _ _
      apply obeys_call_bind
      · exact ⟨hL, hquiet, q, hq, hhash⟩
      · intro env s
        exact reconcile_settles hL hq hhash

omit hL hq hhash

variable {outcome : ClaimSubmitOutcome}

theorem claimForSubmit_cases {quotes : SwapQuotes} {k : String}
    (h : (SwapQuotes.claimForSubmit quotes k txHash).1 = .ok outcome) : match outcome with
    | .claimed q => q.submissionStatus = .submitting ∧ q.txHash = some txHash
    | .inProgress q => q.submissionStatus = .submitting ∧ AList.lookup k quotes = some q
    | _ => True := by
  unfold SwapQuotes.claimForSubmit at h
  split_ifs at h with hempty
  cases hq : AList.lookup k quotes with
  | none =>
    simp [hq] at h
  | some q =>
    rw [hq] at h
    cases hstatus : q.submissionStatus with
    | prepared =>
      simp only [hstatus] at h
      cases h
      exact ⟨rfl, rfl⟩
    | submitting =>
      simp only [hstatus] at h
      cases h
      exact ⟨hstatus, rfl⟩
    | submitted | failed =>
      simp only [hstatus] at h
      cases h
      trivial

theorem afterClaim_settles (hL : Unsettled L)
    (h : (SwapQuotes.claimForSubmit s.quotes (trim body.quoteId) txHash).1 = .ok outcome) :
    Settles stellar body (afterClaim stellar body txHash outcome)
      (⟨env, s, .claimForSubmit (trim body.quoteId) txHash⟩ :: L) := by
  have hL' : Unsettled (⟨env, s, .claimForSubmit (trim body.quoteId) txHash⟩ :: L) := hL.cons rfl
  have hquiet : Quiet (⟨env, s, .claimForSubmit (trim body.quoteId) txHash⟩ :: L) :=
    quiet_cons fun _ h => h
  have hcases := claimForSubmit_cases h
  cases outcome with
  | claimed quote =>
    obtain ⟨hstatus, hhash⟩ := hcases
    apply broadcastAndFinalize_settles hL' _ hhash hquiet
    refine ⟨_, mem_cons_self, .inr ⟨txHash, rfl⟩, ?_, hstatus⟩
    simp only [shown, h]
  | inProgress current =>
    obtain ⟨hstatus, -⟩ := hcases
    apply resumeSubmitting_settles hL' _ hquiet
    refine ⟨_, mem_cons_self, .inr ⟨txHash, rfl⟩, ?_, hstatus⟩
    simp only [shown, h]
  | alreadySubmitted hash | permanentlyFailed => exact obeys_throw (.inl hquiet)

theorem claimQuote_settles (hread : ReadClock (trim body.quoteId) q L) :
    Settles stellar body (claimQuote stellar body q) L := by
  apply obeys_mk_bind
  · exact fun _ _ => .inl hread.quiet
  · intro _ _
    apply obeys_mk_bind
    · exact fun _ _ => .inl hread.quiet
    · intro txHash hverify
      apply obeys_call_bind
      · exact ⟨hread.unsettled, rfl, q, hread, hverify⟩
      · intro env s
        apply obeys_mk_bind
        · exact fun _ _ => untold_cons fun _ h => h
        · intro outcome houtcome
          exact afterClaim_settles hread.unsettled (mapError_eq_ok.mp houtcome)

theorem submitQuote_settles (hq : s.quote (trim body.quoteId) = some q) :
    Settles stellar body (submitQuote stellar body q) [⟨env, s, .get (trim body.quoteId)⟩] := by
  have hquiet : Quiet [(⟨env, s, .get (trim body.quoteId)⟩ : SwapEvent Body)] :=
    quiet_cons fun _ h => h
  unfold submitQuote
  cases hstatus : q.submissionStatus with
  | submitted | failed => exact obeys_throw (.inl hquiet)
  | submitting =>
    have hL : Unsettled [(⟨env, s, .get (trim body.quoteId)⟩ : SwapEvent Body)] := by
      simp [Unsettled, closes]
    apply resumeSubmitting_settles hL _ hquiet
    exact ⟨_, mem_cons_self, .inl rfl, hq, hstatus⟩
  | prepared =>
    have hread : ReadPrepared (trim body.quoteId) q
        [(⟨env, s, .get (trim body.quoteId)⟩ : SwapEvent Body)] := ⟨_, rfl, rfl, hq, hstatus⟩
    apply obeys_call_bind
    · exact ⟨hread.unsettled, .inl ⟨q, hread⟩⟩
    · intro env' s'
      have hclock : ReadClock (trim body.quoteId) q [⟨env', s', .now⟩,
          (⟨env, s, .get (trim body.quoteId)⟩ : SwapEvent Body)] := ⟨_, _, rfl, rfl, hread⟩
      unfold submitPrepared
      split_ifs with hexpired
      · exact failQuote_settles hclock.unsettled hclock.quiet (.inl ⟨q, hclock⟩) _
      · exact claimQuote_settles hclock

theorem submitSwapInner_settles :
    Settles stellar body (submitSwapInner stellar body) [] := by
  apply obeys_mk_bind
  · exact fun _ _ => .inl quiet_nil
  · intro _ _
    apply obeys_call_bind
    · exact ⟨(fun _ he => nomatch he), rfl, rfl⟩
    · intro env s
      apply obeys_mk_bind
      · exact fun _ _ => untold_cons fun _ h => h
      · intro quote hquote
        exact submitQuote_settles (okOr_eq_ok.mp hquote)

end Submit

/-! ### Prepare requests -/

theorem prepareSwapInner_obeys (stellar : Stellar Body) (sender : String) :
    Obeys exec (PrepareRule stellar sender) (prepareSwapInner stellar sender) []
      fun _ _ => True := by
  apply obeys_mk_bind (fun _ _ => trivial)
  intro _ _
  apply obeys_call_bind trivial
  intro env s
  apply obeys_mk_bind (fun _ _ => trivial)
  intro plan hplan
  apply obeys_mk_bind (fun _ _ => trivial)
  intro built hbuilt
  apply obeys_call_bind trivial
  intro env1 s1
  apply obeys_call_bind trivial
  intro env2 s2
  apply obeys_call_bind trivial
  intro env3 s3
  apply obeys_bind
  apply obeys_call_bind trivial
  intro env4 s4
  apply obeys_call_bind
  · refine ⟨⟨env, s, .planSwap sender⟩, by simp, plan.tx, ?_⟩
    simp only [Stellar.sealUnsigned, bind_eq_ok, mapError_eq_ok] at hbuilt
    obtain ⟨txHash, -, xdr, hxdr, hbuilt⟩ := hbuilt
    cases hbuilt
    exact ⟨rfl, ⟨plan, hplan, rfl, rfl⟩, ⟨xdr, hxdr, rfl⟩, rfl, rfl, rfl⟩
  · intro env5 s5
    apply obeys_mk
    split
    · exact obeys_pure trivial
    · trivial

theorem start_holds (stellar : Stellar Body) (call : SwapCall) :
    (start stellar call).Holds exec (Rule stellar call) (Post call) [] := by
  cases call with
  | prepare sender =>
    change ((prepareSwapInner stellar sender).run >>= fun r => .ret (SwapOut.prepared r)).Holds _ _ _ _
    rw [Prog.holds_bind]
    exact (prepareSwapInner_obeys stellar sender).holds
  | submit body =>
    change ((submitSwapInner stellar body).run >>= fun r => .ret (SwapOut.submitted r)).Holds _ _ _ _
    rw [Prog.holds_bind]
    exact submitSwapInner_settles.holds

end StellarRoute.Swap
