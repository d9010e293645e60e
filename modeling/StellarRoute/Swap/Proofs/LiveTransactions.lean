import StellarRoute.Swap.Proofs.Envelopes

/-! Whether a transaction that the network has accepted can be lost. A request
that has read a quote as prepared may find it expired and fail it after another
request has claimed it, and a second broadcaster may be refused and fail the
quote before the first one, whose envelope was accepted, has finalized it.
While the requests for a quote do not overlap, neither happens. -/

namespace StellarRoute.Swap

open Lib Lib.Interleave Sample List Option

variable {Body : Type}

/-- The request is to submit this quote. -/
def SubmitsFor (k : String) : SwapCall → Prop
  | .prepare _ => False
  | .submit body => trim body.quoteId = k

instance (k : String) : DecidablePred (SubmitsFor k)
  | .prepare _ => inferInstanceAs (Decidable False)
  | .submit body => inferInstanceAs (Decidable (trim body.quoteId = k))

/-- The network has told that it has the transaction of the quote. -/
def ToldLive (k : String) (e : SwapEvent Body) : Prop :=
  ∃ q txHash, e.state.quote k = some q ∧ q.txHash = some txHash ∧ Tells txHash e

/-- What a request may rely on while no other one for the quote is in progress. -/
structure Knows (k : String) (L : SwapTrace Body) (s : SwapState) : Prop where
  bound : ∀ q, Bound k q L → ∃ q', s.quote k = some q' ∧ q'.submissionStatus = .submitting ∧
    q'.txHash = q.txHash ∧ q'.timeboundsMax = q.timeboundsMax
  read : ∀ q, ReadPrepared k q L ∨ ReadClock k q L →
    ∃ q', s.quote k = some q' ∧ q'.submissionStatus ≠ .submitting

/-! ### One operation -/

section Operation

variable {stellar : Stellar Body} {body : SwapSubmitRequest} {call : SwapCall}
  {L : SwapTrace Body} {env : SwapEnv Body} {s : SwapState} {o : SwapOp} {k : String}
  {q : PreparedSwapQuote}

theorem submitted_stays (hfresh : FreshId env s o) (hq : s.quote k = some q)
    (hstatus : q.submissionStatus = .submitted) : (exec env o s).2.quote k = some q := by
  have hchange := exec_change env s o k
  generalize (exec env o s).2.quote k = new at hchange
  cases hchange with
  | kept hold => exact hold.symm.trans hq
  | inserted quote hid hfree =>
    have hnone := hfresh quote rfl
    simp [hid, hq] at hnone
  | expired q' hq' hprepared hstale | claimed q' txHash hq' hprepared =>
    obtain rfl : q' = q := mem_unique hq' hq
    simp [hstatus] at hprepared
  | finalized q' txHash hq' hsubmitting =>
    obtain rfl : q' = q := mem_unique hq' hq
    simp [hstatus] at hsubmitting
  | failed q' hq' hopen =>
    obtain rfl : q' = q := mem_unique hq' hq
    simp [hstatus] at hopen

theorem rule_key (hrule : Rule stellar call L o)
    (ho : (∃ txHash, o = .claimForSubmit k txHash ∨ o = .finalizeSubmit k txHash) ∨
      o = .markFailed k) : SubmitsFor k call := by
  cases call with
  | prepare sender =>
    rcases ho with ⟨txHash, rfl | rfl⟩ | rfl
    · exact hrule
    · exact hrule
    · exact hrule
  | submit body =>
    rcases ho with ⟨txHash, rfl | rfl⟩ | rfl
    · exact hrule.2.1.symm
    · exact hrule.2.1.symm
    · exact hrule.2.1.symm

theorem other_leaves (hrule : Rule stellar call L o) (hcall : ¬ SubmitsFor k call)
    (hfresh : FreshId env s o) (hq : s.quote k = some q) :
    (exec env o s).2.quote k = some q ∨ q.submissionStatus = .prepared ∧
      (exec env o s).2.quote k = some { q with submissionStatus := .failed } := by
  have hchange := exec_change env s o k
  generalize (exec env o s).2.quote k = new at hchange ⊢
  cases hchange with
  | kept hold => exact .inl (hold.symm.trans hq)
  | expired q' hq' hprepared hstale =>
    obtain rfl : q' = q := mem_unique hq' hq
    exact .inr ⟨hprepared, rfl⟩
  | inserted quote hid hfree =>
    have hnone := hfresh quote rfl
    simp [hid, hq] at hnone
  | claimed q' txHash => exact absurd (rule_key hrule (.inl ⟨txHash, .inl rfl⟩)) hcall
  | finalized q' txHash => exact absurd (rule_key hrule (.inl ⟨txHash, .inr rfl⟩)) hcall
  | failed q' => exact absurd (rule_key hrule (.inr rfl)) hcall

theorem Knows.other (hK : Knows k L s) {L' : SwapTrace Body} (hrule : Rule stellar call L' o)
    (hcall : ¬ SubmitsFor k call) (hfresh : FreshId env s o) :
    Knows k L (exec env o s).2 where
  bound q hq := by
    obtain ⟨q', hq', hstatus, hrest⟩ := hK.bound q hq
    rcases other_leaves hrule hcall hfresh hq' with hsame | ⟨hprepared, -⟩
    · exact ⟨q', hsame, hstatus, hrest⟩
    · simp [hstatus] at hprepared
  read q hq := by
    obtain ⟨q', hq', hstatus⟩ := hK.read q hq
    rcases other_leaves hrule hcall hfresh hq' with hsame | ⟨-, hfailed⟩
    · exact ⟨q', hsame, hstatus⟩
    · exact ⟨_, hfailed, by simp⟩

theorem bound_cons {e : SwapEvent Body} (h : Bound k q (e :: L)) :
    Bound k q L ∨ (e.op = .get k ∨ ∃ txHash, e.op = .claimForSubmit k txHash) ∧
      shown e = some q ∧ q.submissionStatus = .submitting := by
  obtain ⟨e', he', hrest⟩ := h
  rcases mem_cons.mp he' with rfl | he'
  · exact .inr hrest
  · exact .inl ⟨e', he', hrest⟩

variable {q' : PreparedSwapQuote}

theorem ReadPrepared.not_bound (h : ReadPrepared k q L) : ¬ Bound k q' L := by
  obtain ⟨e, rfl, hop, hq, hstatus⟩ := h
  intro hbound
  rcases bound_cons hbound with ⟨e', he', -⟩ | ⟨-, hshown, hsubmitting⟩
  · cases he'
  · simp only [shown, hop] at hshown
    obtain rfl : q = q' := mem_unique hq hshown
    simp [hstatus] at hsubmitting

theorem ReadClock.not_bound (h : ReadClock k q L) : ¬ Bound k q' L := by
  obtain ⟨e, L', rfl, hop, hread⟩ := h
  intro hbound
  rcases bound_cons hbound with hbound | ⟨-, hshown, -⟩
  · exact hread.not_bound hbound
  · simp [shown, hop] at hshown

theorem Knows.ask (hK : Knows k L s) (hstore : ∀ k, (exec env o s).2.quote k = s.quote k)
    (hop : (∃ xdr, o = .submit xdr) ∨ (∃ txHash, o = .lookup txHash) ∨ o = .now) :
    Knows k (⟨env, s, o⟩ :: L) (exec env o s).2 where
  bound q hq := by
    rw [hstore]
    rcases bound_cons hq with hq | ⟨hshows, -⟩
    · exact hK.bound q hq
    · rcases hop with ⟨xdr, rfl⟩ | ⟨txHash, rfl⟩ | rfl
      all_goals simp at hshows
  read q hq := by
    rw [hstore]
    rcases hq with ⟨e, hL, hget, -⟩ | ⟨e, L', hL, hnow, hread⟩
    · cases hL
      rcases hop with ⟨xdr, rfl⟩ | ⟨txHash, rfl⟩ | rfl
      all_goals cases hget
    · cases hL
      exact hK.read q (.inl hread)

theorem knows_step (hrule : SubmitRule stellar body L o) (hK : L ≠ [] → Knows (trim body.quoteId) L s)
    (ho : closes o = false) :
    Knows (trim body.quoteId) (⟨env, s, o⟩ :: L) (exec env o s).2 := by
  obtain ⟨-, hrule⟩ := hrule
  cases o with
  | get k =>
    obtain ⟨rfl, rfl⟩ := hrule
    constructor
    · intro q hq
      rcases bound_cons hq with ⟨e, he, -⟩ | ⟨-, hshown, hstatus⟩
      · cases he
      · exact ⟨q, hshown, hstatus, rfl, rfl⟩
    · intro q hq
      rcases hq with ⟨e, hL, -, hq, hstatus⟩ | ⟨e, L', hL, hnow, -⟩
      · cases hL
        exact ⟨q, hq, by simp [hstatus]⟩
      · cases hL
        cases hnow
  | now =>
    apply Knows.ask _ (fun _ => rfl) (.inr (.inr rfl))
    apply hK
    rintro rfl
    rcases hrule with ⟨q, e, hL, -⟩ | ⟨-, q, e, he, -⟩
    · cases hL
    · cases he
  | lookup txHash =>
    apply Knows.ask _ (fun _ => rfl) (.inr (.inl ⟨txHash, rfl⟩))
    apply hK
    rintro rfl
    obtain ⟨-, q, ⟨e, he, -⟩, -⟩ := hrule
    cases he
  | submit xdr =>
    apply Knows.ask _ (fun _ => rfl) (.inl ⟨xdr, rfl⟩)
    apply hK
    rintro rfl
    obtain ⟨-, -, q, txHash, ⟨e, he, -⟩, -⟩ := hrule
    cases he
  | claimForSubmit k txHash =>
    obtain ⟨rfl, q0, hread, -⟩ := hrule
    constructor
    · intro q hq
      rcases bound_cons hq with hq | ⟨hop, hshown, hstatus⟩
      · exact absurd hq hread.not_bound
      · exact ⟨q, quote_of_shown hop hshown, hstatus, rfl, rfl⟩
    · intro q hq
      rcases hq with ⟨e, hL, hget, -⟩ | ⟨e, L', hL, hnow, -⟩
      · cases hL
        cases hget
      · cases hL
        cases hnow
  | finalizeSubmit k txHash | markFailed k => cases ho
  | planSwap sender | newUuid | expireStaleForSender sender | insertUnblocked quote =>
    exact hrule.elim

theorem finalizes_of_told {e : SwapEvent Body} (hrule : SubmitRule stellar body (e :: L) o)
    {txHash : String} (htold : Tells txHash e) :
    ∃ hash q, o = .finalizeSubmit (trim body.quoteId) hash ∧
      Bound (trim body.quoteId) q (e :: L) := by
  have hloud : ¬ Quiet (e :: L) := fun hquiet => hquiet e rfl txHash htold
  obtain ⟨-, hrule⟩ := hrule
  cases o with
  | get k => cases hrule.2
  | now =>
    rcases hrule with ⟨q, e', hL, hop, -⟩ | ⟨hquiet, -⟩
    · cases hL
      simp [Tells, hop] at htold
    · exact absurd hquiet hloud
  | claimForSubmit k hash =>
    obtain ⟨-, q, hread, -⟩ := hrule
    exact absurd hread.quiet hloud
  | lookup hash => exact absurd hrule.1 hloud
  | submit xdr | markFailed k => exact absurd hrule.2.1 hloud
  | finalizeSubmit k hash =>
    obtain ⟨rfl, q, hq, -⟩ := hrule
    exact ⟨hash, q, rfl, hq⟩
  | planSwap sender | newUuid | expireStaleForSender sender | insertUnblocked quote =>
    exact hrule.elim

theorem fails_with_reason (hrule : Rule stellar call L o)
    (hK : L ≠ [] → SubmitsFor k call → Knows k L s) (hfresh : FreshId env s o)
    (hq : s.quote k = some q) (hstatus : q.submissionStatus = .submitting)
    (hq' : (exec env o s).2.quote k = some q') (hfailed : q'.submissionStatus = .failed) :
    SubmitsFor k call ∧ ∃ e ∈ L, Refuses e ∨ WindowClosed q e := by
  have hchange := exec_change env s o k
  rw [hq'] at hchange
  cases hchange with
  | kept hold =>
    obtain rfl : q' = q := mem_unique hold hq
    simp [hstatus] at hfailed
  | expired q0 hq0 hprepared hstale | claimed q0 txHash hq0 hprepared =>
    obtain rfl : q0 = q := mem_unique hq0 hq
    simp [hstatus] at hprepared
  | inserted _ hid hfree =>
    have hnone := hfresh q' rfl
    simp [hid, hq] at hnone
  | finalized q0 txHash hq0 => cases hfailed
  | failed q0 hq0 =>
    have hcall : SubmitsFor k call := rule_key hrule (.inr rfl)
    refine ⟨hcall, ?_⟩
    cases call with
    | prepare sender => exact hcall.elim
    | submit body =>
      obtain ⟨-, -, -, ⟨q1, hread⟩ | ⟨q1, hbound, e, he, hwhy⟩⟩ := hrule
      · -- the quote was read as prepared, and nobody has claimed it since
        obtain ⟨e, L', rfl, -⟩ := id hread
        obtain ⟨q2, hq2, hne⟩ := (hK (by simp) hcall).read q1 (.inr hread)
        obtain rfl : q2 = q := mem_unique hq2 hq
        exact absurd hstatus hne
      · obtain ⟨q2, hq2, -, -, hmax⟩ := (hK (ne_nil_of_mem he) hcall).bound q1 hbound
        obtain rfl : q2 = q := mem_unique hq2 hq
        refine ⟨e, he, hwhy.imp_right ?_⟩
        rintro ⟨hop, max, hmax1, hlt⟩
        exact ⟨hop, max, hmax.trans hmax1, hlt⟩

end Operation

/-! ### The requests together -/

abbrev SwapPool (Body : Type) :=
  Pool (SwapEnv Body) SwapState SwapOp (SwapOp.Res Body) SwapCall SwapOut

abbrev SwapThread (Body : Type) :=
  Thread (SwapEnv Body) SwapState SwapOp (SwapOp.Res Body) SwapCall SwapOut

def SwapState.IsSubmitted (s : SwapState) (k : String) : Prop :=
  ∃ q, s.quote k = some q ∧ q.submissionStatus = .submitted

theorem SwapState.IsSubmitted.exec {env : SwapEnv Body} {s : SwapState} {o : SwapOp} {k : String}
    (h : s.IsSubmitted k) (hfresh : FreshId env s o) : (Swap.exec env o s).2.IsSubmitted k := by
  obtain ⟨q, hq, hstatus⟩ := h
  exact ⟨q, submitted_stays hfresh hq hstatus, hstatus⟩

/-- The last thing the request did was to be told that the network has the transaction. -/
def JustTold (k : String) (L : SwapTrace Body) : Prop := ∃ e ∈ L.head?, ToldLive k e

/-- What the call and the store have to do with each other. -/
structure Tracked (k : String) (s : SwapState) (th : SwapThread Body) : Prop where
  knows : SubmitsFor k th.call → th.InProgress → Knows k th.trace s
  told : SubmitsFor k th.call → ∀ e ∈ th.trace, ToldLive k e →
    s.IsSubmitted k ∨ th.InProgress ∧ JustTold k th.trace
  failed : ∀ e ∈ th.trace, ∀ q q', e.state.quote k = some q → q.submissionStatus = .submitting →
    (e.after exec).quote k = some q' → q'.submissionStatus = .failed →
    SubmitsFor k th.call ∧ ∃ e' ∈ th.trace, Refuses e' ∨ WindowClosed q e'

structure Serial (stellar : Stellar Body) (k : String) (p : SwapPool Body) : Prop where
  sound : p.Sound exec (Rule stellar) Post
  alone : p.Exclusive (SubmitsFor k)
  tracked : ∀ (i : ℕ) th, p.threads[i]? = some th → Tracked k p.state th

section Step

variable {stellar : Stellar Body} {k : String} {s : SwapState} {env : SwapEnv Body} {o : SwapOp}
  {th : SwapThread Body} {p : SwapPool Body} {i : ℕ}

theorem tracked_new (c : SwapCall) (s : SwapState) :
    Tracked k s (⟨c, start stellar c, []⟩ : SwapThread Body) where
  knows _ h := absurd h (not_inProgress_new _ _)
  told _ _ h := nomatch h
  failed _ h := nomatch h

variable {L : SwapTrace Body} {body : SwapSubmitRequest}
  {prog : Prog SwapOp (SwapOp.Res Body) SwapOut}

section

variable (hK : L ≠ [] → Knows (trim body.quoteId) L s) (hrule : SubmitRule stellar body L o)
  (hholds : prog.Holds exec (SubmitRule stellar body) (Post (.submit body)) (⟨env, s, o⟩ :: L))
include hK hrule hholds

theorem goes_on_of_told (htold : ToldLive (trim body.quoteId) (⟨env, s, o⟩ : SwapEvent Body)) :
    prog.isOp := by
  cases prog with
  | op o' k' => rfl
  | ret out =>
    obtain ⟨q, txHash, hq, hhash, htells⟩ := htold
    have ho : closes o = false := by
      cases o with
      | finalizeSubmit k hash | markFailed k => exact htells.elim
      | _ => rfl
    have hstore : ∀ k, (exec env o s).2.quote k = s.quote k := by
      cases o with
      | submit xdr | lookup hash => exact fun _ => rfl
      | _ => exact htells.elim
    rcases hholds with hquiet | ⟨q1, hash, hbound, hhash1, hnot⟩
    · exact absurd htells (hquiet _ rfl txHash)
    · obtain ⟨q2, hq2, -, hsame, -⟩ := (knows_step hrule hK ho).bound q1 hbound
      rw [hstore] at hq2
      obtain rfl : q2 = q := mem_unique hq2 hq
      rw [hsame, hhash1] at hhash
      cases hhash
      exact absurd htells (hnot _ rfl)

omit hholds in
theorem submitted_after_told (hjust : JustTold (trim body.quoteId) L) :
    (exec env o s).2.IsSubmitted (trim body.quoteId) := by
  obtain ⟨e, he, q, txHash, hq, hhash, htells⟩ := hjust
  cases L with
  | nil => cases he
  | cons e' L =>
    cases he
    obtain ⟨hash, q1, rfl, hbound⟩ := finalizes_of_told hrule htells
    obtain ⟨q2, hq2, hstatus, -⟩ := (hK (by simp)).bound q1 hbound
    refine ⟨{ q2 with submissionStatus := .submitted, txHash := some hash }, ?_, rfl⟩
    change AList.lookup _ (SwapQuotes.finalizeSubmit s.quotes (trim body.quoteId) hash).2 = _
    unfold SwapQuotes.finalizeSubmit
    have hlookup : AList.lookup (trim body.quoteId) s.quotes = some q2 := hq2
    simp [hlookup, hstatus]

end

theorem Tracked.act {k' : SwapOp.Res Body o → Prog SwapOp (SwapOp.Res Body) SwapOut}
    (hT : Tracked k s th) (hfresh : FreshId env s o)
    (hholds : th.prog.Holds exec (Rule stellar th.call) (Post th.call) th.trace)
    (hprog : th.prog = .op o k') :
    Tracked k (exec env o s).2
      ⟨th.call, k' (exec env o s).1, ⟨env, s, o⟩ :: th.trace⟩ := by
  have hop : th.prog.isOp := Prog.isOp_iff.mpr ⟨o, k', hprog⟩
  have hK : th.trace ≠ [] → SubmitsFor k th.call → Knows k th.trace s :=
    fun hne hcall => hT.knows hcall ⟨hne, hop⟩
  rw [hprog] at hholds
  obtain ⟨hrule, hrest⟩ := hholds
  have hafter := hrest env s
  constructor
  · intro hcall hin
    obtain ⟨call, prog, L⟩ := th
    cases call with
    | prepare sender => exact hcall.elim
    | submit body =>
      obtain rfl : trim body.quoteId = k := hcall
      obtain ⟨o', k'', hnext⟩ := Prog.isOp_iff.mp hin.2
      rw [show k' (exec env o s).1 = .op o' k'' from hnext] at hafter
      exact knows_step hrule (fun hne => hK hne rfl) (hafter.1.1 _ mem_cons_self)
  · intro hcall e he htold
    obtain ⟨call, prog, L⟩ := th
    cases call with
    | prepare sender => exact hcall.elim
    | submit body =>
      obtain rfl : trim body.quoteId = k := hcall
      rcases mem_cons.mp he with rfl | he
      · refine .inr ⟨⟨by simp, ?_⟩, _, rfl, htold⟩
        exact goes_on_of_told (fun hne => hK hne rfl) hrule hafter htold
      · rcases hT.told rfl e he htold with hdone | ⟨-, hjust⟩
        · exact .inl (hdone.exec hfresh)
        · exact .inl (submitted_after_told (fun hne => hK hne rfl) hrule hjust)
  · intro e he q q' hq hstatus hq' hfailed
    rcases mem_cons.mp he with rfl | he
    · obtain ⟨hcall, e', he', hwhy⟩ := fails_with_reason hrule hK hfresh hq hstatus hq' hfailed
      exact ⟨hcall, e', mem_cons_of_mem _ he', hwhy⟩
    · obtain ⟨hcall, e', he', hwhy⟩ := hT.failed e he q q' hq hstatus hq' hfailed
      exact ⟨hcall, e', mem_cons_of_mem _ he', hwhy⟩

theorem Serial.step (hS : Serial stellar k p) {c : Choice (SwapEnv Body) SwapCall}
    (halone : p.BeginsAlone (SubmitsFor k) c) (hfresh : Allowed FreshId p c) :
    Serial stellar k (step exec (start stellar) p c) where
  sound := hS.sound.step (start_holds stellar)
  alone := hS.alone.step halone
  tracked := by
    rcases step_cases exec (start stellar) p c with
      ⟨call, rfl, h⟩ | h | ⟨i, env, th, o, k', rfl, hth, hprog, h⟩
    · rw [h]
      intro j th hj
      rcases thread_of_spawn hj with hj | rfl
      · exact hS.tracked j th hj
      · exact tracked_new call p.state
    · rw [h]
      exact hS.tracked
    · rw [h]
      have hholds := hS.sound th (mem_of_getElem? hth)
      have hnew : FreshId env p.state o := hfresh th o k' hth hprog
      have hrule : Rule stellar th.call th.trace o := by
        rw [hprog] at hholds
        exact hholds.1
      intro j th' hj
      rcases thread_of_set hj with ⟨rfl, rfl⟩ | ⟨hne, hold⟩
      · exact (hS.tracked _ th hth).act hnew hholds hprog
      · -- another call is disturbed only by one for its quote
        have hT := hS.tracked j th' hold
        refine ⟨fun hcall' hin => ?_, fun hcall' e he htold => ?_, hT.failed⟩
        · refine (hT.knows hcall' hin).other hrule (fun hcall => ?_) hnew
          exact hS.alone.others halone hth (Prog.isOp_iff.mpr ⟨o, k', hprog⟩) hcall hold hcall' hne hin
        · exact (hT.told hcall' e he htold).imp_left fun hdone => hdone.exec hnew

end Step

/-- While no submit request for the quote begins when another one is in progress: a quote whose
transaction the network was said to have is not failed, and whoever fails a claimed quote was refused
or has seen its window closed. -/
theorem live_never_failed (stellar : Stellar Body) (clock : ℤ) (k : String)
    (choices : List (Choice (SwapEnv Body) SwapCall))
    (hfresh : Transition.StepsOk (step exec (start stellar)) (Allowed FreshId)
      ⟨⟨∅, clock⟩, []⟩ choices)
    (halone : Transition.StepsOk (step exec (start stellar))
      (fun p c => p.BeginsAlone (SubmitsFor k) c) ⟨⟨∅, clock⟩, []⟩ choices) :
    let p := run exec (start stellar) ⟨⟨∅, clock⟩, []⟩ choices
    ∀ th ∈ p.threads,
      (SubmitsFor k th.call → (∃ e ∈ th.trace, ToldLive k e) →
        ∀ q, p.state.quote k = some q → q.submissionStatus ≠ .failed) ∧
      ∀ e ∈ th.trace, ∀ q q', e.state.quote k = some q → q.submissionStatus = .submitting →
        (e.after exec).quote k = some q' → q'.submissionStatus = .failed →
        SubmitsFor k th.call ∧ ∃ e' ∈ th.trace, Refuses e' ∨ WindowClosed q e' := by
  intro p th hth
  have hS : Serial stellar k p := by
    apply Transition.run_inv_of_ok (P := Serial stellar k) _ _ (hfresh.and halone)
    · intro p c hp hc
      exact hp.step hc.2 hc.1
    · refine ⟨Pool.sound_nil _, ?_, ?_⟩
      · nofun
      · nofun
  obtain ⟨i, hi⟩ := getElem?_of_mem hth
  have hT := hS.tracked i th hi
  refine ⟨?_, hT.failed⟩
  rintro hcall ⟨e, he, htold⟩ q hq hfailed
  rcases hT.told hcall e he htold with ⟨q', hq', hstatus⟩ | ⟨hin, hjust⟩
  · obtain rfl : q' = q := mem_unique hq' hq
    simp [hfailed] at hstatus
  · have hK := hT.knows hcall hin
    have hholds := hS.sound th hth
    obtain ⟨o, k', hprog⟩ := Prog.isOp_iff.mp hin.2
    rw [hprog] at hholds
    obtain ⟨call, prog, L⟩ := th
    cases call with
    | prepare sender => exact hcall.elim
    | submit body =>
      obtain rfl : trim body.quoteId = k := hcall
      obtain ⟨e', he', q1, txHash, -, -, htells⟩ := hjust
      cases L with
      | nil => cases he'
      | cons e'' L =>
        cases he'
        obtain ⟨hash, q2, -, hbound⟩ := finalizes_of_told hholds.1 htells
        obtain ⟨q3, hq3, hstatus, -⟩ := hK.bound q2 hbound
        obtain rfl : q3 = q := mem_unique hq3 hq
        simp [hfailed] at hstatus

theorem live_never_failed_submitted :
    Transition.StepsOk (step exec (start Sample.network))
      (fun p c => p.BeginsAlone (SubmitsFor "q1") c) ⟨⟨∅, 0⟩, []⟩ submittedRun ∧
    ∀ th ∈ (Sample.pool submittedRun).threads,
      SubmitsFor "q1" th.call → (∃ e ∈ th.trace, ToldLive "q1" e) →
        ∀ q, (Sample.pool submittedRun).state.quote "q1" = some q →
          q.submissionStatus ≠ .failed := by
  have halone : Transition.StepsOk (step exec (start network))
      (fun p c => p.BeginsAlone (SubmitsFor "q1") c) ⟨⟨∅, 0⟩, []⟩ submittedRun := by
    decide +kernel
  refine ⟨halone, fun th hth => ?_⟩
  exact (live_never_failed network 0 "q1" submittedRun submittedRun_fresh halone th
    hth).1

/-- Both submit requests read the quote; one claims it and is told that its envelope was
accepted, and then the other one finds the quote expired. -/
def overlappingRun : List (Choice (SwapEnv Unit) SwapCall) :=
  [.spawn (.prepare Sample.sender), .spawn (.submit (Sample.request "q1")),
      .spawn (.submit (Sample.request "q1"))] ++
    List.replicate 6 (.step 0 (Sample.after 0 "q1")) ++ [.step 2 (Sample.after 1 "")] ++
    List.replicate 4 (.step 1 (Sample.after 1 "")) ++ List.replicate 2 (.step 2 (Sample.after 121 ""))

instance (txHash : String) (e : SwapEvent Body) : Decidable (Tells txHash e) :=
  match h : e.op with
  | .submit _ =>
    decidable_of_iff (∃ r, e.env.submit = .ok r ∧ (r.txHash = "" ∨ r.txHash = txHash))
      (by simp [Tells, h])
  | .lookup hash =>
    decidable_of_iff
      (hash = txHash ∧ ∃ r, e.env.lookup = .ok r ∧ ∃ a, r = some a ∧ a.txHash = txHash)
      (by simp [Tells, h])
  | .get _ | .now | .claimForSubmit .. | .finalizeSubmit .. | .markFailed _ | .planSwap _
  | .newUuid | .expireStaleForSender _ | .insertUnblocked _ => isFalse (by simp [Tells, h])

instance (k : String) (e : SwapEvent Body) : Decidable (ToldLive k e) :=
  decidable_of_iff
    (∃ q, e.state.quote k = some q ∧ ∃ txHash, q.txHash = some txHash ∧ Tells txHash e)
    (by simp [ToldLive])

instance (e : SwapEvent Body) : Decidable (Refuses e) :=
  match hop : e.op, hans : e.env.submit with
  | .submit _, .error err =>
    decidable_of_iff (err.isTransientTransport = false) (by simp [Refuses, hop, hans])
  | _, .ok _ => isFalse (by simp [Refuses, hans])
  | .get _, _ | .now, _ | .claimForSubmit .., _ | .finalizeSubmit .., _ | .markFailed _, _
  | .planSwap _, _ | .newUuid, _ | .expireStaleForSender _, _ | .insertUnblocked _, _
  | .lookup _, _ => isFalse (by simp [Refuses, hop])

instance (q : PreparedSwapQuote) (e : SwapEvent Body) : Decidable (WindowClosed q e) :=
  inferInstanceAs (Decidable (_ ∧ ∃ _, _))

theorem live_failed :
    (∃ th ∈ (Sample.pool overlappingRun).threads,
      SubmitsFor "q1" th.call ∧ (∃ e ∈ th.trace, ToldLive "q1" e) ∧
      ∃ q, (Sample.pool overlappingRun).state.quote "q1" = some q ∧
        q.submissionStatus = .failed) ∧
    ∃ th ∈ (Sample.pool overlappingRun).threads,
      ∃ e ∈ th.trace, ∃ q q', e.state.quote "q1" = some q ∧ q.submissionStatus = .submitting ∧
        (e.after exec).quote "q1" = some q' ∧ q'.submissionStatus = .failed ∧
        ¬ ∃ e' ∈ th.trace, Refuses e' ∨ WindowClosed q e' := by
  refine ⟨by decide +kernel, ?_⟩
  have h : ∃ th ∈ (Sample.pool overlappingRun).threads,
      ∃ e ∈ th.trace, ∃ q, e.state.quote "q1" = some q ∧ q.submissionStatus = .submitting ∧
        (∃ q', (e.after exec).quote "q1" = some q' ∧ q'.submissionStatus = .failed) ∧
        ¬ ∃ e' ∈ th.trace, Refuses e' ∨ WindowClosed q e' := by
    decide +kernel
  obtain ⟨th, hth, e, he, q, hq, hstatus, ⟨q', hq', hfailed⟩, hnone⟩ := h
  exact ⟨th, hth, e, he, q, q', hq, hstatus, hq', hfailed, hnone⟩

end StellarRoute.Swap
