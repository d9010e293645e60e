import StellarRoute.Lib.Tally
import StellarRoute.Lib.Threads
import StellarRoute.Swap.Sanity.Envelope
import StellarRoute.Swap.Sanity.Submission

/-! What reaches the network. A request validates its envelope against the
quote it was given, and a quote that has been claimed keeps its transaction
hash: whatever way an envelope takes to the network, it carries the transaction
that was prepared, signed by the sender, under the hash bound at the claim. -/

namespace StellarRoute.Swap

open Lib Lib.Interleave Option

variable {Body : Type}

def SwapOp.inserts : SwapOp → Option PreparedSwapQuote
  | .insertUnblocked quote => some quote
  | _ => none

/-- A new quote has an id of its own. -/
def FreshId (_ : SwapEnv Body) (s : SwapState) (o : SwapOp) : Prop :=
  ∀ quote ∈ o.inserts, s.quote quote.quoteId = none

instance (env : SwapEnv Body) (s : SwapState) (o : SwapOp) : Decidable (FreshId env s o) :=
  inferInstanceAs (Decidable (∀ _ ∈ _, _))

/-- What later states keep of a quote. -/
structure Grown (q q' : PreparedSwapQuote) : Prop where
  sender : q'.senderAccount = q.senderAccount
  xdr : q'.unsignedXdrHash = q.unsignedXdrHash
  network : q'.networkPassphrase = q.networkPassphrase
  hash : ∀ txHash, q.txHash = some txHash → q'.txHash = some txHash

theorem Grown.refl (q : PreparedSwapQuote) : Grown q q := ⟨rfl, rfl, rfl, fun _ h => h⟩

theorem Grown.trans {q1 q2 q3 : PreparedSwapQuote} (h : Grown q1 q2) (h' : Grown q2 q3) :
    Grown q1 q3 :=
  ⟨h'.sender.trans h.sender, h'.xdr.trans h.xdr, h'.network.trans h.network,
    fun txHash heq => h'.hash txHash (h.hash txHash heq)⟩

/-- Every quote of the first state is in the second, and has grown. -/
def Kept (s s' : SwapState) : Prop :=
  ∀ k q, s.quote k = some q → ∃ q', s'.quote k = some q' ∧ Grown q q'

theorem Kept.refl (s : SwapState) : Kept s s := fun _ q hq => ⟨q, hq, .refl q⟩

theorem Kept.trans {s1 s2 s3 : SwapState} (h : Kept s1 s2) (h' : Kept s2 s3) : Kept s1 s3 := by
  intro k q hq
  obtain ⟨q', hq', hgrown⟩ := h k q hq
  obtain ⟨q'', hq'', hgrown'⟩ := h' k q' hq'
  exact ⟨q'', hq'', hgrown.trans hgrown'⟩

def ClaimsWith (k txHash : String) (e : SwapEvent Body) : Prop :=
  e.op = .claimForSubmit k txHash ∧
    ∃ q, e.state.quote k = some q ∧ q.submissionStatus = .prepared

/-- A request has inserted the quote under this id, with this transaction. -/
def InsertedAs (stellar : Stellar Body) (D : SwapCall → SwapEvent Body → Prop) (k : String)
    (tx : Transaction Body) (quote : PreparedSwapQuote) : Prop :=
  quote.quoteId = k ∧ ∃ sender e e', D (.prepare sender) e ∧ D (.prepare sender) e' ∧
    Prepares stellar sender e tx quote ∧ e'.op = .insertUnblocked quote

/-- What ties the store to all that was done. -/
structure Binding (stellar : Stellar Body) (D : SwapCall → SwapEvent Body → Prop)
    (s : SwapState) : Prop where
  shown : ∀ call e k q, D call e → (e.op = .get k ∨ ∃ txHash, e.op = .claimForSubmit k txHash) →
    shown e = some q → ∃ q', s.quote k = some q' ∧ Grown q q'
  inserted : ∀ k q, s.quote k = some q → ∃ tx q0, InsertedAs stellar D k tx q0 ∧ Grown q0 q
  claimed : ∀ k q txHash, s.quote k = some q → q.txHash = some txHash →
    ∃ call e, D call e ∧ ClaimsWith k txHash e
  unbound : ∀ k q, s.quote k = some q → q.submissionStatus = .prepared → q.txHash = none

theorem binding_init (stellar : Stellar Body) (clock : ℤ) :
    Binding stellar (fun _ _ => False) ⟨∅, clock⟩ where
  shown _ _ _ _ h := h.elim
  inserted _ _ h := nomatch h
  claimed _ _ _ h := nomatch h
  unbound _ _ h := nomatch h

section Step

variable {stellar : Stellar Body} {D : SwapCall → SwapEvent Body → Prop} {call : SwapCall}
  {L : SwapTrace Body} {env : SwapEnv Body} {s : SwapState} {o : SwapOp} {k txHash : String}
  {q : PreparedSwapQuote}

theorem Binding.finalize (hB : Binding stellar D s) (hL : ∀ e ∈ L, D call e)
    (hrule : Rule stellar call L (.finalizeSubmit k txHash)) (hq : s.quote k = some q) :
    q.txHash = some txHash := by
  cases call with
  | prepare sender => exact hrule.elim
  | submit body =>
    obtain ⟨-, rfl, q0, ⟨e, he, hop, hshown, -⟩, hhash⟩ := hrule
    obtain ⟨q', hq', hgrown⟩ := hB.shown _ e _ q0 (hL e he) hop hshown
    obtain rfl : q' = q := mem_unique hq' hq
    exact hgrown.hash txHash hhash

theorem insert_rule {quote : PreparedSwapQuote}
    (hrule : Rule stellar call L (.insertUnblocked quote)) :
    ∃ sender, call = .prepare sender ∧ ∃ e ∈ L, ∃ tx, Prepares stellar sender e tx quote := by
  cases call with
  | prepare sender => exact ⟨sender, rfl, hrule⟩
  | submit body => exact hrule.2.elim

theorem inserted_of_new (hnone : s.quote k = none) (hq : (exec env o s).2.quote k = some q) :
    o = .insertUnblocked q ∧ q.quoteId = k := by
  have hchange := exec_change env s o k
  rw [hq] at hchange
  cases hchange with
  | kept hold => exact nomatch hold.symm.trans hnone
  | expired q' hq' | claimed q' txHash hq' | finalized q' txHash hq' | failed q' hq' =>
    exact nomatch hnone.symm.trans hq'
  | inserted quote hid => exact ⟨rfl, hid⟩

theorem quote_of_shown (hop : o = .get k ∨ ∃ txHash, o = .claimForSubmit k txHash)
    (hshown : shown ⟨env, s, o⟩ = some q) : (exec env o s).2.quote k = some q := by
  rcases hop with rfl | ⟨txHash, rfl⟩
  · exact hshown
  · change AList.lookup k (SwapQuotes.claimForSubmit s.quotes k txHash).2 = some q
    simp only [shown] at hshown
    unfold SwapQuotes.claimForSubmit at hshown ⊢
    split_ifs at hshown ⊢ with hempty
    cases hq : AList.lookup k s.quotes with
    | none =>
      simp [hq] at hshown
    | some q0 =>
      rw [hq] at hshown
      cases hstatus : q0.submissionStatus with
      | prepared =>
        simp only [hstatus] at hshown ⊢
        rw [AList.lookup_insert, hshown]
      | submitting =>
        simp only [hstatus] at hshown ⊢
        rw [hq, hshown]
      | submitted | failed =>
        simp only [hstatus] at hshown
        cases hshown

variable (hB : Binding stellar D s) (hL : ∀ e ∈ L, D call e) (hrule : Rule stellar call L o)
include hB hL hrule

theorem Binding.kept (hfresh : FreshId env s o) : Kept s (exec env o s).2 := by
  intro k q hq
  have hchange := exec_change env s o k
  generalize (exec env o s).2.quote k = new at hchange
  cases hchange with
  | kept hold => exact ⟨q, hold.symm.trans hq, .refl q⟩
  | expired q' hq' hstatus hstale | failed q' hq' hstatus =>
    obtain rfl : q' = q := mem_unique hq' hq
    exact ⟨_, rfl, rfl, rfl, rfl, fun _ h => h⟩
  | inserted quote hid hfree =>
    have hnone := hfresh quote rfl
    simp [hid, hq] at hnone
  | claimed q' txHash hq' hstatus =>
    obtain rfl : q' = q := mem_unique hq' hq
    refine ⟨_, rfl, rfl, rfl, rfl, fun h heq => ?_⟩
    simp [hB.unbound k q' hq hstatus] at heq
  | finalized q' txHash hq' hstatus =>
    obtain rfl : q' = q := mem_unique hq' hq
    have hbound := hB.finalize hL hrule hq
    exact ⟨_, rfl, rfl, rfl, rfl, fun h heq => hbound.symm.trans heq⟩

theorem bound_before (hq : (exec env o s).2.quote k = some q) (hhash : q.txHash = some txHash) :
    ClaimsWith k txHash (⟨env, s, o⟩ : SwapEvent Body) ∨
      ∃ q0, s.quote k = some q0 ∧ q0.txHash = some txHash := by
  have hchange := exec_change env s o k
  rw [hq] at hchange
  cases hchange with
  | kept hold => exact .inr ⟨q, hold, hhash⟩
  | expired q' hq' | failed q' hq' => exact .inr ⟨q', hq', hhash⟩
  | inserted quote hid =>
    obtain ⟨sender, -, e, -, tx, hprep⟩ := insert_rule hrule
    exact nomatch hprep.unbound.symm.trans hhash
  | claimed q' hash hq' hstatus =>
    cases hhash
    exact .inl ⟨rfl, q', hq', hstatus⟩
  | finalized q' hash hq' =>
    cases hhash
    exact .inr ⟨q', hq', hB.finalize hL hrule hq'⟩

omit hL in
theorem unbound_after (hq : (exec env o s).2.quote k = some q)
    (hstatus : q.submissionStatus = .prepared) : q.txHash = none := by
  have hchange := exec_change env s o k
  rw [hq] at hchange
  cases hchange with
  | kept hold => exact hB.unbound k q hold hstatus
  | inserted quote hid =>
    obtain ⟨sender, -, e, -, tx, hprep⟩ := insert_rule hrule
    exact hprep.unbound
  | expired q' hq' | claimed q' hash hq' | finalized q' hash hq' | failed q' hq' => cases hstatus

theorem Binding.step (hfresh : FreshId env s o) :
    Binding stellar (fun call' e => D call' e ∨ call' = call ∧ e = ⟨env, s, o⟩)
      (exec env o s).2 where
  shown := by
    intro call' e k q he hop hshown
    rcases he with he | ⟨rfl, rfl⟩
    · obtain ⟨q', hq', hgrown⟩ := hB.shown call' e k q he hop hshown
      obtain ⟨q'', hq'', hgrown'⟩ := hB.kept hL hrule hfresh k q' hq'
      exact ⟨q'', hq'', hgrown.trans hgrown'⟩
    · exact ⟨q, quote_of_shown hop hshown, .refl q⟩
  inserted := by
    intro k q hq
    cases hold : s.quote k with
    | none =>
      obtain ⟨rfl, hid⟩ := inserted_of_new hold hq
      obtain ⟨sender, rfl, e, he, tx, hprep⟩ := insert_rule hrule
      refine ⟨tx, q, ⟨hid, sender, e, ⟨env, s, .insertUnblocked q⟩, ?_, ?_, hprep, rfl⟩, .refl q⟩
      · exact .inl (hL e he)
      · exact .inr ⟨rfl, rfl⟩
    | some q1 =>
      obtain ⟨tx, q0, ⟨hid, sender, e, e', he, he', hrest⟩, hgrown⟩ := hB.inserted k q1 hold
      obtain ⟨q', hq', hgrown'⟩ := hB.kept hL hrule hfresh k q1 hold
      obtain rfl : q' = q := mem_unique hq' hq
      exact ⟨tx, q0, ⟨hid, sender, e, e', .inl he, .inl he', hrest⟩, hgrown.trans hgrown'⟩
  claimed := by
    intro k q txHash hq hhash
    rcases bound_before hB hL hrule hq hhash with hclaim | ⟨q0, hq0, hhash0⟩
    · exact ⟨call, _, .inr ⟨rfl, rfl⟩, hclaim⟩
    · obtain ⟨call', e, he, hclaim⟩ := hB.claimed k q0 txHash hq0 hhash0
      exact ⟨call', e, .inl he, hclaim⟩
  unbound k q hq hstatus := unbound_after hB hrule hq hstatus

end Step

/-! ### Envelopes -/

/-- What a request has checked of the envelopes it has handed to the network. -/
def Checked (stellar : Stellar Body) (call : SwapCall) (L : SwapTrace Body) : Prop :=
  ∀ e ∈ L, ∀ xdr, e.op = .submit xdr → ∃ body, call = .submit body ∧ xdr = trim body.signedXdr ∧
    ∃ q txHash, Bound (trim body.quoteId) q L ∧ q.txHash = some txHash ∧
      verifySubmitEnvelope stellar body q = .ok txHash

theorem checked_step {stellar : Stellar Body} {call : SwapCall} {L : SwapTrace Body}
    {env : SwapEnv Body} {s : SwapState} {o : SwapOp} (hL : Checked stellar call L)
    (hrule : Rule stellar call L o) : Checked stellar call (⟨env, s, o⟩ :: L) := by
  intro e he xdr hop
  rcases List.mem_cons.mp he with rfl | he
  · obtain rfl : o = .submit xdr := hop
    cases call with
    | prepare sender => exact hrule.elim
    | submit body =>
      obtain ⟨-, rfl, -, q, txHash, hq, hhash, hverify⟩ := hrule
      exact ⟨body, rfl, rfl, q, txHash, hq.cons _, hhash, hverify⟩
  · obtain ⟨body, hcall, hxdr, q, txHash, hq, hrest⟩ := hL e he xdr hop
    exact ⟨body, hcall, hxdr, q, txHash, hq.cons _, hrest⟩

theorem envelopes_bound (stellar : Stellar Body) (clock : ℤ)
    (choices : List (Choice (SwapEnv Body) SwapCall))
    (hok : Transition.StepsOk (step exec (start stellar)) (Allowed FreshId)
      ⟨⟨∅, clock⟩, []⟩ choices) :
    let p := run exec (start stellar) ⟨⟨∅, clock⟩, []⟩ choices
    (∀ call e xdr, p.DoneBy call e → e.op = .submit xdr →
      ∃ body q tx q0 txHash, call = .submit body ∧ p.state.quote (trim body.quoteId) = some q ∧
        InsertedAs stellar p.DoneBy (trim body.quoteId) tx q0 ∧
        SignedBy stellar q0.senderAccount q0.networkPassphrase tx txHash xdr ∧
        q.txHash = some txHash ∧
        ∃ call' e', p.DoneBy call' e' ∧ ClaimsWith (trim body.quoteId) txHash e') ∧
    ∀ rest, Transition.StepsOk (step exec (start stellar)) (Allowed FreshId) p rest →
      ∀ k q txHash, p.state.quote k = some q → q.txHash = some txHash →
        ∃ q', (run exec (start stellar) p rest).state.quote k = some q' ∧
          q'.txHash = some txHash := by
  intro p
  obtain ⟨hsound, hB⟩ := run_done (J := Binding stellar) (p := ⟨⟨∅, clock⟩, []⟩)
    (fun D call L env s o hB hL hrule hfresh => hB.step hL hrule hfresh) (start_holds stellar)
    (Pool.sound_nil _) (by rw [Pool.doneBy_nil]; exact binding_init stellar clock) hok
  constructor
  · intro call e xdr he hop
    have hchecked := run_traced (I := Checked stellar)
      (fun call L env s o hI hrule => checked_step hI hrule) (start_holds stellar)
      (fun _ _ h => nomatch h) ⟨∅, clock⟩ choices
    obtain ⟨th, hth, rfl, hmem⟩ := he
    obtain ⟨body, hcall, rfl, q1, txHash, ⟨e1, he1, hop1, hshown, -⟩, hhash, hverify⟩ :=
      hchecked th hth e hmem xdr hop
    obtain ⟨q, hq, hgrown⟩ := hB.shown th.call e1 _ q1 ⟨th, hth, rfl, he1⟩ hop1 hshown
    obtain ⟨tx, q0, hins, hgrown0⟩ := hB.inserted _ q hq
    have hbound : q.txHash = some txHash := hgrown.hash txHash hhash
    refine ⟨body, q, tx, q0, txHash, hcall, hq, hins, ?_, hbound, hB.claimed _ q txHash hq hbound⟩
    obtain ⟨-, sender, e₀, -, -, -, hprep, -⟩ := hins
    obtain ⟨xdr₀, hxdr₀, hxdrHash⟩ := hprep.xdr
    simp only [verifySubmitEnvelope, bind_eq_ok, require_eq_ok, mapError_eq_ok] at hverify
    obtain ⟨-, -, _, hcomputed, -, -, ⟨⟩⟩ := hverify
    have hsigned := validate_eq_ok hcomputed hxdr₀ (by rw [← hxdrHash, ← hgrown0.xdr, hgrown.xdr])
    rwa [trim_trim, ← hgrown.sender, ← hgrown.network, hgrown0.sender, hgrown0.network,
      hprep.sender, trim_trim, ← hprep.sender] at hsigned
  · intro rest hrest k q txHash hq hhash
    obtain ⟨-, -, hkept⟩ := run_done (J := fun D s => Binding stellar D s ∧ Kept p.state s)
      (fun D call L env s o hJ hL hrule hfresh => ⟨hJ.1.step hL hrule hfresh,
        hJ.2.trans (hJ.1.kept hL hrule hfresh)⟩) (start_holds stellar) hsound
      ⟨hB, .refl _⟩ hrest
    obtain ⟨q', hq', hgrown⟩ := hkept k q hq
    exact ⟨q', hq', hgrown.hash txHash hhash⟩

/-- A quote is prepared, claimed, broadcast and finalized. -/
def submittedRun : List (Choice (SwapEnv Unit) SwapCall) :=
  [.spawn (.prepare Sample.sender), .spawn (.submit (Sample.request "q1"))] ++
    List.replicate 6 (.step 0 (Sample.after 0 "q1")) ++
    List.replicate 5 (.step 1 (Sample.after 1 ""))

theorem submittedRun_fresh : Transition.StepsOk (step exec (start Sample.network)) (Allowed FreshId)
    ⟨⟨∅, 0⟩, []⟩ submittedRun := by
  apply stepsOk_of_check (fun env s o h => of_decide_eq_true h)
  decide +kernel

theorem envelopes_bound_submitted :
    ∃ body q tx q0 txHash, SwapCall.submit (Sample.request "q1") = .submit body ∧
      (Sample.pool submittedRun).state.quote (trim body.quoteId) = some q ∧
      InsertedAs Sample.network (Sample.pool submittedRun).DoneBy (trim body.quoteId) tx q0 ∧
      SignedBy Sample.network q0.senderAccount q0.networkPassphrase tx txHash "signedTx" ∧
      q.txHash = some txHash ∧
      ∃ call' e', (Sample.pool submittedRun).DoneBy call' e' ∧
        ClaimsWith (trim body.quoteId) txHash e' := by
  have hops : ((Sample.pool submittedRun).threads[1]?.map
      fun th => (th.call, th.trace.map (·.op) |>.drop 1 |>.head?)) =
      some (.submit (Sample.request "q1"), some (.submit "signedTx")) := by
    decide +kernel
  obtain ⟨th, hth, hop⟩ := map_eq_some_iff.mp hops
  obtain ⟨hcall, hhead⟩ := Prod.mk.inj hop
  have hmem : SwapOp.submit "signedTx" ∈ th.trace.map (·.op) :=
    List.mem_of_mem_drop (List.mem_of_mem_head? hhead)
  obtain ⟨e, he, hop⟩ := List.mem_map.mp hmem
  exact (envelopes_bound Sample.network 0 submittedRun submittedRun_fresh).1 _ e "signedTx"
    ⟨th, List.mem_of_getElem? hth, hcall, he⟩ hop

end StellarRoute.Swap
