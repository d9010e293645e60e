import StellarRoute.Cctp.Sanity.Programs

/-! The unique indexes of the transfers. No two records share a source, a
destination or an approval transaction or a message nonce of one chain, in any
run; and a write that leaves these columns as they are meets no index. -/

namespace StellarRoute.Cctp

open Lib Lib.Interleave

section Column

variable {κ : Type} [DecidableEq κ] {column : CctpTransfer → Option κ} {s : State}
  {t t' : CctpTransfer}

def State.Distinct (column : CctpTransfer → Option κ) (s : State) : Prop :=
  ∀ t ∈ s.transfers, ∀ t' ∈ s.transfers, ∀ k, column t = some k → column t' = some k →
    t.transferId = t'.transferId

theorem State.taken_eq_false : s.taken column t = false ↔
    ∀ t' ∈ s.transfers, ∀ k, column t = some k → column t' = some k →
      t'.transferId = t.transferId := by
  cases hcolumn : column t with
  | none => simp [State.taken, hcolumn]
  | some k =>
    simp only [State.taken, hcolumn, Option.isSome_some, Bool.true_and, List.any_eq_false,
      Bool.and_eq_true, decide_eq_true_eq, not_and, Option.some.injEq, forall_eq']
    constructor
    · intro h t' ht' hk
      by_contra hid
      exact h t' ht' (by simpa using hid) hk
    · intro h t' ht' hid hk
      exact absurd (h t' ht' hk) (by simpa using hid)

theorem State.Distinct.put (h : s.Distinct column) (hfree : s.taken column t = false) :
    (s.put t).Distinct column := by
  rw [State.taken_eq_false] at hfree
  intro u hu u' hu' k hk hk'
  rcases Table.mem_set hu with rfl | ⟨hold, -⟩ <;> rcases Table.mem_set hu' with rfl | ⟨hold', -⟩
  · rfl
  · exact (hfree u' hold' k hk hk').symm
  · exact hfree u hold k hk' hk
  · exact h u hold u' hold' k hk hk'

omit [DecidableEq κ] in
theorem State.Distinct.append (h : s.Distinct column) (hnone : column t = none) :
    State.Distinct column { s with transfers := s.transfers ++ [t] } := by
  intro u hu u' hu' k hk hk'
  have hnew : ∀ u ∈ [t], column u ≠ some k := by
    intro u hu
    rw [List.mem_singleton.mp hu, hnone]
    exact (Option.some_ne_none k).symm
  rcases List.mem_append.mp hu with hu | hu
  · rcases List.mem_append.mp hu' with hu' | hu'
    · exact h u hu u' hu' k hk hk'
    · exact absurd hk' (hnew u' hu')
  · exact absurd hk (hnew u hu)

theorem State.Distinct.not_taken (h : s.Distinct column) (ht : t ∈ s.transfers)
    (hid : t'.transferId = t.transferId) (hcolumn : column t' = column t) :
    s.taken column t' = false := by
  rw [State.taken_eq_false]
  intro u hu k hk hk'
  rw [hid]
  exact h u hu t ht k hk' (hcolumn ▸ hk)

theorem State.not_taken_of_fresh {k : κ} (hcolumn : column t = some k)
    (hfresh : ∀ t' ∈ s.transfers, column t' ≠ some k) : s.taken column t = false := by
  rw [State.taken_eq_false]
  intro u hu k' hk hk'
  rw [hcolumn, Option.some.injEq] at hk
  exact absurd (hk ▸ hk') (hfresh u hu)

end Column

/-- The four indexes of the migrations. -/
structure State.Indexed (s : State) : Prop where
  source : s.Distinct CctpTransfer.sourceTxHash
  nonce : s.Distinct nonceKey
  destination : s.Distinct CctpTransfer.destinationTxHash
  approval : s.Distinct CctpTransfer.sourceApprovalTxHash

section Indexed

variable {s : State} {t t' : CctpTransfer} {id : Uuid}

theorem checkUnique_eq_ok {u : Unit} : checkUnique s t = .ok u ↔
    s.taken CctpTransfer.sourceTxHash t = false ∧ s.taken nonceKey t = false ∧
      s.taken CctpTransfer.destinationTxHash t = false ∧
      s.taken CctpTransfer.sourceApprovalTxHash t = false := by
  simp [checkUnique, bind_eq_ok, require_eq_ok]

theorem State.Indexed.put (h : s.Indexed) (hunique : checkUnique s t = .ok ()) :
    (s.put t).Indexed := by
  obtain ⟨hsource, hnonce, hdestination, happroval⟩ := checkUnique_eq_ok.mp hunique
  exact ⟨h.source.put hsource, h.nonce.put hnonce, h.destination.put hdestination,
    h.approval.put happroval⟩

/-- The rows after one was rewritten: the column has the new value there. -/
theorem State.rows_of_put {κ : Type} {column : CctpTransfer → κ} {k : κ} {s s' : State}
    {t' : CctpTransfer} (htransfers : s'.transfers = (s.put t').transfers) (hcolumn : column t' = k) :
    ∀ u ∈ s'.transfers, column u = k ∨ u ∈ s.transfers := by
  intro u hu
  rw [htransfers] at hu
  rcases Table.mem_set hu with rfl | ⟨hu, -⟩
  · exact .inl hcolumn
  · exact .inr hu

theorem State.mem_of_transfer (h : s.transfer id = some t) : t ∈ s.transfers :=
  Table.mem_of_find h

theorem State.Indexed.unique (h : s.Indexed) (ht : s.transfer id = some t)
    (hid : t'.transferId = t.transferId) (hchain : t'.sourceChainId = t.sourceChainId)
    (hsource : t'.sourceTxHash = t.sourceTxHash) (hnonce : t'.messageNonce = t.messageNonce)
    (hdestination : t'.destinationTxHash = t.destinationTxHash)
    (happroval : t'.sourceApprovalTxHash = t.sourceApprovalTxHash) :
    checkUnique s t' = .ok () := by
  have hmem := State.mem_of_transfer ht
  have hkey : nonceKey t' = nonceKey t := by
    unfold nonceKey
    rw [hnonce, hchain]
  exact checkUnique_eq_ok.mpr ⟨h.source.not_taken hmem hid hsource, h.nonce.not_taken hmem hid hkey,
    h.destination.not_taken hmem hid hdestination, h.approval.not_taken hmem hid happroval⟩

theorem StoreOp.Rewrites.unique {o : StoreOp} {now : Time} (hrw : o.Rewrites now s t t')
    (h : s.Indexed) (ht : s.transfer o.target = some t) : checkUnique s t' = .ok () := by
  cases o with
  | insert t | get id => exact hrw.elim
  | tryAcquirePollLease id leaseSecs minIntervalSecs
  | claimReattestLease id owner leaseSecs maxAttempts =>
    rw [hrw]
    exact h.unique ht rfl rfl rfl rfl rfl rfl
  | finalizeReattestSuccess id owner | finalizeReattestFailure id owner code error cooldown =>
    rw [hrw.2]
    exact h.unique ht rfl rfl rfl rfl rfl rfl
  | recordApprovalSubmission id version txHash verifiedAt | recordVerifiedBurn id version txHash =>
    exact hrw.2.2.1
  | transition id version status patch | recordMintPrepared id version hash expiresAt submitter
  | recordMintSubmission id version txHash | recordMintCompleted id version =>
    exact Moves.unique hrw

theorem State.Indexed.of_transfers {s' : State} (h : s.Indexed)
    (heq : s'.transfers = s.transfers) : s'.Indexed := by
  obtain ⟨hsource, hnonce, hdestination, happroval⟩ := h
  unfold State.Distinct at hsource hnonce hdestination happroval
  constructor <;> unfold State.Distinct <;> rw [heq] <;> assumption

theorem State.Indexed.exec (h : s.Indexed) (c : Codec) (env : Env) (o : Op) :
    (Cctp.exec c env o s).2.Indexed := by
  rcases exec_transfers c env o s with heq | ⟨t, -, -, heq⟩ | ⟨so, t, t', -, ht, hrw, heq⟩
  · exact h.of_transfers heq
  · refine State.Indexed.of_transfers (s := { s with transfers := s.transfers ++
      [insertedRow env.now t] }) ?_ heq
    exact ⟨h.source.append rfl, h.nonce.append rfl, h.destination.append rfl,
      h.approval.append rfl⟩
  · exact (h.put (hrw.unique h ht)).of_transfers heq

theorem State.indexed_empty : State.empty.Indexed := by
  constructor <;> exact fun t ht => absurd ht List.not_mem_nil

theorem serve_indexed (c : Codec) (cfg : CctpConfig) (choices : List (Choice Env Call)) :
    (serve c cfg choices).state.Indexed := by
  apply serve_inv (J := fun _ s => s.Indexed) _ _ (servedUnder_true c cfg choices)
  · exact fun _ _ _ env s o h _ _ _ => h.exec c env o
  · exact State.indexed_empty

end Indexed

end StellarRoute.Cctp
