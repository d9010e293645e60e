import StellarRoute.Lib.Transition
import StellarRoute.Quote.Proofs.CacheKeys
import StellarRoute.Quote.Spec.WorkerPool

/-! Which submitted jobs are skipped as duplicates. A key in memory stands for a
live row of the table, but the table also refuses a job for the sake of a row
that is done, and the key leaves the slippage out and does not delimit the
assets. -/

namespace StellarRoute.Quote

open Lib List

def JobRow.Live (row : JobRow) : Prop := row.status = .pending ∨ row.status = .processing

instance (row : JobRow) : Decidable row.Live := inferInstanceAs (Decidable (_ ∨ _))

namespace RouteComputationTaskPayload

/-- The same assets, amount, slippage and quote type. -/
structure SameRequest (p p' : RouteComputationTaskPayload) : Prop where
  baseAsset : p.baseAsset = p'.baseAsset
  quoteAsset : p.quoteAsset = p'.quoteAsset
  amount : p.amount = p'.amount
  slippageBps : p.slippageBps = p'.slippageBps
  quoteType : p.quoteType = p'.quoteType

end RouteComputationTaskPayload

namespace WorkerPool

variable {ops : TextOps} {config : WorkerPoolConfig} {pool pool' : WorkerPool} {sub : Submission}

def Submission.key (ops : TextOps) (sub : Submission) : String :=
  JobId.asHashKey ⟨sub.base, sub.quote, ops.formatF64 sub.payload.amount, sub.payload.quoteType⟩

/-! ### What a submission does -/

/-- The submission is refused, skipped or inserted. -/
inductive Submitted (ops : TextOps) (sub : Submission) (pool : WorkerPool) :
    Except WorkerError Unit → WorkerPool → Prop where
  | refused (e : WorkerError) (pool' : WorkerPool) (hrows : pool'.rows = pool.rows)
      (hdedup : ∀ key ∈ pool'.dedup, key ∈ pool.dedup) : Submitted ops sub pool (.error e) pool'
  | inFlight (pool' : WorkerPool) (hrows : pool'.rows = pool.rows)
      (hdedup : pool'.dedup = pool.dedup) (hkey : sub.key ops ∈ pool.dedup) :
      Submitted ops sub pool (.ok ()) pool'
  | inTable (pool' : WorkerPool) (hrows : pool'.rows = pool.rows)
      (hdedup : pool'.dedup = pool.dedup.insert (sub.key ops) sub.clock)
      (hkey : ∃ row ∈ pool.rows, row.jobKey = sub.key ops) : Submitted ops sub pool (.ok ()) pool'
  | inserted (pool' : WorkerPool) (row : JobRow) (hrows : pool'.rows = pool.rows ++ [row])
      (hdedup : pool'.dedup = pool.dedup.insert (sub.key ops) sub.clock)
      (hkey : row.jobKey = sub.key ops) (hstatus : row.status = .pending) :
      Submitted ops sub pool (.ok ()) pool'

variable {job : RouteComputationJob} {st : Statement}

theorem settled (hid : job.id.asHashKey = sub.key ops) (hrows : pool'.rows = pool.rows)
    (hdedup : pool'.dedup = pool.dedup.insert (sub.key ops) sub.clock) :
    Submitted ops sub pool (settleEnqueue job.id (enqueue sub.insert job pool')).1
      (settleEnqueue job.id (enqueue sub.insert job pool')).2 := by
  unfold enqueue
  cases sub.insert.fails with
  | some e =>
    refine .refused _ _ hrows fun key hkey => ?_
    simp only [settleEnqueue, removeKey, AList.mem_erase, hdedup, AList.mem_insert, hid] at hkey
    exact hkey.2.resolve_left hkey.1
  | none =>
    simp only
    split_ifs with hany
    · refine .inTable _ hrows hdedup ?_
      obtain ⟨row, hrow, hkey⟩ := any_eq_true.mp hany
      exact ⟨row, hrows ▸ hrow, (of_decide_eq_true hkey).trans hid⟩
    · exact .inserted _ _ (congrArg (· ++ [_]) hrows) hdedup hid rfl

theorem submitted (ops : TextOps) (config : WorkerPoolConfig) (sub : Submission)
    (pool : WorkerPool) : Submitted ops sub pool (submitJobWithOptions ops config sub pool).1
      (submitJobWithOptions ops config sub pool).2 := by
  unfold submitJobWithOptions
  cases sub.stats.fails with
  | some e => exact .refused _ _ rfl fun _ h => h
  | none =>
    simp only
    cases config.backpressure.shouldAccept pool.pendingCount pool.processingCount with
    | error e => exact .refused _ _ rfl fun _ h => h
    | ok _ =>
      have hid : ∀ virtualTime, (jobFor ops config sub virtualTime).id.asHashKey = sub.key ops :=
        fun _ => rfl
      simp only [tryAdd, hid]
      by_cases hkey : sub.key ops ∈ pool.dedup
      · rw [if_pos hkey]
        exact .inFlight _ rfl rfl hkey
      · rw [if_neg hkey]
        exact settled (hid _) rfl rfl

/-! ### What the keys in memory stand for -/

/-- Every key in flight is the key of a live row. -/
def Backed (pool : WorkerPool) : Prop :=
  ∀ key ∈ pool.dedup, ∃ row ∈ pool.rows, row.jobKey = key ∧ row.Live

/-- The table holds no row under the key of the submission, or a live one for the same request. -/
def Unspent (ops : TextOps) (pool : WorkerPool) (sub : Submission) : Prop :=
  ∀ row ∈ pool.rows, row.jobKey = sub.key ops → row.Live ∧ row.payload.SameRequest sub.payload

/-- As a condition on operations. -/
def Op.Unspent (ops : TextOps) (pool : WorkerPool) : Op → Prop
  | .submit sub => WorkerPool.Unspent ops pool sub
  | _ => True

section

variable (h : Backed pool)
include h

theorem Backed.submit (hsub : Unspent ops pool sub) :
    Backed (submitJobWithOptions ops config sub pool).2 := by
  generalize hresult : (submitJobWithOptions ops config sub pool).1 = result
  generalize hpool' : (submitJobWithOptions ops config sub pool).2 = pool'
  have hcases := submitted ops config sub pool
  rw [hresult, hpool'] at hcases
  intro key hkey
  cases hcases with
  | refused e _ hrows hdedup =>
    rw [hrows]
    exact h key (hdedup key hkey)
  | inFlight _ hrows hdedup _ =>
    rw [hdedup] at hkey
    rw [hrows]
    exact h key hkey
  | inTable _ hrows hdedup hfound =>
    rw [hdedup, AList.mem_insert] at hkey
    rw [hrows]
    rcases hkey with rfl | hkey
    · obtain ⟨row, hrow, hkey⟩ := hfound
      exact ⟨row, hrow, hkey, (hsub row hrow hkey).1⟩
    · exact h key hkey
  | inserted _ row hrows hdedup hrow hstatus =>
    rw [hdedup, AList.mem_insert] at hkey
    rw [hrows]
    rcases hkey with rfl | hkey
    · exact ⟨row, mem_append_right _ (mem_singleton_self row), hrow, .inl hstatus⟩
    · obtain ⟨row', hrow', hlive⟩ := h key hkey
      exact ⟨row', mem_append_left _ hrow', hlive⟩

theorem Backed.dequeue {tie : ℕ} : Backed (dequeue ops st tie pool).2 := by
  unfold WorkerPool.dequeue
  split
  · exact h
  · exact h
  · next row _ _ =>
    intro key hkey
    obtain ⟨row', hrow', hkey', hlive⟩ := h key hkey
    refine ⟨_, mem_map_of_mem hrow', ?_⟩
    split_ifs
    · exact ⟨hkey', .inr rfl⟩
    · exact ⟨hkey', hlive⟩

theorem Backed.updateKey (id : JobId) (f : JobRow → JobRow) :
    Backed ((pool.updateKey id.asHashKey f).removeKey id) := by
  intro key hkey
  obtain ⟨hne, hkey⟩ := AList.mem_erase.mp hkey
  obtain ⟨row, hrow, hrowKey, hlive⟩ := h key hkey
  refine ⟨_, mem_map_of_mem hrow, ?_⟩
  rw [if_neg (by rw [hrowKey]; exact hne)]
  exact ⟨hrowKey, hlive⟩

theorem Backed.markSuccess : Backed (markSuccess st job pool).2 := by
  unfold WorkerPool.markSuccess markCompleted
  cases st.fails with
  | some e => exact h
  | none => exact h.updateKey job.id _

theorem Backed.markFailure {error : String} : Backed (markFailure config st job error pool).2 := by
  unfold WorkerPool.markFailure requeue markFailed
  split_ifs
  all_goals
    cases st.fails with
    | some e => exact h
    | none => exact h.updateKey job.id _

theorem Backed.cleanup {clock : ℕ} : Backed (pool.cleanup config clock) := by
  intro key hkey
  exact h key ((HashMap.mem_deleteKeys _ _ _).mp hkey).1

theorem Backed.applyRetentionPolicies {now : ℤ} : Backed (pool.applyRetentionPolicies now) := by
  intro key hkey
  obtain ⟨row, hrow, hrowKey, hlive⟩ := h key hkey
  refine ⟨row, mem_filter.mpr ⟨hrow, ?_⟩, hrowKey, hlive⟩
  rcases hlive with hlive | hlive <;> simp [hlive]

end

theorem Backed.step {op : Op} (h : Backed pool) (hop : op.Unspent ops pool) :
    Backed (step ops config pool op) := by
  cases op with
  | submit sub => exact h.submit hop
  | dequeue st tie => exact h.dequeue
  | success st job => exact h.markSuccess
  | failure st job error => exact h.markFailure
  | cleanup clock => exact h.cleanup
  | applyRetentionPolicies now => exact h.applyRetentionPolicies

/-- The submission is answered with success, and nothing is inserted. -/
def Skips (ops : TextOps) (config : WorkerPoolConfig) (pool : WorkerPool) (sub : Submission) :
    Prop :=
  (submitJobWithOptions ops config sub pool).1 = .ok () ∧
    (submitJobWithOptions ops config sub pool).2.rows = pool.rows

theorem row_of_skips (h : Backed pool) (hskips : Skips ops config pool sub) :
    ∃ row ∈ pool.rows, row.jobKey = sub.key ops := by
  obtain ⟨hok, hsame⟩ := hskips
  have hcases := submitted ops config sub pool
  rw [hok] at hcases
  cases hcases with
  | inFlight _ _ _ hkey =>
    obtain ⟨row, hrow, hrowKey, -⟩ := h _ hkey
    exact ⟨row, hrow, hrowKey⟩
  | inTable _ _ _ hfound => exact hfound
  | inserted _ row hrows _ _ _ =>
    rw [hsame] at hrows
    simp at hrows

/-- From a start with nothing in flight, as long as every submission finds its key unspent: one that
is skipped has its like pending or being processed. -/
theorem skips_only_if_live (ops : TextOps) (config : WorkerPoolConfig) (pool₀ : WorkerPool)
    (hstart : pool₀.dedup = ∅) (before : List Op) (sub : Submission)
    (hok : Transition.StepsOk (step ops config) (Op.Unspent ops) pool₀ (before ++ [.submit sub]))
    (hskips : Skips ops config (Transition.run (step ops config) pool₀ before) sub) :
    ∃ row ∈ (Transition.run (step ops config) pool₀ before).rows,
      row.Live ∧ row.payload.SameRequest sub.payload := by
  obtain ⟨hbefore, hsub, -⟩ := Transition.stepsOk_append.mp hok
  have hbacked : Backed (Transition.run (step ops config) pool₀ before) := by
    apply Transition.run_inv_of_ok (fun pool op h hop => h.step hop) _ hbefore
    intro key hkey
    rw [hstart] at hkey
    simp at hkey
  obtain ⟨row, hrow, hkey⟩ := row_of_skips hbacked hskips
  exact ⟨row, hrow, hsub row hrow hkey⟩

def defaults : WorkerPoolConfig where
  backpressure := ⟨10000, 80⟩
  maxRetries := 3
  retryableErrors := .transientOnly
  dedupTtlSecs := 300
  -- 100 000 and 1 000
  priority := ⟨⟨0x40F86A0000000000⟩, ⟨0x408F400000000000⟩, 1, 2, 4, 8⟩

def empty : WorkerPool := ⟨[], 0, ∅, ⟨0, fun _ => 0⟩⟩

def routeFor (base quote : String) (slippageBps : UInt32) : Submission :=
  ⟨base, quote, ⟨base, quote, 0, 1, ⟨0x3FF0000000000000⟩, slippageBps, "sell"⟩, false, 0, 0,
    ⟨0, none⟩, ⟨0, none⟩⟩

def nativeRoute : Submission := routeFor "native" "USDC:GISSUER" 50

theorem skips_only_if_live_pending :
    ∃ row ∈ (Transition.run (step plainText defaults) empty [.submit nativeRoute]).rows,
      row.Live ∧ row.payload.SameRequest nativeRoute.payload := by
  apply skips_only_if_live plainText defaults empty rfl [.submit nativeRoute] nativeRoute
  · refine ⟨fun row hrow => (by cases hrow), fun row hrow _ => ?_, trivial⟩
    obtain rfl := mem_singleton.mp hrow
    exact ⟨.inl rfl, rfl, rfl, rfl, rfl, rfl⟩
  · exact ⟨by decide, by decide⟩

def nativeJob : RouteComputationJob :=
  jobFor plainText defaults nativeRoute 4

/-- The route is computed to the end. -/
def computed : List Op :=
  [.submit nativeRoute, .dequeue ⟨1, none⟩ 0, .success ⟨2, none⟩ nativeJob]

/-- A route that was computed is not computed again: the job is skipped though nothing is pending or
being processed. So is one with another slippage, or for other assets with the same joined names. -/
theorem skips_done :
    (dequeue plainText ⟨1, none⟩ 0 (Transition.run (step plainText defaults) empty
      [.submit nativeRoute])).1 = .ok (some nativeJob) ∧
    Skips plainText defaults (Transition.run (step plainText defaults) empty computed)
      nativeRoute ∧
    (∀ row ∈ (Transition.run (step plainText defaults) empty computed).rows, ¬ row.Live) ∧
    Skips plainText defaults (Transition.run (step plainText defaults) empty
      [.submit nativeRoute]) (routeFor "native" "USDC:GISSUER" 100) ∧
    Skips plainText defaults (Transition.run (step plainText defaults) empty
      [.submit (routeFor "USDC:GISSUER" "EURC" 50)]) (routeFor "USDC" "GISSUER:EURC" 50) := by
  refine ⟨?_, ⟨?_, ?_⟩, ?_, ⟨?_, ?_⟩, ⟨?_, ?_⟩⟩ <;> decide

end WorkerPool

end StellarRoute.Quote
