import Mathlib.Data.Prod.Lex
import StellarRoute.Quote.Proofs.WorkerPool

/-! In which order jobs of different bands are served. Every submission moves
the one virtual clock up to its own virtual time, and the next one starts from
there: a job comes after all that were submitted before it, whatever its band,
until the clock comes to its end and the times wrap. -/

namespace StellarRoute.Quote

open Lib List

/-- `ORDER BY virtual_time ASC, created_at ASC`. -/
def JobRow.rank (row : JobRow) : ℤ ×ₗ ℤ := toLex (row.virtualTime.toInt, row.createdAt)

namespace WorkerPool

variable {ops : TextOps} {config : WorkerPoolConfig} {pool pool' : WorkerPool} {sub : Submission}
  {a b : JobRow}

def pending (pool : WorkerPool) : List JobRow := pool.rows.filter fun row => row.status = .pending

/-- The jobs of a band that wait. -/
def waiting (pool : WorkerPool) (band : RequestPriority) : List JobRow :=
  pool.rows.filter fun row => row.status = .pending ∧ row.priority = band

/-- The queue after a run from an empty one. -/
def after (ops : TextOps) (config : WorkerPoolConfig) (before : List Op) : WorkerPool :=
  Transition.run (step ops config) empty before

/-- The queue after some dequeues. -/
def drained (ops : TextOps) (pool : WorkerPool) (dequeues : List (Statement × ℕ)) : WorkerPool :=
  dequeues.foldl (fun pool d => (dequeue ops d.1 d.2 pool).2) pool

/-- Whatever dequeues come next, the second job waits as long as the first one does. -/
def ServedBefore (ops : TextOps) (pool : WorkerPool) (a b : JobRow) : Prop :=
  ∀ dequeues, a ∈ (drained ops pool dequeues).pending → b ∈ (drained ops pool dequeues).pending

/-! ### Dequeues -/

section Dequeue

abbrev UniqueIds (pool : WorkerPool) : Prop := (pool.rows.map (·.id)).Nodup

theorem mem_firstPending : a ∈ pool.firstPending ↔
    a ∈ pool.pending ∧ ∀ row ∈ pool.pending, a.rank ≤ row.rank := by
  refine mem_filter.trans (and_congr Iff.rfl ?_)
  simp only [all_eq_true, decide_eq_true_eq, JobRow.rank, Prod.Lex.toLex_le_toLex, SInt.lt_def,
    SInt.ext_iff]
  rfl

theorem exists_firstPending (h : a ∈ pool.pending) : ∃ row, row ∈ pool.firstPending := by
  obtain ⟨row, hrow, hle⟩ := pool.pending.toFinset.exists_min_image JobRow.rank ⟨a, by simpa using h⟩
  simp only [mem_toFinset] at hrow hle
  exact ⟨row, mem_firstPending.mpr ⟨hrow, hle⟩⟩

theorem UniqueIds.eq (hids : pool.UniqueIds) (ha : a ∈ pool.pending) (hb : b ∈ pool.pending)
    (h : a.id = b.id) : a = b :=
  inj_on_of_nodup_map hids (mem_of_mem_filter ha) (mem_of_mem_filter hb) h

/-- A dequeue takes this row. -/
structure Takes (pool : WorkerPool) (row : JobRow) (pool' : WorkerPool) : Prop where
  pending : pool'.pending = pool.pending.filter (·.id ≠ row.id)
  ids : pool'.rows.map (·.id) = pool.rows.map (·.id)

theorem takes_mark (row : JobRow) (now : ℤ) :
    pool.Takes row { pool with rows := pool.rows.map fun row' =>
      if row'.id = row.id then { row' with status := .processing, updatedAt := now } else row' } := by
  constructor
  · unfold WorkerPool.pending
    induction pool.rows with
    | nil => rfl
    | cons r rows ih =>
      simp only [map_cons, filter_cons, ih]
      by_cases h : r.id = row.id <;> split_ifs <;> simp_all
  · simp [Function.comp_def, apply_ite JobRow.id]

theorem dequeue_cases (ops : TextOps) (st : Statement) (tie : ℕ) (pool : WorkerPool) :
    (dequeue ops st tie pool).2 = pool ∨
      ∃ row ∈ pool.firstPending, pool.Takes row (dequeue ops st tie pool).2 := by
  unfold dequeue
  split
  · exact .inl rfl
  · exact .inl rfl
  · next row _ hrow => exact .inr ⟨row, mem_of_getElem? hrow, takes_mark row st.now⟩

theorem exists_dequeue (ops : TextOps) (h : a ∈ pool.firstPending) :
    ∃ tie, pool.Takes a (dequeue ops ⟨0, none⟩ tie pool).2 := by
  obtain ⟨i, hi, hget⟩ := getElem_of_mem h
  refine ⟨i, ?_⟩
  have hrow : pool.firstPending[i % pool.firstPending.length]? = some a := by
    rw [Nat.mod_eq_of_lt hi, getElem?_eq_getElem hi, hget]
  rw [dequeue, hrow]
  exact takes_mark a 0

theorem pending_drained (dequeues : List (Statement × ℕ))
    (h : a ∈ (drained ops pool dequeues).pending) : a ∈ pool.pending := by
  induction dequeues generalizing pool with
  | nil => exact h
  | cons d dequeues ih =>
    have hnext : a ∈ (dequeue ops d.1 d.2 pool).2.pending := ih h
    rcases dequeue_cases ops d.1 d.2 pool with hsame | ⟨row, -, htakes⟩
    · rwa [hsame] at hnext
    · rw [htakes.pending] at hnext
      exact mem_of_mem_filter hnext

theorem servedBefore_of_lt (hids : pool.UniqueIds) (hb : b ∈ pool.pending)
    (hlt : a.rank < b.rank) : ServedBefore ops pool a b := by
  intro dequeues
  induction dequeues generalizing pool with
  | nil => exact fun _ => hb
  | cons d dequeues ih =>
    intro ha
    have hnext : a ∈ (dequeue ops d.1 d.2 pool).2.pending := pending_drained dequeues ha
    rcases dequeue_cases ops d.1 d.2 pool with hsame | ⟨row, hrow, htakes⟩
    · rw [← hsame] at hids hb
      exact ih hids hb ha
    · refine ih (by rwa [UniqueIds, htakes.ids]) ?_ ha
      rw [htakes.pending] at hnext ⊢
      refine mem_filter.mpr ⟨hb, decide_eq_true fun hid => ?_⟩
      -- `b` does not come first while `a` waits
      rw [mem_firstPending] at hrow
      obtain rfl := hids.eq hb hrow.1 hid
      exact absurd hlt (not_lt.mpr (hrow.2 a (mem_of_mem_filter hnext)))

/-- The induction is on how many jobs wait: as long as the second one does not come first, some
other job does, and that is not the first one. -/
theorem lt_of_servedBefore (n : ℕ) : ∀ pool : WorkerPool, pool.pending.length = n → pool.UniqueIds →
    a ∈ pool.pending → b ∈ pool.pending → a ≠ b → ServedBefore ops pool a b →
    a.rank < b.rank := by
  induction n using Nat.strong_induction_on with
  | h n ih =>
    intro pool hlen hids ha hb hne hserved
    by_contra hnot
    have htaken : ∀ row ∈ pool.firstPending, row ≠ a → ∃ tie,
        pool.Takes row (dequeue ops ⟨0, none⟩ tie pool).2 ∧
          a ∈ (dequeue ops ⟨0, none⟩ tie pool).2.pending := by
      intro row hrow hother
      obtain ⟨tie, htakes⟩ := exists_dequeue ops hrow
      refine ⟨tie, htakes, ?_⟩
      rw [htakes.pending]
      refine mem_filter.mpr ⟨ha, decide_eq_true fun hid => hother ?_⟩
      exact (hids.eq ha (mem_firstPending.mp hrow).1 hid).symm
    by_cases hfirst : b ∈ pool.firstPending
    · obtain ⟨tie, htakes, ha'⟩ := htaken b hfirst hne.symm
      have hb' := hserved [(⟨0, none⟩, tie)] ha'
      change b ∈ (dequeue ops ⟨0, none⟩ tie pool).2.pending at hb'
      simp [htakes.pending] at hb'
    · obtain ⟨row, hrow⟩ := exists_firstPending ha
      have hother : row ≠ a := by
        rintro rfl
        obtain ⟨-, hle⟩ := mem_firstPending.mp hrow
        exact hfirst (mem_firstPending.mpr ⟨hb, fun r hr => (not_lt.mp hnot).trans (hle r hr)⟩)
      obtain ⟨tie, htakes, ha'⟩ := htaken row hrow hother
      have hshorter : (dequeue ops ⟨0, none⟩ tie pool).2.pending.length < n := by
        rw [htakes.pending, ← hlen]
        exact length_filter_lt_length_iff_exists.mpr
          ⟨row, (mem_firstPending.mp hrow).1, by simp⟩
      exact hnot (ih _ hshorter _ rfl (by rwa [UniqueIds, htakes.ids]) ha'
        (hserved [(⟨0, none⟩, tie)] ha') hne fun dequeues => hserved ((⟨0, none⟩, tie) :: dequeues))

theorem servedBefore_iff (hids : pool.UniqueIds) (ha : a ∈ pool.pending) (hb : b ∈ pool.pending)
    (hne : a ≠ b) : ServedBefore ops pool a b ↔ a.rank < b.rank :=
  ⟨lt_of_servedBefore _ pool rfl hids ha hb hne, servedBefore_of_lt hids hb⟩

end Dequeue

/-! ### Submissions -/

/-- No row and no band is ahead of the clock, and the rows are numbered. -/
structure Timely (pool : WorkerPool) : Prop where
  rows : ∀ row ∈ pool.rows, row.virtualTime.toInt ≤ pool.classifier.virtualClock.toInt
  finish : ∀ band, (pool.classifier.finish band).toInt ≤ pool.classifier.virtualClock.toInt
  nonneg : 0 ≤ pool.classifier.virtualClock.toInt
  below : ∀ row ∈ pool.rows, row.id < pool.nextId
  ids : pool.UniqueIds

/-- A submission leaves all as it is, or advances the clock for its band, and then it may add a row
with the new time. -/
theorem submit_cases (hpool' : (submitJobWithOptions ops config sub pool).2 = pool') :
    pool'.classifier = pool.classifier ∧ pool'.rows = pool.rows ∧ pool'.nextId = pool.nextId ∨
    ∃ band, band = PriorityClassifier.classify config.priority sub.payload.amount sub.isBatch ∧
      pool'.classifier = (pool.classifier.nextVirtualTime config.priority band).2 ∧
      (pool'.rows = pool.rows ∧ pool'.nextId = pool.nextId ∨
        ∃ new, pool'.rows = pool.rows ++ [new] ∧ pool'.nextId = pool.nextId + 1 ∧
          new.id = pool.nextId ∧ new.status = .pending ∧ new.createdAt = sub.now ∧
          new.virtualTime = (pool.classifier.nextVirtualTime config.priority band).1) := by
  subst hpool'
  unfold submitJobWithOptions tryAdd enqueue
  split
  · exact .inl ⟨rfl, rfl, rfl⟩
  · split
    · exact .inl ⟨rfl, rfl, rfl⟩
    · refine .inr ⟨_, rfl, ?_⟩
      dsimp only
      split_ifs <;> dsimp only
      · exact ⟨rfl, .inl ⟨rfl, rfl⟩⟩
      · split
        · exact ⟨rfl, .inl ⟨rfl, rfl⟩⟩
        · split_ifs
          · exact ⟨rfl, .inl ⟨rfl, rfl⟩⟩
          · exact ⟨rfl, .inr ⟨_, rfl, rfl, rfl, rfl, rfl, rfl⟩⟩

theorem nextVirtualTime_ahead (c : PriorityClassifier) (config : PriorityConfig)
    (band : RequestPriority) :
    (c.nextVirtualTime config band).1.toInt ≤
        (c.nextVirtualTime config band).2.virtualClock.toInt ∧
      c.virtualClock.toInt ≤ (c.nextVirtualTime config band).2.virtualClock.toInt := by
  simp [PriorityClassifier.nextVirtualTime]

theorem Timely.submit (h : Timely pool) : Timely (submitJobWithOptions ops config sub pool).2 := by
  generalize hpool' : (submitJobWithOptions ops config sub pool).2 = pool'
  rcases submit_cases hpool' with ⟨hclassifier, hrows, hnext⟩ | ⟨band, -, hclassifier, hrows⟩
  · obtain ⟨hlate, hfinish, hnonneg, hbelow, hids⟩ := h
    constructor <;> simp only [hclassifier, hrows, hnext, UniqueIds] <;> assumption
  · obtain ⟨htime, hclock⟩ := nextVirtualTime_ahead pool.classifier config.priority band
    rw [← hclassifier] at htime hclock
    have hfinish : ∀ other, (pool'.classifier.finish other).toInt ≤
        pool'.classifier.virtualClock.toInt := by
      intro other
      have hbefore := h.finish other
      rw [hclassifier] at htime hclock ⊢
      simp only [PriorityClassifier.nextVirtualTime] at htime hclock ⊢
      split_ifs <;> simp only [SInt.toInt_max] at htime hclock ⊢ <;> omega
    have hold : ∀ row ∈ pool.rows, row.virtualTime.toInt ≤ pool'.classifier.virtualClock.toInt :=
      fun row hrow => (h.rows row hrow).trans hclock
    rcases hrows with ⟨hrows, hnext⟩ | ⟨new, hrows, hnext, hid, -, -, hvt⟩
    · exact ⟨by rwa [hrows], hfinish, h.nonneg.trans hclock, by rw [hrows, hnext]; exact h.below,
        by rw [UniqueIds, hrows]; exact h.ids⟩
    · rw [← hvt] at htime
      refine ⟨?_, hfinish, h.nonneg.trans hclock, ?_, ?_⟩
      · simpa [hrows, or_imp, forall_and] using ⟨hold, htime⟩
      · simpa [hrows, hnext, hid, or_imp, forall_and] using
          fun row hrow => (h.below row hrow).trans (Nat.lt_succ_self _)
      · simpa [UniqueIds, hrows, nodup_append, hid] using
          ⟨h.ids, fun row hrow => (h.below row hrow).ne⟩

/-- What stays of a row. -/
def stamps (pool : WorkerPool) : List (ℕ × I64) := pool.rows.map fun row => (row.id, row.virtualTime)

/-- What neither submits nor changes a number or a virtual time. -/
theorem Timely.congr (h : Timely pool) (hclassifier : pool'.classifier = pool.classifier)
    (hnext : pool'.nextId = pool.nextId) (hstamps : pool'.stamps <+ pool.stamps) :
    Timely pool' := by
  have hof : ∀ row' ∈ pool'.rows, ∃ row ∈ pool.rows, row.id = row'.id ∧
      row.virtualTime = row'.virtualTime := by
    intro row' hrow'
    simpa [stamps] using hstamps.subset (mem_map_of_mem hrow')
  refine ⟨fun row' hrow' => ?_, hclassifier ▸ h.finish, hclassifier ▸ h.nonneg, fun row' hrow' => ?_, ?_⟩
  · obtain ⟨row, hrow, -, htime⟩ := hof row' hrow'
    rw [hclassifier, ← htime]
    exact h.rows row hrow
  · obtain ⟨row, hrow, hid, -⟩ := hof row' hrow'
    rw [hnext, ← hid]
    exact h.below row hrow
  · have hids := hstamps.map Prod.fst
    simp only [stamps, map_map, Function.comp_def] at hids
    exact h.ids.sublist hids

theorem stamps_map {f : JobRow → JobRow}
    (hf : ∀ row, (f row).id = row.id ∧ (f row).virtualTime = row.virtualTime)
    (hrows : pool'.rows = pool.rows.map f) : pool'.stamps <+ pool.stamps := by
  simp [stamps, hrows, Function.comp_def, hf]

theorem Timely.updateKey (h : Timely pool) (key : String) {f : JobRow → JobRow}
    (hf : ∀ row, (f row).id = row.id ∧ (f row).virtualTime = row.virtualTime) :
    Timely (pool.updateKey key f) := by
  refine h.congr rfl rfl (stamps_map (fun row => ?_) rfl)
  split_ifs
  · exact hf row
  · exact ⟨rfl, rfl⟩

theorem Timely.removeKey (h : Timely pool) (id : JobId) : Timely (pool.removeKey id) :=
  h.congr rfl rfl (.refl _)

theorem Timely.step {op : Op} (h : Timely pool) : Timely (step ops config pool op) := by
  cases op with
  | submit sub => exact h.submit
  | dequeue st tie =>
    dsimp only [WorkerPool.step, dequeue]
    split
    · exact h
    · exact h
    · refine h.congr rfl rfl (stamps_map (fun row => ?_) rfl)
      split_ifs <;> exact ⟨rfl, rfl⟩
  | success st job =>
    dsimp only [WorkerPool.step, markSuccess, markCompleted]
    cases st.fails with
    | some e => exact h
    | none =>
      refine (h.updateKey _ ?_).removeKey _
      exact fun _ => ⟨rfl, rfl⟩
  | failure st job error =>
    dsimp only [WorkerPool.step, markFailure, requeue, markFailed]
    cases st.fails with
    | some e => split_ifs <;> exact h
    | none =>
      split_ifs
      all_goals
        refine (h.updateKey _ ?_).removeKey _
        exact fun _ => ⟨rfl, rfl⟩
  | cleanup clock => exact h.congr rfl rfl (.refl _)
  | applyRetentionPolicies now => exact h.congr rfl rfl (filter_sublist.map _)

theorem after_timely (ops : TextOps) (config : WorkerPoolConfig) (before : List Op) :
    Timely (after ops config before) := by
  refine Transition.run_inv (fun _ _ h => h.step) before ?_
  constructor <;> simp [empty, UniqueIds]

/-- The time of a new row: the clock and its weight, or beyond `i64` a time in the past. -/
theorem new_time (h : Timely pool) (band : RequestPriority) {sum : ℤ}
    (hsum : sum = pool.classifier.virtualClock.toInt + (config.priority.weightFor band).toNat) :
    (pool.classifier.nextVirtualTime config.priority band).1.toInt =
      if sum < 2 ^ 63 then sum else sum - 2 ^ 64 := by
  have hclock := pool.classifier.virtualClock.inRange.2
  have hweight := (config.priority.weightFor band).toNat_lt
  have hnonneg := h.nonneg
  simp only [PriorityClassifier.nextVirtualTime, SInt.toInt_max, max_eq_left (h.finish band), ← hsum]
  split_ifs with hlt
  · exact SInt.toInt_wrap ⟨by omega, hlt⟩
  · exact SInt.toInt_wrap_sub ⟨by omega, by omega⟩

/-- After any run: a job that is inserted is served before one of the waiting jobs of a band exactly
if its weight is zero and such a job has the time of the clock and a later date, or if the sum of the
clock and its weight leaves `i64` and wraps to a time before such a job's. -/
theorem overtakes_iff (ops : TextOps) (config : WorkerPoolConfig) (before : List Op)
    (sub : Submission) (band : RequestPriority) (new : JobRow) (weight : UInt32) (sum : ℤ)
    (hweight : weight = config.priority.weightFor
      (PriorityClassifier.classify config.priority sub.payload.amount sub.isBatch))
    (hsum : sum = (after ops config before).classifier.virtualClock.toInt + weight.toNat)
    (hinserted : (after ops config (before ++ [.submit sub])).rows =
      (after ops config before).rows ++ [new]) :
    (∃ row ∈ (after ops config before).waiting band,
      ServedBefore ops (after ops config (before ++ [.submit sub])) new row) ↔
    ∃ row ∈ (after ops config before).waiting band,
      weight = 0 ∧ row.virtualTime = (after ops config before).classifier.virtualClock ∧
        sub.now < row.createdAt ∨
      2 ^ 63 ≤ sum ∧ (sum - 2 ^ 64 < row.virtualTime.toInt ∨
        sum - 2 ^ 64 = row.virtualTime.toInt ∧ sub.now < row.createdAt) := by
  have htimely := after_timely ops config before
  have hids := (after_timely ops config (before ++ [.submit sub])).ids
  have hstep : after ops config (before ++ [.submit sub]) =
      (submitJobWithOptions ops config sub (after ops config before)).2 := by
    rw [after, Transition.run_concat]
    rfl
  rw [hstep] at hinserted hids ⊢
  generalize after ops config before = pool at *
  generalize hpool' : (submitJobWithOptions ops config sub pool).2 = pool' at hinserted hids ⊢
  obtain ⟨hpending, hdate, htime⟩ : new.status = .pending ∧ new.createdAt = sub.now ∧
      new.virtualTime.toInt = if sum < 2 ^ 63 then sum else sum - 2 ^ 64 := by
    rcases submit_cases hpool' with
      ⟨-, h, -⟩ | ⟨_, rfl, -, ⟨h, -⟩ | ⟨new', hrows, -, -, hstatus, hdate, hvt⟩⟩
    · simp [h] at hinserted
    · simp [h] at hinserted
    · obtain rfl : new' = new := by simpa [hrows] using hinserted
      rw [hweight] at hsum
      exact ⟨hstatus, hdate, by rw [hvt, new_time htimely _ hsum]⟩
  have hnew : new ∈ pool'.pending := by simp [pending, hinserted, hpending]
  refine exists_congr fun row => and_congr_right fun hrow => ?_
  obtain ⟨hmem, hrowPending⟩ : row ∈ pool.rows ∧ row.status = .pending := by
    simp only [waiting, mem_filter, decide_eq_true_eq] at hrow
    exact ⟨hrow.1, hrow.2.1⟩
  have hne : new ≠ row := by
    rintro rfl
    rw [UniqueIds, hinserted, map_append, nodup_append] at hids
    exact hids.2.2 _ (mem_map_of_mem hmem) _ mem_cons_self rfl
  have hle := htimely.rows row hmem
  have hzero : weight = 0 ↔ weight.toNat = 0 := UInt32.toNat_inj.symm
  rw [servedBefore_iff hids hnew (by simp [pending, hinserted, hmem, hrowPending]) hne,
    JobRow.rank, JobRow.rank, Prod.Lex.toLex_lt_toLex, htime, hdate, SInt.ext_iff, hzero]
  dsimp only
  split_ifs with hlt <;> omega

def twoBatches : List Op := ["AAA:GISSUER", "BBB:GISSUER"].map fun quote =>
  .submit { routeFor "native" quote 50 with isBatch := true }

def largeRoute : Submission :=
  { nativeRoute with payload := { nativeRoute.payload with amount := ⟨0x40F86A0000000000⟩ } }

def largeRow : JobRow :=
  ⟨2, largeRoute.key plainText, .pending, largeRoute.payload, 0, 3, none, .critical, 17, 0, 0⟩

theorem overtakes_iff_large :
    ¬ ∃ row ∈ (after plainText defaults twoBatches).waiting .low,
      ServedBefore plainText (after plainText defaults (twoBatches ++ [.submit largeRoute]))
        largeRow row := by
  rw [overtakes_iff plainText defaults twoBatches largeRoute .low largeRow 1 17
    (by decide) (by decide) (by decide)]
  rintro ⟨row, -, ⟨hzero, -⟩ | ⟨hlarge, -⟩⟩
  · cases hzero
  · omega

/-- A large trade, of the lightest band, comes behind two batch jobs of the heaviest: it is left for
the third dequeue. -/
theorem large_served_last :
    defaults.priority.weightFor .critical < defaults.priority.weightFor .low ∧
    ((after plainText defaults twoBatches).rows.map fun row => (row.status, row.priority)) =
      [(.pending, .low), (.pending, .low)] ∧
    (dequeue plainText ⟨0, none⟩ 0 (after plainText defaults (twoBatches ++
      [.submit largeRoute, .dequeue ⟨0, none⟩ 0, .dequeue ⟨0, none⟩ 0]))).1 =
        .ok (some (jobOf plainText largeRow)) := by
  decide

end WorkerPool

end StellarRoute.Quote
