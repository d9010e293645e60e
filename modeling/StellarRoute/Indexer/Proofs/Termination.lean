import StellarRoute.Indexer.Proofs.Backfill

/-! Whether a backfill that nobody disturbs comes to an end. The next batch starts behind the last
valid row of this one, so a batch without a valid row is read again and again: the loop ends just
when every `batch_size` offers in a row above the checkpoint have a valid one among them, and the
last offer is valid. -/

namespace StellarRoute.Indexer

open Lib List

variable {db db' : BackfillDb} {l : ℤ} {front rest : List SdexRow}

namespace BackfillDb

/-- The offers above an id, as the loop meets them. -/
def pending (db : BackfillDb) (l : ℤ) : List SdexRow :=
  (db.offers.values.filter fun row => decide (l < row.offerId)).insertionSort
    fun a b => a.offerId ≤ b.offerId

/-- `offer_id` is the primary key. -/
abbrev Keyed (db : BackfillDb) : Prop := (db.offers.values.map (·.offerId)).Nodup

theorem pending_ascends (hkey : db.Keyed) (l : ℤ) :
    (db.pending l).Pairwise fun a b => a.offerId < b.offerId := by
  have : Std.Total fun a b : SdexRow => a.offerId ≤ b.offerId := ⟨fun _ _ => le_total _ _⟩
  have : IsTrans SdexRow fun a b => a.offerId ≤ b.offerId := ⟨fun _ _ _ => le_trans⟩
  have hnodup : ((db.pending l).map (·.offerId)).Nodup :=
    (((perm_insertionSort _ _).map _).nodup_iff).mpr
      (hkey.sublist (filter_sublist.map _))
  have hsorted := pairwise_insertionSort (fun a b : SdexRow => a.offerId ≤ b.offerId)
    (db.offers.values.filter fun row => decide (l < row.offerId))
  exact (hsorted.and (pairwise_map.mp hnodup)).imp fun h => lt_of_le_of_ne h.1 h.2

/-- Above an offer are those that come after it. -/
theorem pending_cut {row : SdexRow} (hkey : db.Keyed) (h : db.pending l = front ++ row :: rest) :
    db.pending row.offerId = rest := by
  have hall := pending_ascends hkey l
  have hmem : row ∈ db.pending l := by simp [h]
  rw [pending, mem_insertionSort, mem_filter, decide_eq_true_eq] at hmem
  have hfilter : (db.pending l).filter (fun r => decide (row.offerId < r.offerId)) = rest := by
    rw [h, pairwise_append, pairwise_cons] at hall
    have hnone : front.filter (fun r => decide (row.offerId < r.offerId)) = [] := by
      simpa [filter_eq_nil_iff] using fun a ha => (hall.2.2 a ha row mem_cons_self).le
    have hself : rest.filter (fun r => decide (row.offerId < r.offerId)) = rest := by
      simpa [filter_eq_self] using hall.2.1.1
    simp [h, hnone, hself]
  rw [← hfilter]
  refine List.Perm.eq_of_pairwise (fun a b _ _ hab hba => absurd hab hba.asymm)
    (pending_ascends hkey _) (hall.filter _) ?_
  have hperm := (perm_insertionSort (fun a b : SdexRow => a.offerId ≤ b.offerId)
    (db.offers.values.filter fun r => decide (l < r.offerId))).filter
      fun r => decide (row.offerId < r.offerId)
  rw [filter_filter] at hperm
  refine (perm_insertionSort _ _).trans (.trans (.of_eq (filter_congr fun r _ => ?_)) hperm.symm)
  by_cases hr : row.offerId < r.offerId
  · simp [hr, hmem.2.trans hr]
  · simp [hr]

/-- The normalized table has the offer as it is. -/
def Holds (db : BackfillDb) (row : SdexRow) : Prop :=
  ∃ r, db.normalized.lookup ("sdex", toString row.offerId) = some r ∧ r.price = row.price ∧
    r.availableAmount = row.amount ∧ r.sourceLedger = row.lastModifiedLedger

theorem holds_upsertNormalized (db : BackfillDb) (row : SdexRow) :
    (db.upsertNormalized row).Holds row :=
  ⟨_, AList.lookup_insert _, rfl, rfl, rfl⟩

theorem Holds.upsertNormalized {row row' : SdexRow} (h : db.Holds row)
    (hne : row.offerId ≠ row'.offerId) : (db.upsertNormalized row').Holds row := by
  obtain ⟨r, hr, hvalues⟩ := h
  refine ⟨r, (AList.lookup_insert_ne ?_).trans hr, hvalues⟩
  exact fun heq => hne (toString_int_inj.mp (Prod.mk.inj heq).2)

theorem holds_foldl {row : SdexRow} {rows : List SdexRow} (hmem : row ∈ rows)
    (hrows : (rows.map (·.offerId)).Nodup) : (rows.foldl upsertNormalized db).Holds row := by
  obtain ⟨front, rest, rfl⟩ := append_of_mem hmem
  rw [foldl_append, foldl_cons]
  have hrest : ∀ row' ∈ rest, row.offerId ≠ row'.offerId := by
    simp only [map_append, map_cons, nodup_append, nodup_cons, mem_map] at hrows
    exact fun row' hrow' heq => hrows.2.1.1 ⟨row', hrow', heq.symm⟩
  apply foldlRecOn rest (motive := (Holds · row)) _ (holds_upsertNormalized _ row)
  exact fun db hdb row' hrow' => hdb.upsertNormalized (hrest row' hrow')

theorem foldl_upsertNormalized {rows : List SdexRow} (h : db.normalized = db'.normalized) :
    (rows.foldl upsertNormalized db).normalized = (rows.foldl upsertNormalized db').normalized := by
  induction rows generalizing db db' with
  | nil => exact h
  | cons row rows ih => exact ih (by rw [upsertNormalized, upsertNormalized, h])

end BackfillDb

namespace BackfillManager

variable {c : BackfillCheckpoint}

/-- A loop, with the status and the database. -/
abbrev Solo := LoopPhase × BackfillStatus × BackfillDb

/-- An access that does not fail. -/
def proceed (s : Solo) : Solo := advance (.ok ()) s.2.1 s.2.2 s.1

/-- What the next access upserts. -/
def upserts : LoopPhase → List SdexRow
  | .upserting (row :: _) _ => if row.normalizes then [row] else []
  | _ => []

/-- The loop after so many accesses, and the rows that they upserted. -/
def processLoop : ℕ → Solo → Solo × List SdexRow
  | 0, s => (s, [])
  | n + 1, s => ((processLoop n (proceed s)).1, upserts s.1 ++ (processLoop n (proceed s)).2)

/-- The loop ends in `Completed`, the upserts make up what the normalized table has become, and
every valid offer above the checkpoint was upserted once and stands in the table. -/
def Completes (db : BackfillDb) (c : BackfillCheckpoint) : Prop :=
  ∃ n s rows, processLoop n (.checking, .running, db) = (s, rows) ∧ s.1 = .ended ∧
    s.2.1 = .completed ∧ s.2.2.normalized = (rows.foldl BackfillDb.upsertNormalized db).normalized ∧
    ∀ row ∈ db.pending c.lastProcessedId, row.normalizes = true →
      rows.count row = 1 ∧ s.2.2.Holds row

/-- A batch that starts at any of these offers has a valid one. -/
abbrev Passable (size : ℤ) (rows : List SdexRow) : Prop :=
  ∀ i < rows.length, ∃ row ∈ (rows.drop i).take size.toNat, row.normalizes = true

theorem processLoop_add (m n : ℕ) (s : Solo) :
    processLoop (m + n) s = ((processLoop n (processLoop m s).1).1,
      (processLoop m s).2 ++ (processLoop n (processLoop m s).1).2) := by
  induction m generalizing s with
  | zero => simp [processLoop]
  | succ m ih => simp [Nat.succ_add, processLoop, ih]

theorem proceed_normalized (s : Solo) :
    (proceed s).2.2.normalized = ((upserts s.1).foldl BackfillDb.upsertNormalized s.2.2).normalized := by
  obtain ⟨phase, status, db⟩ := s
  cases phase with
  | checking | finishing | updating | failed | ended => rfl
  | loading => cases hc : db.checkpoint <;> simp [proceed, advance, upserts, hc]
  | fetching c =>
    unfold proceed advance
    dsimp only
    split_ifs
    · rfl
    · split <;> rfl
  | upserting rows lastId =>
    cases rows with
    | nil => rfl
    | cons row rows => cases h : row.normalizes <;> simp [proceed, advance, upserts, h]

/-- The table is what the upserts make of it. -/
theorem processLoop_normalized (n : ℕ) (s : Solo) :
    (processLoop n s).1.2.2.normalized =
      ((processLoop n s).2.foldl BackfillDb.upsertNormalized s.2.2).normalized := by
  induction n generalizing s with
  | zero => rfl
  | succ n ih =>
    simp only [processLoop, ih, foldl_append]
    exact BackfillDb.foldl_upsertNormalized (proceed_normalized s)

theorem processLoop_ended (n : ℕ) {s : Solo} (h : s.1 = .ended) : (processLoop n s).1.1 = .ended := by
  obtain ⟨phase, status, db⟩ := s
  subst h
  induction n with
  | zero => rfl
  | succ n ih => exact ih

/-- A loop that is still going ends later or not at all. -/
theorem ended_later {n m : ℕ} {s s' : Solo} {rows : List SdexRow} (hrun : processLoop n s = (s', rows))
    (hs' : s'.1 ≠ .ended) (h : (processLoop m s).1.1 = .ended) :
    ∃ k, m = n + k ∧ (processLoop k s').1.1 = .ended := by
  rcases Nat.le_total n m with hle | hle
  · obtain ⟨k, rfl⟩ := Nat.exists_eq_add_of_le hle
    rw [processLoop_add, hrun] at h
    exact ⟨k, rfl, h⟩
  · obtain ⟨k, rfl⟩ := Nat.exists_eq_add_of_le hle
    rw [processLoop_add, Prod.mk.injEq] at hrun
    exact absurd (hrun.1 ▸ processLoop_ended k h) hs'

/-! One batch -/

/-- Where the loop stands after these rows. -/
def lastValid (lastId : ℤ) (rows : List SdexRow) : ℤ :=
  rows.foldl (fun lastId row => if row.normalizes then row.offerId else lastId) lastId

theorem processLoop_upserting (status : BackfillStatus) (rows : List SdexRow) (lastId : ℤ)
    (db : BackfillDb) :
    ∃ db', processLoop rows.length (.upserting rows lastId, status, db) =
      ((.upserting [] (lastValid lastId rows), status, db'), rows.filter (·.normalizes)) ∧
      db'.offers = db.offers ∧ db'.checkpoint = db.checkpoint := by
  induction rows generalizing lastId db with
  | nil => exact ⟨db, rfl, rfl, rfl⟩
  | cons row rows ih =>
    cases hvalid : row.normalizes with
    | true =>
      obtain ⟨db', hrun, hkept⟩ := ih row.offerId (db.upsertNormalized row)
      exact ⟨db', by simp [processLoop, proceed, advance, upserts, lastValid, hvalid, hrun], hkept⟩
    | false =>
      obtain ⟨db', hrun, hkept⟩ := ih lastId db
      exact ⟨db', by simp [processLoop, proceed, advance, upserts, lastValid, hvalid, hrun], hkept⟩

theorem processLoop_batch (hc : db.checkpoint = some c) (hsize : 1 ≤ c.batchSize)
    (hrows : db.batch c ≠ []) :
    ∃ n db', processLoop (n + 1) (.checking, .running, db) =
      ((.checking, .running, db'), (db.batch c).filter (·.normalizes)) ∧ db'.offers = db.offers ∧
      db'.checkpoint = some { c with
        lastProcessedId := lastValid c.lastProcessedId (db.batch c), status := "running" } := by
  have hfetch : processLoop 3 (.checking, .running, db) =
      ((.upserting (db.batch c) c.lastProcessedId, .running, db), []) := by
    have hnonneg : ¬ c.batchSize < 0 := by omega
    cases hbatch : db.batch c with
    | nil => exact absurd hbatch hrows
    | cons row rows => simp [processLoop, proceed, advance, upserts, hc, hbatch, if_neg hnonneg]
  obtain ⟨db', hrun, hoffers, hcheckpoint⟩ :=
    processLoop_upserting .running (db.batch c) c.lastProcessedId db
  refine ⟨3 + (db.batch c).length + 1, db'.updateCheckpoint (lastValid c.lastProcessedId (db.batch c)),
    ?_, hoffers, ?_⟩
  · change processLoop (3 + (db.batch c).length + 2) _ = _
    rw [processLoop_add, processLoop_add, hfetch, hrun]
    simp [processLoop, proceed, advance, upserts]
  · simp [BackfillDb.updateCheckpoint, hcheckpoint, hc]

theorem lastValid_split (lastId : ℤ) (rows : List SdexRow) :
    (∀ row ∈ rows, row.normalizes = false) ∧ lastValid lastId rows = lastId ∨
    ∃ front row rest, rows = front ++ row :: rest ∧ row.normalizes = true ∧
      lastValid lastId rows = row.offerId ∧ rest.filter (·.normalizes) = [] := by
  induction rows using reverseRecOn with
  | nil => exact .inl ⟨forall_mem_nil _, rfl⟩
  | append_singleton rows row ih =>
    cases hvalid : row.normalizes with
    | true => exact .inr ⟨rows, row, [], rfl, hvalid, by simp [lastValid, hvalid], rfl⟩
    | false =>
      have hsame : lastValid lastId (rows ++ [row]) = lastValid lastId rows := by
        simp [lastValid, hvalid]
      rcases ih with ⟨hnone, hlast⟩ | ⟨front, last, rest, rfl, hlast, heq, hrest⟩
      · exact .inl ⟨by simpa [hvalid, or_imp, forall_and] using hnone, hsame.trans hlast⟩
      · exact .inr ⟨front, last, rest ++ [row], by simp, hlast, hsame.trans heq,
          by simp [hrest, hvalid]⟩

/-- A batch without a valid row comes again. -/
theorem never_ends (hc : db.checkpoint = some c) (hsize : 1 ≤ c.batchSize) (hrows : db.batch c ≠ [])
    (hlast : lastValid c.lastProcessedId (db.batch c) = c.lastProcessedId) (m : ℕ) :
    (processLoop m (.checking, .running, db)).1.1 ≠ .ended := by
  induction m using Nat.strong_induction_on generalizing db c with
  | h m ih =>
    intro hended
    obtain ⟨n, db', hrun, hoffers, hc'⟩ := processLoop_batch hc hsize hrows
    obtain ⟨k, rfl, hlater⟩ := ended_later hrun nofun hended
    have hbatch : db'.batch { c with status := "running" } = db.batch c := by
      rw [BackfillDb.batch, hoffers]
      rfl
    rw [hlast] at hc'
    rw [← hbatch] at hrows hlast
    exact ih k (by omega) hc' hsize hrows hlast hlater

/-! The run -/

theorem passable_split {size : ℤ} {row : SdexRow} (hfront : front.length < size.toNat)
    (hvalid : row.normalizes = true) :
    Passable size (front ++ row :: rest) ↔ Passable size rest := by
  constructor
  · intro h i hi
    have hlater := h (front.length + (i + 1)) (by simp; omega)
    rwa [drop_length_add_append] at hlater
  · intro h i hi
    rcases Nat.lt_or_ge front.length i with hlt | hle
    · obtain ⟨j, rfl⟩ := Nat.exists_eq_add_of_le hlt
      rw [Nat.succ_add_eq_add_succ, drop_length_add_append]
      exact h j (by simp at hi; omega)
    · refine ⟨row, ?_, hvalid⟩
      rw [drop_append_of_le_length hle, take_append, length_drop]
      obtain ⟨k, hk⟩ := Nat.exists_eq_add_of_lt (show front.length - i < size.toNat by omega)
      simp [hk, Nat.add_assoc]

/-- The induction is on how many offers are left. -/
theorem processLoop_completes (n : ℕ) : ∀ (db : BackfillDb) (c : BackfillCheckpoint), db.Keyed →
    db.checkpoint = some c → 1 ≤ c.batchSize → (db.pending c.lastProcessedId).length = n →
    (Passable c.batchSize (db.pending c.lastProcessedId) →
      ∃ m s, processLoop m (.checking, .running, db) =
        (s, (db.pending c.lastProcessedId).filter (·.normalizes)) ∧ s.1 = .ended ∧
          s.2.1 = .completed) ∧
    ∀ m, (processLoop m (.checking, .running, db)).1.1 = .ended →
      Passable c.batchSize (db.pending c.lastProcessedId) := by
  induction n using Nat.strong_induction_on with
  | h n ih =>
    intro db c hkey hc hsize hlen
    have hbatch : db.batch c = (db.pending c.lastProcessedId).take c.batchSize.toNat := rfl
    by_cases hrows : db.pending c.lastProcessedId = []
    · refine ⟨fun _ => ⟨4, (.ended, .completed, db.setStatus "completed"), ?_, rfl, rfl⟩, ?_⟩
      · have hnonneg : ¬ c.batchSize < 0 := by omega
        rw [hrows, take_nil] at hbatch
        simp [processLoop, proceed, advance, upserts, hc, hbatch, if_neg hnonneg, hrows]
      · simp [hrows, Passable]
    have hsome : db.batch c ≠ [] := by
      rw [hbatch, ne_eq, take_eq_nil_iff, not_or]
      exact ⟨by omega, hrows⟩
    rcases lastValid_split c.lastProcessedId (db.batch c) with
      ⟨hnone, hlast⟩ | ⟨front, row, rest, hsplit, hvalid, hlast, hrest⟩
    · refine ⟨fun hpass => ?_, fun m h => absurd h (never_ends hc hsize hsome hlast m)⟩
      obtain ⟨row, hrow, hvalid⟩ := hpass 0 (length_pos_iff.mpr hrows)
      exact absurd ((hnone row hrow).symm.trans hvalid) Bool.false_ne_true
    · obtain ⟨n₁, db', hrun, hoffers, hc'⟩ := processLoop_batch hc hsize hsome
      have hfront : front.length < c.batchSize.toNat := by
        have := congrArg length (hbatch.symm.trans hsplit)
        simp at this
        omega
      obtain ⟨more, hmore⟩ : ∃ more, db.pending c.lastProcessedId = db.batch c ++ more :=
        ⟨_, (take_append_drop _ _).symm⟩
      simp only [hsplit, append_assoc, cons_append] at hmore
      have hcut := BackfillDb.pending_cut hkey hmore
      rw [BackfillDb.pending, ← hoffers, ← BackfillDb.pending] at hcut
      rw [hlast] at hc'
      obtain ⟨hends, hpassed⟩ := ih _ (by simp [hcut, ← hlen, hmore]; omega) db' _
        (by rw [BackfillDb.Keyed, hoffers]; exact hkey) hc' hsize rfl
      rw [hcut] at hends hpassed
      rw [hmore, passable_split hfront hvalid]
      refine ⟨fun hpass => ?_, fun m hm => ?_⟩
      · obtain ⟨n₂, s, hrun', hend⟩ := hends hpass
        refine ⟨n₁ + 1 + n₂, s, ?_, hend⟩
        rw [processLoop_add, hrun, hrun']
        simp [hsplit, hvalid, hrest]
      · obtain ⟨k, -, hk⟩ := ended_later hrun (by simp) hm
        exact hpassed k hk

theorem completes_iff (db : BackfillDb) (c : BackfillCheckpoint) (hkey : db.Keyed)
    (hc : db.checkpoint = some c) (hsize : 1 ≤ c.batchSize) :
    Completes db c ↔ Passable c.batchSize (db.pending c.lastProcessedId) := by
  obtain ⟨hends, hpassed⟩ := processLoop_completes _ db c hkey hc hsize rfl
  constructor
  · rintro ⟨n, s, rows, hrun, hended, -⟩
    exact hpassed n (by rw [hrun]; exact hended)
  · intro hpass
    obtain ⟨n, s, hrun, hended, hstatus⟩ := hends hpass
    have htable := processLoop_normalized n (.checking, .running, db)
    rw [hrun] at htable
    have hids : (((db.pending c.lastProcessedId).filter (·.normalizes)).map (·.offerId)).Nodup :=
      pairwise_map.mpr (((BackfillDb.pending_ascends hkey _).imp ne_of_lt).filter _)
    refine ⟨n, s, _, hrun, hended, hstatus, htable, fun row hrow hvalid => ?_⟩
    have hmem := mem_filter.mpr ⟨hrow, hvalid⟩
    refine ⟨count_eq_one_of_mem hids.of_map hmem, ?_⟩
    rw [BackfillDb.Holds, htable]
    exact BackfillDb.holds_foldl hmem hids

theorem completes_twoOffers : Completes SampleRuns.twoOffers ⟨0, 1, "idle", none⟩ :=
  (completes_iff _ _ (by decide) rfl (by decide)).mpr (by decide)

/-- A table whose only offer has no amount left. -/
theorem never_completes :
    ¬ Completes ⟨some ⟨0, 1000, "running", none⟩,
        (∅ : HashMap ℤ SdexRow).insert 1 { SampleRuns.row 1 with amount := 0 }, ∅⟩
      ⟨0, 1000, "running", none⟩ := by
  rintro ⟨n, s, rows, hrun, hended, -⟩
  refine never_ends rfl ?_ ?_ ?_ n (by rw [hrun]; exact hended)
  all_goals decide

end BackfillManager

end StellarRoute.Indexer
