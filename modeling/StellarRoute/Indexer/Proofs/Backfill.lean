import Mathlib.Tactic
import StellarRoute.Lib.Transition
import StellarRoute.Indexer.Spec.Backfill

/-! The loops of a backfill. Pausing only sets a status that the loop looks at between two batches,
and `run_backfill` looks at nothing but that status, so a job that is resumed before its loop has
seen the pause has two loops, and the slower one moves the checkpoint back. Where no call starts a
loop while another one is at work, there is one loop and the checkpoint only moves forward. -/

namespace StellarRoute.Indexer

open Lib Transition List Option

/-- The checkpoint is still there, and not behind. -/
def Forward (db db' : BackfillDb) : Prop :=
  ∀ c, db.checkpoint = some c →
    ∃ c', db'.checkpoint = some c' ∧ c.lastProcessedId ≤ c'.lastProcessedId

theorem Forward.refl (db : BackfillDb) : Forward db db := fun c hc => ⟨c, hc, le_rfl⟩

theorem Forward.trans {db db' db'' : BackfillDb} (h : Forward db db') (h' : Forward db' db'') :
    Forward db db'' := by
  intro c hc
  obtain ⟨c', hc', hle⟩ := h c hc
  obtain ⟨c'', hc'', hle'⟩ := h' c' hc'
  exact ⟨c'', hc'', hle.trans hle'⟩

/-- What a loop is about to write is not before the checkpoint. -/
def LoopPhase.Ahead (db : BackfillDb) (phase : LoopPhase) : Prop :=
  ∀ c, db.checkpoint = some c →
    match phase with
    | .fetching c' => c.lastProcessedId ≤ c'.lastProcessedId
    | .upserting rows lastId =>
      c.lastProcessedId ≤ lastId ∧ ∀ row ∈ rows, c.lastProcessedId ≤ row.offerId
    | .updating lastId => c.lastProcessedId ≤ lastId
    | _ => True

namespace BackfillDb

variable {db : BackfillDb}

def SamePlace (db db' : BackfillDb) : Prop :=
  db'.checkpoint.map (·.lastProcessedId) = db.checkpoint.map (·.lastProcessedId)

theorem samePlace_setStatus (status : String) : SamePlace db (db.setStatus status) := by
  simp [SamePlace, setStatus, Function.comp_def]

theorem samePlace_setError (e : String) : SamePlace db (db.setError e) := by
  simp [SamePlace, setError, Function.comp_def]

theorem SamePlace.forward {db' : BackfillDb} (h : SamePlace db db') : Forward db db' := by
  intro c hc
  rw [SamePlace, hc, map_some, map_eq_some_iff] at h
  obtain ⟨c', hc', hsame⟩ := h
  exact ⟨c', hc', hsame.ge⟩

theorem SamePlace.ahead {db' : BackfillDb} {phase : LoopPhase} (h : SamePlace db db')
    (hphase : phase.Ahead db) : phase.Ahead db' := by
  intro c' hc'
  rw [SamePlace, hc', map_some, eq_comm, map_eq_some_iff] at h
  obtain ⟨c, hc, hsame⟩ := h
  have hc := hphase c hc
  rwa [hsame] at hc

theorem forward_ensureCheckpoint : Forward db db.ensureCheckpoint := by
  intro c hc
  refine ⟨c, ?_, le_rfl⟩
  rw [ensureCheckpoint, hc]
  exact hc

end BackfillDb

namespace BackfillManager

variable {db : BackfillDb} {phase : LoopPhase} {s : BackfillManager}

/-- An access of a loop keeps what the loop is about to write ahead of the checkpoint, and does not
move the checkpoint back. -/
theorem advance_ahead (status : BackfillStatus) (outcome : Outcome) (h : phase.Ahead db) :
    (advance outcome status db phase).1.Ahead (advance outcome status db phase).2.2 ∧
      Forward db (advance outcome status db phase).2.2 := by
  cases phase with
  | checking =>
    simp only [advance]
    split_ifs
    · exact ⟨fun _ _ => trivial, .refl db⟩
    · exact ⟨fun _ _ => trivial, .refl db⟩
  | loading =>
    simp only [advance]
    split
    · next c hc =>
      refine ⟨?_, .refl db⟩
      intro c' hc'
      rw [hc, some.injEq] at hc'
      rw [hc']
    · exact ⟨fun _ _ => trivial, .refl db⟩
    · exact ⟨fun _ _ => trivial, .refl db⟩
  | fetching c =>
    simp only [advance]
    cases outcome with
    | error e => exact ⟨fun _ _ => trivial, .refl db⟩
    | ok _ =>
      dsimp only
      split_ifs
      · exact ⟨fun _ _ => trivial, .refl db⟩
      · split
        · exact ⟨fun _ _ => trivial, .refl db⟩
        · refine ⟨?_, .refl db⟩
          intro c' hc'
          have hle : c'.lastProcessedId ≤ c.lastProcessedId := h c' hc'
          refine ⟨hle, fun row hrow => ?_⟩
          have hsorted := mem_of_mem_take hrow
          rw [mem_insertionSort, mem_filter] at hsorted
          have hlt := of_decide_eq_true hsorted.2
          omega
  | finishing =>
    cases outcome with
    | error e => exact ⟨fun _ _ => trivial, .refl db⟩
    | ok _ => exact ⟨fun _ _ => trivial, (BackfillDb.samePlace_setStatus _).forward⟩
  | upserting rows lastId =>
    cases rows with
    | nil => exact ⟨fun c hc => (h c hc).1, .refl db⟩
    | cons row rows =>
      have hrest : ∀ c, db.checkpoint = some c → ∀ row' ∈ rows, c.lastProcessedId ≤ row'.offerId :=
        fun c hc row' hrow' => (h c hc).2 row' (mem_cons_of_mem _ hrow')
      simp only [advance]
      split_ifs
      · cases outcome with
        | error e => exact ⟨fun _ _ => trivial, .refl db⟩
        | ok _ =>
          -- the upsert does not touch the checkpoint
          refine ⟨fun c hc => ⟨(h c hc).2 row mem_cons_self, hrest c hc⟩, ?_⟩
          exact fun c hc => ⟨c, hc, le_rfl⟩
      · exact ⟨fun c hc => ⟨(h c hc).1, hrest c hc⟩, .refl db⟩
  | updating lastId =>
    cases outcome with
    | error e => exact ⟨fun _ _ => trivial, .refl db⟩
    | ok _ =>
      refine ⟨fun _ _ => trivial, fun c hc => ?_⟩
      refine ⟨{ c with lastProcessedId := lastId, status := "running" }, ?_, h c hc⟩
      simp only [advance, BackfillDb.updateCheckpoint, hc, map_some]
  | failed e =>
    cases outcome with
    | error e' => exact ⟨fun _ _ => trivial, .refl db⟩
    | ok _ => exact ⟨fun _ _ => trivial, (BackfillDb.samePlace_setError e).forward⟩
  | ended => exact ⟨fun _ _ => trivial, .refl db⟩

/-- The loop with this number is at work. -/
def ActiveAt (s : BackfillManager) (i : ℕ) : Prop :=
  ∃ phase, s.loops[i]? = some phase ∧ phase.active = true

/-- A call starts a loop only when none is at work and none is about to be spawned. -/
def Alone (s : BackfillManager) : BackfillChoice → Prop
  | .runBackfill => s.status = .running ∨ (∀ i, ¬ s.ActiveAt i) ∧ s.starting = 0
  | _ => True

/-- One loop at most is at work or about to be spawned, and it is ahead of the checkpoint. -/
structure Single (s : BackfillManager) : Prop where
  unique : ∀ i j, s.ActiveAt i → s.ActiveAt j → i = j
  starting : s.starting ≤ 1
  free : 0 < s.starting → ∀ i, ¬ s.ActiveAt i
  ahead : ∀ (i : ℕ) (phase : LoopPhase), s.loops[i]? = some phase → phase.Ahead s.db

theorem ahead_of_not_active (h : phase.active = false) : phase.Ahead db := by
  cases phase with
  | failed e | ended => exact fun _ _ => trivial
  | _ => cases h

theorem Single.other (hs : Single s) {i j : ℕ} {other : LoopPhase} (hi : s.ActiveAt i)
    (hj : s.loops[j]? = some other) (hne : j ≠ i) : other.active = false := by
  by_contra hactive
  apply hne
  exact hs.unique j i ⟨other, hj, Bool.eq_true_of_not_eq_false hactive⟩ hi

theorem Single.loop (hs : Single s) (i : ℕ) (outcome : Outcome) :
    Single (s.step (.loop i outcome)) ∧ Forward s.db (s.step (.loop i outcome)).db := by
  simp only [BackfillManager.step]
  cases hi : s.loops[i]? with
  | none => exact ⟨hs, .refl _⟩
  | some phase =>
    dsimp only
    have hadvance := advance_ahead s.status outcome (hs.ahead i phase hi)
    have hreturned : phase.active = false → (advance outcome s.status s.db phase).1.active = false ∧
        BackfillDb.SamePlace s.db (advance outcome s.status s.db phase).2.2 := by
      intro hphase
      cases phase with
      | failed e =>
        cases outcome with
        | error e' => exact ⟨rfl, rfl⟩
        | ok _ => exact ⟨rfl, BackfillDb.samePlace_setError e⟩
      | ended => exact ⟨rfl, rfl⟩
      | _ => cases hphase
    generalize advance outcome s.status s.db phase = next at hadvance hreturned ⊢
    obtain ⟨phase', status', db'⟩ := next
    have hlt : i < s.loops.length := (List.getElem?_eq_some_iff.mp hi).1
    -- no loop is at work that was not before
    have hsub : ∀ j, (⟨status', db', s.starting, s.loops.set i phase'⟩ : BackfillManager).ActiveAt j →
        s.ActiveAt j := by
      rintro j ⟨q, hq, hactive⟩
      dsimp only at hq
      rw [List.getElem?_set, if_pos hlt] at hq
      split_ifs at hq with hij
      · subst hij
        obtain rfl : phase' = q := some.inj hq
        refine ⟨phase, hi, ?_⟩
        by_contra hphase
        simp [(hreturned (Bool.eq_false_of_not_eq_true hphase)).1] at hactive
      · exact ⟨q, hq, hactive⟩
    refine ⟨⟨?unique, hs.starting, ?free, ?ahead⟩, hadvance.2⟩
    case unique => exact fun j k hj hk => hs.unique j k (hsub j hj) (hsub k hk)
    case free => exact fun hpos j hj => hs.free hpos j (hsub j hj)
    case ahead =>
      intro j q hq
      dsimp only at hq
      rw [List.getElem?_set, if_pos hlt] at hq
      split_ifs at hq with hij
      · obtain rfl : phase' = q := some.inj hq
        exact hadvance.1
      · -- the others have returned, or this one has and leaves the checkpoint where it is
        cases hphase : phase.active with
        | true => exact ahead_of_not_active (hs.other ⟨phase, hi, hphase⟩ hq (Ne.symm hij))
        | false => exact (hreturned hphase).2.ahead (hs.ahead j q hq)

theorem Single.spawn (hs : Single s) (hpos : s.starting ≠ 0) :
    Single { s with db := s.db.ensureCheckpoint, starting := s.starting - 1,
                    loops := s.loops ++ [.checking] } := by
  have hnone := hs.free (Nat.pos_of_ne_zero hpos)
  have hone := hs.starting
  -- every loop that was there has returned
  have hold : ∀ (i : ℕ) (phase : LoopPhase), s.loops[i]? = some phase → phase.active = false := by
    intro i phase hi
    by_contra hactive
    exact hnone i ⟨phase, hi, Bool.eq_true_of_not_eq_false hactive⟩
  have hcases : ∀ (i : ℕ) (phase : LoopPhase), (s.loops ++ [LoopPhase.checking])[i]? = some phase →
      s.loops[i]? = some phase ∨ i = s.loops.length ∧ phase = .checking := by
    intro i phase hi
    rw [getElem?_append] at hi
    split_ifs at hi with hlt
    · exact .inl hi
    · rw [getElem?_singleton] at hi
      split_ifs at hi with hzero
      · exact .inr ⟨by omega, (some.inj hi).symm⟩
  have hlast : ∀ i, (⟨s.status, s.db.ensureCheckpoint, s.starting - 1, s.loops ++ [.checking]⟩ :
      BackfillManager).ActiveAt i → i = s.loops.length := by
    rintro i ⟨phase, hi, hactive⟩
    rcases hcases i phase hi with hi | ⟨rfl, -⟩
    · simp [hold i phase hi] at hactive
    · rfl
  refine ⟨?unique, ?starting, ?free, ?ahead⟩
  case unique => exact fun i j hi hj => (hlast i hi).trans (hlast j hj).symm
  case starting =>
    dsimp only
    omega
  case free =>
    intro hpos'
    dsimp only at hpos'
    omega
  case ahead =>
    intro i phase hi
    rcases hcases i phase hi with hi | ⟨-, rfl⟩
    · exact ahead_of_not_active (hold i phase hi)
    · exact fun _ _ => trivial

theorem Single.step (hs : Single s) (o : BackfillChoice) (hok : Alone s o) :
    Single (s.step o) ∧ Forward s.db (s.step o).db := by
  cases o with
  | runBackfill =>
    simp only [BackfillManager.step]
    split_ifs with hrunning
    · exact ⟨hs, .refl _⟩
    · obtain ⟨hnone, hstarting⟩ := hok.resolve_left hrunning
      refine ⟨⟨hs.unique, ?_, fun _ => hnone, hs.ahead⟩, .refl _⟩
      dsimp only
      omega
  | spawn outcome =>
    simp only [BackfillManager.step]
    split_ifs with hzero
    · exact ⟨hs, .refl _⟩
    · cases outcome with
      | error e =>
        have hone := hs.starting
        refine ⟨⟨hs.unique, ?_, ?_, hs.ahead⟩, .refl _⟩
        · dsimp only
          omega
        · intro hpos
          dsimp only at hpos
          omega
      | ok _ => exact ⟨hs.spawn hzero, BackfillDb.forward_ensureCheckpoint⟩
  | pause outcome =>
    have hsame : BackfillDb.SamePlace s.db (s.step (.pause outcome)).db := by
      cases outcome with
      | error e => rfl
      | ok _ => exact BackfillDb.samePlace_setStatus _
    refine ⟨⟨hs.unique, hs.starting, hs.free, ?_⟩, hsame.forward⟩
    exact fun i phase hi => hsame.ahead (hs.ahead i phase hi)
  | loop i outcome => exact hs.loop i outcome
  | offers rows =>
    exact ⟨⟨hs.unique, hs.starting, hs.free, hs.ahead⟩, fun c hc => ⟨c, hc, le_rfl⟩⟩

/-! Whole runs -/

/-- A manager that has not been used, over any database. -/
def new (db : BackfillDb) : BackfillManager := ⟨.idle, db, 0, []⟩

/-- One loop at most is at work at the end of the run, and the checkpoint is not before any that was
stored during the run. -/
structure Orderly (db : BackfillDb) (steps : List BackfillChoice) : Prop where
  single : ∀ i j, (run step (new db) steps).ActiveAt i → (run step (new db) steps).ActiveAt j → i = j
  forward : ∀ before after, steps = before ++ after →
    Forward (run step (new db) before).db (run step (new db) steps).db

theorem single_new (db : BackfillDb) : Single (new db) where
  unique := by
    rintro i j ⟨phase, hphase, -⟩
    cases hphase
  starting := Nat.zero_le 1
  free := fun hpos => absurd hpos (lt_irrefl 0)
  ahead := nofun

theorem Single.run {steps : List BackfillChoice} (hs : Single s)
    (hok : StepsOk BackfillManager.step Alone s steps) :
    Single (Transition.run BackfillManager.step s steps) ∧
      Forward s.db (Transition.run BackfillManager.step s steps).db := by
  induction steps generalizing s with
  | nil => exact ⟨hs, .refl _⟩
  | cons o steps ih =>
    obtain ⟨hstep, hforward⟩ := hs.step o hok.1
    obtain ⟨hrun, hrest⟩ := ih hstep hok.2
    exact ⟨hrun, hforward.trans hrest⟩

theorem orderly (db : BackfillDb) (steps : List BackfillChoice)
    (hok : StepsOk step Alone (new db) steps) : Orderly db steps := by
  constructor
  · exact ((single_new db).run hok).1.unique
  · intro before after hsteps
    subst hsteps
    obtain ⟨hbefore, hafter⟩ := stepsOk_append.mp hok
    have hs := ((single_new db).run hbefore).1
    rw [run_append]
    exact (hs.run hafter).2

/-! Sample runs -/

namespace SampleRuns

def row (id : ℤ) : SdexRow := ⟨id, "G", 0, 1, 10 ^ 14, 1, 1, 10 ^ 14, 50, none⟩

def twoOffers : BackfillDb :=
  ⟨some ⟨0, 1, "idle", none⟩, ((∅ : HashMap ℤ SdexRow).insert 1 (row 1)).insert 2 (row 2), ∅⟩

def start : List BackfillChoice := [.runBackfill, .spawn (.ok ())]

def loops (i n : ℕ) : List BackfillChoice := List.replicate n (.loop i (.ok ()))

/-- A pause that the loop sees, and a resumption after it. -/
def pausedAndResumed : List BackfillChoice :=
  start ++ loops 0 3 ++ [.pause (.ok ())] ++ loops 0 4 ++ start ++ loops 1 3

def resumedAtOnce : List BackfillChoice := start ++ loops 0 2 ++ [.pause (.ok ())] ++ start

/-- The second loop handles both offers; then the first one stores the batch it had begun. -/
def overtaken : List BackfillChoice := resumedAtOnce ++ loops 1 12 ++ loops 0 3

end SampleRuns

open SampleRuns in
theorem orderly_pausedAndResumed : Orderly twoOffers pausedAndResumed := by
  apply orderly
  refine ⟨.inr ⟨?_, rfl⟩, trivial, trivial, trivial, trivial, trivial, trivial, trivial, trivial,
    trivial, .inr ⟨?_, rfl⟩, trivial, trivial, trivial, trivial, trivial⟩
  · rintro i ⟨phase, hphase, -⟩
    cases hphase
  · rintro i ⟨phase, hphase, hactive⟩
    -- the first loop has ended
    have hloops : (run step (new twoOffers) (pausedAndResumed.take 10)).loops = [.ended] := by
      decide
    change (run step (new twoOffers) (pausedAndResumed.take 10)).loops[i]? = some phase at hphase
    rw [hloops, getElem?_singleton] at hphase
    split_ifs at hphase
    obtain rfl : LoopPhase.ended = phase := some.inj hphase
    cases hactive

open SampleRuns in
theorem resumed_twice :
    ¬ Orderly twoOffers resumedAtOnce ∧ ¬ Orderly twoOffers (overtaken ++ [.loop 0 (.ok ())]) := by
  constructor
  · intro h
    have hzero : 0 = 1 := h.single 0 1 (map_eq_some_iff.mp (by decide))
      (map_eq_some_iff.mp (by decide))
    cases hzero
  · intro h
    have hforward := h.forward overtaken [.loop 0 (.ok ())] rfl
    obtain ⟨c', hc', hle⟩ := hforward ⟨2, 1, "running", none⟩ (by decide)
    have hback : (run step (new twoOffers) (overtaken ++ [.loop 0 (.ok ())])).db.checkpoint =
        some ⟨1, 1, "running", none⟩ := by decide
    obtain rfl : (⟨1, 1, "running", none⟩ : BackfillCheckpoint) = c' := mem_unique hback hc'
    revert hle
    decide

end BackfillManager

end StellarRoute.Indexer
