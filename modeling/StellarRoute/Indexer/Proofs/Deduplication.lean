import Mathlib.Tactic
import StellarRoute.Lib.Transition
import StellarRoute.Indexer.Spec.Deduplication

/-! Exactly-once handling. `check` and `mark_processing` are two critical sections, so two consumers
can both be told that an event is new; and a clean-up forgets an event that is being processed for
longer than the window, or for which there is no room. Where no consumer checks a key that another
one is about to mark, and no clean-up does that, a key has one consumer at a time, and it stays
completed for the window. -/

namespace StellarRoute.Indexer

open Lib Transition EventDeduplicator Option

/-- The key of the event that a consumer has been told to handle and has not finished. -/
def ConsumerPhase.engaged : ConsumerPhase → Option IdempotencyKey
  | .checked e | .processing e => some e.key
  | _ => none

namespace EventDeduplicator

variable {d : EventDeduplicator} {k key : IdempotencyKey} {now : ℤ}

theorem lookup_markProcessing (sequence : UInt64) :
    (d.markProcessing key sequence now).processed.lookup k =
      if k = key then some ⟨key, .processing, sequence, now, 0⟩ else d.processed.lookup k :=
  HashMap.lookup_insert_eq _ _ _ _

theorem lookup_modify (f : ProcessedEvent → ProcessedEvent) :
    (d.modify key f).processed.lookup k =
      if k = key then (d.processed.lookup key).map f else d.processed.lookup k := by
  unfold modify
  cases hkey : d.processed.lookup key with
  | none =>
    split_ifs with hk
    · rw [hk, hkey, map_none]
    · rfl
  | some event => exact HashMap.lookup_insert_eq _ _ _ _

@[simp] theorem config_modify (f : ProcessedEvent → ProcessedEvent) :
    (d.modify key f).config = d.config := by
  unfold modify
  split
  · rfl
  · rfl

/-- Without more entries than there is room for, only the expired ones are removed. -/
theorem lookup_cleanupExpired {order : List IdempotencyKey}
    (hroom : (d.processed.retain fun _ event =>
      decide (now - d.config.window < event.processedAt)).entries.length ≤ d.config.maxEntries) :
    (d.cleanupExpired order now).processed.lookup k =
      (d.processed.lookup k).filter fun event => decide (now - d.config.window < event.processedAt) := by
  unfold cleanupExpired
  dsimp only
  rw [if_neg (by omega)]
  exact HashMap.lookup_retain _ _ _

end EventDeduplicator

namespace Consumers

variable {s : Consumers} {o : DedupStep} {c c' : ℕ}

@[simp] theorem enter_dedup (p : ConsumerPhase) (d : EventDeduplicator) :
    (s.enter c p d).dedup = d := rfl

theorem enter_phase (p : ConsumerPhase) (d : EventDeduplicator) :
    (s.enter c p d).phase c' = if c' = c then p else s.phase c' :=
  Function.update_apply _ _ _ _

/-- No consumer is about to mark the key that is checked; a clean-up finds no event in processing
that has expired, and room for those that have not. -/
def Undisturbed (s : Consumers) (o : DedupStep) : Prop :=
  match o.choice with
  | .check _ e => ∀ c e', s.phase c = .checked e' → e'.key ≠ e.key
  | .cleanupExpired _ =>
    (∀ c e, s.phase c = .processing e → ∀ event, s.dedup.processed.lookup e.key = some event →
      o.now - s.dedup.config.window < event.processedAt) ∧
    (s.dedup.processed.retain fun _ event =>
      decide (o.now - s.dedup.config.window < event.processedAt)).entries.length ≤
        s.dedup.config.maxEntries
  | _ => True

/-- A key has one consumer, and its entry says so from `mark_processing` on. -/
structure Exclusive (s : Consumers) : Prop where
  unique : ∀ c c' k, (s.phase c).engaged = some k → (s.phase c').engaged = some k → c = c'
  marked : ∀ c e, s.phase c = .processing e → ∃ event,
    s.dedup.processed.lookup e.key = some event ∧ event.status = .processing

variable {p : ConsumerPhase} {e : StreamEvent}

section

variable (hs : Exclusive s)
include hs

theorem Exclusive.unique_enter {d : EventDeduplicator}
    (hp : p.engaged = none ∨ p.engaged = (s.phase c).engaged) :
    ∀ a b k, ((s.enter c p d).phase a).engaged = some k → ((s.enter c p d).phase b).engaged = some k →
      a = b := by
  have hold : ∀ a k, ((s.enter c p d).phase a).engaged = some k → (s.phase a).engaged = some k := by
    intro a k ha
    rw [enter_phase] at ha
    split_ifs at ha with hac
    · subst hac
      rcases hp with hp | hp
      · simp [hp] at ha
      · rwa [hp] at ha
    · exact ha
  intro a b k ha hb
  exact hs.unique a b k (hold a k ha) (hold b k hb)

/-- An entry of a consumer that is not moved: its key is not that of the consumer that is. -/
theorem Exclusive.key_ne {e' : StreamEvent} (hne : c' ≠ c)
    (hc : (s.phase c).engaged = some e.key) (hc' : s.phase c' = .processing e') :
    e'.key ≠ e.key := by
  intro hkey
  apply hne
  apply hs.unique c' c e.key
  · rw [hc']
    exact congrArg some hkey
  · exact hc

theorem Exclusive.check (hcheck : s.dedup.check e.key ≠ .duplicate)
    (halone : ∀ c e', s.phase c = .checked e' → e'.key ≠ e.key) :
    Exclusive (s.enter c (.checked e) s.dedup) := by
  have hfree : ∀ a, (s.phase a).engaged ≠ some e.key := by
    intro a ha
    cases hphase : s.phase a with
    | idle | completing e' => rw [hphase] at ha; cases ha
    | checked e' =>
      rw [hphase] at ha
      exact halone a e' hphase (some.inj ha)
    | processing e' =>
      rw [hphase] at ha
      obtain ⟨event, hlookup, hstatus⟩ := hs.marked a e' hphase
      rw [some.inj ha] at hlookup
      exact hcheck (by simp only [EventDeduplicator.check, hlookup, hstatus])
  constructor
  · intro a b k ha hb
    rw [enter_phase] at ha hb
    split_ifs at ha hb with hac hbc hbc
    · rw [hac, hbc]
    · obtain rfl : e.key = k := some.inj ha
      exact absurd hb (hfree b)
    · obtain rfl : e.key = k := some.inj hb
      exact absurd ha (hfree a)
    · exact hs.unique a b k ha hb
  · intro a e' ha
    rw [enter_phase] at ha
    split_ifs at ha with hac
    exact hs.marked a e' ha

theorem Exclusive.markProcessing (hc : s.phase c = .checked e) (now : ℤ) :
    Exclusive (s.enter c (.processing e) (s.dedup.markProcessing e.key e.sequence now)) := by
  have hengaged : (s.phase c).engaged = some e.key := by rw [hc]; rfl
  constructor
  · exact hs.unique_enter (.inr hengaged.symm)
  · intro a e' ha
    rw [enter_phase] at ha
    rw [enter_dedup, lookup_markProcessing]
    split_ifs at ha with hac
    · obtain rfl : e = e' := ConsumerPhase.processing.inj ha
      rw [if_pos rfl]
      exact ⟨_, rfl, rfl⟩
    · rw [if_neg (hs.key_ne hac hengaged ha)]
      exact hs.marked a e' ha

end

theorem Exclusive.step (hs : Exclusive s) (hok : Undisturbed s o) : Exclusive (s.step o) := by
  obtain ⟨choice, now⟩ := o
  unfold Consumers.step
  cases choice with
  | check c e =>
    dsimp only
    split_ifs with hcheck
    · exact hs.check hcheck.2 hok
    · exact hs
  | markProcessing c =>
    dsimp only
    split
    · next e hc => exact hs.markProcessing hc now
    · exact hs
  | markCompleted c | markFailed c =>
    dsimp only
    split
    · next e hc =>
      have hengaged : (s.phase c).engaged = some e.key := by rw [hc]; rfl
      refine ⟨hs.unique_enter (.inl rfl), fun a e' ha => ?_⟩
      rw [enter_phase] at ha
      split_ifs at ha with hac
      simp only [enter_dedup, markCompleted, markFailed, lookup_modify,
        if_neg (hs.key_ne hac hengaged ha)]
      exact hs.marked a e' ha
    · exact hs
  | advanceStream c =>
    dsimp only
    split
    · next e hc =>
      refine ⟨hs.unique_enter (.inl rfl), fun a e' ha => ?_⟩
      rw [enter_phase] at ha
      split_ifs at ha with hac
      exact hs.marked a e' ha
    · exact hs
  | cleanupExpired order =>
    refine ⟨hs.unique, fun a e ha => ?_⟩
    obtain ⟨event, hlookup, hstatus⟩ := hs.marked a e ha
    refine ⟨event, ?_, hstatus⟩
    rw [lookup_cleanupExpired hok.2, hlookup, filter_some,
      if_pos (decide_eq_true (hok.1 a e ha event hlookup))]

theorem step_config (s : Consumers) (o : DedupStep) : (s.step o).dedup.config = s.dedup.config := by
  obtain ⟨choice, now⟩ := o
  unfold Consumers.step
  cases choice with
  | check c e => dsimp only; split_ifs <;> rfl
  | markProcessing c | advanceStream c => dsimp only; split <;> rfl
  | cleanupExpired order =>
    unfold cleanupExpired
    dsimp only
    split_ifs
    · rfl
    · rfl
  | markCompleted c | markFailed c =>
    dsimp only
    split
    · exact config_modify _
    · rfl

/-! A completed key -/

/-- The key was completed at `t` and nobody has been told to handle it. -/
structure Settled (s : Consumers) (k : IdempotencyKey) (t : ℤ) : Prop where
  entry : ∃ event, s.dedup.processed.lookup k = some event ∧ event.status = .completed ∧
    event.processedAt = t
  free : ∀ c, (s.phase c).engaged ≠ some k

variable {k : IdempotencyKey} {t : ℤ}

theorem Settled.check (hs : Settled s k t) : s.dedup.check k = .duplicate := by
  obtain ⟨event, hlookup, hstatus, -⟩ := hs.entry
  simp only [EventDeduplicator.check, hlookup, hstatus]

theorem Settled.enter (hs : Settled s k t) {d : EventDeduplicator} (hp : p.engaged ≠ some k)
    (hd : d.processed.lookup k = s.dedup.processed.lookup k) : Settled (s.enter c p d) k t := by
  constructor
  · rw [enter_dedup, hd]
    exact hs.entry
  · intro a
    rw [enter_phase]
    split_ifs
    · exact hp
    · exact hs.free a

theorem Settled.step (hs : Settled s k t) (hok : Undisturbed s o)
    (hnow : o.now < t + s.dedup.config.window) : Settled (s.step o) k t := by
  -- a consumer of an event has another key
  have hother : ∀ {c : ℕ} {e : StreamEvent}, (s.phase c).engaged = some e.key → k ≠ e.key := by
    intro c e hc hk
    exact hs.free c (hk ▸ hc)
  obtain ⟨choice, now⟩ := o
  unfold Consumers.step
  cases choice with
  | check c e =>
    dsimp only
    split_ifs with hcheck
    · apply hs.enter
      · intro hk
        apply hcheck.2
        rw [some.inj hk]
        exact hs.check
      · rfl
    · exact hs
  | markProcessing c =>
    dsimp only
    split
    · next e hc =>
      have hne : k ≠ e.key := hother (by rw [hc]; rfl)
      apply hs.enter
      · exact fun hk => hne (some.inj hk).symm
      · rw [lookup_markProcessing, if_neg hne]
    · exact hs
  | markCompleted c | markFailed c =>
    dsimp only
    split
    · next e hc =>
      have hne : k ≠ e.key := hother (by rw [hc]; rfl)
      apply hs.enter
      · exact nofun
      · simp only [markCompleted, markFailed,
          lookup_modify, if_neg hne]
    · exact hs
  | advanceStream c =>
    dsimp only
    split
    · apply hs.enter
      · exact nofun
      · rfl
    · exact hs
  | cleanupExpired order =>
    refine ⟨?_, hs.free⟩
    obtain ⟨event, hlookup, hstatus, htime⟩ := hs.entry
    refine ⟨event, ?_, hstatus, htime⟩
    have hfresh : now - s.dedup.config.window < event.processedAt := by
      rw [htime]
      dsimp only at hnow
      omega
    rw [lookup_cleanupExpired hok.2, hlookup, filter_some,
      if_pos (decide_eq_true hfresh)]

/-- The consumer that completes an event was the only one of its key. -/
theorem Exclusive.settled (hs : Exclusive s) (hc : s.phase c = .processing e) (now : ℤ) :
    Settled (s.step ⟨.markCompleted c, now⟩) e.key now := by
  have hengaged : (s.phase c).engaged = some e.key := by rw [hc]; rfl
  simp only [Consumers.step, hc]
  constructor
  · obtain ⟨event, hlookup, -⟩ := hs.marked c e hc
    rw [enter_dedup, markCompleted, lookup_modify, if_pos rfl,
      hlookup]
    exact ⟨_, rfl, rfl, rfl⟩
  · intro a ha
    rw [enter_phase] at ha
    split_ifs at ha with hac
    · cases ha
    · exact hac (hs.unique a c e.key ha hengaged)

/-! Whole runs -/

/-- At the end of the run no key is being processed by two consumers, and a key is a duplicate if it
was completed and the window is not over since. -/
structure ExactlyOnce (dedup : EventDeduplicator) (steps : List DedupStep) : Prop where
  alone : ∀ c c' e e', (run step (start dedup) steps).phase c = .processing e →
    (run step (start dedup) steps).phase c' = .processing e' → e.key = e'.key → c = c'
  once : ∀ before after c e now, steps = before ++ ⟨.markCompleted c, now⟩ :: after →
    (run step (start dedup) before).phase c = .processing e →
    (∀ o ∈ after, o.now < now + dedup.config.window) →
    (run step (start dedup) steps).dedup.check e.key = .duplicate

theorem exclusive_start (dedup : EventDeduplicator) : Exclusive (start dedup) where
  unique := nofun
  marked := nofun

theorem run_config (s : Consumers) (steps : List DedupStep) :
    (run step s steps).dedup.config = s.dedup.config := by
  induction steps generalizing s with
  | nil => rfl
  | cons o steps ih => rw [run_cons, ih, step_config]

theorem Settled.run {steps : List DedupStep} (hs : Settled s k t)
    (hok : StepsOk Consumers.step Undisturbed s steps)
    (hnow : ∀ o ∈ steps, o.now < t + s.dedup.config.window) :
    Settled (Transition.run Consumers.step s steps) k t := by
  induction steps generalizing s with
  | nil => exact hs
  | cons o steps ih =>
    rw [run_cons]
    apply ih
    · exact hs.step hok.1 (hnow o (by simp))
    · exact hok.2
    · intro o' ho'
      rw [step_config]
      exact hnow o' (by simp [ho'])

theorem exactly_once (dedup : EventDeduplicator) (steps : List DedupStep)
    (hok : StepsOk step Undisturbed (start dedup) steps) : ExactlyOnce dedup steps := by
  have hstep : ∀ s o, Exclusive s → Undisturbed s o → Exclusive (step s o) :=
    fun _ _ hs ho => hs.step ho
  constructor
  · intro c c' e e' hc hc' hkey
    have hs := run_inv_of_ok hstep (exclusive_start dedup) hok
    apply hs.unique c c' e.key
    · rw [hc]
      rfl
    · rw [hc', hkey]
      rfl
  · rintro before after c e now rfl hc hnow
    obtain ⟨hbefore, -, hafter⟩ := stepsOk_append.mp hok
    have hs := run_inv_of_ok hstep (exclusive_start dedup) hbefore
    rw [run_append, run_cons]
    apply Settled.check
    · apply (hs.settled hc now).run hafter
      intro o ho
      rw [step_config, run_config]
      exact hnow o ho

/-! Sample runs, a second a step -/

namespace SampleRuns

def event : StreamEvent := ⟨⟨"horizon", "7"⟩, "horizon", 7⟩

def second (n : ℤ) (choice : DedupChoice) : DedupStep := ⟨choice, n * 10 ^ 9⟩

/-- An event is handled, and then comes again. -/
def handled : List DedupStep :=
  [second 0 (.check 0 event), second 1 (.markProcessing 0), second 2 (.markCompleted 0),
    second 3 (.advanceStream 0), second 4 (.check 1 event)]

/-- Two consumers check an event before one of them marks it. -/
def bothChecked : List DedupStep :=
  [second 0 (.check 0 event), second 0 (.check 1 event), second 1 (.markProcessing 0),
    second 1 (.markProcessing 1)]

/-- The first of them completes the event, and the second one fails. -/
def completedThenFailed : List DedupStep :=
  bothChecked ++ [second 2 (.markCompleted 0), second 3 (.markFailed 1)]

end SampleRuns

open SampleRuns in
theorem exactly_once_handled : ExactlyOnce (.new .default) handled := by
  apply exactly_once
  refine ⟨nofun, trivial, trivial, trivial, ?_, trivial⟩
  intro c e' hc
  -- by then nobody is at work
  have hidle : (run step (start (.new .default)) (handled.take 4)).phase c = .idle := by
    cases c with
    | zero => rfl
    | succ c => rfl
  change (run step (start (.new .default)) (handled.take 4)).phase c = .checked e' at hc
  simp [hidle] at hc

open SampleRuns in
theorem handled_twice :
    ¬ ExactlyOnce (.new .default) bothChecked ∧ ¬ ExactlyOnce (.new .default) completedThenFailed := by
  constructor
  · intro h
    have hzero : 0 = 1 := h.alone 0 1 event event (by decide) (by decide) rfl
    cases hzero
  · intro h
    have hdup := h.once bothChecked [second 3 (.markFailed 1)] 0 event _ rfl (by decide)
      (by decide)
    revert hdup
    decide

end Consumers

end StellarRoute.Indexer
