import Mathlib.Tactic
import StellarRoute.Lib.Transition
import StellarRoute.Routes.Spec.Canary

/-! When the canary is switched off. A task decides with the configuration that it has read and with
the evaluations of the history, which outlive the configurations that they were made under, and then
switches off the configuration that is installed. Where a task is done before its configuration is
replaced, and the newest evaluation is no violation when a configuration is installed, the canary is
switched off after as many violations as its own configuration says. -/

namespace StellarRoute.Routes.Canary

open Lib Transition List

/-- The number of violations at which the installed configuration is switched off. -/
def threshold (s : Canary) : ℕ := s.config.rollbackTriggerThreshold.toNat

/-- As many evaluations as the threshold says, the newest ones, are violations, and were made under
the installed configuration. -/
def Triggered (s : Canary) : Prop :=
  s.threshold ≤ s.log.length ∧
    ∀ e ∈ s.log.take s.threshold, e.1.isViolation = true ∧ e.2 = s.version

/-- The configuration that the task has read, or decided with, is the installed one. -/
def Current (s : Canary) (i : ℕ) : Prop :=
  match s.tasks[i]? with
  | some (.evaluating _ version) | some (.switching version) => version = s.version
  | _ => True

/-- The history can hold as many evaluations as the threshold says, and no violation of another
configuration is counted. -/
def Installable (s : Canary) (config : CanaryConfig) : Prop :=
  0 < config.rollbackTriggerThreshold.toNat ∧
    config.rollbackTriggerThreshold.toNat ≤ historyCapacity ∧
    (config.rollbackTriggerThreshold = 1 ∨ ∀ e ∈ s.history.getLast?, e.isViolation = false)

def Orderly (s : Canary) : CanaryChoice → Prop
  | .record i _ | .switchOff i => s.Current i
  | .updateConfig config => s.Installable config
  | _ => True

instance (s : Canary) : Decidable s.Triggered := inferInstanceAs (Decidable (_ ∧ ∀ _ ∈ _, _))

instance (s : Canary) (i : ℕ) : Decidable (s.Current i) :=
  match h : s.tasks[i]? with
  | some (.evaluating _ version) =>
    decidable_of_iff (version = s.version) (by simp only [Current, h])
  | some (.switching version) => decidable_of_iff (version = s.version) (by simp only [Current, h])
  | some .spawned | some .ended | none => .isTrue (by simp only [Current, h])

instance (s : Canary) (config : CanaryConfig) : Decidable (s.Installable config) :=
  inferInstanceAs (Decidable (_ ∧ _ ∧ (_ ∨ ∀ _ ∈ _, _)))

instance (s : Canary) : (c : CanaryChoice) → Decidable (s.Orderly c)
  | .record i _ | .switchOff i => inferInstanceAs (Decidable (s.Current i))
  | .updateConfig config => inferInstanceAs (Decidable (s.Installable config))
  | .request | .read _ _ => inferInstanceAs (Decidable True)

/-! The invariant -/

/-- A task with the installed configuration has its threshold, and switches off only what is
triggered. -/
def Lawful (s : Canary) : CanaryTask → Prop
  | .evaluating config version => version ≤ s.version ∧
    (version = s.version → config.rollbackTriggerThreshold = s.config.rollbackTriggerThreshold)
  | .switching version => version ≤ s.version ∧ (version = s.version → s.Triggered)
  | _ => True

structure Sound (s : Canary) : Prop where
  keeps : BoundedQueue.Keeps historyCapacity s.history (s.log.map Prod.fst)
  positive : 0 < s.threshold
  fits : s.threshold ≤ historyCapacity
  past : ∀ e ∈ s.log, e.2 ≤ s.version
  /-- the violations since the last evaluation that is none are of the installed configuration -/
  own : s.threshold = 1 ∨ ∀ n, (∀ e ∈ s.log.take n, e.1.isViolation = true) →
    ∀ e ∈ s.log.take n, e.2 = s.version
  lawful : ∀ task ∈ s.tasks, s.Lawful task
  off : s.Triggered → s.config.enabled = false ∨ ∃ version, .switching version ∈ s.tasks

theorem sound_new : Sound new where
  keeps := BoundedQueue.keeps_nil
  positive := by decide
  fits := by decide
  past := nofun
  own := .inr fun n _ e he => by rw [new, take_nil] at he; cases he
  lawful := nofun
  off := fun h => absurd h.1 (by decide)

variable {s : Canary} {i : ℕ}

theorem historyHeld_iff : s.historyHeld = true ↔ ∃ version, .switching version ∈ s.tasks := by
  unfold historyHeld
  rw [any_eq_true]
  constructor
  · rintro ⟨task, hmem, htask⟩
    split at htask
    · exact ⟨_, hmem⟩
    · cases htask
  · rintro ⟨version, hmem⟩
    exact ⟨_, hmem, rfl⟩

theorem Sound.withTasks (h : Sound s) {tasks : List CanaryTask}
    (hlawful : ∀ task ∈ tasks, task ∈ s.tasks ∨ s.Lawful task)
    (hkept : ∀ version, .switching version ∈ s.tasks → .switching version ∈ tasks) :
    Sound { s with tasks := tasks } where
  keeps := h.keeps
  positive := h.positive
  fits := h.fits
  past := h.past
  own := h.own
  lawful := fun task hmem => (hlawful task hmem).elim (h.lawful task) id
  off := fun htrig => (h.off htrig).imp_right fun ⟨version, hmem⟩ => ⟨version, hkept version hmem⟩

/-- A task that ends, or reads the configuration, is replaced by one that does not hold the history. -/
theorem Sound.set (h : Sound s) {old task : CanaryTask} (hget : s.tasks[i]? = some old)
    (hold : ∀ version, old ≠ .switching version) (htask : s.Lawful task) :
    Sound { s with tasks := s.tasks.set i task } := by
  apply h.withTasks
  · intro task' hmem
    apply (mem_or_eq_of_mem_set hmem).imp_right
    rintro rfl
    exact htask
  · intro version hmem
    obtain ⟨j, hj⟩ := mem_iff_getElem?.mp hmem
    have hne : i ≠ j := by
      rintro rfl
      exact hold version (Option.mem_unique hget hj)
    apply mem_of_getElem? (i := j)
    rw [getElem?_set_ne hne]
    exact hj

theorem Sound.request (h : Sound s) : Sound { s with tasks := s.tasks ++ [.spawned] } := by
  apply h.withTasks
  · intro task hmem
    apply (mem_append.mp hmem).imp_right
    intro hmem
    rw [mem_singleton.mp hmem]
    trivial
  · intro version hmem
    exact mem_append_left _ hmem

variable {config : CanaryConfig} {c : CanaryChoice}

theorem Sound.updateConfig (h : Sound s) (hok : s.Installable config) :
    Sound (s.updateConfig config) where
  keeps := h.keeps
  positive := hok.1
  fits := hok.2.1
  past := fun e he => (h.past e he).trans (Nat.le_succ _)
  own := by
    rcases hok.2.2 with hone | hlast
    · left
      change config.rollbackTriggerThreshold.toNat = 1
      rw [hone]
      rfl
    · right
      rw [h.keeps.getLast? (by decide)] at hlast
      intro n hall e he
      change e ∈ s.log.take n at he
      change ∀ e ∈ s.log.take n, _ at hall
      cases hlog : s.log with
      | nil =>
        simp [hlog, take_nil] at he
      | cons first rest =>
        rw [hlog] at hall he hlast
        cases n with
        | zero => cases he
        | succ n =>
          have hviolation := hall first mem_cons_self
          simp [hlast first.1 rfl] at hviolation
  lawful := by
    -- no task has the new version
    have hnew : ∀ version ≤ s.version, version ≠ s.version + 1 := by omega
    intro task hmem
    have htask := h.lawful task hmem
    cases task with
    | evaluating _ version | switching version =>
      exact ⟨htask.1.trans (Nat.le_succ _), fun heq => absurd heq (hnew version htask.1)⟩
    | spawned | ended => trivial
  off := by
    rintro ⟨hlength, hall⟩
    have hpos : 0 < (s.updateConfig config).threshold := hok.1
    exfalso
    generalize (s.updateConfig config).threshold = n at hlength hall hpos
    change n ≤ s.log.length at hlength
    change ∀ e ∈ s.log.take n, _ ∧ e.2 = s.version + 1 at hall
    cases hlog : s.log with
    | nil =>
      rw [hlog, length_nil] at hlength
      omega
    | cons first rest =>
      obtain ⟨k, rfl⟩ := Nat.exists_eq_succ_of_ne_zero hpos.ne'
      rw [hlog] at hall
      have hnew := (hall first mem_cons_self).2
      have hold := h.past first (by rw [hlog]; exact mem_cons_self)
      omega

/-- The configuration only changes in being off. -/
theorem Sound.switchOff (h : Sound s) : Sound (s.switchOff i) where
  keeps := h.keeps
  positive := h.positive
  fits := h.fits
  past := h.past
  own := h.own
  lawful := by
    intro task hmem
    rcases mem_or_eq_of_mem_set hmem with hmem | rfl
    · exact h.lawful task hmem
    · trivial
  off := fun _ => .inl rfl

/-- The count reaches a threshold that the history can hold when the newest evaluations are all
violations. -/
theorem le_recentViolations_iff {n : ℕ} {history : List CanaryEvaluation}
    {log : List (CanaryEvaluation × ℕ)}
    (hkeeps : BoundedQueue.Keeps historyCapacity history (log.map Prod.fst))
    (hn : n ≤ historyCapacity) :
    n ≤ recentViolations n history ↔
      n ≤ log.length ∧ ∀ e ∈ log.take n, e.1.isViolation = true := by
  rw [recentViolations, hkeeps.recent hn, ← map_take]
  have hlength : ((log.take n).map Prod.fst).length = min n log.length := by
    rw [length_map, length_take]
  have hle := length_filter_le (fun e : CanaryEvaluation => e.isViolation)
    ((log.take n).map Prod.fst)
  have hall := length_filter_eq_length_iff (p := fun e : CanaryEvaluation => e.isViolation)
    (l := (log.take n).map Prod.fst)
  rw [forall_mem_map] at hall
  constructor
  · intro hcount
    exact ⟨by omega, hall.mp (by omega)⟩
  · rintro ⟨hlog, hviolations⟩
    have := hall.mpr hviolations
    omega

theorem Sound.record (h : Sound s) (hfree : s.historyHeld = false)
    (hget : s.tasks[i]? = some (.evaluating config s.version)) (evaluation : CanaryEvaluation) :
    Sound (s.record i s.version config evaluation) := by
  have hconfig : config.rollbackTriggerThreshold = s.config.rollbackTriggerThreshold :=
    (h.lawful _ (List.mem_of_getElem? hget)).2 rfl
  have hnone : ∀ version, .switching version ∉ s.tasks := by
    intro version hswitching
    have hheld := historyHeld_iff.mpr ⟨version, hswitching⟩
    simp [hfree] at hheld
  have hkeeps := h.keeps.push (by decide) evaluation
  rw [← List.map_cons (f := Prod.fst) (a := (evaluation, s.version))] at hkeeps
  have hown : s.threshold = 1 ∨ ∀ n,
      (∀ e ∈ ((evaluation, s.version) :: s.log).take n, e.1.isViolation = true) →
      ∀ e ∈ ((evaluation, s.version) :: s.log).take n, e.2 = s.version := by
    refine h.own.imp_right fun hown n hall e he => ?_
    cases n with
    | zero => cases he
    | succ n =>
      rw [List.take_succ_cons] at hall he
      rcases List.mem_cons.mp he with rfl | he
      · rfl
      · exact hown n (fun e he => hall e (List.mem_cons_of_mem _ he)) e he
  -- the task goes on to switch the canary off exactly when the threshold is reached
  have htriggered : (evaluation.isViolation = true ∧
      config.rollbackTriggerThreshold.toNat ≤ recentViolations
        config.rollbackTriggerThreshold.toNat
        (BoundedQueue.push historyCapacity s.history evaluation)) ↔
      (s.record i s.version config evaluation).Triggered := by
    rw [hconfig]
    change (_ ∧ s.threshold ≤ recentViolations s.threshold _) ↔
      s.threshold ≤ ((evaluation, s.version) :: s.log).length ∧
        ∀ e ∈ ((evaluation, s.version) :: s.log).take s.threshold, _ ∧ e.2 = s.version
    rw [le_recentViolations_iff hkeeps h.fits]
    obtain ⟨k, hk⟩ := Nat.exists_eq_succ_of_ne_zero h.positive.ne'
    constructor
    · rintro ⟨-, hlength, hall⟩
      refine ⟨hlength, fun e he => ⟨hall e he, ?_⟩⟩
      rcases hown with hone | hown
      · rw [hone, List.take_succ_cons, List.take_zero, List.mem_singleton] at he
        rw [he]
      · exact hown _ hall e he
    · rintro ⟨hlength, hall⟩
      refine ⟨?_, hlength, fun e he => (hall e he).1⟩
      refine (hall (evaluation, s.version) ?_).1
      rw [hk, List.take_succ_cons]
      exact List.mem_cons_self
  exact {
    keeps := hkeeps
    positive := h.positive
    fits := h.fits
    past := by
      intro e he
      rcases List.mem_cons.mp he with rfl | he
      · exact le_rfl
      · exact h.past e he
    own := hown
    lawful := by
      intro task hmem
      rcases List.mem_or_eq_of_mem_set hmem with hmem | rfl
      · have htask := h.lawful task hmem
        cases task with
        | switching version => exact absurd hmem (hnone version)
        | evaluating _ _ | spawned | ended => exact htask
      · split_ifs with hreached
        · exact ⟨le_rfl, fun _ => htriggered.mp hreached⟩
        · trivial
    off := by
      intro htrig
      obtain ⟨hi, -⟩ := List.getElem?_eq_some_iff.mp hget
      refine .inr ⟨s.version, List.mem_of_getElem? (i := i) ?_⟩
      change (s.tasks.set i (if _ then _ else _))[i]? = _
      rw [if_pos (htriggered.mpr htrig), List.getElem?_set_self hi] }

theorem Sound.step (drift : ℤ → ℤ → ℤ) (h : Sound s) (hok : s.Orderly c) :
    Sound (s.step drift c) := by
  cases c with
  | request => exact h.request
  | read i rate =>
    simp only [Canary.step]
    split
    · next hget =>
      unfold Canary.read
      split_ifs
      · exact h.set hget nofun trivial
      · exact h.set hget nofun ⟨le_rfl, fun _ => rfl⟩
    · exact h
  | record i comparison =>
    simp only [Canary.step]
    split
    · next hget => exact h.set hget nofun trivial
    · next config version comparison hget =>
      split_ifs with hheld
      · exact h
      · have hcurrent : s.Current i := hok
        rw [Current, hget] at hcurrent
        dsimp only at hcurrent
        subst hcurrent
        exact h.record (Bool.eq_false_iff.mpr hheld) hget _
    · exact h
  | switchOff i =>
    simp only [Canary.step]
    split
    · exact h.switchOff
    · exact h
  | updateConfig config => exact h.updateConfig hok

theorem step_switches_off {drift : ℤ → ℤ → ℤ} (hon : s.config.enabled = true)
    (hoff : (s.step drift c).config.enabled = false) : (∃ config, c = .updateConfig config) ∨
      ∃ i version, c = .switchOff i ∧ s.tasks[i]? = some (.switching version) := by
  have hsame : ∀ s' : Canary, s'.config.enabled = false → s'.config = s.config → False := by
    intro s' hoff' heq
    simp [heq, hon] at hoff'
  cases c with
  | request => exact (hsame _ hoff rfl).elim
  | read i rate =>
    refine (hsame _ hoff ?_).elim
    simp only [Canary.step]
    split
    · unfold Canary.read
      split_ifs
      · rfl
      · rfl
    · rfl
  | record i comparison =>
    refine (hsame _ hoff ?_).elim
    simp only [Canary.step]
    split
    · rfl
    · split_ifs
      · rfl
      · rfl
    · rfl
  | switchOff i =>
    simp only [Canary.step] at hoff
    split at hoff
    · next version hget => exact .inr ⟨i, version, rfl, hget⟩
    · exact (hsame _ hoff rfl).elim
  | updateConfig config => exact .inl ⟨config, rfl⟩

/-- A canary whose newest evaluations are violations is off, or a task is about to switch it off; and
nothing but an update or such evaluations switches it off. -/
theorem rollback_exact (drift : ℤ → ℤ → ℤ) (choices : List CanaryChoice)
    (hok : StepsOk (step drift) Orderly new choices) :
    ((run (step drift) new choices).Triggered →
      (run (step drift) new choices).config.enabled = false ∨
        ∃ i, ((run (step drift) new choices).step drift (.switchOff i)).config.enabled = false) ∧
    ∀ c, (run (step drift) new choices).Orderly c →
      (run (step drift) new choices).config.enabled = true →
      ((run (step drift) new choices).step drift c).config.enabled = false →
      (∃ config, c = .updateConfig config) ∨ (run (step drift) new choices).Triggered := by
  have h : Sound (run (step drift) new choices) :=
    run_inv_of_ok (fun _ _ h hok => h.step drift hok) sound_new hok
  generalize run (step drift) new choices = s at h ⊢
  constructor
  · intro htrig
    apply (h.off htrig).imp_right
    rintro ⟨version, hmem⟩
    obtain ⟨i, hi⟩ := mem_iff_getElem?.mp hmem
    refine ⟨i, ?_⟩
    simp only [Canary.step, hi]
    rfl
  · intro c hc hon hoff
    apply (step_switches_off hon hoff).imp_right
    rintro ⟨i, version, rfl, hget⟩
    have hcurrent : s.Current i := hc
    rw [Current, hget] at hcurrent
    exact (h.lawful _ (mem_of_getElem? hget)).2 hcurrent

/-! Sample runs -/

namespace Sample

/-- A canary that is on and evaluates every request. -/
def enabledAt (threshold : UInt32) : CanaryConfig :=
  { CanaryConfig.default with
    enabled := true, rollbackTriggerThreshold := threshold, evaluationRate := ⟨0x3FF0000000000000⟩ }

/-- The weights are 0.4, 0.3 and 0.3. -/
def testing : Routing.OptimizerPolicy :=
  ⟨⟨0x3FD999999999999A⟩, ⟨0x3FD3333333333333⟩, ⟨0x3FD3333333333333⟩, 400, 2000, "testing", none⟩

def found (ms : UInt64) : Routing.OptimizerDiagnostics :=
  ⟨⟨[], 1000⟩, ⟨1000, 0, 0, 0, .zero⟩, [], testing, ms, []⟩

/-- A candidate that takes 100 ms more than the baseline. -/
def slow : Comparison := ⟨found 10, found 110, "XLM", "USDC", 1000, 0⟩

def drift (baseline candidate : ℤ) : ℤ := (baseline - candidate) * 10000 / baseline

/-- The `i`th task evaluates the slow candidate. -/
def violation (i : ℕ) : List CanaryChoice := [.request, .read i .zero, .record i (some slow)]

def twice : List CanaryChoice := .updateConfig (enabledAt 2) :: violation 0 ++ violation 1

/-- The configuration is installed again between the two. -/
def reinstalled : List CanaryChoice :=
  .updateConfig (enabledAt 2) :: violation 0 ++ .updateConfig (enabledAt 2) :: violation 1

/-- The configuration is replaced while an evaluation is under way. -/
def replaced : List CanaryChoice :=
  [.updateConfig (enabledAt 1), .request, .read 0 .zero, .updateConfig (enabledAt 1), .record 0
      (some slow)]

end Sample

open Sample in
/-- Two violations switch off a canary with the threshold 2. -/
theorem rollback_exact_twice : (run (step drift) new twice).Triggered ∧
    ((run (step drift) new twice).config.enabled = false ∨
      ∃ i, ((run (step drift) new twice).step drift (.switchOff i)).config.enabled = false) :=
  have htriggered : (run (step drift) new twice).Triggered := by decide
  ⟨htriggered, (rollback_exact drift twice (by decide)).1 htriggered⟩

open Sample in
/-- A task switches off a configuration under which there was one violation of two, and one under
which nothing was evaluated. -/
theorem switched_off_early :
    ((run (step drift) new reinstalled).config = enabledAt 2 ∧
      ((run (step drift) new reinstalled).step drift (.switchOff 1)).config.enabled = false ∧
      ¬ (run (step drift) new reinstalled).Triggered) ∧
    (run (step drift) new replaced).config = enabledAt 1 ∧
      ((run (step drift) new replaced).step drift (.switchOff 0)).config.enabled = false ∧
      ¬ (run (step drift) new replaced).Triggered := by
  decide

end StellarRoute.Routes.Canary
