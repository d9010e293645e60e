import StellarRoute.Http.Spec.RateLimit

/-! The queue of the limiter of a connection is what was accepted less than a window ago, since the
instants in it only grow; so its length decides as the whole history would. -/

namespace StellarRoute.Http.MessageRateLimiter

open Lib Transition List

variable {limiter : MessageRateLimiter} {log nows : List ℕ} {now now' : ℕ}

/-- How many messages of `log` came less than a window before `now`. -/
def recent (log : List ℕ) (now : ℕ) : ℕ := log.countP fun t => decide (now < t + WINDOW)

/-- How many messages of `log` came in the window that begins at `start`. -/
def within (log : List ℕ) (start : ℕ) : ℕ :=
  log.countP fun t => decide (start ≤ t ∧ t < start + WINDOW)

/-- The limiter and what was accepted, when the clock shows `now`. -/
structure Counted (limiter : MessageRateLimiter) (log : List ℕ) (now : ℕ) : Prop where
  sorted : log.Pairwise (· ≤ ·)
  past : ∀ t ∈ log, t ≤ now
  kept : ∃ old, log = old ++ limiter.timestamps ∧ ∀ t ∈ old, t + WINDOW ≤ now
  limited : ∀ start, within log start ≤ MAX_MESSAGES

theorem Counted.later (h : Counted limiter log now) (hle : now ≤ now') :
    Counted limiter log now' := by
  obtain ⟨old, hlog, hold⟩ := h.kept
  exact ⟨h.sorted, fun t ht => (h.past t ht).trans hle,
    ⟨old, hlog, fun t ht => (hold t ht).trans hle⟩, h.limited⟩

/-- Pruning a sorted queue leaves what came less than a window ago. -/
theorem length_prune (hsorted : log.Pairwise (· ≤ ·)) :
    (prune log now).length = recent log now := by
  induction log with
  | nil => rfl
  | cons t log ih =>
    rw [pairwise_cons] at hsorted
    by_cases hold : WINDOW ≤ now - t
    · have hout : ¬ now < t + WINDOW := by
        unfold WINDOW at *
        omega
      rw [prune, dropWhile_cons_of_pos (by simpa using hold)]
      rw [← prune, ih hsorted.2]
      simp [recent, hout]
    · rw [prune, dropWhile_cons_of_neg (by simpa using hold), recent, eq_comm,
        countP_eq_length]
      intro u hu
      have hle : t ≤ u := by
        rcases mem_cons.mp hu with rfl | hu
        · exact le_rfl
        · exact hsorted.1 u hu
      simp only [decide_eq_true_eq]
      unfold WINDOW at *
      omega

/-- What is pruned came a window ago or earlier. -/
theorem prune_split (timestamps : List ℕ) (now : ℕ) :
    ∃ old, timestamps = old ++ prune timestamps now ∧ ∀ t ∈ old, t + WINDOW ≤ now := by
  refine ⟨_, (takeWhile_append_dropWhile (p := fun t => decide (WINDOW ≤ now - t))).symm, ?_⟩
  intro t ht
  have hage := mem_takeWhile_imp ht
  simp only [decide_eq_true_eq] at hage
  unfold WINDOW at *
  omega

theorem Counted.accepts_iff (h : Counted limiter log now) :
    (limiter.checkAndIncrement now).1 = true ↔ recent log now < MAX_MESSAGES := by
  obtain ⟨old, rfl, hold⟩ := h.kept
  have hnone : recent old now = 0 := by
    simpa [recent, countP_eq_zero] using hold
  have hlen : (prune limiter.timestamps now).length = _ :=
    length_prune (pairwise_append.mp h.sorted).2.1
  rw [recent, countP_append, ← recent, ← recent, hnone, Nat.zero_add, ← hlen,
    checkAndIncrement]
  split_ifs with hroom
  · simpa using hroom
  · simpa using hroom

/-- One more message keeps every window limited: those that end after it hold no message that is a
window older. -/
theorem Counted.limited_concat (h : Counted limiter log now) (hroom : recent log now < MAX_MESSAGES)
    (start : ℕ) : within (log ++ [now]) start ≤ MAX_MESSAGES := by
  rw [within, countP_append]
  by_cases hin : start ≤ now ∧ now < start + WINDOW
  · have hle : within log start ≤ recent log now := by
      apply countP_mono_left
      intro t _ ht
      simp only [decide_eq_true_eq] at ht ⊢
      omega
    have hone : countP (fun t => decide (start ≤ t ∧ t < start + WINDOW)) [now] ≤ 1 :=
      countP_le_length
    rw [within] at hle
    omega
  · rw [countP_singleton, if_neg (by simpa using hin)]
    exact h.limited start

theorem Counted.check (h : Counted limiter log now) :
    Counted (limiter.afterCheck now)
      (log ++ if (limiter.checkAndIncrement now).1 then [now] else []) now := by
  have hroom := h.accepts_iff
  obtain ⟨old, hlog, hold⟩ := h.kept
  obtain ⟨pruned, hsplit, hpruned⟩ := prune_split limiter.timestamps now
  rw [hsplit, ← append_assoc] at hlog
  -- what is pruned joins what was dropped before
  have hdropped : ∀ t ∈ old ++ pruned, t + WINDOW ≤ now := by
    simpa [or_imp, forall_and] using ⟨hold, hpruned⟩
  by_cases hlen : (prune limiter.timestamps now).length < MAX_MESSAGES
  · simp only [afterCheck, checkAndIncrement, if_pos hlen, if_true] at hroom ⊢
    refine ⟨?_, ?_, ⟨old ++ pruned, ?_, hdropped⟩, h.limited_concat (hroom.mp trivial)⟩
    · simpa [pairwise_append, h.sorted] using h.past
    · simpa [or_imp, forall_and] using h.past
    · rw [← append_assoc, ← hlog]
  · simp only [afterCheck, checkAndIncrement, if_neg hlen, Bool.false_eq_true, if_false,
      append_nil]
    exact ⟨h.sorted, h.past, ⟨old ++ pruned, hlog, hdropped⟩, h.limited⟩

theorem counted_accepted (hclock : nows.Pairwise (· ≤ ·)) :
    ∀ now, (∀ t ∈ nows, t ≤ now) → Counted (run afterCheck new nows) (accepted nows) now := by
  induction nows using reverseRecOn with
  | nil => exact fun now _ => ⟨.nil, by simp [accepted, trace], ⟨[], rfl, by simp⟩, fun _ => Nat.zero_le _⟩
  | append_singleton nows t ih =>
    intro now hnow
    rw [pairwise_append] at hclock
    have ht := ih hclock.1 t fun u hu => hclock.2.2 u hu t mem_cons_self
    have hall := ht.check.later (hnow t (by simp))
    rw [run_concat, accepted, trace_append]
    simpa [trace, accepted] using hall

theorem message_limit (nows : List ℕ) (hclock : nows.Pairwise (· ≤ ·)) :
    (∀ before now after, nows = before ++ now :: after →
      (((run afterCheck new before).checkAndIncrement now).1 = true ↔
        recent (accepted before) now < MAX_MESSAGES)) ∧
    ∀ start, within (accepted nows) start ≤ MAX_MESSAGES := by
  constructor
  · intro before now after hsplit
    rw [hsplit, pairwise_append] at hclock
    apply (counted_accepted hclock.1 now ?_).accepts_iff
    exact fun t ht => hclock.2.2 t ht now mem_cons_self
  · exact (counted_accepted hclock (nows.foldr max 0) fun t ht => le_max_of_le' 0 ht le_rfl).limited

/-- The sixty-first message of a minute is refused, and accepted when the minute is over. -/
theorem message_limit_minute :
    ((run afterCheck new (List.replicate 60 0)).checkAndIncrement (WINDOW - 1)).1 = false ∧
      ((run afterCheck new (List.replicate 60 0)).checkAndIncrement WINDOW).1 = true ∧
      ∀ start, within (accepted (List.replicate 60 0)) start ≤ MAX_MESSAGES :=
  ⟨by decide +kernel, by decide +kernel, (message_limit _ (pairwise_replicate.mpr (.inr le_rfl))).2⟩

end StellarRoute.Http.MessageRateLimiter
