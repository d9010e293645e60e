import Mathlib.Data.List.TakeWhile
import Mathlib.Tactic

/-! Limiting by windows. A log has an entry for every request that was let
through, with its time; an entry that opens a window starts the counting anew.
When no window has more than `m` entries and windows are opened at least `d`
apart, no interval of length `d` has more than `2 * m` entries, since it can
meet two windows at most; when moreover nothing was let through for `d` before a
window opens, it meets one. -/

namespace Lib.Window

open List

structure Entry where
  time : ℕ
  opens : Bool
deriving DecidableEq

def OneWindow (seg : List Entry) : Prop := ∀ e ∈ seg.tail, e.opens = false

def Limited (m : ℕ) (log : List Entry) : Prop :=
  ∀ seg, seg <:+: log → OneWindow seg → seg.length ≤ m

/-- The latest window has at most `n` entries. -/
def Backlog (n : ℕ) (log : List Entry) : Prop :=
  ∀ seg, seg <:+ log → OneWindow seg → seg.length ≤ n

/-- Windows are opened at least `d` apart. -/
def Spaced (d : ℕ) (log : List Entry) : Prop :=
  (log.filter (·.opens)).Pairwise fun e e' => e.time + d ≤ e'.time

/-- Before a window opens, nothing was let through for `d`. -/
def Paused (d : ℕ) (log : List Entry) : Prop :=
  log.Pairwise fun e e' => e'.opens = true → e.time + d ≤ e'.time

def Ordered (log : List Entry) : Prop := log.Pairwise fun e e' => e.time ≤ e'.time

variable {m n d : ℕ} {log seg : List Entry} {e : Entry}

/-! The empty log -/

theorem limited_nil : Limited m [] := by
  intro seg hseg _
  rw [infix_nil.mp hseg]
  exact Nat.zero_le m

theorem backlog_nil : Backlog n [] := by
  intro seg hseg _
  rw [suffix_nil.mp hseg]
  exact Nat.zero_le n

/-! One more entry -/

/-- A stretch that ends with `e`: either `e` alone, or a stretch before it and
`e` does not open a window. -/
theorem oneWindow_concat (h : OneWindow (seg ++ [e])) :
    seg = [] ∨ e.opens = false ∧ OneWindow seg := by
  cases seg with
  | nil => exact .inl rfl
  | cons a seg =>
    refine .inr ⟨h e (by simp), fun e' he' => h e' ?_⟩
    rw [tail_cons] at he'
    simp [he']

theorem backlog_concat_open (hopens : e.opens = true) : Backlog 1 (log ++ [e]) := by
  intro seg hseg hone
  rcases suffix_concat_iff.mp hseg with rfl | ⟨t, rfl, -⟩
  · exact Nat.zero_le 1
  · rcases oneWindow_concat hone with rfl | ⟨hclosed, -⟩
    · exact le_refl 1
    · simp [hopens] at hclosed

theorem Backlog.concat (hlog : Backlog n log) : Backlog (n + 1) (log ++ [e]) := by
  intro seg hseg hone
  rcases suffix_concat_iff.mp hseg with rfl | ⟨t, rfl, ht⟩
  · exact Nat.zero_le _
  · rw [length_append, length_singleton]
    rcases oneWindow_concat hone with rfl | ⟨-, hbefore⟩
    · exact Nat.succ_le_succ (Nat.zero_le n)
    · exact Nat.succ_le_succ (hlog t ht hbefore)

theorem Limited.concat (hlog : Limited m log) (hlast : Backlog m (log ++ [e])) :
    Limited m (log ++ [e]) := by
  intro seg hseg hone
  rcases infix_concat_iff.mp hseg with hlate | hearly
  · exact hlast seg hlate hone
  · exact hlog seg hearly hone

theorem Backlog.mono (hle : n ≤ m) (hlog : Backlog n log) : Backlog m log :=
  fun seg hseg hone => (hlog seg hseg hone).trans hle

theorem Ordered.concat (hlog : Ordered log) (hlast : ∀ e' ∈ log, e'.time ≤ e.time) :
    Ordered (log ++ [e]) :=
  pairwise_append.mpr ⟨hlog, pairwise_singleton _ _, fun e' he' _ ha =>
    mem_singleton.mp ha ▸ hlast e' he'⟩

theorem Spaced.concat (hlog : Spaced d log)
    (hlast : e.opens = true → ∀ e' ∈ log, e'.opens = true → e'.time + d ≤ e.time) :
    Spaced d (log ++ [e]) := by
  unfold Spaced
  rw [filter_append]
  refine pairwise_append.mpr ⟨hlog, ?_, fun e' he' a ha => ?_⟩
  · exact (pairwise_singleton _ e).sublist filter_sublist
  · obtain ⟨hmem, hopens⟩ := mem_filter.mp ha
    rw [mem_singleton.mp hmem] at hopens ⊢
    obtain ⟨he', hopens'⟩ := mem_filter.mp he'
    exact hlast hopens e' he' hopens'

theorem Paused.concat (hlog : Paused d log)
    (hlast : e.opens = true → ∀ e' ∈ log, e'.time + d ≤ e.time) : Paused d (log ++ [e]) := by
  refine pairwise_append.mpr ⟨hlog, pairwise_singleton _ e, fun e' he' a ha => ?_⟩
  rw [mem_singleton.mp ha]
  exact fun hopens => hlast hopens e' he'

/-! Intervals -/

theorem Ordered.from_suffix (b : ℕ) : ∀ {log : List Entry}, Ordered log →
    log.filter (fun e => b ≤ e.time) <:+ log := by
  intro log
  induction log with
  | nil => exact fun _ => suffix_rfl
  | cons a log ih =>
    intro hlog
    obtain ⟨hafter, hrest⟩ := pairwise_cons.mp hlog
    by_cases ha : b ≤ a.time
    · rw [filter_eq_self.mpr]
      intro e he
      rcases mem_cons.mp he with rfl | he
      · exact decide_eq_true ha
      · exact decide_eq_true (ha.trans (hafter e he))
    · rw [filter_cons_of_neg (by simpa using ha)]
      exact (ih hrest).trans (suffix_cons a log)

theorem Ordered.until_isPrefix (t : ℕ) : ∀ {log : List Entry}, Ordered log →
    log.filter (fun e => e.time < t) <+: log := by
  intro log
  induction log with
  | nil => exact fun _ => ⟨[], rfl⟩
  | cons a log ih =>
    intro hlog
    obtain ⟨hafter, hrest⟩ := pairwise_cons.mp hlog
    by_cases ha : a.time < t
    · rw [filter_cons_of_pos (by simpa using ha)]
      exact (prefix_cons_inj a).mpr (ih hrest)
    · rw [filter_eq_nil_iff.mpr]
      · exact ⟨a :: log, rfl⟩
      intro e he
      rcases mem_cons.mp he with rfl | he
      · simpa using ha
      · have := hafter e he
        rw [decide_eq_true_iff]
        omega

theorem Ordered.interval_isInfix (hlog : Ordered log) (b t : ℕ) :
    log.filter (fun e => b ≤ e.time ∧ e.time < t) <:+: log := by
  have hfilter : log.filter (fun e => b ≤ e.time ∧ e.time < t) =
      (log.filter fun e => e.time < t).filter fun e => b ≤ e.time := by
    rw [filter_filter]
    simp only [Bool.decide_and]
  have hbefore : Ordered (log.filter fun e => e.time < t) := hlog.sublist filter_sublist
  rw [hfilter]
  exact (hbefore.from_suffix b).isInfix.trans (hlog.until_isPrefix t).isInfix

/-- Two windows that are opened in a stretch of length `d`: there are not. -/
theorem Spaced.oneWindow_of_open (hlog : Spaced d (e :: seg)) (hopens : e.opens = true)
    (hshort : ∀ e' ∈ seg, e'.time < e.time + d) : OneWindow (e :: seg) := by
  intro e' he'
  rw [tail_cons] at he'
  by_contra hopens'
  unfold Spaced at hlog
  rw [filter_cons_of_pos hopens] at hlog
  have hmem : e' ∈ seg.filter (·.opens) := mem_filter.mpr ⟨he', by simpa using hopens'⟩
  have hfar := (pairwise_cons.mp hlog).1 e' hmem
  have hnear := hshort e' he'
  omega

theorem length_le_two_mul (hlog : Limited m log) (hseg : seg <:+: log) (hspaced : Spaced d seg)
    (hshort : ∀ e ∈ seg, ∀ e' ∈ seg, e'.time < e.time + d) : seg.length ≤ 2 * m := by
  have hsplit := takeWhile_append_dropWhile (p := fun e : Entry => !e.opens) (l := seg)
  have hbefore : (seg.takeWhile fun e => !e.opens).length ≤ m := by
    refine hlog _ (List.IsInfix.trans ⟨[], _, hsplit⟩ hseg) fun e he => ?_
    simpa using mem_takeWhile_imp (mem_of_mem_tail he)
  have hfrom : (seg.dropWhile fun e => !e.opens).length ≤ m := by
    have hsuffix := dropWhile_suffix (l := seg) fun e : Entry => !e.opens
    refine hlog _ (hsuffix.isInfix.trans hseg) ?_
    cases hrest : seg.dropWhile fun e => !e.opens with
    | nil => exact nofun
    | cons e rest =>
      rw [hrest] at hsuffix
      have hopens : e.opens = true := by
        have hhead := head?_dropWhile_not (fun e : Entry => !e.opens) seg
        rw [hrest] at hhead
        simpa using hhead
      have hmem : ∀ e' ∈ e :: rest, e' ∈ seg := fun e' he' => hsuffix.subset he'
      refine Spaced.oneWindow_of_open (d := d) ?_ hopens fun e' he' => ?_
      · exact hspaced.sublist (hsuffix.sublist.filter _)
      · exact hshort e (hmem e mem_cons_self) e' (hmem e' (mem_cons_of_mem _ he'))
  rw [← hsplit, length_append]
  omega

/-- No interval of length `d` has more entries than two windows. -/
theorem interval_le (hordered : Ordered log) (hlimited : Limited m log) (hspaced : Spaced d log)
    (b : ℕ) : (log.filter fun e => b ≤ e.time ∧ e.time < b + d).length ≤ 2 * m := by
  have hstretch := hordered.interval_isInfix b (b + d)
  apply length_le_two_mul hlimited hstretch (hspaced.sublist (hstretch.sublist.filter _))
  intro e he e' he'
  have htime := of_decide_eq_true (mem_filter.mp he).2
  have htime' := of_decide_eq_true (mem_filter.mp he').2
  omega

/-- No interval of length `d` has more entries than one window, if none opens in its midst. -/
theorem interval_le_of_paused (hordered : Ordered log) (hlimited : Limited m log)
    (hpaused : Paused d log) (b : ℕ) :
    (log.filter fun e => b ≤ e.time ∧ e.time < b + d).length ≤ m := by
  have hstretch := hordered.interval_isInfix b (b + d)
  apply hlimited _ hstretch
  have hseg := hpaused.sublist hstretch.sublist
  generalize hfilter : log.filter (fun e => b ≤ e.time ∧ e.time < b + d) = seg at hseg ⊢
  have htimes : ∀ e ∈ seg, b ≤ e.time ∧ e.time < b + d := by
    intro e he
    rw [← hfilter] at he
    exact of_decide_eq_true (mem_filter.mp he).2
  cases seg with
  | nil => exact nofun
  | cons a seg =>
    intro e he
    rw [tail_cons] at he
    by_contra hopens
    have hfar := (pairwise_cons.mp hseg).1 e he (by simpa using hopens)
    have hfirst := htimes a mem_cons_self
    have hlater := htimes e (mem_cons_of_mem _ he)
    omega

end Lib.Window
