import StellarRoute.Lib.Interleave

/-! Counting what concurrent calls have done. A pool counts the events of its
calls that satisfy a test, and the rule of a call speaks about the events that
its trace holds already. -/

namespace Lib.Interleave

open List

variable {Env State Op Call Out : Type} {Res : Op → Type}

def Pool.count (test : Call → Event Env State Op → Bool) (p : Pool Env State Op Res Call Out) : ℕ :=
  (p.threads.map fun th => th.trace.countP (test th.call)).sum

section List

variable {α : Type}

theorem sum_map_set (f : α → ℕ) {l : List α} {i : ℕ} {a : α} (h : l[i]? = some a) (b : α) :
    ((l.set i b).map f).sum + f a = (l.map f).sum + f b := by
  induction l generalizing i with
  | nil => simp at h
  | cons x l ih =>
    cases i with
    | zero =>
      obtain rfl : x = a := by simpa using h
      simp only [set_cons_zero, map_cons, sum_cons]
      omega
    | succ i =>
      have hl := ih (by simpa using h)
      simp only [set_cons_succ, map_cons, sum_cons]
      omega

end List

section Run

variable {exec : Exec Env State Op Res} {start : Call → Prog Op Res Out}
  {Rule : Call → List (Event Env State Op) → Op → Prop}
  {Post : Call → Out → List (Event Env State Op) → Prop}
  {test : Call → Event Env State Op → Bool} {p : Pool Env State Op Res Call Out}

theorem count_set {i : ℕ}
    {th : Thread Env State Op Res Call Out} (hth : p.threads[i]? = some th) (s : State)
    (prog : Prog Op Res Out) (e : Event Env State Op) :
    Pool.count test ⟨s, p.threads.set i ⟨th.call, prog, e :: th.trace⟩⟩ =
      p.count test + if test th.call e then 1 else 0 := by
  have hsum := sum_map_set (fun th => th.trace.countP (test th.call)) hth
    ⟨th.call, prog, e :: th.trace⟩
  simp only [countP_cons] at hsum
  simp only [Pool.count]
  omega

theorem count_eq_zero (h : ∀ th ∈ p.threads, ∀ e ∈ th.trace, test th.call e = false) :
    p.count test = 0 := by
  refine sum_eq_zero fun n hn => ?_
  obtain ⟨th, hth, rfl⟩ := mem_map.mp hn
  exact countP_eq_zero.mpr fun e he => by simp [h th hth e he]

/-- What the rule makes of the trace of a call, event by event, holds of every trace. -/
theorem run_traced {I : Call → List (Event Env State Op) → Prop}
    (hstep : ∀ call L env s o, I call L → Rule call L o → I call (⟨env, s, o⟩ :: L))
    (hstart : ∀ c, (start c).Holds exec (Rule c) (Post c) []) (hinit : ∀ call, I call [])
    (s0 : State) (choices : List (Choice Env Call)) :
    ∀ th ∈ (run exec start ⟨s0, []⟩ choices).threads, I th.call th.trace := by
  refine (Transition.run_inv (P := fun p : Pool Env State Op Res Call Out =>
    p.Sound exec Rule Post ∧ ∀ th ∈ p.threads, I th.call th.trace) ?_ choices ?_).2
  · intro p c ⟨hsound, hI⟩
    refine ⟨hsound.step hstart, step_threads hinit (fun th hmem env o k hprog htrace => ?_) hI⟩
    have hnow := hsound th hmem
    rw [hprog] at hnow
    exact hstep th.call th.trace env p.state o htrace hnow.1
  · exact ⟨fun th hth => absurd hth not_mem_nil, fun th hth => absurd hth not_mem_nil⟩

/-- Every event met the rule of its call, with the events before it in the trace. -/
theorem run_ruled (hstart : ∀ c, (start c).Holds exec (Rule c) (Post c) []) (s0 : State)
    (choices : List (Choice Env Call)) :
    ∀ th ∈ (run exec start ⟨s0, []⟩ choices).threads, ∀ e L, e :: L <:+ th.trace →
      Rule th.call L e.op := by
  apply run_traced (I := fun call T => ∀ e L, e :: L <:+ T → Rule call L e.op) _ hstart
  · intro call e L hsuffix
    exact absurd hsuffix (by simp)
  · intro call T env s o hT hrule e L hsuffix
    rcases suffix_cons_iff.mp hsuffix with heq | hsuffix
    · cases heq
      exact hrule
    · exact hT e L hsuffix

end Run

end Lib.Interleave
