import Mathlib.Tactic

/-! Runs of a deterministic system that is driven by operations. `StepsOk`
says that each operation of a run meets a condition in the state it is applied
to; an invariant that only the steps meeting the condition keep then holds in
every state of such a run. `trace` collects what the steps of a run put out, so
that an invariant can relate a state to the history behind it. -/

namespace Lib.Transition

variable {S O : Type*} (step : S → O → S)

/-- The state after `ops`, the oldest operation first. -/
def run (s : S) (ops : List O) : S := ops.foldl step s

@[simp] theorem run_nil (s : S) : run step s [] = s := rfl

@[simp] theorem run_cons (s : S) (o : O) (ops : List O) :
    run step s (o :: ops) = run step (step s o) ops := rfl

theorem run_append (s : S) (ops ops' : List O) :
    run step s (ops ++ ops') = run step (run step s ops) ops' := List.foldl_append

theorem run_concat (s : S) (ops : List O) (o : O) :
    run step s (ops ++ [o]) = step (run step s ops) o := run_append step s ops [o]

/-- Each operation of the run meets `ok` in the state it is applied to. -/
def StepsOk (ok : S → O → Prop) : S → List O → Prop
  | _, [] => True
  | s, o :: ops => ok s o ∧ StepsOk ok (step s o) ops

instance StepsOk.decidable {ok : S → O → Prop} [∀ s o, Decidable (ok s o)] :
    ∀ s ops, Decidable (StepsOk step ok s ops)
  | _, [] => inferInstanceAs (Decidable True)
  | s, o :: ops =>
    have : Decidable (StepsOk step ok (step s o) ops) := StepsOk.decidable (step s o) ops
    inferInstanceAs (Decidable (ok s o ∧ StepsOk step ok (step s o) ops))

/-- What the steps of the run put out, the oldest first. -/
def trace {A : Type*} (out : S → O → List A) : S → List O → List A
  | _, [] => []
  | s, o :: ops => out s o ++ trace out (step s o) ops

variable {step} {ok : S → O → Prop} {ops : List O} {s : S}

theorem stepsOk_append {ops' : List O} :
    StepsOk step ok s (ops ++ ops') ↔
      StepsOk step ok s ops ∧ StepsOk step ok (run step s ops) ops' := by
  induction ops generalizing s with
  | nil => simp [StepsOk]
  | cons o ops ih => simp only [List.cons_append, StepsOk, ih, run_cons, and_assoc]

theorem stepsOk_of_forall (h : ∀ s o, ok s o) (s : S) (ops : List O) : StepsOk step ok s ops := by
  induction ops generalizing s with
  | nil => trivial
  | cons o ops ih => exact ⟨h s o, ih _⟩

variable {ok' : S → O → Prop} {P : S → Prop} {A : Type*}

theorem StepsOk.mono (himp : ∀ s o, ok s o → ok' s o)
    (h : StepsOk step ok s ops) : StepsOk step ok' s ops := by
  induction ops generalizing s with
  | nil => trivial
  | cons o ops ih => exact ⟨himp s o h.1, ih h.2⟩

theorem StepsOk.and (h : StepsOk step ok s ops) (h' : StepsOk step ok' s ops) :
    StepsOk step (fun s o => ok s o ∧ ok' s o) s ops := by
  induction ops generalizing s with
  | nil => trivial
  | cons o ops ih => exact ⟨⟨h.1, h'.1⟩, ih h.2 h'.2⟩

theorem run_inv_of_ok (hstep : ∀ s o, P s → ok s o → P (step s o)) (hs : P s)
    (hok : StepsOk step ok s ops) : P (run step s ops) := by
  induction ops generalizing s with
  | nil => exact hs
  | cons o ops ih => exact ih (hstep s o hs hok.1) hok.2

theorem run_inv (hstep : ∀ s o, P s → P (step s o)) (ops : List O) (hs : P s) :
    P (run step s ops) := by
  induction ops generalizing s with
  | nil => exact hs
  | cons o ops ih => exact ih (hstep s o hs)

theorem trace_append (out : S → O → List A) (s : S) (ops ops' : List O) :
    trace step out s (ops ++ ops') = trace step out s ops ++ trace step out (run step s ops) ops' := by
  induction ops generalizing s with
  | nil => rfl
  | cons o ops ih => rw [List.cons_append, trace, trace, ih, List.append_assoc, run_cons]

theorem run_trace_inv {out : S → O → List A} {P : S → List A → Prop}
    (hstep : ∀ s acc o, P s acc → ok s o → P (step s o) (acc ++ out s o)) {acc : List A}
    (hs : P s acc) (hok : StepsOk step ok s ops) :
    P (run step s ops) (acc ++ trace step out s ops) := by
  induction ops generalizing s acc with
  | nil => simpa [trace] using hs
  | cons o ops ih =>
    rw [trace, ← List.append_assoc]
    exact ih (hstep s acc o hs hok.1) hok.2

/-- What holds at the end of a run and not at its start was brought about by
one step, and every step since has kept it. -/
theorem run_since (hs : ¬ P s) (h : P (run step s ops)) :
    ∃ pre o mid, ops = pre ++ o :: mid ∧ ¬ P (run step s pre) ∧ P (step (run step s pre) o) ∧
      StepsOk step (fun s o => P s ∧ P (step s o)) (step (run step s pre) o) mid := by
  induction ops using List.reverseRecOn with
  | nil => exact absurd h hs
  | append_singleton ops o ih =>
    rw [run_concat] at h
    by_cases hbefore : P (run step s ops)
    · obtain ⟨pre, o', mid, rfl, hnot, hborn, hkept⟩ := ih hbefore
      rw [run_append, run_cons] at h hbefore
      refine ⟨pre, o', mid ++ [o], by simp, hnot, hborn, ?_⟩
      exact stepsOk_append.mpr ⟨hkept, ⟨hbefore, h⟩, trivial⟩
    · exact ⟨ops, o, [], rfl, hbefore, h, trivial⟩

end Lib.Transition
