import StellarRoute.Lib.Interleave

/-! The calls of a pool by their numbers: what a step leaves at each number,
which calls are in progress, and which one begins with a step. -/

namespace Lib.Interleave

open List

section List

variable {α : Type} {l : List α} {a new : α} {i j : ℕ}

theorem thread_of_spawn (h : (l ++ [new])[j]? = some a) : l[j]? = some a ∨ a = new := by
  by_cases hlt : j < l.length
  · rw [getElem?_append_left hlt] at h
    exact .inl h
  · rw [getElem?_append_right (not_lt.mp hlt)] at h
    exact .inr (mem_singleton.mp (mem_of_getElem? h))

theorem thread_of_set (h : (l.set i new)[j]? = some a) :
    j = i ∧ a = new ∨ j ≠ i ∧ l[j]? = some a := by
  by_cases hji : j = i
  · subst hji
    have hlt : j < (l.set j new).length := (List.getElem?_eq_some_iff.mp h).1
    rw [List.length_set] at hlt
    rw [List.getElem?_set_self hlt] at h
    exact .inl ⟨rfl, (Option.some.inj h).symm⟩
  · rw [List.getElem?_set_ne (Ne.symm hji)] at h
    exact .inr ⟨hji, h⟩

end List

variable {Env State Op Call Out : Type} {Res : Op → Type}
  {th : Thread Env State Op Res Call Out} {i j : ℕ}

def Prog.isOp {α : Type} : Prog Op Res α → Bool
  | .ret _ => false
  | .op _ _ => true

theorem Prog.isOp_iff {α : Type} {p : Prog Op Res α} : p.isOp ↔ ∃ o k, p = .op o k := by
  cases p with
  | ret a | op o k => simp [isOp]

/-- The call has begun and not returned. -/
def Thread.InProgress (th : Thread Env State Op Res Call Out) : Prop :=
  th.trace ≠ [] ∧ th.prog.isOp

instance : Decidable th.InProgress := inferInstanceAs (Decidable (_ ∧ _))

/-- The call that performs its first operation with this choice. -/
def Pool.beginner (p : Pool Env State Op Res Call Out) :
    Choice Env Call → Option (Thread Env State Op Res Call Out)
  | .spawn _ => none
  | .step i _ => p.threads[i]?.filter fun th => th.trace.isEmpty && th.prog.isOp

theorem Pool.beginner_eq {p : Pool Env State Op Res Call Out} {env : Env}
    (hth : p.threads[i]? = some th) (htrace : th.trace = []) (hprog : th.prog.isOp) :
    th ∈ p.beginner (.step i env) := by
  simp [beginner, hth, htrace, hprog]

/-- The call that acts with this choice, and its event. -/
def Pool.next (p : Pool Env State Op Res Call Out) :
    Choice Env Call → Option (Call × Event Env State Op)
  | .spawn _ => none
  | .step i env =>
    match p.threads[i]? with
    | none => none
    | some th =>
      match th.prog with
      | .ret _ => none
      | .op o _ => some (th.call, ⟨env, p.state, o⟩)

theorem Pool.next_eq {p : Pool Env State Op Res Call Out} {o : Op} {k : Res o → Prog Op Res Out}
    (env : Env) (hth : p.threads[i]? = some th) (hprog : th.prog = .op o k) :
    (th.call, ⟨env, p.state, o⟩) ∈ p.next (.step i env) := by
  simp [next, hth, hprog]

theorem not_inProgress_new (call : Call) (prog : Prog Op Res Out) :
    ¬ (⟨call, prog, []⟩ : Thread Env State Op Res Call Out).InProgress :=
  fun h => h.1 rfl

/-! ### What a call has done -/

section DoneBy

variable {exec : Exec Env State Op Res} {start : Call → Prog Op Res Out}
  {p : Pool Env State Op Res Call Out} {Post : Call → Out → List (Event Env State Op) → Prop}
  {Rule : Call → List (Event Env State Op) → Op → Prop}

theorem Pool.sound_nil (s : State) :
    (⟨s, []⟩ : Pool Env State Op Res Call Out).Sound exec Rule Post :=
  fun _ hth => absurd hth not_mem_nil

/-- An invariant of the state together with all that the calls have done. Each operation has to
keep it knowing what its call has done before and the rule of the call. -/
theorem run_done {G : Env → State → Op → Prop}
    {J : (Call → Event Env State Op → Prop) → State → Prop}
    (hstep : ∀ D call L env s o, J D s → (∀ e ∈ L, D call e) → Rule call L o → G env s o →
      J (fun call' e => D call' e ∨ call' = call ∧ e = ⟨env, s, o⟩) (exec env o s).2)
    (hstart : ∀ c, (start c).Holds exec (Rule c) (Post c) []) (hsound : p.Sound exec Rule Post)
    (hJ : J p.DoneBy p.state) {choices : List (Choice Env Call)}
    (hok : Transition.StepsOk (step exec start) (Allowed G) p choices) :
    (run exec start p choices).Sound exec Rule Post ∧
      J (run exec start p choices).DoneBy (run exec start p choices).state := by
  apply Transition.run_inv_of_ok (P := fun p : Pool Env State Op Res Call Out =>
    p.Sound exec Rule Post ∧ J p.DoneBy p.state) _ ⟨hsound, hJ⟩ hok
  intro p c ⟨hsound, hJ⟩ hc
  refine ⟨hsound.step hstart, ?_⟩
  rcases step_cases exec start p c with
    ⟨call, rfl, h⟩ | h | ⟨i, env, th, o, k, rfl, hth, hprog, h⟩
  · rw [h, Pool.doneBy_spawn]
    exact hJ
  · rw [h]
    exact hJ
  · have hmem := mem_of_getElem? hth
    have hrule := hsound th hmem
    rw [hprog] at hrule
    rw [h, Pool.doneBy_set hth]
    exact hstep p.DoneBy th.call th.trace env p.state o hJ (fun e he => ⟨th, hmem, rfl, he⟩)
      hrule.1 (hc th o k hth hprog)

end DoneBy

/-! ### One call at a time -/

section Exclusive

variable (P : Call → Prop)

def Pool.Exclusive (p : Pool Env State Op Res Call Out) : Prop :=
  ∀ (i j : ℕ) th th', p.threads[i]? = some th → p.threads[j]? = some th' → P th.call →
    P th'.call → th.InProgress → th'.InProgress → i = j

def Pool.BeginsAlone (p : Pool Env State Op Res Call Out) (c : Choice Env Call) : Prop :=
  ∀ th ∈ p.beginner c, P th.call → ∀ th' ∈ p.threads, P th'.call → ¬ th'.InProgress

instance [DecidablePred P] (p : Pool Env State Op Res Call Out) (c : Choice Env Call) :
    Decidable (p.BeginsAlone P c) := inferInstanceAs (Decidable (∀ _ ∈ _, _))

variable {P} {exec : Exec Env State Op Res} {start : Call → Prog Op Res Out}
  {p : Pool Env State Op Res Call Out} {c : Choice Env Call}

theorem Pool.Exclusive.others {env : Env} (hp : p.Exclusive P)
    (hc : p.BeginsAlone P (.step i env)) (hth : p.threads[i]? = some th) (hprog : th.prog.isOp)
    (hP : P th.call) {th' : Thread Env State Op Res Call Out} (hth' : p.threads[j]? = some th')
    (hP' : P th'.call) (hne : j ≠ i) : ¬ th'.InProgress := by
  intro hin
  by_cases htrace : th.trace = []
  · exact hc th (Pool.beginner_eq hth htrace hprog) hP th' (mem_of_getElem? hth') hP' hin
  · exact hne (hp j i th' th hth' hth hP' hP hin ⟨htrace, hprog⟩)

theorem Pool.Exclusive.step (hp : p.Exclusive P) (hc : p.BeginsAlone P c) :
    (step exec start p c).Exclusive P := by
  rcases step_cases exec start p c with
    ⟨call, rfl, h⟩ | h | ⟨i, env, th, o, k, rfl, hth, hprog, h⟩
  · rw [h]
    intro i j th th' hi hj hP hP' hin hin'
    rcases thread_of_spawn hi with hi | rfl
    · rcases thread_of_spawn hj with hj | rfl
      · exact hp i j th th' hi hj hP hP' hin hin'
      · exact absurd hin' (not_inProgress_new _ _)
    · exact absurd hin (not_inProgress_new _ _)
  · rwa [h]
  · rw [h]
    have hop : th.prog.isOp := Prog.isOp_iff.mpr ⟨o, k, hprog⟩
    intro j j' th1 th2 hj hj' hP1 hP2 hin1 hin2
    rcases thread_of_set hj with ⟨rfl, rfl⟩ | ⟨hne, hold⟩
    · rcases thread_of_set hj' with ⟨rfl, -⟩ | ⟨hne', hold'⟩
      · rfl
      · exact absurd hin2 (hp.others hc hth hop hP1 hold' hP2 hne')
    · rcases thread_of_set hj' with ⟨rfl, rfl⟩ | ⟨-, hold'⟩
      · exact absurd hin1 (hp.others hc hth hop hP2 hold hP1 hne)
      · exact hp j j' th1 th2 hold hold' hP1 hP2 hin1 hin2

end Exclusive

end Lib.Interleave
