import StellarRoute.Lib.Guard
import StellarRoute.Lib.Transition

/-! Programs made of atomic operations on a shared state, run by concurrent
callers. An operation is executed in one step; what the outside world answers
at that instant is part of the step. Between two operations of a call any
operations of other calls may happen, and a call that is never resumed has
crashed. Every call keeps the trace of what it has done, so that a proof can
ask of an operation that the call performed certain others before it. -/

namespace Lib.Interleave

open List Lib.Transition

/-- A program that performs one operation after another. -/
inductive Prog (Op : Type) (Res : Op → Type) (α : Type) where
  | ret (a : α)
  | op (o : Op) (k : Res o → Prog Op Res α)

variable {Env State Op Call Out : Type} {Res : Op → Type} {α β ε : Type}

namespace Prog

def bind : Prog Op Res α → (α → Prog Op Res β) → Prog Op Res β
  | .ret a, f => f a
  | .op o k, f => .op o fun r => (k r).bind f

instance : Monad (Prog Op Res) where
  pure := .ret
  bind := bind

def call (o : Op) : Prog Op Res (Res o) := .op o .ret

/-- The program as a part of a larger one, whose operations contain its own. -/
def embed {Op' : Type} {Res' : Op' → Type} (f : Op → Op') (g : ∀ o, Res' (f o) → Res o) :
    Prog Op Res α → Prog Op' Res' α
  | .ret a => .ret a
  | .op o k => .op (f o) fun r => (k (g o r)).embed f g

@[simp] theorem op_bind (o : Op) (k : Res o → Prog Op Res α) (f : α → Prog Op Res β) :
    (op o k >>= f) = op o fun r => k r >>= f := rfl

end Prog

/-- An operation that was executed, with the outside world and the state it met. -/
structure Event (Env State Op : Type) where
  env : Env
  state : State
  op : Op

/-- The result of an operation and the state it leaves. -/
abbrev Exec (Env State Op : Type) (Res : Op → Type) := Env → (o : Op) → State → Res o × State

def Event.after (exec : Exec Env State Op Res) (e : Event Env State Op) : State :=
  (exec e.env e.op e.state).2

structure Thread (Env State Op : Type) (Res : Op → Type) (Call Out : Type) where
  call : Call
  prog : Prog Op Res Out
  /-- what the call has done, the latest first -/
  trace : List (Event Env State Op)

structure Pool (Env State Op : Type) (Res : Op → Type) (Call Out : Type) where
  state : State
  threads : List (Thread Env State Op Res Call Out)

inductive Choice (Env Call : Type) where
  /-- a caller comes -/
  | spawn (c : Call)
  /-- call number `i` performs its next operation -/
  | step (i : ℕ) (env : Env)

/-- If an operation is performed, then in a world with `P`. -/
def Choice.Meets (P : Env → Prop) : Choice Env Call → Prop
  | .spawn _ => True
  | .step _ env => P env

section Step

variable (exec : Exec Env State Op Res) (start : Call → Prog Op Res Out)

def Thread.advance (env : Env) (s : State) (th : Thread Env State Op Res Call Out) :
    Thread Env State Op Res Call Out × State :=
  match th.prog with
  | .ret _ => (th, s)
  | .op o k => (⟨th.call, k (exec env o s).1, ⟨env, s, o⟩ :: th.trace⟩, (exec env o s).2)

def step (p : Pool Env State Op Res Call Out) : Choice Env Call → Pool Env State Op Res Call Out
  | .spawn c => { p with threads := p.threads ++ [⟨c, start c, []⟩] }
  | .step i env =>
    match p.threads[i]? with
    | none => p
    | some th => ⟨(th.advance exec env p.state).2, p.threads.set i (th.advance exec env p.state).1⟩

abbrev run (p : Pool Env State Op Res Call Out) (choices : List (Choice Env Call)) :
    Pool Env State Op Res Call Out := Transition.run (step exec start) p choices

/-- Every operation meets `G` where it is executed. -/
def Allowed (G : Env → State → Op → Prop) (p : Pool Env State Op Res Call Out) :
    Choice Env Call → Prop
  | .spawn _ => True
  | .step i env => ∀ th o k, p.threads[i]? = some th → th.prog = .op o k → G env p.state o

theorem allowed_true (p : Pool Env State Op Res Call Out) (c : Choice Env Call) :
    Allowed (fun _ _ _ => True) p c := by
  cases c with
  | spawn c => trivial
  | step i env => exact fun _ _ _ _ _ => trivial

theorem Allowed.mono {G G' : Env → State → Op → Prop} (himp : ∀ env s o, G env s o → G' env s o)
    {p : Pool Env State Op Res Call Out} {c : Choice Env Call} (h : Allowed G p c) :
    Allowed G' p c := by
  cases c with
  | spawn c => trivial
  | step i env => exact fun th o k hth hprog => himp env _ o (h th o k hth hprog)

def Pool.Performed (p : Pool Env State Op Res Call Out) (e : Event Env State Op) : Prop :=
  ∃ th ∈ p.threads, e ∈ th.trace

def Pool.Does (p : Pool Env State Op Res Call Out) : Choice Env Call → Call → Event Env State Op → Prop
  | .spawn _, _, _ => False
  | .step i env, call, e => ∃ th o k, p.threads[i]? = some th ∧ th.prog = .op o k ∧
    th.call = call ∧ e = ⟨env, p.state, o⟩

/-- What a step does: a caller comes, nothing happens, or one call performs one operation. -/
theorem step_cases (p : Pool Env State Op Res Call Out) (c : Choice Env Call) :
    (∃ c', c = .spawn c' ∧ step exec start p c =
      { p with threads := p.threads ++ [⟨c', start c', []⟩] }) ∨
    step exec start p c = p ∨
    ∃ i env th o k, c = .step i env ∧ p.threads[i]? = some th ∧ th.prog = .op o k ∧
      step exec start p c = ⟨(exec env o p.state).2, p.threads.set i
        ⟨th.call, k (exec env o p.state).1, ⟨env, p.state, o⟩ :: th.trace⟩⟩ := by
  cases c with
  | spawn c' => exact .inl ⟨c', rfl, rfl⟩
  | step i env =>
    refine .inr ?_
    cases hth : p.threads[i]? with
    | none => exact .inl (by simp only [step, hth])
    | some th =>
      cases hprog : th.prog with
      | ret a =>
        refine .inl ?_
        have hset : p.threads.set i th = p.threads := by
          obtain ⟨hi, rfl⟩ := List.getElem?_eq_some_iff.mp hth
          exact List.set_getElem_self hi
        simp only [step, hth, Thread.advance, hprog, hset]
      | op o k =>
        refine .inr ⟨i, env, th, o, k, rfl, hth, hprog, ?_⟩
        simp only [step, hth, Thread.advance, hprog]

end Step

section Holds

variable (exec : Exec Env State Op Res) (Pre : List (Event Env State Op) → Op → Prop)

/-- Whatever the state and the outside world are at each operation, each
operation finds `Pre` true of the trace so far, and the result `Post`. Nothing
is assumed about the state from one operation to the next. -/
def Prog.Holds (Post : α → List (Event Env State Op) → Prop) :
    Prog Op Res α → List (Event Env State Op) → Prop
  | .ret a, L => Post a L
  | .op o k, L => Pre L o ∧ ∀ env s, (k (exec env o s).1).Holds Post (⟨env, s, o⟩ :: L)

variable {exec Pre} {Post : α → List (Event Env State Op) → Prop}
  {L : List (Event Env State Op)}

namespace Prog

theorem holds_bind {p : Prog Op Res β} {f : β → Prog Op Res α} :
    (p >>= f).Holds exec Pre Post L ↔
      p.Holds exec Pre (fun b L => (f b).Holds exec Pre Post L) L := by
  induction p generalizing L with
  | ret b => rfl
  | op o k ih =>
    simp only [op_bind, Holds]
    exact and_congr_right fun _ => forall₂_congr fun env s => ih _

variable {p : Prog Op Res α}

theorem Holds.mono {Post' : α → List (Event Env State Op) → Prop}
    (himp : ∀ a L, Post a L → Post' a L) (h : p.Holds exec Pre Post L) :
    p.Holds exec Pre Post' L := by
  induction p generalizing L with
  | ret a => exact himp a L h
  | op o k ih => exact ⟨h.1, fun env s => ih _ (h.2 env s)⟩

theorem Holds.mono_pre {Pre' : List (Event Env State Op) → Op → Prop}
    (himp : ∀ L o, Pre L o → Pre' L o) (h : p.Holds exec Pre Post L) :
    p.Holds exec Pre' Post L := by
  induction p generalizing L with
  | ret a => exact h
  | op o k ih => exact ⟨himp _ _ h.1, fun env s => ih _ (h.2 env s)⟩

/-- A part that performs operations under no rule: what it returns is what it returns alone. -/
theorem holds_embed {Env' State' Op' : Type} {Res' : Op' → Type} {exec' : Exec Env' State' Op' Res'}
    {Pre' : List (Event Env' State' Op') → Op' → Prop} {f : Op → Op'} {g : ∀ o, Res' (f o) → Res o}
    (env : Env' → Env) (view : State' → State)
    (hexec : ∀ e o s, g o (exec' e (f o) s).1 = (exec (env e) o (view s)).1)
    (hpre : ∀ L o, Pre' L (f o)) {Q : α → Prop} (h : p.Holds exec Pre (fun a _ => Q a) L)
    (L' : List (Event Env' State' Op')) :
    (p.embed f g).Holds exec' Pre' (fun a L'' => L' <:+ L'' ∧ Q a) L' := by
  induction p generalizing L L' with
  | ret a => exact ⟨suffix_refl _, h⟩
  | op o k ih =>
    refine ⟨hpre _ _, fun e s => ?_⟩
    beta_reduce
    rw [hexec]
    apply Holds.mono _ (ih _ (h.2 (env e) (view s)) _)
    exact fun a L'' hL => ⟨(suffix_cons _ _).trans hL.1, hL.2⟩

end Prog

end Holds

/-! ### Fallible programs -/

section Spec

variable (exec : Exec Env State Op Res) (Pre : List (Event Env State Op) → Op → Prop)

/-- From the trace `L`, every operation of `x` finds `Pre`, and a result of `x`
comes with a longer trace and satisfies `Post`. An error may come at any time. -/
structure Spec (x : ExceptT ε (Prog Op Res) α) (L : List (Event Env State Op))
    (Post : α → List (Event Env State Op) → Prop) : Prop where
  holds : x.run.Holds exec Pre (fun r L' => L <:+ L' ∧ ∀ a, r = .ok a → Post a L') L

/-- Among the events `P` is this operation, with this result. -/
def Did (P : Event Env State Op → Prop) (o : Op) (r : Res o) : Prop :=
  ∃ env s, P ⟨env, s, o⟩ ∧ (exec env o s).1 = r

variable {exec Pre} {L L' : List (Event Env State Op)} {o : Op}

theorem Did.mono {P P' : Event Env State Op → Prop} (himp : ∀ e, P e → P' e) {r : Res o}
    (h : Did exec P o r) : Did exec P' o r := by
  obtain ⟨env, s, hmem, hr⟩ := h
  exact ⟨env, s, himp _ hmem, hr⟩

variable {Post : α → List (Event Env State Op) → Prop} {x : ExceptT ε (Prog Op Res) α}

theorem Spec.mono {Post' : α → List (Event Env State Op) → Prop} (h : Spec exec Pre x L Post)
    (himp : ∀ a L', L <:+ L' → Post a L' → Post' a L') : Spec exec Pre x L Post' := by
  constructor
  apply Prog.Holds.mono _ h.holds
  rintro r L' ⟨hL, hpost⟩
  exact ⟨hL, fun a ha => himp a L' hL (hpost a ha)⟩

theorem spec_bind {x : ExceptT ε (Prog Op Res) β} {f : β → ExceptT ε (Prog Op Res) α}
    {Mid : β → List (Event Env State Op) → Prop} (hx : Spec exec Pre x L Mid)
    (hf : ∀ b L', L <:+ L' → Mid b L' → Spec exec Pre (f b) L' Post) :
    Spec exec Pre (x >>= f) L Post := by
  constructor
  change (x.run >>= ExceptT.bindCont f).Holds exec Pre _ L
  rw [Prog.holds_bind]
  apply Prog.Holds.mono _ hx.holds
  rintro (e | b) L' ⟨hL, hmid⟩
  · exact ⟨hL, fun a ha => nomatch ha⟩
  · apply Prog.Holds.mono _ (hf b L' hL (hmid b rfl)).holds
    rintro r L'' ⟨hL', hpost⟩
    exact ⟨hL.trans hL', hpost⟩

theorem spec_pure {a : α} (h : Post a L) :
    Spec exec Pre (pure a : ExceptT ε (Prog Op Res) α) L Post := by
  refine ⟨suffix_refl L, fun b hb => ?_⟩
  cases hb
  exact h

theorem Spec.any (h : Spec exec Pre x L Post) : Spec exec Pre x L fun _ _ => True :=
  h.mono fun _ _ _ _ => trivial

theorem Spec.reply {f : α → β} (h : Spec exec Pre x L Post) :
    Spec exec Pre (x >>= fun a => pure (f a)) L fun _ _ => True :=
  spec_bind h fun _ _ _ _ => spec_pure trivial

theorem spec_throw {e : ε} : Spec exec Pre (throw e : ExceptT ε (Prog Op Res) α) L Post :=
  ⟨suffix_refl L, fun _ h => nomatch h⟩

theorem spec_mk {x : Except ε α} (h : ∀ a, x = .ok a → Post a L) :
    Spec exec Pre (ExceptT.mk (pure x) : ExceptT ε (Prog Op Res) α) L Post :=
  ⟨suffix_refl L, h⟩

theorem spec_lift_call (hpre : Pre L o) :
    Spec exec Pre (ExceptT.lift (Prog.call o) : ExceptT ε (Prog Op Res) (Res o)) L
      fun r L' => Did exec (· ∈ L') o r := by
  refine ⟨hpre, fun env s => ⟨suffix_cons _ _, fun r hr => ?_⟩⟩
  exact ⟨env, s, mem_cons_self, Except.ok.inj hr⟩

theorem spec_lift {p : Prog Op Res α} (h : p.Holds exec Pre (fun a L' => L <:+ L' ∧ Post a L') L) :
    Spec exec Pre (ExceptT.lift p : ExceptT ε (Prog Op Res) α) L Post := by
  constructor
  change (p >>= fun a => Prog.ret (Except.ok a)).Holds exec Pre _ L
  rw [Prog.holds_bind]
  apply Prog.Holds.mono _ h
  rintro a L' ⟨hL, hpost⟩
  refine ⟨hL, fun b hb => ?_⟩
  cases hb
  exact hpost

/-- An operation adds one event to the trace. -/
theorem spec_call_bind {k : Res o → ExceptT ε (Prog Op Res) α} (hpre : Pre L o)
    (hk : ∀ env s, Spec exec Pre (k (exec env o s).1) (⟨env, s, o⟩ :: L) Post) :
    Spec exec Pre (ExceptT.lift (Prog.call o) >>= k) L Post := by
  refine ⟨hpre, fun env s => ?_⟩
  apply Prog.Holds.mono _ (hk env s).holds
  rintro r L' ⟨hL, hpost⟩
  exact ⟨(suffix_cons _ _).trans hL, hpost⟩

theorem spec_mk_bind {x : Except ε β} {k : β → ExceptT ε (Prog Op Res) α}
    (hk : ∀ b, x = .ok b → Spec exec Pre (k b) L Post) :
    Spec exec Pre (ExceptT.mk (pure x) >>= k) L Post := by
  cases x with
  | error e => exact ⟨suffix_refl L, fun _ h => nomatch h⟩
  | ok b => exact hk b rfl

theorem spec_adapt {ε' : Type} {f : ε → ε'} (hx : Spec exec Pre x L Post) :
    Spec exec Pre (ExceptT.adapt f x) L Post := by
  constructor
  change (x.run >>= fun r => Prog.ret (r.mapError f)).Holds exec Pre _ L
  rw [Prog.holds_bind]
  apply Prog.Holds.mono _ hx.holds
  rintro r L' ⟨hL, hpost⟩
  exact ⟨hL, fun a ha => hpost a (mapError_eq_ok.mp ha)⟩

theorem spec_tryCatch {handler : ε → ExceptT ε (Prog Op Res) α} (hx : Spec exec Pre x L Post)
    (hh : ∀ e L', L <:+ L' → Spec exec Pre (handler e) L' Post) :
    Spec exec Pre (tryCatch x handler) L Post := by
  constructor
  simp only [tryCatch, tryCatchThe, MonadExceptOf.tryCatch, ExceptT.tryCatch, ExceptT.run,
    ExceptT.mk]
  rw [Prog.holds_bind]
  apply Prog.Holds.mono _ hx.holds
  rintro (e | a) L' ⟨hL, hpost⟩
  · apply Prog.Holds.mono _ (hh e L' hL).holds
    rintro r L'' ⟨hL', hpost'⟩
    exact ⟨hL.trans hL', hpost'⟩
  · exact ⟨hL, hpost⟩

end Spec

section Run

variable {exec : Exec Env State Op Res} {start : Call → Prog Op Res Out}
  {G : Env → State → Op → Prop} {Pre : List (Event Env State Op) → Op → Prop}
  {Post : Call → Out → List (Event Env State Op) → Prop} {s0 : State}

/-- What a new call has and every operation keeps, all calls have. -/
theorem step_threads {c : Choice Env Call} {p : Pool Env State Op Res Call Out}
    {Q : Thread Env State Op Res Call Out → Prop} (hnew : ∀ c, Q ⟨c, start c, []⟩)
    (hop : ∀ th ∈ p.threads, ∀ env o k, th.prog = .op o k → Q th →
      Q ⟨th.call, k (exec env o p.state).1, ⟨env, p.state, o⟩ :: th.trace⟩)
    (hp : ∀ th ∈ p.threads, Q th) : ∀ th ∈ (step exec start p c).threads, Q th := by
  rcases step_cases exec start p c with ⟨c', rfl, h⟩ | h | ⟨i, env, th, o, k, rfl, hth, hprog, h⟩
  · rw [h]
    intro th hth
    rcases mem_append.mp hth with hth | hth
    · exact hp th hth
    · rw [mem_singleton.mp hth]
      exact hnew c'
  · rwa [h]
  · rw [h]
    intro th' hth'
    rcases mem_or_eq_of_mem_set hth' with hth' | rfl
    · exact hp th' hth'
    · have hmem := mem_of_getElem? hth
      exact hop th hmem env o k hprog (hp th hmem)

/-- The rule of each call holds of what is left of it, on the trace of what it has done. -/
def Pool.Sound (exec : Exec Env State Op Res) (Rule : Call → List (Event Env State Op) → Op → Prop)
    (Post : Call → Out → List (Event Env State Op) → Prop)
    (p : Pool Env State Op Res Call Out) : Prop :=
  ∀ th ∈ p.threads, th.prog.Holds exec (Rule th.call) (Post th.call) th.trace

variable {Rule : Call → List (Event Env State Op) → Op → Prop} {c : Choice Env Call}
  {p : Pool Env State Op Res Call Out}

theorem Pool.Sound.step (hstart : ∀ c, (start c).Holds exec (Rule c) (Post c) [])
    (hp : p.Sound exec Rule Post) : (step exec start p c).Sound exec Rule Post := by
  refine step_threads hstart (fun th _ env o k hprog hnow => ?_) hp
  rw [hprog] at hnow
  exact hnow.2 env p.state

theorem run_sound (s0 : State) (hstart : ∀ c, (start c).Holds exec (Rule c) (Post c) [])
    (choices : List (Choice Env Call)) :
    (run exec start ⟨s0, []⟩ choices).Sound exec Rule Post := by
  apply run_inv (fun p c hp => hp.step hstart)
  intro th hth
  exact absurd hth not_mem_nil

variable {e : Event Env State Op} {i : ℕ} {P : Env → Prop} {check : Env → State → Op → Bool}

/-! #### What was done -/

def Pool.DoneBy (p : Pool Env State Op Res Call Out) (call : Call) (e : Event Env State Op) : Prop :=
  ∃ th ∈ p.threads, th.call = call ∧ e ∈ th.trace

/-- An operation adds one event to what was done. -/
theorem Pool.doneBy_set {th : Thread Env State Op Res Call Out} {new : Event Env State Op}
    {prog : Prog Op Res Out} {s : State} (hth : p.threads[i]? = some th) :
    Pool.DoneBy ⟨s, p.threads.set i ⟨th.call, prog, new :: th.trace⟩⟩ =
      fun call e => p.DoneBy call e ∨ call = th.call ∧ e = new := by
  obtain ⟨hi, rfl⟩ := List.getElem?_eq_some_iff.mp hth
  funext call e
  apply propext
  constructor
  · rintro ⟨th', hth', hcall, he⟩
    rcases mem_or_eq_of_mem_set hth' with hth' | rfl
    · exact .inl ⟨th', hth', hcall, he⟩
    · rcases mem_cons.mp he with rfl | he
      · exact .inr ⟨hcall.symm, rfl⟩
      · exact .inl ⟨_, List.getElem_mem hi, hcall, he⟩
  · rintro (⟨th', hth', hcall, he⟩ | ⟨rfl, rfl⟩)
    · obtain ⟨j, hj, rfl⟩ := List.getElem_of_mem hth'
      by_cases hji : i = j
      · subst hji
        exact ⟨_, List.mem_set hi _, hcall, List.mem_cons_of_mem _ he⟩
      · refine ⟨p.threads[j], ?_, hcall, he⟩
        rw [← List.getElem_set_ne hji (by simpa using hj)]
        exact List.getElem_mem _
    · exact ⟨_, List.mem_set hi _, rfl, List.mem_cons_self⟩

theorem Pool.doneBy_spawn (new : Call) :
    Pool.DoneBy ⟨p.state, p.threads ++ [⟨new, start new, []⟩]⟩ = p.DoneBy := by
  funext call e
  simp [DoneBy, or_and_right, exists_or]

theorem Pool.doneBy_nil (s : State) :
    (⟨s, []⟩ : Pool Env State Op Res Call Out).DoneBy = fun _ _ => False := by
  funext call e
  simp [DoneBy]

theorem Pool.performed_eq : p.Performed = fun e => ∃ call, p.DoneBy call e := by
  funext e
  apply propext
  constructor
  · rintro ⟨th, hth, he⟩
    exact ⟨th.call, th, hth, rfl, he⟩
  · rintro ⟨_, th, hth, -, he⟩
    exact ⟨th, hth, he⟩

theorem Pool.performed_set {th : Thread Env State Op Res Call Out} {new : Event Env State Op}
    {prog : Prog Op Res Out} {s : State} (hth : p.threads[i]? = some th) :
    Pool.Performed ⟨s, p.threads.set i ⟨th.call, prog, new :: th.trace⟩⟩ =
      fun e => p.Performed e ∨ e = new := by
  simp only [performed_eq, doneBy_set hth, exists_or, exists_eq_left]

theorem Pool.performed_spawn (new : Call) :
    Pool.Performed ⟨p.state, p.threads ++ [⟨new, start new, []⟩]⟩ = p.Performed := by
  simp only [performed_eq, doneBy_spawn]

theorem Pool.performed_nil (s : State) :
    (⟨s, []⟩ : Pool Env State Op Res Call Out).Performed = fun _ => False := by
  simp only [performed_eq, doneBy_nil, exists_false]

theorem performed_run (he : p.Performed e) (choices : List (Choice Env Call)) :
    (run exec start p choices).Performed e := by
  refine run_inv (P := fun p : Pool Env State Op Res Call Out => p.Performed e)
    (fun p c hp => ?_) choices he
  rcases step_cases exec start p c with ⟨c', rfl, h⟩ | h | ⟨i, env, th, o, k, rfl, hth, hprog, h⟩
  · rwa [h, Pool.performed_spawn]
  · rwa [h]
  · rw [h, Pool.performed_set hth]
    exact .inl hp

/-- Whatever was performed after a step was performed before it, or is the operation of the step. -/
theorem performed_of_step (hc : Allowed G p c) (he : (step exec start p c).Performed e) :
    p.Performed e ∨ e.state = p.state ∧ G e.env e.state e.op ∧
      (step exec start p c).state = e.after exec := by
  rcases step_cases exec start p c with ⟨c', rfl, h⟩ | h | ⟨i, env, th, o, k, rfl, hth, hprog, h⟩
  · rw [h, Pool.performed_spawn] at he
    exact .inl he
  · rw [h] at he
    exact .inl he
  · rw [h] at he ⊢
    rw [Pool.performed_set hth] at he
    rcases he with he | rfl
    · exact .inl he
    · exact .inr ⟨rfl, hc th o k hth hprog, rfl⟩

variable {R : State → State → Prop}

theorem step_rel (hrefl : ∀ s, R s s) (hexec : ∀ env s o, G env s o → R s (exec env o s).2)
    (hc : Allowed G p c) : R p.state (step exec start p c).state := by
  rcases step_cases exec start p c with ⟨c', rfl, h⟩ | h | ⟨i, env, th, o, k, rfl, hth, hprog, h⟩
  · rw [h]
    exact hrefl _
  · rw [h]
    exact hrefl _
  · rw [h]
    exact hexec env p.state o (hc th o k hth hprog)

variable {choices : List (Choice Env Call)}

/-- An invariant of the state together with all that was performed. Each
operation has to keep it knowing that its call performed the trace `L`, that
every state left by an event of `L` has since developed into the present one
along `R`, that these events were allowed, and the rule of the call. -/
theorem run_inv (hrefl : ∀ s, R s s) (htrans : ∀ s1 s2 s3, R s1 s2 → R s2 s3 → R s1 s3)
    (hexec : ∀ env s o, G env s o → R s (exec env o s).2)
    {J : (Event Env State Op → Prop) → State → Prop}
    (hstep : ∀ E call L env s o, J E s → (∀ e ∈ L, E e ∧ R (e.after exec) s) →
      (∀ e ∈ L, G e.env e.state e.op) → Rule call L o → G env s o →
      J (fun e => E e ∨ e = ⟨env, s, o⟩) (exec env o s).2)
    (hstart : ∀ c, (start c).Holds exec (Rule c) (Post c) []) (hinit : J (fun _ => False) s0)
    (hok : Transition.StepsOk (step exec start) (Allowed G) ⟨s0, []⟩ choices) :
    J (run exec start ⟨s0, []⟩ choices).Performed (run exec start ⟨s0, []⟩ choices).state ∧
      ∀ e, (run exec start ⟨s0, []⟩ choices).Performed e →
        R (e.after exec) (run exec start ⟨s0, []⟩ choices).state ∧ G e.env e.state e.op := by
  refine (run_inv_of_ok (P := fun p : Pool Env State Op Res Call Out =>
    p.Sound exec Rule Post ∧ J p.Performed p.state ∧
      ∀ e, p.Performed e → R (e.after exec) p.state ∧ G e.env e.state e.op) ?_ ?_ hok).2
  · intro p c ⟨hsound, hJ, hevents⟩ hc
    refine ⟨hsound.step hstart, ?_, fun e he => ?_⟩
    · rcases step_cases exec start p c with
        ⟨c', rfl, h⟩ | h | ⟨i, env, th, o, k, rfl, hth, hprog, h⟩
      · rwa [h, Pool.performed_spawn]
      · rwa [h]
      · have hmem := mem_of_getElem? hth
        have hnow := hsound th hmem
        rw [hprog] at hnow
        have htrace : ∀ e ∈ th.trace, p.Performed e := fun e he => ⟨th, hmem, he⟩
        rw [h, Pool.performed_set hth]
        exact hstep _ th.call th.trace env p.state o hJ
          (fun e he => ⟨htrace e he, (hevents e (htrace e he)).1⟩)
          (fun e he => (hevents e (htrace e he)).2) hnow.1 (hc th o k hth hprog)
    · rcases performed_of_step hc he with he | ⟨-, hg, hstate⟩
      · obtain ⟨hr, hg⟩ := hevents e he
        exact ⟨htrans _ _ _ hr (step_rel hrefl hexec hc), hg⟩
      · rw [hstate]
        exact ⟨hrefl _, hg⟩
  · rw [Pool.performed_nil]
    exact ⟨fun th hth => absurd hth not_mem_nil, hinit, fun _ h => h.elim⟩

/-- The events of a call follow one another along `R`, and the present state follows them all. -/
theorem run_ordered (hrefl : ∀ s, R s s) (htrans : ∀ s1 s2 s3, R s1 s2 → R s2 s3 → R s1 s3)
    (hexec : ∀ env s o, R s (exec env o s).2) (s0 : State) (choices : List (Choice Env Call)) :
    (∀ e, (run exec start ⟨s0, []⟩ choices).Performed e →
      R (e.after exec) (run exec start ⟨s0, []⟩ choices).state) ∧
    ∀ th ∈ (run exec start ⟨s0, []⟩ choices).threads,
      th.trace.Pairwise fun e e' => R (e'.after exec) e.state := by
  refine Transition.run_inv (P := fun p : Pool Env State Op Res Call Out =>
    (∀ e, p.Performed e → R (e.after exec) p.state) ∧
      ∀ th ∈ p.threads, th.trace.Pairwise fun e e' => R (e'.after exec) e.state) ?_ choices ?_
  · intro p c ⟨hpast, htraces⟩
    refine ⟨fun e he => ?_, ?_⟩
    · rcases performed_of_step (allowed_true p c) he with he | ⟨-, -, hstate⟩
      · exact htrans _ _ _ (hpast e he)
          (step_rel hrefl (fun env s o _ => hexec env s o) (allowed_true p c))
      · rw [hstate]
        exact hrefl _
    · exact step_threads (fun _ => .nil) (fun th hmem env o k _ htrace =>
        List.pairwise_cons.mpr ⟨fun e he => hpast e ⟨th, hmem, he⟩, htrace⟩) htraces
  · refine ⟨?_, fun th hth => absurd hth List.not_mem_nil⟩
    rintro e ⟨th, hth, -⟩
    exact absurd hth List.not_mem_nil

/-- Every event happened at a moment of the run. -/
theorem performed_moment (he : (run exec start ⟨s0, []⟩ choices).Performed e) :
    ∃ before rest, choices = before ++ rest ∧ (run exec start ⟨s0, []⟩ before).state = e.state := by
  induction choices using reverseRecOn with
  | nil =>
    obtain ⟨th, hth, -⟩ := he
    exact absurd hth not_mem_nil
  | append_singleton choices choice ih =>
    rw [run, run_concat] at he
    rcases performed_of_step (allowed_true _ choice) he with he | ⟨hstate, -, -⟩
    · obtain ⟨before, rest, rfl, hmoment⟩ := ih he
      exact ⟨before, rest ++ [choice], by simp, hmoment⟩
    · exact ⟨choices, [choice], rfl, hstate.symm⟩

theorem performed_append {before : List (Choice Env Call)}
    (he : (run exec start ⟨s0, []⟩ before).Performed e) (rest : List (Choice Env Call)) :
    (run exec start ⟨s0, []⟩ (before ++ rest)).Performed e := by
  rw [run, run_append]
  exact performed_run he rest

/-- In a run whose steps all meet `G`, every event did. -/
theorem performed_allowed (hok : Transition.StepsOk (step exec start) (Allowed G) ⟨s0, []⟩ choices)
    (he : (run exec start ⟨s0, []⟩ choices).Performed e) : G e.env e.state e.op := by
  suffices hall : ∀ e, (run exec start ⟨s0, []⟩ choices).Performed e → G e.env e.state e.op from
    hall e he
  apply run_inv_of_ok (P := fun p : Pool Env State Op Res Call Out =>
    ∀ e, p.Performed e → G e.env e.state e.op) _ _ hok
  · intro p c hp hc e he
    rcases performed_of_step hc he with he | ⟨-, hg, -⟩
    · exact hp e he
    · exact hg
  · rintro e ⟨th, hth, -⟩
    exact absurd hth not_mem_nil

/-- In a run whose operations are all performed in worlds with `P`, every step is allowed under
`P`. -/
theorem stepsOk_of_meets (h : ∀ choice ∈ choices, choice.Meets P)
    (p : Pool Env State Op Res Call Out) :
    Transition.StepsOk (step exec start) (Allowed fun env _ _ => P env) p choices := by
  induction choices generalizing p with
  | nil => trivial
  | cons choice choices ih =>
    refine ⟨?_, ih (fun ch hch => h ch (mem_cons_of_mem _ hch)) _⟩
    have hchoice := h choice mem_cons_self
    cases choice with
    | spawn c => trivial
    | step i env => exact fun _ _ _ _ _ => hchoice

/-! Concrete runs are checked by evaluation. -/

def Pool.outcome (p : Pool Env State Op Res Call Out) (i : ℕ) : Option Out :=
  match p.threads[i]? with
  | none => none
  | some th =>
    match th.prog with
    | .ret out => some out
    | .op _ _ => none

theorem Pool.ret_of_outcome {out : Out} (h : p.outcome i = some out) :
    ∃ th, p.threads[i]? = some th ∧ th.prog = .ret out := by
  unfold Pool.outcome at h
  cases hth : p.threads[i]? with
  | none => simp [hth] at h
  | some th =>
    cases hprog : th.prog with
    | op o k => simp [hth, hprog] at h
    | ret out' =>
      simp only [hth, hprog, Option.some.injEq] at h
      exact ⟨th, rfl, h ▸ hprog⟩

def allowed (check : Env → State → Op → Bool) (p : Pool Env State Op Res Call Out) :
    Choice Env Call → Bool
  | .spawn _ => true
  | .step i env =>
    match p.threads[i]? with
    | none => true
    | some th =>
      match th.prog with
      | .ret _ => true
      | .op o _ => check env p.state o

variable (exec start) in
def checkRun (check : Env → State → Op → Bool) (p : Pool Env State Op Res Call Out) :
    List (Choice Env Call) → Bool
  | [] => true
  | choice :: choices => allowed check p choice && checkRun check (step exec start p choice) choices

theorem stepsOk_of_check
    (hcheck : ∀ env s o, check env s o → G env s o) (h : checkRun exec start check p choices) :
    Transition.StepsOk (step exec start) (Allowed G) p choices := by
  induction choices generalizing p with
  | nil => trivial
  | cons choice choices ih =>
    rw [checkRun, Bool.and_eq_true] at h
    refine ⟨?_, ih h.2⟩
    cases choice with
    | spawn c => trivial
    | step i env =>
      intro th o k hth hprog
      have hallowed := h.1
      simp only [allowed, hth, hprog] at hallowed
      exact hcheck env p.state o hallowed

def Pool.AtRest (p : Pool Env State Op Res Call Out) : Prop :=
  ∀ th ∈ p.threads, ∃ out, th.prog = .ret out

instance : (x : Prog Op Res α) → Decidable (∃ a, x = .ret a)
  | .ret a => .isTrue ⟨a, rfl⟩
  | .op _ _ => .isFalse nofun

instance (p : Pool Env State Op Res Call Out) : Decidable p.AtRest :=
  inferInstanceAs (Decidable (∀ th ∈ p.threads, ∃ out, th.prog = .ret out))

/-- An invariant of what follows when no call is open: the calls still to come see nothing but
worlds with `P`. -/
theorem run_later {J : State → Prop} (hrefl : ∀ s, R s s)
    (htrans : ∀ s1 s2 s3, R s1 s2 → R s2 s3 → R s1 s3) (hexec : ∀ env s o, R s (exec env o s).2)
    (hstep : ∀ call L env s o, J s → (∀ e ∈ L, P e.env ∧ R (e.after exec) s) → Rule call L o →
      P env → J (exec env o s).2)
    (hstart : ∀ c, (start c).Holds exec (Rule c) (Post c) []) (hrest : p.AtRest) (hinit : J p.state)
    (hmore : ∀ choice ∈ choices, choice.Meets P) : J (run exec start p choices).state := by
  refine (run_inv_of_ok (P := fun p : Pool Env State Op Res Call Out => J p.state ∧
    ∀ th ∈ p.threads, ∀ o k, th.prog = .op o k → th.prog.Holds exec (Rule th.call) (Post th.call)
      th.trace ∧ ∀ e ∈ th.trace, P e.env ∧ R (e.after exec) p.state) ?_ ⟨hinit, ?_⟩
    (stepsOk_of_meets hmore p)).1
  · intro p c ⟨hJ, hopen⟩ hc
    rcases step_cases exec start p c with
      ⟨c', rfl, h⟩ | h | ⟨i, env, th, o, k, rfl, hth, hprog, h⟩
    · rw [h]
      refine ⟨hJ, fun th hth => ?_⟩
      rcases mem_append.mp hth with hth | hth
      · exact hopen th hth
      · rw [mem_singleton.mp hth]
        exact fun _ _ _ => ⟨hstart c', fun e he => absurd he not_mem_nil⟩
    · rw [h]
      exact ⟨hJ, hopen⟩
    · obtain ⟨hnow, hL⟩ := hopen th (mem_of_getElem? hth) o k hprog
      rw [hprog] at hnow
      have henv : P env := hc th o k hth hprog
      have hlater : ∀ s, R s p.state → R s (exec env o p.state).2 :=
        fun s hs => htrans _ _ _ hs (hexec env p.state o)
      rw [h]
      refine ⟨hstep _ _ env p.state o hJ hL hnow.1 henv, fun th' hth' o' k' hprog' => ?_⟩
      rcases mem_or_eq_of_mem_set hth' with hth' | rfl
      · obtain ⟨hother, hL'⟩ := hopen th' hth' o' k' hprog'
        exact ⟨hother, fun e he => ⟨(hL' e he).1, hlater _ (hL' e he).2⟩⟩
      · exact ⟨hnow.2 env p.state, forall_mem_cons.mpr
          ⟨⟨henv, hrefl _⟩, fun e he => ⟨(hL e he).1, hlater _ (hL e he).2⟩⟩⟩
  · intro th hth o k hprog
    obtain ⟨out, hout⟩ := hrest th hth
    exact absurd (hout.symm.trans hprog) nofun

/-- The events of a call happened between its coming and now: the states before
and after each are states of the run since then. -/
theorem call_moments (exec : Exec Env State Op Res) (start : Call → Prog Op Res Out)
    (p0 : Pool Env State Op Res Call Out) (before : List (Choice Env Call))
    (c : Call) (mid : List (Choice Env Call)) :
    ∃ th, (run exec start p0 (before ++ .spawn c :: mid)).threads[
        (run exec start p0 before).threads.length]? = some th ∧ th.call = c ∧
      ∀ e ∈ th.trace, ∃ since choice, since ++ [choice] <+: mid ∧
        (run exec start p0 (before ++ .spawn c :: since)).state = e.state ∧
        (run exec start p0 (before ++ .spawn c :: (since ++ [choice]))).state = e.after exec := by
  induction mid using List.reverseRecOn with
  | nil =>
    refine ⟨⟨c, start c, []⟩, ?_, rfl, fun e he => absurd he List.not_mem_nil⟩
    rw [run, Transition.run_concat]
    exact List.getElem?_concat_length
  | append_singleton mid choice ih =>
    obtain ⟨th, hth, hcall, hmoments⟩ := ih
    have hlater : ∀ e ∈ th.trace, ∃ since choice', since ++ [choice'] <+: mid ++ [choice] ∧
        (run exec start p0 (before ++ .spawn c :: since)).state = e.state ∧
        (run exec start p0 (before ++ .spawn c :: (since ++ [choice']))).state = e.after exec := by
      intro e he
      obtain ⟨since, choice', hle, hstates⟩ := hmoments e he
      exact ⟨since, choice', hle.trans (List.prefix_append _ _), hstates⟩
    have hsplit : before ++ .spawn c :: (mid ++ [choice])
        = (before ++ .spawn c :: mid) ++ [choice] := by simp
    have hrun : run exec start p0 (before ++ .spawn c :: (mid ++ [choice]))
        = step exec start (run exec start p0 (before ++ .spawn c :: mid)) choice := by
      rw [hsplit, run, Transition.run_concat]
    obtain ⟨hi, -⟩ := List.getElem?_eq_some_iff.mp hth
    rw [hrun]
    rcases step_cases exec start (run exec start p0 (before ++ .spawn c :: mid)) choice with
      ⟨c', rfl, h⟩ | h | ⟨j, env, th', o, k, rfl, hth', hprog, h⟩
    · refine ⟨th, ?_, hcall, hlater⟩
      rw [h, List.getElem?_append_left hi, hth]
    · refine ⟨th, ?_, hcall, hlater⟩
      rw [h, hth]
    · by_cases hj : j = (run exec start p0 before).threads.length
      · subst hj
        obtain rfl : th' = th := Option.mem_unique hth' hth
        rw [h]
        refine ⟨_, List.getElem?_set_self hi, hcall, ?_⟩
        intro e he
        rcases List.mem_cons.mp he with rfl | he
        · refine ⟨mid, _, List.prefix_refl _, rfl, ?_⟩
          rw [hrun, h]
          rfl
        · exact hlater e he
      · refine ⟨th, ?_, hcall, hlater⟩
        rw [h, List.getElem?_set_ne hj, hth]

end Run

/-! ### A call on its own -/

section Alone

variable (exec : Exec Env State Op Res)

/-- Without interference the program takes `s` to `s'` and returns `a`; `L` is what it performs, the
first first. -/
inductive Ends : Prog Op Res α → State → List (Event Env State Op) → α → State → Prop where
  | ret (a : α) (s : State) : Ends (.ret a) s [] a s
  | op {o : Op} {k : Res o → Prog Op Res α} {env : Env} {s s' : State} {a : α}
      {L : List (Event Env State Op)} (h : Ends (k (exec env o s).1) (exec env o s).2 L a s') :
      Ends (.op o k) s (⟨env, s, o⟩ :: L) a s'

/-- Without interference from `s`, whatever the outside world does within `G`, the result and the
state that is left satisfy `Post`. -/
def Prog.Alone (G : Env → State → Op → Prop) (Post : α → State → Prop) :
    Prog Op Res α → State → Prop
  | .ret a, s => Post a s
  | .op o k, s => ∀ env, G env s o → (k (exec env o s).1).Alone G Post (exec env o s).2

variable {exec} {G : Env → State → Op → Prop} {Post : α → State → Prop} {s : State}

theorem Prog.alone_bind {p : Prog Op Res β} {f : β → Prog Op Res α} :
    (p >>= f).Alone exec G Post s ↔
      p.Alone exec G (fun b s' => (f b).Alone exec G Post s') s := by
  induction p generalizing s with
  | ret b => rfl
  | op o k ih => exact forall₂_congr fun env _ => ih _

variable {p : Prog Op Res α}

theorem Prog.Alone.mono {Post' : α → State → Prop} (himp : ∀ a s', Post a s' → Post' a s')
    (h : p.Alone exec G Post s) : p.Alone exec G Post' s := by
  induction p generalizing s with
  | ret a => exact himp a s h
  | op o k ih => exact fun env hg => ih _ (h env hg)

variable {L : List (Event Env State Op)} {a : α} {s' : State}

/-- What holds of all runs within `G` holds of each. -/
theorem Prog.Alone.ends (h : p.Alone exec G Post s)
    (hends : Ends exec p s L a s') (hG : ∀ e ∈ L, G e.env e.state e.op) : Post a s' := by
  induction hends with
  | ret a s => exact h
  | op hends ih =>
    exact ih (h _ (hG _ mem_cons_self)) fun e he => hG e (mem_cons_of_mem _ he)

/-- The result of the program in a world that does not change, and the state it leaves. -/
def Prog.eval (exec : Exec Env State Op Res) (env : Env) : Prog Op Res α → State → α × State
  | .ret a, s => (a, s)
  | .op o k, s => (k (exec env o s).1).eval exec env (exec env o s).2

theorem exists_ends (exec : Exec Env State Op Res) (env : Env) (p : Prog Op Res α) (s : State) :
    ∃ L, Ends exec p s L (p.eval exec env s).1 (p.eval exec env s).2 ∧ ∀ e ∈ L, e.env = env := by
  induction p generalizing s with
  | ret a => exact ⟨[], .ret a s, fun e he => absurd he not_mem_nil⟩
  | op o k ih =>
    obtain ⟨L, hends, henv⟩ := ih (exec env o s).1 (exec env o s).2
    refine ⟨_, .op hends, fun e he => ?_⟩
    rcases mem_cons.mp he with rfl | he
    · rfl
    · exact henv e he

/-- The same in a world that depends on the operation. -/
theorem exists_ends_in (exec : Exec Env State Op Res) (world : Op → Env) (p : Prog Op Res α)
    (s : State) : ∃ L a s', Ends exec p s L a s' ∧ ∀ e ∈ L, e.env = world e.op := by
  induction p generalizing s with
  | ret a => exact ⟨[], a, s, .ret a s, fun e he => absurd he not_mem_nil⟩
  | op o k ih =>
    obtain ⟨L, a, s', hends, henv⟩ := ih (exec (world o) o s).1 (exec (world o) o s).2
    exact ⟨_, a, s', .op hends, forall_mem_cons.mpr ⟨rfl, henv⟩⟩

variable {start : Call → Prog Op Res Out} {p : Pool Env State Op Res Call Out} {c : Call}

theorem step_last (threads : List (Thread Env State Op Res Call Out))
    (th : Thread Env State Op Res Call Out) (s : State) (env : Env) :
    step exec start ⟨s, threads ++ [th]⟩ (.step threads.length env) =
      ⟨(th.advance exec env s).2, threads ++ [(th.advance exec env s).1]⟩ := by
  simp only [step, getElem?_concat_length, set_append_right _ _ le_rfl, Nat.sub_self, set_cons_zero]

/-- A new call, scheduled alone `n` times in a world that does not change. -/
theorem run_iterate (env : Env) (n : ℕ) :
    (run exec start p (.spawn c :: replicate n (.step p.threads.length env))).state =
      ((fun x => Thread.advance exec env x.2 x.1)^[n] (⟨c, start c, []⟩, p.state)).2 := by
  suffices hgo : ∀ x, (run exec start ⟨x.2, p.threads ++ [x.1]⟩
      (replicate n (.step p.threads.length env))).state =
        ((fun x => Thread.advance exec env x.2 x.1)^[n] x).2 from hgo (⟨c, start c, []⟩, p.state)
  induction n with
  | zero => exact fun _ => rfl
  | succ n ih =>
    intro x
    rw [replicate_succ, run, run_cons, step_last]
    exact ih _

/-- What a call does on its own is a run of the pool: the caller comes, and then only this call is
scheduled. -/
theorem run_ends {out : Out} (h : Ends exec (start c) p.state L out s') :
    run exec start p (.spawn c :: L.map fun e => .step p.threads.length e.env) =
      ⟨s', p.threads ++ [⟨c, .ret out, L.reverse⟩]⟩ := by
  suffices hgo : ∀ prog s (trace : List (Event Env State Op)), Ends exec prog s L out s' →
      run exec start ⟨s, p.threads ++ [⟨c, prog, trace⟩]⟩
        (L.map fun e => .step p.threads.length e.env) =
      ⟨s', p.threads ++ [⟨c, .ret out, L.reverse ++ trace⟩]⟩ by
    have hrun := hgo (start c) p.state [] h
    rw [append_nil] at hrun
    rw [← hrun]
    rfl
  intro prog s trace hends
  clear h
  induction hends generalizing trace with
  | ret a s => rfl
  | @op o k env s s' a L h ih =>
    rw [map_cons, run, run_cons, step_last]
    apply (ih _).trans
    rw [reverse_cons, append_assoc, singleton_append]

/-! Fallible programs, rule by rule from the first operation on. -/

/-- Without interference from `s`, within `G`, the outcome and the state that is left satisfy
`Post`. -/
structure Runs (exec : Exec Env State Op Res) (G : Env → State → Op → Prop)
    (x : ExceptT ε (Prog Op Res) α) (s : State) (Post : Except ε α → State → Prop) : Prop where
  alone : x.run.Alone exec G Post s

section Runs

variable {s : State} {Post : Except ε α → State → Prop}

theorem runs_pure {a : α} (h : Post (.ok a) s) :
    Runs exec G (pure a : ExceptT ε (Prog Op Res) α) s Post := ⟨h⟩

theorem runs_throw {e : ε} (h : Post (.error e) s) :
    Runs exec G (throw e : ExceptT ε (Prog Op Res) α) s Post := ⟨h⟩

theorem runs_mk {x : Except ε α} (h : Post x s) :
    Runs exec G (ExceptT.mk (pure x) : ExceptT ε (Prog Op Res) α) s Post := ⟨h⟩

variable {o : Op}

theorem runs_lift_call {Post : Except ε (Res o) → State → Prop}
    (h : ∀ env, G env s o → Post (.ok (exec env o s).1) (exec env o s).2) :
    Runs exec G (ExceptT.lift (Prog.call o) : ExceptT ε (Prog Op Res) (Res o)) s Post := ⟨h⟩

theorem runs_bind {x : ExceptT ε (Prog Op Res) β} {f : β → ExceptT ε (Prog Op Res) α}
    (h : Runs exec G x s fun r s' => match r with
      | .ok b => Runs exec G (f b) s' Post
      | .error e => Post (.error e) s') :
    Runs exec G (x >>= f) s Post := by
  constructor
  change (x.run >>= ExceptT.bindCont f).Alone exec G Post s
  rw [Prog.alone_bind]
  apply Prog.Alone.mono _ h.alone
  rintro (e | b) s' hmid
  · exact hmid
  · exact hmid.alone

theorem runs_call_bind {k : Res o → ExceptT ε (Prog Op Res) α}
    (h : ∀ env, G env s o → Runs exec G (k (exec env o s).1) (exec env o s).2 Post) :
    Runs exec G (ExceptT.lift (Prog.call o) >>= k) s Post := ⟨fun env hg => (h env hg).alone⟩

theorem runs_mk_bind {x : Except ε β} {b : β} {k : β → ExceptT ε (Prog Op Res) α} (hx : x = .ok b)
    (h : Runs exec G (k b) s Post) : Runs exec G (ExceptT.mk (pure x) >>= k) s Post := by
  subst hx
  exact ⟨h.alone⟩

theorem runs_lift {p : Prog Op Res α} (h : p.Alone exec G (fun a s' => Post (.ok a) s') s) :
    Runs exec G (ExceptT.lift p : ExceptT ε (Prog Op Res) α) s Post := by
  constructor
  change (p >>= fun a => Prog.ret (Except.ok a)).Alone exec G Post s
  rw [Prog.alone_bind]
  exact h

theorem runs_tryCatch {x : ExceptT ε (Prog Op Res) α} {handler : ε → ExceptT ε (Prog Op Res) α}
    (h : Runs exec G x s fun r s' => match r with
      | .ok a => Post (.ok a) s'
      | .error e => Runs exec G (handler e) s' Post) :
    Runs exec G (tryCatch x handler) s Post := by
  constructor
  simp only [tryCatch, tryCatchThe, MonadExceptOf.tryCatch, ExceptT.tryCatch, ExceptT.run,
    ExceptT.mk]
  rw [Prog.alone_bind]
  apply Prog.Alone.mono _ h.alone
  rintro (e | a) s' hmid
  · exact hmid.alone
  · exact hmid

theorem Runs.mono {Post' : Except ε α → State → Prop} {x : ExceptT ε (Prog Op Res) α}
    (h : Runs exec G x s Post) (himp : ∀ r s', Post r s' → Post' r s') : Runs exec G x s Post' :=
  ⟨Prog.Alone.mono himp h.alone⟩

end Runs

end Alone

/-! ### Postconditions that speak about errors too -/

/-- From the trace `L`, every operation of `x` finds `Pre`, and every outcome of `x` meets
`Post`. -/
structure Obeys (exec : Exec Env State Op Res) (Pre : List (Event Env State Op) → Op → Prop)
    (x : ExceptT ε (Prog Op Res) α) (L : List (Event Env State Op))
    (Post : Except ε α → List (Event Env State Op) → Prop) : Prop where
  holds : x.run.Holds exec Pre Post L

variable {exec : Exec Env State Op Res} {Pre : List (Event Env State Op) → Op → Prop}
  {L : List (Event Env State Op)} {Post : Except ε α → List (Event Env State Op) → Prop}

theorem obeys_pure {a : α} (h : Post (.ok a) L) :
    Obeys exec Pre (pure a : ExceptT ε (Prog Op Res) α) L Post := ⟨h⟩

theorem obeys_throw {e : ε} (h : Post (.error e) L) :
    Obeys exec Pre (throw e : ExceptT ε (Prog Op Res) α) L Post := ⟨h⟩

theorem obeys_mk {x : Except ε α} (h : Post x L) :
    Obeys exec Pre (ExceptT.mk (pure x) : ExceptT ε (Prog Op Res) α) L Post := ⟨h⟩

theorem obeys_bind {x : ExceptT ε (Prog Op Res) β} {f : β → ExceptT ε (Prog Op Res) α}
    (h : Obeys exec Pre x L fun r L' => match r with
      | .ok b => Obeys exec Pre (f b) L' Post
      | .error e => Post (.error e) L') :
    Obeys exec Pre (x >>= f) L Post := by
  constructor
  change (x.run >>= ExceptT.bindCont f).Holds exec Pre Post L
  rw [Prog.holds_bind]
  apply Prog.Holds.mono _ h.holds
  rintro (e | b) L' hmid
  · exact hmid
  · exact hmid.holds

theorem obeys_call_bind {o : Op} {k : Res o → ExceptT ε (Prog Op Res) α} (hpre : Pre L o)
    (hk : ∀ env s, Obeys exec Pre (k (exec env o s).1) (⟨env, s, o⟩ :: L) Post) :
    Obeys exec Pre (ExceptT.lift (Prog.call o) >>= k) L Post :=
  ⟨hpre, fun env s => (hk env s).holds⟩

theorem obeys_mk_bind {x : Except ε β} {k : β → ExceptT ε (Prog Op Res) α}
    (herror : ∀ e, x = .error e → Post (.error e) L)
    (hok : ∀ b, x = .ok b → Obeys exec Pre (k b) L Post) :
    Obeys exec Pre (ExceptT.mk (pure x) >>= k) L Post := by
  cases x with
  | error e => exact ⟨herror e rfl⟩
  | ok b => exact ⟨(hok b rfl).holds⟩

end Lib.Interleave
