import StellarRoute.Lib.Interleave

/-! Mutual exclusion among concurrent calls. A call is inside the critical
section from the operation that acquires the lock to the one that releases it,
which is read off its trace. What is asserted of the shared state by a call
inside holds until that call changes it, because whoever is outside leaves it
alone. -/

namespace Lib.Interleave

variable {Env State Op Call Out : Type} {Res : Op → Type}

/-- A lock: the operations that acquire and release it, and the state in which it is held. -/
structure Mutex (State Op : Type) where
  acquires : Op → Bool
  releases : Op → Bool
  held : State → Bool

namespace Mutex

variable (m : Mutex State Op)

/-- The call has acquired the lock and not released it; the latest event first. -/
def inside : List (Event Env State Op) → Bool
  | [] => false
  | e :: L => if m.acquires e.op then true else if m.releases e.op then false else inside L

def Waits (_ : Env) (s : State) (o : Op) : Prop := m.acquires o → m.held s = false

/-- What the operations do to the lock. -/
structure Lawful (exec : Exec Env State Op Res) : Prop where
  acquire : ∀ env s o, m.acquires o → m.held (exec env o s).2
  keep : ∀ env s o, ¬ m.acquires o → ¬ m.releases o → m.held (exec env o s).2 = m.held s

variable {m} in
theorem holds_inside {α : Type} {exec : Exec Env State Op Res}
    {Pre : List (Event Env State Op) → Op → Prop} {Post : α → List (Event Env State Op) → Prop}
    (hquiet : ∀ L o, Pre L o → ¬ m.acquires o ∧ ¬ m.releases o) {p : Prog Op Res α}
    {L : List (Event Env State Op)} (hin : m.inside L) (h : p.Holds exec Pre Post L) :
    p.Holds exec (fun L o => Pre L o ∧ m.inside L) (fun a L => Post a L ∧ m.inside L) L := by
  induction p generalizing L with
  | ret a => exact ⟨h, hin⟩
  | op o k ih =>
    obtain ⟨hacq, hrel⟩ := hquiet L o h.1
    refine ⟨⟨h.1, hin⟩, fun env s => ih _ ?_ (h.2 env s)⟩
    simpa [inside, hacq, hrel] using hin

/-- At most one call is inside; it holds the lock, and what it asserts is true. -/
def Guarded (K : List (Event Env State Op) → State → Prop)
    (p : Pool Env State Op Res Call Out) : Prop :=
  ∀ (i : ℕ) (th : Thread Env State Op Res Call Out), p.threads[i]? = some th → m.inside th.trace →
    m.held p.state ∧ K th.trace p.state ∧
      ∀ (j : ℕ) (th' : Thread Env State Op Res Call Out), p.threads[j]? = some th' →
        m.inside th'.trace → j = i

end Mutex

section Run

variable {m : Mutex State Op} {exec : Exec Env State Op Res} {start : Call → Prog Op Res Out}
  {G : Env → State → Op → Prop} {Rule : Call → List (Event Env State Op) → Op → Prop}
  {Post : Call → Out → List (Event Env State Op) → Prop} {s0 : State} {J : State → Prop}
  {K : List (Event Env State Op) → State → Prop}

theorem Mutex.Guarded.op {p : Pool Env State Op Res Call Out} (hlaw : m.Lawful exec)
    (hp : m.Guarded K p) {i : ℕ} {th : Thread Env State Op Res Call Out} {env : Env} {o : Op}
    (hth : p.threads[i]? = some th) (hwaits : m.Waits env p.state o)
    (hrelease : m.releases o → m.inside th.trace)
    (hinside : m.inside th.trace ∨ m.acquires o → m.inside (⟨env, p.state, o⟩ :: th.trace) →
      K (⟨env, p.state, o⟩ :: th.trace) (exec env o p.state).2)
    (houtside : ¬ m.inside th.trace → ¬ m.acquires o → ∀ L, K L p.state →
      K L (exec env o p.state).2) (prog : Prog Op Res Out) :
    m.Guarded K ⟨(exec env o p.state).2,
      p.threads.set i ⟨th.call, prog, ⟨env, p.state, o⟩ :: th.trace⟩⟩ := by
  obtain ⟨hi, -⟩ := List.getElem?_eq_some_iff.mp hth
  -- the thread at `j` after the step
  have hget : ∀ {j : ℕ} {th' : Thread Env State Op Res Call Out}, (p.threads.set i ⟨th.call, prog,
      ⟨env, p.state, o⟩ :: th.trace⟩)[j]? =
      some th' → j = i ∧ th'.trace = ⟨env, p.state, o⟩ :: th.trace ∨
        j ≠ i ∧ p.threads[j]? = some th' := by
    intro j th' hj
    by_cases hji : j = i
    · subst hji
      rw [List.getElem?_set_self hi] at hj
      cases hj
      exact .inl ⟨rfl, rfl⟩
    · rw [List.getElem?_set_ne (Ne.symm hji)] at hj
      exact .inr ⟨hji, hj⟩
  by_cases hactive : m.inside th.trace ∨ m.acquires o
  · -- nobody else is inside
    have halone : ∀ (j : ℕ) (th' : Thread Env State Op Res Call Out), j ≠ i →
        p.threads[j]? = some th' → ¬ m.inside th'.trace := by
      intro j th' hji hj hin
      rcases hactive with hact | hact
      · exact hji ((hp i th hth hact).2.2 j th' hj hin)
      · exact absurd (hp j th' hj hin).1 (by rw [hwaits hact]; decide)
    intro j th' hj hin
    rcases hget hj with ⟨rfl, htrace⟩ | ⟨hji, hj⟩
    · rw [htrace] at hin ⊢
      refine ⟨?_, hinside hactive hin, fun k th'' hk hin' => ?_⟩
      · by_cases hacq : m.acquires o
        · exact hlaw.acquire env p.state o hacq
        · by_cases hrel : m.releases o
          · simp [Mutex.inside, hacq, hrel] at hin
          · have hact := hactive.resolve_right hacq
            change m.held (exec env o p.state).2
            rw [hlaw.keep env p.state o hacq hrel]
            exact (hp j th hth hact).1
      · rcases hget hk with ⟨rfl, -⟩ | ⟨hki, hk⟩
        · rfl
        · exact absurd hin' (halone k th'' hki hk)
    · exact absurd hin (halone j th' hji hj)
  · rw [not_or] at hactive
    have hrel : ¬ m.releases o := fun h => hactive.1 (hrelease h)
    have hstays : m.inside (⟨env, p.state, o⟩ :: th.trace) = m.inside th.trace := by
      simp [Mutex.inside, hactive.2, hrel]
    intro j th' hj hin
    rcases hget hj with ⟨rfl, htrace⟩ | ⟨hji, hj⟩
    · rw [htrace, hstays] at hin
      exact absurd hin hactive.1
    · obtain ⟨hheld, hK, hunique⟩ := hp j th' hj hin
      refine ⟨(hlaw.keep env p.state o hactive.2 hrel).trans hheld,
        houtside hactive.1 hactive.2 _ hK, fun k th'' hk hin' => ?_⟩
      rcases hget hk with ⟨rfl, htrace⟩ | ⟨-, hk⟩
      · rw [htrace, hstays] at hin'
        exact absurd hin' hactive.1
      · exact hunique k th'' hk hin'

/-- The invariant rule for a lock: what a call inside asserts is kept by its own operations and by
everything that calls outside may do. -/
theorem run_critical (hlaw : m.Lawful exec) (hwaits : ∀ env s o, G env s o → m.Waits env s o)
    (hrelease : ∀ call L o, Rule call L o → m.releases o → m.inside L)
    (hinside : ∀ call L env s o, J s → (m.inside L → K L s) → Rule call L o → G env s o →
      m.inside L ∨ m.acquires o → J (exec env o s).2 ∧
        (m.inside (⟨env, s, o⟩ :: L) → K (⟨env, s, o⟩ :: L) (exec env o s).2))
    (houtside : ∀ call L env s o, J s → Rule call L o → G env s o → ¬ m.inside L →
      ¬ m.acquires o → J (exec env o s).2 ∧ ∀ L', K L' s → K L' (exec env o s).2)
    (hstart : ∀ c, (start c).Holds exec (Rule c) (Post c) []) (hinit : J s0)
    {choices : List (Choice Env Call)}
    (hok : Transition.StepsOk (step exec start) (Allowed G) ⟨s0, []⟩ choices) :
    J (run exec start ⟨s0, []⟩ choices).state ∧ m.Guarded K (run exec start ⟨s0, []⟩ choices) := by
  refine (Transition.run_inv_of_ok (P := fun p : Pool Env State Op Res Call Out =>
    p.Sound exec Rule Post ∧ J p.state ∧ m.Guarded K p) ?_ ?_ hok).2
  · intro p c ⟨hsound, hJ, hguarded⟩ hc
    refine ⟨hsound.step hstart, ?_⟩
    rcases step_cases exec start p c with
      ⟨c', rfl, h⟩ | h | ⟨i, env, th, o, k, rfl, hth, hprog, h⟩
    · rw [h]
      refine ⟨hJ, ?_⟩
      -- the new call has done nothing
      have hget : ∀ {j : ℕ} {th' : Thread Env State Op Res Call Out},
          (p.threads ++ [⟨c', start c', []⟩])[j]? = some th' → m.inside th'.trace →
            p.threads[j]? = some th' := by
        intro j th' hj hin
        by_cases hlt : j < p.threads.length
        · rwa [List.getElem?_append_left hlt] at hj
        · rw [List.getElem?_append_right (not_lt.mp hlt)] at hj
          have hmem := List.mem_of_getElem? hj
          rw [List.mem_singleton.mp hmem] at hin
          simp [Mutex.inside] at hin
      intro j th' hj hin
      obtain ⟨hheld, hK, hunique⟩ := hguarded j th' (hget hj hin) hin
      exact ⟨hheld, hK, fun k th'' hk hin' => hunique k th'' (hget hk hin') hin'⟩
    · rw [h]
      exact ⟨hJ, hguarded⟩
    · have hnow := hsound th (List.mem_of_getElem? hth)
      rw [hprog] at hnow
      have hg := hc th o k hth hprog
      rw [h]
      have hK : m.inside th.trace → K th.trace p.state := fun hin => (hguarded i th hth hin).2.1
      refine ⟨?_, hguarded.op hlaw hth (hwaits env p.state o hg) (hrelease th.call th.trace o hnow.1)
        (fun hactive => (hinside th.call th.trace env p.state o hJ hK hnow.1 hg hactive).2)
        (fun hout hacq => (houtside th.call th.trace env p.state o hJ hnow.1 hg hout hacq).2) _⟩
      by_cases hactive : m.inside th.trace ∨ m.acquires o
      · exact (hinside th.call th.trace env p.state o hJ hK hnow.1 hg hactive).1
      · rw [not_or] at hactive
        exact (houtside th.call th.trace env p.state o hJ hnow.1 hg hactive.1 hactive.2).1
  · refine ⟨fun th hth => absurd hth List.not_mem_nil, hinit, fun i th hth => ?_⟩
    simp at hth

end Run

end Lib.Interleave
