import StellarRoute.Lib.Threads
import StellarRoute.Quote.Spec.KillSwitchManager

/-! Whether an update of the kill switch takes effect and persists. An update
writes the memory before Redis and a load copies Redis over the memory, so a
load that has read the old state, or reads it between the two writes, undoes
the update in memory; and the expiry of zero that an update asks for is one
that Redis rejects, after the memory has been written. -/

namespace StellarRoute.Quote.KillSwitchManager

open Lib Lib.Interleave List

abbrev ManagerEvent := Event Connection ManagerState ManagerOp

variable {cfg : KillSwitchConfig} {new : KillSwitchState} {s s0 : ManagerState}

/-! ### What the calls do -/

/-- An update writes its own state, first to the memory; a load writes what it has read. -/
def Rule (cfg : KillSwitchConfig) : ManagerCall → List ManagerEvent → ManagerOp → Prop
  | .load, L, .setMemory v => cfg.cached ∧ Did (exec cfg) (· ∈ L) .get (.hit v)
  | .load, _, .setEx _ _ => False
  | .updateState new, L, .setMemory state => state = new ∧ L = []
  | .updateState new, L, .setEx state ttl => state = new ∧ ttl = 0 ∧ L ≠ [] ∧ cfg.cached
  | .updateState _, _, .get => False
  | .updateState _, L, _ => L ≠ [] ∧ cfg.cached
  | .load, _, _ => cfg.cached

def Post (cfg : KillSwitchConfig) : ManagerCall → Except String Unit → List ManagerEvent → Prop
  | .load, _, _ => True
  | .updateState new, out, L => out = .ok () → (∃ e ∈ L, e.op = .setMemory new) ∧
    (cfg.cached → Did (exec cfg) (· ∈ L) (.setEx new 0) (.ok ()))

theorem load_holds :
    (start cfg .load).Holds (exec cfg) (Rule cfg .load) (Post cfg .load) [] := by
  cases hcached : cfg.cached with
  | false =>
    simp only [start, load, hcached]
    trivial
  | true =>
    simp only [start, load, hcached, if_true]
    refine ⟨hcached, fun _ s1 => ⟨hcached, fun connection s2 => ?_⟩⟩
    change ((copyHit (s2.get connection) >>= _) >>= _).Holds _ _ _ _
    cases hget : s2.get connection with
    | hit v =>
      exact ⟨⟨hcached, connection, s2, by simp, hget⟩, fun _ _ => ⟨hcached, fun _ _ => trivial⟩⟩
    | miss | unavailable => exact ⟨hcached, fun _ _ => trivial⟩

theorem updateState_holds : (start cfg (.updateState new)).Holds (exec cfg)
    (Rule cfg (.updateState new)) (Post cfg (.updateState new)) [] := by
  refine ⟨⟨rfl, rfl⟩, fun first s1 => ?_⟩
  cases hcached : cfg.cached with
  | false =>
    refine fun _ => ⟨⟨_, mem_cons_self, rfl⟩, fun h => ?_⟩
    simp [hcached] at h
  | true =>
    simp only [if_true]
    refine ⟨⟨by simp, hcached⟩, fun _ s2 => ⟨⟨rfl, rfl, by simp, hcached⟩, fun connection s3 =>
      ⟨⟨by simp, hcached⟩, fun _ s4 hok => ?_⟩⟩⟩
    exact ⟨⟨⟨first, s1, .setMemory new⟩, by simp, rfl⟩, fun _ => ⟨connection, s3, by simp,
        mapError_eq_ok.mp hok⟩⟩

theorem start_holds (call : ManagerCall) :
    (start cfg call).Holds (exec cfg) (Rule cfg call) (Post cfg call) [] := by
  cases call with
  | load => exact load_holds
  | updateState new => exact updateState_holds

/-! ### Calls that do not overlap -/

/-- A call begins only while no other is in progress, loads among themselves apart. -/
def NoOverlap (p : ManagerPool) (c : ManagerChoice) : Prop :=
  ∀ th ∈ p.beginner c, ∀ th' ∈ p.threads, th'.InProgress → th.call = .load ∧ th'.call = .load

instance (p : ManagerPool) (c : ManagerChoice) : Decidable (NoOverlap p c) :=
  inferInstanceAs (Decidable (∀ _ ∈ _, _))

/-- What a call in progress may rely on. -/
def Knows (cfg : KillSwitchConfig) (s : ManagerState) (call : ManagerCall)
    (L : List ManagerEvent) : Prop :=
  match call with
  | .load => ∀ v, Did (exec cfg) (· ∈ L) .get (.hit v) → s.redis = some v
  | .updateState new => ((∃ e ∈ L, e.op = .setMemory new) → s.memory = new) ∧
    (Did (exec cfg) (· ∈ L) (.setEx new 0) (.ok ()) → s.redis = some new)

theorem knows_nil (call : ManagerCall) : Knows cfg s call [] := by
  cases call with
  | load =>
    intro v ⟨_, _, hmem, _⟩
    cases hmem
  | updateState new =>
    constructor
    · intro ⟨e, he, _⟩
      cases he
    · intro ⟨_, _, hmem, _⟩
      cases hmem

variable {connection : Connection} {o : ManagerOp} {c : ManagerChoice} {p : ManagerPool}

theorem get_eq_hit {v : KillSwitchState} (h : s.get connection = .hit v) : s.redis = some v := by
  unfold ManagerState.get at h
  split at h <;> simp_all

theorem setEx_cases (cfg : KillSwitchConfig) (s : ManagerState) (connection : Connection)
    (state : KillSwitchState) (ttl : ℕ) :
    (s.setEx cfg connection state ttl = (.ok (), { s with redis := some state })) ∨
      ∃ e, s.setEx cfg connection state ttl = (.error e, s) := by
  unfold ManagerState.setEx
  split
  · exact .inr ⟨_, rfl⟩
  · exact .inr ⟨_, rfl⟩
  · exact .inl rfl

variable {L : List ManagerEvent} {e : ManagerEvent}

theorem did_of_cons {r : o.Res} (hne : e.op ≠ o)
    (h : Did (exec cfg) (· ∈ e :: L) o r) : Did (exec cfg) (· ∈ L) o r := by
  obtain ⟨env, s, hmem, hr⟩ := h
  rcases mem_cons.mp hmem with rfl | hmem
  · exact absurd rfl hne
  · exact ⟨env, s, hmem, hr⟩

theorem wrote_of_cons (hne : e.op ≠ o) (h : ∃ e' ∈ e :: L, e'.op = o) : ∃ e' ∈ L, e'.op = o := by
  obtain ⟨e', hmem, hop⟩ := h
  rcases mem_cons.mp hmem with rfl | hmem
  · exact absurd hop hne
  · exact ⟨e', hmem, hop⟩

variable {call : ManagerCall} {choices : List ManagerChoice}

theorem Knows.op (h : Knows cfg s call L) (hrule : Rule cfg call L o) :
    Knows cfg (exec cfg connection o s).2 call (⟨connection, s, o⟩ :: L) := by
  cases call with
  | load =>
    intro v ⟨env, s', hmem, hhit⟩
    rcases mem_cons.mp hmem with heq | hmem
    · cases heq
      exact get_eq_hit hhit
    · have hredis := h v ⟨env, s', hmem, hhit⟩
      cases o with
      | setEx state ttl => exact hrule.elim
      | _ => exact hredis
  | updateState new =>
    cases o with
    | setMemory state =>
      obtain ⟨rfl, rfl⟩ := hrule
      refine ⟨fun _ => rfl, fun hdid => ?_⟩
      exact (knows_nil (.updateState state)).2 (did_of_cons (by simp) hdid)
    | get => exact hrule.elim
    | setEx state ttl =>
      obtain ⟨rfl, rfl, -⟩ := hrule
      change Knows cfg (s.setEx cfg connection state 0).2 _ _
      rcases setEx_cases cfg s connection state 0 with hset | ⟨e, hset⟩
      · rw [hset]
        exact ⟨fun hwrote => h.1 (wrote_of_cons (by simp) hwrote), fun _ => rfl⟩
      · rw [hset]
        refine ⟨fun hwrote => h.1 (wrote_of_cons (by simp) hwrote), fun ⟨env, s', hmem, hr⟩ => ?_⟩
        rcases mem_cons.mp hmem with heq | hmem
        · cases heq
          exact nomatch (congrArg Prod.fst hset).symm.trans hr
        · exact h.2 ⟨env, s', hmem, hr⟩
    | lockCache | unlockCache =>
      exact ⟨fun hwrote => h.1 (wrote_of_cons (by simp) hwrote),
        fun hdid => h.2 (did_of_cons (by simp) hdid)⟩

structure Settled (cfg : KillSwitchConfig) (p : ManagerPool) : Prop where
  sound : p.Sound (exec cfg) (Rule cfg) (Post cfg)
  /-- an update in progress is the only call in progress -/
  alone : ∀ (i j : ℕ) th th', p.threads[i]? = some th → p.threads[j]? = some th' →
    th.InProgress → th'.InProgress → i = j ∨ th.call = .load ∧ th'.call = .load
  knows : ∀ th ∈ p.threads, th.InProgress → Knows cfg p.state th.call th.trace

namespace Settled

variable {p : ManagerPool} {i j : ℕ} {connection : Connection} {th th' : ManagerThread}

/-- Whoever is in progress beside a call that acts now: both are loads. -/
theorem beside (hp : Settled cfg p) (hc : NoOverlap p (.step i connection))
    (hth : p.threads[i]? = some th) (hth' : p.threads[j]? = some th') (hne : j ≠ i)
    (hprog : th.prog.isOp) (hin : th'.InProgress) :
    th.call = .load ∧ th'.call = .load := by
  by_cases htrace : th.trace = []
  · exact hc th (Pool.beginner_eq hth htrace hprog) th' (mem_of_getElem? hth') hin
  · rcases hp.alone i j th th' hth hth' ⟨htrace, hprog⟩ hin with h | h
    · exact absurd h.symm hne
    · exact h

theorem knows_now (hp : Settled cfg p) (hth : p.threads[i]? = some th)
    (hprog : th.prog.isOp) : Knows cfg p.state th.call th.trace := by
  by_cases htrace : th.trace = []
  · rw [htrace]
    exact knows_nil _
  · exact hp.knows th (mem_of_getElem? hth) ⟨htrace, hprog⟩

theorem rule {o : ManagerOp} {k : o.Res → ManagerProg (Except String Unit)} (hp : Settled cfg p)
    (hth : p.threads[i]? = some th) (hprog : th.prog = .op o k) :
    Rule cfg th.call th.trace o := by
  have h := hp.sound th (mem_of_getElem? hth)
  rw [hprog] at h
  exact h.1

theorem step {c : ManagerChoice} (hp : Settled cfg p) (hc : NoOverlap p c) :
    Settled cfg (step (exec cfg) (start cfg) p c) := by
  have hsound : (Interleave.step (exec cfg) (start cfg) p c).Sound (exec cfg) (Rule cfg)
      (Post cfg) := hp.sound.step start_holds
  rcases step_cases (exec cfg) (start cfg) p c with
    ⟨call, rfl, h⟩ | h | ⟨i, connection, th, o, k, rfl, hth, hprog, h⟩
  · rw [h] at hsound ⊢
    refine ⟨hsound, fun i j th th' hi hj hin hin' => ?_, fun th hth hin => ?_⟩
    · rcases thread_of_spawn hi with hi | rfl
      · rcases thread_of_spawn hj with hj | rfl
        · exact hp.alone i j th th' hi hj hin hin'
        · exact absurd hin' (not_inProgress_new _ _)
      · exact absurd hin (not_inProgress_new _ _)
    · rcases mem_append.mp hth with hth | hth
      · exact hp.knows th hth hin
      · rw [mem_singleton.mp hth] at hin
        exact absurd hin (not_inProgress_new _ _)
  · rw [h]
    exact hp
  · rw [h] at hsound ⊢
    have hop : th.prog.isOp := Prog.isOp_iff.mpr ⟨o, k, hprog⟩
    have hrule := hp.rule hth hprog
    refine ⟨hsound, fun j j' th1 th2 hj hj' hin hin' => ?_, fun th' hth' hin => ?_⟩
    · rcases thread_of_set hj with ⟨hji, hnew⟩ | ⟨hne, hold⟩
      · rcases thread_of_set hj' with ⟨hji', -⟩ | ⟨hne', hold'⟩
        · exact .inl (hji.trans hji'.symm)
        · have hbeside := hp.beside hc hth hold' hne' hop hin'
          rw [hnew]
          exact .inr hbeside
      · rcases thread_of_set hj' with ⟨-, hnew'⟩ | ⟨-, hold'⟩
        · have hbeside := hp.beside hc hth hold hne hop hin
          rw [hnew']
          exact .inr hbeside.symm
        · exact hp.alone j j' th1 th2 hold hold' hin hin'
    · obtain ⟨j, hj⟩ := getElem?_of_mem hth'
      rcases thread_of_set hj with ⟨rfl, rfl⟩ | ⟨hne, hj⟩
      · exact (hp.knows_now hth hop).op hrule
      · obtain ⟨hload, hload'⟩ := hp.beside hc hth hj hne hop hin
        have hknows := hp.knows th' (mem_of_getElem? hj) hin
        rw [hload'] at hknows ⊢
        rw [hload] at hrule
        intro v hdid
        have hredis := hknows v hdid
        cases o with
        | setEx state ttl => exact hrule.elim
        | _ => exact hredis

end Settled

def Quiet (p : ManagerPool) (c : ManagerChoice) : Prop := ∀ th ∈ p.beginner c, th.call = .load

instance (p : ManagerPool) (c : ManagerChoice) : Decidable (Quiet p c) :=
  inferInstanceAs (Decidable (∀ _ ∈ _, _))

/-- The update to `new` is the latest, and done. -/
structure Effect (cfg : KillSwitchConfig) (new : KillSwitchState) (p : ManagerPool) : Prop where
  memory : p.state.memory = new
  redis : cfg.cached → p.state.redis = some new
  loads : ∀ th ∈ p.threads, th.InProgress → th.call = .load

theorem cached_of_rule (hrule : Rule cfg call L o) (h : call = .load ∨ L ≠ []) : cfg.cached := by
  cases call with
  | load =>
    cases o with
    | setMemory v => exact hrule.1
    | setEx state ttl => exact hrule.elim
    | _ => exact hrule
  | updateState new =>
    have hne : L ≠ [] := h.resolve_left (by simp)
    cases o with
    | setMemory v => exact absurd hrule.2 hne
    | get => exact hrule.elim
    | setEx state ttl => exact hrule.2.2.2
    | lockCache | unlockCache => exact hrule.2

theorem Effect.step (h : Effect cfg new p) (hp : Settled cfg p) (hquiet : Quiet p c) :
    Effect cfg new (step (exec cfg) (start cfg) p c) := by
  rcases step_cases (exec cfg) (start cfg) p c with
    ⟨call, rfl, heq⟩ | heq | ⟨i, connection, th, o, k, rfl, hth, hprog, heq⟩
  · rw [heq]
    refine ⟨h.memory, h.redis, fun th hth hin => ?_⟩
    rcases mem_append.mp hth with hth | hth
    · exact h.loads th hth hin
    · rw [mem_singleton.mp hth] at hin
      exact absurd hin (not_inProgress_new _ _)
  · rw [heq]
    exact h
  · rw [heq]
    have hop : th.prog.isOp := Prog.isOp_iff.mpr ⟨o, k, hprog⟩
    have hload : th.call = .load := by
      by_cases htrace : th.trace = []
      · exact hquiet th (Pool.beginner_eq hth htrace hop)
      · exact h.loads th (mem_of_getElem? hth) ⟨htrace, hop⟩
    have hrule := hp.rule hth hprog
    have hknows := hp.knows_now hth hop
    rw [hload] at hrule hknows
    have hcached := cached_of_rule hrule (.inl rfl)
    have hkeeps : (exec cfg connection o p.state).2.memory = new ∧
        (exec cfg connection o p.state).2.redis = some new := by
      cases o with
      | setMemory v =>
        have hv := hknows v hrule.2
        rw [h.redis hcached] at hv
        exact ⟨(Option.some.inj hv).symm, h.redis hcached⟩
      | setEx state ttl => exact hrule.elim
      | _ => exact ⟨h.memory, h.redis hcached⟩
    refine ⟨hkeeps.1, fun _ => hkeeps.2, fun th' hth' hin => ?_⟩
    rcases mem_or_eq_of_mem_set hth' with hth' | hnew
    · exact h.loads th' hth' hin
    · rw [hnew]
      exact hload

theorem effect_of_return {i : ℕ} {th : ManagerThread} (hp : Settled cfg p) (hc : NoOverlap p c)
    (hbefore : p.outcome i = none) (hth : (step (exec cfg) (start cfg) p c).threads[i]? = some th)
    (hcall : th.call = .updateState new) (hret : th.prog = .ret (.ok ())) :
    Effect cfg new (step (exec cfg) (start cfg) p c) := by
  have hsound := (hp.step hc).sound th (mem_of_getElem? hth)
  -- a call that was there already had not returned
  have hold : p.threads[i]? ≠ some th := by
    intro hold
    simp [Pool.outcome, hold, hret] at hbefore
  rcases step_cases (exec cfg) (start cfg) p c with
    ⟨call, rfl, heq⟩ | heq | ⟨j, connection, th', o, k, rfl, hth', hprog, heq⟩
  · rw [heq] at hth
    rcases thread_of_spawn hth with h | rfl
    · exact absurd h hold
    · subst hcall
      cases hret
  · rw [heq] at hth
    exact absurd hth hold
  · rw [heq] at hth ⊢
    rcases thread_of_set hth with ⟨rfl, hnew⟩ | ⟨-, h⟩
    · have hop : th'.prog.isOp := Prog.isOp_iff.mpr ⟨o, k, hprog⟩
      have hupdate : th'.call = .updateState new := by
        rwa [hnew] at hcall
      have hknows : Knows cfg (exec cfg connection o p.state).2 th'.call
          (⟨connection, p.state, o⟩ :: th'.trace) :=
        (hp.knows_now hth' hop).op (hp.rule hth' hprog)
      rw [hret, hcall, hnew] at hsound
      rw [hupdate] at hknows
      obtain ⟨hwrote, hset⟩ := hsound rfl
      refine ⟨hknows.1 hwrote, fun hcached => hknows.2 (hset hcached), fun th2 hth2 hin => ?_⟩
      obtain ⟨j', hj'⟩ := getElem?_of_mem hth2
      rcases thread_of_set hj' with ⟨-, hnew'⟩ | ⟨hne, hj'⟩
      · obtain ⟨-, hprog'⟩ := hin
        rw [hnew', ← hnew, hret] at hprog'
        cases hprog'
      · exact (hp.beside hc hth' hj' hne hop hin).2
    · exact absurd h hold

/-- Readers see the state. -/
structure Shows (s : ManagerState) (new : KillSwitchState) : Prop where
  getState : s.memory = new
  getOverrideRegistry : s.memory.getOverrideRegistry = new.getOverrideRegistry
  getProviderPolicy : s.memory.getProviderPolicy = new.getProviderPolicy

/-- Where the update goes through to Redis, it and the loads do not overlap. -/
def Undisturbed (cfg : KillSwitchConfig) (p : ManagerPool) (c : ManagerChoice) : Prop :=
  cfg.cached → cfg.zeroExpiry = .ok () → NoOverlap p c

theorem Undisturbed.noOverlap (h : Undisturbed cfg p c) (hp : Settled cfg p)
    (haccepts : cfg.cached → cfg.zeroExpiry = .ok ()) : NoOverlap p c := by
  cases hcached : cfg.cached with
  | false =>
    have hsound := hp.sound
    intro th _ th' hth' hin
    obtain ⟨htrace, hprog⟩ := hin
    obtain ⟨o, k, hprog⟩ := Prog.isOp_iff.mp hprog
    have h := hsound th' hth'
    rw [hprog] at h
    have := cached_of_rule h.1 (.inr htrace)
    simp [hcached] at this
  | true => exact h hcached (haccepts hcached)

/-- Once an update has returned successfully, its state is shown until the next one begins. -/
theorem update_takes_effect (cfg : KillSwitchConfig) (s₀ : ManagerState)
    (before after : List ManagerChoice) (c : ManagerChoice)
    (hok : Transition.StepsOk (step (exec cfg) (start cfg))
      (fun p c => Allowed LockFree p c ∧ Undisturbed cfg p c) ⟨s₀, []⟩ (before ++ c :: after))
    (i : ℕ) (th : ManagerThread) (new : KillSwitchState)
    (hbefore : (run (exec cfg) (start cfg) ⟨s₀, []⟩ before).outcome i = none)
    (hth : (run (exec cfg) (start cfg) ⟨s₀, []⟩ (before ++ [c])).threads[i]? = some th)
    (hcall : th.call = .updateState new) (hret : th.prog = .ret (.ok ()))
    (hquiet : Transition.StepsOk (step (exec cfg) (start cfg)) Quiet
      (run (exec cfg) (start cfg) ⟨s₀, []⟩ (before ++ [c])) after) :
    Shows (run (exec cfg) (start cfg) ⟨s₀, []⟩ (before ++ c :: after)).state new := by
  have haccepts : cfg.cached → cfg.zeroExpiry = .ok () := by
    intro hcached
    have hsound := run_sound s₀ start_holds _ _ (mem_of_getElem? hth)
    rw [hret, hcall] at hsound
    obtain ⟨connection, s, -, hset⟩ := (hsound rfl).2 hcached
    change (s.setEx cfg connection new 0).1 = .ok () at hset
    unfold ManagerState.setEx at hset
    split at hset
    · cases hset
    · cases hset
    · simpa using ‹_ = Except.ok ()›
  have hok' := hok.mono fun _ _ h => h.2
  rw [Transition.stepsOk_append] at hok'
  obtain ⟨hfirst, hc, hafter⟩ := hok'
  rw [run, Transition.run_append] at hth hquiet
  have hsettled : Settled cfg (run (exec cfg) (start cfg) ⟨s₀, []⟩ before) := by
    apply Transition.run_inv_of_ok _ _ hfirst
    · exact fun p c hp hc => hp.step (hc.noOverlap hp haccepts)
    · exact ⟨fun _ hth => by simp at hth, fun _ _ _ _ hth => by simp at hth,
        fun _ hth => by simp at hth⟩
  have hno := hc.noOverlap hsettled haccepts
  have heffect := effect_of_return hsettled hno hbefore hth hcall hret
  obtain ⟨-, hshown⟩ := Transition.run_inv_of_ok (P := fun p => Settled cfg p ∧ Effect cfg new p)
    (fun p c' h h' =>
      ⟨h.1.step (h'.1.noOverlap h.1 haccepts), h.2.step h.1 h'.2⟩) ⟨hsettled.step hno, heffect⟩
    (hafter.and hquiet)
  have hmemory : (run (exec cfg) (start cfg) ⟨s₀, []⟩ (before ++ c :: after)).state.memory =
      new := by
    rw [run, Transition.run_append]
    exact hshown.memory
  exact ⟨hmemory, by rw [hmemory], by rw [hmemory]⟩

/-- All AMMs off, which Redis is to keep without expiry. -/
def ammOff : KillSwitchState := ⟨AList.singleton .amm .forceExclude, ∅, ∅⟩

def keeping : KillSwitchConfig := ⟨true, .ok ()⟩

/-- Nothing is switched off, and Redis says so. -/
def allOn : ManagerState := ⟨.default, some .default, false⟩

def lockFree (_ : Connection) (s : ManagerState) : ManagerOp → Bool
  | .lockCache => !s.cacheLocked
  | _ => true

theorem lockFree_of_check (connection : Connection) (s : ManagerState) (o : ManagerOp)
    (h : lockFree connection s o) : LockFree connection s o := by
  cases o with
  | lockCache => simpa [lockFree, LockFree] using h
  | _ => trivial

def updateAlone : List ManagerChoice :=
  [.spawn (.updateState ammOff), .spawn .load, .step 0 (.ok ()), .step 0 (.ok ()), .step 0 (.ok ())]

def loadAfter : List ManagerChoice :=
  [.step 1 (.ok ()), .step 1 (.ok ()), .step 1 (.ok ()), .step 1 (.ok ())]

theorem update_takes_effect_loaded :
    Shows (run (exec keeping) (start keeping) ⟨allOn, []⟩
      (updateAlone ++ .step 0 (.ok ()) :: loadAfter)).state ammOff := by
  have hlock : Transition.StepsOk (step (exec keeping) (start keeping)) (Allowed LockFree)
      ⟨allOn, []⟩ (updateAlone ++ .step 0 (.ok ()) :: loadAfter) :=
    stepsOk_of_check lockFree_of_check (by decide)
  have hno : Transition.StepsOk (step (exec keeping) (start keeping)) NoOverlap
      ⟨allOn, []⟩ (updateAlone ++ .step 0 (.ok ()) :: loadAfter) := by decide
  exact update_takes_effect keeping allOn updateAlone loadAfter (.step 0 (.ok ()))
    (hlock.and (hno.mono fun _ _ h _ _ => h)) 0 _ ammOff (by decide) rfl rfl rfl
    (by decide)

/-- The load has read Redis when the update begins, and copies it over the new state. -/
def loadAcross : List ManagerChoice :=
  [.spawn .load, .spawn (.updateState ammOff), .step 0 (.ok ()), .step 0 (.ok ()),
    .step 1 (.ok ()), .step 0 (.ok ()), .step 0 (.ok ()), .step 1 (.ok ()), .step 1 (.ok ()),
    .step 1 (.ok ())]

theorem update_undone :
    Transition.StepsOk (step (exec keeping) (start keeping)) (Allowed LockFree)
      ⟨allOn, []⟩ loadAcross ∧
    (run (exec keeping) (start keeping) ⟨allOn, []⟩ loadAcross).outcome 1 = some (.ok ()) ∧
    (run (exec keeping) (start keeping) ⟨allOn, []⟩ loadAcross).state.memory = .default ∧
    KillSwitchState.default ≠ ammOff := by
  refine ⟨stepsOk_of_check lockFree_of_check (by decide), by decide, rfl, ?_⟩
  intro h
  have hlookup := congrArg (fun state => state.sources.lookup .amm) h
  revert hlookup
  decide

/-! ### Persistence -/

/-- What one update is to do on an instance whose connection to Redis is as given: if it reaches
Redis, succeed and be what a later load on any instance yields; if it fails, change nothing. -/
def Persists (cfg : KillSwitchConfig) (connection : Connection) (s : ManagerState)
    (new : KillSwitchState) : Prop :=
  let (out, s') := (updateState cfg new).eval (exec cfg) connection s
  (cfg.cached → connection = .ok () → out = .ok () ∧
    ∀ memory, ((load cfg).eval (exec cfg) (.ok ()) { s' with memory }).2.memory = new) ∧
  ∀ e, out = .error e → s'.memory = s.memory

/-- With a Redis that rejects an expiry of zero, an update persists, or fails without a trace, only
where there is no cache, or where Redis cannot be reached and nothing was to change. -/
theorem update_persists_iff (cached : Bool) (rejection : String) (connection : Connection)
    (s : ManagerState) (new : KillSwitchState) :
    Persists ⟨cached, .error rejection⟩ connection s new ↔
      cached = false ∨ connection ≠ .ok () ∧ new = s.memory := by
  cases cached with
  | false =>
    simp only [true_or, iff_true]
    exact ⟨nofun, fun e he => nomatch he⟩
  | true =>
    -- the update fails after it has written the memory
    obtain ⟨e, heval⟩ : ∃ e, (updateState ⟨true, .error rejection⟩ new).eval
        (exec ⟨true, .error rejection⟩) connection s =
          (.error e, { s with memory := new, cacheLocked := false }) := by
      cases connection with
      | error e => exact ⟨s!"Redis error: {e}", rfl⟩
      | ok _ => exact ⟨s!"Redis error: {rejection}", rfl⟩
    unfold Persists
    rw [heval]
    simp only [Bool.true_eq_false, false_or]
    constructor
    · intro ⟨hreached, hfailed⟩
      exact ⟨(fun hok => nomatch (hreached trivial hok).1), hfailed e rfl⟩
    · intro ⟨hconnection, hsame⟩
      exact ⟨fun _ hok => absurd hok hconnection, fun _ _ => hsame⟩

def rejecting : KillSwitchConfig := ⟨true, .error "invalid expire time in 'setex' command"⟩

/-- Redis is reachable; the update reports an error, yet the instance runs with the new state,
which Redis does not have. -/
theorem update_rejected :
    (updateState rejecting ammOff).eval (exec rejecting) (.ok ()) allOn =
      (.error "Redis error: invalid expire time in 'setex' command",
        ⟨ammOff, some .default, false⟩) :=
  rfl

end StellarRoute.Quote.KillSwitchManager
