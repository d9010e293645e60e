import StellarRoute.Lib.Threads
import StellarRoute.Quote.Spec.SingleFlight

/-! Sharing one computation among the callers for a key. An entry stays in the map
as long as its leader is at work, so no second leader can begin; and a result is
written before the waiters are notified of it. A leader that is cancelled
notifies too, but a caller that has taken the entry and registers only after
that waits for a notification that does not come: it looks at the result before
it waits, and not at `abandoned`. -/

namespace StellarRoute.Quote

open Lib List Function Option

variable {V : Type}

namespace Phase

/-- The entry whose guard the caller holds. -/
def leads : Phase V → Option ℕ
  | computing e | writing e _ | written e _ | dropping e _ | notifying e _ | spawning e _ => some e
  | _ => none

/-- The entry whose waiters the caller has still to notify. -/
def tends : Phase V → Option ℕ
  | computing e | writing e _ | written e _ | dropping e _ | notifying e _ => some e
  | _ => none

/-- The entry that the caller computes, or has computed, the result of. -/
def holds : Phase V → Option ℕ
  | computing e | writing e _ | written e _ => some e
  | _ => none

variable {p : Phase V}

theorem leads_of_tends {e : ℕ} (h : p.tends = some e) : p.leads = some e := by
  cases p <;> simp_all [tends, leads]

theorem leads_of_holds {e : ℕ} (h : p.holds = some e) : p.leads = some e := by
  cases p <;> simp_all [holds, leads]

end Phase

namespace SingleFlight

/-- Somebody has still to notify those who wait for the entry. -/
def Tended (s : SingleFlight V) (e : ℕ) : Prop := ∃ c ∈ s.callers, c.phase.tends = some e

/-! ### What is known of a caller -/

/-- The entry was made for the key. -/
structure At (st : FlightState V) (key : String) (e : ℕ) : Prop where
  lt : e < st.next
  key : (st.entries e).key = key

/-- The entry is in the map. -/
structure Mapped (st : FlightState V) (key : String) (e : ℕ) : Prop where
  lookup : st.inflight.lookup key = some e
  abandoned : (st.entries e).abandoned = false

/-- `T` tells the entries whose waiters are still to be notified. -/
def Ok (st : FlightState V) (T : ℕ → Prop) (c : Caller V) : Prop :=
  match c.phase with
  | .start | .cancelled => True
  | .returned v => (c.key, v) ∈ st.computed
  | .found e => At st c.key e ∧ (T e ∨ (st.entries e).result.isSome)
  | .registered e seen => At st c.key e ∧ seen ≤ (st.entries e).notified ∧
    (T e ∨ seen < (st.entries e).notified ∨ (st.entries e).result.isSome)
  | .waiting e seen => At st c.key e ∧ seen ≤ (st.entries e).notified ∧
    (T e ∨ seen < (st.entries e).notified)
  | .woken e | .reread e => At st c.key e
  | .computing e => At st c.key e ∧ Mapped st c.key e
  | .writing e v => At st c.key e ∧ Mapped st c.key e ∧ (c.key, v) ∈ st.computed
  | .written e v => At st c.key e ∧ Mapped st c.key e ∧ (c.key, v) ∈ st.computed
  | .dropping e out => At st c.key e ∧ ∀ v ∈ out, (c.key, v) ∈ st.computed
  | .notifying e out | .spawning e out => At st c.key e ∧ (∀ v ∈ out, (c.key, v) ∈ st.computed) ∧
    ((st.entries e).abandoned ∨ (st.entries e).result.isSome)

/-- How the shared state develops. -/
structure Evolves (st st' : FlightState V) : Prop where
  next : st.next ≤ st'.next
  key : ∀ e < st.next, (st'.entries e).key = (st.entries e).key
  result : ∀ e < st.next, (st.entries e).result.isSome → (st'.entries e).result.isSome
  notified : ∀ e < st.next, (st.entries e).notified ≤ (st'.entries e).notified
  abandoned : ∀ e < st.next, (st.entries e).abandoned → (st'.entries e).abandoned
  computed : ∀ x ∈ st.computed, x ∈ st'.computed

theorem Evolves.of_entries {st st' : FlightState V} (hnext : st.next ≤ st'.next)
    (hentries : ∀ e < st.next, st'.entries e = st.entries e)
    (hcomputed : ∀ x ∈ st.computed, x ∈ st'.computed) : Evolves st st' := by
  refine ⟨hnext, ?_, ?_, ?_, ?_, hcomputed⟩
  all_goals
    intro e he
    rw [hentries e he]
    try exact fun h => h

theorem Evolves.refl (st : FlightState V) : Evolves st st :=
  .of_entries le_rfl (fun _ _ => rfl) fun _ h => h

variable {st st' : FlightState V} {T T' : ℕ → Prop} {c : Caller V} {e : ℕ} {key : String}
  {f : InFlight V → InFlight V}

theorem At.evolve (h : At st key e) (hev : Evolves st st') : At st' key e :=
  ⟨h.lt.trans_le hev.next, (hev.key e h.lt).trans h.key⟩

/-- What is known of a caller stays known when another one acts: whoever loses the prospect of a
notification has been notified, unless it found a result to come. -/
theorem Ok.frame (h : Ok st T c) (hev : Evolves st st')
    (htend : ∀ e < st.next, T e → T' e ∨ (st.entries e).notified < (st'.entries e).notified ∧
      (c.phase = .found e → (st'.entries e).result.isSome))
    (hmapped : ∀ e, c.phase.holds = some e → Mapped st c.key e → Mapped st' c.key e) :
    Ok st' T' c := by
  obtain ⟨key, phase⟩ := c
  cases phase with
  | start | cancelled => trivial
  | returned v => exact hev.computed _ h
  | found e =>
    obtain ⟨hat, hT⟩ := h
    refine ⟨hat.evolve hev, ?_⟩
    rcases hT with hT | hresult
    · rcases htend e hat.lt hT with hT' | ⟨-, hresult⟩
      · exact .inl hT'
      · exact .inr (hresult rfl)
    · exact .inr (hev.result e hat.lt hresult)
  | registered e seen =>
    obtain ⟨hat, hseen, hT⟩ := h
    have hle := hev.notified e hat.lt
    refine ⟨hat.evolve hev, hseen.trans hle, ?_⟩
    rcases hT with hT | hlt | hresult
    · rcases htend e hat.lt hT with hT' | ⟨hlt, -⟩
      · exact .inl hT'
      · exact .inr (.inl (hseen.trans_lt hlt))
    · exact .inr (.inl (hlt.trans_le hle))
    · exact .inr (.inr (hev.result e hat.lt hresult))
  | waiting e seen =>
    obtain ⟨hat, hseen, hT⟩ := h
    have hle := hev.notified e hat.lt
    refine ⟨hat.evolve hev, hseen.trans hle, ?_⟩
    rcases hT with hT | hlt
    · rcases htend e hat.lt hT with hT' | ⟨hlt, -⟩
      · exact .inl hT'
      · exact .inr (hseen.trans_lt hlt)
    · exact .inr (hlt.trans_le hle)
  | woken e | reread e => exact At.evolve h hev
  | computing e => exact ⟨h.1.evolve hev, hmapped e rfl h.2⟩
  | writing e v | written e v => exact ⟨h.1.evolve hev, hmapped e rfl h.2.1, hev.computed _ h.2.2⟩
  | dropping e out => exact ⟨h.1.evolve hev, fun v hv => hev.computed _ (h.2 v hv)⟩
  | notifying e out | spawning e out =>
    exact ⟨h.1.evolve hev, fun v hv => hev.computed _ (h.2.1 v hv),
      h.2.2.imp (hev.abandoned e h.1.lt) (hev.result e h.1.lt)⟩

/-! ### What is known of all -/

structure Inv (s : SingleFlight V) : Prop where
  ok : ∀ c ∈ s.callers, Ok s.state (Tended s) c
  unique : ∀ (i j : ℕ) c c' e, s.callers[i]? = some c → s.callers[j]? = some c' →
    c.phase.leads = some e → c'.phase.leads = some e → i = j
  map : ∀ key e, s.state.inflight.lookup key = some e →
    e < s.state.next ∧ (s.state.entries e).key = key
  settled : ∀ e < s.state.next, Tended s e ∨ (s.state.entries e).abandoned ∨
    (s.state.entries e).result.isSome
  tasks : ∀ t ∈ s.state.tasks, t.2 < s.state.next ∧ ∀ c ∈ s.callers, c.phase.leads ≠ some t.2
  values : ∀ e < s.state.next, ∀ v, (s.state.entries e).result = some v →
    ((s.state.entries e).key, v) ∈ s.state.computed

variable {s : SingleFlight V} {i : ℕ} {phase : Phase V}

/-- Who waits for the entry is notified, and whoever has found it finds a result in it. -/
def Told (s : SingleFlight V) (e : ℕ) (entry : InFlight V) : Prop :=
  (s.state.entries e).notified < entry.notified ∧ (entry.abandoned ∨ entry.result.isSome) ∧
    ∀ c ∈ s.callers, c.phase = .found e → entry.result.isSome

structure Move (s : SingleFlight V) (c : Caller V) (phase : Phase V) (st' : FlightState V) :
    Prop where
  evolves : Evolves s.state st'
  /-- whoever begins to lead has a new entry -/
  leads : ∀ e, phase.leads = some e → c.phase.leads = some e ∨ s.state.next ≤ e
  /-- whoever stops to tend an entry has notified those who wait for it -/
  tends : ∀ e, c.phase.tends = some e → phase.tends = some e ∨ Told s e (st'.entries e)
  mapped : ∀ c' ∈ s.callers, ∀ e, c'.phase.holds = some e → c.phase.leads ≠ some e →
    Mapped s.state c'.key e → Mapped st' c'.key e
  map : ∀ key e, st'.inflight.lookup key = some e → e < st'.next ∧ (st'.entries e).key = key
  fresh : ∀ e, s.state.next ≤ e → e < st'.next → phase.tends = some e
  tasks : ∀ t ∈ st'.tasks, t ∈ s.state.tasks ∨ c.phase.leads = some t.2 ∧ phase.leads = none
  values : ∀ e < st'.next, ∀ v, (st'.entries e).result = some v →
    ((st'.entries e).key, v) ∈ st'.computed

theorem Ok.lt_of_leads (h : Ok st T c) (hleads : c.phase.leads = some e) : e < st.next := by
  obtain ⟨key, phase⟩ := c
  cases phase <;> simp only [Phase.leads, some.injEq, reduceCtorEq] at hleads
  all_goals
    subst hleads
    exact h.1.lt

theorem Move.tended (hm : Move s c phase st') (hi : s.callers[i]? = some c) (e : ℕ)
    (hT : Tended s e) :
    Tended ⟨st', s.callers.set i { c with phase }⟩ e ∨ Told s e (st'.entries e) := by
  obtain ⟨c', hc', htends⟩ := hT
  obtain ⟨j, hj⟩ := List.getElem?_of_mem hc'
  by_cases hji : j = i
  · subst hji
    obtain rfl := mem_unique hi hj
    obtain ⟨hlt, -⟩ := List.getElem?_eq_some_iff.mp hi
    rcases hm.tends e htends with h | h
    · exact .inl ⟨_, List.mem_set hlt _, h⟩
    · exact .inr h
  · rw [← List.getElem?_set_ne (Ne.symm hji)] at hj
    exact .inl ⟨c', List.mem_of_getElem? hj, htends⟩

theorem Inv.move (hs : Inv s) (hi : s.callers[i]? = some c) (hm : Move s c phase st')
    (hok : Ok st' (Tended ⟨st', s.callers.set i { c with phase }⟩) { c with phase }) :
    Inv ⟨st', s.callers.set i { c with phase }⟩ := by
  have hmem := List.mem_of_getElem? hi
  obtain ⟨hlt, -⟩ := List.getElem?_eq_some_iff.mp hi
  refine ⟨?_, ?_, hm.map, ?_, ?_, hm.values⟩
  · intro c' hc'
    obtain ⟨j, hj⟩ := List.getElem?_of_mem hc'
    rcases Interleave.thread_of_set hj with ⟨-, rfl⟩ | ⟨hne, hj⟩
    · exact hok
    · have hc' := List.mem_of_getElem? hj
      apply (hs.ok c' hc').frame hm.evolves
      · intro e _ hT
        rcases hm.tended hi e hT with h | ⟨hlt, -, hfound⟩
        · exact .inl h
        · exact .inr ⟨hlt, hfound c' hc'⟩
      · intro e hholds hmapped
        apply hm.mapped c' hc' e hholds _ hmapped
        intro hleads
        exact hne (hs.unique j i c' c e hj hi (Phase.leads_of_holds hholds) hleads)
  · -- a new leader has a new entry, which nobody leads
    have hfirst : ∀ (j : ℕ) c' e, j ≠ i → s.callers[j]? = some c' → c'.phase.leads = some e →
        phase.leads ≠ some e := by
      intro j c' e hne hj hleads' hleads
      rcases hm.leads e hleads with h | h
      · exact hne (hs.unique j i c' c e hj hi hleads' h)
      · exact absurd ((hs.ok c' (List.mem_of_getElem? hj)).lt_of_leads hleads') (not_lt.mpr h)
    intro j j' c1 c2 e hj hj' h1 h2
    rcases Interleave.thread_of_set hj with ⟨rfl, rfl⟩ | ⟨hne, hold⟩
    · rcases Interleave.thread_of_set hj' with ⟨rfl, -⟩ | ⟨hne', hold'⟩
      · rfl
      · exact absurd h1 (hfirst j' c2 e hne' hold' h2)
    · rcases Interleave.thread_of_set hj' with ⟨rfl, rfl⟩ | ⟨-, hold'⟩
      · exact absurd h2 (hfirst j c1 e hne hold h1)
      · exact hs.unique j j' c1 c2 e hold hold' h1 h2
  · intro e he
    by_cases hold : e < s.state.next
    · rcases hs.settled e hold with hT | hab | hresult
      · rcases hm.tended hi e hT with h | ⟨-, h, -⟩
        · exact .inl h
        · exact .inr h
      · exact .inr (.inl (hm.evolves.abandoned e hold hab))
      · exact .inr (.inr (hm.evolves.result e hold hresult))
    · exact .inl ⟨_, List.mem_set hlt _, hm.fresh e (not_lt.mp hold) he⟩
  · intro t ht
    rcases hm.tasks t ht with hold | ⟨hleads, hdone⟩
    · obtain ⟨htlt, hnone⟩ := hs.tasks t hold
      refine ⟨htlt.trans_le hm.evolves.next, fun c' hc' => ?_⟩
      rcases List.mem_or_eq_of_mem_set hc' with hc' | rfl
      · exact hnone c' hc'
      · intro hleads
        rcases hm.leads _ hleads with h | h
        · exact hnone c hmem h
        · exact absurd htlt (not_lt.mpr h)
    · have htlt := (hs.ok c hmem).lt_of_leads hleads
      refine ⟨htlt.trans_le hm.evolves.next, fun c' hc' hleads' => ?_⟩
      obtain ⟨j, hj⟩ := List.getElem?_of_mem hc'
      rcases Interleave.thread_of_set hj with ⟨-, rfl⟩ | ⟨hne, hj⟩
      · simp [show phase.leads = _ from hleads'] at hdone
      · exact hne (hs.unique j i c' c _ hj hi hleads' hleads)

theorem Move.keep (hs : Inv s) (hleads : ∀ e, phase.leads = some e → c.phase.leads = some e)
    (htends : ∀ e, c.phase.tends = some e → phase.tends = some e) : Move s c phase s.state where
  evolves := .refl _
  leads := fun e h => .inl (hleads e h)
  tends := fun e h => .inl (htends e h)
  mapped := fun _ _ _ _ _ h => h
  map := hs.map
  fresh := fun _ h h' => absurd h' (not_lt.mpr h)
  tasks := fun _ h => .inl h
  values := hs.values

theorem Inv.follow (hs : Inv s) (hi : s.callers[i]? = some c) (hleads : c.phase.leads = none)
    (hphase : phase.leads = none) (hok : Ok s.state (Tended s) { c with phase }) :
    Inv ⟨s.state, s.callers.set i { c with phase }⟩ := by
  have hm : Move s c phase s.state := by
    apply Move.keep hs
    · intro e h
      exact nomatch hphase.symm.trans h
    · intro e h
      exact nomatch hleads.symm.trans (Phase.leads_of_tends h)
  apply hs.move hi hm
  apply hok.frame (.refl _) _ fun _ _ h => h
  intro e _ hT
  rcases hm.tended hi e hT with h | ⟨h, -⟩
  · exact .inl h
  · exact absurd h (lt_irrefl _)

/-! ### The steps -/

/-- What may be done to an entry. -/
structure Grows (f : InFlight V → InFlight V) : Prop where
  key : ∀ x, (f x).key = x.key
  result : ∀ x, x.result.isSome → (f x).result.isSome
  notified : ∀ x, x.notified ≤ (f x).notified
  abandoned : ∀ x, x.abandoned → (f x).abandoned

theorem update_self (st : FlightState V) (e : ℕ) (f : InFlight V → InFlight V) :
    (st.update e f).entries e = f (st.entries e) := Function.update_self ..

theorem update_ne (st : FlightState V) {e e' : ℕ} (f : InFlight V → InFlight V) (h : e' ≠ e) :
    (st.update e f).entries e' = st.entries e' := update_of_ne h ..

theorem Grows.evolves (hf : Grows f) (st : FlightState V) (e : ℕ) : Evolves st (st.update e f) := by
  refine ⟨le_rfl, ?_, ?_, ?_, ?_, fun _ h => h⟩
  all_goals
    intro e' _
    by_cases he : e' = e
    · subst he
      rw [update_self]
      first | exact hf.key _ | exact hf.result _ | exact hf.notified _ | exact hf.abandoned _
    · rw [update_ne st f he]
      try exact fun h => h

theorem Move.leader (hs : Inv s) (hf : Grows f)
    (hleads : c.phase.leads = some e) (hphase : phase.leads = some e)
    (htends : phase.tends = some e ∨ Told s e (f (s.state.entries e)))
    (hvalue : ∀ v, (f (s.state.entries e)).result = some v →
      ((s.state.entries e).key, v) ∈ s.state.computed) : Move s c phase (s.state.update e f) where
  evolves := hf.evolves _ _
  leads := fun e' h => .inl (by rw [hleads, ← hphase, h])
  tends := by
    intro e' h
    obtain rfl := some.inj ((Phase.leads_of_tends h).symm.trans hleads)
    rw [update_self]
    exact htends
  mapped := by
    intro c' _ e' _ hne h
    have he : e' ≠ e := fun he => hne (he ▸ hleads)
    refine ⟨h.lookup, ?_⟩
    rw [update_ne _ _ he]
    exact h.abandoned
  map := by
    intro key e' h
    obtain ⟨hlt, hkey⟩ := hs.map key e' h
    exact ⟨hlt, ((hf.evolves s.state e).key e' hlt).trans hkey⟩
  fresh := fun e' h h' => absurd h' (not_lt.mpr h)
  tasks := fun _ h => .inl h
  values := by
    intro e' hlt v hv
    by_cases he : e' = e
    · subst he
      rw [update_self] at hv ⊢
      rw [hf.key]
      exact hvalue v hv
    · rw [update_ne _ _ he] at hv ⊢
      exact hs.values e' hlt v hv

theorem grows_notify :
    Grows fun entry : InFlight V => { entry with notified := entry.notified + 1 } :=
  ⟨fun _ => rfl, fun _ h => h, fun _ => Nat.le_succ _, fun _ h => h⟩

theorem grows_abandon : Grows fun entry : InFlight V => { entry with abandoned := true } :=
  ⟨fun _ => rfl, fun _ h => h, fun _ => le_rfl, fun _ _ => rfl⟩

theorem grows_result (v : V) : Grows fun entry : InFlight V => { entry with result := some v } :=
  ⟨fun _ => rfl, fun _ _ => rfl, fun _ => le_rfl, fun _ h => h⟩

/-- A leader that was cancelled notifies only while nobody has taken its entry without having
registered for the notification. -/
def Heard (s : SingleFlight V) : FlightChoice V → Prop
  | .step i _ => ∀ c ∈ s.callers[i]?,
    match c.phase with
    | .notifying e _ => (s.state.entries e).result.isNone →
      ∀ c' ∈ s.callers, c'.phase ≠ .found e
    | _ => True
  | _ => True

theorem Move.remove (hs : Inv s) (hleads : c.phase.leads = none)
    (hlookup : s.state.inflight.lookup c.key = some e)
    (habandoned : (s.state.entries e).abandoned) :
    Move s c .start (s.state.remove c.key) where
  evolves := .of_entries le_rfl (fun _ _ => rfl) fun _ h => h
  leads := fun e' h => nomatch h
  tends := fun e' h => nomatch (Phase.leads_of_tends h).symm.trans hleads
  mapped := by
    intro c' _ e' _ _ h
    have hne : c'.key ≠ c.key := by
      intro heq
      have hlookup' := h.lookup
      rw [heq, hlookup] at hlookup'
      simp [some.inj hlookup', h.abandoned] at habandoned
    exact ⟨(AList.lookup_erase_ne hne).trans h.lookup, h.abandoned⟩
  map := by
    intro key e' h
    change (s.state.inflight.erase c.key).lookup key = some e' at h
    rw [HashMap.lookup_erase_eq] at h
    split_ifs at h
    exact hs.map key e' h
  fresh := fun e' h h' => absurd h' (not_lt.mpr h)
  tasks := fun t ht => .inl ht
  values := hs.values

theorem insert_entries (st : FlightState V) (key : String) {e : ℕ} (he : e < st.next) :
    (st.insert key).entries e = st.entries e := update_of_ne he.ne ..

theorem insert_entries_next (st : FlightState V) (key : String) :
    (st.insert key).entries st.next = ⟨key, none, 0, false⟩ := Function.update_self ..

theorem Move.insert (hs : Inv s) (hleads : c.phase.leads = none)
    (hlookup : s.state.inflight.lookup c.key = none) :
    Move s c (.computing s.state.next) (s.state.insert c.key) where
  evolves := .of_entries (Nat.le_succ _) (fun e he => insert_entries _ _ he) fun _ h => h
  leads := fun e h => .inr (some.inj h).le
  tends := fun e h => nomatch (Phase.leads_of_tends h).symm.trans hleads
  mapped := by
    intro c' _ e _ _ h
    have hne : c'.key ≠ c.key := by
      intro heq
      have hlookup' := h.lookup
      rw [heq, hlookup] at hlookup'
      cases hlookup'
    refine ⟨(AList.lookup_insert_ne hne).trans h.lookup, ?_⟩
    rw [insert_entries _ _ (hs.map _ _ h.lookup).1]
    exact h.abandoned
  map := by
    intro key e h
    change (s.state.inflight.insert c.key s.state.next).lookup key = some e at h
    rw [HashMap.lookup_insert_eq] at h
    split_ifs at h with hkey
    · obtain rfl := some.inj h
      exact ⟨Nat.lt_succ_self _, by rw [insert_entries_next, hkey]⟩
    · obtain ⟨hlt, hkey'⟩ := hs.map key e h
      exact ⟨hlt.trans (Nat.lt_succ_self _), by rw [insert_entries _ _ hlt, hkey']⟩
  fresh := fun e h h' => congrArg some (Nat.le_antisymm h (Nat.lt_succ_iff.mp h'))
  tasks := fun t ht => .inl ht
  values := by
    intro e h v hv
    rcases Nat.lt_succ_iff_lt_or_eq.mp h with hlt | rfl
    · rw [insert_entries _ _ hlt] at hv ⊢
      exact hs.values e hlt v hv
    · rw [insert_entries_next] at hv
      cases hv

section Step

variable (hs : Inv s) (hi : s.callers[i]? = some c)
include hs hi

theorem Inv.lookUp (hphase : c.phase = .start) :
    Inv ⟨(s.state.lookUp c.key).2,
      s.callers.set i { c with phase := (s.state.lookUp c.key).1 }⟩ := by
  have hleads : c.phase.leads = none := by rw [hphase]; rfl
  unfold FlightState.lookUp
  cases hlookup : s.state.inflight.lookup c.key with
  | some e =>
    simp only
    obtain ⟨hlt, hkey⟩ := hs.map _ _ hlookup
    split_ifs with habandoned
    · exact hs.move hi (.remove hs hleads hlookup habandoned) trivial
    · apply hs.follow hi hleads rfl
      refine ⟨⟨hlt, hkey⟩, ?_⟩
      rcases hs.settled e hlt with h | h | h
      · exact .inl h
      · exact absurd h habandoned
      · exact .inr h
  | none =>
    refine hs.move hi (.insert hs hleads hlookup) ⟨⟨Nat.lt_succ_self _, ?_⟩, ?_, ?_⟩
    · rw [insert_entries_next]
    · exact AList.lookup_insert _
    · rw [insert_entries_next]

theorem Inv.advance {env : FlightEnv V} (hheard : Heard s (.step i env)) :
    Inv ⟨(advance env c s.state).2,
      s.callers.set i { c with phase := (advance env c s.state).1 }⟩ := by
  have hok := hs.ok c (mem_of_getElem? hi)
  have hheard := hheard c hi
  obtain ⟨key, phase⟩ := c
  cases phase with
  | start => exact hs.lookUp hi rfl
  | found e => exact hs.follow hi rfl rfl ⟨hok.1, le_rfl, hok.2.imp_right .inr⟩
  | registered e seen =>
    obtain ⟨hat, hseen, hT⟩ := hok
    simp only [SingleFlight.advance]
    cases hresult : (s.state.entries e).result with
    | some v =>
      apply hs.follow hi rfl rfl
      have := hs.values e hat.lt v hresult
      rwa [hat.key] at this
    | none =>
      apply hs.follow hi rfl rfl
      simp only [hresult, isSome_none, Bool.false_eq_true, or_false] at hT
      exact ⟨hat, hseen, hT⟩
  | waiting e seen =>
    simp only [SingleFlight.advance]
    split_ifs with hlt
    · exact hs.follow hi rfl rfl hok.1
    · exact hs.follow hi rfl rfl hok
  | woken e =>
    simp only [SingleFlight.advance]
    split_ifs with habandoned
    · exact hs.follow hi rfl rfl trivial
    · exact hs.follow hi rfl rfl hok
  | reread e =>
    simp only [SingleFlight.advance]
    cases hresult : (s.state.entries e).result with
    | some v =>
      apply hs.follow hi rfl rfl
      have := hs.values e hok.lt v hresult
      rwa [hok.key] at this
    | none => exact hs.follow hi rfl rfl trivial
  | computing e =>
    refine hs.move hi ⟨.of_entries le_rfl (fun _ _ => rfl) fun _ h => mem_cons_of_mem _ h,
      fun e' h => .inl h, fun e' h => .inl h,
      fun _ _ _ _ _ h => ⟨h.lookup, h.abandoned⟩, hs.map, fun _ h h' => absurd h' (not_lt.mpr h),
      fun _ h => .inl h, fun e' h v hv => mem_cons_of_mem _ (hs.values e' h v hv)⟩ ?_
    exact ⟨⟨hok.1.lt, hok.1.key⟩, ⟨hok.2.lookup, hok.2.abandoned⟩, mem_cons_self⟩
  | writing e v =>
    obtain ⟨hat, hmapped, hv⟩ := hok
    have hm : Move s ⟨key, .writing e v⟩ (.written e v) _ :=
      .leader hs (grows_result v) rfl rfl (.inl rfl) (by
        rintro _ ⟨⟩
        rw [hat.key]
        exact hv)
    refine hs.move hi hm ⟨hat.evolve hm.evolves, ⟨hmapped.lookup, ?_⟩, hv⟩
    change ((s.state.update e fun entry => { entry with result := some v }).entries e).abandoned = _
    rw [update_self]
    exact hmapped.abandoned
  | written e v =>
    have hm : Move s ⟨key, .written e v⟩ (.dropping e (some v)) _ :=
      .leader hs grows_notify rfl rfl (.inl rfl) (hs.values e hok.1.lt)
    refine hs.move hi hm ⟨hok.1.evolve hm.evolves, ?_⟩
    rintro _ ⟨⟩
    exact hok.2.2
  | dropping e out =>
    obtain ⟨hat, hout⟩ := hok
    simp only [SingleFlight.advance]
    by_cases habandoned : (if env.readable then (s.state.entries e).result.isNone else true) = true
    · rw [if_pos habandoned]
      have hm : Move s ⟨key, .dropping e out⟩ (.notifying e out) _ :=
        .leader hs grows_abandon rfl rfl (.inl rfl) (hs.values e hat.lt)
      refine hs.move hi hm ⟨hat.evolve hm.evolves, hout, .inl ?_⟩
      rw [update_self]
    · rw [if_neg habandoned]
      refine hs.move hi (.keep hs (fun _ h => h) fun _ h => h) ⟨hat, hout, .inr ?_⟩
      split_ifs at habandoned with hreadable
      · exact isSome_iff_ne_none.mpr (by simpa using habandoned)
      · exact absurd rfl habandoned
  | notifying e out =>
    have hm : Move s ⟨key, .notifying e out⟩ (.spawning e out) _ :=
      .leader hs grows_notify rfl rfl (.inr ⟨Nat.lt_succ_self _, hok.2.2, ?_⟩)
        (hs.values e hok.1.lt)
    · exact hs.move hi hm ⟨hok.1.evolve hm.evolves, hok.2.1,
        hok.2.2.imp (hm.evolves.abandoned e hok.1.lt) (hm.evolves.result e hok.1.lt)⟩
    · intro c' hc' hfound
      by_contra hresult
      exact hheard (by simpa using hresult) c' hc' hfound
  | spawning e out =>
    refine hs.move hi ⟨.of_entries le_rfl (fun _ _ => rfl) fun _ h => h, ?_,
      nofun, fun _ _ _ _ _ h => ⟨h.lookup, h.abandoned⟩, hs.map,
      fun _ h h' => absurd h' (not_lt.mpr h), ?_, hs.values⟩ ?_
    · intro e' h
      cases out <;> cases h
    · intro t ht
      rcases mem_append.mp ht with ht | ht
      · exact .inl ht
      · obtain rfl := mem_singleton.mp ht
        cases out <;> exact .inr ⟨rfl, rfl⟩
    · cases out with
      | none => trivial
      | some v => exact hok.2.1 v rfl
  | returned v => exact hs.follow hi rfl rfl hok
  | cancelled => exact hs.follow hi rfl rfl trivial

theorem Inv.same : Inv { s with callers := s.callers.set i c } := by
  obtain ⟨hlt, rfl⟩ := List.getElem?_eq_some_iff.mp hi
  rw [List.set_getElem_self]
  exact hs

theorem Inv.cancelLeader (hholds : c.phase.holds = some e) :
    Inv { s with callers := s.callers.set i { c with phase := .dropping e none } } := by
  have hleads := Phase.leads_of_holds hholds
  have hat : At s.state c.key e := by
    have hok := hs.ok c (mem_of_getElem? hi)
    obtain ⟨key, phase⟩ := c
    cases phase <;> simp only [Phase.holds, some.injEq, reduceCtorEq] at hholds
    all_goals
      subst hholds
      exact hok.1
  refine hs.move hi (.keep hs ?_ ?_) ⟨hat, nofun⟩
  · exact fun e' h => hleads.trans h
  · exact fun e' h => hleads.symm.trans (Phase.leads_of_tends h)

theorem Inv.cancel :
    Inv { s with callers := s.callers.set i { c with phase := drop c.phase } } := by
  obtain ⟨key, phase⟩ := c
  cases phase with
  | start | registered _ _ | waiting _ _ | reread _ => exact hs.follow hi rfl rfl trivial
  | computing e | writing e v => exact hs.cancelLeader hi rfl
  | _ => exact hs.same hi

end Step

theorem Inv.call (hs : Inv s) (key : String) :
    Inv { s with callers := s.callers ++ [⟨key, .start⟩] } := by
  have hT : ∀ e, Tended s e → Tended { s with callers := s.callers ++ [⟨key, .start⟩] } e :=
    fun e ⟨c, hc, h⟩ => ⟨c, mem_append_left _ hc, h⟩
  refine ⟨?_, ?_, hs.map, fun e he => (hs.settled e he).imp_left (hT e), ?_, hs.values⟩
  · intro c hc
    rcases mem_append.mp hc with hc | hc
    · exact (hs.ok c hc).frame (.refl _) (fun e _ h => .inl (hT e h)) fun _ _ h => h
    · rw [mem_singleton.mp hc]
      trivial
  · intro i j c c' e hi hj h h'
    rcases Interleave.thread_of_spawn hi with hi | rfl
    · rcases Interleave.thread_of_spawn hj with hj | rfl
      · exact hs.unique i j c c' e hi hj h h'
      · cases h'
    · cases h
  · intro t ht
    obtain ⟨hlt, hnone⟩ := hs.tasks t ht
    refine ⟨hlt, fun c hc => ?_⟩
    rcases mem_append.mp hc with hc | hc
    · exact hnone c hc
    · rw [mem_singleton.mp hc]
      simp [Phase.leads]

theorem removeEntry_entries (st : FlightState V) (key : String) (e : ℕ) :
    (st.removeEntry key e).entries = st.entries ∧ (st.removeEntry key e).next = st.next ∧
      (st.removeEntry key e).computed = st.computed := by
  unfold FlightState.removeEntry
  split_ifs <;> exact ⟨rfl, rfl, rfl⟩

theorem lookup_removeEntry (st : FlightState V) {key' : String} {e e' : ℕ} :
    (st.removeEntry key e).inflight.lookup key' = some e' ↔
      st.inflight.lookup key' = some e' ∧ ¬ (key' = key ∧ e' = e) := by
  unfold FlightState.removeEntry
  split_ifs with h
  · change (st.inflight.erase key).lookup key' = some e' ↔ _
    rw [HashMap.lookup_erase_eq]
    split_ifs with hkey
    · subst hkey
      simp [h, eq_comm]
    · simp [hkey]
  · constructor
    · intro h'
      refine ⟨h', ?_⟩
      rintro ⟨rfl, rfl⟩
      exact h h'
    · exact fun h' => h'.1

theorem Inv.task (hs : Inv s) {n : ℕ} (htask : s.state.tasks[n]? = some (key, e)) : Inv { s with
      state := { s.state.removeEntry key e with tasks := s.state.tasks.eraseIdx n } } := by
  obtain ⟨hentries, hnext, hcomputed⟩ := removeEntry_entries s.state key e
  obtain ⟨-, hnone⟩ := hs.tasks _ (mem_of_getElem? htask)
  have hev : Evolves s.state
      { s.state.removeEntry key e with tasks := s.state.tasks.eraseIdx n } :=
    .of_entries hnext.ge (fun e' _ => congrFun hentries e') fun _ h => hcomputed ▸ h
  refine ⟨?_, hs.unique, ?_, ?_, ?_, ?_⟩
  · intro c hc
    apply (hs.ok c hc).frame hev fun _ _ h => .inl h
    intro e' hholds h
    refine ⟨(lookup_removeEntry _).mpr ⟨h.lookup, ?_⟩, ?_⟩
    · rintro ⟨-, rfl⟩
      exact hnone c hc (Phase.leads_of_holds hholds)
    · exact (congrArg (fun entries => (entries e').abandoned) hentries).trans h.abandoned
  · intro key' e' h
    obtain ⟨h, -⟩ := (lookup_removeEntry _).mp h
    obtain ⟨hlt, hkey⟩ := hs.map key' e' h
    exact ⟨hlt.trans_le hev.next, (hev.key e' hlt).trans hkey⟩
  · intro e' he
    have hlt : e' < s.state.next := hnext ▸ he
    rcases hs.settled e' hlt with h | h | h
    · exact .inl h
    · exact .inr (.inl (hev.abandoned e' hlt h))
    · exact .inr (.inr (hev.result e' hlt h))
  · intro t ht
    obtain ⟨hlt, hnone⟩ := hs.tasks t (mem_of_mem_eraseIdx ht)
    exact ⟨hlt.trans_le hev.next, hnone⟩
  · intro e' he v hv
    change ((s.state.removeEntry key e).entries e').result = some v at hv
    change (((s.state.removeEntry key e).entries e').key, v) ∈ (s.state.removeEntry key e).computed
    rw [hentries] at hv ⊢
    rw [hcomputed]
    exact hs.values e' (hnext ▸ he) v hv

theorem Inv.step {choice : FlightChoice V} (hs : Inv s) (hheard : Heard s choice) :
    Inv (step s choice) := by
  cases choice with
  | call key => exact hs.call key
  | step i env =>
    simp only [SingleFlight.step]
    cases hi : s.callers[i]? with
    | none => exact hs
    | some c => exact hs.advance hi hheard
  | cancel i =>
    simp only [SingleFlight.step]
    cases hi : s.callers[i]? with
    | none => exact hs
    | some c => exact hs.cancel hi
  | task n =>
    simp only [SingleFlight.step]
    cases htask : s.state.tasks[n]? with
    | none => exact hs
    | some t => exact hs.task htask

theorem inv_new : Inv (new : SingleFlight V) := by
  refine ⟨?_, ?_, ?_, ?_, ?_, ?_⟩
  · nofun
  · intro i j c c' e hi
    simp [new] at hi
  · intro key e h
    simp [new] at h
  · nofun
  · nofun
  · nofun

abbrev after (choices : List (FlightChoice V)) : SingleFlight V := Transition.run step new choices

/-- In every run whose cancelled leaders are heard: at most one computation runs for a key, whoever
returns has a value that was computed for its key, and whoever waits has been notified, or the
leader of its entry has still to notify. -/
theorem shares_one_computation (choices : List (FlightChoice V))
    (hok : Transition.StepsOk step Heard new choices) :
    (∀ (i j : ℕ) c c' e e', (after choices).callers[i]? = some c →
      (after choices).callers[j]? = some c' → c.key = c'.key → c.phase = .computing e →
        c'.phase = .computing e' → i = j) ∧
    (∀ c ∈ (after choices).callers, ∀ v, c.phase = .returned v →
      (c.key, v) ∈ (after choices).state.computed) ∧
    ∀ c ∈ (after choices).callers, ∀ e seen, c.phase = .waiting e seen →
      seen < ((after choices).state.entries e).notified ∨ Tended (after choices) e := by
  have hs : Inv (after choices) :=
    Transition.run_inv_of_ok (fun s choice hs hheard => hs.step hheard) inv_new hok
  refine ⟨?_, ?_, ?_⟩
  · intro i j c c' e e' hi hj hkey hphase hphase'
    have hok := hs.ok c (mem_of_getElem? hi)
    have hok' := hs.ok c' (mem_of_getElem? hj)
    rw [Ok, hphase] at hok
    rw [Ok, hphase'] at hok'
    have hlookup := hok.2.lookup
    rw [hkey, hok'.2.lookup] at hlookup
    obtain rfl := some.inj hlookup
    exact hs.unique i j c c' e' hi hj (by rw [hphase]; rfl) (by rw [hphase']; rfl)
  · intro c hc v hphase
    have hok := hs.ok c hc
    rwa [Ok, hphase] at hok
  · intro c hc e seen hphase
    have hok := hs.ok c hc
    rw [Ok, hphase] at hok
    exact hok.2.2.symm

instance [DecidableEq V] (s : SingleFlight V) (choice : FlightChoice V) :
    Decidable (Heard s choice) :=
  match choice with
  | .step i _ =>
    have (c : Caller V) : Decidable (match c.phase with
        | .notifying e _ => (s.state.entries e).result.isNone →
          ∀ c' ∈ s.callers, c'.phase ≠ .found e
        | _ => True) :=
      match c.phase with
      | .notifying _ _ => inferInstance
      | .start | .found _ | .registered _ _ | .waiting _ _ | .woken _ | .reread _ | .computing _
      | .writing _ _ | .written _ _ | .dropping _ _ | .spawning _ _ | .returned _ | .cancelled =>
        isTrue trivial
    inferInstanceAs (Decidable (∀ c ∈ s.callers[i]?, _))
  | .call _ | .cancel _ | .task _ => isTrue trivial

/-- The result is readable, and a computation would yield this value. -/
def yielding (v : ℕ) : FlightEnv ℕ := ⟨v, true⟩

/-- The second caller waits when the first, which leads, is cancelled. -/
def heard : List (FlightChoice ℕ) :=
  [.call "k", .step 0 (yielding 1), .call "k", .step 1 (yielding 1), .step 1 (yielding 1),
    .step 1 (yielding 1), .cancel 0, .step 0 (yielding 1), .step 0 (yielding 1)]

theorem shares_one_computation_heard :
    0 < ((after heard).state.entries 0).notified ∨
      Tended (after heard) 0 := by
  have hok : Transition.StepsOk step Heard (new : SingleFlight ℕ) heard := by decide
  exact (shares_one_computation heard hok).2.2 ⟨"k", .waiting 0 0⟩ (by decide) 0 0 rfl

/-- The second caller has taken the entry when the first is cancelled, and registers too late. -/
def unheard : List (FlightChoice ℕ) :=
  [.call "k", .step 0 (yielding 1), .call "k", .step 1 (yielding 1), .cancel 0,
    .step 0 (yielding 1), .step 0 (yielding 1), .step 0 (yielding 1), .task 0,
    .step 1 (yielding 1), .step 1 (yielding 1)]

/-- It waits, the entry is gone from the map, and nobody is left to notify it. -/
theorem wakeup_lost :
    (after unheard).callers =
      [⟨"k", .cancelled⟩, ⟨"k", .waiting 0 1⟩] ∧
    ((after unheard).state.entries 0).notified = 1 ∧
    (after unheard).state.inflight.lookup "k" = none ∧
    (after unheard).state.tasks = [] := by
  decide

end SingleFlight

end StellarRoute.Quote
