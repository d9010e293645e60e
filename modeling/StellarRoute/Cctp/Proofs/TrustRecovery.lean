import StellarRoute.Cctp.Proofs.Trust

/-! When the trust cache recovers. A refresh that finds the present generation
within the staleness limit, or none, replaces it as soon as all its sources
answer. Beyond the limit every way to refresh gives up before it asks anybody:
the cache has failed closed. -/

namespace StellarRoute.Cctp

open Lib Lib.Interleave Option

/-! ### Answers that pass -/

structure RawOnChainAttesterSet.ValidFor (keys : List EvmAddress) (raw : RawOnChainAttesterSet) :
    Prop where
  threshold_pos : raw.signatureThreshold ≠ 0
  threshold_cap : raw.signatureThreshold ≤ MAX_SIGNATURE_THRESHOLD
  threshold_le : raw.signatureThreshold ≤ raw.enabledAddresses.length
  cap : raw.enabledAddresses.length ≤ MAX_ENABLED_ATTESTERS
  nodup : raw.enabledAddresses.Nodup
  inKeys : ∀ a ∈ raw.enabledAddresses, a ∈ keys

structure Answers (ctx : TrustContext) (keys : List EvmAddress) (env : TrustEnv) : Prop where
  fetch : env.fetchPublicKeys = .ok keys
  read : ∀ i, i < ctx.readers.length →
    ∃ raw : RawOnChainAttesterSet, env.readOnChainSet i = .ok raw ∧ raw.ValidFor keys

section Validation

variable {keys : List EvmAddress} {raw : RawOnChainAttesterSet}

theorem validate_of_validFor (ctx : TrustContext) (h : raw.ValidFor keys)
    (dest : AttesterDestination) (generation : ℕ) (verifiedAt : Time) (source : String) :
    ∃ snap, validateAttesterSetParity ctx dest raw (sortDedup keys)
      (irisCandidateHash ctx (sortDedup keys)) generation verifiedAt source = .ok snap := by
  have hlen := length_sortDedup h.nodup
  have hne : raw.enabledAddresses ≠ [] := by
    intro hnil
    have hle := h.threshold_le
    rw [hnil, List.length_nil, Nat.le_zero] at hle
    exact h.threshold_pos hle
  have hcap := h.cap
  have hsmall : (sortDedup raw.enabledAddresses).length < 2 ^ 32 := by
    rw [hlen]
    exact lt_of_le_of_lt hcap (by decide)
  have hiris : ∀ a ∈ sortDedup raw.enabledAddresses, a ∈ sortDedup keys := by
    intro a ha
    rw [mem_sortDedup] at ha ⊢
    exact h.inKeys a ha
  have hle : raw.signatureThreshold ≤ (sortDedup raw.enabledAddresses).length :=
    hlen ▸ h.threshold_le
  simp only [validateAttesterSetParity, bind_eq_ok, require_eq_ok, pure_eq_ok]
  exact ⟨_, (), trivial, (), h.threshold_pos, (), h.threshold_cap, (), hne, (), hcap, (), hlen, (),
      hsmall,
    (), hle, (), hiris, rfl⟩

end Validation

/-! ### A refresh on its own -/

/-- The sources answer, and not after the deadline. -/
def Healthy (ctx : TrustContext) (keys : List EvmAddress) (deadline : Time) (env : TrustEnv)
    (s : TrustState) (_ : TrustOp) : Prop :=
  Answers ctx keys env ∧ s.clock + env.elapsed ≤ deadline

structure Passed (s s' : TrustState) : Prop where
  state : s'.state = s.state
  counter : s'.generationCounter = s.generationCounter
  locked : s'.locked = s.locked
  later : s.clock ≤ s'.clock

section Alone

variable {ctx : TrustContext} {keys : List EvmAddress} {deadline : Time} {s s' s'' : TrustState}
  {G : TrustEnv → TrustState → TrustOp → Prop} {env : TrustEnv}

theorem Passed.refl (s : TrustState) : Passed s s := ⟨rfl, rfl, rfl, le_rfl⟩

theorem Passed.trans (h : Passed s s') (h' : Passed s' s'') : Passed s s'' where
  state := h'.state.trans h.state
  counter := h'.counter.trans h.counter
  locked := h'.locked.trans h.locked
  later := h.later.trans h'.later

theorem passed_after (s : TrustState) (elapsed : ℕ) : Passed s (s.after elapsed) :=
  ⟨rfl, rfl, rfl, le_add_of_nonneg_right (Int.natCast_nonneg _)⟩

/-- Time passes, in the way `G` lets it. -/
def Waited (G : TrustEnv → TrustState → TrustOp → Prop) (s s' : TrustState) : Prop :=
  ∃ env, G env s .now ∧ s' = s.after env.elapsed

theorem Waited.passed (h : Waited G s s') : Passed s s' := by
  obtain ⟨env, -, rfl⟩ := h
  exact passed_after s env.elapsed

variable {T : Time → Prop} (hin : ∀ env s o, G env s o → T (s.clock + env.elapsed))

include hin in
theorem Waited.until (h : Waited G s s') : T s'.clock := by
  obtain ⟨env, hG, rfl⟩ := h
  exact hin env s .now hG

theorem runs_isFresh (g : AttestationTrustGeneration) :
    Runs TrustOp.exec G (Trust.isFresh ctx g) s fun r s' =>
      Waited G s s' ∧ r = .ok (decide (durationSince s'.clock g.refreshedAt ≤ ctx.ttl)) :=
  runs_call_bind fun env hG => runs_pure ⟨⟨env, hG, rfl⟩, rfl⟩

theorem runs_isStaleBeyond (g : AttestationTrustGeneration) :
    Runs TrustOp.exec G (Trust.isStaleBeyond ctx g) s fun r s' =>
      Waited G s s' ∧ r = .ok (decide (ctx.staleMax < durationSince s'.clock g.refreshedAt)) :=
  runs_call_bind fun env hG => runs_pure ⟨⟨env, hG, rfl⟩, rfl⟩

theorem not_stale {later earlier : Time} {limit : ℕ} (h : later ≤ earlier + limit) :
    ¬ limit < durationSince later earlier := by
  have hle : later - earlier ≤ limit := sub_le_iff_le_add'.mpr h
  exact not_lt.mpr (Int.toNat_le.mpr hle)

variable {g : AttestationTrustGeneration}

/-- The generation is older than the limit. -/
structure Stale (ctx : TrustContext) (g : AttestationTrustGeneration) (s : TrustState) : Prop where
  state : s.state = some g
  old : g.refreshedAt + ctx.staleMax < s.clock

theorem Stale.passed (h : Stale ctx g s) (hpassed : Passed s s') :
    Stale ctx g s' := ⟨hpassed.state.trans h.state, h.old.trans_le hpassed.later⟩

theorem stale_iff (hstate : s.state = some g) :
    Stale ctx g s ↔ ctx.staleMax < durationSince s.clock g.refreshedAt := by
  refine ⟨fun h => Int.lt_toNat.mpr (lt_sub_iff_add_lt'.mpr h.old), fun h => ⟨hstate, ?_⟩⟩
  exact lt_sub_iff_add_lt'.mp (Int.lt_toNat.mp h)

include hin in
/-- The outcomes of the check of the present generation. -/
theorem runs_guarded {α : Type} {again kept : Trust α}
    {Post : Except AttestationTrustError α → TrustState → Prop} (force : Bool)
    (hagain : ∀ s', Passed s s' → T s'.clock → (∀ g, ¬ Stale ctx g s') → Runs TrustOp.exec G again s' Post)
    (hkept : ∀ s', Passed s s' → T s'.clock → force = false → s.state.isSome →
      Runs TrustOp.exec G kept s' Post)
    (hthrow : ∀ g s', Passed s s' → T s'.clock → Stale ctx g s' → Post (.error .stale) s') :
    Runs TrustOp.exec G (Trust.guarded ctx force again kept) s Post := by
  refine runs_call_bind fun env hG => ?_
  have hload := passed_after s env.elapsed
  cases hstate : s.state with
  | none =>
    simp only [TrustOp.exec, hstate]
    exact hagain _ hload (hin env s _ hG) fun g h => nomatch hstate.symm.trans h.state
  | some g =>
    simp only [TrustOp.exec, hstate]
    have hfresh : Runs TrustOp.exec G (Trust.leaveFresh ctx force g) (s.after env.elapsed) fun r s' =>
        Passed s s' ∧ T s'.clock ∧ ∃ fresh, r = .ok fresh ∧ (fresh → force = false) := by
      cases force with
      | true =>
        exact runs_pure ⟨hload, hin env s _ hG, false, rfl, fun h => absurd h Bool.false_ne_true⟩
      | false =>
        refine (runs_isFresh g).mono fun r s' h => ?_
        exact ⟨hload.trans h.1.passed, h.1.until hin, _, h.2, fun _ => rfl⟩
    refine runs_bind (hfresh.mono fun r s' h => ?_)
    obtain ⟨hpassed, htime, fresh, rfl, hforce⟩ := h
    dsimp only
    split_ifs with hleave
    · exact hkept s' hpassed htime (hforce hleave) (by rw [hstate]; rfl)
    · refine runs_bind ((runs_isStaleBeyond g).mono fun r s'' h => ?_)
      obtain ⟨hwaited, rfl⟩ := h
      have hend := hpassed.trans hwaited.passed
      have hg : s''.state = some g := hend.state.trans hstate
      dsimp only
      split_ifs with hbeyond
      · exact runs_throw (hthrow g s'' hend (hwaited.until hin)
          ((stale_iff hg).mpr (of_decide_eq_true hbeyond)))
      · refine hagain s'' hend (hwaited.until hin) fun g' h => hbeyond ?_
        obtain rfl := some.inj (hg.symm.trans h.state)
        exact decide_eq_true ((stale_iff hg).mp h)

include hin in
theorem runs_upToDate :
    Runs TrustOp.exec G (Trust.upToDate ctx) s fun r s' => Passed s s' ∧ T s'.clock ∧
      ∃ idle, r = .ok idle ∧ (idle → ∃ g, s.state = some g ∧ ¬ Stale ctx g s) := by
  refine runs_bind (runs_call_bind fun env hG => ?_)
  have hload := passed_after s env.elapsed
  cases hstate : s.state with
  | none =>
    simp only [TrustOp.exec, hstate]
    exact runs_pure (runs_pure ⟨hload, hin env s _ hG, false, rfl, fun h => nomatch h⟩)
  | some g =>
    simp only [TrustOp.exec, hstate]
    refine runs_bind ((runs_isStaleBeyond g).mono fun r s' h => ?_)
    obtain ⟨hwaited, rfl⟩ := h
    have hpassed := hload.trans hwaited.passed
    refine runs_pure ?_
    dsimp only
    split_ifs with hready
    · refine runs_call_bind fun env' hG' => ?_
      have hagain := hpassed.trans (passed_after s' env'.elapsed)
      simp only [TrustOp.exec, hpassed.state, hstate]
      refine (runs_isFresh g).mono fun r s'' h => ?_
      refine ⟨hagain.trans h.1.passed, h.1.until hin, _, h.2, fun _ => ⟨g, rfl, fun hstale => ?_⟩⟩
      have hbeyond := (stale_iff (hpassed.state.trans hstate)).mp (hstale.passed hpassed)
      simp [hbeyond] at hready
    · exact runs_pure ⟨hpassed, hwaited.until hin, false, rfl, fun h => nomatch h⟩

/-! Sources that answer. -/

theorem runs_readSets {generation : ℕ} {at_ : Time} (readers : List AttesterDestination) (i : ℕ)
    (hi : i + readers.length = ctx.readers.length)
    (found : Option AttesterSetSnapshot × Option AttesterSetSnapshot) :
    Runs TrustOp.exec (Healthy ctx keys deadline)
      (Trust.readSets ctx ⟨sortDedup keys, irisCandidateHash ctx (sortDedup keys)⟩ generation at_
        readers i found) s fun r s' => Passed s s' ∧ (s.clock ≤ deadline → s'.clock ≤ deadline) ∧
      ∃ found', r = .ok found' ∧
        (found.1.isSome ∨ .sepolia ∈ readers → found'.1.isSome) ∧
        (found.2.isSome ∨ .stellarTestnet ∈ readers → found'.2.isSome) := by
  induction readers generalizing s i found with
  | nil => exact runs_pure ⟨.refl s, id, found, rfl, by simp, by simp⟩
  | cons dest readers ih =>
    refine runs_call_bind fun env hhealthy => ?_
    have hlt : i < ctx.readers.length := by
      rw [List.length_cons] at hi
      omega
    obtain ⟨raw, hraw, hvalid⟩ := hhealthy.1.read i hlt
    obtain ⟨snap, hsnap⟩ := validate_of_validFor ctx hvalid dest generation at_
      (Trust.sourceOf dest)
    refine runs_mk_bind (mapError_eq_ok.mpr hraw) (runs_mk_bind (mapError_eq_ok.mpr hsnap) ?_)
    have hnext : i + 1 + readers.length = ctx.readers.length := by
      rw [List.length_cons] at hi
      omega
    refine (ih (i + 1) hnext _).mono fun r s' h => ?_
    obtain ⟨hpassed, hintime, found', rfl, hsepolia, hstellar⟩ := h
    refine ⟨(passed_after s env.elapsed).trans hpassed, fun _ => hintime hhealthy.2, found', rfl,
      fun h => hsepolia ?_, fun h => hstellar ?_⟩
    · cases dest <;> simp_all
    · cases dest <;> simp_all

/-- Both destinations have a reader, and the keys are within their limits. -/
structure Complete (ctx : TrustContext) (keys : List EvmAddress) : Prop where
  sepolia : .sepolia ∈ ctx.readers
  stellar : .stellarTestnet ∈ ctx.readers
  keys_ne : keys ≠ []
  keys_cap : keys.length ≤ MAX_IRIS_PUBLIC_KEYS

theorem runs_buildGeneration (hcomplete : Complete ctx keys) :
    Runs TrustOp.exec (Healthy ctx keys deadline) (Trust.buildGeneration ctx) s fun r s' =>
      ∃ g, r = .ok g ∧ g.generation = s.generationCounter + 1 ∧ s.clock ≤ g.refreshedAt ∧
        s'.locked = s.locked ∧ s'.clock ≤ deadline := by
  refine runs_call_bind fun env1 hhealthy1 => ?_
  refine runs_call_bind fun env2 hhealthy2 => ?_
  refine runs_mk_bind (mapError_eq_ok.mpr hhealthy2.1.fetch) ?_
  refine runs_mk_bind (b := ()) (require_eq_ok.mpr hcomplete.keys_ne) ?_
  refine runs_mk_bind (b := ()) (require_eq_ok.mpr hcomplete.keys_cap) ?_
  refine runs_call_bind fun env3 hhealthy3 => ?_
  refine runs_bind ((runs_readSets ctx.readers 0 (Nat.zero_add _) (none, none)).mono
    fun r s' h => ?_)
  obtain ⟨hpassed, hintime, found, rfl, hsepolia, hstellar⟩ := h
  obtain ⟨sepolia, hsepolia⟩ := isSome_iff_exists.mp (hsepolia (.inr hcomplete.sepolia))
  obtain ⟨stellar, hstellar⟩ := isSome_iff_exists.mp (hstellar (.inr hcomplete.stellar))
  refine runs_mk_bind (okOr_eq_ok.mpr hsepolia) (runs_mk_bind (okOr_eq_ok.mpr hstellar) ?_)
  refine runs_pure ⟨_, rfl, rfl, ?_, hpassed.locked, hintime hhealthy3.2⟩
  exact le_add_of_nonneg_right (Int.natCast_nonneg _)

/-- The present generation, if there is one, is not beyond the limit before the deadline. -/
def WithinLimit (ctx : TrustContext) (deadline : Time) (s : TrustState) : Prop :=
  ∀ g, s.state = some g → deadline ≤ g.refreshedAt + ctx.staleMax

/-- The cache is ready at the end, with a new generation or, unless forced, the one it had. -/
structure Recovered (ctx : TrustContext) (force : Bool) (s s' : TrustState) : Prop where
  unlocked : s'.locked = false
  ready : ∃ g, s'.state = some g ∧ durationSince s'.clock g.refreshedAt ≤ ctx.staleMax ∧
    (g.generation = s.generationCounter + 1 ∨ force = false ∧ s.state = some g)

theorem Recovered.of_left (hlimit : WithinLimit ctx deadline s) (hstate : s'.state = s.state)
    (hsome : s.state.isSome) (hintime : s'.clock ≤ deadline) (hunlocked : s'.locked = false) :
    Recovered ctx false s s' := by
  obtain ⟨g, hg⟩ := isSome_iff_exists.mp hsome
  have hready := not_stale (hintime.trans (hlimit g hg))
  exact ⟨hunlocked, g, hstate.trans hg, not_lt.mp hready, .inr ⟨rfl, hg⟩⟩

theorem Recovered.of_passed {force : Bool} (hpassed : Passed s s')
    (h : Recovered ctx force s' s'') : Recovered ctx force s s'' := by
  obtain ⟨hunlocked, g, hstate, hready, hnumber⟩ := h
  rw [hpassed.counter, hpassed.state] at hnumber
  exact ⟨hunlocked, g, hstate, hready, hnumber⟩

section Attempts

variable (hcomplete : Complete ctx keys) (hdeadline : deadline ≤ s.clock + ctx.staleMax)
  (hlimit : WithinLimit ctx deadline s)

include hlimit in
theorem WithinLimit.passed (h : Passed s s') : WithinLimit ctx deadline s' :=
  fun g hg => hlimit g (h.state ▸ hg)

include hlimit in
theorem WithinLimit.not_stale (h : Passed s s') (hin : s'.clock ≤ deadline) : ¬ Stale ctx g s' := by
  intro hstale
  have hlimit := hlimit g (h.state.symm.trans hstale.state)
  exact absurd hstale.old (not_lt.mpr (hin.trans hlimit))

include hcomplete hlimit in
/-- What the refresh does under the lock: as `Recovered`, but for the lock. -/
theorem runs_rebuild (force : Bool) :
    Runs TrustOp.exec (Healthy ctx keys deadline) (Trust.rebuild ctx force) s fun _ s' =>
      s'.clock ≤ deadline ∧
        ((∃ g, s'.state = some g ∧ g.generation = s.generationCounter + 1 ∧ s.clock ≤ g.refreshedAt) ∨
          force = false ∧ s'.state = s.state ∧ s.state.isSome) := by
  refine runs_bind (runs_guarded (T := (· ≤ deadline)) (fun _ _ _ h => h.2) force ?_ ?_ ?_)
  · intro s' hpassed _ _
    refine runs_pure (runs_bind ((runs_buildGeneration hcomplete).mono fun r s'' h => ?_))
    obtain ⟨g, rfl, hnumber, hlater, -, hintime⟩ := h
    refine runs_lift_call fun env hhealthy => ⟨hhealthy.2, .inl ⟨g, rfl, ?_, ?_⟩⟩
    · rw [hnumber, hpassed.counter]
    · exact hpassed.later.trans hlater
  · intro s' hpassed hintime hforce hsome
    exact runs_pure (runs_pure ⟨hintime, .inr ⟨hforce, hpassed.state, hsome⟩⟩)
  · intro g s' hpassed hintime hstale
    exact absurd hstale (hlimit.not_stale hpassed hintime)

include hcomplete hdeadline hlimit in
theorem runs_fullRefreshInner (force : Bool) :
    Runs TrustOp.exec (Healthy ctx keys deadline) (Trust.fullRefreshInner ctx force) s fun _ s' =>
      Recovered ctx force s s' := by
  refine runs_call_bind fun env hhealthy => ?_
  have hlater : s.clock ≤ s.clock + env.elapsed := (passed_after s env.elapsed).later
  have hinner := runs_rebuild (s := { s.after env.elapsed with locked := true }) hcomplete hlimit
    force
  refine runs_bind (runs_lift (hinner.alone.mono fun r s' h => ?_))
  refine runs_call_bind fun env' hhealthy' => runs_mk ?_
  obtain ⟨-, ⟨g, hstate, hnumber, hbuilt⟩ | ⟨rfl, hstate, hsome⟩⟩ := h
  · refine ⟨rfl, g, hstate, not_lt.mp (not_stale ?_), .inl hnumber⟩
    exact (hhealthy'.2.trans hdeadline).trans (Int.add_le_add_right (hlater.trans hbuilt) _)
  · exact .of_left hlimit hstate hsome hhealthy'.2 rfl

variable (hfree : s.locked = false)

include hcomplete hdeadline hlimit hfree in
theorem runs_ensureFresh :
    Runs TrustOp.exec (Healthy ctx keys deadline) (Trust.ensureFresh ctx) s fun _ s' =>
      Recovered ctx false s s' := by
  rw [ensureFresh_eq]
  refine runs_guarded (T := (· ≤ deadline)) (fun _ _ _ h => h.2) false ?_ ?_ ?_
  · exact fun s' h _ _ => (runs_fullRefreshInner hcomplete
      (hdeadline.trans (Int.add_le_add_right h.later _)) (hlimit.passed h) false).mono
        fun _ _ => .of_passed h
  · intro s' hpassed hintime _ hsome
    exact runs_pure (.of_left hlimit hpassed.state hsome hintime (hpassed.locked.trans hfree))
  · intro g s' hpassed hintime hstale
    exact absurd hstale (hlimit.not_stale hpassed hintime)

include hcomplete hdeadline hlimit hfree in
theorem runs_backgroundTick :
    Runs TrustOp.exec (Healthy ctx keys deadline) (Trust.backgroundTick ctx) s fun _ s' =>
      Recovered ctx false s s' := by
  refine runs_bind ((runs_upToDate (T := (· ≤ deadline)) fun _ _ _ h => h.2).mono fun r s' h => ?_)
  obtain ⟨hpassed, hintime, idle, rfl, hready⟩ := h
  dsimp only
  split_ifs with hidle
  · obtain ⟨g, hg, -⟩ := hready hidle
    exact runs_pure (.of_left hlimit hpassed.state (by rw [hg]; rfl) hintime
      (hpassed.locked.trans hfree))
  · refine runs_tryCatch ((runs_fullRefreshInner hcomplete
      (hdeadline.trans (Int.add_le_add_right hpassed.later _)) (hlimit.passed hpassed)
      false).mono fun r s'' h => ?_)
    cases r with
    | ok _ => exact .of_passed hpassed h
    | error _ => exact runs_pure (.of_passed hpassed h)

end Attempts

/-! Beyond the staleness limit. -/

section Stale

variable (hstale : Stale ctx g s)

include hstale

theorem runs_fullRefreshInner_stale (force : Bool) :
    Runs TrustOp.exec G (Trust.fullRefreshInner ctx force) s fun _ s' =>
      Stale ctx g s' ∧ s'.locked = false := by
  refine runs_call_bind fun env _ => ?_
  have hlocked : Stale ctx g { s.after env.elapsed with locked := true } :=
    ⟨hstale.state, (hstale.passed (passed_after s env.elapsed)).old⟩
  have hinner : Runs TrustOp.exec G (Trust.rebuild ctx force)
      { s.after env.elapsed with locked := true } fun _ s' => Stale ctx g s' := by
    refine runs_bind (runs_guarded (T := fun _ => True) (fun _ _ _ _ => trivial) force ?_ ?_ ?_)
    · exact fun s' hpassed _ hnot => absurd (hlocked.passed hpassed) (hnot g)
    · exact fun s' hpassed _ _ _ => runs_pure (runs_pure (hlocked.passed hpassed))
    · exact fun _ s' hpassed _ _ => hlocked.passed hpassed
  refine runs_bind (runs_lift (hinner.alone.mono fun r s' h => ?_))
  refine runs_call_bind fun env' _ => runs_mk ⟨?_, rfl⟩
  exact ⟨h.state, (h.passed (passed_after s' env'.elapsed)).old⟩

theorem runs_ensureFresh_stale (hfree : s.locked = false) :
    Runs TrustOp.exec G (Trust.ensureFresh ctx) s fun _ s' =>
      Stale ctx g s' ∧ s'.locked = false := by
  rw [ensureFresh_eq]
  refine runs_guarded (T := fun _ => True) (fun _ _ _ _ => trivial) false ?_ ?_ ?_
  · exact fun s' hpassed _ hnot => absurd (hstale.passed hpassed) (hnot g)
  · exact fun s' hpassed _ _ _ =>
      runs_pure ⟨hstale.passed hpassed, hpassed.locked.trans hfree⟩
  · exact fun _ s' hpassed _ _ => ⟨hstale.passed hpassed, hpassed.locked.trans hfree⟩

theorem runs_backgroundTick_stale :
    Runs TrustOp.exec G (Trust.backgroundTick ctx) s fun _ s' =>
      Stale ctx g s' ∧ s'.locked = false := by
  refine runs_bind ((runs_upToDate (T := fun _ => True) fun _ _ _ _ => trivial).mono
    fun r s' h => ?_)
  obtain ⟨hpassed, -, idle, rfl, hready⟩ := h
  dsimp only
  split_ifs with hidle
  · obtain ⟨g', hg', hnot⟩ := hready hidle
    obtain rfl := some.inj (hstale.state.symm.trans hg')
    exact absurd hstale hnot
  · refine runs_tryCatch ((runs_fullRefreshInner_stale (hstale.passed hpassed) false).mono
      fun r s'' h => ?_)
    cases r with
    | ok _ => exact h
    | error _ => exact runs_pure h

end Stale

end Alone

/-! ### Recovery -/

def TrustCall.refreshes : TrustCall → Bool
  | .ensureFresh | .fullRefresh | .forceFullRefresh | .backgroundTick => true
  | .isReady | .snapshotFor _ => false

def TrustCall.forced : TrustCall → Bool
  | .forceFullRefresh => true
  | _ => false

theorem alone_of_runs {G : TrustEnv → TrustState → TrustOp → Prop} {x : Trust Unit}
    {s : TrustState} {P : TrustState → Prop} (h : Runs TrustOp.exec G x s fun _ s' => P s') :
    (x >>= fun _ => pure TrustAnswer.done : Trust TrustAnswer).run.Alone TrustOp.exec G
      (fun _ s' => P s') s := by
  refine (runs_bind (h.mono fun r s' hs' => ?_)).alone
  cases r with
  | ok _ => exact runs_pure hs'
  | error _ => exact hs'

/-- An attempt to refresh while the lock is free and all sources answer, over in time, makes the
cache ready with a new generation (or, unless forced, the one that is there), provided that the
present generation is within the staleness limit until the attempt is over. When it is already
beyond the limit, every attempt leaves it as it is, whatever the sources answer. -/
theorem trust_recovers (ctx : TrustContext) (keys : List EvmAddress) (deadline : Time)
    (s : TrustState) (call : TrustCall) (hcomplete : Complete ctx keys)
    (hfree : s.locked = false) (hdeadline : deadline ≤ s.clock + ctx.staleMax)
    (hcall : call.refreshes) :
    (WithinLimit ctx deadline s → (call.start ctx).Alone TrustOp.exec (Healthy ctx keys deadline)
      (fun _ s' => Recovered ctx call.forced s s') s) ∧
    ∀ g, Stale ctx g s → (call.start ctx).Alone TrustOp.exec (fun _ _ _ => True)
      (fun _ s' => Stale ctx g s' ∧ s'.locked = false) s := by
  constructor
  · intro hlimit
    cases call with
    | ensureFresh => exact alone_of_runs (runs_ensureFresh hcomplete hdeadline hlimit hfree)
    | fullRefresh => exact alone_of_runs (runs_fullRefreshInner hcomplete hdeadline hlimit false)
    | forceFullRefresh =>
      exact alone_of_runs (runs_fullRefreshInner hcomplete hdeadline hlimit true)
    | backgroundTick => exact alone_of_runs (runs_backgroundTick hcomplete hdeadline hlimit hfree)
    | isReady | snapshotFor dest => exact absurd hcall Bool.false_ne_true
  · intro g hstale
    cases call with
    | ensureFresh => exact alone_of_runs (runs_ensureFresh_stale hstale hfree)
    | fullRefresh => exact alone_of_runs (runs_fullRefreshInner_stale hstale false)
    | forceFullRefresh => exact alone_of_runs (runs_fullRefreshInner_stale hstale true)
    | backgroundTick => exact alone_of_runs (runs_backgroundTick_stale hstale)
    | isReady | snapshotFor dest => exact absurd hcall Bool.false_ne_true

theorem soleComplete : Complete soleContext [soleAttester] where
  sepolia := by decide
  stellar := by decide
  keys_ne := by decide
  keys_cap := by decide

/-- A forced refresh right after the first one. -/
theorem trust_recovers_forced :
    ((TrustCall.forceFullRefresh).start soleContext).Alone TrustOp.exec
      (Healthy soleContext [soleAttester] 300)
      (fun _ s' => Recovered soleContext true (trust soleContext soleRefresh).state s')
      (trust soleContext soleRefresh).state :=
  (trust_recovers soleContext [soleAttester] 300 (trust soleContext soleRefresh).state
    .forceFullRefresh soleComplete (by decide) (by decide) rfl).1 (by
      intro g hg
      have hat : (trust soleContext soleRefresh).state.state.map (·.refreshedAt) = some 3 := by
        decide
      rw [hg] at hat
      have hat : g.refreshedAt = 3 := some.inj hat
      rw [hat]
      decide)

/-- The cache has been left alone for longer than the staleness limit. -/
def soleOutage : List (Choice TrustEnv TrustCall) :=
  soleRefresh ++ .spawn .isReady :: List.replicate 2 (.step 1 (soleAnswers 301))

/-- Every source answers validly, and no attempt brings the cache back. -/
theorem stale_never_refreshed :
    (∀ elapsed, Answers soleContext [soleAttester] (soleAnswers elapsed)) ∧
    (trust soleContext soleOutage).state.locked = false ∧
    ∀ call ∈ [TrustCall.ensureFresh, .fullRefresh, .forceFullRefresh, .backgroundTick],
      let p := trust soleContext (soleOutage ++
        .spawn call :: List.replicate 12 (.step 2 (soleAnswers 1)) ++
        .spawn .isReady :: List.replicate 2 (.step 3 (soleAnswers 1)))
      (p.outcome 2).isSome ∧ p.state.number = 1 ∧ p.outcome 3 = some (.ok (.ready false)) := by
  refine ⟨fun _ => ⟨rfl, fun _ _ => ⟨_, rfl, by decide, by decide, by decide, by decide, by decide,
    by decide⟩⟩, by decide, ?_⟩
  simp only [List.forall_mem_cons, List.not_mem_nil, false_implies, implies_true, and_true]
  decide

end StellarRoute.Cctp
