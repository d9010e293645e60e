import StellarRoute.Lib.Critical
import StellarRoute.Cctp.Spec.Trust

/-! The attestation trust cache. Whatever a query hands out was validated as
part of one generation, built under the refresh lock from one fetch of the Iris
keys, and generation numbers only grow. A generation beyond the staleness limit
is not handed out, and not replaced either. -/

namespace StellarRoute.Cctp

open Lib Lib.Interleave List

/-! ### Validation -/

/-- What attestations are checked against. -/
structure AttesterSetSnapshot.Sound (iris : IrisTrustSnapshot) (snap : AttesterSetSnapshot) :
    Prop where
  sorted : snap.enabledAddresses.Pairwise (· < ·)
  inIris : ∀ a ∈ snap.enabledAddresses, a ∈ iris.addresses
  sameKeys : snap.irisSetHash = iris.setHash
  threshold_pos : 1 ≤ snap.signatureThreshold
  threshold_le : snap.signatureThreshold ≤ snap.enabledAddresses.length

section Validation

variable {ctx : TrustContext} {dest : AttesterDestination} {raw : RawOnChainAttesterSet}
  {iris : IrisTrustSnapshot} {generation : ℕ} {verifiedAt : Time} {source : String}
  {snap : AttesterSetSnapshot}

theorem sound_of_validate (h : validateAttesterSetParity ctx dest raw iris.addresses iris.setHash
    generation verifiedAt source = .ok snap) : snap.Sound iris ∧ snap.generation = generation := by
  unfold validateAttesterSetParity at h
  obtain ⟨_, -, h⟩ := bind_eq_ok.mp h
  obtain ⟨_, hpos, h⟩ := bind_eq_ok.mp h
  obtain ⟨_, -, h⟩ := bind_eq_ok.mp h
  obtain ⟨_, -, h⟩ := bind_eq_ok.mp h
  obtain ⟨_, -, h⟩ := bind_eq_ok.mp h
  obtain ⟨_, -, h⟩ := bind_eq_ok.mp h
  obtain ⟨_, -, h⟩ := bind_eq_ok.mp h
  obtain ⟨_, hle, h⟩ := bind_eq_ok.mp h
  obtain ⟨_, hiris, h⟩ := bind_eq_ok.mp h
  cases h
  rw [require_eq_ok] at hpos hle hiris
  refine ⟨⟨sortDedup_pairwise _, hiris, rfl, Nat.one_le_iff_ne_zero.mpr hpos, hle⟩, rfl⟩

end Validation

/-! ### How a generation is built -/

/-- A reader reported the set, and it was validated against the keys. -/
def ReadValid (ctx : TrustContext) (P : TrustEvent → Prop) (iris : IrisTrustSnapshot)
    (generation : ℕ) (at_ : Time) (dest : AttesterDestination) (snap : AttesterSetSnapshot) : Prop :=
  ∃ reader raw, Did TrustOp.exec P (.readOnChainSet reader) (.ok raw) ∧
    validateAttesterSetParity ctx dest raw iris.addresses iris.setHash generation at_
      (Trust.sourceOf dest) = .ok snap

/-- The generation was built from these events: one fetch of the keys, and both sets validated
against it. -/
structure Built (ctx : TrustContext) (P : TrustEvent → Prop) (g : AttestationTrustGeneration) :
    Prop where
  refreshed : Did TrustOp.exec P .now g.refreshedAt
  keys : ∃ keys, Did TrustOp.exec P .fetchPublicKeys (.ok keys) ∧ g.iris.addresses = sortDedup keys
  sepolia : ReadValid ctx P g.iris g.generation g.refreshedAt .sepolia g.sepolia
  stellar : ReadValid ctx P g.iris g.generation g.refreshedAt .stellarTestnet g.stellar

def refreshLock : Mutex TrustState TrustOp where
  acquires
    | .lock => true
    | _ => false
  releases
    | .unlock => true
    | _ => false
  held := TrustState.locked

/-- The generation number that a call has drawn and not yet used. -/
def drawn : List TrustEvent → Option ℕ
  | [] => none
  | e :: L =>
    match e.op with
    | .nextGeneration => some (e.state.generationCounter + 1)
    | .lock | .unlock | .store _ => none
    | _ => drawn L

/-- What a call does under the lock. -/
def RebuildRule (ctx : TrustContext) (L : List TrustEvent) : TrustOp → Prop
  | .lock | .unlock => False
  | .store g => drawn L = some g.generation ∧ Built ctx (· ∈ L) g
  | _ => True

/-- What a call has done when it performs an operation. -/
def TrustRule (ctx : TrustContext) (L : List TrustEvent) : TrustOp → Prop
  | .unlock | .nextGeneration => refreshLock.inside L
  | .store g => refreshLock.inside L ∧ drawn L = some g.generation ∧ Built ctx (· ∈ L) g
  | _ => True

section Programs

variable {ctx : TrustContext} {P P' : TrustEvent → Prop} {L L' : List TrustEvent}
  {iris : IrisTrustSnapshot} {generation : ℕ} {at_ : Time} {dest : AttesterDestination}
  {snap : AttesterSetSnapshot} {g : AttestationTrustGeneration}

theorem ReadValid.mono (himp : ∀ e, P e → P' e)
    (h : ReadValid ctx P iris generation at_ dest snap) :
    ReadValid ctx P' iris generation at_ dest snap := by
  obtain ⟨reader, raw, hdid, hvalid⟩ := h
  exact ⟨reader, raw, hdid.mono himp, hvalid⟩

theorem Built.mono (himp : ∀ e, P e → P' e) (h : Built ctx P g) : Built ctx P' g where
  refreshed := h.refreshed.mono himp
  keys := by
    obtain ⟨keys, hdid, hkeys⟩ := h.keys
    exact ⟨keys, hdid.mono himp, hkeys⟩
  sepolia := h.sepolia.mono himp
  stellar := h.stellar.mono himp

/-- The sets that the loop has found so far. -/
def FoundValid (ctx : TrustContext) (L : List TrustEvent) (iris : IrisTrustSnapshot)
    (generation : ℕ) (at_ : Time)
    (found : Option AttesterSetSnapshot × Option AttesterSetSnapshot) : Prop :=
  (∀ snap, found.1 = some snap → ReadValid ctx (· ∈ L) iris generation at_ .sepolia snap) ∧
  ∀ snap, found.2 = some snap → ReadValid ctx (· ∈ L) iris generation at_ .stellarTestnet snap

variable {found : Option AttesterSetSnapshot × Option AttesterSetSnapshot}

theorem FoundValid.mono (hL : ∀ e ∈ L, e ∈ L') (h : FoundValid ctx L iris generation at_ found) :
    FoundValid ctx L' iris generation at_ found :=
  ⟨fun snap hsnap => (h.1 snap hsnap).mono hL, fun snap hsnap => (h.2 snap hsnap).mono hL⟩

theorem foundValid_none : FoundValid ctx L iris generation at_ (none, none) := by
  simp [FoundValid]

theorem spec_readSets (readers : List AttesterDestination) (i : ℕ)
    (hfound : FoundValid ctx L iris generation at_ found) :
    Spec TrustOp.exec (RebuildRule ctx) (Trust.readSets ctx iris generation at_ readers i found) L
      fun found' L' => FoundValid ctx L' iris generation at_ found' ∧ drawn L' = drawn L := by
  induction readers generalizing L i found with
  | nil => exact spec_pure ⟨hfound, rfl⟩
  | cons dest readers ih =>
    refine spec_call_bind trivial fun env s => ?_
    refine spec_mk_bind fun raw hraw => ?_
    refine spec_mk_bind fun snap hsnap => ?_
    rw [mapError_eq_ok] at hraw hsnap
    have hlater := hfound.mono fun e he => mem_cons_of_mem ⟨env, s, .readOnChainSet i⟩ he
    have hread : ReadValid ctx (· ∈ (⟨env, s, .readOnChainSet i⟩ : TrustEvent) :: L) iris generation
        at_ dest snap := ⟨i, raw, ⟨env, s, mem_cons_self, hraw⟩, hsnap⟩
    refine (ih (i + 1) ?_).mono fun found' L' _ h => ⟨h.1, h.2⟩
    cases dest with
    | sepolia =>
      refine ⟨fun snap' h => ?_, hlater.2⟩
      cases h
      exact hread
    | stellarTestnet =>
      refine ⟨hlater.1, fun snap' h => ?_⟩
      cases h
      exact hread

theorem spec_buildGeneration :
    Spec TrustOp.exec (RebuildRule ctx) (Trust.buildGeneration ctx) L
      fun g L' => drawn L' = some g.generation ∧ Built ctx (· ∈ L') g := by
  refine spec_call_bind trivial fun env1 s1 => ?_
  refine spec_call_bind trivial fun env2 s2 => ?_
  refine spec_mk_bind fun keys hkeys => ?_
  refine spec_mk_bind fun _ _ => ?_
  refine spec_mk_bind fun _ _ => ?_
  refine spec_call_bind trivial fun env3 s3 => ?_
  rw [mapError_eq_ok] at hkeys
  refine spec_bind (spec_readSets ctx.readers 0 foundValid_none) fun found L' hL hfound => ?_
  refine spec_mk_bind fun sepolia hsepolia => ?_
  refine spec_mk_bind fun stellar hstellar => ?_
  rw [okOr_eq_ok] at hsepolia hstellar
  refine spec_pure ⟨hfound.2, ⟨env1, s1, hL.subset (by simp), rfl⟩, ⟨keys, ?_, rfl⟩,
    hfound.1.1 _ hsepolia, hfound.1.2 _ hstellar⟩
  exact ⟨env2, s2, hL.subset (by simp), hkeys⟩

/-- The check that `checkCurrent` and `ensureFresh` make of the present generation. -/
def Trust.guarded {α : Type} (ctx : TrustContext) (force : Bool) (again kept : Trust α) : Trust α := do
  match ← Trust.perform .load with
  | none => again
  | some gen =>
    if ← Trust.leaveFresh ctx force gen then kept
    else if ← Trust.isStaleBeyond ctx gen then throw .stale
    else again

theorem ensureFresh_eq : Trust.ensureFresh ctx =
    Trust.guarded ctx false (Trust.fullRefresh ctx) (pure ()) := by
  refine congrArg (Prog.op TrustOp.load) (funext fun found => ?_)
  cases found <;> rfl

/-! Reading the clock or the cache is always in order. -/

section Reading

variable {Pre : List TrustEvent → TrustOp → Prop} (hnow : ∀ L, Pre L .now) (hload : ∀ L, Pre L .load)

include hnow in
theorem spec_isStaleBeyond (g : AttestationTrustGeneration) :
    Spec TrustOp.exec Pre (Trust.isStaleBeyond ctx g) L fun stale L' =>
      ∃ env s, L' = ⟨env, s, .now⟩ :: L ∧
        stale = decide (ctx.staleMax < durationSince (s.clock + env.elapsed) g.refreshedAt) :=
  spec_call_bind (hnow L) fun env s => spec_pure ⟨env, s, rfl, rfl⟩

include hnow in
theorem spec_isFresh (g : AttestationTrustGeneration) :
    Spec TrustOp.exec Pre (Trust.isFresh ctx g) L fun _ _ => True :=
  spec_call_bind (hnow L) fun _ _ => spec_pure trivial

include hnow hload in
theorem spec_isReady : Spec TrustOp.exec Pre (Trust.isReady ctx) L fun _ _ => True := by
  refine spec_call_bind (hload L) fun env s => ?_
  split
  · exact spec_pure trivial
  · exact (spec_isStaleBeyond hnow _).reply

include hnow hload in
theorem spec_guarded {α : Type} {again kept : Trust α} (force : Bool)
    (hagain : ∀ L, Spec TrustOp.exec Pre again L fun _ _ => True)
    (hkept : ∀ L, Spec TrustOp.exec Pre kept L fun _ _ => True) :
    Spec TrustOp.exec Pre (Trust.guarded ctx force again kept) L fun _ _ => True := by
  refine spec_call_bind (hload L) fun env s => ?_
  split
  · exact hagain _
  · next gen _ =>
    have hfresh : Spec TrustOp.exec Pre (Trust.leaveFresh ctx force gen) (⟨env, s, .load⟩ :: L)
        fun _ _ => True := by
      cases force with
      | true => exact spec_pure trivial
      | false => exact spec_isFresh hnow gen
    refine spec_bind hfresh fun fresh _ _ _ => ?_
    split_ifs
    · exact hkept _
    · refine spec_bind (spec_isStaleBeyond hnow gen) fun stale _ _ _ => ?_
      split_ifs
      · exact spec_throw
      · exact hagain _

end Reading

theorem spec_rebuild (force : Bool) :
    Spec TrustOp.exec (RebuildRule ctx) (Trust.rebuild ctx force) L fun _ _ => True := by
  have hcheck : Spec TrustOp.exec (RebuildRule ctx) (Trust.checkCurrent ctx force) L fun _ _ => True :=
    spec_guarded (fun _ => trivial) (fun _ => trivial) force (fun _ => spec_pure trivial)
      fun _ => spec_pure trivial
  refine spec_bind hcheck fun again _ _ _ => ?_
  split_ifs
  · refine spec_bind spec_buildGeneration fun g L' _ hbuilt => ?_
    exact (spec_lift_call hbuilt).any
  · exact spec_pure trivial

theorem spec_fullRefreshInner (force : Bool) :
    Spec TrustOp.exec (TrustRule ctx) (Trust.fullRefreshInner ctx force) L fun _ _ => True := by
  refine spec_call_bind trivial fun env s => ?_
  have hquiet : ∀ L o, RebuildRule ctx L o → ¬ refreshLock.acquires o ∧ ¬ refreshLock.releases o := by
    intro L o hrule
    cases o <;> simp_all [RebuildRule, refreshLock]
  have hrule : ∀ L o, RebuildRule ctx L o ∧ refreshLock.inside L → TrustRule ctx L o := by
    intro L o ⟨hrule, hinside⟩
    cases o with
    | nextGeneration => exact hinside
    | store g => exact ⟨hinside, hrule⟩
    | unlock => exact hrule.elim
    | _ => trivial
  have hrebuild : Spec TrustOp.exec (TrustRule ctx)
      (ExceptT.lift (Trust.rebuild ctx force).run : Trust (Except AttestationTrustError Unit))
      (⟨env, s, .lock⟩ :: L) fun _ L' => refreshLock.inside L' := by
    apply spec_lift
    refine Prog.Holds.mono (fun _ _ h => ⟨h.1.1, h.2⟩) (Prog.Holds.mono_pre hrule
      (Mutex.holds_inside hquiet rfl (spec_rebuild force).holds))
  refine spec_bind hrebuild fun result L' _ hinside => ?_
  refine spec_call_bind hinside fun env s => ?_
  exact spec_mk fun _ _ => trivial

theorem spec_ensureFresh :
    Spec TrustOp.exec (TrustRule ctx) (Trust.ensureFresh ctx) L fun _ _ => True := by
  rw [ensureFresh_eq]
  exact spec_guarded (fun _ => trivial) (fun _ => trivial) false
    (fun _ => spec_fullRefreshInner false) fun _ => spec_pure trivial

theorem spec_backgroundTick :
    Spec TrustOp.exec (TrustRule ctx) (Trust.backgroundTick ctx) L fun _ _ => True := by
  have hidle : Spec TrustOp.exec (TrustRule ctx) (Trust.upToDate ctx) L fun _ _ => True := by
    refine spec_bind (spec_isReady (fun _ => trivial) (fun _ => trivial)) fun ready L' _ _ => ?_
    split_ifs
    · refine spec_call_bind trivial fun env s => ?_
      split
      · exact spec_pure trivial
      · exact spec_isFresh (fun _ => trivial) _
    · exact spec_pure trivial
  refine spec_bind hidle fun idle _ _ _ => ?_
  split_ifs
  · exact spec_pure trivial
  · exact spec_tryCatch (spec_fullRefreshInner false) fun _ _ _ => spec_pure trivial

def AttestationTrustGeneration.snapshot (g : AttestationTrustGeneration) :
    AttesterDestination → AttesterSetSnapshot
  | .sepolia => g.sepolia
  | .stellarTestnet => g.stellar

/-- A query loads a generation, reads the clock and hands out one of its sets. -/
def Handed (ctx : TrustContext) (L : List TrustEvent) (dest : AttesterDestination)
    (snap : AttesterSetSnapshot) : Prop :=
  ∃ env1 s1 env2 s2 g, L = [⟨env2, s2, .now⟩, ⟨env1, s1, .load⟩] ∧ s1.state = some g ∧
    durationSince (s2.clock + env2.elapsed) g.refreshedAt ≤ ctx.staleMax ∧ g.snapshot dest = snap

theorem spec_snapshotFor (dest : AttesterDestination) :
    Spec TrustOp.exec (TrustRule ctx) (Trust.snapshotFor ctx dest) [] fun found L =>
      ∀ snap, found = some snap → Handed ctx L dest snap := by
  refine spec_call_bind trivial fun env1 s1 => ?_
  split
  · exact spec_pure fun snap h => nomatch h
  · next gen hgen =>
    refine spec_bind (spec_isStaleBeyond (fun _ => trivial) gen) fun stale L _ hstale => ?_
    obtain ⟨env2, s2, rfl, rfl⟩ := hstale
    split_ifs with hstale
    · exact spec_pure fun snap h => nomatch h
    · have hhanded : Handed ctx [⟨env2, s2, .now⟩, ⟨env1, s1, .load⟩] dest (gen.snapshot dest) :=
        ⟨env1, s1, env2, s2, gen, rfl, hgen, by simpa using hstale, rfl⟩
      cases dest <;> exact spec_pure fun snap h => Option.some.inj h ▸ hhanded

/-- What a query that has handed out a set has done. -/
def TrustCall.Post (ctx : TrustContext) : TrustCall → Except AttestationTrustError TrustAnswer →
    List TrustEvent → Prop
  | .snapshotFor dest, out, L => ∀ snap, out = .ok (.snapshot (some snap)) → Handed ctx L dest snap
  | _, _, _ => True

theorem TrustCall.holds (ctx : TrustContext) (call : TrustCall) :
    (call.start ctx).Holds TrustOp.exec (TrustRule ctx) (call.Post ctx) [] := by
  have hspec : Spec TrustOp.exec (TrustRule ctx) (call.program ctx) [] fun answer L =>
      call.Post ctx (.ok answer) L := by
    cases call with
    | ensureFresh => exact spec_ensureFresh.reply
    | fullRefresh => exact (spec_fullRefreshInner false).reply
    | forceFullRefresh =>
      exact (spec_fullRefreshInner true).reply
    | backgroundTick => exact spec_backgroundTick.reply
    | isReady =>
      exact (spec_isReady (fun _ => trivial) (fun _ => trivial)).reply
    | snapshotFor dest =>
      refine spec_bind (spec_snapshotFor dest) fun found L _ hfound => ?_
      refine spec_pure fun snap h => hfound snap ?_
      cases h
      rfl
  refine Prog.Holds.mono (fun out L h => ?_) hspec.holds
  cases out with
  | error e => cases call <;> first | trivial | exact fun snap h => nomatch h
  | ok answer => exact h.2 answer rfl

end Programs

/-! ### Every run -/

/-- A run in which nobody acquires the refresh lock while it is held. -/
abbrev Exclusive (ctx : TrustContext) (choices : List (Choice TrustEnv TrustCall)) : Prop :=
  Transition.StepsOk (step TrustOp.exec (TrustCall.start ctx)) (Allowed refreshLock.Waits)
    ⟨TrustState.initial, []⟩ choices

/-- The number of the present generation. -/
def TrustState.number (s : TrustState) : ℕ :=
  match s.state with
  | none => 0
  | some g => g.generation

section Run

variable {ctx : TrustContext} {s : TrustState} {env : TrustEnv} {o : TrustOp}
  {choices before mid : List (Choice TrustEnv TrustCall)} {choice : Choice TrustEnv TrustCall}
  {g : AttestationTrustGeneration}

/-- The number that a call inside has drawn is above that of the present generation. -/
def Ahead (L : List TrustEvent) (s : TrustState) : Prop :=
  ∀ n, drawn L = some n → n ≤ s.generationCounter ∧ s.number < n

theorem refreshLock_lawful : refreshLock.Lawful TrustOp.exec where
  acquire env s o h := by
    cases o <;> first | rfl | exact absurd h Bool.false_ne_true
  keep env s o hacq hrel := by
    cases o <;> first | rfl | exact absurd rfl hacq | exact absurd rfl hrel

theorem ahead_inside (env : TrustEnv) {L : List TrustEvent} (hs : s.number ≤ s.generationCounter)
    (hL : refreshLock.inside L → Ahead L s) (hrule : TrustRule ctx L o)
    (hactive : refreshLock.inside L ∨ refreshLock.acquires o) :
    (TrustOp.exec env o s).2.number ≤ (TrustOp.exec env o s).2.generationCounter ∧
      Ahead (⟨env, s, o⟩ :: L) (TrustOp.exec env o s).2 := by
  cases o with
  | nextGeneration =>
    refine ⟨Nat.le_succ_of_le hs, fun n hn => ?_⟩
    cases hn
    exact ⟨le_rfl, Nat.lt_succ_of_le hs⟩
  | store g =>
    have hahead := hL hrule.1 g.generation hrule.2.1
    exact ⟨hahead.1, fun n hn => nomatch hn⟩
  | lock | unlock => exact ⟨hs, fun n hn => nomatch hn⟩
  | now | load | fetchPublicKeys | readOnChainSet reader =>
    exact ⟨hs, hL (hactive.resolve_right Bool.false_ne_true)⟩

theorem trust_guarded (h : Exclusive ctx choices) :
    (trust ctx choices).state.number ≤ (trust ctx choices).state.generationCounter ∧
      refreshLock.Guarded Ahead (trust ctx choices) := by
  refine run_critical (J := fun s => s.number ≤ s.generationCounter) refreshLock_lawful
    (fun _ _ _ h => h) ?_ ?_ ?_ (TrustCall.holds ctx) le_rfl h
  · intro call L o hrule hrel
    cases o with
    | unlock => exact hrule
    | _ => exact absurd hrel Bool.false_ne_true
  · intro call L env s o hs hL hrule _ hactive
    obtain ⟨hnumber, hahead⟩ := ahead_inside env hs hL hrule hactive
    exact ⟨hnumber, fun _ => hahead⟩
  · intro call L env s o hs hrule _ hout hacq
    have hquiet : (TrustOp.exec env o s).2.generationCounter = s.generationCounter ∧
        (TrustOp.exec env o s).2.number = s.number := by
      cases o with
      | nextGeneration => exact absurd hrule hout
      | store g => exact absurd hrule.1 hout
      | _ => exact ⟨rfl, rfl⟩
    rw [hquiet.1, hquiet.2]
    refine ⟨hs, fun L' hL' n hn => ?_⟩
    rw [hquiet.1, hquiet.2]
    exact hL' n hn

theorem trust_snoc (ctx : TrustContext) (choices : List (Choice TrustEnv TrustCall))
    (choice : Choice TrustEnv TrustCall) : trust ctx (choices ++ [choice]) =
      step TrustOp.exec (TrustCall.start ctx) (trust ctx choices) choice := by
  rw [trust, run, Transition.run_concat]
  rfl

theorem number_step (h : Exclusive ctx choices) :
    (trust ctx choices).state.number ≤ (trust ctx (choices ++ [choice])).state.number := by
  rw [trust_snoc]
  rcases step_cases TrustOp.exec (TrustCall.start ctx) (trust ctx choices) choice with
    ⟨call, rfl, hstep⟩ | hstep | ⟨i, env, th, o, k, rfl, hth, hprog, hstep⟩
  · rw [hstep]
  · rw [hstep]
  · rw [hstep]
    have hrule := run_sound TrustState.initial (TrustCall.holds ctx) choices th
      (mem_of_getElem? hth)
    rw [hprog] at hrule
    cases o with
    | store g =>
      obtain ⟨hinside, hdrawn, -⟩ := hrule.1
      have hahead := ((trust_guarded h).2 i th hth hinside).2.1 g.generation hdrawn
      exact hahead.2.le
    | _ => exact le_rfl

theorem number_mono (h : Exclusive ctx (before ++ mid)) :
    (trust ctx before).state.number ≤ (trust ctx (before ++ mid)).state.number := by
  induction mid using reverseRecOn with
  | nil => rw [append_nil]
  | append_singleton mid choice ih =>
    rw [← append_assoc] at h ⊢
    have hbefore := (Transition.stepsOk_append.mp h).1
    exact (ih hbefore).trans (number_step hbefore)

/-- The present generation was built, and not in the future. -/
def Sourced (ctx : TrustContext) (E : TrustEvent → Prop) (s : TrustState) : Prop :=
  ∀ g, s.state = some g → Built ctx E g ∧ g.refreshedAt ≤ s.clock

theorem clock_exec (env : TrustEnv) (s : TrustState) (o : TrustOp) :
    s.clock ≤ (TrustOp.exec env o s).2.clock := by
  have hlater : s.clock ≤ s.clock + env.elapsed := le_add_of_nonneg_right (Int.natCast_nonneg _)
  cases o <;> exact hlater

theorem Sourced.exec {E : TrustEvent → Prop} {L : List TrustEvent} (h : Sourced ctx E s)
    (hL : ∀ e ∈ L, E e ∧ (e.after TrustOp.exec).clock ≤ s.clock) (hrule : TrustRule ctx L o) :
    Sourced ctx E (TrustOp.exec env o s).2 := by
  intro g hg
  have hclock := clock_exec env s o
  cases o with
  | store new =>
    obtain rfl : new = g := Option.some.inj hg
    obtain ⟨-, -, hbuilt⟩ := hrule
    refine ⟨hbuilt.mono fun e he => (hL e he).1, ?_⟩
    obtain ⟨env', s', hmem, hnow⟩ := hbuilt.refreshed
    have hread : new.refreshedAt ≤ s.clock := hnow ▸ (hL _ hmem).2
    exact hread.trans hclock
  | _ =>
    obtain ⟨hbuilt, hpast⟩ := h g hg
    exact ⟨hbuilt, hpast.trans hclock⟩

theorem trust_sourced (ctx : TrustContext) (choices : List (Choice TrustEnv TrustCall)) :
    Sourced ctx (trust ctx choices).Performed (trust ctx choices).state := by
  refine (run_inv (J := Sourced ctx) (R := fun s s' => s.clock ≤ s'.clock) (fun _ => le_rfl)
    (fun _ _ _ => le_trans) (fun env s o _ => clock_exec env s o) ?_ (TrustCall.holds ctx)
    (fun g hg => by cases hg) (Transition.stepsOk_of_forall allowed_true _ _)).1
  intro E call L env s o h hL _ hrule _
  have hlater : Sourced ctx (fun e => E e ∨ e = ⟨env, s, o⟩) s :=
    fun g hg => ⟨(h g hg).1.mono fun e he => .inl he, (h g hg).2⟩
  exact hlater.exec (fun e he => ⟨.inl (hL e he).1, (hL e he).2⟩) hrule

/-- The generation that an event has met. -/
theorem performed_sourced {e : TrustEvent} (he : (trust ctx choices).Performed e) :
    Sourced ctx (trust ctx choices).Performed e.state := by
  obtain ⟨before, rest, rfl, hstate⟩ := performed_moment he
  rw [← hstate]
  intro g hg
  obtain ⟨hbuilt, hpast⟩ := trust_sourced ctx before g hg
  exact ⟨hbuilt.mono fun e he => performed_append he rest, hpast⟩

end Run

def TrustUsers.Returned (p : TrustUsers) (i : ℕ) (dest : AttesterDestination)
    (snap : AttesterSetSnapshot) : Prop :=
  ∃ th : Thread TrustEnv TrustState TrustOp TrustOp.Res TrustCall _, p.threads[i]? = some th ∧
    th.call = .snapshotFor dest ∧ th.prog = .ret (.ok (.snapshot (some snap)))

def TrustUsers.ReadsClock (p : TrustUsers) (i : ℕ) (now : Time) : Prop :=
  ∃ th : Thread TrustEnv TrustState TrustOp TrustOp.Res TrustCall _, p.threads[i]? = some th ∧
    ∃ e ∈ th.trace, e.op = .now ∧ (e.after TrustOp.exec).clock = now

section Queries

variable {ctx : TrustContext} {choices : List (Choice TrustEnv TrustCall)} {i : ℕ}
  {dest : AttesterDestination} {snap : AttesterSetSnapshot}

theorem Built.sound {P : TrustEvent → Prop} {g : AttestationTrustGeneration} (h : Built ctx P g) :
    g.sepolia.Sound g.iris ∧ g.stellar.Sound g.iris ∧
      ∀ dest, (g.snapshot dest).generation = g.generation := by
  obtain ⟨_, _, -, hsepolia⟩ := h.sepolia
  obtain ⟨_, _, -, hstellar⟩ := h.stellar
  obtain ⟨hsound1, hnumber1⟩ := sound_of_validate hsepolia
  obtain ⟨hsound2, hnumber2⟩ := sound_of_validate hstellar
  refine ⟨hsound1, hsound2, fun dest => ?_⟩
  cases dest with
  | sepolia => exact hnumber1
  | stellarTestnet => exact hnumber2

theorem TrustUsers.Returned.handed (h : (trust ctx choices).Returned i dest snap) :
    ∃ th, (trust ctx choices).threads[i]? = some th ∧ Handed ctx th.trace dest snap := by
  obtain ⟨th, hth, hcall, hret⟩ := h
  have hpost := run_sound TrustState.initial (TrustCall.holds ctx) choices th
    (mem_of_getElem? hth)
  rw [hret, hcall] at hpost
  exact ⟨th, hth, hpost snap rfl⟩

theorem TrustUsers.Returned.generation (h : (trust ctx choices).Returned i dest snap) :
    ∃ g now, Built ctx (trust ctx choices).Performed g ∧ g.snapshot dest = snap ∧
      (trust ctx choices).ReadsClock i now ∧ g.refreshedAt ≤ now ∧
      now ≤ g.refreshedAt + ctx.staleMax := by
  obtain ⟨th, hth, env1, s1, env2, s2, g, htrace, hg, hage, hsnap⟩ := h.handed
  have hmem := mem_of_getElem? hth
  have hload : (trust ctx choices).Performed ⟨env1, s1, .load⟩ := ⟨th, hmem, by simp [htrace]⟩
  obtain ⟨hbuilt, hpast⟩ := performed_sourced hload g hg
  have hordered : th.trace.Pairwise fun e e' => (e'.after TrustOp.exec).clock ≤ e.state.clock :=
    (run_ordered (R := fun s s' : TrustState => s.clock ≤ s'.clock) (fun _ => le_rfl)
      (fun _ _ _ => le_trans) clock_exec TrustState.initial choices).2 th hmem
  rw [htrace, pairwise_pair] at hordered
  refine ⟨g, s2.clock + env2.elapsed, hbuilt, hsnap, ⟨th, hth, ⟨env2, s2, .now⟩, ?_, rfl, rfl⟩, ?_,
    sub_le_iff_le_add'.mp (Int.toNat_le.mp hage)⟩
  · simp [htrace]
  · have hload : g.refreshedAt ≤ s2.clock := (hpast.trans (clock_exec env1 s1 .load)).trans hordered
    exact hload.trans (clock_exec env2 s2 .now)

theorem TrustUsers.Returned.number (h : (trust ctx choices).Returned i dest snap) :
    ∃ th, (trust ctx choices).threads[i]? = some th ∧
      ∃ e ∈ th.trace, e.state.number = snap.generation := by
  obtain ⟨th, hth, env1, s1, env2, s2, g, htrace, hg, -, rfl⟩ := h.handed
  have hload : (trust ctx choices).Performed ⟨env1, s1, .load⟩ :=
    ⟨th, mem_of_getElem? hth, by simp [htrace]⟩
  have hnumber := (performed_sourced hload g hg).1.sound.2.2 dest
  refine ⟨th, hth, ⟨env1, s1, .load⟩, by simp [htrace], ?_⟩
  rw [TrustState.number, hg, hnumber]

end Queries

/-- Over every interleaving of refreshes and queries under the refresh lock. A set that a query
returns belongs to a generation that was built as a whole: from one fetch of the Iris keys, both
destinations' sets sorted, among these keys and with a threshold they can meet; and by the clock of
the query the generation is no older than the staleness limit. A client that asks again after an
answer never gets an older generation. -/
theorem snapshots_validated (ctx : TrustContext) (choices : List (Choice TrustEnv TrustCall))
    (hlock : Exclusive ctx choices) :
    (∀ i dest snap, (trust ctx choices).Returned i dest snap →
      ∃ g now, Built ctx (trust ctx choices).Performed g ∧ g.sepolia.Sound g.iris ∧
        g.stellar.Sound g.iris ∧ g.snapshot dest = snap ∧ snap.generation = g.generation ∧
        (trust ctx choices).ReadsClock i now ∧ g.refreshedAt ≤ now ∧
        now ≤ g.refreshedAt + ctx.staleMax) ∧
    ∀ before mid dest dest' i snap snap', choices = before ++ .spawn (.snapshotFor dest') :: mid →
      (trust ctx before).Returned i dest snap →
      (trust ctx choices).Returned (trust ctx before).threads.length dest' snap' →
      snap.generation ≤ snap'.generation := by
  constructor
  · intro i dest snap h
    obtain ⟨g, now, hbuilt, rfl, hclock⟩ := h.generation
    obtain ⟨hsepolia, hstellar, hnumber⟩ := hbuilt.sound
    exact ⟨g, now, hbuilt, hsepolia, hstellar, rfl, hnumber dest, hclock⟩
  · rintro before mid dest dest' i snap snap' rfl hfirst hsecond
    obtain ⟨th, hth, e, he, hnumber⟩ := hfirst.number
    obtain ⟨th', hth', e', he', hnumber'⟩ := hsecond.number
    have hbefore := (Transition.stepsOk_append.mp hlock).1
    -- what the first query saw is not newer than the cache when it has returned
    obtain ⟨past, rest, rfl, hpast⟩ := performed_moment ⟨th, mem_of_getElem? hth, he⟩
    have hseen : snap.generation ≤ (trust ctx (past ++ rest)).state.number := by
      rw [← hnumber, ← hpast]
      exact number_mono hbefore
    -- and what the second one saw is not older
    obtain ⟨th'', hth'', -, hmoments⟩ := call_moments TrustOp.exec (TrustCall.start ctx)
      ⟨TrustState.initial, []⟩ (past ++ rest) (.snapshotFor dest') mid
    obtain rfl : th' = th'' := Option.mem_unique hth' hth''
    obtain ⟨since, choice, hle, hstate, -⟩ := hmoments e' he'
    have hsince : Exclusive ctx ((past ++ rest) ++ .spawn (.snapshotFor dest') :: since) := by
      obtain ⟨later, rfl⟩ := hle
      have hsplit : (past ++ rest) ++ .spawn (.snapshotFor dest') :: (since ++ [choice] ++ later) =
          ((past ++ rest) ++ .spawn (.snapshotFor dest') :: since) ++ ([choice] ++ later) := by simp
      rw [hsplit] at hlock
      exact (Transition.stepsOk_append.mp hlock).1
    rw [← hnumber', ← hstate]
    exact hseen.trans (number_mono hsince)

/-- One attester, known to Iris and enabled on both sides. -/
def soleAttester : EvmAddress := ⟨List.replicate 20 1, List.length_replicate⟩

def soleContext : TrustContext :=
  ⟨fun _ => zero32, fun _ => zero32, 60, 300, [.sepolia, .stellarTestnet]⟩

def soleAnswers (elapsed : ℕ) : TrustEnv :=
  ⟨elapsed, .ok [soleAttester], fun _ => .ok ⟨1, [soleAttester], none⟩⟩

def soleRefresh : List (Choice TrustEnv TrustCall) :=
  .spawn .fullRefresh :: List.replicate 9 (.step 0 (soleAnswers 1))

/-- A query after the refresh. -/
def soleQuery : List (Choice TrustEnv TrustCall) :=
  soleRefresh ++ .spawn (.snapshotFor .sepolia) :: List.replicate 2 (.step 1 (soleAnswers 1))

def soleSnapshot : AttesterSetSnapshot :=
  ⟨.sepolia, 1, [soleAttester], zero32, zero32, 1, 3, none, "evm_message_transmitter_v2", 1⟩

theorem soleQuery_returned : (trust soleContext soleQuery).Returned 1 .sepolia soleSnapshot := by
  have hout : (trust soleContext soleQuery).outcome 1 =
      some (.ok (.snapshot (some soleSnapshot))) := by decide
  have hcall : (trust soleContext soleQuery).threads[1]?.map (fun th => th.call) =
      some (.snapshotFor .sepolia) := rfl
  obtain ⟨th, hth, hret⟩ := Pool.ret_of_outcome hout
  rw [hth] at hcall
  exact ⟨th, hth, Option.some.inj hcall, hret⟩

theorem soleQuery_exclusive : Exclusive soleContext soleQuery := by
  have hfree : ∀ (env : TrustEnv) (s : TrustState) (o : TrustOp),
      (!refreshLock.acquires o || !s.locked) = true → refreshLock.Waits env s o := by
    intro env s o h hacq
    rw [hacq] at h
    exact Bool.not_eq_true' _ ▸ h
  exact stepsOk_of_check hfree (by decide)

theorem snapshots_validated_query :
    (trust soleContext soleQuery).Returned 1 .sepolia soleSnapshot ∧
    ∃ (g : AttestationTrustGeneration) (now : Time), g.sepolia.Sound g.iris ∧
      g.snapshot .sepolia = soleSnapshot ∧ (trust soleContext soleQuery).ReadsClock 1 now ∧
      now ≤ g.refreshedAt + 300 := by
  obtain ⟨g, now, -, hsepolia, -, hsnap, -, hclock, -, hage⟩ := (snapshots_validated soleContext
    soleQuery soleQuery_exclusive).1 1 .sepolia soleSnapshot soleQuery_returned
  exact ⟨soleQuery_returned, g, now, hsepolia, hsnap, hclock, hage⟩

end StellarRoute.Cctp
