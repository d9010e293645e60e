import StellarRoute.Contracts.Sanity.Books
import StellarRoute.Contracts.Sanity.Upgrades

/-! The lifetimes that `get_ttl_status` reports. The report counts from one
ledger, the last extension on record, as if every entry had been extended in
full there. The host extends an entry only below its threshold, and only listed
pools are extended at all, so the report can promise more than there is. It does
not in runs in which every extension on record reaches all entries and every new
pool entry lasts as long as the report says. -/

namespace StellarRoute.Contracts

open Lib Governance Function

variable {X : Type} {H : Host X} {auth : Auth} {c : Call} {w w' : World X} {ledger : UInt32}
  {wasm : Bytes32} {ext : X} {ops : List (Op X)}

/-- The report promises no more than the instance and the registered pools have. -/
structure ReportTrue (w : World X) : Prop where
  instance_ : (getTtlStatus w).instanceTtlRemaining.toNat ≤ w.ttl.instanceLiveUntil - w.ledger.toNat
  pools : ∀ p, w.pools.supportedPool p = true →
    (getTtlStatus w).poolsMinTtl.toNat ≤ w.ttl.poolLiveUntil p - w.ledger.toNat

/-- The entry has `extendTo` ledgers left, or `extend_ttl` gives it as many. -/
def ExtendsFully (H : Host X) (now : UInt32) (threshold extendTo liveUntil : ℕ) : Prop :=
  now.toNat + extendTo ≤ liveUntil ∨ liveUntil - now.toNat < threshold ∧ extendTo < H.maxEntryTtl

/-- What is counted from the last extension on is over or within the lifetime. -/
def Covered (w : World X) (extendTo liveUntil : ℕ) : Prop :=
  extendTo + w.ttl.lastTtlExtension.toNat ≤ max w.ledger.toNat liveUntil

/-- The same for a pool entry that is written now and then extended by a rule. -/
def NewPoolCovered (H : Host X) (w : World X) (threshold extendTo : ℕ) : Prop :=
  Covered w POOL_TTL_EXTEND_TO
    (extendTtl H w.ledger threshold extendTo (w.ledger.toNat + H.minPersistentTtl - 1))

/-- The steps that the report can follow. -/
def Reportable (H : Host X) (w : World X) : Op X → Prop
  -- the ledger is put on record, but nothing is extended
  | .invoke _ (.initializeRouter ..) =>
    w.ledger.toNat + INSTANCE_TTL_EXTEND_TO ≤ w.ttl.instanceLiveUntil
  | .invoke _ .extendStorageTtl =>
    ExtendsFully H w.ledger INSTANCE_TTL_THRESHOLD INSTANCE_TTL_EXTEND_TO w.ttl.instanceLiveUntil ∧
      ∀ p, w.pools.supportedPool p = true →
        w.ledger.toNat + POOL_TTL_EXTEND_TO ≤ w.ttl.poolLiveUntil p ∨
          p ∈ w.pools.poolList ∧
            ExtendsFully H w.ledger POOL_TTL_THRESHOLD POOL_TTL_EXTEND_TO (w.ttl.poolLiveUntil p)
  | .invoke _ (.registerPool pool) =>
    w.pools.supportedPool pool = false → NewPoolCovered H w POOL_TTL_THRESHOLD POOL_TTL_EXTEND_TO
  -- a registration by proposal, which extends the entry to 30 days only
  | .invoke auth c =>
    ∀ p pool poolType, fires auth c w = some p → p.action = .registerPool pool poolType →
      w.pools.supportedPool pool = false → NewPoolCovered H w 17280 (17280 * 30)
  | _ => True

/-! Lifetimes that are kept -/

variable {r : Ret} {threshold : ℕ} {p : Address}

theorem invoke_swap_livesKept {sender : Address} {params : SwapParams}
    (hc : c.swap = some (sender, params)) (h : invoke H auth c w = .ok (r, w')) : LivesKept w w' := by
  obtain ⟨s, es, commitment, -, -, h⟩ := invoke_swap_eq_ok hc h
  obtain ⟨w1, first, last, fee, v, u, hs⟩ := executeSwapInternal_swapped h
  have hstart : LivesKept w (swapStart es commitment w) := .of_eq rfl rfl
  have hmoved : LivesKept (swapStart es commitment w) v :=
    .of_eq hs.moved.ttl (by rw [hs.moved.pools])
  have hrest := collectFee_rest hs.collect
  have hcollected : LivesKept v u := .of_eq hrest.ttl (by rw [hrest.pools])
  exact ((hstart.trans hmoved).trans hcollected).trans hs.after.lives

/-! Extensions in full -/

variable {extendTo liveUntil : ℕ} {pool : Address}

theorem ExtendsFully.le {now : UInt32} (h : ExtendsFully H now threshold extendTo liveUntil) :
    now.toNat + extendTo ≤ extendTtl H now threshold extendTo liveUntil := by
  rcases h with h | ⟨hlow, hmax⟩
  · exact h.trans (le_extendTtl ..)
  · rw [extendTtl, if_pos hlow]
    omega

theorem extendPoolEntry_liveUntil (threshold extendTo : ℕ) (pool : Address) (w : World X) :
    (extendPoolEntry H threshold extendTo pool w).ttl.poolLiveUntil =
      Function.update w.ttl.poolLiveUntil pool
        (extendTtl H w.ledger threshold extendTo (w.ttl.poolLiveUntil pool)) := rfl

theorem extendPoolTtl_liveUntil_of_ne (hne : p ≠ pool) (w : World X) :
    (extendPoolTtl H pool w).ttl.poolLiveUntil p = w.ttl.poolLiveUntil p := by
  unfold extendPoolTtl
  split_ifs
  · rw [extendPoolEntry_liveUntil, update_of_ne hne]
  · rfl

/-- The loop of `extend_storage_ttl` comes to every listed pool. -/
theorem foldl_extendPoolTtl_le {l : List Address} (hp : p ∈ l)
    (hsupported : w.pools.supportedPool p = true)
    (hfull : ExtendsFully H w.ledger POOL_TTL_THRESHOLD POOL_TTL_EXTEND_TO (w.ttl.poolLiveUntil p)) :
    w.ledger.toNat + POOL_TTL_EXTEND_TO ≤
      (l.foldl (fun w pool => extendPoolTtl H pool w) w).ttl.poolLiveUntil p := by
  induction l generalizing w with
  | nil => cases hp
  | cons a l ih =>
    rw [List.foldl_cons]
    have htouch := extendPoolTtl_touches (H := H) a w
    have hpools := htouch.pools (by simp)
    rcases eq_or_ne p a with rfl | hne
    · -- the rest of the loop takes nothing back
      have hrest := foldl_extendPoolTtl_touches (H := H) id l (extendPoolTtl H p w)
      have hkept := (foldl_extendPoolTtl_kept (H := H) id l (extendPoolTtl H p w)).lives
      refine le_trans ?_ (hkept.pools p ?_).2
      · rw [extendPoolTtl, isSupportedPool, if_pos hsupported, extendPoolEntry_liveUntil,
          update_self]
        exact hfull.le
      · rw [hrest.pools (by simp), hpools]
        exact hsupported
    · rw [← htouch.ledger]
      apply ih (List.mem_of_ne_of_mem hne hp) (by rwa [hpools])
      rwa [htouch.ledger, extendPoolTtl_liveUntil_of_ne hne]

/-! The invariant -/

/-- The report is covered, and there are no pools before there is an admin. -/
structure LifeInv (w : World X) : Prop where
  office : OfficeInv w
  last : w.ttl.lastTtlExtension ≤ w.ledger
  instance_ : Covered w INSTANCE_TTL_EXTEND_TO w.ttl.instanceLiveUntil
  pools : ∀ p, w.pools.supportedPool p = true → Covered w POOL_TTL_EXTEND_TO (w.ttl.poolLiveUntil p)
  fresh : w.config.admin = none → ∀ p, w.pools.supportedPool p = false

theorem Covered.report_le (h : Covered w extendTo liveUntil)
    (hlast : w.ttl.lastTtlExtension ≤ w.ledger) (hmax : extendTo < 2 ^ 64) :
    (UInt64.ofNat
      (extendTo - (w.ledger.saturatingSub w.ttl.lastTtlExtension).toNat)).toNat ≤
        liveUntil - w.ledger.toNat := by
  have hle := UInt32.le_iff_toNat_le.mp hlast
  unfold Covered at h
  rw [UInt32.toNat_saturatingSub, UInt64.toNat_ofNat', Nat.mod_eq_of_lt (by omega)]
  omega

theorem LifeInv.reportTrue (hw : LifeInv w) : ReportTrue w :=
  ⟨hw.instance_.report_le hw.last (by decide), fun p hp => (hw.pools p hp).report_le hw.last (by decide)⟩

theorem Covered.mono {liveUntil' : ℕ} (h : Covered w extendTo liveUntil)
    (hlast : w'.ttl.lastTtlExtension = w.ttl.lastTtlExtension) (hledger : w.ledger ≤ w'.ledger)
    (hlive : liveUntil ≤ liveUntil') : Covered w' extendTo liveUntil' := by
  unfold Covered at h ⊢
  rw [hlast]
  exact h.trans (max_le_max (UInt32.le_iff_toNat_le.mp hledger) hlive)

theorem LifeInv.congr (hw : LifeInv w) (hoffice : OfficeInv w')
    (hadmin : w'.config.admin = none → w.config.admin = none) (hledger : w.ledger ≤ w'.ledger)
    (hlives : LivesKept w w') : LifeInv w' where
  office := hoffice
  last := by
    rw [hlives.last]
    exact UInt32.le_trans hw.last hledger
  instance_ := hw.instance_.mono hlives.last hledger hlives.instance_
  pools := fun p hp => by
    obtain ⟨hold, hle⟩ := hlives.pools p hp
    exact (hw.pools p hold).mono hlives.last hledger hle
  fresh := fun hnone p => by
    by_contra hp
    have hold := (hlives.pools p (Bool.not_eq_false _ ▸ hp)).1
    simp [hw.fresh (hadmin hnone) p] at hold

theorem LifeInv.record (hoffice : OfficeInv w) (hlast : w.ttl.lastTtlExtension = w.ledger)
    (hinstance : w.ledger.toNat + INSTANCE_TTL_EXTEND_TO ≤ w.ttl.instanceLiveUntil)
    (hpools : ∀ p, w.pools.supportedPool p = true →
      w.ledger.toNat + POOL_TTL_EXTEND_TO ≤ w.ttl.poolLiveUntil p)
    (hfresh : w.config.admin = none → ∀ p, w.pools.supportedPool p = false) : LifeInv w where
  office := hoffice
  last := UInt32.le_of_eq hlast
  instance_ := by
    rw [Covered, hlast, Nat.add_comm]
    exact hinstance.trans (le_max_right _ _)
  pools := fun p hp => by
    rw [Covered, hlast, Nat.add_comm]
    exact (hpools p hp).trans (le_max_right _ _)
  fresh := hfresh

theorem setSupportedPool_liveUntil_of_old (h : w.pools.supportedPool pool = true) :
    (setSupportedPool H pool w).ttl.poolLiveUntil = w.ttl.poolLiveUntil := if_pos h

theorem setSupportedPool_liveUntil_of_new (h : w.pools.supportedPool pool = false) :
    (setSupportedPool H pool w).ttl.poolLiveUntil =
      Function.update w.ttl.poolLiveUntil pool (w.ledger.toNat + H.minPersistentTtl - 1) :=
  if_neg (by simp [h])

theorem setSupportedPool_liveUntil_of_ne (hne : p ≠ pool) :
    (setSupportedPool H pool w).ttl.poolLiveUntil p = w.ttl.poolLiveUntil p := by
  cases h : w.pools.supportedPool pool with
  | true => rw [setSupportedPool_liveUntil_of_old h]
  | false => rw [setSupportedPool_liveUntil_of_new h, update_of_ne hne]

/-- A pool is registered, and besides lifetimes only grow. -/
theorem LifeInv.register (hw : LifeInv w) (hoffice : OfficeInv w')
    (hadmin : w'.config.admin ≠ none) (hledger : w'.ledger = w.ledger) (hlives : LivesKept
      (extendPoolEntry H threshold extendTo pool (setSupportedPool H pool w)) w')
    (hnew : w.pools.supportedPool pool = false → NewPoolCovered H w threshold extendTo) :
    LifeInv w' := by
  have hle : w.ledger ≤ w'.ledger := UInt32.le_of_eq hledger.symm
  have hlast : w'.ttl.lastTtlExtension = w.ttl.lastTtlExtension := hlives.last
  refine ⟨hoffice, ?_, hw.instance_.mono hlast hle hlives.instance_, fun p hp => ?_,
    fun hnone => absurd hnone hadmin⟩
  · rw [hlast, hledger]
    exact hw.last
  · obtain ⟨hset, hlive⟩ := hlives.pools p hp
    rw [extendPoolEntry_liveUntil] at hlive
    rcases eq_or_ne p pool with rfl | hne
    · rw [update_self] at hlive
      cases hold : w.pools.supportedPool p with
      | true =>
        rw [setSupportedPool_liveUntil_of_old hold] at hlive
        exact (hw.pools p hold).mono hlast hle ((le_extendTtl ..).trans hlive)
      | false =>
        rw [setSupportedPool_liveUntil_of_new hold, update_self] at hlive
        exact (hnew hold).mono hlast hle hlive
    · have hold : w.pools.supportedPool p = true := (update_of_ne hne _ _).symm.trans hset
      rw [update_of_ne hne, setSupportedPool_liveUntil_of_ne hne] at hlive
      exact (hw.pools p hold).mono hlast hle hlive

/-! Steps -/

theorem registerPool_lifeInv (hw : LifeInv w) (hoffice : OfficeInv w') (hnew : w.pools.supportedPool
      pool = false → NewPoolCovered H w POOL_TTL_THRESHOLD POOL_TTL_EXTEND_TO)
    (h : registerPool H auth pool w = .ok w') : LifeInv w' := by
  simp only [registerPool, bind_eq_ok, getAdmin_eq_ok, pure_eq_ok] at h
  obtain ⟨-, -, admin, hadmin, -, -, -, -, -, -, count, -, rfl⟩ := h
  have hset : isSupportedPool (setSupportedPool H pool w) pool = true := update_self ..
  rw [extendPoolTtl, if_pos hset] at hoffice ⊢
  refine hw.register hoffice ?_ rfl ?_ hnew
  · change w.config.admin ≠ none
    rw [hadmin]
    exact nofun
  · exact ⟨rfl, le_extendTtl .., fun _ hp => ⟨hp, le_rfl⟩⟩

theorem Dispatched.lifeInv {p : Proposal} {v u : World X} (h : Dispatched H auth c w w' p v u)
    (hw : LifeInv w) (hoffice : OfficeInv w') (hledger : w'.ledger = w.ledger)
    (hadmin : w'.config.admin = none → w.config.admin = none)
    (hnew : ∀ pool poolType, p.action = .registerPool pool poolType →
      w.pools.supportedPool pool = false → NewPoolCovered H w 17280 (17280 * 30)) : LifeInv w' := by
  by_cases haction : ∃ pool poolType, p.action = .registerPool pool poolType
  · obtain ⟨pool, poolType, haction⟩ := haction
    have hdispatch := h.dispatch
    rw [haction] at hdispatch
    obtain ⟨-, hsupported, httl⟩ := dispatch_registerPool_eq_ok hdispatch
    have hlives :
        LivesKept (extendPoolEntry H 17280 (17280 * 30) pool (setSupportedPool H pool w)) u := by
      refine .of_eq ?_ ?_
      · rw [httl, extendPoolEntry, extendPoolEntry, setSupportedPool, setSupportedPool, h.ttl, h.pools,
          h.ledger]
      · rw [hsupported, h.pools]
        rfl
    have hsome : w'.config.admin ≠ none := fun hnone =>
      hw.office.multi (fires_multi h.fires) (hadmin hnone)
    exact hw.register hoffice hsome hledger (hlives.trans h.after.lives) (hnew pool poolType haction)
  · have hother := fun pool poolType heq => haction ⟨pool, poolType, heq⟩
    have hlives := (dispatchAction_kept h.dispatch hother).lives
    exact hw.congr hoffice hadmin (UInt32.le_of_eq hledger.symm)
      ((h.before.lives.trans hlives).trans h.after.lives)

theorem extendStorageTtl_lifeInv (hw : LifeInv w) (hoffice : OfficeInv (extendStorageTtl H w))
    (hop : Reportable H w (.invoke auth .extendStorageTtl)) : LifeInv (extendStorageTtl H w) := by
  obtain ⟨hinstance, hpools⟩ := hop
  have htouch := foldl_extendPoolTtl_touches (H := H) id w.pools.poolList (extendInstanceTtl H w)
  have hkept := (foldl_extendPoolTtl_kept (H := H) id w.pools.poolList (extendInstanceTtl H w)).lives
  have hledger : (extendStorageTtl H w).ledger = w.ledger := htouch.ledger
  have hsame : (extendStorageTtl H w).pools = w.pools := htouch.pools (by simp)
  have hadmin : (extendStorageTtl H w).config = w.config := htouch.config (by simp)
  refine .record hoffice rfl ?_ (fun p hp => ?_) (fun hnone p => ?_)
  · rw [hledger]
    exact hinstance.le.trans hkept.instance_
  · rw [hledger]
    rw [hsame] at hp
    rcases hpools p hp with hlong | ⟨hlisted, hfull⟩
    · exact hlong.trans (hkept.pools p (by rwa [htouch.pools (by simp)])).2
    · exact foldl_extendPoolTtl_le (w := extendInstanceTtl H w) hlisted hp hfull
  · rw [hsame]
    exact hw.fresh (hadmin ▸ hnone) p

theorem invoke_lifeInv (hw : LifeInv w) (hop : Reportable H w (.invoke auth c))
    (h : invoke H auth c w = .ok (r, w')) : LifeInv w' := by
  have hoffice := invoke_officeInv hw.office h
  have hledger := (invoke_touches h).ledger
  have hadmin : w'.config.admin = none → w.config.admin = none := fun hnone => by
    by_contra hsome
    exact invoke_admin_ne_none hw.office.gov.keyed hsome h hnone
  have hcongr := hw.congr hoffice hadmin (UInt32.le_of_eq hledger.symm)
  by_cases hplain : c.plain = true
  · exact hcongr (invoke_kept hplain h).lives
  by_cases hswap : ∃ sender params, c.swap = some (sender, params)
  · obtain ⟨sender, params, hswap⟩ := hswap
    exact hcongr (invoke_swap_livesKept hswap h)
  by_cases hgoverns : c.governs = true
  · rcases invoke_dispatched hw.office.gov.keyed hgoverns h with hkept | ⟨p, v, u, hd⟩
    · exact hcongr hkept.lives
    · refine hd.lifeInv hw hoffice hledger hadmin fun pool poolType haction hnew => ?_
      cases c <;> simp only [Call.governs, Bool.false_eq_true] at hgoverns <;>
        exact hop p pool poolType hd.fires haction hnew
  · cases c <;> simp only [Call.plain, not_true_eq_false] at hplain <;>
      simp only [Call.governs, not_true_eq_false] at hgoverns <;>
      simp [Call.swap] at hswap
    case initializeRouter =>
      simp only [invoke, noRet_eq_ok, initializeRouter, bind_eq_ok, require_eq_ok, pure_eq_ok,
        exists_const] at h
      obtain ⟨-, hnone, -, -, rfl⟩ := h
      refine .record hoffice rfl hop (fun p hp => ?_) (by rintro ⟨⟩)
      cases (hw.fresh hnone p).symm.trans hp
    case distributeFees =>
      simp only [invoke, noRet_eq_ok, distributeFees, bind_eq_ok, pure_eq_ok, Prod.exists] at h
      obtain ⟨-, config, -, ps, v, hv, rfl⟩ := h
      have hcollected := distributeFeesInternal_collected hv
      exact hcongr (.of_eq hcollected.ttl (by rw [hcollected.pools]))
    case registerPool => exact registerPool_lifeInv hw hoffice hop (noRet_eq_ok.mp h).2
    case extendStorageTtl =>
      simp only [invoke, pure_eq_ok, Prod.mk.injEq] at h
      obtain ⟨-, rfl⟩ := h
      exact extendStorageTtl_lifeInv hw hoffice hop

/-- The report is true in every run in which the instance starts out long enough
for it, every extension that is put on record reaches the instance and all
registered pools, and a new pool entry is not shorter than what is reported. -/
theorem report_true
    (hdeploy : INSTANCE_TTL_EXTEND_TO ≤ max ledger.toNat (ledger.toNat + H.minPersistentTtl - 1))
    (hops : Transition.StepsOk (step H) (Reportable H) (World.deployed H ledger wasm ext) ops) :
    ReportTrue (run H (World.deployed H ledger wasm ext) ops) := by
  have hstart : LifeInv (World.deployed H ledger wasm ext) :=
    ⟨⟨govInv_deployed H ledger wasm ext, nofun, iff_of_true rfl rfl⟩, UInt32.zero_le, hdeploy, nofun,
      fun _ _ => rfl⟩
  apply LifeInv.reportTrue
  refine run_keeps_of_ok (fun w l hl hw => ?_) (fun w x hw => ?_)
    (fun auth c r w w' hw hop h => invoke_lifeInv hw hop h) hstart hops
  · exact hw.congr ⟨hw.office.gov, hw.office.multi, hw.office.version⟩ id hl (.of_eq rfl rfl)
  · exact hw.congr ⟨hw.office.gov, hw.office.multi, hw.office.version⟩ id (UInt32.le_refl _)
      (.of_eq rfl rfl)

/-- The router is extended when all its entries are about to end. -/
def extendedLate : List (Op Unit) :=
  [quietSetup, .invoke [1] (.registerPool 9), .advance 1973599, .invoke [] .extendStorageTtl]

theorem extendedLate_true :
    (getTtlStatus (run quietHost quietWorld extendedLate)).poolsMinTtl.toNat = POOL_TTL_EXTEND_TO ∧
      (run quietHost quietWorld extendedLate).pools.supportedPool 9 = true ∧
      ReportTrue (run quietHost quietWorld extendedLate) := by
  have hops : Transition.StepsOk (step quietHost) (Reportable quietHost)
      (World.deployed quietHost 1 zeroHash ()) extendedLate := by
    refine ⟨?_, fun _ => ?_, trivial, ⟨.inr (by decide), fun p hp => ?_⟩, trivial⟩
    · change (_ : ℕ) ≤ _
      decide
    · change (_ : ℕ) ≤ _
      decide
    · have hp9 : p = 9 := by
        by_contra hne
        have hset : update (fun _ => false) 9 true p = true := hp
        simp [update_of_ne hne] at hset
      subst hp9
      exact .inr ⟨by decide, .inr (by decide)⟩
  exact ⟨by decide, by decide, report_true (by decide) hops⟩

/-- Ten days before the end of all entries the extension reaches neither the
instance, which has more than its threshold left, nor a pool registered by
proposal, which is not listed; the report promises 30 and 90 days. -/
def extendedEarly : List (Op Unit) :=
  [quietSetup, .invoke [1] (.migrateToMultisig 1 [1] 1 1000 none),
    .invoke [1] (.propose 1 (.registerPool 9 .ammConstProd)), .advance 1900799,
    .invoke [] .extendStorageTtl]

theorem extendedEarly_false :
    let w := run quietHost quietWorld extendedEarly
    Reachable quietHost w ∧ ¬ ReportTrue w ∧
      (getTtlStatus w).instanceTtlRemaining = 518400 ∧
      w.ttl.instanceLiveUntil - w.ledger.toNat = 172800 ∧
      w.pools.supportedPool 9 = true ∧
      (getTtlStatus w).poolsMinTtl = 1555200 ∧ w.ttl.poolLiveUntil 9 - w.ledger.toNat = 172800 := by
  refine ⟨reachable_quietWorld.run _, fun h => ?_, by decide, by decide,
    by decide, by decide, by decide⟩
  exact absurd h.instance_ (by decide)

end StellarRoute.Contracts
