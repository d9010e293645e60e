import StellarRoute.Contracts.Sanity.Governance

/-! The three records of registered pools: the flag of each pool, the counter
and the list. Registration by the single admin keeps them together. The two
governance actions write the flag and the counter only, without looking at the
flag first, so the records part as soon as one of them does anything. -/

namespace StellarRoute.Contracts

open Lib Governance List

variable {X : Type} {H : Host X} {auth : Auth} {c : Call} {w w' : World X}

/-- The list has every registered pool once, and the counter its length. -/
structure PoolsAgree (p : Pools) : Prop where
  nodup : p.poolList.Nodup
  mem : ∀ a, a ∈ p.poolList ↔ p.supportedPool a = true
  count : p.poolCount.toNat = p.poolList.length

variable {p : Pools} {pool : Address}

theorem PoolsAgree.ncard (h : PoolsAgree p) :
    {a | p.supportedPool a = true}.ncard = p.poolCount.toNat := by
  have hset : {a | p.supportedPool a = true} = (p.poolList.toFinset : Set Address) := by
    ext a
    simp [h.mem a]
  rw [hset, Set.ncard_coe_finset, toFinset_card_of_nodup h.nodup, h.count]

/-- No pool is registered by a proposal, and one is deregistered only when none
is counted. -/
def PoolsByAdmin (w : World X) : Op X → Prop
  | .invoke auth c => ∀ p, fires auth c w = some p →
      (∀ pool poolType, p.action ≠ .registerPool pool poolType) ∧
      ∀ pool, p.action = .deregisterPool pool → w.pools.poolCount = 0
  | _ => True

theorem poolsByAdmin_of_quiet (h : fires auth c w = none) : PoolsByAdmin w (.invoke auth c) :=
  fun _ hfires => nomatch h.symm.trans hfires

theorem registerPool_eq_ok (h : registerPool H auth pool w = .ok w') :
    w.pools.supportedPool pool = false ∧ ∃ count, w.pools.poolCount.checkedAdd 1 = some count ∧
      w'.pools =
        ⟨Function.update w.pools.supportedPool pool true, count, w.pools.poolList ++ [pool]⟩ := by
  simp only [registerPool, bind_eq_ok, require_eq_ok, requireAuth_eq_ok, okOr_eq_ok, pure_eq_ok,
    exists_const] at h
  obtain ⟨-, _, -, -, -, hnew, count, hcount, rfl⟩ := h
  have ht := (extendPoolTtl_touches (H := H) pool (setSupportedPool H pool w)).pools (by simp)
  rw [ht] at hcount
  refine ⟨hnew, count, hcount, ?_⟩
  have hlist := congrArg (fun p : Pools => Pools.mk p.supportedPool count (p.poolList ++ [pool])) ht
  exact hlist

theorem PoolsAgree.register {count : UInt32} (hp : PoolsAgree p)
    (hnew : p.supportedPool pool = false) (hcount : p.poolCount.checkedAdd 1 = some count) :
    PoolsAgree ⟨Function.update p.supportedPool pool true, count, p.poolList ++ [pool]⟩ := by
  have hlist : pool ∉ p.poolList := by simp [hp.mem, hnew]
  refine ⟨nodup_append_comm.mp (nodup_cons.mpr ⟨hlist, hp.nodup⟩), fun a => ?_, ?_⟩
  · rcases eq_or_ne a pool with rfl | hne
    · simp
    · simp [hne, hp.mem a]
  · have hadd := UInt32.toNat_of_checkedAdd hcount
    rw [length_append, length_singleton, ← hp.count]
    exact hadd

theorem PoolsAgree.deregister (hp : PoolsAgree p) (hzero : p.poolCount = 0) :
    PoolsAgree ⟨Function.update p.supportedPool pool false,
      if 0 < p.poolCount then p.poolCount - 1 else p.poolCount, p.poolList⟩ := by
  have hlist : p.poolList = [] := by
    have := hp.count
    rw [hzero] at this
    exact length_eq_zero_iff.mp this.symm
  have hflag : p.supportedPool pool = false := by
    have := hp.mem pool
    simpa [hlist] using this
  rw [hzero, if_neg (by decide), ← hzero, ← hflag, Function.update_eq_self]
  exact hp

theorem dispatchAction_pools {action : ProposalAction} (h : dispatchAction H action w = .ok w')
    (hregister : ∀ pool poolType, action ≠ .registerPool pool poolType)
    (hzero : ∀ pool, action = .deregisterPool pool → w.pools.poolCount = 0)
    (hw : PoolsAgree w.pools) : PoolsAgree w'.pools := by
  cases action <;> simp only [dispatchAction, bind_eq_ok, pure_eq_ok] at h
  case registerPool pool poolType => exact absurd rfl (hregister pool poolType)
  case deregisterPool pool =>
    rw [← h]
    exact hw.deregister (hzero pool rfl)
  case upgrade => exact (executeWasmUpgrade_touches h).pools (by simp) ▸ hw
  case setFeeRate | setFeeConfig => obtain ⟨-, -, rfl⟩ := h; exact hw
  case setFeeTo | pause | unpause => exact h ▸ hw
  all_goals
    obtain ⟨-, -, -, -, rfl⟩ := h
    exact hw

structure PoolsInv (w : World X) : Prop where
  gov : GovInv w.gov
  pools : PoolsAgree w.pools

theorem invoke_poolsInv {r : Ret} (hw : PoolsInv w) (hop : PoolsByAdmin w (.invoke auth c))
    (h : invoke H auth c w = .ok (r, w')) : PoolsInv w' := by
  refine ⟨invoke_govInv hw.gov h, ?_⟩
  cases invoke_outcome hw.gov.keyed h with
  | fired p config v u hfires hbefore _ _ hexec hafter =>
    obtain ⟨hregister, hzero⟩ := hop p hfires
    have hv := hbefore.pools (by simp)
    rw [hafter.pools (by simp)]
    refine dispatchAction_pools hexec.dispatch hregister (fun pool hp => ?_) ?_
    · exact (congrArg Pools.poolCount hv).trans (hzero pool hp)
    · change PoolsAgree v.pools
      exact hv ▸ hw.pools
  | quiet hfires _ ht =>
    by_cases hc : Area.pools ∈ c.quietTouches
    · cases c <;> simp only [Call.quietTouches, Call.touches, mem_cons, not_mem_nil,
        reduceCtorEq, or_false, or_self] at hc
      case registerPool pool =>
        simp only [invoke, noRet_eq_ok] at h
        obtain ⟨hnew, count, hcount, hpools⟩ := registerPool_eq_ok h.2
        exact hpools ▸ hw.pools.register hnew hcount
    · exact ht.pools hc ▸ hw.pools

/-- In every run in which proposals leave the pools alone, the three records agree. -/
theorem pool_records_agree {ledger : UInt32} {wasm : Bytes32} {ext : X} {ops : List (Op X)}
    (hops : Transition.StepsOk (step H) PoolsByAdmin (World.deployed H ledger wasm ext) ops) :
    {a | (run H (World.deployed H ledger wasm ext) ops).pools.supportedPool a = true}.ncard =
        (run H (World.deployed H ledger wasm ext) ops).pools.poolCount.toNat ∧
      (run H (World.deployed H ledger wasm ext) ops).pools.poolList.Nodup ∧
      ∀ a, a ∈ (run H (World.deployed H ledger wasm ext) ops).pools.poolList ↔
        (run H (World.deployed H ledger wasm ext) ops).pools.supportedPool a = true := by
  have hstart : PoolsInv (World.deployed H ledger wasm ext) :=
    ⟨govInv_deployed H ledger wasm ext, ⟨nodup_nil, by simp [World.deployed], rfl⟩⟩
  have hend : PoolsInv (run H (World.deployed H ledger wasm ext) ops) :=
    run_keeps_of_ok (fun _ _ _ hw => ⟨hw.gov, hw.pools⟩) (fun _ _ hw => ⟨hw.gov, hw.pools⟩)
      (fun _ _ _ _ _ hw hop h => invoke_poolsInv hw hop h) hstart hops
  exact ⟨hend.pools.ncard, hend.pools.nodup, hend.pools.mem⟩

/-- The admin registers two pools. -/
def twoPools : List (Op Unit) :=
  [quietSetup, .invoke [1] (.registerPool 8), .invoke [1] (.registerPool 9)]

theorem twoPools_agree :
    (run quietHost quietWorld twoPools).pools.poolList = [8, 9] ∧
      {a | (run quietHost quietWorld twoPools).pools.supportedPool a = true}.ncard =
        (run quietHost quietWorld twoPools).pools.poolCount.toNat := by
  have hops : Transition.StepsOk (step quietHost) PoolsByAdmin
      (World.deployed quietHost 1 zeroHash ()) twoPools :=
    ⟨poolsByAdmin_of_quiet (by decide), poolsByAdmin_of_quiet (by decide),
      poolsByAdmin_of_quiet (by decide), trivial⟩
  exact ⟨by decide, (pool_records_agree hops).1⟩

/-- The signers take over the two pools, deregister one and register another. -/
def poolsByProposal : World Unit :=
  run quietHost (run quietHost quietWorld twoPools)
    [.invoke [1] (.migrateToMultisig 1 [1, 2] 1 1000 none),
      .invoke [1] (.propose 1 (.deregisterPool 8)),
      .invoke [1] (.propose 1 (.registerPool 7 .ammConstProd)),
      .invoke [1] (.propose 1 (.registerPool 7 .ammConstProd))]

/-- Pool 8 is still listed, pool 7 is not, and it was counted twice. -/
theorem poolsByProposal_apart :
    Reachable quietHost poolsByProposal ∧
      8 ∈ poolsByProposal.pools.poolList ∧ poolsByProposal.pools.supportedPool 8 = false ∧
      7 ∉ poolsByProposal.pools.poolList ∧ poolsByProposal.pools.supportedPool 7 = true ∧
      poolsByProposal.pools.poolCount = 3 :=
  ⟨(reachable_quietWorld.run _).run _, by decide, by decide, by decide,
    by decide, by decide⟩

end StellarRoute.Contracts
