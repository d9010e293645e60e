import StellarRoute.Contracts.Proofs.Fees
import StellarRoute.Contracts.Sanity.Governance

/-! The two ways to store a fee configuration. The governance action adds the
shares with a checked addition and accepts exactly the configurations whose
shares make up the whole. The setter of the single admin adds them modulo
`2 ^ 32`, so it also takes shares that come back to the whole after wrapping. -/

namespace StellarRoute.Contracts

open Lib Governance

variable {X : Type} {H : Host X} {auth : Auth} {w v : World X}

/-- The shares added as natural numbers. -/
def FeeConfig.shares (config : FeeConfig) : ℕ := (config.recipients.map (·.shareBps.toNat)).sum

/-- At most five recipients, who share the whole. -/
def FeeConfig.Whole (config : FeeConfig) : Prop :=
  config.recipients.length ≤ 5 ∧ config.shares = 10000

/-- At most five recipients, whose shares exceed the whole by a multiple of `2 ^ 32`. -/
def FeeConfig.Wraps (config : FeeConfig) : Prop :=
  config.recipients.length ≤ 5 ∧ ∃ k, 0 < k ∧ config.shares = 10000 + k * 2 ^ 32

/-! What each of the two accepts -/

/-- The checked sum of shares that fit into a `u32`. -/
theorem checkedTotalBps_of_toNat {rs : List FeeRecipient} {total : UInt32}
    (h : total.toNat = (rs.map (·.shareBps.toNat)).sum) : checkedTotalBps rs = .ok total := by
  have key : ∀ acc : UInt32, total.toNat = acc.toNat + (rs.map (·.shareBps.toNat)).sum →
      rs.foldlM (fun total r => okOr (total.checkedAdd r.shareBps) (fail .invalidFeeConfig)) acc =
        .ok total := by
    clear h
    induction rs with
    | nil =>
      intro acc h
      rw [List.foldlM_nil, pure_eq_ok]
      exact UInt32.toNat_inj.mp (by simpa using h.symm)
    | cons r rs ih =>
      intro acc h
      rw [List.map_cons, List.sum_cons] at h
      have hfits : acc.toNat + r.shareBps.toNat < 2 ^ 32 := by
        have := total.toNat_lt
        omega
      have hadd : acc.checkedAdd r.shareBps = some (acc + r.shareBps) := by
        rw [UInt32.checkedAdd, if_pos hfits]
      rw [List.foldlM_cons, bind_eq_ok]
      refine ⟨acc + r.shareBps, okOr_eq_ok.mpr hadd, ih _ ?_⟩
      rw [UInt32.toNat_of_checkedAdd hadd, h, add_assoc]
  exact key 0 (by simpa using h)

variable {config : FeeConfig}

theorem checkFeeConfig_eq_ok : checkFeeConfig config = .ok () ↔ config.Whole := by
  have hwhole : (10000 : UInt32).toNat = 10000 := rfl
  simp only [checkFeeConfig, bind_eq_ok, require_eq_ok, exists_const]
  constructor
  · rintro ⟨hlen, total, htotal, rfl⟩
    exact ⟨hlen, (toNat_of_checkedTotalBps htotal).symm.trans hwhole⟩
  · rintro ⟨hlen, hsum⟩
    exact ⟨hlen, 10000, checkedTotalBps_of_toNat (hwhole.trans hsum.symm), rfl⟩

theorem dispatch_setFeeConfig_iff :
    (∃ v', dispatchAction H (.setFeeConfig config) v = .ok v') ↔ config.Whole := by
  rw [← checkFeeConfig_eq_ok]
  simp only [dispatchAction, bind_eq_ok, pure_eq_ok]
  constructor
  · rintro ⟨_, _, hcheck, -⟩
    exact hcheck
  · intro hcheck
    exact ⟨_, (), hcheck, rfl⟩

theorem setFeeDistributionConfig_iff {a : Address}
    (hmode : w.gov.isMultiSig = false) (hadmin : w.config.admin = some a) (hauth : a ∈ auth) :
    (∃ w', setFeeDistributionConfig H auth config w = .ok w') ↔
      config.recipients.length ≤ 5 ∧ config.shares % 2 ^ 32 = 10000 := by
  have htotal : totalBps config.recipients = 10000 ↔ config.shares % 2 ^ 32 = 10000 := by
    rw [← UInt32.toNat_inj, toNat_totalBps]
    rfl
  simp only [setFeeDistributionConfig, bind_eq_ok, require_eq_ok, getAdmin_eq_ok, requireAuth_eq_ok,
    pure_eq_ok, exists_const]
  constructor
  · rintro ⟨_, -, _, -, -, ⟨hsum, hlen⟩, -⟩
    exact ⟨hlen, htotal.mp hsum⟩
  · rintro ⟨hlen, hsum⟩
    exact ⟨_, hmode, a, hadmin, hauth, ⟨htotal.mpr hsum, hlen⟩, rfl⟩

theorem FeeConfig.mod_iff_whole (config : FeeConfig) :
    ((config.recipients.length ≤ 5 ∧ config.shares % 2 ^ 32 = 10000) ↔ config.Whole) ↔
      ¬ config.Wraps := by
  rw [FeeConfig.Whole, FeeConfig.Wraps]
  constructor
  · rintro h ⟨hlen, k, hk, hsum⟩
    have := (h.mp ⟨hlen, by omega⟩).2
    omega
  · intro hno
    refine ⟨fun ⟨hlen, hmod⟩ => ⟨hlen, ?_⟩, fun ⟨hlen, hsum⟩ => ⟨hlen, by omega⟩⟩
    by_contra hne
    exact hno ⟨hlen, config.shares / 2 ^ 32, by omega, by omega⟩

/-- For a given configuration both setters decide as they should, the first one
in any single-admin state with the admin's authorization, exactly when the
shares do not wrap. -/
theorem fee_setters_agree_iff {a : Address} (hmode : w.gov.isMultiSig = false)
    (hadmin : w.config.admin = some a) (hauth : a ∈ auth) (config : FeeConfig) :
    ((∃ w', setFeeDistributionConfig H auth config w = .ok w') ↔ config.Whole) ∧
        ((∃ v', dispatchAction H (.setFeeConfig config) v = .ok v') ↔ config.Whole) ↔
      ¬ config.Wraps := by
  rw [setFeeDistributionConfig_iff hmode hadmin hauth, and_iff_left dispatch_setFeeConfig_iff]
  exact config.mod_iff_whole

/-- Two recipients with half each. -/
def evenShares : FeeConfig := ⟨[⟨11, 5000, "team"⟩, ⟨12, 5000, "treasury"⟩], 0, false⟩

/-- The first share is the largest `u32`, the second makes the sum wrap to the whole. -/
def wrappedShares : FeeConfig := ⟨[⟨11, 4294967295, "team"⟩, ⟨12, 10001, "treasury"⟩], 0, false⟩

theorem evenShares_agree :
    ((∃ w', setFeeDistributionConfig quietHost [1] evenShares singleAdmin = .ok w') ↔ evenShares.Whole) ∧
      ((∃ v', dispatchAction quietHost (.setFeeConfig evenShares) singleAdmin = .ok v') ↔
        evenShares.Whole) := by
  refine (fee_setters_agree_iff (a := 1) (by decide) (by decide) (by decide)
    evenShares).mpr ?_
  rintro ⟨-, k, hk, hsum⟩
  have hshares : evenShares.shares = 10000 := rfl
  omega

/-- The single admin can store shares that are far more than the whole; a
proposal cannot. -/
theorem wrappedShares_apart :
    Reachable quietHost singleAdmin ∧
      (∃ w', setFeeDistributionConfig quietHost [1] wrappedShares singleAdmin = .ok w') ∧
      wrappedShares.shares = 4294977296 ∧ ¬ wrappedShares.Whole ∧
      ¬ ∃ v', dispatchAction quietHost (.setFeeConfig wrappedShares) singleAdmin = .ok v' := by
  have hshares : wrappedShares.shares = 4294977296 := rfl
  have hnot : ¬ wrappedShares.Whole := by
    rintro ⟨-, hsum⟩
    omega
  refine ⟨reachable_quietWorld.run _, ?_, hshares, hnot, fun h => hnot (dispatch_setFeeConfig_iff.mp h)⟩
  exact (setFeeDistributionConfig_iff (a := 1) (by decide) (by decide)
    (by decide)).mpr ⟨by decide, by decide⟩

end StellarRoute.Contracts
