import StellarRoute.Contracts.Sanity.Config

/-! What an invocation can do to the version on record, the code in force and
the pending upgrade. There are two ways to new code: the pending upgrade of the
single admin, once its lock is over, and a proposal of the signers. -/

namespace StellarRoute.Contracts

open Lib Governance

variable {X : Type} {H : Host X} {auth : Auth} {c : Call} {w w' : World X}

/-- The version that an upgrade to `hash` puts on record after `v`. -/
def nextVersion (hash : Bytes32) (now : UInt64) (v : ContractVersion) : ContractVersion :=
  { v with patch := v.patch + 1, wasmHash := hash, upgradedAt := now }

def installed (hash : Bytes32) (w : World X) : Upgrades :=
  let v := nextVersion hash w.now (getVersion w)
  { w.upgrades with
    wasm := hash
    contractVersion := some v
    versionHistory := Function.update w.upgrades.versionHistory w.now (some v)
    migrationDone := Function.update w.upgrades.migrationDone (v.major, v.minor, v.patch) true }

def newUpgrade (admin : Address) (hash : Bytes32) (after now : UInt64) : PendingUpgrade :=
  { newWasmHash := hash, proposedAt := now, proposer := admin,
    executeAfter := if after < now + MIN_DELAY_LEDGERS then now + MIN_DELAY_LEDGERS else after }

/-- The ways in which an invocation can leave the record. -/
inductive UpgradeStep (auth : Auth) (c : Call) (w : World X) : Upgrades → Prop
  | same : UpgradeStep auth c w w.upgrades
  | first (admin feeTo : Address) (feeRate : UInt32) (hash : Option Bytes32)
      (hc : c = .initializeRouter admin feeRate feeTo hash) (hadmin : w.config.admin = none) :
      UpgradeStep auth c w (setInitialVersion (hash.getD zeroHash) w).upgrades
  | propose (admin : Address) (hash : Bytes32) (after : UInt64)
      (hc : c = .proposeUpgrade admin hash after) (hadmin : w.config.admin = some admin)
      (hnone : w.upgrades.pendingUpgrade = none) :
      UpgradeStep auth c w
        { w.upgrades with pendingUpgrade := some (newUpgrade admin hash after w.now) }
  | cancel (admin : Address) (p : PendingUpgrade) (hc : c = .cancelUpgrade admin)
      (hp : w.upgrades.pendingUpgrade = some p) :
      UpgradeStep auth c w { w.upgrades with pendingUpgrade := none }
  | execute (admin : Address) (p : PendingUpgrade) (hc : c = .executeUpgrade admin)
      (hadmin : w.config.admin = some admin) (hp : w.upgrades.pendingUpgrade = some p)
      (hlock : p.executeAfter ≤ w.now) :
      UpgradeStep auth c w { installed p.newWasmHash w with pendingUpgrade := none }
  | govern (p : Proposal) (hash : Bytes32) (hfires : fires auth c w = some p)
      (haction : p.action = .upgrade hash) : UpgradeStep auth c w (installed hash w)

variable {hash : Bytes32} {admin : Address}

theorem installed_congr {v : World X} (hupgrades : v.upgrades = w.upgrades)
    (hledger : v.ledger = w.ledger) : installed hash v = installed hash w := by
  simp only [installed, getVersion, World.now, hupgrades, hledger]

theorem executeWasmUpgrade_eq_ok (h : executeWasmUpgrade H hash w = .ok w') :
    w'.upgrades = installed hash w := by
  simp only [executeWasmUpgrade, migrate, bind_eq_ok, pure_eq_ok] at h
  obtain ⟨-, -, -, -, -, -, rfl⟩ := h
  rfl

theorem executeUpgrade_upgradeStep (h : executeUpgrade H auth admin w = .ok w') :
    UpgradeStep auth (.executeUpgrade admin) w w'.upgrades := by
  simp only [executeUpgrade, bind_eq_ok, require_eq_ok, okOr_eq_ok, getAdmin_eq_ok, pure_eq_ok,
    exists_const] at h
  obtain ⟨current, hadmin, rfl, -, -, p, hp, hlock, -, v, hv, rfl⟩ := h
  have hupgrades : v.upgrades = { installed p.newWasmHash w with pendingUpgrade := none } :=
    executeWasmUpgrade_eq_ok hv
  change UpgradeStep auth (.executeUpgrade current) w v.upgrades
  rw [hupgrades]
  exact .execute current p rfl hadmin hp hlock

variable {r : Ret} {u : Upgrades}

/-- Every successful invocation leaves the record in one of these ways, as long
as proposals are stored under their own ids. -/
theorem invoke_upgradeStep (hkey : w.gov.Keyed) (h : invoke H auth c w = .ok (r, w')) :
    UpgradeStep auth c w w'.upgrades := by
  cases invoke_outcome hkey h with
  | fired p config v u hfires hbefore _ _ hexec hafter =>
    have hv : (marked p config v).upgrades = w.upgrades := hbefore.upgrades (by simp)
    rw [hafter.upgrades (by simp)]
    have hdispatch := hexec.dispatch
    cases haction : p.action with
    | upgrade hash =>
      rw [haction] at hdispatch
      rw [executeWasmUpgrade_eq_ok hdispatch, installed_congr hv hbefore.ledger]
      exact .govern p hash hfires haction
    | _ =>
      rw [haction] at hdispatch
      have hu : u.upgrades = (marked p config v).upgrades := by
        refine (?_ : Yields (fun u : World X => u.upgrades = (marked p config v).upgrades) _) _ hdispatch
        repeat refine yields_bind fun _ => ?_
        exact yields_pure rfl
      rw [hu, hv]
      exact .same
  | quiet _ _ ht =>
    by_cases hc : Area.upgrades ∈ c.quietTouches
    · cases c <;> simp only [Call.quietTouches, Call.touches, List.mem_cons, List.not_mem_nil,
        reduceCtorEq, or_false, or_self] at hc <;> simp only [invoke, noRet_eq_ok] at h
      case initializeRouter =>
        simp only [initializeRouter, bind_eq_ok, require_eq_ok, pure_eq_ok, exists_const] at h
        obtain ⟨-, hadmin, -, -, rfl⟩ := h
        exact .first _ _ _ _ rfl hadmin
      case proposeUpgrade =>
        simp only [proposeUpgrade, bind_eq_ok, require_eq_ok, getAdmin_eq_ok, pure_eq_ok,
          exists_const] at h
        obtain ⟨-, -, -, current, hadmin, rfl, -, -, -, -, hnone, rfl⟩ := h
        exact .propose current _ _ rfl hadmin hnone
      case cancelUpgrade =>
        simp only [cancelUpgrade, bind_eq_ok, require_eq_ok, okOr_eq_ok, pure_eq_ok, exists_const] at h
        obtain ⟨-, -, -, p, hp, -, rfl⟩ := h
        exact .cancel _ p rfl hp
      case executeUpgrade => exact executeUpgrade_upgradeStep h.2
    · rw [ht.upgrades hc]
      exact .same

/-! The office and the record are filled together -/

/-- There is an admin as soon as a version is on record, and the signers take
over only from an admin. -/
structure OfficeInv (w : World X) : Prop where
  gov : GovInv w.gov
  multi : w.gov.isMultiSig = true → w.config.admin ≠ none
  version : w.upgrades.contractVersion = none ↔ w.config.admin = none

theorem setAdmin_eq_ok {a : Address} (h : setAdmin H auth a w = .ok w') :
    w.config.admin ≠ none ∧ w'.config.admin = some a := by
  simp only [setAdmin, bind_eq_ok, getAdmin_eq_ok, pure_eq_ok] at h
  obtain ⟨-, -, admin, hadmin, -, -, -, -, -, -, rfl⟩ := h
  exact ⟨by simp [hadmin], rfl⟩

theorem invoke_admin_ne_none (hkey : w.gov.Keyed) (hsome : w.config.admin ≠ none)
    (h : invoke H auth c w = .ok (r, w')) : w'.config.admin ≠ none := by
  rcases (invoke_configEdit hkey h).admin_or with hsame | ⟨hnone, -⟩ | ⟨a, rfl⟩
  · rwa [hsame]
  · exact absurd hnone hsome
  · rw [(setAdmin_eq_ok (noRet_eq_ok.mp h).2).2]
    exact nofun

theorem invoke_no_admin (hw : OfficeInv w) (hnone : w.config.admin = none)
    (hc : ¬ ∃ a feeRate feeTo hash, c = .initializeRouter a feeRate feeTo hash)
    (h : invoke H auth c w = .ok (r, w')) :
    w'.config.admin = none ∧ w'.gov.isMultiSig = w.gov.isMultiSig := by
  constructor
  · rcases (invoke_configEdit hw.gov.keyed h).admin_or with hsame | ⟨-, hinit⟩ | ⟨a, rfl⟩
    · exact hsame.trans hnone
    · exact absurd hinit hc
    · exact absurd hnone (setAdmin_eq_ok (noRet_eq_ok.mp h).2).1
  · rcases invoke_mode hw.gov h with hsame | ⟨admin, signers, threshold, ttl, guardian, rfl⟩
    · exact hsame
    · have hadmin := (migrateToMultisig_edit (noRet_eq_ok.mp h).2).1
      simp [hnone] at hadmin

theorem invoke_officeInv (hw : OfficeInv w) (h : invoke H auth c w = .ok (r, w')) :
    OfficeInv w' := by
  have hgov := invoke_govInv hw.gov h
  have hstep := invoke_upgradeStep hw.gov.keyed h
  by_cases hnone : w.config.admin = none
  · by_cases hc : ∃ a feeRate feeTo hash, c = .initializeRouter a feeRate feeTo hash
    · obtain ⟨a, feeRate, feeTo, hash, rfl⟩ := hc
      simp only [invoke, noRet_eq_ok, initializeRouter, bind_eq_ok, pure_eq_ok] at h
      obtain ⟨-, -, -, -, -, -, -, rfl⟩ := h
      have hadmin := Option.some_ne_none a
      exact ⟨hgov, fun _ => hadmin, iff_of_false (Option.some_ne_none _) hadmin⟩
    · obtain ⟨hadmin, hmode⟩ := invoke_no_admin hw hnone hc h
      refine ⟨hgov, fun hmulti => absurd hnone (hw.multi (hmode ▸ hmulti)), iff_of_true ?_ hadmin⟩
      -- without an admin only the initialization puts a version on record
      generalize w'.upgrades = u at hstep
      cases hstep with
      | same | propose admin hash after hc hadmin hidle | cancel admin p hc hp =>
        exact hw.version.mpr hnone
      | first admin feeTo feeRate hash hinit hadmin =>
        exact absurd ⟨admin, feeRate, feeTo, hash, hinit⟩ hc
      | execute admin p hc hadmin hp hlock => simp [hnone] at hadmin
      | govern p hash hfires haction => exact absurd hnone (hw.multi (fires_multi hfires))
  · have hadmin := invoke_admin_ne_none hw.gov.keyed hnone h
    refine ⟨hgov, fun _ => hadmin, iff_of_false ?_ hadmin⟩
    generalize w'.upgrades = u at hstep
    cases hstep with
    | same | propose admin hash after hc hadmin hidle | cancel admin p hc hp =>
      exact fun hv => hnone (hw.version.mp hv)
    | _ => rintro ⟨⟩

end StellarRoute.Contracts
