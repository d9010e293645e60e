import StellarRoute.Contracts.Sanity.Governance

/-! What an invocation can do to the configuration: one edit at most, and the
checks that came before it. -/

namespace StellarRoute.Contracts

open Lib Governance

variable {X : Type} {H : Host X} {auth : Auth} {c : Call} {w w' : World X}

inductive ConfigEdit (c : Call) (config : Config) : Config → Prop
  | same : ConfigEdit c config config
  | setup (admin feeTo : Address) (feeRate : UInt32) (hash : Option Bytes32)
      (hc : c = .initializeRouter admin feeRate feeTo hash) (hnone : config.admin = none)
      (hrate : feeRate ≤ 1000) :
      ConfigEdit c config { config with
        admin := some admin, feeRate := feeRate, feeTo := some feeTo, paused := false }
  | admin (a : Address) (hc : c = .setAdmin a) (hsome : config.admin ≠ none) :
      ConfigEdit c config { config with admin := some a }
  | feeRate (rate : UInt32) (hrate : rate ≤ 1000) : ConfigEdit c config { config with feeRate := rate }
  | feeTo (a : Address) : ConfigEdit c config { config with feeTo := some a }
  | fees (fees : FeeConfig) : ConfigEdit c config { config with feeConfig := some fees }
  | paused (b : Bool) : ConfigEdit c config { config with paused := b }
  | mev (mev : MevConfig) (hwindow : mev.rateLimitWindowLedgers ≠ 0) (hmax : mev.rateLimitMaxSwaps ≠ 0) :
      ConfigEdit c config { config with mevConfig := some mev }
  | whitelist (f : Address → Bool) : ConfigEdit c config { config with whitelisted := f }
  | price (f : Address → Address → Option I128) : ConfigEdit c config { config with
      latestKnownPrice := f }

theorem dispatchAction_configEdit {action : ProposalAction} (h : dispatchAction H action w = .ok w') :
    ConfigEdit c w.config w'.config := by
  cases action <;> simp only [dispatchAction, bind_eq_ok, require_eq_ok, pure_eq_ok, exists_const] at h
  case setFeeRate rate =>
    obtain ⟨hrate, rfl⟩ := h
    exact .feeRate rate hrate
  case setFeeTo addr => exact h ▸ .feeTo addr
  case setFeeConfig config =>
    obtain ⟨-, -, rfl⟩ := h
    exact .fees config
  case registerPool =>
    obtain ⟨-, -, rfl⟩ := h
    exact .same
  case deregisterPool => exact h ▸ .same
  case pause => exact h ▸ .paused true
  case unpause => exact h ▸ .paused false
  case upgrade => exact (executeWasmUpgrade_touches h).config (by simp) ▸ .same
  all_goals
    obtain ⟨-, -, -, rfl⟩ := h
    exact .same

variable {r : Ret} {config config' : Config}

/-- Every successful invocation makes at most one edit, as long as proposals are
stored under their own ids. -/
theorem invoke_configEdit (hkey : w.gov.Keyed) (h : invoke H auth c w = .ok (r, w')) :
    ConfigEdit c w.config w'.config := by
  cases invoke_outcome hkey h with
  | fired p config v u _ hbefore _ _ hexec hafter =>
    have hedit : ConfigEdit c v.config u.config :=
      dispatchAction_configEdit (w := marked p config v) hexec.dispatch
    rw [hafter.config (by simp), ← hbefore.config (by simp)]
    exact hedit
  | quiet hfires hgov ht =>
    clear hfires hgov
    by_cases hc : Area.config ∈ c.quietTouches
    · cases c <;> simp only [Call.quietTouches, Call.touches, List.mem_cons, List.not_mem_nil,
        reduceCtorEq, or_false, or_self] at hc <;> simp only [invoke, noRet_eq_ok] at h <;>
        obtain ⟨-, h⟩ := h
      case initializeRouter admin feeRate feeTo hash =>
        simp only [initializeRouter, bind_eq_ok, require_eq_ok, pure_eq_ok, exists_const] at h
        obtain ⟨hnone, hrate, -, rfl⟩ := h
        exact .setup admin feeTo feeRate hash rfl hnone hrate
      case setAdmin a =>
        simp only [setAdmin, bind_eq_ok, getAdmin_eq_ok, pure_eq_ok] at h
        obtain ⟨-, -, current, hcurrent, -, -, -, -, -, -, rfl⟩ := h
        exact .admin a rfl (by simp [hcurrent])
      case setFeeDistributionConfig fees =>
        simp only [setFeeDistributionConfig, bind_eq_ok, pure_eq_ok] at h
        obtain ⟨-, -, -, -, -, -, -, -, rfl⟩ := h
        exact .fees fees
      case pause =>
        simp only [pause, bind_eq_ok, pure_eq_ok] at h
        obtain ⟨-, -, -, -, rfl⟩ := h
        exact .paused true
      case unpause =>
        simp only [unpause, bind_eq_ok, pure_eq_ok] at h
        obtain ⟨-, -, -, -, rfl⟩ := h
        exact .paused false
      case guardianPause =>
        simp only [guardianPause, bind_eq_ok, pure_eq_ok] at h
        obtain ⟨-, -, -, -, -, -, rfl⟩ := h
        exact .paused true
      case configureMev mev =>
        simp only [configureMev, bind_eq_ok, require_eq_ok, pure_eq_ok, exists_const] at h
        obtain ⟨-, -, -, -, -, hwindow, hmax, -, -, rfl⟩ := h
        exact .mev mev hwindow hmax
      case setWhitelist =>
        simp only [setWhitelist, bind_eq_ok, pure_eq_ok] at h
        obtain ⟨-, -, -, -, rfl⟩ := h
        exact .whitelist _
      case updateKnownPrice =>
        simp only [updateKnownPrice, bind_eq_ok, pure_eq_ok] at h
        obtain ⟨-, -, -, -, rfl⟩ := h
        exact .price _
    · rw [ht.config hc]
      exact .same

/-- Only `set_admin` and the initialization change the admin. -/
theorem ConfigEdit.admin_or (h : ConfigEdit c config config') : config'.admin = config.admin ∨
      (config.admin = none ∧ ∃ a feeRate feeTo hash, c = .initializeRouter a feeRate feeTo hash) ∨
      ∃ a, c = .setAdmin a := by
  cases h with
  | setup admin feeTo feeRate hash hc hnone hrate =>
    exact .inr (.inl ⟨hnone, admin, feeRate, feeTo, hash, hc⟩)
  | admin a hc hsome => exact .inr (.inr ⟨a, hc⟩)
  | _ => exact .inl rfl

structure ConfigBounds (w : World X) : Prop where
  gov : GovInv w.gov
  feeRate : w.config.feeRate ≤ 1000
  maxSwaps : ∀ mev, w.config.mevConfig = some mev → mev.rateLimitMaxSwaps ≠ 0

theorem invoke_configBounds (hw : ConfigBounds w) (h : invoke H auth c w = .ok (r, w')) :
    ConfigBounds w' := by
  have hgov := invoke_govInv hw.gov h
  have hedit := invoke_configEdit hw.gov.keyed h
  generalize hconfig : w'.config = config' at hedit
  refine ⟨hgov, ?_, ?_⟩ <;> rw [hconfig] <;> clear hconfig
  · cases hedit with
    | setup admin feeTo feeRate hash hc hnone hnew | feeRate rate hnew => exact hnew
    | _ => exact hw.feeRate
  · cases hedit with
    | mev mev hwindow hmax =>
      rintro mev' ⟨⟩
      exact hmax
    | _ => exact hw.maxSwaps

theorem Reachable.configBounds (hw : Reachable H w) : ConfigBounds w := by
  obtain ⟨ledger, wasm, ext, ops, rfl⟩ := hw
  have hstart : ConfigBounds (World.deployed H ledger wasm ext) :=
    ⟨govInv_deployed H ledger wasm ext, UInt32.zero_le, by simp [World.deployed]⟩
  exact run_keeps (fun _ _ _ hw => ⟨hw.gov, hw.feeRate, hw.maxSwaps⟩)
    (fun _ _ hw => ⟨hw.gov, hw.feeRate, hw.maxSwaps⟩)
    (fun _ _ _ _ _ hw h => invoke_configBounds hw h) ops hstart

end StellarRoute.Contracts
