import StellarRoute.Contracts.Sanity.Governance

/-! Who can change privileged state after the migration. Four entry points do
not look at the administration mode, so the key of the old admin still moves
the MEV settings, the whitelist, the known prices and the code; every other
change takes the guardian's pause or an approved proposal. -/

namespace StellarRoute.Contracts

open Lib Governance Function

variable {X : Type} {H : Host X} {auth : Auth} {c : Call} {w w' : World X}

/-- Both states agree on everything that only the administration may change. -/
structure SamePrivileged (w w' : World X) : Prop where
  config : w'.config = w.config
  pools : w'.pools = w.pools
  tokens : w'.tokens.allowedToken = w.tokens.allowedToken
  version : w'.upgrades.contractVersion = w.upgrades.contractVersion
  wasm : w'.upgrades.wasm = w.upgrades.wasm

/-- The call changed nothing privileged, or it was the guardian's pause, or it
carried out a proposal with enough approvals. -/
def Governed (H : Host X) (auth : Auth) (c : Call) (w w' : World X) : Prop :=
  SamePrivileged w w' ∨
  (∃ g ∈ auth, c = .guardianPause g ∧ w.gov.guardian = some g ∧
    SamePrivileged { w with config.paused := true } w') ∨
  ∃ p config v u, fires auth c w = some p ∧ SamePrivileged w v ∧ Executes H p config v u ∧
    SamePrivileged u w'

/-- The calls that do not look at the mode only write what is stored already. -/
def KeepsPrivileged (w : World X) : Call → Prop
  | .configureMev config => w.config.mevConfig = some config
  | .setWhitelist a b => w.config.whitelisted a = b
  | .updateKnownPrice a b price => w.config.latestKnownPrice a b = some price
  | .executeUpgrade _ => False
  | _ => True

theorem samePrivileged_of_touches {as : List Area} (has : as ⊆ [.gov, .commitments])
    (h : Touches as w w') : SamePrivileged w w' := by
  have hout : ∀ a ∉ [Area.gov, .commitments], a ∉ as := fun a ha hmem => ha (has hmem)
  have htokens := h.tokens (hout _ (by decide))
  have hupgrades := h.upgrades (hout _ (by decide))
  exact ⟨h.config (hout _ (by decide)), h.pools (hout _ (by decide)), by rw [htokens],
    by rw [hupgrades], by rw [hupgrades]⟩

/-- What the four calls write. -/
inductive Ungoverned (w w' : World X) : Call → Prop
  | mev (config : MevConfig) (h : SamePrivileged { w with config.mevConfig := some config } w') :
      Ungoverned w w' (.configureMev config)
  | whitelist (a : Address) (b : Bool)
      (h : SamePrivileged
        { w with config.whitelisted := Function.update w.config.whitelisted a b } w') :
      Ungoverned w w' (.setWhitelist a b)
  | price (a b : Address) (price : I128)
      (h : SamePrivileged { w with
        config.latestKnownPrice := Function.update w.config.latestKnownPrice a
          (Function.update (w.config.latestKnownPrice a) b (some price)) } w') :
      Ungoverned w w' (.updateKnownPrice a b price)
  | upgrade (admin : Address) (hconfig : w'.config = w.config)
      (hversion : w'.upgrades.contractVersion ≠ w.upgrades.contractVersion) :
      Ungoverned w w' (.executeUpgrade admin)

theorem executeUpgrade_version {admin : Address} (h : executeUpgrade H auth admin w = .ok w') :
    w'.upgrades.contractVersion ≠ w.upgrades.contractVersion := by
  simp only [executeUpgrade, executeWasmUpgrade, migrate, bind_eq_ok, require_eq_ok, okOr_eq_ok,
    pure_eq_ok, exists_const] at h
  obtain ⟨-, -, -, -, -, pending, hpending, -, -, v, ⟨hhash, -, -, rfl⟩, rfl⟩ := h
  intro heq
  apply hhash
  have hver : some _ = w.upgrades.contractVersion := heq
  simp only [getVersion, setPendingUpgrade]
  rw [← hver]
  rfl

/-- What holds from the migration on. -/
structure MultiInv (w : World X) : Prop where
  inv : GovInv w.gov
  multi : w.gov.isMultiSig = true
  admin : w.config.admin ≠ none

/-- The calls that check the mode. -/
def Call.singleAdmin : Call → Bool
  | .migrateToMultisig .. | .setAdmin .. | .setFeeDistributionConfig .. | .registerPool ..
  | .pause .. | .unpause .. | .proposeUpgrade .. | .addToken .. | .removeToken ..
  | .updateToken .. | .addTokensBatch .. => true
  | _ => false

variable {r : Ret} {a : Address}

theorem invoke_singleAdmin (hc : c.singleAdmin = true)
    (h : invoke H auth c w = .ok (r, w')) : w.gov.isMultiSig = false := by
  cases c <;> simp only [Call.singleAdmin, Bool.false_eq_true] at hc <;>
    simp only [invoke, noRet_eq_ok] at h
  case migrateToMultisig => exact (migrateToMultisig_edit h.2).2.1
  case setAdmin | setFeeDistributionConfig | registerPool | pause | unpause =>
    simp only [setAdmin, setFeeDistributionConfig, registerPool, pause, unpause, bind_eq_ok,
      require_eq_ok, exists_const] at h
    exact h.2.1
  case proposeUpgrade =>
    simp only [proposeUpgrade, bind_eq_ok, require_eq_ok, requireAuth_eq_ok, exists_const] at h
    obtain ⟨-, -, _, -, -, hmode, -⟩ := h
    exact hmode
  case addToken | removeToken | updateToken | addTokensBatch =>
    simp only [addToken, removeToken, updateToken, addTokensBatch, bind_eq_ok, requireAdminAuth_eq_ok,
      exists_const] at h
    exact h.2.1.2.1

theorem guardianPause_governed {g : Address} (h : guardianPause H auth g w = .ok w') :
    Governed H auth (.guardianPause g) w w' := by
  simp only [guardianPause, bind_eq_ok, require_eq_ok, requireAuth_eq_ok, okOr_eq_ok, pure_eq_ok,
    exists_const] at h
  obtain ⟨hauth, stored, hstored, rfl, rfl⟩ := h
  exact .inr (.inl ⟨stored, hauth, rfl, hstored, ⟨rfl, rfl, rfl, rfl, rfl⟩⟩)

theorem configureMev_ungoverned {config : MevConfig} (h : configureMev H auth config w = .ok w') :
    Ungoverned w w' (.configureMev config) := by
  simp only [configureMev, bind_eq_ok, pure_eq_ok] at h
  obtain ⟨-, -, -, -, -, -, -, -, -, -, -, -, -, -, rfl⟩ := h
  exact .mev config ⟨rfl, rfl, rfl, rfl, rfl⟩

theorem setWhitelist_ungoverned {b : Bool} (h : setWhitelist H auth a b w = .ok w') :
    Ungoverned w w' (.setWhitelist a b) := by
  simp only [setWhitelist, bind_eq_ok, pure_eq_ok] at h
  obtain ⟨-, -, -, -, rfl⟩ := h
  exact .whitelist a b ⟨rfl, rfl, rfl, rfl, rfl⟩

theorem updateKnownPrice_ungoverned {b : Address} {price : I128}
    (h : updateKnownPrice H auth a b price w = .ok w') :
    Ungoverned w w' (.updateKnownPrice a b price) := by
  simp only [updateKnownPrice, bind_eq_ok, pure_eq_ok] at h
  obtain ⟨-, -, -, -, rfl⟩ := h
  exact .price a b price ⟨rfl, rfl, rfl, rfl, rfl⟩

theorem invoke_governed_or (hw : MultiInv w) (h : invoke H auth c w = .ok (r, w')) :
    Governed H auth c w w' ∨ Ungoverned w w' c := by
  have hsingle : c.singleAdmin = false := by
    by_contra hc
    have := invoke_singleAdmin (by simpa using hc) h
    simp [hw.multi] at this
  cases invoke_outcome hw.inv.keyed h with
  | fired p config v u hfires hbefore _ _ hexec hafter =>
    exact .inl (.inr (.inr ⟨p, config, v, u, hfires, samePrivileged_of_touches (by simp) hbefore,
      hexec, samePrivileged_of_touches (by simp) hafter⟩))
  | quiet hfires _ ht =>
    cases c <;> simp only [invoke, noRet_eq_ok, swapRet_eq_ok] at h <;>
      simp only [Call.singleAdmin, Bool.true_eq_false] at hsingle
    case initializeRouter =>
      simp only [initializeRouter, bind_eq_ok, require_eq_ok, exists_const] at h
      exact absurd h.2.1 hw.admin
    case guardianPause => exact .inl (guardianPause_governed h.2)
    case cancelUpgrade =>
      simp only [cancelUpgrade, bind_eq_ok, pure_eq_ok] at h
      obtain ⟨-, -, -, -, -, -, -, rfl⟩ := h
      exact .inl (.inl ⟨rfl, rfl, rfl, rfl, rfl⟩)
    case configureMev => exact .inr (configureMev_ungoverned h.2)
    case setWhitelist => exact .inr (setWhitelist_ungoverned h.2)
    case updateKnownPrice => exact .inr (updateKnownPrice_ungoverned h.2)
    case executeUpgrade =>
      exact .inr (.upgrade _ ((executeUpgrade_touches h.2).config (by simp))
        (executeUpgrade_version h.2))
    all_goals
      exact .inl (.inl (samePrivileged_of_touches (by simp [Call.quietTouches, Call.touches]) ht))

/-! The invariant -/

theorem Governed.admin (h : Governed H auth c w w') : w'.config.admin = w.config.admin := by
  rcases h with h | ⟨g, -, -, -, h⟩ | ⟨p, config, v, u, -, hv, hexec, hu⟩
  · rw [h.config]
  · rw [h.config]
  · have hdispatch := dispatchAction_admin hexec.dispatch
    rw [hu.config, hdispatch, ← hv.config]
    rfl

theorem Ungoverned.admin (h : Ungoverned w w' c) : w'.config.admin = w.config.admin := by
  cases h with
  | upgrade admin hconfig hversion => rw [hconfig]
  | mev config h | whitelist a b h | price a b price h => rw [h.config]

theorem invoke_multiInv (hw : MultiInv w) (h : invoke H auth c w = .ok (r, w')) : MultiInv w' := by
  refine ⟨invoke_govInv hw.inv h, invoke_multi hw.inv hw.multi h, ?_⟩
  rcases invoke_governed_or hw h with hg | hu
  · exact hg.admin ▸ hw.admin
  · exact hu.admin ▸ hw.admin

theorem run_multiInv (ops : List (Op X)) (hw : MultiInv w) : MultiInv (run H w ops) :=
  run_keeps (fun _ _ _ hw => ⟨hw.inv, hw.multi, hw.admin⟩) (fun _ _ hw => ⟨hw.inv, hw.multi, hw.admin⟩)
    (fun _ _ _ _ _ hw h => invoke_multiInv hw h) ops hw

/-! Which calls are governed -/

theorem Ungoverned.fires_none (h : Ungoverned w w' c) : fires auth c w = none := by
  cases h <;> simp [fires]

theorem Ungoverned.governed_iff (h : Ungoverned w w' c) :
    Governed H auth c w w' ↔ SamePrivileged w w' := by
  refine ⟨fun hg => ?_, .inl⟩
  rcases hg with hg | ⟨g, -, rfl, -⟩ | ⟨p, config, v, u, hfires, -⟩
  · exact hg
  · cases h
  · exact nomatch h.fires_none.symm.trans hfires

/-- A call that only writes the configuration record. -/
theorem samePrivileged_iff_config {config : Config}
    (h : SamePrivileged { w with config := config } w') :
    SamePrivileged w w' ↔ config = w.config := by
  refine ⟨fun hs => h.config.symm.trans hs.config, fun hc => ?_⟩
  exact ⟨h.config.trans hc, h.pools, h.tokens, h.version, h.wasm⟩

theorem Ungoverned.same_iff (h : Ungoverned w w' c) :
    SamePrivileged w w' ↔ KeepsPrivileged w c := by
  cases h with
  | mev config h =>
    rw [samePrivileged_iff_config h, KeepsPrivileged]
    exact ⟨fun heq => by rw [← heq], fun heq => by rw [← heq]⟩
  | whitelist a b h =>
    rw [samePrivileged_iff_config h, KeepsPrivileged]
    refine ⟨fun heq => ?_, fun heq => ?_⟩
    · rw [← congrArg Config.whitelisted heq]
      exact update_self ..
    · rw [← heq, update_eq_self]
  | price a b price h =>
    rw [samePrivileged_iff_config h, KeepsPrivileged]
    refine ⟨fun heq => ?_, fun heq => ?_⟩
    · rw [← congrArg Config.latestKnownPrice heq]
      simp
    · rw [← heq, update_eq_self, update_eq_self]
  | upgrade admin hconfig hversion => exact iff_of_false (fun hs => hversion hs.version) id

theorem keepsPrivileged_of_not_ungoverned (hu : ¬ Ungoverned w w' c)
    (h : invoke H auth c w = .ok (r, w')) : KeepsPrivileged w c := by
  cases c <;> first | trivial | skip
  all_goals simp only [invoke, noRet_eq_ok] at h
  case configureMev => exact absurd (configureMev_ungoverned h.2) hu
  case setWhitelist => exact absurd (setWhitelist_ungoverned h.2) hu
  case updateKnownPrice => exact absurd (updateKnownPrice_ungoverned h.2) hu
  case executeUpgrade =>
    exact absurd (.upgrade _ ((executeUpgrade_touches h.2).config (by simp))
      (executeUpgrade_version h.2)) hu

/-- In every state after the migration, a successful call keeps to the rule
exactly when it is not one of the four that do not look at the mode, or writes
what is stored already. -/
theorem privileged_governed_iff {admin : Address} {signers : List Address} {threshold : UInt32}
    {ttl : UInt64} {guardian : Option Address} {auth₀ : Auth} {w₁ : World X} {ops : List (Op X)}
    {r : Ret} (hw : Reachable H w)
    (hmigrate : migrateToMultisig H auth₀ admin signers threshold ttl guardian w = .ok w₁)
    (h : invoke H auth c (run H w₁ ops) = .ok (r, w')) :
    Governed H auth c (run H w₁ ops) w' ↔ KeepsPrivileged (run H w₁ ops) c := by
  have hmulti : MultiInv w₁ := by
    obtain ⟨hadmin, hmode, hwf, guardian', hgov⟩ := migrateToMultisig_edit hmigrate
    have hedit : Edit H w.now w.gov _ := .migrate _ guardian' hmode hwf
    refine ⟨hgov ▸ hedit.inv hw.govInv, by rw [hgov], ?_⟩
    rw [(migrateToMultisig_touches hmigrate).config (by simp), hadmin]
    simp
  have hinv := run_multiInv (H := H) ops hmulti
  by_cases hu : Ungoverned (run H w₁ ops) w' c
  · rw [hu.governed_iff, hu.same_iff]
  · have hg := (invoke_governed_or hinv h).resolve_right hu
    exact iff_of_true hg (keepsPrivileged_of_not_ungoverned hu h)

def proposePause : List (Op Unit) := [.invoke [1] (.propose 1 .pause)]

theorem approved_pause_governed : ∃ w',
    invoke quietHost [2] (.approveProposal 2 1) (run quietHost threeSigners proposePause) =
      .ok (.unit, w') ∧ w'.config.paused = true ∧
    Governed quietHost [2] (.approveProposal 2 1) (run quietHost threeSigners proposePause) w' := by
  have hok : (invoke quietHost [2] (.approveProposal 2 1)
      (run quietHost threeSigners proposePause)).map (·.2.config.paused) = .ok true := by
    decide
  obtain ⟨⟨r, w'⟩, hw', hpaused⟩ := map_eq_ok.mp hok
  obtain ⟨rfl, -⟩ : r = .unit ∧ _ := by simpa only [invoke, noRet_eq_ok] using hw'
  refine ⟨w', hw', hpaused, ?_⟩
  exact (privileged_governed_iff (reachable_quietWorld.run _ : Reachable _ singleAdmin)
    threeSigners_eq hw').mpr trivial

def otherCode : Bytes32 := ⟨List.replicate 32 1, List.length_replicate⟩

/-- An upgrade is pending when the administration is handed over. -/
def pendingUpgrade : World Unit :=
  run quietHost quietWorld [quietSetup, .invoke [1] (.proposeUpgrade 1 otherCode 0)]

def handedOver : World Unit :=
  step quietHost pendingUpgrade (.invoke [1] (.migrateToMultisig 1 [4, 5, 6] 2 1000 none))

/-- The old admin, not even a signer, replaces the code, and whitelists an address. -/
theorem old_admin_keeps_power :
    Reachable quietHost pendingUpgrade ∧
    migrateToMultisig quietHost [1] 1 [4, 5, 6] 2 1000 none pendingUpgrade = .ok handedOver ∧
    (∃ w', invoke quietHost [1] (.executeUpgrade 1) (run quietHost handedOver [.advance 4320]) =
        .ok (.unit, w') ∧ handedOver.upgrades.wasm = zeroHash ∧ w'.upgrades.wasm = otherCode ∧
      ¬ Governed quietHost [1] (.executeUpgrade 1) (run quietHost handedOver [.advance 4320]) w') ∧
    ∃ w', invoke quietHost [1] (.setWhitelist 7 true) handedOver = .ok (.unit, w') ∧
      ¬ Governed quietHost [1] (.setWhitelist 7 true) handedOver w' := by
  refine ⟨reachable_quietWorld.run _, rfl, ?_, ?_⟩
  · have hok : (executeUpgrade quietHost [1] 1 (run quietHost handedOver [.advance 4320])).map
        (·.upgrades.wasm) = .ok otherCode := by decide
    obtain ⟨w', hw', hwasm⟩ := map_eq_ok.mp hok
    have hu : Ungoverned (run quietHost handedOver [.advance 4320]) w' (.executeUpgrade 1) :=
      .upgrade 1 ((executeUpgrade_touches hw').config (by simp)) (executeUpgrade_version hw')
    refine ⟨w', noRet_eq_ok.mpr ⟨rfl, hw'⟩, by decide, hwasm, ?_⟩
    rw [hu.governed_iff, hu.same_iff]
    exact id
  · have hok : (setWhitelist quietHost [1] 7 true handedOver).map (fun _ => ()) = .ok () := by
      decide
    obtain ⟨w', hw', -⟩ := map_eq_ok.mp hok
    have hu := setWhitelist_ungoverned hw'
    refine ⟨w', noRet_eq_ok.mpr ⟨rfl, hw'⟩, ?_⟩
    rw [hu.governed_iff, hu.same_iff]
    change ¬ handedOver.config.whitelisted 7 = true
    decide

end StellarRoute.Contracts
