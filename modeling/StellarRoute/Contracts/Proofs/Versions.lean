import StellarRoute.Contracts.Sanity.Upgrades

/-! The history of versions. Every version is kept under the ledger it was
activated in, so a second upgrade in the same ledger overwrites the first. In
runs without such a pair the history is complete: every version can be found
again, the patch numbers are consecutive, and therefore the migration of a new
version has never been made before. -/

namespace StellarRoute.Contracts

open Lib Governance List

variable {X : Type} {H : Host X} {auth : Auth} {c : Call} {w w' : World X} {ledger : UInt32}
  {wasm : Bytes32} {ext : X} {ops : List (Op X)}

/-- A version and the ledger it was activated in. -/
structure Activation where
  ledger : UInt64
  version : ContractVersion

/-- What the operation activates. The source counts the first version as
activated in ledger 0. -/
def activated (H : Host X) (w : World X) (op : Op X) : List Activation :=
  match (step H w op).upgrades.contractVersion with
  | none => []
  | some v =>
    if w.upgrades.contractVersion = some v then []
    else [⟨if w.upgrades.contractVersion = none then 0 else w.now, v⟩]

/-- The versions that a run activates, the oldest first. -/
def activations (H : Host X) (w : World X) (ops : List (Op X)) : List Activation :=
  Transition.trace (step H) (activated H) w ops

/-- No upgrade is made in the ledger that the version in force was activated in. -/
def UpgradesInNewLedger (w : World X) : Op X → Prop
  | .invoke auth c =>
    (∃ admin, c = .executeUpgrade admin) ∨
        (∃ p hash, fires auth c w = some p ∧ p.action = .upgrade hash) →
      (getVersion w).upgradedAt ≠ w.now
  | _ => True

/-- The entry points that can run the migration hook. -/
def Call.mayUpgrade : Call → Bool
  | .executeUpgrade _ | .propose .. | .approveProposal .. | .executeProposal _ => true
  | _ => false

/-! The record against the activations -/

structure VersionInv (w : World X) (vs : List Activation) : Prop where
  office : OfficeInv w
  current : w.upgrades.contractVersion = vs.getLast?.map (·.version)
  keyed : ∀ a ∈ vs, a.version.upgradedAt = a.ledger
  ordered : ∀ a ∈ vs, a.ledger ≤ (getVersion w).upgradedAt
  past : (getVersion w).upgradedAt ≤ w.now
  kept : ∀ a ∈ vs, getVersionAt w a.ledger = some a.version
  series : ∀ a ∈ vs, a.version.major = 1 ∧ a.version.minor = 0
  patches : vs.map (·.version.patch) = (List.range vs.length).map UInt32.ofNat
  migrated : ∀ k, w.upgrades.migrationDone k = true →
    ∃ i, 0 < i ∧ i < vs.length ∧ k = (1, 0, UInt32.ofNat i)

theorem VersionInv.deployed (H : Host X) (ledger : UInt32) (wasm : Bytes32) (ext : X) :
    VersionInv (World.deployed H ledger wasm ext) [] where
  office := ⟨govInv_deployed H ledger wasm ext, nofun, iff_of_true rfl rfl⟩
  current := rfl
  keyed := nofun
  ordered := nofun
  past := UInt64.zero_le
  kept := nofun
  series := nofun
  patches := rfl
  migrated := nofun

variable {vs : List Activation}

theorem VersionInv.congr (hw : VersionInv w vs) (hoffice : OfficeInv w') (hnow : w.now ≤ w'.now)
    (hversion : w'.upgrades.contractVersion = w.upgrades.contractVersion)
    (hhistory : w'.upgrades.versionHistory = w.upgrades.versionHistory)
    (hdone : w'.upgrades.migrationDone = w.upgrades.migrationDone) : VersionInv w' vs := by
  have hget : getVersion w' = getVersion w := by rw [getVersion, getVersion, hversion]
  refine ⟨hoffice, hversion.trans hw.current, hw.keyed, ?_, ?_, ?_, hw.series, hw.patches, ?_⟩
  · rw [hget]
    exact hw.ordered
  · rw [hget]
    exact UInt64.le_trans hw.past hnow
  · simp only [getVersionAt, hhistory]
    exact hw.kept
  · rw [hdone]
    exact hw.migrated

variable {v : ContractVersion} {hash : Bytes32} {op : Op X}

/-- The last activation is the version in force, and the next patch number is
the number of activations. -/
theorem VersionInv.last (hw : VersionInv w vs) (hv : w.upgrades.contractVersion = some v) :
    vs ≠ [] ∧ v.major = 1 ∧ v.minor = 0 ∧ v.patch + 1 = UInt32.ofNat vs.length := by
  have hlast := hw.current
  rw [hv, eq_comm, Option.map_eq_some_iff] at hlast
  obtain ⟨a, ha, rfl⟩ := hlast
  obtain ⟨vs, rfl⟩ := getLast?_eq_some_iff.mp ha
  obtain ⟨hmajor, hminor⟩ := hw.series a (by simp)
  have hpatch : a.version.patch = UInt32.ofNat vs.length := by
    have hpatches := hw.patches
    rw [length_append, length_singleton, range_succ, map_append,
      map_append] at hpatches
    exact singleton_inj.mp (append_inj_right hpatches (by simp))
  refine ⟨by simp, hmajor, hminor, ?_⟩
  rw [hpatch, length_append, length_singleton, UInt32.ofNat_add]
  rfl

theorem VersionInv.first (hw : VersionInv w vs) (hoffice : OfficeInv w')
    (hnone : w.config.admin = none)
    (hupgrades : w'.upgrades = (setInitialVersion hash w).upgrades) :
    VersionInv w' (vs ++ [⟨0, ⟨1, 0, 0, hash, 0⟩⟩]) := by
  have hcurrent := hw.current
  rw [hw.office.version.mpr hnone, eq_comm, Option.map_eq_none_iff, getLast?_eq_none_iff]
    at hcurrent
  subst hcurrent
  have hget : getVersion w' = ⟨1, 0, 0, hash, 0⟩ := by
    rw [getVersion, hupgrades]
    rfl
  refine ⟨hoffice, ?_, ?_, ?_, ?_, ?_, ?_, rfl, fun k hk => ?_⟩
  · rw [hupgrades]
    rfl
  · simp
  · simp [hget]
  · rw [hget]
    exact UInt64.zero_le
  · simp [getVersionAt, hupgrades, setInitialVersion, setContractVersion]
  · simp
  · rw [hupgrades] at hk
    obtain ⟨i, -, hi, -⟩ := hw.migrated k hk
    exact absurd hi (Nat.not_lt_zero i)

theorem VersionInv.install (hw : VersionInv w vs) (hoffice : OfficeInv w')
    (hv : w.upgrades.contractVersion = some v) (hnew : v.upgradedAt ≠ w.now) (hnow : w'.now = w.now)
    (hversion : w'.upgrades.contractVersion = (installed hash w).contractVersion)
    (hhistory : w'.upgrades.versionHistory = (installed hash w).versionHistory)
    (hdone : w'.upgrades.migrationDone = (installed hash w).migrationDone) :
    VersionInv w' (vs ++ [⟨w.now, nextVersion hash w.now v⟩]) := by
  have hget : getVersion w = v := by rw [getVersion, hv, Option.getD_some]
  rw [installed, hget] at hversion hhistory hdone
  dsimp only at hversion hhistory hdone
  have hget' : getVersion w' = nextVersion hash w.now v := by
    rw [getVersion, hversion, Option.getD_some]
  obtain ⟨hne, hmajor, hminor, hpatch⟩ := hw.last hv
  have hpos : 0 < vs.length := length_pos_iff.mpr hne
  have hbefore : ∀ a ∈ vs, a.ledger < w.now := by
    intro a ha
    have hle := hw.ordered a ha
    have hpast := hw.past
    rw [hget] at hle hpast
    exact UInt64.lt_of_le_of_lt hle (UInt64.lt_of_le_of_ne hpast hnew)
  refine ⟨hoffice, ?_, ?_, ?_, ?_, ?_, ?_, ?_, ?_⟩
  · rw [hversion]
    simp
  · simpa [or_imp, forall_and, nextVersion] using hw.keyed
  · intro a ha
    rw [hget']
    rcases mem_append.mp ha with ha | ha
    · exact UInt64.le_of_lt (hbefore a ha)
    · rw [mem_singleton.mp ha]
      exact UInt64.le_refl _
  · rw [hget', hnow]
    exact UInt64.le_refl _
  · intro a ha
    rw [getVersionAt, hhistory]
    rcases mem_append.mp ha with ha | ha
    · rw [Function.update_of_ne (UInt64.ne_of_lt (hbefore a ha))]
      exact hw.kept a ha
    · rw [mem_singleton.mp ha]
      exact Function.update_self ..
  · simpa [or_imp, forall_and, nextVersion, hmajor, hminor] using hw.series
  · rw [map_append, hw.patches, length_append, length_singleton, range_succ,
      map_append, map_singleton, map_singleton, ← hpatch]
    rfl
  · intro k hk
    rw [length_append, length_singleton]
    rw [hdone] at hk
    rcases eq_or_ne k (v.major, v.minor, v.patch + 1) with rfl | hkey
    · exact ⟨vs.length, hpos, Nat.lt_succ_self _, by rw [hmajor, hminor, hpatch]⟩
    · obtain ⟨i, hi, hlt, rfl⟩ := hw.migrated k (by simpa [nextVersion, hkey] using hk)
      exact ⟨i, hi, Nat.lt_succ_of_lt hlt, rfl⟩

/-! Steps -/

theorem activated_same (h : (step H w op).upgrades.contractVersion = w.upgrades.contractVersion) :
    activated H w op = [] := by
  rw [activated, h]
  cases w.upgrades.contractVersion with
  | none => rfl
  | some v => exact if_pos rfl

theorem VersionInv.upgrade (hw : VersionInv w vs) (hoffice : OfficeInv (step H w op))
    (hadmin : w.config.admin ≠ none) (hnew : (getVersion w).upgradedAt ≠ w.now)
    (hnow : (step H w op).now = w.now)
    (hversion : (step H w op).upgrades.contractVersion = (installed hash w).contractVersion)
    (hhistory : (step H w op).upgrades.versionHistory = (installed hash w).versionHistory)
    (hdone : (step H w op).upgrades.migrationDone = (installed hash w).migrationDone) :
    VersionInv (step H w op) (vs ++ activated H w op) := by
  obtain ⟨v, hv⟩ := Option.ne_none_iff_exists'.mp fun h => hadmin (hw.office.version.mp h)
  have hget : getVersion w = v := by rw [getVersion, hv, Option.getD_some]
  rw [hget] at hnew
  have hnext : (step H w op).upgrades.contractVersion = some (nextVersion hash w.now v) := by
    rw [hversion, installed, hget]
  have hne : v ≠ nextVersion hash w.now v := fun h => hnew (congrArg ContractVersion.upgradedAt h)
  rw [activated, hv, hnext]
  dsimp only
  rw [if_neg (fun h => hne (Option.some.inj h)), if_neg (Option.some_ne_none _)]
  exact hw.install hoffice hv hnew hnow hversion hhistory hdone

theorem invoke_versionInv {r : Ret} (hw : VersionInv w vs)
    (hop : UpgradesInNewLedger w (.invoke auth c)) (h : invoke H auth c w = .ok (r, w')) :
    VersionInv (step H w (.invoke auth c)) (vs ++ activated H w (.invoke auth c)) := by
  have hstep : step H w (.invoke auth c) = w' := by rw [step, h]
  rw [← hstep] at h
  have hoffice := invoke_officeInv hw.office h
  have hnow := (invoke_touches h).now
  have hupgrade := invoke_upgradeStep hw.office.gov.keyed h
  generalize hu : (step H w (.invoke auth c)).upgrades = u at hupgrade
  cases hupgrade with
  | same | propose admin hash after hc hadmin hnone | cancel admin p hc hp =>
    rw [activated_same (by rw [hu]), append_nil]
    exact hw.congr hoffice (UInt64.le_of_eq hnow.symm) (by rw [hu]) (by rw [hu]) (by rw [hu])
  | first admin feeTo feeRate hash hc hadmin =>
    rw [activated, hw.office.version.mpr hadmin, hu]
    exact hw.first hoffice hadmin hu
  | execute admin p hc hadmin hp hlock =>
    exact hw.upgrade hoffice (by simp [hadmin]) (hop (.inl ⟨admin, hc⟩)) hnow (by rw [hu]) (by rw [hu])
      (by rw [hu])
  | govern p hash hfires haction =>
    exact hw.upgrade hoffice (hw.office.multi (fires_multi hfires))
      (hop (.inr ⟨p, hash, hfires, haction⟩)) hnow (by rw [hu]) (by rw [hu]) (by rw [hu])

theorem step_versionInv (hw : VersionInv w vs) (hop : UpgradesInNewLedger w op) :
    VersionInv (step H w op) (vs ++ activated H w op) := by
  cases op with
  | invoke auth c =>
    cases h : invoke H auth c w with
    | ok r => exact invoke_versionInv hw hop h
    | error e =>
      have hstep : step H w (.invoke auth c) = w := by rw [step, h]
      rw [activated_same (by rw [hstep]), append_nil, hstep]
      exact hw
  | advance n =>
    rw [activated_same (by rw [step]; split_ifs <;> rfl), append_nil, step]
    split_ifs with hn
    · refine hw.congr ⟨hw.office.gov, hw.office.multi, hw.office.version⟩ ?_ rfl rfl rfl
      rw [UInt64.le_iff_toNat_le, World.now, World.now, UInt32.toNat_toUInt64, UInt32.toNat_toUInt64,
        UInt32.toNat_ofNat_of_lt' hn]
      exact Nat.le_add_right _ _
    · exact hw
  | outside x =>
    rw [activated_same rfl, append_nil]
    exact hw.congr ⟨hw.office.gov, hw.office.multi, hw.office.version⟩ (UInt64.le_refl _) rfl rfl rfl

/-! The migration hook -/

/-- The migration to the next version has not been made. -/
def NextFree (w : World X) : Prop :=
  w.upgrades.migrationDone ((getVersion w).major, (getVersion w).minor, (getVersion w).patch + 1) =
    false

theorem VersionInv.nextFree (hw : VersionInv w vs) (hfew : vs.length ≤ 2 ^ 32) : NextFree w := by
  by_contra hdone
  obtain ⟨i, hpos, hlt, hkey⟩ := hw.migrated _ (Bool.not_eq_false _ ▸ hdone)
  cases hv : w.upgrades.contractVersion with
  | none =>
    have hempty := hw.current
    rw [hv, eq_comm, Option.map_eq_none_iff, getLast?_eq_none_iff] at hempty
    rw [hempty] at hlt
    exact absurd hlt (Nat.not_lt_zero i)
  | some v =>
    -- the number of activations is above every number used so far, even when it wraps to 0
    have hnext := (hw.last hv).2.2.2
    rw [getVersion, hv, Option.getD_some, Prod.mk.injEq, Prod.mk.injEq, hnext] at hkey
    have hwrap := congrArg UInt32.toNat hkey.2.2
    rw [UInt32.toNat_ofNat', UInt32.toNat_ofNat'] at hwrap
    omega

/-- Not the error of a migration made before. -/
def NotRepeated (e : Failure) : Prop := e ≠ fail .migrationAlreadyDone

instance (e : Failure) : Decidable (NotRepeated e) := inferInstanceAs (Decidable (_ ≠ _))

theorem executeWasmUpgrade_fails (hw : NextFree w) :
    FailsWith NotRepeated (executeWasmUpgrade H hash w) := by
  repeat refine failsWith_check (by decide) fun _ => ?_
  exact failsWith_require_bind hw (failsWith_pure _)

theorem checkFeeConfig_fails {config : FeeConfig} :
    FailsWith NotRepeated (checkFeeConfig config) := by
  refine failsWith_check (by decide) fun _ => failsWith_bind ?_ fun _ => failsWith_require (by decide)
  exact failsWith_foldlM fun _ _ => failsWith_okOr (by decide)

theorem dispatchAction_fails {action : ProposalAction} (hw : NextFree w) :
    FailsWith NotRepeated (dispatchAction H action w) := by
  cases action
  case setFeeConfig config => exact failsWith_bind checkFeeConfig_fails fun _ => failsWith_pure _
  case upgrade hash => exact executeWasmUpgrade_fails hw
  all_goals
    repeat first
      | refine failsWith_check (by decide) fun _ => ?_
      | refine failsWith_read (by decide) fun _ => ?_
    exact failsWith_pure _

theorem governance_executeProposal_fails {id : UInt64} (hw : NextFree w) :
    FailsWith NotRepeated (Governance.executeProposal H id w) := by
  refine failsWith_read (by decide) fun config => failsWith_read (by decide) fun p => ?_
  repeat refine failsWith_check (by decide) fun _ => ?_
  exact failsWith_bind (dispatchAction_fails (w := marked p config w) hw) fun _ => failsWith_pure _

theorem autoExecute_fails {reached : Bool} {id : UInt64} (hw : NextFree w) :
    FailsWith NotRepeated (autoExecute H reached id w) := by
  unfold autoExecute
  split_ifs
  · exact governance_executeProposal_fails hw
  · exact failsWith_pure _

theorem invoke_notRepeated (hw : NextFree w) (hc : c.mayUpgrade = true) :
    FailsWith NotRepeated (invoke H auth c w) := by
  cases c <;> simp only [Call.mayUpgrade, Bool.false_eq_true] at hc
  all_goals refine failsWith_bind ?_ fun _ => failsWith_pure _
  case executeProposal id =>
    exact failsWith_check (by decide) fun _ => governance_executeProposal_fails hw
  all_goals
    repeat first
      | refine failsWith_check (by decide) fun _ => ?_
      | refine failsWith_read (by decide) fun _ => ?_
  case executeUpgrade admin =>
    exact failsWith_bind (executeWasmUpgrade_fails (w := setPendingUpgrade none w) hw) fun _ =>
      failsWith_pure _
  case propose signer action =>
    simp only [nextProposalId, bind_assoc, pure_bind]
    exact failsWith_read (by decide) fun _ =>
      failsWith_bind (autoExecute_fails hw) fun _ => failsWith_pure _
  case approveProposal signer id =>
    exact failsWith_bind (autoExecute_fails hw) fun _ => failsWith_pure _

/-! The history -/

theorem VersionInv.consecutive (hw : VersionInv w vs) (hfew : vs.length ≤ 2 ^ 32) :
    vs.IsChain fun a b => b.version.patch.toNat = a.version.patch.toNat + 1 := by
  have hchain : (vs.map (·.version.patch)).IsChain fun p q => q.toNat = p.toNat + 1 := by
    rw [hw.patches, isChain_map, isChain_range]
    intro i hi
    rw [UInt32.toNat_ofNat', UInt32.toNat_ofNat', Nat.mod_eq_of_lt (by omega),
      Nat.mod_eq_of_lt (by omega)]
  exact (isChain_map _).mp hchain

/-- In every run in which no upgrade is made in the ledger of the version before
it, and with fewer than 2^32 upgrades after the first version, every version is
found under the ledger of its activation, the patch numbers are consecutive, and
no upgrade fails because its migration was made before. -/
theorem version_history_complete
    (hops : Transition.StepsOk (step H) UpgradesInNewLedger (World.deployed H ledger wasm ext) ops)
    (hfew : (activations H (World.deployed H ledger wasm ext) ops).length ≤ 2 ^ 32) :
    (∀ a ∈ activations H (World.deployed H ledger wasm ext) ops,
        getVersionAt (run H (World.deployed H ledger wasm ext) ops) a.ledger = some a.version) ∧
      ((activations H (World.deployed H ledger wasm ext) ops).IsChain fun a b =>
        b.version.patch.toNat = a.version.patch.toNat + 1) ∧
      ∀ auth c, c.mayUpgrade = true →
        invoke H auth c (run H (World.deployed H ledger wasm ext) ops) ≠
          .error (fail .migrationAlreadyDone) := by
  have hend : VersionInv (run H (World.deployed H ledger wasm ext) ops)
      (activations H (World.deployed H ledger wasm ext) ops) :=
    Transition.run_trace_inv (fun _ _ _ hw hop => step_versionInv hw hop)
      (VersionInv.deployed H ledger wasm ext) hops
  refine ⟨hend.kept, hend.consecutive hfew, fun auth c hc herror => ?_⟩
  exact invoke_notRepeated (hend.nextFree hfew) hc _ herror rfl

def secondCode : Bytes32 := ⟨List.replicate 32 2, List.length_replicate⟩

def thirdCode : Bytes32 := ⟨List.replicate 32 3, List.length_replicate⟩

/-- One signer decides alone and upgrades twice, `pause` ledgers apart. -/
def twoUpgrades (pause : ℕ) : List (Op Unit) :=
  [quietSetup, .invoke [1] (.migrateToMultisig 1 [1] 1 1000 none),
    .invoke [1] (.propose 1 (.upgrade secondCode)), .advance pause,
    .invoke [1] (.propose 1 (.upgrade thirdCode))]

theorem twoUpgrades_apart :
    (activations quietHost quietWorld (twoUpgrades 5)).map (·.ledger) = [0, 1, 6] ∧
      ∀ a ∈ activations quietHost quietWorld (twoUpgrades 5),
        getVersionAt (run quietHost quietWorld (twoUpgrades 5)) a.ledger = some a.version := by
  have hops : Transition.StepsOk (step quietHost) UpgradesInNewLedger
      (World.deployed quietHost 1 zeroHash ()) (twoUpgrades 5) :=
    ⟨fun _ => by decide, fun _ => by decide, fun _ => by decide, trivial,
      fun _ => by decide, trivial⟩
  have hfew : (activations quietHost (World.deployed quietHost 1 zeroHash ()) (twoUpgrades 5)).length ≤
      2 ^ 32 := by decide
  exact ⟨by decide, (version_history_complete hops hfew).1⟩

/-- Two upgrades in ledger 1: the first of them is lost. -/
theorem twoUpgrades_at_once :
    Reachable quietHost (run quietHost quietWorld (twoUpgrades 0)) ∧
      (activations quietHost quietWorld (twoUpgrades 0)).map (fun a => (a.ledger, a.version.patch)) =
        [(0, 0), (1, 1), (1, 2)] ∧
      (getVersionAt (run quietHost quietWorld (twoUpgrades 0)) 1).map (·.patch) = some 2 := by
  exact ⟨reachable_quietWorld.run _, by decide, by decide⟩

end StellarRoute.Contracts
