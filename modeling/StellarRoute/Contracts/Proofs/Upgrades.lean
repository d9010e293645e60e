import StellarRoute.Contracts.Sanity.Upgrades

/-! Upgrades over whole runs. In the hands of a single admin the code changes
only by an upgrade that was proposed long enough before and has been neither
cancelled nor executed since. The admin can take a pending upgrade back as long
as the office is not handed over meanwhile, because it is the proposer who may
cancel. -/

namespace StellarRoute.Contracts

open Lib Governance

variable {X : Type} {H : Host X} {auth : Auth} {c : Call} {w w' : World X} {ledger : UInt32}
  {wasm : Bytes32} {ext : X} {ops : List (Op X)}

/-! The time lock -/

/-- Other code is in force, or another version is on record than before. Putting
the first version on record is no upgrade. -/
def Upgraded (w w' : World X) : Prop :=
  w'.upgrades.wasm ≠ w.upgrades.wasm ∨
    w.config.admin ≠ none ∧ w'.upgrades.contractVersion ≠ w.upgrades.contractVersion

/-- The operation cancels or executes the pending upgrade. -/
def ClearsUpgrade (H : Host X) (w : World X) (op : Op X) : Prop :=
  ∃ auth c r w', op = .invoke auth c ∧ invoke H auth c w = .ok (r, w') ∧
    ∃ admin, c = .cancelUpgrade admin ∨ c = .executeUpgrade admin

/-- Somewhere in the run `ops` from `w0` an upgrade to `hash` was proposed with
success. At the end of the run the minimum delay has passed since then and the
`execute_after` that was asked for is reached; and no upgrade was cancelled or
executed in between. -/
def ProposedInTime (H : Host X) (w0 : World X) (ops : List (Op X)) (hash : Bytes32) : Prop :=
  ∃ pre auth admin after mid w1, ops = pre ++ .invoke auth (.proposeUpgrade admin hash after) :: mid ∧
    proposeUpgrade H auth admin hash after (run H w0 pre) = .ok w1 ∧
    (run H w0 pre).ledger.toNat + 4320 ≤ (run H w0 ops).ledger.toNat ∧
    after.toNat ≤ (run H w0 ops).ledger.toNat ∧
    Transition.StepsOk (step H) (fun v op => ¬ ClearsUpgrade H v op) w1 mid

theorem toNat_now (w : World X) : w.now.toNat = w.ledger.toNat := UInt32.toNat_toUInt64 w.ledger

theorem newUpgrade_lock (admin : Address) (hash : Bytes32) (after : UInt64) (w : World X) :
    w.ledger.toNat + 4320 ≤ (newUpgrade admin hash after w.now).executeAfter.toNat ∧
      after.toNat ≤ (newUpgrade admin hash after w.now).executeAfter.toNat := by
  have hsum : (w.now + MIN_DELAY_LEDGERS).toNat = w.ledger.toNat + 4320 := by
    have hlt := w.ledger.toNat_lt
    have hdelay : MIN_DELAY_LEDGERS.toNat = 4320 := rfl
    rw [UInt64.toNat_add, toNat_now, hdelay]
    exact Nat.mod_eq_of_lt (by omega)
  rw [newUpgrade]
  dsimp only
  split_ifs with hearly
  · rw [UInt64.lt_iff_toNat_lt] at hearly
    omega
  · rw [UInt64.lt_iff_toNat_lt] at hearly
    omega

variable {u : Upgrades}

/-- In single-admin mode only the pending upgrade replaces the code. -/
theorem UpgradeStep.upgraded (h : UpgradeStep auth c w u) (hu : w'.upgrades = u)
    (hmode : w.gov.isMultiSig = false) (hup : Upgraded w w') :
    ∃ p, w.upgrades.pendingUpgrade = some p ∧ p.executeAfter ≤ w.now ∧
      w'.upgrades.wasm = p.newWasmHash := by
  rw [Upgraded, hu] at hup
  cases h with
  | same | propose admin hash after hc hadmin hnone | cancel admin p hc hp => simp at hup
  | first admin feeTo feeRate hash hc hadmin => simp [hadmin, setInitialVersion,
      setContractVersion] at hup
  | execute admin p hc hadmin hp hlock => exact ⟨p, hp, hlock, by rw [hu]; rfl⟩
  | govern p hash hfires haction =>
    have hmulti := fires_multi hfires
    simp [hmode] at hmulti

variable {p : PendingUpgrade}

theorem ClearsUpgrade.pending {op : Op X} (h : ClearsUpgrade H w op) :
    (step H w op).upgrades.pendingUpgrade = none := by
  obtain ⟨auth, c, r, w', rfl, hw', admin, rfl | rfl⟩ := h
  · rw [step, hw']
    simp only [invoke, noRet_eq_ok, cancelUpgrade, bind_eq_ok, pure_eq_ok] at hw'
    obtain ⟨-, -, -, -, -, -, -, rfl⟩ := hw'
    rfl
  · rw [step, hw']
    simp only [invoke, noRet_eq_ok, executeUpgrade, bind_eq_ok, pure_eq_ok] at hw'
    obtain ⟨-, -, -, -, -, -, -, p, -, -, -, -, -, v, hv, rfl⟩ := hw'
    have hupgrades := executeWasmUpgrade_eq_ok hv
    exact congrArg Upgrades.pendingUpgrade hupgrades

theorem pending_proposed
    (hp : (run H (World.deployed H ledger wasm ext) ops).upgrades.pendingUpgrade = some p)
    (hlock : p.executeAfter ≤ (run H (World.deployed H ledger wasm ext) ops).now) :
    ProposedInTime H (World.deployed H ledger wasm ext) ops p.newWasmHash := by
  have hstart : (World.deployed H ledger wasm ext).upgrades.pendingUpgrade ≠ some p := nofun
  obtain ⟨pre, op, mid, rfl, hnot, hborn, hkept⟩ :=
    Transition.run_since (P := fun w : World X => w.upgrades.pendingUpgrade = some p) hstart hp
  obtain ⟨auth, c, r, rfl, hinvoke⟩ :=
    step_changed (f := fun w : World X => w.upgrades.pendingUpgrade) (fun _ => rfl) (fun _ => rfl)
      (fun heq => hnot (heq ▸ hborn))
  have hpre : Reachable H (run H (World.deployed H ledger wasm ext) pre) :=
    ⟨ledger, wasm, ext, pre, rfl⟩
  have hstep := invoke_upgradeStep hpre.govInv.keyed hinvoke
  obtain ⟨admin, after, rfl, hnew⟩ : ∃ admin after, c = .proposeUpgrade admin p.newWasmHash after ∧
      p = newUpgrade admin p.newWasmHash after (run H (World.deployed H ledger wasm ext) pre).now := by
    generalize World.upgrades (step H _ _) = u at hstep hborn
    cases hstep with
    | same | first admin feeTo feeRate hash hc hadmin | govern q hash hfires haction =>
      exact absurd hborn hnot
    | propose admin hash after hc hadmin hnone =>
      obtain rfl := Option.some.inj hborn
      exact ⟨admin, after, hc, rfl⟩
    | cancel admin q hc hq | execute admin q hc hadmin hq hlock => cases hborn
  obtain ⟨hdelay, hafter⟩ :=
    newUpgrade_lock admin p.newWasmHash after (run H (World.deployed H ledger wasm ext) pre)
  rw [← hnew] at hdelay hafter
  rw [UInt64.le_iff_toNat_le, toNat_now] at hlock
  obtain ⟨-, hpropose⟩ := noRet_eq_ok.mp hinvoke
  refine ⟨pre, auth, admin, after, mid, _, rfl, hpropose, hdelay.trans hlock, hafter.trans hlock,
    hkept.mono fun v op hv hclears => ?_⟩
  -- a step that clears the slot does not leave the upgrade in it
  rw [hclears.pending] at hv
  cases hv.2

/-- Whenever the code is replaced in single-admin mode, the new code was proposed
in time and the proposal stood until then. -/
theorem upgrade_proposed_in_time {r : Ret}
    (hmode : (run H (World.deployed H ledger wasm ext) ops).gov.isMultiSig = false)
    (h : invoke H auth c (run H (World.deployed H ledger wasm ext) ops) = .ok (r, w'))
    (hup : Upgraded (run H (World.deployed H ledger wasm ext) ops) w') :
    ProposedInTime H (World.deployed H ledger wasm ext) ops w'.upgrades.wasm := by
  have hw : Reachable H (run H (World.deployed H ledger wasm ext) ops) := ⟨ledger, wasm, ext, ops, rfl⟩
  obtain ⟨p, hp, hlock, hwasm⟩ :=
    (invoke_upgradeStep hw.govInv.keyed h).upgraded rfl hmode hup
  rw [hwasm]
  exact pending_proposed hp hlock

def upgradeCode : Bytes32 := ⟨List.replicate 32 5, List.length_replicate⟩

def lockedUpgrade : List (Op Unit) :=
  [quietSetup, .invoke [1] (.proposeUpgrade 1 upgradeCode 0), .invoke [1] (.pause 1),
    .invoke [1] (.unpause 1), .advance 4320]

theorem lockedUpgrade_in_time : ∃ w',
    invoke quietHost [1] (.executeUpgrade 1) (run quietHost quietWorld lockedUpgrade) = .ok (.unit, w') ∧
      w'.upgrades.wasm = upgradeCode ∧
      ProposedInTime quietHost quietWorld lockedUpgrade upgradeCode := by
  have hok : (executeUpgrade quietHost [1] 1 (run quietHost quietWorld lockedUpgrade)).map
      (·.upgrades.wasm) = .ok upgradeCode := by decide
  obtain ⟨w', hw', hwasm⟩ := map_eq_ok.mp hok
  have hinvoke : invoke quietHost [1] (.executeUpgrade 1) (run quietHost quietWorld lockedUpgrade) =
      .ok (.unit, w') := noRet_eq_ok.mpr ⟨rfl, hw'⟩
  have hold : (run quietHost quietWorld lockedUpgrade).upgrades.wasm ≠ upgradeCode := by decide
  have hup : Upgraded (run quietHost quietWorld lockedUpgrade) w' := .inl (hwasm ▸ hold.symm)
  have hmode : (run quietHost (World.deployed quietHost 1 zeroHash ()) lockedUpgrade).gov.isMultiSig =
      false := by decide
  refine ⟨w', hinvoke, hwasm, ?_⟩
  rw [← hwasm]
  exact upgrade_proposed_in_time hmode hinvoke hup

/-! Taking a pending upgrade back -/

/-- The office is handed over only while no upgrade is pending. -/
def HandsOverIdle (H : Host X) (w : World X) : Op X → Prop
  | .invoke auth (.setAdmin a) =>
    ∀ w', setAdmin H auth a w = .ok w' → w.upgrades.pendingUpgrade = none
  | _ => True

/-- A pending upgrade is that of the admin. -/
structure ProposerInv (w : World X) : Prop where
  gov : GovInv w.gov
  proposer : ∀ p, w.upgrades.pendingUpgrade = some p → w.config.admin = some p.proposer

theorem UpgradeStep.pending (h : UpgradeStep auth c w u)
    (hp : u.pendingUpgrade = some p) : w.upgrades.pendingUpgrade = some p ∨
      (∃ hash after, c = .proposeUpgrade p.proposer hash after) ∧
        w.config.admin = some p.proposer := by
  cases h with
  | same | first admin feeTo feeRate hash hc hadmin | govern q hash hfires haction => exact .inl hp
  | propose admin hash after hc hadmin hnone =>
    obtain rfl : newUpgrade admin hash after w.now = p := Option.some.inj hp
    exact .inr ⟨⟨hash, after, hc⟩, hadmin⟩
  | cancel admin q hc hq | execute admin q hc hadmin hq hlock => cases hp

theorem invoke_proposerInv {r : Ret} (hw : ProposerInv w) (hop : HandsOverIdle H w (.invoke auth c))
    (h : invoke H auth c w = .ok (r, w')) : ProposerInv w' := by
  refine ⟨invoke_govInv hw.gov h, fun p hp => ?_⟩
  have hadmin : w.config.admin = some p.proposer := by
    rcases (invoke_upgradeStep hw.gov.keyed h).pending hp with hold | ⟨-, hadmin⟩
    · exact hw.proposer p hold
    · exact hadmin
  rcases (invoke_configEdit hw.gov.keyed h).admin_or with hsame | ⟨hnone, -⟩ | ⟨a, rfl⟩
  · exact hsame.trans hadmin
  · simp [hnone] at hadmin
  · -- an upgrade pending after the hand-over was pending before it
    have hnone := hop w' (noRet_eq_ok.mp h).2
    rcases (invoke_upgradeStep hw.gov.keyed h).pending hp with hold | ⟨⟨_, _, hc⟩, -⟩
    · simp [hnone] at hold
    · cases hc

/-- In every run in which the office is not handed over while an upgrade is
pending, the admin can cancel whatever upgrade is pending. -/
theorem pending_upgrade_cancellable {a : Address} {p : PendingUpgrade}
    (hops : Transition.StepsOk (step H) (HandsOverIdle H) (World.deployed H ledger wasm ext) ops)
    (hadmin : (run H (World.deployed H ledger wasm ext) ops).config.admin = some a)
    (hp : (run H (World.deployed H ledger wasm ext) ops).upgrades.pendingUpgrade = some p)
    (hauth : a ∈ auth) :
    ∃ w', cancelUpgrade H auth a (run H (World.deployed H ledger wasm ext) ops) = .ok w' ∧
      w'.upgrades.pendingUpgrade = none := by
  have hstart : ProposerInv (World.deployed H ledger wasm ext) :=
    ⟨govInv_deployed H ledger wasm ext, nofun⟩
  have hend : ProposerInv (run H (World.deployed H ledger wasm ext) ops) :=
    run_keeps_of_ok (fun _ _ _ hw => ⟨hw.gov, hw.proposer⟩) (fun _ _ hw => ⟨hw.gov, hw.proposer⟩)
      (fun _ _ _ _ _ hw hop h => invoke_proposerInv hw hop h) hstart hops
  obtain rfl : a = p.proposer := Option.some.inj (hadmin.symm.trans (hend.proposer p hp))
  generalize run H (World.deployed H ledger wasm ext) ops = w at hp
  have hok : cancelUpgrade H auth p.proposer w = .ok (extendInstanceTtl H
      (emit (.upgradeCancelled p.proposer) (setPendingUpgrade none w))) := by
    simp only [cancelUpgrade, bind_eq_ok, requireAuth_eq_ok, require_eq_ok, okOr_eq_ok, pure_eq_ok,
      exists_const]
    exact ⟨hauth, p, hp, rfl, trivial⟩
  exact ⟨_, hok, rfl⟩

def proposedBySecond : List (Op Unit) :=
  [quietSetup, .invoke [1] (.setAdmin 3), .invoke [3] (.proposeUpgrade 3 upgradeCode 0)]

theorem proposedBySecond_cancellable : ∃ w',
    cancelUpgrade quietHost [3] 3 (run quietHost quietWorld proposedBySecond) = .ok w' ∧
      w'.upgrades.pendingUpgrade = none := by
  have hops : Transition.StepsOk (step quietHost) (HandsOverIdle quietHost)
      (World.deployed quietHost 1 zeroHash ()) proposedBySecond :=
    ⟨trivial, fun _ _ => by decide, trivial, trivial⟩
  have hp : (run quietHost quietWorld proposedBySecond).upgrades.pendingUpgrade =
      some (newUpgrade 3 upgradeCode 0 1) := by decide
  exact pending_upgrade_cancellable hops (by decide) hp (by decide)

/-- The first admin proposes an upgrade and hands over. -/
def handedOverPending : World Unit :=
  run quietHost quietWorld
    [quietSetup, .invoke [1] (.proposeUpgrade 1 upgradeCode 0), .invoke [1] (.setAdmin 3)]

/-- The new admin cannot cancel, and the upgrade stays pending. -/
theorem new_admin_cannot_cancel :
    Reachable quietHost handedOverPending ∧ handedOverPending.gov.isMultiSig = false ∧
      handedOverPending.config.admin = some 3 ∧
      handedOverPending.upgrades.pendingUpgrade = some (newUpgrade 1 upgradeCode 0 1) ∧
      cancelUpgrade quietHost [3] 3 handedOverPending = .error (fail .unauthorized) := by
  have herror : (cancelUpgrade quietHost [3] 3 handedOverPending).map (fun _ => ()) =
      .error (fail .unauthorized) := by decide
  exact ⟨reachable_quietWorld.run _, by decide, by decide, by decide,
    map_eq_error.mp herror⟩

end StellarRoute.Contracts
