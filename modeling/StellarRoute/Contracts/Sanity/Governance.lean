import StellarRoute.Contracts.Sanity.Frame

/-! What an invocation can do to the governance record. It makes at most one
edit (the migration, a new proposal, an approval, a cancellation) and after it
executes at most one proposal. `fires` tells from the state before the call
which proposal that will be. -/

namespace StellarRoute.Contracts

open Lib Governance

variable {X : Type} {H : Host X} {auth : Auth} {c : Call} {w w' : World X}

/-- What `init_governance` asks of a configuration, its time to live apart. -/
structure WellFormed (H : Host X) (config : GovernanceConfig) : Prop where
  distinct : config.signers.Nodup
  limit : config.signers.length ≤ MAX_SIGNERS
  notSelf : H.contract ∉ config.signers
  pos : 1 ≤ config.threshold.toNat
  reachable : config.threshold.toNat ≤ config.signers.length

def newProposal (config : GovernanceConfig) (signer : Address) (action : ProposalAction)
    (id now : UInt64) : Proposal :=
  { id := id, action := action, proposer := signer, approvals := [signer], createdAt := now,
    expiresAt := now.saturatingAdd config.proposalTtl, executed := false }

/-- The proposal can still be executed: it is neither executed, nor cancelled,
nor expired. -/
def Proposal.isOpen (p : Proposal) (now : UInt64) : Prop := p.executed = false ∧ now ≤ p.expiresAt

instance (p : Proposal) (now : UInt64) : Decidable (p.isOpen now) := inferInstanceAs (Decidable (_ ∧ _))

/-- The proposal that the call hands to `dispatch_action`, with the approval
that the call itself adds. -/
def fires (auth : Auth) (c : Call) (w : World X) : Option Proposal := do
  guard (w.gov.isMultiSig = true)
  let config ← w.gov.governance
  match c with
  | .propose signer action => do
    let id ← w.gov.proposalCounter.checkedAdd 1
    guard (signer ∈ auth ∧ isSigner config signer = true ∧ config.threshold = 1)
    some (newProposal config signer action id w.now)
  | .approveProposal signer id => do
    let p ← getProposal w id
    guard (signer ∈ auth ∧ isSigner config signer = true ∧ p.isOpen w.now ∧
      hasApproved p signer = false ∧ config.threshold.toNat ≤ (p.approvals ++ [signer]).length)
    some { p with approvals := p.approvals ++ [signer] }
  | .executeProposal id => do
    let p ← getProposal w id
    guard (p.isOpen w.now ∧ config.threshold.toNat ≤ p.approvals.length)
    some p
  | _ => none

/-- The edits of the governance record, apart from execution. -/
inductive Edit (H : Host X) (now : UInt64) (g : Gov) : Gov → Prop
  | same : Edit H now g g
  | migrate (config : GovernanceConfig) (guardian : Option Address) (hmode : g.isMultiSig = false)
      (hconfig : WellFormed H config) :
      Edit H now g { g with isMultiSig := true, governance := some config, guardian := guardian }
  | create (config : GovernanceConfig) (signer : Address) (action : ProposalAction) (id : UInt64)
      (hmode : g.isMultiSig = true) (hconfig : g.governance = some config)
      (hsigner : signer ∈ config.signers) (hid : g.proposalCounter.checkedAdd 1 = some id) :
      Edit H now g { g with
        proposalCounter := id
        proposalEntry := Function.update g.proposalEntry id
          (some (newProposal config signer action id now)) }
  | approve (config : GovernanceConfig) (signer : Address) (id : UInt64) (p : Proposal)
      (hconfig : g.governance = some config) (hsigner : signer ∈ config.signers)
      (hentry : g.proposalEntry id = some p) (hopen : p.isOpen now) (hnew : signer ∉ p.approvals) :
      Edit H now g { g with
        proposalEntry := Function.update g.proposalEntry p.id
          (some { p with approvals := p.approvals ++ [signer] }) }
  | cancel (id : UInt64) (p : Proposal) (hentry : g.proposalEntry id = some p)
      (hopen : p.executed = false) :
      Edit H now g { g with
        proposalEntry := Function.update g.proposalEntry p.id (some { p with executed := true }) }

/-- The state `dispatch_action` runs in: the proposal is marked and logged. -/
def marked (p : Proposal) (config : GovernanceConfig) (w : World X) : World X :=
  let w := saveProposal { p with executed := true } w
  { w with gov.dispatched := w.gov.dispatched ++ [⟨p, config, w.ledger⟩] }

/-- `execute_proposal` for the stored proposal `p` leads from `v` to `u`. -/
structure Executes (H : Host X) (p : Proposal) (config : GovernanceConfig) (v u : World X) : Prop where
  governance : v.gov.governance = some config
  entry : ∃ id, v.gov.proposalEntry id = some p
  isOpen : p.isOpen v.now
  quorum : config.threshold.toNat ≤ p.approvals.length
  dispatch : dispatchAction H p.action (marked p config v) = .ok u

/-- The areas a call writes when it executes no proposal. -/
def Call.quietTouches : Call → List Area
  | .propose .. | .approveProposal .. | .executeProposal .. => [.gov]
  | c => c.touches

/-- The two ways in which an invocation can succeed. -/
inductive Outcome (H : Host X) (auth : Auth) (c : Call) (w w' : World X) : Prop
  | quiet (hfires : fires auth c w = none) (hedit : Edit H w.now w.gov w'.gov)
      (htouches : Touches c.quietTouches w w')
  | fired (p : Proposal) (config : GovernanceConfig) (v u : World X)
      (hfires : fires auth c w = some p) (hbefore : Touches [.gov] w v)
      (hedit : Edit H w.now w.gov v.gov)
      (hothers : ∀ id, id ≠ p.id → v.gov.proposalEntry id = w.gov.proposalEntry id)
      (hexec : Executes H p config v u) (hafter : Touches [] u w')

/-! The entry points one by one -/

variable {id : UInt64} {action : ProposalAction} {signer : Address} {config : GovernanceConfig}
  {p : Proposal} {g g' : Gov}

theorem governance_executeProposal_eq_ok (h : Governance.executeProposal H id w = .ok w') :
    ∃ p config u, getProposal w id = some p ∧ Executes H p config w u ∧
      w' = extendInstanceTtl H (emit (.proposalExecuted id) u) := by
  simp only [Governance.executeProposal, bind_eq_ok, require_eq_ok, okOr_eq_ok, getGovernance_eq_ok,
    pure_eq_ok, exists_const] at h
  obtain ⟨config, hconfig, p, hp, hexec, hnow, hquorum, u, hu, rfl⟩ := h
  exact ⟨p, config, u, hp, ⟨hconfig, ⟨id, hp⟩, ⟨hexec, hnow⟩, hquorum, hu⟩, rfl⟩

/-- The call stores the proposal `p`, which leaves `v`, and executes it if it fires. -/
structure Proceeds (H : Host X) (auth : Auth) (c : Call) (w w' : World X) (p : Proposal)
    (v u : World X) : Prop where
  edit : Edit H w.now w.gov v.gov
  stored : v.gov.proposalEntry p.id = some p
  others : ∀ id, id ≠ p.id → v.gov.proposalEntry id = w.gov.proposalEntry id
  event : Announces { w with gov := v.gov } v
  fires : fires auth c w = none ∧ u = v ∨
    fires auth c w = some p ∧ Governance.executeProposal H p.id v = .ok u
  final : w' = u ∨ w' = extendInstanceTtl H u

theorem propose_proceeds (h : propose H auth signer action w = .ok (id, w')) :
    ∃ p v u, Proceeds H auth (.propose signer action) w w' p v u := by
  simp only [propose, Governance.propose, nextProposalId, bind_eq_ok, require_eq_ok, okOr_eq_ok,
    requireAuth_eq_ok, getGovernance_eq_ok, pure_eq_ok, Prod.mk.injEq, Prod.exists, exists_const] at h
  obtain ⟨hmode, hauth, config, hconfig, hsigner, id', v, ⟨next, hnext, rfl, rfl⟩, u, hu, rfl, rfl⟩ := h
  have hmem : signer ∈ config.signers := of_decide_eq_true hsigner
  let p := newProposal config signer action next w.now
  refine ⟨p, emit (.proposalCreated next signer action)
      (saveProposal p { w with gov.proposalCounter := next }), u,
    .create config signer action next hmode hconfig hmem hnext, Function.update_self ..,
    fun i hi => Function.update_of_ne hi _ _, announces_emit (fun _ => rfl) _, ?_, .inr rfl⟩
  by_cases hone : config.threshold = 1
  · -- the proposer's approval is enough
    rw [autoExecute, if_pos (by simpa using hone)] at hu
    exact .inr ⟨by simp [fires, hmode, hconfig, hnext, hauth, hsigner, hone, p], hu⟩
  · rw [autoExecute, if_neg (by simpa using hone), pure_eq_ok] at hu
    exact .inl ⟨by simp [fires, hmode, hconfig, hnext, hone], hu.symm⟩

/-- Proposals are stored under their own ids. -/
def Gov.Keyed (g : Gov) : Prop := ∀ id p, g.proposalEntry id = some p → p.id = id

theorem approveProposal_proceeds (hkey : w.gov.Keyed)
    (h : approveProposal H auth signer id w = .ok w') :
    ∃ p v u, Proceeds H auth (.approveProposal signer id) w w' p v u := by
  simp only [approveProposal, Governance.approve, bind_eq_ok, require_eq_ok, okOr_eq_ok,
    requireAuth_eq_ok, getGovernance_eq_ok, pure_eq_ok, exists_const] at h
  obtain ⟨hmode, hauth, config, hconfig, hsigner, p, hp, hexec, hnow, hnew, u, hu, rfl⟩ := h
  have hmem : signer ∈ config.signers := of_decide_eq_true hsigner
  have hnotin : signer ∉ p.approvals := of_decide_eq_false hnew
  obtain rfl := hkey _ p hp
  let p' := { p with approvals := p.approvals ++ [signer] }
  refine ⟨p', emit (.proposalApproved p.id signer p'.approvals.length) (saveProposal p' w), u,
    .approve config signer p.id p hconfig hmem hp ⟨hexec, hnow⟩ hnotin, Function.update_self ..,
    fun i hi => Function.update_of_ne hi _ _, announces_emit (fun _ => rfl) _, ?_, .inr rfl⟩
  by_cases hreach : config.threshold.toNat ≤ (p.approvals ++ [signer]).length
  · rw [autoExecute, if_pos (by simpa using hreach)] at hu
    refine .inr ⟨?_, hu⟩
    have hle : config.threshold.toNat ≤ p.approvals.length + 1 := by simpa using hreach
    simp [fires, hmode, hconfig, hp, hauth, hsigner, hnew, Proposal.isOpen, hexec, hnow, hle, p']
  · rw [autoExecute, if_neg (by simpa using hreach), pure_eq_ok] at hu
    refine .inl ⟨?_, hu.symm⟩
    have hlt : ¬ config.threshold.toNat ≤ p.approvals.length + 1 := by simpa using hreach
    simp [fires, hmode, hconfig, hp, hlt]

theorem executeProposal_proceeds (hkey : w.gov.Keyed) (h : executeProposal H id w = .ok w') :
    ∃ p v u, Proceeds H auth (.executeProposal id) w w' p v u := by
  simp only [executeProposal, bind_eq_ok, require_eq_ok, exists_const] at h
  obtain ⟨hmode, h⟩ := h
  obtain ⟨p, config, u, hp, hexec, -⟩ := governance_executeProposal_eq_ok h
  obtain rfl := hkey _ p hp
  refine ⟨p, w, w', .same, hp, fun _ _ => rfl, announces_refl w, .inr ⟨?_, h⟩, .inl rfl⟩
  simp [fires, hmode, hexec.governance, hp, hexec.isOpen, hexec.quorum]

variable {v u : World X}

theorem Proceeds.outcome (h : Proceeds H auth c w w' p v u) (hc : c.quietTouches = [.gov]) :
    Outcome H auth c w w' := by
  have hv : Touches [.gov] w v := (h.event.touches.mono (by simp)).congr rfl rfl
  have hafter : Touches [] u w' := by
    rcases h.final with rfl | rfl
    · exact .refl _ _
    · exact extendInstanceTtl_touches u
  rcases h.fires with ⟨hnone, rfl⟩ | ⟨hsome, hexec⟩
  · exact .quiet hnone (hafter.gov (by simp) ▸ h.edit) (hc ▸ hv.trans (hafter.mono (by simp)))
  · obtain ⟨p', config, u', hp, hexecutes, rfl⟩ := governance_executeProposal_eq_ok hexec
    obtain rfl : p = p' := Option.some.inj (h.stored.symm.trans hp)
    exact .fired p config v u' hsome hv h.edit h.others hexecutes (hafter.congr rfl rfl)

theorem cancelProposal_edit (h : cancelProposal H auth signer id w = .ok w') :
    ∃ p, w.gov.proposalEntry id = some p ∧ p.executed = false ∧
      w'.gov = { w.gov with
        proposalEntry :=
          Function.update w.gov.proposalEntry p.id (some { p with executed := true }) } := by
  simp only [cancelProposal, Governance.cancel, bind_eq_ok, require_eq_ok, okOr_eq_ok, pure_eq_ok,
    exists_const] at h
  obtain ⟨-, -, -, -, -, p, hp, hexec, -, rfl⟩ := h
  exact ⟨p, hp, hexec, rfl⟩

theorem migrateToMultisig_edit {admin : Address} {signers : List Address} {threshold : UInt32}
    {ttl : UInt64} {guardian : Option Address}
    (h : Governance.migrateToMultisig H auth admin signers threshold ttl guardian w = .ok w') :
    w.config.admin = some admin ∧ w.gov.isMultiSig = false ∧ WellFormed H ⟨signers, threshold, ttl⟩ ∧
      ∃ guardian', w'.gov = { w.gov with
        isMultiSig := true, governance := some ⟨signers, threshold, ttl⟩, guardian := guardian' } := by
  simp only [Governance.migrateToMultisig, Governance.initGovernance, bind_eq_ok, require_eq_ok,
    getAdmin_eq_ok, exists_const, pure_eq_ok] at h
  obtain ⟨-, -, current, hadmin, rfl, hmode, v, ⟨hthreshold, hlimit, -, hnodup, hself, hv⟩, rfl⟩ := h
  have hpos : 1 ≤ threshold.toNat := by
    have := hthreshold.2.1
    rw [Ne, ← UInt32.toNat_inj] at this
    simp at this
    omega
  refine ⟨hadmin, hmode, ⟨hnodup, hlimit, hself, hpos, hthreshold.2.2⟩, ?_⟩
  cases guardian with
  | none | some g =>
    rw [← pure_eq_ok.mp hv]
    exact ⟨_, rfl⟩

variable {r : Ret}

/-- Every successful invocation has one of the two outcomes, as long as
proposals are stored under their own ids. -/
theorem invoke_outcome (hkey : w.gov.Keyed) (h : invoke H auth c w = .ok (r, w')) :
    Outcome H auth c w w' := by
  have ht := invoke_touches h
  cases c
  case propose signer action =>
    simp only [invoke, bind_eq_ok, pure_eq_ok, Prod.mk.injEq, Prod.exists] at h
    obtain ⟨id, v, hv, -, rfl⟩ := h
    obtain ⟨p, v, u, hp⟩ := propose_proceeds hv
    exact hp.outcome rfl
  case approveProposal signer id =>
    simp only [invoke, noRet_eq_ok] at h
    obtain ⟨p, v, u, hp⟩ := approveProposal_proceeds hkey h.2
    exact hp.outcome rfl
  case executeProposal id =>
    simp only [invoke, noRet_eq_ok] at h
    obtain ⟨p, v, u, hp⟩ := executeProposal_proceeds hkey h.2
    exact hp.outcome rfl
  case cancelProposal signer id =>
    simp only [invoke, noRet_eq_ok] at h
    obtain ⟨p, hp, hexec, hgov⟩ := cancelProposal_edit h.2
    exact .quiet (by simp [fires]) (hgov ▸ .cancel id p hp hexec) ht
  case migrateToMultisig admin signers threshold ttl guardian =>
    simp only [invoke, noRet_eq_ok] at h
    obtain ⟨-, hmode, hwf, guardian', hgov⟩ := migrateToMultisig_edit h.2
    exact .quiet (by simp [fires]) (hgov ▸ .migrate _ guardian' hmode hwf) ht
  all_goals
    exact .quiet (by simp [fires]) (ht.gov (by simp [Call.touches]) ▸ .same) ht

/-! Execution -/

inductive ConfigStep (config : GovernanceConfig) : ProposalAction → GovernanceConfig → Prop
  | keep (action : ProposalAction) : ConfigStep config action config
  | add (a : Address) (hlimit : config.signers.length < MAX_SIGNERS) :
      ConfigStep config (.addSigner a) { config with signers := config.signers ++ [a] }
  | remove (a : Address) (hlarge : config.threshold.toNat < config.signers.length) :
      ConfigStep config (.removeSigner a) { config with signers := config.signers.filter (· ≠ a) }
  | threshold (n : UInt32) (hpos : n ≠ 0) (hle : n.toNat ≤ config.signers.length) :
      ConfigStep config (.changeThreshold n) { config with threshold := n }

theorem dispatchAction_gov (hconfig : w.gov.governance = some config)
    (h : dispatchAction H action w = .ok w') :
    ∃ config', ConfigStep config action config' ∧
      w'.gov = { w.gov with governance := some config' } := by
  have hsame : w.gov = { w.gov with governance := some config } := by rw [← hconfig]
  cases action <;> simp only [dispatchAction, bind_eq_ok, require_eq_ok, okOr_eq_ok,
    getGovernance_eq_ok, pure_eq_ok, exists_const] at h
  case addSigner a =>
    obtain ⟨config', hconfig', hlimit, rfl⟩ := h
    obtain rfl := Option.mem_unique hconfig hconfig'
    exact ⟨_, .add a hlimit, rfl⟩
  case removeSigner a =>
    obtain ⟨config', hconfig', hlarge, rfl⟩ := h
    obtain rfl := Option.mem_unique hconfig hconfig'
    exact ⟨_, .remove a hlarge, rfl⟩
  case changeThreshold n =>
    obtain ⟨config', hconfig', ⟨hpos, hle⟩, rfl⟩ := h
    obtain rfl := Option.mem_unique hconfig hconfig'
    exact ⟨_, .threshold n hpos hle, rfl⟩
  case upgrade hash =>
    exact ⟨config, .keep _, by rw [(executeWasmUpgrade_touches h).gov (by simp), ← hsame]⟩
  all_goals
    refine ⟨config, .keep _, ?_⟩
    rw [← hsame]
  case setFeeRate rate =>
    obtain ⟨-, rfl⟩ := h
    rfl
  case setFeeConfig | registerPool =>
    obtain ⟨-, -, rfl⟩ := h
    rfl
  all_goals
    subst h
    rfl

theorem dispatchAction_admin (h : dispatchAction H action w = .ok w') :
    w'.config.admin = w.config.admin := by
  cases action
  case upgrade => rw [(executeWasmUpgrade_touches h).config (by simp)]
  all_goals
    refine (?_ : Yields (fun v : World X => v.config.admin = w.config.admin) _) _ h
    repeat refine yields_bind fun _ => ?_
    exact yields_pure rfl

theorem Executes.gov (h : Executes H p config v u) :
    ∃ config', ConfigStep config p.action config' ∧
      u.gov = { v.gov with
        governance := some config'
        proposalEntry := Function.update v.gov.proposalEntry p.id (some { p with executed := true })
        dispatched := v.gov.dispatched ++ [⟨p, config, v.ledger⟩] } :=
  dispatchAction_gov (w := marked p config v) h.governance h.dispatch

theorem Touches.now {as : List Area} (h : Touches as w w') : w'.now = w.now :=
  congrArg UInt32.toUInt64 h.ledger

theorem Executes.now (h : Executes H p config v u) : u.now = v.now :=
  (dispatchAction_touches h.dispatch).now (w := marked p config v)

theorem Proposal.isOpen_of_later {l : UInt32} (hl : w.ledger ≤ l) (h : p.isOpen l.toUInt64) :
    p.isOpen w.now := by
  have hle := UInt64.le_iff_toNat_le.mp h.2
  rw [UInt32.toNat_toUInt64] at hle
  refine ⟨h.1, UInt64.le_iff_toNat_le.mpr ?_⟩
  rw [World.now, UInt32.toNat_toUInt64]
  exact (UInt32.le_iff_toNat_le.mp hl).trans hle

/-! What edits and executions leave alone -/

theorem fires_multi (h : fires auth c w = some p) : w.gov.isMultiSig = true := by
  by_contra hmode
  simp [fires, hmode] at h

variable {now : UInt64}

theorem Edit.governance (hmode : g.isMultiSig = true) (h : Edit H now g g') :
    g'.governance = g.governance := by
  cases h with
  | migrate config guardian hsingle hconfig =>
    rw [hmode] at hsingle
    cases hsingle
  | _ => rfl

theorem Edit.multi (hmode : g.isMultiSig = true) (h : Edit H now g g') : g'.isMultiSig = true := by
  cases h with
  | migrate => rfl
  | _ => exact hmode

theorem Edit.dispatched (h : Edit H now g g') : g'.dispatched = g.dispatched := by
  cases h <;> rfl

/-! The invariant of the record -/

/-- Proposals are stored under their own ids, which have been handed out; no one
approves twice; there are none before the migration; what has been dispatched
is marked, and was dispatched once and in time. -/
structure GovInv (g : Gov) : Prop where
  keyed : g.Keyed
  issued : ∀ id p, g.proposalEntry id = some p → id.toNat ≤ g.proposalCounter.toNat
  approvals : ∀ id p, g.proposalEntry id = some p → p.approvals.Nodup
  single : g.isMultiSig = false → ∀ id, g.proposalEntry id = none
  marked : ∀ d ∈ g.dispatched, ∃ p, g.proposalEntry d.proposal.id = some p ∧ p.executed = true
  once : (g.dispatched.map (·.proposal.id)).Nodup
  inTime : ∀ d ∈ g.dispatched, d.ledger.toUInt64 ≤ d.proposal.expiresAt

theorem govInv_deployed (H : Host X) (ledger : UInt32) (wasm : Bytes32) (ext : X) :
    GovInv (World.deployed H ledger wasm ext).gov := by
  constructor <;> simp [World.deployed, Gov.Keyed]

theorem GovInv.replace (hg : GovInv g) {q : Proposal} (hp : g.proposalEntry id = some p)
    (hid : q.id = p.id) (happ : q.approvals.Nodup) (hexec : p.executed = true → q.executed = true) :
    GovInv { g with proposalEntry := Function.update g.proposalEntry p.id (some q) } := by
  have hpid : p.id = id := hg.keyed id p hp
  rw [hpid] at hid ⊢
  refine ⟨?_, ?_, ?_, ?_, ?_, hg.once, hg.inTime⟩
  · intro i r hr
    rcases eq_or_ne i id with rfl | hne
    · simp only [Function.update_self, Option.some.injEq] at hr
      rw [← hr, hid]
    · exact hg.keyed i r (by simpa [hne] using hr)
  · intro i r hr
    rcases eq_or_ne i id with rfl | hne
    · exact hg.issued i p hp
    · exact hg.issued i r (by simpa [hne] using hr)
  · intro i r hr
    rcases eq_or_ne i id with rfl | hne
    · simp only [Function.update_self, Option.some.injEq] at hr
      exact hr ▸ happ
    · exact hg.approvals i r (by simpa [hne] using hr)
  · intro hmode
    rw [hg.single hmode id] at hp
    cases hp
  · intro d hd
    obtain ⟨r, hr, hrexec⟩ := hg.marked d hd
    rcases eq_or_ne d.proposal.id id with heq | hne
    · rw [heq, hp] at hr
      obtain rfl := Option.some.inj hr
      exact ⟨q, by simp [heq], hexec hrexec⟩
    · exact ⟨r, by simpa [hne] using hr, hrexec⟩

theorem toNat_checkedAdd_one {a b : UInt64} (h : a.checkedAdd 1 = some b) : b.toNat = a.toNat + 1 :=
  UInt64.toNat_of_checkedAdd h

theorem Edit.inv (hg : GovInv g) (h : Edit H now g g') : GovInv g' := by
  cases h with
  | same => exact hg
  | migrate config guardian hmode hconfig =>
    exact ⟨hg.keyed, hg.issued, hg.approvals, by simp, hg.marked, hg.once, hg.inTime⟩
  | create config signer action id hmode hconfig hsigner hid =>
    have hnext := toNat_checkedAdd_one hid
    -- the new id is above every one in use, so no entry is overwritten
    have hfresh : ∀ i p, g.proposalEntry i = some p → i ≠ id := by
      rintro i p hp rfl
      have := hg.issued i p hp
      omega
    refine ⟨?_, ?_, ?_, by simp [hmode], ?_, hg.once, hg.inTime⟩
    · intro i p hp
      rcases eq_or_ne i id with rfl | hne
      · simp only [Function.update_self, Option.some.injEq] at hp
        rw [← hp, newProposal]
      · exact hg.keyed i p (by simpa [hne] using hp)
    · intro i p hp
      rcases eq_or_ne i id with rfl | hne
      · exact le_refl _
      · have := hg.issued i p (by simpa [hne] using hp)
        exact hnext ▸ this.trans (Nat.le_succ _)
    · intro i p hp
      rcases eq_or_ne i id with rfl | hne
      · simp only [Function.update_self, Option.some.injEq] at hp
        rw [← hp]
        exact List.nodup_singleton signer
      · exact hg.approvals i p (by simpa [hne] using hp)
    · intro d hd
      obtain ⟨p, hp, hexec⟩ := hg.marked d hd
      exact ⟨p, by simpa [hfresh _ p hp] using hp, hexec⟩
  | approve config signer id p hconfig hsigner hentry hopen hnew =>
    refine hg.replace hentry rfl ?_ fun h => h
    exact List.nodup_append_comm.mp (List.nodup_cons.mpr ⟨hnew, hg.approvals id p hentry⟩)
  | cancel id p hentry hopen =>
    exact hg.replace hentry rfl (hg.approvals id p hentry) fun _ => rfl

theorem Executes.inv (hv : GovInv v.gov) (h : Executes H p config v u) : GovInv u.gov := by
  obtain ⟨config', -, hgov⟩ := h.gov
  obtain ⟨id, hp⟩ := h.entry
  have hinv := hv.replace (q := { p with executed := true }) hp rfl (hv.approvals id p hp) fun _ => rfl
  rw [hgov]
  refine ⟨hinv.keyed, hinv.issued, hinv.approvals, hinv.single, ?_, ?_, ?_⟩
  · intro d hd
    rcases List.mem_append.mp hd with hd | hd
    · exact hinv.marked d hd
    · rw [List.mem_singleton.mp hd]
      exact ⟨_, Function.update_self .., rfl⟩
  · -- a proposal dispatched before is marked, but this one was open
    have hnot : p.id ∉ v.gov.dispatched.map (·.proposal.id) := by
      intro hmem
      obtain ⟨d, hd, hdid⟩ := List.mem_map.mp hmem
      obtain ⟨q, hq, hexec⟩ := hv.marked d hd
      rw [hdid, hv.keyed id p hp, hp, Option.some.injEq] at hq
      rw [← hq, h.isOpen.1] at hexec
      cases hexec
    rw [List.map_append, List.nodup_append_comm]
    exact List.nodup_cons.mpr ⟨hnot, hv.once⟩
  · intro d hd
    rcases List.mem_append.mp hd with hd | hd
    · exact hv.inTime d hd
    · rw [List.mem_singleton.mp hd]
      exact h.isOpen.2

theorem invoke_govInv (hw : GovInv w.gov) (h : invoke H auth c w = .ok (r, w')) :
    GovInv w'.gov := by
  cases invoke_outcome hw.keyed h with
  | quiet _ hedit _ => exact hedit.inv hw
  | fired p config v u _ _ hedit _ hexec hafter =>
    rw [hafter.gov (by simp)]
    exact hexec.inv (hedit.inv hw)

theorem invoke_multi (hw : GovInv w.gov) (hmode : w.gov.isMultiSig = true)
    (h : invoke H auth c w = .ok (r, w')) : w'.gov.isMultiSig = true := by
  cases invoke_outcome hw.keyed h with
  | quiet _ hedit _ => exact hedit.multi hmode
  | fired p config v u _ _ hedit _ hexec hafter =>
    have hv := hedit.multi hmode
    obtain ⟨config', -, hgov⟩ := hexec.gov
    rw [hafter.gov (by simp), hgov]
    exact hv

theorem invoke_mode (hw : GovInv w.gov) (h : invoke H auth c w = .ok (r, w')) :
    w'.gov.isMultiSig = w.gov.isMultiSig ∨ ∃ admin signers threshold ttl guardian,
        c = .migrateToMultisig admin signers threshold ttl guardian := by
  by_cases hmulti : w.gov.isMultiSig = true
  · exact .inl ((invoke_multi hw hmulti h).trans hmulti.symm)
  · by_cases hc : Area.gov ∈ c.touches
    · cases c <;> simp only [Call.touches, List.mem_cons, List.not_mem_nil, reduceCtorEq, or_false,
        or_self] at hc <;> simp only [invoke, noRet_eq_ok] at h
      case migrateToMultisig => exact .inr ⟨_, _, _, _, _, rfl⟩
      case propose =>
        simp only [propose, bind_eq_ok, require_eq_ok, exists_const] at h
        obtain ⟨-, ⟨hmode, -⟩, -⟩ := h
        exact absurd hmode hmulti
      case approveProposal | executeProposal | cancelProposal =>
        simp only [approveProposal, executeProposal, cancelProposal, bind_eq_ok, require_eq_ok,
          exists_const] at h
        exact absurd h.2.1 hmulti
    · exact .inl (by rw [(invoke_touches h).gov hc])

theorem run_govInv (ops : List (Op X)) (hw : GovInv w.gov) : GovInv (run H w ops).gov :=
  run_keeps (P := fun w : World X => GovInv w.gov) (fun _ _ _ hw => hw) (fun _ _ hw => hw)
    (fun _ _ _ _ _ hw h => invoke_govInv hw h) ops hw

theorem Reachable.govInv (h : Reachable H w) : GovInv w.gov := by
  obtain ⟨ledger, wasm, ext, ops, rfl⟩ := h
  exact run_govInv ops (govInv_deployed H ledger wasm ext)

/-! Two states for concrete runs -/

/-- The router before the migration. -/
def singleAdmin : World Unit := run quietHost quietWorld [quietSetup]

def threeSigners : World Unit :=
  run quietHost quietWorld [quietSetup, .invoke [1] (.migrateToMultisig 1 [1, 2, 3] 2 1000 none)]

theorem reachable_threeSigners : Reachable quietHost threeSigners := reachable_quietWorld.run _

theorem threeSigners_eq :
    migrateToMultisig quietHost [1] 1 [1, 2, 3] 2 1000 none singleAdmin = .ok threeSigners := rfl

end StellarRoute.Contracts
