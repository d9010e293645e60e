import StellarRoute.Contracts.Sanity.Governance

/-! Safety of the multi-signature governance over whole runs: a proposal is
dispatched at most once and never after it was cancelled or expired. The other
two properties need a condition. The quorum of a dispatch counts every stored
approval, also those of signers that have been removed since; and `AddSigner`
does not repeat the checks that the initial signers had to pass. -/

namespace StellarRoute.Contracts

open Lib Governance List Function Option

variable {X : Type} {H : Host X} {auth : Auth} {c : Call} {w w' : World X}

/-! Proposals that are closed stay closed -/

/-- The dispatches of one proposal so far. -/
def dispatchesOf (id : UInt64) (g : Gov) : List Dispatch :=
  g.dispatched.filter (·.proposal.id = id)

/-- The proposal can no longer be executed, and `ds` are its dispatches. -/
structure Frozen (id : UInt64) (ds : List Dispatch) (now : UInt64) (g : Gov) : Prop where
  inv : GovInv g
  closed : ∃ p, g.proposalEntry id = some p ∧ ¬ p.isOpen now
  dispatches : dispatchesOf id g = ds

variable {ds : List Dispatch} {g' : Gov} {id now : UInt64} {config : GovernanceConfig} {g : Gov}
  {p : Proposal} {v u : World X} {r : Ret} {action : ProposalAction}

theorem Edit.frozen (hg : Frozen id ds now g) (h : Edit H now g g') : Frozen id ds now g' := by
  refine ⟨h.inv hg.inv, ?_, by rw [dispatchesOf, h.dispatched]; exact hg.dispatches⟩
  obtain ⟨p, hp, hclosed⟩ := hg.closed
  cases h with
  | same | migrate config guardian hmode hconfig => exact ⟨p, hp, hclosed⟩
  | create config signer action i hmode hconfig hsigner hi =>
    have hne : id ≠ i := by
      rintro rfl
      have := hg.inv.issued id p hp
      have := toNat_checkedAdd_one hi
      omega
    exact ⟨p, by simpa [hne] using hp, hclosed⟩
  | approve config signer i q hconfig hsigner hentry hopen hnew =>
    have hne : id ≠ q.id := by
      rintro rfl
      rw [hg.inv.keyed i q hentry, hentry, some.injEq] at hp
      exact hclosed (hp ▸ hopen)
    exact ⟨p, by simpa [hne] using hp, hclosed⟩
  | cancel i q hentry hopen =>
    rcases eq_or_ne id q.id with rfl | hne
    · exact ⟨_, update_self .., fun h => by cases h.1⟩
    · exact ⟨p, by simpa [hne] using hp, hclosed⟩

theorem Executes.frozen (hv : Frozen id ds v.now v.gov)
    (h : Executes H p config v u) : Frozen id ds v.now u.gov := by
  obtain ⟨q, hq, hclosed⟩ := hv.closed
  obtain ⟨i, hp⟩ := h.entry
  obtain ⟨config', -, hgov⟩ := h.gov
  -- only an open proposal is executed
  have hne : id ≠ p.id := by
    rintro rfl
    rw [hv.inv.keyed i p hp, hp, some.injEq] at hq
    exact hclosed (hq ▸ h.isOpen)
  refine ⟨h.inv hv.inv, ⟨q, by simpa [hgov, hne] using hq, hclosed⟩, ?_⟩
  rw [← hv.dispatches]
  simp [dispatchesOf, hgov, filter_append, hne.symm]

theorem invoke_frozen (hw : Frozen id ds w.now w.gov)
    (h : invoke H auth c w = .ok (r, w')) : Frozen id ds w'.now w'.gov := by
  cases invoke_outcome hw.inv.keyed h with
  | quiet _ hedit htouches => exact htouches.now ▸ hedit.frozen hw
  | fired p config v u _ hbefore hedit _ hexec hafter =>
    have hv : Frozen id ds v.now v.gov := hbefore.now ▸ hedit.frozen hw
    rw [hafter.now, hexec.now, hafter.gov (by simp)]
    exact hexec.frozen hv

theorem run_frozen (ops : List (Op X)) (hw : Frozen id ds w.now w.gov) :
    Frozen id ds (run H w ops).now (run H w ops).gov := by
  refine run_keeps (P := fun w : World X => Frozen id ds w.now w.gov) ?_ (fun _ _ hw => hw)
    (fun _ _ _ _ _ hw h => invoke_frozen hw h) ops hw
  intro w l hl hw
  obtain ⟨p, hp, hclosed⟩ := hw.closed
  exact ⟨hw.inv, ⟨p, hp, fun hopen => hclosed (Proposal.isOpen_of_later hl hopen)⟩, hw.dispatches⟩

/-! Ids -/

theorem Edit.counter_mono (h : Edit H now g g') :
    g.proposalCounter.toNat ≤ g'.proposalCounter.toNat := by
  cases h with
  | create config signer action i hmode hconfig hsigner hi =>
    have := toNat_checkedAdd_one hi
    change g.proposalCounter.toNat ≤ i.toNat
    omega
  | _ => exact le_refl _

theorem invoke_counter_mono (hw : GovInv w.gov) (h : invoke H auth c w = .ok (r, w')) :
    w.gov.proposalCounter.toNat ≤ w'.gov.proposalCounter.toNat := by
  cases invoke_outcome hw.keyed h with
  | quiet _ hedit _ => exact hedit.counter_mono
  | fired p config v u _ _ hedit _ hexec hafter =>
    obtain ⟨config', -, hgov⟩ := hexec.gov
    rw [hafter.gov (by simp), hgov]
    exact hedit.counter_mono

theorem run_counter_mono (ops : List (Op X)) (hw : GovInv w.gov) :
    w.gov.proposalCounter.toNat ≤ (run H w ops).gov.proposalCounter.toNat := by
  have hend := run_keeps (H := H) (P := fun v : World X => GovInv v.gov ∧
    w.gov.proposalCounter.toNat ≤ v.gov.proposalCounter.toNat) (fun _ _ _ hv => hv) (fun _ _ hv => hv)
    (fun _ _ _ _ _ hv h => ⟨invoke_govInv hv.1 h, hv.2.trans (invoke_counter_mono hv.1 h)⟩)
    ops ⟨hw, le_refl _⟩
  exact hend.2

/-- `propose` hands out the next number and counts it. -/
theorem propose_id {signer : Address} (h : propose H auth signer action w = .ok (id, w')) :
    id.toNat = w.gov.proposalCounter.toNat + 1 ∧ w'.gov.proposalCounter = id := by
  simp only [propose, Governance.propose, nextProposalId, bind_eq_ok, require_eq_ok, okOr_eq_ok,
    pure_eq_ok, Prod.mk.injEq, Prod.exists, exists_const] at h
  obtain ⟨-, -, -, config, hconfig, -, id', v, ⟨next, hnext, rfl, rfl⟩, u, hu, rfl, rfl⟩ := h
  refine ⟨toNat_checkedAdd_one hnext, ?_⟩
  change u.gov.proposalCounter = _
  unfold autoExecute at hu
  split_ifs at hu
  · obtain ⟨p, config', u', -, hexec, rfl⟩ := governance_executeProposal_eq_ok hu
    obtain ⟨config'', -, hgov⟩ := hexec.gov
    change u'.gov.proposalCounter = _
    rw [hgov]
    rfl
  · rw [← pure_eq_ok.mp hu]
    rfl

/-- The life of the proposals in any run: no second dispatch, none after the
cancellation or after the last ledger, no second approval by one address, and
a new id for each. -/
theorem proposals_dispatched_once (hw : Reachable H w) :
    (w.gov.dispatched.map (·.proposal.id)).Nodup ∧
    (∀ id p, w.gov.proposalEntry id = some p → p.approvals.Nodup) ∧
    (∀ d ∈ w.gov.dispatched, d.ledger.toUInt64 ≤ d.proposal.expiresAt) ∧
    (∀ auth signer id w', cancelProposal H auth signer id w = .ok w' →
      ∀ ops, ∀ d ∈ (run H w' ops).gov.dispatched, d.proposal.id ≠ id) ∧
    (∀ id p, w.gov.proposalEntry id = some p → p.expiresAt < w.now →
      ∀ ops, dispatchesOf id (run H w ops).gov = dispatchesOf id w.gov) ∧
    (∀ auth signer action id w', propose H auth signer action w = .ok (id, w') →
      w.gov.proposalEntry id = none ∧
      ∀ ops auth' signer' action' id' w'',
        propose H auth' signer' action' (run H w' ops) = .ok (id', w'') → id' ≠ id) := by
  have hinv := hw.govInv
  refine ⟨hinv.once, hinv.approvals, hinv.inTime, ?_, ?_, ?_⟩
  · intro auth signer id w' h ops d hd heq
    obtain ⟨p, hp, hexec, hgov⟩ := cancelProposal_edit h
    have hpid := hinv.keyed id p hp
    -- nothing was dispatched before, for the proposal was not marked
    have hnone : dispatchesOf id w.gov = [] := by
      refine filter_eq_nil_iff.mpr fun e he => ?_
      obtain ⟨q, hq, hqexec⟩ := hinv.marked e he
      intro heid
      rw [of_decide_eq_true heid, hp, some.injEq] at hq
      simp [← hq, hexec] at hqexec
    have hfrozen : Frozen id [] w'.now w'.gov := by
      have hedit : Edit H w.now w.gov _ := .cancel id p hp hexec
      rw [hgov]
      refine ⟨hedit.inv hinv, ?_, hnone⟩
      exact ⟨{ p with executed := true }, by simp [hpid], fun hopen => by cases hopen.1⟩
    have hmem : d ∈ dispatchesOf id (run H w' ops).gov := mem_filter.mpr ⟨hd, by simpa using heq⟩
    simp [(run_frozen ops hfrozen).dispatches] at hmem
  · intro id p hp hexpired ops
    have hfrozen : Frozen id (dispatchesOf id w.gov) w.now w.gov :=
      ⟨hinv, ⟨p, hp, fun hopen => absurd hopen.2 (by simpa using hexpired)⟩, rfl⟩
    exact (run_frozen ops hfrozen).dispatches
  · intro auth signer action id w' h
    obtain ⟨hid, hcounter⟩ := propose_id h
    refine ⟨?_, ?_⟩
    · cases hentry : w.gov.proposalEntry id with
      | none => rfl
      | some p =>
        have := hinv.issued id p hentry
        omega
    · rintro ops auth' signer' action' id' w'' h' rfl
      have hinvoke : invoke H auth (.propose signer action) w = .ok (.proposalId id', w') :=
        bind_eq_ok.mpr ⟨_, h, rfl⟩
      have hinv' := invoke_govInv hinv hinvoke
      have hmono := run_counter_mono (H := H) ops hinv'
      have hnext := (propose_id h').1
      rw [hcounter] at hmono
      omega

/-- A run with one open proposal and one that has been dispatched. -/
def twoProposals : World Unit :=
  run quietHost threeSigners
    [.invoke [3] (.propose 3 (.setFeeRate 50)), .invoke [1] (.propose 1 .pause),
      .invoke [2] (.approveProposal 2 2)]

theorem twoProposals_cancelled :
    (twoProposals.gov.dispatched.map (·.proposal.id)) = [2] ∧
      ∃ w', cancelProposal quietHost [3] 3 1 twoProposals = .ok w' ∧
        ∀ ops, ∀ d ∈ (run quietHost w' ops).gov.dispatched, d.proposal.id ≠ 1 := by
  refine ⟨by decide, ?_⟩
  have hreachable : Reachable quietHost twoProposals := reachable_threeSigners.run _
  obtain ⟨-, -, -, hcancel, -⟩ := proposals_dispatched_once hreachable
  have hok : (cancelProposal quietHost [3] 3 1 twoProposals).map (fun _ => ()) = .ok () := by
    decide
  obtain ⟨w', hw', -⟩ := map_eq_ok.mp hok
  exact ⟨w', hw', hcancel _ _ _ w' hw'⟩

/-! The configuration -/

/-- A dispatched `AddSigner` adds an address that `init_governance` would have
accepted next to the others. -/
def AddsNewSigner (H : Host X) (w : World X) : Op X → Prop
  | .invoke auth c => ∀ p config a, fires auth c w = some p → p.action = .addSigner a →
      w.gov.governance = some config → config.signers.length < MAX_SIGNERS →
      a ∉ config.signers ∧ a ≠ H.contract
  | _ => True

theorem addsNewSigner_of_quiet (h : fires auth c w = none) : AddsNewSigner H w (.invoke auth c) :=
  fun _ _ _ hfires => nomatch h.symm.trans hfires

theorem erase_eq_filter_ne {l : List Address} (hl : l.Nodup) (a : Address) :
    l.erase a = l.filter (· ≠ a) := by
  rw [hl.erase_eq_filter a]
  refine filter_congr fun x _ => ?_
  rw [Bool.eq_iff_iff]
  simp

theorem ConfigStep.wellFormed {config' : GovernanceConfig}
    (hconfig : WellFormed H config) (hadd : ∀ a, action = .addSigner a → config.signers.length <
      MAX_SIGNERS → a ∉ config.signers ∧ a ≠ H.contract) (h : ConfigStep config action config') :
    WellFormed H config' := by
  cases h with
  | keep action => exact hconfig
  | add a hlimit =>
    obtain ⟨hnew, hself⟩ := hadd a rfl hlimit
    have hreach := hconfig.reachable
    refine ⟨?_, ?_, ?_, hconfig.pos, ?_⟩
    · exact nodup_append_comm.mp (nodup_cons.mpr ⟨hnew, hconfig.distinct⟩)
    · simpa using hlimit
    · simpa using ⟨hconfig.notSelf, hself.symm⟩
    · rw [length_append]
      exact hreach.trans (Nat.le_add_right _ _)
  | remove a hlarge =>
    have hfilter := length_filter_le (· ≠ a) config.signers
    refine ⟨hconfig.distinct.filter _, hfilter.trans hconfig.limit, ?_, hconfig.pos, ?_⟩
    · exact fun hmem => hconfig.notSelf (mem_of_mem_filter hmem)
    · -- distinct signers: at most one is removed
      have hlen : config.signers.length - 1 ≤ (config.signers.erase a).length :=
        le_length_erase
      rw [erase_eq_filter_ne hconfig.distinct a] at hlen
      change config.threshold.toNat ≤ (config.signers.filter (· ≠ a)).length
      omega
  | threshold n hpos hle =>
    refine ⟨hconfig.distinct, hconfig.limit, hconfig.notSelf, ?_, hle⟩
    have : n.toNat ≠ 0 := fun h0 => hpos (UInt32.toNat_inj.mp h0)
    exact Nat.one_le_iff_ne_zero.mpr this

/-- Some well-formed configuration is stored. -/
structure ConfigInv (H : Host X) (g : Gov) : Prop where
  inv : GovInv g
  multi : g.isMultiSig = true
  config : ∃ config, g.governance = some config ∧ WellFormed H config

theorem Edit.configInv (hg : ConfigInv H g) (h : Edit H now g g') : ConfigInv H g' :=
  ⟨h.inv hg.inv, h.multi hg.multi, h.governance hg.multi ▸ hg.config⟩

theorem invoke_configInv (hw : ConfigInv H w.gov)
    (hop : AddsNewSigner H w (.invoke auth c)) (h : invoke H auth c w = .ok (r, w')) :
    ConfigInv H w'.gov := by
  cases invoke_outcome hw.inv.keyed h with
  | quiet _ hedit _ => exact hedit.configInv hw
  | fired p config v u hfires _ hedit _ hexec hafter =>
    have hv := hedit.configInv hw
    obtain ⟨config0, hconfig0, hwf⟩ := hv.config
    obtain rfl := mem_unique hexec.governance hconfig0
    obtain ⟨config', hstep, hgov⟩ := hexec.gov
    have hwconfig : w.gov.governance = some config := by
      rw [← hedit.governance hw.multi, hexec.governance]
    have hwf' : WellFormed H config' :=
      hstep.wellFormed hwf fun a ha => hop p config a hfires ha hwconfig
    refine ⟨invoke_govInv hw.inv h, invoke_multi hw.inv hw.multi h, config', ?_, hwf'⟩
    rw [hafter.gov (by simp), hgov]

/-- After the migration the stored configuration stays well formed in every run
that adds only new signers. -/
theorem governance_wellFormed {admin : Address} {signers : List Address} {threshold : UInt32}
    {ttl : UInt64} {guardian : Option Address} {w₁ : World X} {ops : List (Op X)}
    (hw : Reachable H w)
    (hmigrate : migrateToMultisig H auth admin signers threshold ttl guardian w = .ok w₁)
    (hops : Transition.StepsOk (step H) (AddsNewSigner H) w₁ ops) :
    ∃ config, (run H w₁ ops).gov.governance = some config ∧ config.signers.Nodup ∧
      config.signers.length ≤ 10 ∧ H.contract ∉ config.signers ∧
      1 ≤ config.threshold.toNat ∧ config.threshold.toNat ≤ config.signers.length := by
  obtain ⟨-, hmode, hwf, guardian', hgov⟩ := migrateToMultisig_edit hmigrate
  have hstart : ConfigInv H w₁.gov := by
    have hedit : Edit H w.now w.gov _ := .migrate _ guardian' hmode hwf
    rw [hgov]
    exact ⟨hedit.inv hw.govInv, rfl, _, rfl, hwf⟩
  have hend : ConfigInv H (run H w₁ ops).gov :=
    run_keeps_of_ok (P := fun w : World X => ConfigInv H w.gov) (fun _ _ _ hw => hw)
      (fun _ _ hw => hw) (fun _ _ _ _ _ hw hop h => invoke_configInv hw hop h) hstart hops
  obtain ⟨config, hconfig, hwf⟩ := hend.config
  exact ⟨config, hconfig, hwf.distinct, hwf.limit, hwf.notSelf, hwf.pos, hwf.reachable⟩

def addFourth : List (Op Unit) :=
  [.invoke [1] (.propose 1 (.addSigner 4)), .invoke [2] (.approveProposal 2 1)]

theorem fourth_signer_wellFormed :
    ∃ config, (run quietHost threeSigners addFourth).gov.governance = some config ∧
      config.signers.Nodup ∧ config.signers.length ≤ 10 ∧ quietHost.contract ∉ config.signers ∧
      1 ≤ config.threshold.toNat ∧ config.threshold.toNat ≤ config.signers.length := by
  refine governance_wellFormed (reachable_quietWorld.run _ : Reachable _ singleAdmin) threeSigners_eq
    ⟨addsNewSigner_of_quiet (by decide), ?_, trivial⟩
  intro p config a hfires haction hconfig _
  let w := run quietHost threeSigners (addFourth.take 1)
  have hp : (fires [2] (.approveProposal 2 1) w).map (·.action) = some (.addSigner 4) := by
    decide
  have hc : w.gov.governance = some ⟨[1, 2, 3], 2, 1000⟩ := by decide
  obtain rfl := mem_unique hc hconfig
  rw [show fires [2] (.approveProposal 2 1) w = some p from hfires, map_some, haction] at hp
  cases hp
  decide

/-- Signer 1 is added a second time; removing it then deletes both entries. -/
def addFirstAgain : List (Op Unit) :=
  [.invoke [1] (.propose 1 (.addSigner 1)), .invoke [2] (.approveProposal 2 1)]

def removeFirst : List (Op Unit) :=
  [.invoke [1] (.propose 1 (.removeSigner 1)), .invoke [2] (.approveProposal 2 2)]

def twoSigners : World Unit :=
  run quietHost quietWorld [quietSetup, .invoke [1] (.migrateToMultisig 1 [1, 2] 2 1000 none)]

/-- First a signer is stored twice, then the threshold can no longer be reached. -/
theorem signer_added_twice :
    Reachable quietHost singleAdmin ∧
    migrateToMultisig quietHost [1] 1 [1, 2] 2 1000 none singleAdmin = .ok twoSigners ∧
    (run quietHost twoSigners addFirstAgain).gov.governance = some ⟨[1, 2, 1], 2, 1000⟩ ∧
    ¬ [1, 2, 1].Nodup ∧
    (run quietHost twoSigners (addFirstAgain ++ removeFirst)).gov.governance = some ⟨[2], 2, 1000⟩ ∧
    ¬ (2 : UInt32).toNat ≤ [2].length :=
  ⟨reachable_quietWorld.run _, rfl, by decide, by decide, by decide, by decide⟩

/-! The quorum of a dispatch -/

/-- At least `threshold` members of the signer set of that moment have approved. -/
def Dispatch.Quorate (d : Dispatch) : Prop :=
  d.config.threshold.toNat ≤ (d.proposal.approvals.toFinset ∩ d.config.signers.toFinset).card

instance (d : Dispatch) : Decidable d.Quorate := inferInstanceAs (Decidable (_ ≤ _))

/-- A dispatched `RemoveSigner` removes an address whose approval no other open
proposal carries. -/
def RemovesIdleSigner (w : World X) : Op X → Prop
  | .invoke auth c => ∀ p config s, fires auth c w = some p → p.action = .removeSigner s →
      w.gov.governance = some config → config.threshold.toNat < config.signers.length →
      ∀ id q, id ≠ p.id → w.gov.proposalEntry id = some q → q.isOpen w.now → s ∉ q.approvals
  | _ => True

theorem removesIdleSigner_of_quiet (h : fires auth c w = none) :
    RemovesIdleSigner w (.invoke auth c) :=
  fun _ _ _ hfires => nomatch h.symm.trans hfires

/-- Every approval of an open proposal is a current signer's. -/
def Backed (now : UInt64) (g : Gov) : Prop :=
  ∀ id p config, g.proposalEntry id = some p → p.isOpen now → g.governance = some config →
    p.approvals ⊆ config.signers

theorem Edit.backed (hg : GovInv g) (hb : Backed now g) (h : Edit H now g g') : Backed now g' := by
  intro i q config0 hq hopen hconfig0
  cases h with
  | same => exact hb i q config0 hq hopen hconfig0
  | migrate config guardian hmode hconfig =>
    simp [hg.single hmode i] at hq
  | create config signer action id hmode hconfig hsigner hid =>
    rcases eq_or_ne i id with rfl | hne
    · obtain rfl := mem_unique hconfig hconfig0
      simp only [update_self, some.injEq] at hq
      rw [← hq]
      exact fun a ha => mem_singleton.mp ha ▸ hsigner
    · exact hb i q config0 (by simpa [hne] using hq) hopen hconfig0
  | approve config signer id p hconfig hsigner hentry hopen' hnew =>
    rcases eq_or_ne i p.id with rfl | hne
    · obtain rfl := mem_unique hconfig hconfig0
      simp only [update_self, some.injEq] at hq
      rw [← hq]
      exact append_subset.mpr
        ⟨hb id p config hentry hopen' hconfig, fun a ha => mem_singleton.mp ha ▸ hsigner⟩
    · exact hb i q config0 (by simpa [hne] using hq) hopen hconfig0
  | cancel id p hentry hopen' =>
    rcases eq_or_ne i p.id with rfl | hne
    · simp only [update_self, some.injEq] at hq
      rw [← hq] at hopen
      cases hopen.1
    · exact hb i q config0 (by simpa [hne] using hq) hopen hconfig0

theorem Executes.backed (hb : Backed v.now v.gov)
    (h : Executes H p config v u) (hidle : ∀ s, p.action = .removeSigner s → config.threshold.toNat
      < config.signers.length → ∀ id q, id ≠ p.id → v.gov.proposalEntry id = some q → q.isOpen v.now
      → s ∉ q.approvals) : Backed v.now u.gov := by
  obtain ⟨config', hstep, hgov⟩ := h.gov
  intro i q config0 hq hopen hconfig0
  rw [hgov] at hq hconfig0
  obtain rfl := some.inj hconfig0
  have hne : i ≠ p.id := by
    rintro rfl
    simp only [update_self, some.injEq] at hq
    rw [← hq] at hopen
    cases hopen.1
  have hq' : v.gov.proposalEntry i = some q := by simpa [hne] using hq
  have hsub := hb i q config hq' hopen h.governance
  cases hstep' : p.action <;> rw [hstep'] at hstep <;> cases hstep
  case addSigner.add a hlimit => exact subset_append_of_subset_left _ hsub
  case removeSigner.remove a hlarge =>
    have hnot := hidle a hstep' hlarge i q hne hq' hopen
    intro b hbmem
    refine mem_filter.mpr ⟨hsub hbmem, ?_⟩
    simpa using fun heq : b = a => hnot (heq ▸ hbmem)
  all_goals exact hsub

structure QuorumInv (now : UInt64) (g : Gov) : Prop where
  inv : GovInv g
  backed : Backed now g
  quorate : ∀ d ∈ g.dispatched, d.Quorate

theorem invoke_quorumInv (hw : QuorumInv w.now w.gov)
    (hop : RemovesIdleSigner w (.invoke auth c)) (h : invoke H auth c w = .ok (r, w')) :
    QuorumInv w'.now w'.gov := by
  cases invoke_outcome hw.inv.keyed h with
  | quiet _ hedit htouches =>
    rw [htouches.now]
    exact ⟨hedit.inv hw.inv, hedit.backed hw.inv hw.backed, hedit.dispatched ▸ hw.quorate⟩
  | fired p config v u hfires hbefore hedit hothers hexec hafter =>
    have hvinv := hedit.inv hw.inv
    have hvback : Backed v.now v.gov := hbefore.now ▸ hedit.backed hw.inv hw.backed
    have hwconfig : w.gov.governance = some config := by
      rw [← hedit.governance (fires_multi hfires), hexec.governance]
    rw [hafter.now, hexec.now, hafter.gov (by simp)]
    refine ⟨hexec.inv hvinv, hexec.backed hvback ?_, ?_⟩
    · intro s hs hlarge id q hne hq hopen
      rw [hothers id hne] at hq
      exact hop p config s hfires hs hwconfig hlarge id q hne hq (hbefore.now ▸ hopen)
    · obtain ⟨config', -, hgov⟩ := hexec.gov
      obtain ⟨id, hp⟩ := hexec.entry
      intro d hd
      rw [hgov] at hd
      rcases mem_append.mp hd with hd | hd
      · exact hw.quorate d (hedit.dispatched ▸ hd)
      · rw [mem_singleton.mp hd]
        have hsub := hvback id p config hp hexec.isOpen hexec.governance
        have hinter : p.approvals.toFinset ∩ config.signers.toFinset = p.approvals.toFinset :=
          Finset.inter_eq_left.mpr fun a ha => mem_toFinset.mpr (hsub (mem_toFinset.mp ha))
        rw [Dispatch.Quorate, hinter, toFinset_card_of_nodup (hvinv.approvals id p hp)]
        exact hexec.quorum

/-- In every run that removes signers only while no other open proposal carries
their approval, each dispatch has its quorum among the signers of that moment. -/
theorem dispatches_quorate {ledger : UInt32} {wasm : Bytes32} {ext : X} {ops : List (Op X)}
    (hops : Transition.StepsOk (step H) RemovesIdleSigner (World.deployed H ledger wasm ext) ops) :
    ∀ d ∈ (run H (World.deployed H ledger wasm ext) ops).gov.dispatched,
      d.config.threshold.toNat ≤
        (d.proposal.approvals.toFinset ∩ d.config.signers.toFinset).card := by
  have hstart : QuorumInv (World.deployed H ledger wasm ext).now
      (World.deployed H ledger wasm ext).gov :=
    ⟨govInv_deployed H ledger wasm ext, by simp [Backed, World.deployed], by simp [World.deployed]⟩
  have hend := run_keeps_of_ok (P := fun w : World X => QuorumInv w.now w.gov) ?_ (fun _ _ hw => hw)
    (fun _ _ _ _ _ hw hop h => invoke_quorumInv hw hop h) hstart hops
  · exact hend.quorate
  · intro w l hl hw
    exact ⟨hw.inv, fun id p config hp hopen =>
      hw.backed id p config hp (Proposal.isOpen_of_later hl hopen), hw.quorate⟩

/-- Signer 3 is removed while nothing else is open. -/
def removeThird : List (Op Unit) :=
  [quietSetup, .invoke [1] (.migrateToMultisig 1 [1, 2, 3] 2 1000 none),
    .invoke [1] (.propose 1 (.removeSigner 3)), .invoke [2] (.approveProposal 2 1)]

theorem third_signer_removed :
    (run quietHost quietWorld removeThird).gov.dispatched.length = 1 ∧
    ∀ d ∈ (run quietHost quietWorld removeThird).gov.dispatched,
      d.config.threshold.toNat ≤
        (d.proposal.approvals.toFinset ∩ d.config.signers.toFinset).card := by
  refine ⟨by decide, dispatches_quorate ⟨removesIdleSigner_of_quiet (by decide),
    removesIdleSigner_of_quiet (by decide), removesIdleSigner_of_quiet (by decide),
    ?_, trivial⟩⟩
  -- the only stored proposal is the one that fires
  intro p config s hfires _ _ _ id q hne hq
  let w := run quietHost quietWorld (removeThird.take 3)
  have hid : (fires [2] (.approveProposal 2 1) w).map (·.id) = some 1 := by decide
  have hzero : w.gov.proposalEntry 0 = none := by decide
  have hcounter : w.gov.proposalCounter.toNat = 1 := by decide
  rw [show fires [2] (.approveProposal 2 1) w = some p from hfires, map_some,
    some.injEq] at hid
  have hreachable : Reachable quietHost w := reachable_quietWorld.run _
  have hle : id.toNat ≤ 1 := hcounter ▸ hreachable.govInv.issued id q hq
  rcases Nat.le_one_iff_eq_zero_or_eq_one.mp hle with h | h
  · rw [show id = 0 from UInt64.toNat_inj.mp h] at hq
    exact nomatch hzero.symm.trans hq
  · exact absurd (hid.trans (UInt64.toNat_inj.mp h).symm).symm hne

/-- Signer 3 approves a fee change and is then removed; one more approval
dispatches it. -/
def removedApprover : World Unit :=
  run quietHost threeSigners
    [.invoke [3] (.propose 3 (.setFeeRate 50)), .invoke [1] (.propose 1 (.removeSigner 3)),
      .invoke [2] (.approveProposal 2 2), .invoke [1] (.approveProposal 1 1)]

/-- Two approvals were needed, and one signer had given any. -/
theorem removed_signer_counts :
    Reachable quietHost removedApprover ∧ removedApprover.config.feeRate = 50 ∧
      ∃ d ∈ removedApprover.gov.dispatched, d.proposal.id = 1 ∧ d.config = ⟨[1, 2], 2, 1000⟩ ∧
        d.proposal.approvals = [3, 1] ∧ ¬ d.config.threshold.toNat ≤
          (d.proposal.approvals.toFinset ∩ d.config.signers.toFinset).card := by
  refine ⟨reachable_threeSigners.run _, by decide, ?_⟩
  decide

/-! What is voted on -/

/-- The proposals of `f` stand in `f'`: approvals may have been added and the mark changed. -/
def Retains (f f' : UInt64 → Option Proposal) : Prop :=
  ∀ id p, f id = some p → ∃ signers executed,
    f' id = some { p with approvals := p.approvals ++ signers, executed := executed }

variable {f f' : UInt64 → Option Proposal}

theorem Retains.update (h : Retains f f') (hp : f' p.id = some p) (signers : List Address)
    (executed : Bool) : Retains f (Function.update f' p.id
      (some { p with approvals := p.approvals ++ signers, executed := executed })) := by
  intro id p' hp'
  obtain ⟨signers', executed', h'⟩ := h id p' hp'
  rcases eq_or_ne id p.id with rfl | hne
  · obtain rfl := some.inj (hp.symm.trans h')
    exact ⟨signers' ++ signers, executed, by simp⟩
  · exact ⟨signers', executed', by rwa [update_of_ne hne]⟩

theorem Edit.retains (h : Retains f g.proposalEntry) (hg : GovInv g) (hedit : Edit H now g g') :
    Retains f g'.proposalEntry := by
  cases hedit with
  | same | migrate config guardian hmode hconfig => exact h
  | create config signer action id hmode hconfig hsigner hid =>
    intro i p hp
    obtain ⟨signers, executed, h⟩ := h i p hp
    have hissued := hg.issued i _ h
    have hnext := toNat_checkedAdd_one hid
    exact ⟨signers, executed, (update_of_ne (by rintro rfl; omega) _ _).trans h⟩
  | approve config signer id p hconfig hsigner hentry hopen hnew =>
    exact h.update (hg.keyed id p hentry ▸ hentry) [signer] p.executed
  | cancel id p hentry hopen => simpa using h.update (hg.keyed id p hentry ▸ hentry) [] true

theorem proposals_retained (H : Host X) (ledger : UInt32) (wasm : Bytes32) (ext : X)
    (before after : List (Op X)) :
    Retains (run H (World.deployed H ledger wasm ext) before).gov.proposalEntry
      (run H (World.deployed H ledger wasm ext) (before ++ after)).gov.proposalEntry := by
  simp only [run, Transition.run_append]
  refine (run_keeps (P := fun v : World X => GovInv v.gov ∧ Retains _ v.gov.proposalEntry)
    (fun _ _ _ hv => hv) (fun _ _ hv => hv) (fun auth c r w w' hw h => ⟨invoke_govInv hw.1 h, ?_⟩)
    after ⟨run_govInv before (govInv_deployed H ledger wasm ext), ?_⟩).2
  · cases invoke_outcome hw.1.keyed h with
    | quiet _ hedit _ => exact hedit.retains hw.2 hw.1
    | fired p config v u _ _ hedit _ hexec hafter =>
      obtain ⟨config', -, hgov⟩ := hexec.gov
      obtain ⟨id, hp⟩ := hexec.entry
      rw [hafter.gov (by simp), hgov]
      simpa using (hedit.retains hw.2 hw.1).update ((hedit.inv hw.1).keyed id p hp ▸ hp) [] true
  · exact fun id p hp => ⟨[], p.executed, by simpa using hp⟩

end StellarRoute.Contracts
