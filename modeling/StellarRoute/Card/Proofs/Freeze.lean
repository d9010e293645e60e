import StellarRoute.Card.Sanity.Store

/-! Freezing the card program. A wallet authorization asks for the flag and
holds the money in a second step; a partner event never asks. So nothing new
is held while the program is frozen only if no request is about to hold money
when it is frozen, and the partner sends nothing that does meanwhile. -/

namespace StellarRoute.Card

open Lib Lib.Interleave CardStore List AList

/-- No authorization is new or approved again, and no hold grows. -/
structure NothingNew (s s' : CardStore) : Prop where
  known : ∀ id, (s'.authorization id).isSome → (s.authorization id).isSome
  approved : ∀ id r, s'.authorization id = some r → r.state = .approved →
    s.authorization id = some r
  holds : ∀ id, s'.held id ≤ max 0 (s.held id)

/-! ### Requests that are about to hold money -/

/-- The operation may raise what is held. -/
def CardOp.raises : CardOp → Bool
  | .approveAndHoldWithFx .. | .refundHold .. => true
  | .captureHold _ amount => amount.toInt < 0
  | _ => false

abbrev CardThread := Thread Unit CardState CardOp CardOp.Res CardCall CardResponse

/-- The request raises what is held with its next operation. -/
def poised (th : CardThread) : Bool :=
  match th.prog with
  | .ret _ => false
  | .op o _ => o.raises

def CardOp.freezes : CardOp → Bool
  | .freeze => true
  | _ => false

/-- A partner event that goes on from this operation does not raise what is held: it is not a
refund, an authorization is known, and what is cleared is not negative. -/
def quiet (s : CardStore) : CardCall → CardOp → Bool
  | .partner ev, .insertPartnerEvent _ => ev.kind ≠ some .refund
  | .partner ev, .authorization id =>
    (ev.kind ≠ some .authorization || (s.authorization id).isSome) &&
      (ev.kind ≠ some .clearing || decide (0 ≤ (ev.amountStroops.getD 0).toInt))
  | _, _ => true

/-- The program is frozen only while no request is about to hold money, and the partner events
that are handled while it is frozen are quiet. -/
def respects (p : CardUsers) : Choice Unit CardCall → Bool
  | .spawn _ => true
  | .step i _ =>
    match p.threads[i]? with
    | none => true
    | some th =>
      match th.prog with
      | .ret _ => true
      | .op o _ =>
        (!o.freezes || p.threads.all fun th' => !poised th') &&
          (!p.state.frozen || quiet p.state.store th.call o)

abbrev CardEvent := Event Unit CardState CardOp

/-- What a request has seen when it is about to raise what is held. -/
def CardRule (call : CardCall) (L : List CardEvent) (o : CardOp) : Prop :=
  o.raises → match call with
    | .authorize _ => ∃ s L', L = ⟨(), s, .isFrozen⟩ :: L' ∧ s.frozen = false
    | .partner _ => ∃ s L' o', L = ⟨(), s, o'⟩ :: L' ∧ o'.freezes = false ∧
      quiet s.store call o' = false
    | _ => False

section Rule

variable {L : List CardEvent} {s : CardState}

theorem rule_of_not_raises {call : CardCall} {o : CardOp} (h : o.raises = false) :
    CardRule call L o := fun hraises => absurd (hraises.symm.trans h) Bool.false_ne_true.symm

theorem holds_answerPartnerEvent (ev : PartnerEventRequest) (call : CardCall)
    (x : Except StoreError AuthorizationRecord) :
    (answerPartnerEvent ev x).Holds CardOp.exec (CardRule call) (fun _ _ => True) L := by
  rcases x with e | record
  · cases e <;> trivial
  · exact ⟨rule_of_not_raises rfl, fun _ _ => trivial⟩

theorem holds_applyPartnerEvent (ev : PartnerEventRequest) {e : PartnerEventRecord} :
    (applyPartnerEvent ev).Holds CardOp.exec (CardRule (.partner ev)) (fun _ _ => True)
      (⟨(), s, .insertPartnerEvent e⟩ :: L) := by
  unfold applyPartnerEvent
  cases hkind : ev.kind with
  | none => trivial
  | some kind =>
    cases kind with
    | authorization =>
      refine ⟨rule_of_not_raises rfl, fun _ s => ?_⟩
      change Prog.Holds _ _ _ (authorizeFound ev (s.store.authorization _)) _
      cases hauth : s.store.authorization ev.authorizationId with
      | some record => exact holds_answerPartnerEvent ev _ (.ok record)
      | none =>
        refine ⟨fun _ => ⟨s, _, _, rfl, rfl, ?_⟩, fun _ _ => holds_answerPartnerEvent ev _ _⟩
        simp [quiet, hkind, hauth]
    | clearing =>
      refine ⟨rule_of_not_raises rfl, fun _ s => ?_⟩
      change Prog.Holds _ _ _ (clearFound ev (s.store.authorization _)) _
      cases s.store.authorization ev.authorizationId with
      | none => trivial
      | some auth =>
        unfold clearFound
        dsimp only
        split_ifs
        · trivial
        · refine ⟨fun hraises => ⟨s, _, _, rfl, rfl, ?_⟩, fun _ _ => holds_answerPartnerEvent ev _ _⟩
          have hneg : (ev.amountStroops.getD 0).toInt < 0 := of_decide_eq_true hraises
          simp [quiet, hkind, hneg]
    | reversal =>
      exact ⟨rule_of_not_raises rfl, fun _ _ => holds_answerPartnerEvent ev _ _⟩
    | refund =>
      refine ⟨fun _ => ⟨s, L, _, rfl, rfl, ?_⟩, fun _ _ => holds_answerPartnerEvent ev _ _⟩
      simp [quiet, hkind]

theorem CardCall.holds (enabled : Bool) (call : CardCall) :
    (call.start enabled).Holds CardOp.exec (CardRule call) (fun _ _ => True) [] := by
  cases enabled with
  | false => cases call <;> trivial
  | true =>
    cases call with
    | freeze | unfreeze | list => exact ⟨rule_of_not_raises rfl, fun _ _ => trivial⟩
    | authorize payload =>
      refine ⟨rule_of_not_raises rfl, fun _ ⟨frozen, store⟩ => ?_⟩
      cases frozen with
      | true => trivial
      | false =>
        refine ⟨fun _ => ⟨_, _, rfl, rfl⟩, fun _ s => ?_⟩
        rcases (CardOp.exec () _ s).1 with e | record
        · cases e <;> trivial
        · exact ⟨rule_of_not_raises rfl, fun _ _ => trivial⟩
    | partner ev =>
      refine ⟨rule_of_not_raises rfl, fun _ s => ?_⟩
      change Prog.Holds _ _ _ (if !(s.store.insertPartnerEvent _).1 then (pure _ : CardProg _)
        else applyPartnerEvent ev) _
      split_ifs
      · trivial
      · exact holds_applyPartnerEvent ev

end Rule

/-! ### The store -/

/-- An authorization without an entry of its hold has nothing left. -/
def Entries (s : CardStore) : Prop :=
  ∀ id r, s.authorization id = some r → s.holds.lookup id = none → r.amountStroops = 0

section Store

variable {s s' : CardStore} {id : String} {amount : I64} {record : AuthorizationRecord}

theorem NothingNew.refl (s : CardStore) : NothingNew s s :=
  ⟨fun _ h => h, fun _ _ h _ => h, fun _ => le_max_right _ _⟩

theorem entries_insert (h : Entries s)
    (hauth : s'.authorizations = s.authorizations.insert id record)
    (hholds : ∀ id', id' ≠ id → s'.holds.lookup id' = s.holds.lookup id')
    (hentry : s'.holds.lookup id = none → record.amountStroops = 0) : Entries s' := by
  intro id' r hr hnone
  rw [authorization, hauth, HashMap.lookup_insert_eq] at hr
  split_ifs at hr with hid
  · subst hid
    cases hr
    exact hentry hnone
  · exact h id' r hr ((hholds id' hid).symm.trans hnone)

/-- An operation on one authorization that is known: it is not approved now, and less is held. -/
theorem nothingNew_insert (hauth : s'.authorizations = s.authorizations.insert id record)
    (hknown : (s.authorization id).isSome) (hstate : record.state ≠ .approved)
    (hholds : ∀ id', id' ≠ id → s'.holds.lookup id' = s.holds.lookup id')
    (hheld : s'.held id ≤ max 0 (s.held id)) : NothingNew s s' := by
  have hlookup : ∀ id', s'.authorization id' = if id' = id then some record
      else s.authorization id' := by
    intro id'
    rw [authorization, hauth, HashMap.lookup_insert_eq, authorization]
  refine ⟨fun id' h => ?_, fun id' r hr happroved => ?_, fun id' => ?_⟩
  · rw [hlookup] at h
    split_ifs at h with hid
    · exact hid ▸ hknown
    · exact h
  · rw [hlookup] at hr
    split_ifs at hr with hid
    · cases hr
      exact absurd happroved hstate
    · exact hr
  · by_cases hid : id' = id
    · exact hid ▸ hheld
    · rw [held, heldStroops, hholds id' hid]
      exact le_max_right _ _

theorem nothingNew_capture (h : Entries s) (hpos : 0 ≤ amount.toInt)
    (hok : s.captureHold id amount = .ok (record, s')) : NothingNew s s' := by
  obtain ⟨r, hr, hle, rfl, rfl⟩ := captureHold_eq_ok.mp hok
  have hle : amount.toInt ≤ (s.currentHeld r id).toInt := not_lt.mp hle
  have hcurrent := held_eq (h id r hr)
  have hnew : ((s.currentHeld r id).wrappingSub amount).toInt =
      (s.currentHeld r id).toInt - amount.toInt :=
    toInt_of_bounds (sub_nonneg.mpr hle) (by
      have hlt : (s.currentHeld r id).toInt < 2 ^ 63 := (s.currentHeld r id).inRange.2
      omega)
  refine nothingNew_insert rfl (by rw [hr]; rfl) (by simp)
    (fun id' hid => lookup_insert_ne hid) ?_
  rw [held, heldStroops, HashMap.lookup_insert_eq, if_pos rfl,
    Option.getD_some, hnew]
  omega

theorem nothingNew_reverse (hok : s.reverseHold id = .ok (record, s')) : NothingNew s s' := by
  obtain ⟨r, hr, -, rfl, rfl⟩ := reverseHold_eq_ok.mp hok
  refine nothingNew_insert rfl (by rw [hr]; rfl) (by simp)
    (fun id' hid => lookup_erase_ne hid) ?_
  rw [held, heldStroops, HashMap.lookup_erase_eq, if_pos rfl,
    Option.getD_none, SInt.toInt_zero]
  exact le_max_left _ _

end Store

section Exec

variable {s : CardState} {o : CardOp} {y : Except StoreError (AuthorizationRecord × CardStore)}

theorem entries_update
    (h : Entries s.store) (hok : ∀ record store, y = .ok (record, store) → Entries store) :
    Entries (s.update y).2.store := by
  rcases y with e | ⟨record, store⟩
  · exact h
  · exact hok record store rfl

theorem entries_exec (h : Entries s.store) (o : CardOp) :
    Entries (CardOp.exec () o s).2.store := by
  cases o with
  | approveAndHoldWithFx id tx amount fiat currency rate lockedAt =>
    apply entries_update h
    intro record store hok
    obtain ⟨-, -, rfl, rfl⟩ := approveAndHoldWithFx_eq_ok.mp hok
    exact entries_insert h rfl (fun id' hid => lookup_insert_ne hid) (by simp)
  | captureHold id amount =>
    apply entries_update h
    intro record store hok
    obtain ⟨r, hr, -, rfl, rfl⟩ := captureHold_eq_ok.mp hok
    exact entries_insert h rfl (fun id' hid => lookup_insert_ne hid) (by simp)
  | reverseHold id =>
    apply entries_update h
    intro record store hok
    obtain ⟨r, hr, -, rfl, rfl⟩ := reverseHold_eq_ok.mp hok
    exact entries_insert h rfl (fun id' hid => lookup_erase_ne hid) (fun _ => rfl)
  | refundHold id amount =>
    apply entries_update h
    intro record store hok
    obtain ⟨r, hr, -, rfl, rfl⟩ := refundHold_eq_ok.mp hok
    exact entries_insert h rfl (fun id' hid => lookup_insert_ne hid) (by simp)
  | insertPartnerEvent event =>
    change Entries (s.store.insertPartnerEvent event).2
    unfold insertPartnerEvent
    split_ifs
    · exact h
    · exact h
  | _ => exact h

theorem nothingNew_update
    (hok : ∀ record store, y = .ok (record, store) → NothingNew s.store store) :
    NothingNew s.store (s.update y).2.store := by
  rcases y with e | ⟨record, store⟩
  · exact .refl _
  · exact hok record store rfl

theorem nothingNew_exec (h : Entries s.store) (hraises : o.raises = false) :
    NothingNew s.store (CardOp.exec () o s).2.store := by
  cases o with
  | approveAndHoldWithFx id tx amount fiat currency rate lockedAt | refundHold id amount =>
    cases hraises
  | captureHold id amount =>
    have hpos : 0 ≤ amount.toInt := not_lt.mp (of_decide_eq_false hraises)
    exact nothingNew_update fun record store hok => nothingNew_capture h hpos hok
  | reverseHold id => exact nothingNew_update fun record store hok => nothingNew_reverse hok
  | insertPartnerEvent event =>
    change NothingNew s.store (s.store.insertPartnerEvent event).2
    unfold insertPartnerEvent
    split_ifs
    · exact .refl _
    · exact ⟨fun _ h => h, fun _ _ h _ => h, fun _ => le_max_right _ _⟩
  | _ => exact .refl _

theorem frozen_exec (hfreezes : o.freezes = false) (h : (CardOp.exec () o s).2.frozen) :
    s.frozen := by
  have hupdate : ∀ y, (s.update y).2.frozen = s.frozen := by
    intro y
    rcases y with e | ⟨record, store⟩ <;> rfl
  cases o with
  | freeze => cases hfreezes
  | unfreeze => cases h
  | approveAndHoldWithFx id tx amount fiat currency rate lockedAt | captureHold id amount
  | reverseHold id | refundHold id amount =>
    exact hupdate _ ▸ h
  | _ => exact h

end Exec

/-! ### Every run -/

/-- While the program is frozen no request is about to hold money. -/
structure Settled (p : CardUsers) : Prop where
  sound : p.Sound CardOp.exec CardRule fun _ _ _ => True
  entries : Entries p.state.store
  idle : p.state.frozen → ∀ th ∈ p.threads, poised th = false

section Run

variable {enabled : Bool} {p : CardUsers} {choice : Choice Unit CardCall} {th : CardThread}

theorem poised_of_op {o : CardOp} {k : o.Res → CardProg CardResponse}
    (hprog : th.prog = .op o k) : poised th = o.raises := by
  rw [poised, hprog]

/-- A request that is about to hold money has just seen that the program is not frozen, or is a
partner event that is not quiet. -/
theorem poised_cases (h : poised th)
    (hsound : th.prog.Holds CardOp.exec (CardRule th.call) (fun _ _ => True) th.trace) :
    ∃ s L o, th.trace = ⟨(), s, o⟩ :: L ∧ o.freezes = false ∧
      (s.frozen = false ∨ quiet s.store th.call o = false) := by
  cases hprog : th.prog with
  | ret out =>
    simp [poised, hprog] at h
  | op o k =>
    rw [poised_of_op hprog] at h
    rw [hprog] at hsound
    have hrule := hsound.1 h
    cases hcall : th.call with
    | authorize payload =>
      rw [hcall] at hrule
      obtain ⟨s, L, htrace, hfrozen⟩ := hrule
      exact ⟨s, L, _, htrace, rfl, .inl hfrozen⟩
    | partner ev =>
      rw [hcall] at hrule
      obtain ⟨s, L, o', htrace, hfreezes, hquiet⟩ := hrule
      exact ⟨s, L, o', htrace, hfreezes, .inr hquiet⟩
    | freeze | unfreeze | list => rw [hcall] at hrule; exact hrule.elim

theorem Settled.step (hp : Settled p) (h : respects p choice) :
    Settled (step CardOp.exec (CardCall.start enabled) p choice) := by
  have hsound := hp.sound.step (CardCall.holds enabled) (c := choice)
  rcases step_cases CardOp.exec (CardCall.start enabled) p choice with
    ⟨call, rfl, hstep⟩ | hstep | ⟨i, env, th, o, k, rfl, hth, hprog, hstep⟩
  · refine ⟨hsound, by rw [hstep]; exact hp.entries, ?_⟩
    rw [hstep] at hsound ⊢
    intro hfrozen th hth
    rcases mem_append.mp hth with hold | hnew
    · exact hp.idle hfrozen th hold
    · -- a request that has done nothing has seen nothing
      by_contra hpoised
      obtain ⟨s, L, o, htrace, -⟩ := poised_cases (Bool.not_eq_false _ ▸ hpoised) (hsound th hth)
      simp [mem_singleton.mp hnew] at htrace
  · rw [hstep]
    exact hp
  · simp only [respects, hth, hprog, Bool.and_eq_true, Bool.or_eq_true, Bool.not_eq_true',
      all_eq_true] at h
    obtain ⟨hfreeze, hquiet⟩ := h
    refine ⟨hsound, by rw [hstep]; exact entries_exec hp.entries o, ?_⟩
    rw [hstep] at hsound ⊢
    intro hfrozen th' hth'
    rcases mem_or_eq_of_mem_set hth' with hold | rfl
    · cases hfreezes : o.freezes with
      | true => exact hfreeze.resolve_left (by rw [hfreezes]; decide) th' hold
      | false => exact hp.idle (frozen_exec hfreezes hfrozen) th' hold
    · by_contra hpoised
      obtain ⟨s, L, o', htrace, hfreezes, hseen⟩ :=
        poised_cases (Bool.not_eq_false _ ▸ hpoised) (hsound _ hth')
      cases htrace
      have hbefore : p.state.frozen := frozen_exec hfreezes hfrozen
      rcases hseen with hseen | hseen
      · exact absurd (hbefore.symm.trans hseen) Bool.false_ne_true.symm
      · have hnow := hquiet.resolve_left (by rw [hbefore]; decide)
        exact absurd (hnow.symm.trans hseen) Bool.false_ne_true.symm

end Run

/-- In every run in which the program is only frozen while no request is about to hold money, and
the partner events handled while it is frozen are quiet, a step that starts frozen brings no new
authorization and raises no hold. -/
theorem frozen_nothing_new (enabled : Bool) (choices : List (Choice Unit CardCall))
    (choice : Choice Unit CardCall)
    (h : Transition.StepsOk (step CardOp.exec (CardCall.start enabled)) (fun p c => respects p c)
      ⟨CardState.initial, []⟩ (choices ++ [choice]))
    (hfrozen : (cards enabled choices).state.frozen) :
    NothingNew (cards enabled choices).state.store
      (cards enabled (choices ++ [choice])).state.store := by
  obtain ⟨hbefore, -⟩ := Transition.stepsOk_append.mp h
  have hsettled : Settled (cards enabled choices) := by
    refine Transition.run_inv_of_ok (fun p choice hp hchoice => hp.step hchoice) ?_ hbefore
    refine ⟨fun th hth => absurd hth not_mem_nil, (fun id r hr => nomatch hr), ?_⟩
    exact fun h => absurd h Bool.false_ne_true
  have hrun : cards enabled (choices ++ [choice]) =
      step CardOp.exec (CardCall.start enabled) (cards enabled choices) choice := by
    rw [cards, run, Transition.run_concat]
    rfl
  rw [hrun]
  rcases step_cases CardOp.exec (CardCall.start enabled) (cards enabled choices) choice with
    ⟨call, rfl, hstep⟩ | hstep | ⟨i, env, th, o, k, rfl, hth, hprog, hstep⟩
  · rw [hstep]
    exact .refl _
  · rw [hstep]
    exact .refl _
  · rw [hstep]
    have hraises := hsettled.idle hfrozen th (mem_of_getElem? hth)
    rw [poised_of_op hprog] at hraises
    exact nothingNew_exec hsettled.entries hraises

def partnerAuthorization : PartnerEventRequest :=
  ⟨"evt", "authorization", "auth", some (SInt.saturate 64 100), none, none, none, none⟩

/-- Frozen, and 100 are held on behalf of the partner; and the same by a wallet whose request had
asked for the flag before. -/
theorem held_while_frozen :
    let frozen : List (Choice Unit CardCall) := [.spawn .freeze, .step 0 ()]
    let raced : List (Choice Unit CardCall) :=
      [.spawn (.authorize walletAuthorization), .step 0 (), .spawn .freeze, .step 1 ()]
    (cards true frozen).state.frozen ∧ (cards true frozen).state.store.held "auth" = 0 ∧
    (cards true (frozen ++ .spawn (.partner partnerAuthorization) ::
      replicate 3 (.step 1 ()))).state.frozen ∧
    (cards true (frozen ++ .spawn (.partner partnerAuthorization) ::
      replicate 3 (.step 1 ()))).state.store.held "auth" = 100 ∧
    (cards true raced).state.frozen ∧ (cards true raced).state.store.held "auth" = 0 ∧
    (cards true (raced ++ [.step 0 ()])).state.frozen ∧
    (cards true (raced ++ [.step 0 ()])).state.store.held "auth" = 100 := by
  decide

/-- The program is frozen after an authorization, and the next one is refused. -/
def frozenBetween : List (Choice Unit CardCall) :=
  [.spawn (.authorize walletAuthorization), .step 0 (), .step 0 (), .spawn .freeze, .step 1 (),
    .spawn (.authorize { walletAuthorization with authorizationId := "next", txHash := "next" })]

theorem frozen_nothing_new_wallet : (cards true frozenBetween).state.store.held "auth" = 100 ∧
    NothingNew (cards true frozenBetween).state.store
      (cards true (frozenBetween ++ [.step 2 ()])).state.store :=
  ⟨by decide, frozen_nothing_new true frozenBetween (.step 2 ()) (by decide)
    (by decide)⟩

end StellarRoute.Card
