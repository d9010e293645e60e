import StellarRoute.Card.Sanity.Store

/-! Partner events. The id of an event is recorded before the event is applied,
so a later delivery is answered as a duplicate whether or not the first one
took effect. Duplicates speak the truth exactly when every event that is
delivered again could be applied the first time. -/

namespace StellarRoute.Card

open Lib Lib.Interleave List

/-! ### Requests one after the other -/

/-- The answer to a request that nobody interferes with. -/
def answer (enabled : Bool) (s : CardState) (call : CardCall) : CardResponse :=
  ((call.start enabled).eval CardOp.exec () s).1

def serve (enabled : Bool) (s : CardState) (call : CardCall) : CardState :=
  ((call.start enabled).eval CardOp.exec () s).2

abbrev served (enabled : Bool) (calls : List CardCall) : CardState :=
  Transition.run (serve enabled) CardState.initial calls

def CardResponse.isDuplicate : CardResponse → Bool
  | .duplicate .. => true
  | _ => false

def CardResponse.isApplied : CardResponse → Bool
  | .applied .. => true
  | _ => false

def Applicable (s : CardStore) (ev : PartnerEventRequest) : Prop :=
  match ev.kind with
  | some .authorization => (s.authorization ev.authorizationId).isSome ∨
    ∀ existing, s.txToAuth.lookup "partner-event" = some existing → existing = ev.authorizationId
  | some .clearing => ∃ auth, s.authorization ev.authorizationId = some auth ∧
    ¬ fiatMismatch ev auth ∧
    ¬ s.currentHeld auth ev.authorizationId < ev.amountStroops.getD 0
  | some .reversal => ∃ auth, s.authorization ev.authorizationId = some auth ∧
    s.currentHeld auth ev.authorizationId ≠ 0
  | some .refund => ∃ auth, s.authorization ev.authorizationId = some auth ∧
    ¬ auth.spentStroops < ev.amountStroops.getD 0
  | none => False

/-! ### One delivery -/

section Delivery

variable {s : CardState} {ev : PartnerEventRequest} {x : Except StoreError AuthorizationRecord}
  {y : Except StoreError (AuthorizationRecord × CardStore)}

theorem events_update
    (h : ∀ record store, y = .ok (record, store) → store.events = s.store.events) :
    (s.update y).2.store.events = s.store.events := by
  rcases y with e | ⟨record, store⟩
  · rfl
  · exact h record store rfl

theorem isOk_iff {α : Type} {y : Except StoreError α} : y.isOk ↔ ∃ a, y = .ok a := by
  cases y <;> simp [Except.isOk, Except.toBool]

theorem isOk_iff_pair : y.isOk ↔ ∃ record store, y = .ok (record, store) := by
  rw [isOk_iff, Prod.exists]

/-- What a handler does with an event that is new. -/
structure Delivers (s : CardState) (ev : PartnerEventRequest) (out : CardResponse × CardState) :
    Prop where
  applied : out.1.isApplied ↔ Applicable s.store ev
  not_duplicate : out.1.isDuplicate = false
  events : out.2.store.events = s.store.events

theorem delivers_update (happlied : y.isOk ↔ Applicable s.store ev)
    (hevents : ∀ record store, y = .ok (record, store) → store.events = s.store.events) :
    Delivers s ev ((answerPartnerEvent ev (s.update y).1).eval CardOp.exec () (s.update y).2) := by
  rcases y with e | ⟨record, store⟩
  · cases e <;> exact ⟨happlied, rfl, rfl⟩
  · exact ⟨happlied, rfl, hevents record store rfl⟩

theorem delivers_error {status : ℕ} {code message : String} (h : ¬ Applicable s.store ev) :
    Delivers s ev (.cardError status code message, s) :=
  ⟨iff_of_false Bool.false_ne_true h, rfl, rfl⟩

theorem delivers_apply (s : CardState) (ev : PartnerEventRequest) :
    Delivers s ev ((applyPartnerEvent ev).eval CardOp.exec () s) := by
  unfold applyPartnerEvent
  cases hkind : ev.kind with
  | none =>
    apply delivers_error
    simp [Applicable, hkind]
  | some kind =>
    cases kind with
    | authorization =>
      change Delivers s ev ((authorizeFound ev (s.store.authorization ev.authorizationId)).eval
        CardOp.exec () s)
      cases hauth : s.store.authorization ev.authorizationId with
      | some record =>
        exact ⟨iff_of_true rfl (by simp [Applicable, hkind, hauth]), rfl, rfl⟩
      | none =>
        apply delivers_update
        · rw [isOk_iff_pair]
          simp [CardStore.approveAndHoldWithFx_eq_ok, Applicable, hkind, hauth]
        · intro record store h
          obtain ⟨-, -, -, rfl⟩ := CardStore.approveAndHoldWithFx_eq_ok.mp h
          rfl
    | clearing =>
      change Delivers s ev ((clearFound ev (s.store.authorization ev.authorizationId)).eval
        CardOp.exec () s)
      cases hauth : s.store.authorization ev.authorizationId with
      | none =>
        apply delivers_error
        simp [Applicable, hkind, hauth]
      | some auth =>
        unfold clearFound
        dsimp only
        split_ifs with hfiat
        · apply delivers_error
          simp [Applicable, hkind, hauth, hfiat]
        · apply delivers_update
          · rw [isOk_iff_pair]
            simp [CardStore.captureHold_eq_ok, Applicable, hkind, hauth, hfiat]
          · intro record store h
            obtain ⟨r, -, -, -, rfl⟩ := CardStore.captureHold_eq_ok.mp h
            rfl
    | reversal =>
      apply delivers_update
      · rw [isOk_iff_pair]
        simp [CardStore.reverseHold_eq_ok, Applicable, hkind]
      · intro record store h
        obtain ⟨r, -, -, -, rfl⟩ := CardStore.reverseHold_eq_ok.mp h
        rfl
    | refund =>
      apply delivers_update
      · rw [isOk_iff_pair]
        simp [CardStore.refundHold_eq_ok, Applicable, hkind]
      · intro record store h
        obtain ⟨r, -, -, -, rfl⟩ := CardStore.refundHold_eq_ok.mp h
        rfl

/-! ### A delivery in a run -/

/-- The store in which the event is applied. -/
def CardState.recorded (s : CardState) (ev : PartnerEventRequest) : CardState :=
  { s with store := (s.store.insertPartnerEvent ⟨ev.eventId, some ev.eventType⟩).2 }

theorem eval_handlePartnerEvent (s : CardState) (ev : PartnerEventRequest) :
    (handlePartnerEvent true ev).eval CardOp.exec () s =
      (if !(s.store.insertPartnerEvent ⟨ev.eventId, some ev.eventType⟩).1
        then pure (.duplicate ev.eventId ev.eventType ev.authorizationId)
        else applyPartnerEvent ev : CardProg CardResponse).eval CardOp.exec () (s.recorded ev) := rfl

/-- An event that is recorded is a duplicate, and nothing is done. -/
theorem delivery_old (h : ev.eventId ∈ s.store.events) :
    answer true s (.partner ev) = .duplicate ev.eventId ev.eventType ev.authorizationId ∧
      serve true s (.partner ev) = s := by
  have hinsert : s.store.insertPartnerEvent ⟨ev.eventId, some ev.eventType⟩ = (false, s.store) :=
    if_pos h
  rw [answer, serve, CardCall.start, eval_handlePartnerEvent, CardState.recorded, hinsert]
  exact ⟨rfl, rfl⟩

/-- An event that is new is recorded, and applied when it can be. -/
theorem delivery_new (h : ev.eventId ∉ s.store.events) :
    ((answer true s (.partner ev)).isApplied ↔ Applicable s.store ev) ∧
      (answer true s (.partner ev)).isDuplicate = false ∧
      ∀ id, id ∈ (serve true s (.partner ev)).store.events ↔ id = ev.eventId ∨ id ∈ s.store.events := by
  have hinsert : s.store.insertPartnerEvent ⟨ev.eventId, some ev.eventType⟩ =
      (true, { s.store with
        events := s.store.events.insert ev.eventId (PartnerEventRecord.mk ev.eventId
          (some ev.eventType)) }) := if_neg h
  have hdelivers := delivers_apply (s.recorded ev) ev
  have happlicable : Applicable (s.recorded ev).store ev ↔ Applicable s.store ev := by
    rw [CardState.recorded, hinsert]
    rfl
  rw [answer, serve, CardCall.start, eval_handlePartnerEvent, hinsert]
  refine ⟨hdelivers.applied.trans happlicable, hdelivers.not_duplicate, fun id => ?_⟩
  change id ∈ ((applyPartnerEvent ev).eval CardOp.exec () (s.recorded ev)).2.store.events ↔ _
  rw [hdelivers.events, CardState.recorded, hinsert]
  exact AList.mem_insert _

/-- A wallet authorization leaves the events alone. -/
theorem events_authorize (s : CardState) (payload : CardAuthorizationRequest) :
    (serve true s (.authorize payload)).store.events = s.store.events := by
  have hanswer : ∀ (s : CardState) x, ((answerAuthorization x).eval CardOp.exec () s).2 = s := by
    intro s x
    rcases x with e | record
    · cases e <;> rfl
    · rfl
  obtain ⟨frozen, store⟩ := s
  cases frozen with
  | true => rfl
  | false =>
    refine (congrArg (fun s : CardState => s.store.events) (hanswer _ _)).trans (events_update ?_)
    intro record store' h
    obtain ⟨-, -, -, rfl⟩ := CardStore.approveAndHoldWithFx_eq_ok.mp h
    rfl

/-- Only deliveries record events. -/
theorem mem_events_serve (s : CardState) (call : CardCall) (id : String) :
    id ∈ (serve true s call).store.events ↔
      id ∈ s.store.events ∨ ∃ ev, call = .partner ev ∧ ev.eventId = id := by
  cases call with
  | partner ev =>
    by_cases hold : ev.eventId ∈ s.store.events
    · rw [(delivery_old hold).2]
      refine ⟨.inl, fun h => h.elim (fun h => h) fun ⟨ev', heq, hid⟩ => ?_⟩
      cases heq
      exact hid ▸ hold
    · rw [(delivery_new hold).2.2 id, or_comm, eq_comm]
      simp
  | authorize payload =>
    rw [events_authorize]
    simp
  | _ => exact ⟨.inl, fun h => h.elim (fun h => h) fun ⟨ev', heq, _⟩ => nomatch heq⟩

end Delivery

/-! ### Duplicates -/

section Run

variable {pre pre' mid mid' post : List CardCall} {ev ev' : PartnerEventRequest}

theorem served_append (calls calls' : List CardCall) :
    served true (calls ++ calls') = Transition.run (serve true) (served true calls) calls' :=
  Transition.run_append _ _ _ _

variable {calls : List CardCall} {id : String}

theorem recorded_append (calls' : List CardCall) (h : id ∈ (served true calls).store.events) :
    id ∈ (served true (calls ++ calls')).store.events := by
  rw [served_append]
  exact Transition.run_inv (P := fun s => id ∈ s.store.events)
    (fun s call hs => (mem_events_serve s call id).mpr (.inl hs)) calls' h

theorem recorded_delivered (pre : List CardCall) (ev : PartnerEventRequest) (mid : List CardCall) :
    ev.eventId ∈ (served true (pre ++ .partner ev :: mid)).store.events := by
  have hpre : ev.eventId ∈ (served true (pre ++ [.partner ev])).store.events := by
    rw [served_append]
    exact (mem_events_serve _ _ _).mpr (.inr ⟨ev, rfl, rfl⟩)
  have happend := recorded_append mid hpre
  rwa [append_assoc, singleton_append] at happend

/-- There is only one first delivery. -/
theorem first_unique (h : pre ++ .partner ev :: mid = pre' ++ .partner ev' :: mid')
    (hid : ev'.eventId = ev.eventId) (hnew : ev.eventId ∉ (served true pre).store.events)
    (hnew' : ev'.eventId ∉ (served true pre').store.events) : pre = pre' ∧ ev = ev' := by
  rcases append_eq_append_iff.mp h with ⟨rest, rfl, hrest⟩ | ⟨rest, rfl, hrest⟩
  · cases rest with
    | nil =>
      rw [nil_append, cons.injEq, CardCall.partner.injEq] at hrest
      exact ⟨(append_nil pre).symm, hrest.1⟩
    | cons call rest =>
      rw [cons_append, cons.injEq] at hrest
      rw [← hrest.1, hid] at hnew'
      exact absurd (recorded_delivered pre ev rest) hnew'
  · cases rest with
    | nil =>
      rw [nil_append, cons.injEq, CardCall.partner.injEq] at hrest
      exact ⟨append_nil pre', hrest.1.symm⟩
    | cons call rest =>
      rw [cons_append, cons.injEq] at hrest
      rw [← hrest.1, ← hid] at hnew
      exact absurd (recorded_delivered pre' ev' rest) hnew

end Run

/-- Whatever is answered as a duplicate was applied before, exactly when each event that is
delivered again could be applied the first time it came. -/
theorem duplicates_applied_iff (enabled : Bool) (calls : List CardCall) :
    (∀ pre ev post, calls = pre ++ .partner ev :: post →
      (answer enabled (served enabled pre) (.partner ev)).isDuplicate →
      ∃ pre' ev' mid, pre = pre' ++ .partner ev' :: mid ∧ ev'.eventId = ev.eventId ∧
        (answer enabled (served enabled pre') (.partner ev')).isApplied) ↔
    (enabled → ∀ pre ev mid ev' post, calls = pre ++ .partner ev :: mid ++ .partner ev' :: post →
      ev'.eventId = ev.eventId → ev.eventId ∉ (served enabled pre).store.events →
      Applicable (served enabled pre).store ev) := by
  cases enabled with
  | false =>
    refine iff_of_true (fun pre ev post _ hdup => ?_) (fun h => absurd h Bool.false_ne_true)
    exact absurd hdup Bool.false_ne_true
  | true =>
    constructor
    · rintro hdup - pre ev mid ev' post rfl hid hnew
      have hrecorded := recorded_delivered pre ev mid
      rw [← hid] at hrecorded
      have hanswer := (delivery_old hrecorded).1
      obtain ⟨pre', ev'', mid', hsplit, hid'', happlied⟩ :=
        hdup (pre ++ .partner ev :: mid) ev' post rfl (by rw [hanswer]; rfl)
      -- what was applied was new, so it is the same delivery
      have hnew'' : ev''.eventId ∉ (served true pre').store.events := by
        intro hold
        rw [(delivery_old hold).1] at happlied
        exact absurd happlied Bool.false_ne_true
      obtain ⟨rfl, rfl⟩ := first_unique hsplit (hid''.trans hid) hnew hnew''
      exact (delivery_new hnew).1.mp happlied
    · rintro happlicable pre ev post rfl hdup
      have hrecorded : ev.eventId ∈ (served true pre).store.events := by
        by_contra hnew
        rw [(delivery_new hnew).2.1] at hdup
        exact absurd hdup Bool.false_ne_true
      -- the event was delivered a first time
      have hinit : ev.eventId ∉ CardState.initial.store.events := AList.notMem_empty _
      obtain ⟨pre', call, mid, rfl, hnew, hborn, -⟩ :=
        Transition.run_since (P := fun s : CardState => ev.eventId ∈ s.store.events) hinit hrecorded
      obtain ⟨ev', rfl, hid⟩ := ((mem_events_serve _ _ _).mp hborn).resolve_left hnew
      rw [← hid] at hnew
      refine ⟨pre', ev', mid, rfl, hid, (delivery_new hnew).1.mpr ?_⟩
      exact happlicable rfl pre' ev' mid ev post rfl hid.symm hnew

def earlyClearing : PartnerEventRequest :=
  ⟨"evt", "clearing", "auth", some (SInt.saturate 64 50), none, none, none, none⟩

/-- The clearing comes before its authorization and is refused. When it comes again, and could be
applied, it is a duplicate, and nothing is captured. -/
theorem early_clearing_lost :
    answer true CardState.initial (.partner earlyClearing) =
      .cardError 422 "authorization_not_found" "Authorization was not found for clearing." ∧
    (answer true (served true [.partner earlyClearing, .authorize walletAuthorization])
      (.partner { earlyClearing with eventId := "other" })).isApplied ∧
    answer true (served true [.partner earlyClearing, .authorize walletAuthorization])
      (.partner earlyClearing) = .duplicate "evt" "clearing" "auth" ∧
    ((served true [.partner earlyClearing, .authorize walletAuthorization,
      .partner earlyClearing]).store.authorization "auth").map (·.spentStroops) = some 0 := by
  decide

end StellarRoute.Card
