import StellarRoute.Cctp.Sanity.Journey
import StellarRoute.Cctp.Spec.Quotes
import StellarRoute.Lib.Tally

/-! Quote requests that share an idempotency key. A row of the idempotency
table keeps its request and its transfer id for as long as it stands, whoever
works on it, and a claim answers from the row it finds. The last step of a
request does not look at which row it finds, once that row is completed. -/

namespace StellarRoute.Cctp

open Lib Lib.Interleave QuoteState List Option

/-! ### The idempotency table -/

section Table

variable {c : Codec} {s s' : QuoteState} {key requestHash owner : String} {began now leaseUntil : Time}
  {row row' : IdempotencyEntry} {t : CctpTransfer}

theorem QuoteState.entry_of_live (h : s.liveEntry key now = some row) : s.entry key = some row :=
  (filter_eq_some_iff.mp h).1

theorem QuoteState.key_of_entry (h : s.entry key = some row) : row.key = key := Table.key_of_find h

theorem QuoteState.entry_put (h : s.entry key = some row) (hkey : row'.key = row.key) :
    (s.put row').entry key = some row' := by
  have hkeys : row'.key = key := hkey.trans (key_of_entry h)
  subst hkeys
  exact Table.find_set_self h

theorem QuoteState.entry_put_ne (hne : row'.key ≠ key) : (s.put row').entry key = s.entry key :=
  Table.find_set_ne hne

theorem IdempotencyState.pending_of_ne {state : IdempotencyState} (h : state ≠ .completed) :
    state = .pending := by
  cases state with
  | pending => rfl
  | completed => exact absurd rfl h

structure IdempotencyEntry.Keeps (row row' : IdempotencyEntry) : Prop where
  transferId : row'.transferId = row.transferId
  requestHash : row'.requestHash = row.requestHash
  completed : row.state = .completed → row'.state = .completed

theorem IdempotencyEntry.Keeps.refl (row : IdempotencyEntry) : row.Keeps row := ⟨rfl, rfl, id⟩

theorem claimObserve_cases {found : Option IdempotencyClaim}
    (h : claimObserve began now key requestHash owner leaseUntil s = .ok (found, s')) :
    found = none ∧ s' = s ∨ ∃ row, s.liveEntry key began = some row ∧
      row.requestHash = requestHash ∧
      found = some ⟨row.transferId, row.state, true, row.requestHash⟩ ∧
      (s' = s ∨ s' = s.put (row.leasedTo owner leaseUntil)) := by
  unfold claimObserve at h
  split at h
  · cases h
    exact .inl ⟨rfl, rfl⟩
  · next row hrow =>
    obtain ⟨_, hhash, h⟩ := bind_eq_ok.mp h
    rw [require_eq_ok] at hhash
    refine .inr ⟨row, hrow, hhash, ?_⟩
    split_ifs at h with hstate
    · cases h
      exact ⟨by rw [hstate], .inl rfl⟩
    · obtain ⟨_, -, h⟩ := bind_eq_ok.mp h
      cases h
      exact ⟨by rw [IdempotencyState.pending_of_ne hstate], .inr rfl⟩

theorem claimObserve_eq_ok {claim : IdempotencyClaim}
    (h : claimObserve began now key requestHash owner leaseUntil s = .ok (some claim, s')) :
    ∃ row, s.liveEntry key began = some row ∧ row.requestHash = requestHash ∧
      claim = ⟨row.transferId, row.state, true, row.requestHash⟩ := by
  rcases claimObserve_cases h with ⟨hnone, -⟩ | ⟨row, hrow, hhash, hclaim, -⟩
  · cases hnone
  · exact ⟨row, hrow, hhash, some.inj hclaim⟩

theorem finalizeQuote_eq_ok (h : finalizeQuote began key owner t s = .ok ((), s')) :
    ∃ row, s.liveEntry key began = some row ∧
      (row.state = .completed ∧ s' = s ∨
        row.state = .pending ∧ row.transferId = t.transferId ∧
        s' = { put s row.complete with
          service := { s.service with
            transfers := s.service.transfers ++ [insertedRow began t] } }) := by
  unfold finalizeQuote at h
  split at h
  · cases h
  · next row hrow =>
    refine ⟨row, hrow, ?_⟩
    split_ifs at h with hstate
    · cases h
      exact .inl ⟨hstate, rfl⟩
    · obtain ⟨_, hid, h⟩ := bind_eq_ok.mp h
      obtain ⟨_, -, h⟩ := bind_eq_ok.mp h
      obtain ⟨⟨_, service⟩, hinsert, h⟩ := bind_eq_ok.mp h
      obtain ⟨_, -, hservice⟩ := bind_eq_ok.mp (mapError_eq_ok.mp hinsert)
      cases hservice
      cases h
      exact .inr ⟨IdempotencyState.pending_of_ne hstate, require_eq_ok.mp hid, rfl⟩

/-- What one operation does to the idempotency table. -/
inductive EntriesStep (s : QuoteState) : QuoteOp → List IdempotencyEntry → Prop
  | same (o : QuoteOp) : EntriesStep s o s.entries
  | insert (e : IdempotencyEntry) (hnone : s.entry e.key = none) :
      EntriesStep s (.claimInsert e) (s.entries ++ [e])
  | put (o : QuoteOp) {key : String} {row row' : IdempotencyEntry} (hrow : s.entry key = some row)
      (hkey : row'.key = row.key) (hkeeps : row.Keeps row') : EntriesStep s o (s.put row').entries
  | sweep (o : QuoteOp) (keys : List String) : EntriesStep s o (s.entries.filter (·.key ∉ keys))

theorem exec_entries (c : Codec) (env : QuoteEnv) (o : QuoteOp) (s : QuoteState) :
    EntriesStep s o (QuoteOp.exec c env o s).2.entries := by
  have hattempt {α : Type} {x : Except CctpIdempotencyError (α × QuoteState)}
      (h : ∀ a s', x = .ok (a, s') → EntriesStep s o s'.entries) :
      EntriesStep s o (attempt env.service.database .database x s).2.entries :=
    attempt_inv (P := fun v : QuoteState => EntriesStep s o v.entries) (.same o) h
  cases o with
  | service o | gate direction | ephemeralToken => exact .same _
  | claimInsert e =>
    refine hattempt fun _ s' h => ?_
    unfold claimInsert at h
    split_ifs at h with hsome
    · cases h
      exact .same _
    · cases h
      exact .insert e (by simpa using hsome)
  | claimObserve began key requestHash owner leaseUntil =>
    refine hattempt fun _ s' h => ?_
    rcases claimObserve_cases h with ⟨-, rfl⟩ | ⟨row, hrow, -, -, rfl | rfl⟩
    · exact .same _
    · exact .same _
    · exact .put _ (entry_of_live hrow) rfl ⟨rfl, rfl, id⟩
  | finalizeQuote began key owner t =>
    refine hattempt fun _ s' h => ?_
    obtain ⟨row, hrow, ⟨-, rfl⟩ | ⟨-, -, rfl⟩⟩ := finalizeQuote_eq_ok h
    · exact .same _
    · exact .put _ (entry_of_live hrow) rfl ⟨rfl, rfl, fun _ => rfl⟩
  | cleanupExpired limit =>
    refine hattempt fun _ s' h => ?_
    unfold cleanupExpired at h
    cases h
    exact .sweep _ _

theorem entry_exec {env : QuoteEnv} {o : QuoteOp} (h : s.entry key = some row)
    (h' : (QuoteOp.exec c env o s).2.entry key = some row') : row.Keeps row' := by
  rw [entry] at h'
  have hstep := exec_entries c env o s
  generalize (QuoteOp.exec c env o s).2.entries = entries at h' hstep
  cases hstep with
  | same =>
    rw [← entry, h] at h'
    cases h'
    exact .refl row
  | insert e hnone =>
    have hne : e.key ≠ key := by
      rintro rfl
      rw [hnone] at h
      cases h
    rw [Table.find_append_ne hne, ← entry, h] at h'
    cases h'
    exact .refl row
  | @put _ key' old new hold hkey hkeeps =>
    rw [← entry] at h'
    by_cases hkey' : new.key = key
    · obtain rfl : key' = key := (key_of_entry hold).symm.trans (hkey.symm.trans hkey')
      rw [h] at hold
      cases hold
      rw [entry_put h hkey] at h'
      cases h'
      exact hkeeps
    · rw [entry_put_ne hkey', h] at h'
      cases h'
      exact .refl row
  | sweep _ keys =>
    by_cases hmem : key ∈ keys
    · rw [Table.find_filter_of_mem hmem] at h'
      cases h'
    · rw [Table.find_filter_of_not_mem hmem, ← entry, h] at h'
      cases h'
      exact .refl row

end Table

/-! ### What a request does -/

/-- The key and the request hash that a call claims under. -/
def QuoteCall.claims (ctx : QuoteContext) (call : QuoteCall) : Option (String × String) := do
  let raw ← call.idempotencyKey
  let key ← (normalizeIdempotencyKey raw).toOption
  let requestHash ← (hashQuoteRequest ctx.codec (ctx.requestJson call.body)).toOption
  pure (key, requestHash)

def answered (c : Codec) (key : String) : QuoteEvent → Option Uuid
  | ⟨env, s, .claimObserve began key' requestHash owner leaseUntil⟩ =>
    match (QuoteOp.exec c env (.claimObserve began key' requestHash owner leaseUntil) s).1 with
    | .ok (some ⟨id, .completed, _, _⟩) => if key' = key then some id else none
    | _ => none
  | ⟨env, s, .finalizeQuote began key' owner t⟩ =>
    match (QuoteOp.exec c env (.finalizeQuote began key' owner t) s).1 with
    | .ok () => if key' = key then some t.transferId else none
    | .error _ => none
  | _ => none

/-- The event proposes or finds a row that reserves the transfer for the request. -/
def Reserves (key requestHash : String) (id : Uuid) (e : QuoteEvent) : Prop :=
  (∃ row, e.op = .claimInsert row ∧ row.key = key ∧ row.requestHash = requestHash ∧
    row.transferId = id) ∨
  ∃ row, e.state.entry key = some row ∧ row.requestHash = requestHash ∧ row.transferId = id

/-- What a call has seen when it performs an operation. -/
def QuoteCall.Rule (ctx : QuoteContext) (call : QuoteCall) (L : List QuoteEvent) : QuoteOp → Prop
  | .claimInsert row => call.claims ctx = some (row.key, row.requestHash)
  | .claimObserve _ key requestHash _ _ => call.claims ctx = some (key, requestHash)
  | .finalizeQuote _ key _ t => ∃ requestHash, call.claims ctx = some (key, requestHash) ∧
    ∃ e ∈ L, Reserves key requestHash t.transferId e
  | _ => True

section Requests

variable {ctx : QuoteContext} {call : QuoteCall} {L : List QuoteEvent} {key requestHash : String}

/-- The rule for the parts of a request. -/
abbrev Requests {ε α : Type} (ctx : QuoteContext) (call : QuoteCall) (x : Http ε α)
    (L : List QuoteEvent) (Post : α → List QuoteEvent → Prop) : Prop :=
  Spec (QuoteOp.exec ctx.codec) (call.Rule ctx) x L Post

theorem requests_service {α : Type} {transferId : Option Uuid} {x : Svc α} {Q : α → Prop}
    (hx : ∀ call, Shows ctx.codec ctx.config call x [] fun a _ => Q a) :
    Requests ctx call (Http.service transferId x) L fun a _ => Q a := by
  apply spec_adapt
  constructor
  apply Prog.holds_embed QuoteEnv.service service (fun _ _ _ => rfl) (fun _ _ => trivial)
  exact Prog.Holds.mono (fun _ _ h => h.2) (hx (.cancel 0)).holds

theorem requests_claimQuote (hclaims : call.claims ctx = some (key, requestHash)) (owner : String)
    (expiresAt : Time) (retries : ℕ) :
    Requests ctx call (claimQuote ctx key requestHash owner expiresAt retries) L fun claim L' =>
      (claim.state = .completed → ∃ e ∈ L', answered ctx.codec key e = some claim.transferId) ∧
      ∃ e ∈ L', Reserves key requestHash claim.transferId e := by
  induction retries generalizing L with
  | zero => exact spec_throw
  | succ retries ih =>
    refine spec_call_bind trivial fun env1 s1 => ?_
    refine spec_call_bind trivial fun env2 s2 => ?_
    refine spec_call_bind trivial fun env3 s3 => ?_
    refine spec_call_bind hclaims fun env4 s4 => ?_
    refine spec_mk_bind fun inserted hinserted => ?_
    cases inserted with
    | true =>
      refine spec_pure ⟨fun h => IdempotencyState.noConfusion h, _, mem_cons_self, .inl ?_⟩
      exact ⟨_, rfl, rfl, rfl, rfl⟩
    | false =>
      refine spec_call_bind hclaims fun env5 s5 => ?_
      refine spec_mk_bind fun found hfound => ?_
      cases found with
      | none => exact ih
      | some claim =>
        obtain ⟨row, hrow, hhash, rfl⟩ := claimObserve_eq_ok (attempt_eq_ok hfound)
        refine spec_pure ⟨fun hstate => ⟨_, mem_cons_self, ?_⟩, _, mem_cons_self, .inr ?_⟩
        · simp only at hstate
          rw [hstate] at hfound
          simp only [answered, hfound, if_pos]
        · exact ⟨row, entry_of_live hrow, hhash, rfl⟩

theorem requests_fulfilQuote (hclaims : call.claims ctx = some (key, requestHash)) {id : Uuid}
    (body : CctpQuoteRequest) (owner : String) (hreserved : ∃ e ∈ L, Reserves key requestHash id e) :
    Requests ctx call (fulfilQuote ctx body key requestHash owner id) L fun response L' =>
      ∃ e ∈ L', answered ctx.codec key e = some response.transferId := by
  refine spec_bind (requests_service (Q := fun t => t.transferId = id) ?_) fun t L' hL hid => ?_
  · exact fun _ => (shows_buildQuoteTransfer body id _).mono fun t _ _ ht => ht.2
  · obtain ⟨e, he, hreserves⟩ := hreserved
    subst hid
    refine spec_call_bind trivial fun env1 s1 => ?_
    refine spec_call_bind ⟨requestHash, hclaims, e, mem_cons_of_mem _ (hL.subset he), hreserves⟩
      fun env2 s2 => ?_
    refine spec_mk_bind fun _ hok => ?_
    refine spec_pure ⟨_, mem_cons_self, ?_⟩
    simp only [answered, mapError_eq_ok.mp hok, if_pos]
    rfl

theorem requests_cctpQuote (ctx : QuoteContext) (call : QuoteCall) :
    Requests ctx call (cctpQuote ctx call) [] fun response L =>
      ∀ key requestHash, call.claims ctx = some (key, requestHash) →
        ∃ e ∈ L, answered ctx.codec key e = some response.transferId := by
  refine spec_mk_bind fun _ _ => ?_
  refine spec_mk_bind fun _ _ => ?_
  refine spec_call_bind trivial fun env1 s1 => ?_
  refine spec_mk_bind fun _ _ => ?_
  refine spec_mk_bind fun requestHash hhash => ?_
  refine spec_call_bind trivial fun env2 s2 => ?_
  rw [mapError_eq_ok] at hhash
  cases hraw : call.idempotencyKey with
  | some raw =>
    refine spec_mk_bind fun key hkey => ?_
    have hclaims : call.claims ctx = some (key, requestHash) := by
      simp [QuoteCall.claims, hraw, mapError_eq_ok.mp hkey, hhash, Except.toOption]
    suffices Requests ctx call (keyedQuote ctx call key requestHash) _ fun response L' =>
        ∃ e ∈ L', answered ctx.codec key e = some response.transferId by
      refine this.mono fun response L _ hanswered key' requestHash' h => ?_
      rw [hclaims] at h
      cases h
      exact hanswered
    refine spec_call_bind trivial fun env3 s3 => ?_
    refine spec_call_bind trivial fun env4 s4 => ?_
    refine spec_bind (spec_adapt (requests_claimQuote hclaims _ _ _)) fun claim L' _ hclaim => ?_
    split_ifs with hstate
    · refine spec_bind (requests_service (Q := fun t => t.transferId = claim.transferId) ?_)
        fun t L' hL hid => ?_
      · exact fun _ => (shows_getTransfer _).mono fun t _ _ hread => hread.id_eq
      · refine spec_mk_bind fun storedHash _ => spec_mk_bind fun accessToken _ => ?_
        obtain ⟨e, he, hanswered⟩ := hclaim.1 hstate
        exact spec_pure ⟨e, hL.subset he, hanswered.trans (congrArg some hid.symm)⟩
    · exact requests_fulfilQuote hclaims _ _ hclaim.2
  | none =>
    have hclaims : call.claims ctx = none := by simp [QuoteCall.claims, hraw]
    refine spec_call_bind trivial fun env3 s3 => ?_
    refine spec_bind (requests_service (Q := fun _ => True) fun _ => shows_quoteCore _ _)
      fun t L' _ _ => ?_
    refine spec_pure fun key' requestHash' h => ?_
    simp [hclaims] at h

theorem QuoteCall.holds (ctx : QuoteContext) (call : QuoteCall) :
    (call.start ctx).Holds (QuoteOp.exec ctx.codec) (call.Rule ctx)
      (fun out L => ∀ response, out = .ok response → ∀ key requestHash,
        call.claims ctx = some (key, requestHash) →
          ∃ e ∈ L, answered ctx.codec key e = some response.transferId) [] :=
  Prog.Holds.mono (fun _ _ h => h.2) (requests_cctpQuote ctx call).holds

end Requests

/-! ### Every run -/

/-- A request that is finalised under a completed row finds the row of its own transfer. -/
def StillReserved (_ : QuoteEnv) (s : QuoteState) : QuoteOp → Prop
  | .finalizeQuote began key _ t => ∀ row, s.liveEntry key began = some row →
    row.state = .completed → row.transferId = t.transferId
  | _ => True

def Proposed (E : QuoteEvent → Prop) (requestHash : String) (id : Uuid) : Prop :=
  ∃ e row, E e ∧ e.op = .claimInsert row ∧ row.requestHash = requestHash ∧ row.transferId = id

/-- No transfer id is drawn for two different requests. -/
def Quotes.IdsUnique (p : Quotes) : Prop :=
  ∀ requestHash requestHash' id, Proposed p.Performed requestHash id →
    Proposed p.Performed requestHash' id → requestHash = requestHash'

def insertsTransfer (c : Codec) (key : String) : QuoteEvent → Bool
  | ⟨env, s, .finalizeQuote began key' owner t⟩ =>
    key' = key && s.service.transfers.length <
      (QuoteOp.exec c env (.finalizeQuote began key' owner t) s).2.service.transfers.length
  | _ => false

section Run

variable {ctx : QuoteContext} {call : QuoteCall} {c : Codec} {s0 : State} {s : QuoteState}
  {key : String} {id : Uuid} {row : IdempotencyEntry} {env : QuoteEnv} {o : QuoteOp}
  {E E' : QuoteEvent → Prop}

theorem Proposed.mono (himp : ∀ e, E e → E' e) {requestHash : String}
    (h : Proposed E requestHash id) : Proposed E' requestHash id := by
  obtain ⟨e, row, he, hrow⟩ := h
  exact ⟨e, row, himp e he, hrow⟩

def Ledgered (E : QuoteEvent → Prop) (s : QuoteState) : Prop :=
  ∀ row ∈ s.entries, Proposed E row.requestHash row.transferId

theorem Ledgered.exec (h : Ledgered E s) (hnew : E ⟨env, s, o⟩) :
    Ledgered E (QuoteOp.exec c env o s).2 := by
  intro row hrow
  have hstep := exec_entries c env o s
  generalize (QuoteOp.exec c env o s).2.entries = entries at hrow hstep
  cases hstep with
  | same => exact h row hrow
  | insert new _ =>
    rw [mem_append, mem_singleton] at hrow
    rcases hrow with hrow | rfl
    · exact h row hrow
    · exact ⟨_, row, hnew, rfl, rfl, rfl⟩
  | put _ hold _ hkeeps =>
    rcases Table.mem_set hrow with rfl | ⟨hrow, -⟩
    · rw [hkeeps.requestHash, hkeeps.transferId]
      exact h _ (Table.mem_of_find hold)
    · exact h row hrow
  | sweep => exact h row (mem_filter.mp hrow).1

theorem quotes_ledgered (ctx : QuoteContext) (s0 : State)
    (choices : List (Choice QuoteEnv QuoteCall)) :
    Ledgered (quotes ctx s0 choices).Performed (quotes ctx s0 choices).state := by
  refine (run_inv (J := Ledgered) (R := fun _ _ => True) (fun _ => trivial)
    (fun _ _ _ _ _ => trivial) (fun _ _ _ _ => trivial) ?_ (QuoteCall.holds ctx)
    (fun row hrow => absurd hrow not_mem_nil) (Transition.stepsOk_of_forall allowed_true _ _)).1
  intro E call L env s o h _ _ _ _
  have hlater : Ledgered (fun e => E e ∨ e = ⟨env, s, o⟩) s :=
    fun row hrow => (h row hrow).mono fun e he => .inl he
  exact hlater.exec (.inr rfl)

theorem answered_entry (hstill : StillReserved env s o) (h : answered c key ⟨env, s, o⟩ = some id) :
    ∃ row, s.entry key = some row ∧ row.transferId = id ∧
      ((∃ began owner leaseUntil, o = .claimObserve began key row.requestHash owner leaseUntil) ∨
        ∃ began owner t, o = .finalizeQuote began key owner t ∧ t.transferId = id) := by
  unfold answered at h
  split at h
  · next env s began key' requestHash owner leaseUntil hevent =>
    cases hevent
    split at h
    · next hok =>
      obtain ⟨rfl, rfl⟩ : key' = key ∧ _ = id := by simpa using h
      obtain ⟨row, hrow, rfl, hclaim⟩ := claimObserve_eq_ok (attempt_eq_ok hok)
      have hid := congrArg IdempotencyClaim.transferId hclaim
      exact ⟨row, entry_of_live hrow, hid.symm, .inl ⟨_, _, _, rfl⟩⟩
    · cases h
  · next env s began key' owner t hevent =>
    cases hevent
    split at h
    · next hok =>
      obtain ⟨rfl, rfl⟩ : key' = key ∧ t.transferId = id := by simpa using h
      obtain ⟨row, hrow, hcases⟩ := finalizeQuote_eq_ok (attempt_eq_ok hok)
      have hid : row.transferId = t.transferId := by
        rcases hcases with ⟨hcompleted, -⟩ | ⟨-, hid, -⟩
        · exact hstill row hrow hcompleted
        · exact hid
      exact ⟨row, entry_of_live hrow, hid, .inr ⟨_, _, _, rfl, rfl⟩⟩
    · cases h
  · cases h

theorem completes_of_inserts (h : insertsTransfer c key ⟨env, s, o⟩) :
    ∃ row, s.entry key = some row ∧ row.state = .pending ∧
      (QuoteOp.exec c env o s).2.entry key = some row.complete := by
  unfold insertsTransfer at h
  split at h
  · next env s began key' owner t hevent =>
    cases hevent
    rw [Bool.and_eq_true, decide_eq_true_eq, decide_eq_true_eq] at h
    obtain ⟨rfl, hlt⟩ := h
    rcases attempt_cases env.service.database .database
      (finalizeQuote began key' owner t s) s with hsame | ⟨_, hok⟩
    · exact absurd hlt (by rw [QuoteOp.exec, hsame]; exact lt_irrefl _)
    · obtain ⟨row, hrow, ⟨-, hsame⟩ | ⟨hpending, -, hput⟩⟩ := finalizeQuote_eq_ok hok
      · exact absurd hlt (by rw [QuoteOp.exec, hsame]; exact lt_irrefl _)
      · have hentry := entry_of_live hrow
        refine ⟨row, hentry, hpending, ?_⟩
        rw [QuoteOp.exec, hput]
        exact entry_put hentry rfl
  · cases h

variable {choices : List (Choice QuoteEnv QuoteCall)} {choice : Choice QuoteEnv QuoteCall}
  {e : QuoteEvent}

theorem does_answered (hids : (quotes ctx s0 choices).IdsUnique)
    (hstill : Allowed StillReserved (quotes ctx s0 choices) choice)
    (hdoes : (quotes ctx s0 choices).Does choice call e) (h : answered ctx.codec key e = some id) :
    ∃ row, (quotes ctx s0 choices).state.entry key = some row ∧ row.transferId = id ∧
      call.claims ctx = some (key, row.requestHash) := by
  cases choice with
  | spawn c => exact hdoes.elim
  | step i env =>
    obtain ⟨th, o, k, hth, hprog, rfl, rfl⟩ := hdoes
    have hmem := mem_of_getElem? hth
    have hrule := run_sound (⟨s0, []⟩ : QuoteState) (QuoteCall.holds ctx) choices th hmem
    rw [hprog] at hrule
    obtain ⟨row, hrow, hid, ⟨began, owner, leaseUntil, rfl⟩ | ⟨began, owner, t, rfl, rfl⟩⟩ :=
      answered_entry (hstill th o k hth hprog) h
    · exact ⟨row, hrow, hid, hrule.1⟩
    · -- the row and the claim of the call were proposed with one transfer id
      obtain ⟨requestHash, hclaims, e, he, hreserves⟩ := hrule.1
      have hrows := quotes_ledgered ctx s0 choices
      have hperformed : (quotes ctx s0 choices).Performed e := ⟨th, hmem, he⟩
      have hproposed : Proposed (quotes ctx s0 choices).Performed requestHash t.transferId := by
        rcases hreserves with ⟨own, hop, -, rfl, hown⟩ | ⟨seen, hseen, rfl, hown⟩
        · exact ⟨e, own, hperformed, hop, rfl, hown⟩
        · -- the rows that an event has met have been proposed
          obtain ⟨before, rest, rfl, hstate⟩ := performed_moment hperformed
          rw [← hown]
          rw [← hstate] at hseen
          have hrow := quotes_ledgered ctx s0 before seen (Table.mem_of_find hseen)
          exact hrow.mono fun e he => performed_append he rest
      have hsame := hids _ _ _ hproposed (hid ▸ hrows row (Table.mem_of_find hrow))
      exact ⟨row, hrow, hid, hsame ▸ hclaims⟩

theorem Quotes.IdsUnique.before {since : List (Choice QuoteEnv QuoteCall)}
    (h : (quotes ctx s0 (choices ++ since)).IdsUnique) : (quotes ctx s0 choices).IdsUnique := by
  have hlater : ∀ e, (quotes ctx s0 choices).Performed e →
      (quotes ctx s0 (choices ++ since)).Performed e := by
    exact fun e he => performed_append he since
  exact fun requestHash requestHash' id hone hother =>
    h requestHash requestHash' id (hone.mono hlater) (hother.mono hlater)

/-- How many transfers the requests have inserted under the key. -/
def Quotes.inserted (p : Quotes) (c : Codec) (key : String) : ℕ :=
  p.count fun _ => insertsTransfer c key

/-- A step under which the row stands: it keeps what it is for, and it is completed by the one
transfer. -/
theorem row_step {p : Quotes} {row' : IdempotencyEntry} {n : ℕ}
    (hrow : p.state.entry key = some row)
    (hrow' : (step (QuoteOp.exec ctx.codec) (QuoteCall.start ctx) p choice).state.entry key =
      some row')
    (hcount : p.inserted ctx.codec key ≤ n + if row.state = .completed then 1 else 0) :
    row.Keeps row' ∧
      Quotes.inserted (step (QuoteOp.exec ctx.codec) (QuoteCall.start ctx) p choice) ctx.codec key ≤
        n + if row'.state = .completed then 1 else 0 := by
  rcases step_cases (QuoteOp.exec ctx.codec) (QuoteCall.start ctx) p choice with
    ⟨call, rfl, h⟩ | h | ⟨i, env, th, o, k, rfl, hth, hprog, h⟩
  · rw [h] at hrow' ⊢
    obtain rfl : row = row' := mem_unique hrow hrow'
    refine ⟨.refl row, ?_⟩
    simpa [Quotes.inserted, Pool.count] using hcount
  · rw [h] at hrow' ⊢
    obtain rfl : row = row' := mem_unique hrow hrow'
    exact ⟨.refl row, hcount⟩
  · rw [h] at hrow' ⊢
    have hkeeps : row.Keeps row' := entry_exec hrow hrow'
    refine ⟨hkeeps, ?_⟩
    rw [Quotes.inserted, count_set hth]
    rw [Quotes.inserted] at hcount
    split_ifs with hinserts hstate hstate
    · obtain ⟨old, hold, hpending, -⟩ := completes_of_inserts hinserts
      obtain rfl : row = old := mem_unique hrow hold
      rw [hpending] at hcount
      simpa using hcount
    · obtain ⟨old, -, -, hcomplete⟩ := completes_of_inserts hinserts
      obtain rfl : row' = old.complete := mem_unique hrow' hcomplete
      exact absurd rfl hstate
    · split_ifs at hcount <;> omega
    · rwa [if_neg fun hbefore => hstate (hkeeps.completed hbefore)] at hcount

theorem row_stands (before mid : List (Choice QuoteEnv QuoteCall))
    (hlive : ∀ since, since <+: mid → ((quotes ctx s0 (before ++ since)).state.entry key).isSome)
    (hrow : (quotes ctx s0 before).state.entry key = some row) :
    ∃ row', (quotes ctx s0 (before ++ mid)).state.entry key = some row' ∧ row.Keeps row' ∧
      (quotes ctx s0 (before ++ mid)).inserted ctx.codec key ≤
        (quotes ctx s0 before).inserted ctx.codec key +
          if row'.state = .completed then 1 else 0 := by
  induction mid using reverseRecOn with
  | nil =>
    rw [append_nil]
    exact ⟨row, hrow, .refl row, Nat.le_add_right _ _⟩
  | append_singleton mid choice ih =>
    obtain ⟨row1, hrow1, hkeeps, hcount⟩ :=
      ih fun since hle => hlive since (hle.trans (prefix_append _ _))
    obtain ⟨row2, hrow2⟩ := isSome_iff_exists.mp (hlive _ prefix_rfl)
    rw [← append_assoc, quotes, run, Transition.run_concat] at hrow2 ⊢
    obtain ⟨hkeeps', hcount'⟩ := row_step hrow1 hrow2 hcount
    exact ⟨row2, hrow2, ⟨hkeeps'.transferId.trans hkeeps.transferId,
      hkeeps'.requestHash.trans hkeeps.requestHash, hkeeps'.completed ∘ hkeeps.completed⟩, hcount'⟩

end Run

/-- What a caller is told under a key that stands for one request and one transfer. -/
structure Consistent (ctx : QuoteContext) (key requestHash : String) (id : Uuid) (call : QuoteCall)
    (e : QuoteEvent) : Prop where
  answer : ∀ id', answered ctx.codec key e = some id' →
    id' = id ∧ call.claims ctx = some (key, requestHash)
  conflict : ∀ began requestHash' owner leaseUntil,
    e.op = .claimObserve began key requestHash' owner leaseUntil →
    e.env.service.database = .answers → (e.state.liveEntry key began).isSome →
    requestHash' ≠ requestHash →
    (QuoteOp.exec ctx.codec e.env (.claimObserve began key requestHash' owner leaseUntil)
      e.state).1 = .error .conflict

/-- Over every interleaving of quote requests, for as long as the row of a key stands and no request
is finalised under the completed row of another transfer: one request and one transfer belong to the
key, every answer under the key is this transfer for this request, a claim of the live row with
another request is a conflict, and at most one transfer is inserted. Whoever was served under the
key was served with such an answer. -/
theorem quotes_idempotent (ctx : QuoteContext) (s₀ : State) (key : String)
    (before mid : List (Choice QuoteEnv QuoteCall))
    (hids : (quotes ctx s₀ (before ++ mid)).IdsUnique)
    (hlive : ∀ since, since <+: mid → ((quotes ctx s₀ (before ++ since)).state.entry key).isSome)
    (hstill : Transition.StepsOk (step (QuoteOp.exec ctx.codec) (QuoteCall.start ctx))
      (Allowed StillReserved) ⟨⟨s₀, []⟩, []⟩ (before ++ mid)) :
    (∃ id requestHash, ∀ since choice call e, since ++ [choice] <+: mid →
      (quotes ctx s₀ (before ++ since)).Does choice call e →
        Consistent ctx key requestHash id call e) ∧
    (quotes ctx s₀ (before ++ mid)).inserted ctx.codec key ≤
      (quotes ctx s₀ before).inserted ctx.codec key + 1 ∧
    ∀ th ∈ (quotes ctx s₀ (before ++ mid)).threads, ∀ response, th.prog = .ret (.ok response) →
      ∀ requestHash, th.call.claims ctx = some (key, requestHash) →
        ∃ e ∈ th.trace, answered ctx.codec key e = some response.transferId := by
  obtain ⟨row, hrow⟩ := isSome_iff_exists.mp (hlive [] nil_prefix)
  rw [append_nil] at hrow
  refine ⟨⟨row.transferId, row.requestHash, fun since choice call e hle hdoes => ?_⟩, ?_, ?_⟩
  · obtain ⟨rest, rfl⟩ := hle
    obtain ⟨row', hrow', hkeeps, -⟩ := row_stands before since
      (fun since' hle' => hlive since' (hle'.trans (by simp))) hrow
    have hstate : e.state = (quotes ctx s₀ (before ++ since)).state := by
      cases choice with
      | spawn c => exact hdoes.elim
      | step i env =>
        obtain ⟨th, o, k, -, -, -, rfl⟩ := hdoes
        rfl
    constructor
    · intro id' hanswered
      have hsplit : before ++ (since ++ [choice] ++ rest) =
          (before ++ since) ++ ([choice] ++ rest) := by simp
      rw [hsplit] at hids hstill
      have hallowed := (Transition.stepsOk_append.mp hstill).2.1
      obtain ⟨found, hfound, hid, hclaims⟩ := does_answered hids.before hallowed hdoes hanswered
      obtain rfl : found = row' := mem_unique hfound hrow'
      rw [← hid, ← hkeeps.transferId, ← hkeeps.requestHash]
      exact ⟨rfl, hclaims⟩
    · intro began requestHash' owner leaseUntil _ hdb hlive' hne
      obtain ⟨found, hfound⟩ := isSome_iff_exists.mp hlive'
      have hentry := entry_of_live hfound
      rw [hstate, hrow'] at hentry
      cases hentry
      rw [← hkeeps.requestHash] at hne
      simp only [QuoteOp.exec, claimObserve, hfound, require, if_neg (Ne.symm hne), hdb, attempt]
      rfl
  · obtain ⟨row', -, -, hcount⟩ := row_stands before mid hlive hrow
    split_ifs at hcount <;> omega
  · intro th hth response hret requestHash hclaims
    have hpost := run_sound (⟨s₀, []⟩ : QuoteState) (QuoteCall.holds ctx) (before ++ mid) th hth
    rw [hret] at hpost
    exact hpost response rfl key requestHash hclaims

/-! ### Two requests with one key -/

/-- Requests for one USDC and for other amounts have different hashes. -/
def twoRequests : QuoteContext where
  codec := { plainCodec with
    sha256 := fun body => if body = [] then zero32 else ⟨List.replicate 32 1, rfl⟩ }
  config := plainConfig
  leaseSecs := 30
  requestJson := fun request => if request.amount = "1" then [] else [0]
  hashAccessToken := id
  deriveIdempotentTokenWithKey := fun _ _ _ _ => "token"
  current := []
  previous := []

def quoteWorld (secs : ℤ) (id : Uuid) : QuoteEnv where
  service :=
    let base := (plainOutlook .pending .pending).env
    { base with
      now := seconds secs
      answer
        | .newTransferId => id
        | .leaseOwner => toString id
        | q => base.answer q }
  gate _ := .ok ()
  ephemeralToken := ""
  scan _ := 0

def quoteCall (amount : String) : Choice QuoteEnv QuoteCall :=
  .spawn ⟨some "key", { plainRequest with amount }, 1⟩

/-- Request number `i` performs its next `steps` operations after `secs` seconds. -/
def quoteSteps (i steps : ℕ) (secs : ℤ) : List (Choice QuoteEnv QuoteCall) :=
  List.replicate steps (.step i (quoteWorld secs i))

/-- The transfer that request number `i` was served with. -/
def Quotes.served (p : Quotes) (i : ℕ) : Option Uuid :=
  match p.outcome i with
  | some (.ok response) => some response.transferId
  | _ => none

/-- The first request claims the key and is slow. -/
def firstClaim : List (Choice QuoteEnv QuoteCall) := quoteCall "1" :: quoteSteps 0 11 0

/-- The row of the first request has expired; the second has cleaned it up and claims the key. -/
def secondClaim : List (Choice QuoteEnv QuoteCall) := quoteCall "2" :: quoteSteps 1 8 301

/-- Both requests finish, the second one first. -/
def bothFinish : List (Choice QuoteEnv QuoteCall) := quoteSteps 1 5 302 ++ quoteSteps 0 2 303

/-- The proposals of the requests: request hash and transfer id. -/
def Quotes.proposals (p : Quotes) : List (String × Uuid) :=
  p.threads.flatMap fun th => th.trace.filterMap fun e =>
    match e.op with
    | .claimInsert row => some (row.requestHash, row.transferId)
    | _ => none

variable {p : Quotes}

theorem mem_proposals {requestHash : String} {id : Uuid}
    (h : Proposed p.Performed requestHash id) : (requestHash, id) ∈ p.proposals := by
  obtain ⟨e, row, ⟨th, hth, he⟩, hop, rfl, rfl⟩ := h
  rw [Quotes.proposals, mem_flatMap]
  refine ⟨th, hth, mem_filterMap.mpr ⟨e, he, ?_⟩⟩
  simp only [hop]

theorem idsUnique_of_proposals
    (h : ∀ a ∈ p.proposals, ∀ b ∈ p.proposals, a.2 = b.2 → a.1 = b.1) : p.IdsUnique :=
  fun _ _ _ hone hother => h _ (mem_proposals hone) _ (mem_proposals hother) rfl

theorem stands_of_inits {ctx : QuoteContext} {s0 : State} {key : String}
    {before mid : List (Choice QuoteEnv QuoteCall)}
    (h : mid.inits.all fun since => ((quotes ctx s0 (before ++ since)).state.entry key).isSome) :
    ∀ since, since <+: mid → ((quotes ctx s0 (before ++ since)).state.entry key).isSome := by
  intro since hle
  exact all_eq_true.mp h since ((mem_inits since mid).mpr hle)

/-- The row of the second request stands, and the first is served under it all the same: with another
transfer, which nobody has inserted, for another request. -/
theorem expired_claim_served :
    let run := firstClaim ++ secondClaim ++ bothFinish
    (quotes twoRequests State.empty run).IdsUnique ∧
    (∀ since, since <+: bothFinish → ((quotes twoRequests State.empty
      (firstClaim ++ secondClaim ++ since)).state.entry "key").isSome) ∧
    (quotes twoRequests State.empty run).served 0 = some 0 ∧
    (quotes twoRequests State.empty run).served 1 = some 1 ∧
    (quotes twoRequests State.empty run).state.service.transfers.map CctpTransfer.transferId = [1] ∧
    ((quotes twoRequests State.empty run).proposals.map Prod.fst).Nodup := by
  refine ⟨idsUnique_of_proposals (by decide), stands_of_inits (by decide), ?_⟩
  decide

def stillReserved (_ : QuoteEnv) (s : QuoteState) : QuoteOp → Bool
  | .finalizeQuote began key _ t => (s.liveEntry key began).all fun row =>
    row.state = .pending || row.transferId = t.transferId
  | _ => true

theorem stillReserved_of_check (env : QuoteEnv) (s : QuoteState) (o : QuoteOp)
    (h : stillReserved env s o) : StillReserved env s o := by
  unfold stillReserved at h
  unfold StillReserved
  split
  · intro row hrow hcompleted
    simpa [hrow, hcompleted] using h
  · trivial

/-- The same request again after the lease of the first has run out, and the first one late. -/
def takeover : List (Choice QuoteEnv QuoteCall) :=
  quoteCall "1" :: quoteSteps 1 14 40 ++ quoteSteps 0 5 45

/-- Both are served with the transfer of the first claim. -/
theorem quotes_idempotent_takeover :
    let run := quoteCall "1" :: quoteSteps 0 8 0 ++ takeover
    (quotes twoRequests State.empty run).served 0 = some 0 ∧
    (quotes twoRequests State.empty run).served 1 = some 0 ∧
    (quotes twoRequests State.empty run).inserted twoRequests.codec "key" ≤ 1 := by
  have hidempotent := quotes_idempotent twoRequests State.empty "key"
    (quoteCall "1" :: quoteSteps 0 8 0) takeover (idsUnique_of_proposals (by decide))
    (stands_of_inits (by decide)) (stepsOk_of_check stillReserved_of_check (by decide))
  have hnone : (quotes twoRequests State.empty (quoteCall "1" :: quoteSteps 0 8 0)).inserted
      twoRequests.codec "key" = 0 := by decide
  refine ⟨by decide, by decide, ?_⟩
  have hcount := hidempotent.2.1
  rwa [hnone] at hcount

end StellarRoute.Cctp
