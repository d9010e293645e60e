import Mathlib.Tactic
import StellarRoute.Lib.Transition
import StellarRoute.Indexer.Spec.Amm

/-! The discovery cursor and the swap events. A round that reaches its end stores the latest ledger
as the cursor, whatever it found: a fresh cursor or one before the lookback skips what lies behind, a
failed request is logged, one page of events is read, and the first event that does not parse ends
the batch. Every event that the cursor passes and that is not ingested was missed in one of these
ways, in the round that passed it. -/

namespace StellarRoute.Indexer

open Lib Transition AmmDb Option

def AmmDb.cursorLedger (db : AmmDb) : ℕ := (db.cursor.map fun row => parseCursor row.cursor).getD 0

def EndsBatch (H : ActivityHost) (env : RoundEnv) (n : ℕ) (event : SorobanEvent) : Prop :=
  (∃ e, parseSwapEvent H event = .error e) ∨
    (∃ activity, parseSwapEvent H event = .ok (some activity)) ∧ ∃ e, env.insert n = .error e

/-- What the round is answered when it asks for the swap events. -/
def swapPage (cfg : AmmConfig) (env : RoundEnv) (cursor : ℕ) (current : UInt64) :
    Except IndexerError (List SorobanEvent) :=
  env.getEvents (UInt64.ofNat (startLedger cursor current.toNat)) current (swapFilter cfg)

/-- The ways in which a round that reads the ledgers `cursor` and `current` does not ingest an
event. -/
inductive Missed (H : ActivityHost) (cfg : AmmConfig) (env : RoundEnv) (cursor : ℕ) (current : UInt64)
    (event : SorobanEvent) : Prop
  /-- the history before the first round is skipped -/
  | fresh (h : cursor = 0)
  /-- the cursor is clamped to the lookback -/
  | lookback (h : event.ledger.toNat < current.toNat - MAX_EVENT_LOOKBACK)
  /-- the request for the swap events fails -/
  | request (e : IndexerError) (h : swapPage cfg env cursor current = .error e)
  /-- the page does not have it -/
  | page (events : List SorobanEvent) (h : swapPage cfg env cursor current = .ok events)
      (hpage : event ∉ events)
  /-- it comes after an event that ends the batch, or its own insert fails -/
  | batch (events : List SorobanEvent) (i k : ℕ) (event' : SorobanEvent)
      (h : swapPage cfg env cursor current = .ok events)
      (hk : events[k]? = some event) (hle : i ≤ k) (hi : events[i]? = some event')
      (hends : EndsBatch H env i event')

/-! The table of swaps -/

variable {H : ActivityHost} {cfg : AmmConfig} {env : RoundEnv} {db db' : AmmDb}

/-- No event is forgotten. -/
def SwapsKept (swaps swaps' : SwapTable) : Prop :=
  ∀ id, (swaps.lookup id).isSome = true → (swaps'.lookup id).isSome = true

theorem insertActivity_kept (activity : SwapActivity) (swaps : SwapTable) :
    SwapsKept swaps (insertActivity activity swaps).2 ∧
      ((insertActivity activity swaps).2.lookup activity.eventId).isSome = true := by
  unfold insertActivity
  cases hold : swaps.lookup activity.eventId with
  | some old => exact ⟨fun _ h => h, by rw [hold]; rfl⟩
  | none =>
    dsimp only
    constructor
    · intro id hid
      rw [HashMap.lookup_insert_eq]
      split_ifs
      · rfl
      · exact hid
    · rw [AList.lookup_insert]
      rfl

theorem ingestSwapEvents_kept (insert : ℕ → Except IndexerError Unit) (events : List SorobanEvent)
    (n inserted : ℕ) (swaps : SwapTable) :
    SwapsKept swaps (ingestSwapEvents H insert events n inserted swaps).2 := by
  induction events generalizing n inserted swaps with
  | nil => exact fun _ h => h
  | cons event events ih =>
    unfold ingestSwapEvents
    split
    · exact fun _ h => h
    · exact ih _ _ _
    · split
      · exact fun _ h => h
      · exact fun id hid => ih _ _ _ id ((insertActivity_kept _ swaps).1 id hid)

variable {activity : SwapActivity} {event : SorobanEvent}

theorem parseSwapEvent_id (h : parseSwapEvent H event = .ok (some activity)) :
    activity.eventId = event.id := by
  unfold parseSwapEvent at h
  split_ifs at h
  · cases h
  · dsimp only at h
    split_ifs at h
    · simp only [bind_eq_ok, pure_eq_ok, some.injEq] at h
      obtain ⟨sender, -, payload, -, rfl⟩ := h
      rfl
    · cases h

/-- What comes before an event that ends the batch is ingested. -/
theorem ingestSwapEvents_mem {events : List SorobanEvent} {n inserted k : ℕ} {swaps : SwapTable}
    (hk : events[k]? = some event) (hparse : parseSwapEvent H event = .ok (some activity))
    (hno : ∀ i event', i ≤ k → events[i]? = some event' → ¬ EndsBatch H env (n + i) event') :
    ((ingestSwapEvents H env.insert events n inserted swaps).2.lookup event.id).isSome = true := by
  induction events generalizing n inserted k swaps with
  | nil => cases hk
  | cons first events ih =>
    have hfirst : ¬ EndsBatch H env n first := hno 0 first (Nat.zero_le k) rfl
    have hrest : ∀ j, k = j + 1 → ∀ i event', i ≤ j → events[i]? = some event' →
        ¬ EndsBatch H env (n + 1 + i) event' := by
      intro j hj i event' hi hget
      rw [Nat.add_assoc, Nat.add_comm 1 i]
      exact hno (i + 1) event' (by omega) hget
    unfold ingestSwapEvents
    cases hresult : parseSwapEvent H first with
    | error e => exact absurd (.inl ⟨e, hresult⟩) hfirst
    | ok result =>
      cases result with
      | none =>
        dsimp only
        cases k with
        | zero =>
          obtain rfl : first = event := some.inj hk
          simp [hresult] at hparse
        | succ k => exact ih hk (hrest k rfl)
      | some activity' =>
        dsimp only
        cases hinsert : env.insert n with
        | error e => exact absurd (.inr ⟨⟨activity', hresult⟩, e, hinsert⟩) hfirst
        | ok _ =>
          dsimp only
          cases k with
          | succ k => exact ih hk (hrest k rfl)
          | zero =>
            obtain rfl : first = event := some.inj hk
            rw [hresult] at hparse
            obtain rfl : activity' = activity := some.inj (Except.ok.inj hparse)
            apply ingestSwapEvents_kept
            rw [← parseSwapEvent_id hresult]
            exact (insertActivity_kept activity' swaps).2

/-! A round -/

/-- The cursor stays, and no event is forgotten. -/
structure Kept (db db' : AmmDb) : Prop where
  cursor : db'.cursor = db.cursor
  swaps : SwapsKept db.swaps db'.swaps

theorem Kept.refl (db : AmmDb) : Kept db db := ⟨rfl, fun _ h => h⟩

theorem Kept.trans {db'' : AmmDb} (h : Kept db db') (h' : Kept db' db'') : Kept db db'' :=
  ⟨h'.cursor.trans h.cursor, fun id hid => h'.swaps id (h.swaps id hid)⟩

theorem processPoolBatch_kept (addresses : List String) (db : AmmDb) :
    Kept db (db.processPoolBatch env addresses) := by
  induction addresses generalizing db with
  | nil => exact .refl db
  | cons address addresses ih =>
    have hone : Kept db (db.processPool env address) := by
      unfold processPool
      split
      · exact ⟨rfl, fun _ h => h⟩
      · exact .refl db
    exact hone.trans (ih (db.processPool env address))

theorem refreshPools_kept (db : AmmDb) : Kept db (db.refreshPools cfg env).2 := by
  unfold refreshPools
  split
  · exact .refl db
  · exact .refl db
  · dsimp only
    generalize List.toChunks _ _ = chunks
    induction chunks generalizing db with
    | nil => exact .refl db
    | cons chunk chunks ih => exact (processPoolBatch_kept chunk db).trans (ih _)

theorem cleanupStalePools_kept (db : AmmDb) : Kept db (db.cleanupStalePools cfg env).2 := by
  unfold cleanupStalePools
  split
  · exact .refl db
  · exact ⟨rfl, fun _ h => h⟩

theorem indexSwapActivity_kept (start current : UInt64) (db : AmmDb) :
    Kept db (db.indexSwapActivity H cfg env start current) := by
  unfold indexSwapActivity
  split
  · exact .refl db
  · exact ⟨rfl, ingestSwapEvents_kept _ _ _ _ _⟩

theorem scanEvents_kept (start current : UInt64) (db : AmmDb) :
    Kept db (db.scanEvents H cfg env start current).2 := by
  unfold scanEvents
  split
  · exact .refl db
  · exact (processPoolBatch_kept _ db).trans (indexSwapActivity_kept start current _)

theorem scanSince_kept (start : ℕ) (current : UInt64) (db : AmmDb) :
    Kept db (db.scanSince H cfg env start current).2 := by
  unfold scanSince
  split_ifs
  · exact .refl db
  · exact scanEvents_kept _ current db

variable {current : UInt64} {cursor : ℕ}

/-- An event of the page is ingested unless the batch ends before it. -/
theorem scanEvents_ingests (hok : (db.scanEvents H cfg env
      (UInt64.ofNat (startLedger cursor current.toNat)) current).1 = .ok ())
    (hparse : parseSwapEvent H event = .ok (some activity)) :
    ((db.scanEvents H cfg env (UInt64.ofNat (startLedger cursor current.toNat))
        current).2.swaps.lookup event.id).isSome = true ∨
      Missed H cfg env cursor current event := by
  unfold scanEvents at hok ⊢
  split at hok
  · cases hok
  · dsimp only
    unfold indexSwapActivity
    cases hevents : env.getEvents (UInt64.ofNat (startLedger cursor current.toNat)) current
        (swapFilter cfg) with
    | error e => exact .inr (.request e hevents)
    | ok events =>
      dsimp only
      by_cases hmem : event ∈ events
      · obtain ⟨k, hk⟩ := List.mem_iff_getElem?.mp hmem
        by_cases hends : ∃ i event', i ≤ k ∧ events[i]? = some event' ∧ EndsBatch H env i event'
        · obtain ⟨i, event', hle, hi, hends⟩ := hends
          exact .inr (.batch events i k event' hevents hk hle hi hends)
        · refine .inl (ingestSwapEvents_mem hk hparse ?_)
          intro i event' hle hi hbatch
          rw [Nat.zero_add] at hbatch
          exact hends ⟨i, event', hle, hi, hbatch⟩
      · exact .inr (.page events hevents hmem)

theorem scanSince_ingests
    (hok : (db.scanSince H cfg env (startLedger cursor current.toNat) current).1 = .ok ())
    (hparse : parseSwapEvent H event = .ok (some activity)) (hle : cursor ≤ event.ledger.toNat)
    (hlt : event.ledger.toNat < current.toNat) :
    ((db.scanSince H cfg env (startLedger cursor current.toNat) current).2.swaps.lookup
        event.id).isSome = true ∨ Missed H cfg env cursor current event := by
  by_cases hfresh : cursor = 0
  · exact .inr (.fresh hfresh)
  by_cases hold : event.ledger.toNat < current.toNat - MAX_EVENT_LOOKBACK
  · exact .inr (.lookback hold)
  -- the round starts at the event or before it
  have hstart : ¬ current.toNat ≤ startLedger cursor current.toNat := by
    rw [startLedger, if_neg hfresh]
    omega
  unfold scanSince at hok ⊢
  rw [if_neg hstart] at hok ⊢
  exact scanEvents_ingests hok hparse

theorem cursorLedger_congr (h : db'.cursor = db.cursor) : db'.cursorLedger = db.cursorLedger := by
  rw [cursorLedger, h, cursorLedger]

theorem loadDiscoveryCursor_spec (env : RoundEnv) (db : AmmDb) :
    (db.loadDiscoveryCursor env).2.cursorLedger = db.cursorLedger ∧
      (db.loadDiscoveryCursor env).2.swaps = db.swaps ∧
      ∀ text, (db.loadDiscoveryCursor env).1 = .ok text → parseCursor text = db.cursorLedger := by
  unfold loadDiscoveryCursor
  cases env.loadCursor with
  | error e => exact ⟨rfl, rfl, nofun⟩
  | ok _ =>
    dsimp only
    cases hcursor : db.cursor with
    | some row =>
      refine ⟨rfl, rfl, fun text htext => ?_⟩
      rw [← Except.ok.inj htext, cursorLedger, hcursor]
      rfl
    | none =>
      have hzero : db.cursorLedger = 0 := by
        rw [cursorLedger, hcursor]
        rfl
      have hparse : parseCursor "0" = 0 := by decide
      cases env.storeInitial with
      | error e => exact ⟨rfl, rfl, nofun⟩
      | ok _ =>
        refine ⟨?_, rfl, fun text htext => ?_⟩
        · rw [hzero]
          exact hparse
        · rw [← Except.ok.inj htext, hzero, hparse]

/-- The cursor is stored only when everything before has succeeded. -/
theorem finishRound_spec (cfg : AmmConfig) (env : RoundEnv) (current : UInt64)
    (scanned : Except IndexerError Unit × AmmDb) :
    SwapsKept scanned.2.swaps (finishRound cfg env current scanned).2.swaps ∧
      ((finishRound cfg env current scanned).2.cursor = scanned.2.cursor ∨
        scanned.1 = .ok () ∧
          (finishRound cfg env current scanned).2.cursorLedger = current.toNat) := by
  obtain ⟨result, db⟩ := scanned
  unfold finishRound
  cases result with
  | error e => exact ⟨fun _ h => h, .inl rfl⟩
  | ok _ =>
    have hrefresh : Kept db (db.refreshPools cfg env).2 := refreshPools_kept db
    simp only [andThen]
    generalize db.refreshPools cfg env = refreshed at hrefresh ⊢
    obtain ⟨result, db1⟩ := refreshed
    cases result with
    | error e => exact ⟨hrefresh.swaps, .inl hrefresh.cursor⟩
    | ok _ =>
      have hclean : Kept db (db1.cleanupStalePools cfg env).2 :=
        hrefresh.trans (cleanupStalePools_kept db1)
      dsimp only
      generalize db1.cleanupStalePools cfg env = cleaned at hclean ⊢
      obtain ⟨result, db2⟩ := cleaned
      cases result with
      | error e => exact ⟨hclean.swaps, .inl hclean.cursor⟩
      | ok _ =>
        dsimp only
        unfold storeDiscoveryCursor
        split
        · exact ⟨hclean.swaps, .inl hclean.cursor⟩
        · refine ⟨hclean.swaps, .inr ⟨trivial, ?_⟩⟩
          simp only [cursorLedger, map_some, getD_some, parseCursor, parseDecimal_toString current.toNat_lt]

theorem aggregateOnce_spec (H : ActivityHost) (cfg : AmmConfig) (env : RoundEnv) (db : AmmDb) :
    SwapsKept db.swaps (db.aggregateOnce H cfg env).2.swaps ∧
      ∀ event activity, parseSwapEvent H event = .ok (some activity) →
        db.cursorLedger ≤ event.ledger.toNat →
        event.ledger.toNat < (db.aggregateOnce H cfg env).2.cursorLedger →
        ((db.aggregateOnce H cfg env).2.swaps.lookup event.id).isSome = true ∨
          ∃ current, env.getLatestLedger = .ok current ∧
            Missed H cfg env db.cursorLedger current event := by
  unfold aggregateOnce
  cases hlatest : env.getLatestLedger with
  | error e =>
    refine ⟨fun _ h => h, fun event activity _ hle hlt => ?_⟩
    exact absurd hle (Nat.not_le.mpr hlt)
  | ok current =>
    obtain ⟨hcursor, hswaps, hread⟩ := loadDiscoveryCursor_spec env db
    dsimp only
    generalize db.loadDiscoveryCursor env = loaded at hcursor hswaps hread ⊢
    obtain ⟨result, db1⟩ := loaded
    dsimp only at hcursor hswaps hread
    cases result with
    | error e =>
      refine ⟨fun id hid => by rw [hswaps]; exact hid, fun event activity _ hle hlt => ?_⟩
      rw [hcursor] at hlt
      exact absurd hle (Nat.not_le.mpr hlt)
    | ok text =>
      dsimp only
      rw [hread text rfl, ← hswaps]
      have hscan : Kept db1 (db1.scanSince H cfg env
          (startLedger db.cursorLedger current.toNat) current).2 := scanSince_kept _ current db1
      obtain ⟨hfinish, hstored⟩ := finishRound_spec cfg env current
        (db1.scanSince H cfg env (startLedger db.cursorLedger current.toNat) current)
      refine ⟨fun id hid => hfinish id (hscan.swaps id hid), ?_⟩
      intro event activity hparse hle hlt
      rcases hstored with hstays | ⟨hok, hstored⟩
      · -- the cursor has not moved, so it has not passed the event
        rw [cursorLedger_congr (hstays.trans hscan.cursor), hcursor] at hlt
        omega
      · rw [hstored] at hlt
        rcases scanSince_ingests hok hparse hle hlt with hthere | hmissed
        · exact .inl (hfinish event.id hthere)
        · exact .inr ⟨current, rfl, hmissed⟩

/-! A run -/

/-- A round, whatever it returns: the loop logs an error and goes on. -/
def round (H : ActivityHost) (cfg : AmmConfig) (db : AmmDb) (env : RoundEnv) : AmmDb :=
  (db.aggregateOnce H cfg env).2

theorem rounds_kept (db : AmmDb) (rounds : List RoundEnv) :
    SwapsKept db.swaps (run (round H cfg) db rounds).swaps :=
  run_inv (P := fun db' => SwapsKept db.swaps db'.swaps)
    (fun db' env h id hid => (aggregateOnce_spec H cfg env db').1 id (h id hid)) rounds fun _ h => h

/-- An event that the cursor has passed is ingested, or the round that passed it has missed it. -/
theorem passed_event (H : ActivityHost) (cfg : AmmConfig) (rounds : List RoundEnv) (db : AmmDb)
    (event : SorobanEvent) (activity : SwapActivity)
    (hparse : parseSwapEvent H event = .ok (some activity))
    (hahead : db.cursorLedger ≤ event.ledger.toNat)
    (hpassed : event.ledger.toNat < (run (round H cfg) db rounds).cursorLedger) :
    ((run (round H cfg) db rounds).swaps.lookup event.id).isSome = true ∨
      ∃ before env after current, rounds = before ++ env :: after ∧
        (run (round H cfg) db before).cursorLedger ≤ event.ledger.toNat ∧
        event.ledger.toNat < (run (round H cfg) db (before ++ [env])).cursorLedger ∧
        env.getLatestLedger = .ok current ∧
        Missed H cfg env (run (round H cfg) db before).cursorLedger current event := by
  -- on the rounds, the first one first: it passes the event, or the event is still ahead
  induction rounds generalizing db with
  | nil => exact absurd hahead (Nat.not_le.mpr hpassed)
  | cons env rounds ih =>
    by_cases hfirst : event.ledger.toNat < (round H cfg db env).cursorLedger
    · rcases (aggregateOnce_spec H cfg env db).2 event activity hparse hahead hfirst with
        hthere | ⟨current, hlatest, hmissed⟩
      · exact .inl (rounds_kept (round H cfg db env) rounds event.id hthere)
      · exact .inr ⟨[], env, rounds, current, rfl, hahead, hfirst, hlatest, hmissed⟩
    · rcases ih (round H cfg db env) (Nat.not_lt.mp hfirst) hpassed with
        hthere | ⟨before, env', after, current, hrounds, hbefore, hafter, hlatest, hmissed⟩
      · exact .inl hthere
      · exact .inr ⟨env :: before, env', after, current, by rw [hrounds]; rfl, hbefore, hafter,
          hlatest, hmissed⟩

/-! Sample rounds -/

namespace Sample

/-- The payload of every event is the same. -/
def activityHost : ActivityHost where
  scVal := fun _ => .error "not XDR"
  json := fun _ => some (.object [("amount_in", .int 5), ("amount_out", .int 4), ("fee", .int 1)])
  parseRfc3339 := fun _ => none

def ammConfig : AmmConfig := ⟨"router", 3600, 50⟩

def swapEvent : SorobanEvent :=
  ⟨"contract", 105, "", "router", "105-1", "105-1", ["swap", "sender"], "", true⟩

/-- A round at the ledger 110 that is answered `events`, and in which everything else succeeds. -/
def ammRound (events : Except IndexerError (List SorobanEvent)) : RoundEnv where
  getLatestLedger := .ok 110
  loadCursor := .ok ()
  storeInitial := .ok ()
  getEvents := fun _ _ _ => events
  registryFirst := .ok []
  registrySecond := .ok []
  pool := fun _ => none
  insert := fun _ => .ok ()
  trackedPools := .ok ()
  cleanup := .ok ()
  now := 0
  storeCursor := .ok ()

def ammDb : AmmDb := ⟨some ⟨"100", some 100, "running"⟩, ∅, ∅⟩

end Sample

open Sample in
/-- A round that ingests an event and passes it. -/
theorem passed_event_ingested : ∃ activity,
    parseSwapEvent activityHost swapEvent = .ok (some activity) ∧
      (((run (round activityHost ammConfig) ammDb [ammRound (.ok [swapEvent])]).swaps.lookup
          swapEvent.id).isSome = true ∨
        ∃ before env after current, [ammRound (.ok [swapEvent])] = before ++ env :: after ∧
          (run (round activityHost ammConfig) ammDb before).cursorLedger ≤ swapEvent.ledger.toNat ∧
          swapEvent.ledger.toNat <
            (run (round activityHost ammConfig) ammDb (before ++ [env])).cursorLedger ∧
          env.getLatestLedger = .ok current ∧
          Missed activityHost ammConfig env
            (run (round activityHost ammConfig) ammDb before).cursorLedger current swapEvent) :=
  ⟨_, rfl, passed_event activityHost ammConfig [ammRound (.ok [swapEvent])] ammDb swapEvent _ rfl
    (by decide) (by decide)⟩

open Sample in
/-- A failed request: the cursor goes from 100 to 110, and an event of 105 is not stored. -/
theorem passed_event_lost : ∃ activity,
    parseSwapEvent activityHost swapEvent = .ok (some activity) ∧
    ammDb.cursorLedger ≤ swapEvent.ledger.toNat ∧
    swapEvent.ledger.toNat <
      (run (round activityHost ammConfig) ammDb [ammRound (.error (.sorobanRpc "timeout"))]).cursorLedger ∧
    (run (round activityHost ammConfig) ammDb
      [ammRound (.error (.sorobanRpc "timeout"))]).swaps.lookup swapEvent.id = none :=
  ⟨_, rfl, by decide, by decide, by decide⟩

end StellarRoute.Indexer
