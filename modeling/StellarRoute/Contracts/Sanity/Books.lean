import StellarRoute.Contracts.Sanity.Governance

/-! What an invocation does to the books of the router, which are the fee
accounts, the token calls made, the distributions announced and the rate limits,
and to the lifetimes of its entries. Swaps and distributions write the books and
nothing else does; lifetimes only grow, except where an entry is new or where
the time of the last extension is written. -/

namespace StellarRoute.Contracts

open Lib Governance List

variable {X : Type} {H : Host X} {auth : Auth} {c : Call} {w w' : World X}

/-- The distributions of `asset` so far, the oldest first. -/
def distributions (w : World X) (asset : Asset) : List DistributionRecord :=
  w.events.filterMap (Event.distribution asset)

structure BooksKept (w w' : World X) : Prop where
  fees : w'.fees = w.fees
  calls : w'.calls = w.calls
  distributions : ∀ asset, distributions w' asset = distributions w asset
  counts : w'.mev.accountSwapCount = w.mev.accountSwapCount
  starts : w'.mev.accountSwapWindowStart = w.mev.accountSwapWindowStart

/-- No entry that is there afterwards is new or ends earlier. -/
structure LivesKept (w w' : World X) : Prop where
  last : w'.ttl.lastTtlExtension = w.ttl.lastTtlExtension
  instance_ : w.ttl.instanceLiveUntil ≤ w'.ttl.instanceLiveUntil
  pools : ∀ p, w'.pools.supportedPool p = true →
    w.pools.supportedPool p = true ∧ w.ttl.poolLiveUntil p ≤ w'.ttl.poolLiveUntil p

structure Kept (w w' : World X) : Prop where
  books : BooksKept w w'
  lives : LivesKept w w'

theorem BooksKept.refl (w : World X) : BooksKept w w := ⟨rfl, rfl, fun _ => rfl, rfl, rfl⟩

variable {w1 w2 w3 : World X} {e : Event} {asset : Asset} {r : Ret} {action : ProposalAction}
  {id : UInt64} {amount : I128} {params : SwapParams} {sender : Address}

theorem BooksKept.trans (h : BooksKept w1 w2) (h' : BooksKept w2 w3) : BooksKept w1 w3 :=
  ⟨h'.fees.trans h.fees, h'.calls.trans h.calls,
    fun a => (h'.distributions a).trans (h.distributions a), h'.counts.trans h.counts,
    h'.starts.trans h.starts⟩

theorem LivesKept.refl (w : World X) : LivesKept w w := ⟨rfl, le_rfl, fun _ hp => ⟨hp, le_rfl⟩⟩

theorem LivesKept.trans (h : LivesKept w1 w2) (h' : LivesKept w2 w3) : LivesKept w1 w3 := by
  refine ⟨h'.last.trans h.last, h.instance_.trans h'.instance_, fun p hp => ?_⟩
  obtain ⟨hp2, hle2⟩ := h'.pools p hp
  obtain ⟨hp1, hle1⟩ := h.pools p hp2
  exact ⟨hp1, hle1.trans hle2⟩

theorem LivesKept.of_eq (httl : w'.ttl = w.ttl)
    (hpools : w'.pools.supportedPool = w.pools.supportedPool) : LivesKept w w' := by
  refine ⟨by rw [httl], by rw [httl], fun p hp => ?_⟩
  rw [hpools] at hp
  exact ⟨hp, by rw [httl]⟩

theorem Kept.refl (w : World X) : Kept w w := ⟨.refl w, .refl w⟩

theorem Kept.trans (h : Kept w1 w2) (h' : Kept w2 w3) : Kept w1 w3 :=
  ⟨h.books.trans h'.books, h.lives.trans h'.lives⟩

/-! Events and extensions -/

theorem distributions_append {es : List Event}
    (hes : ∀ e ∈ es, ∀ asset, Event.distribution asset e = none)
    (hevents : w'.events = w.events ++ es) (asset : Asset) :
    distributions w' asset = distributions w asset := by
  have hnil : es.filterMap (Event.distribution asset) = [] :=
    filterMap_eq_nil_iff.mpr fun e he => hes e he asset
  rw [distributions, hevents, filterMap_append, hnil, append_nil, distributions]

theorem Announces.kept (h : Announces w w') : Kept w w' := by
  obtain ⟨es, rfl, hes⟩ := h
  exact ⟨⟨rfl, rfl, distributions_append hes rfl, rfl, rfl⟩, .of_eq rfl rfl⟩

theorem emit_kept (he : ∀ asset, e.distribution asset = none) (w : World X) : Kept w (emit e w) :=
  (announces_emit he w).kept

theorem distributions_emit (he : ∀ asset, e.distribution asset = none) (w : World X) (asset : Asset) :
    distributions (emit e w) asset = distributions w asset := (emit_kept he w).books.distributions asset

theorem le_extendTtl (now : UInt32) (threshold extendTo liveUntil : ℕ) :
    liveUntil ≤ extendTtl H now threshold extendTo liveUntil := by
  unfold extendTtl
  split_ifs
  · exact le_max_left _ _
  · exact le_rfl

theorem extendInstanceTtl_kept (w : World X) : Kept w (extendInstanceTtl H w) :=
  ⟨⟨rfl, rfl, fun _ => rfl, rfl, rfl⟩, rfl, le_extendTtl .., fun _ hp => ⟨hp, le_rfl⟩⟩

theorem extendPoolEntry_livesKept (threshold extendTo : ℕ) (pool : Address) (w : World X) :
    LivesKept w (extendPoolEntry H threshold extendTo pool w) := by
  refine ⟨rfl, le_rfl, fun p hp => ⟨hp, ?_⟩⟩
  rw [extendPoolEntry]
  dsimp only
  rcases eq_or_ne p pool with rfl | hne
  · rw [Function.update_self]
    exact le_extendTtl ..
  · rw [Function.update_of_ne hne]

theorem extendPoolTtl_kept (pool : Address) (w : World X) : Kept w (extendPoolTtl H pool w) := by
  unfold extendPoolTtl
  split_ifs
  · exact ⟨⟨rfl, rfl, fun _ => rfl, rfl, rfl⟩, extendPoolEntry_livesKept ..⟩
  · exact .refl w

theorem foldl_extendPoolTtl_kept {α : Type} (f : α → Address) (l : List α) (w : World X) :
    Kept w (l.foldl (fun w a => extendPoolTtl H (f a) w) w) := by
  induction l generalizing w with
  | nil => exact .refl w
  | cons a l ih => exact (extendPoolTtl_kept (f a) w).trans (ih _)

variable {v u : World X} {caller signer target : Address} {ps : List Payout} {fee : I128}
  {s : SwapResult}

/-- The end of most entry points: an event and the extension of the instance. -/
theorem Kept.finish (hv : Kept w v) (he : ∀ asset, e.distribution asset = none) :
    Kept w (extendInstanceTtl H (emit e v)) :=
  (hv.trans (emit_kept he v)).trans (extendInstanceTtl_kept _)

/-- What books and lifetimes are read from. -/
def World.accounts (w : World X) :=
  (w.fees, w.calls, w.events, w.mev.accountSwapCount, w.mev.accountSwapWindowStart, w.ttl, w.pools)

theorem Kept.of_accounts (h : w'.accounts = w.accounts) : Kept w w' := by
  simp only [World.accounts, Prod.mk.injEq] at h
  obtain ⟨hfees, hcalls, hevents, hcounts, hstarts, httl, hpools⟩ := h
  refine ⟨⟨hfees, hcalls, fun asset => ?_, hcounts, hstarts⟩, .of_eq httl (by rw [hpools])⟩
  rw [distributions, hevents, distributions]

/-! The entry points that keep both -/

/-- The calls that write neither the books nor, without a proposal, a lifetime. -/
def Call.plain : Call → Bool
  | .migrateToMultisig .. | .setAdmin .. | .setFeeDistributionConfig .. | .pause .. | .unpause ..
  | .cancelProposal .. | .guardianPause .. | .proposeUpgrade .. | .executeUpgrade ..
  | .cancelUpgrade .. | .addToken .. | .removeToken .. | .updateToken .. | .addTokensBatch ..
  | .configureMev .. | .setWhitelist .. | .updateKnownPrice .. | .commitSwap .. => true
  | _ => false

theorem executeWasmUpgrade_kept {hash : Bytes32} (h : executeWasmUpgrade H hash w = .ok w') :
    Kept w w' := by
  simp only [executeWasmUpgrade, migrate, bind_eq_ok, pure_eq_ok] at h
  obtain ⟨-, -, -, -, -, -, rfl⟩ := h
  -- two events, with writes to the record of versions around them
  refine ⟨⟨rfl, rfl, fun asset => ?_, rfl, rfl⟩, .of_eq rfl rfl⟩
  exact (distributions_emit (fun _ => rfl) _ asset).trans (distributions_emit (fun _ => rfl) _ asset)

theorem addTokenInternal_kept {info : TokenInfo}
    (h : addTokenInternal H caller info w = .ok w') : Kept w w' := by
  simp only [addTokenInternal, pushCatEntry, bind_eq_ok, pure_eq_ok] at h
  obtain ⟨-, -, -, -, _, ⟨_, -, rfl⟩, _, -, rfl⟩ := h
  exact Kept.finish (.of_accounts rfl) fun _ => rfl

theorem removeTokenInternal_kept
    (h : removeTokenInternal H caller asset w = .ok w') : Kept w w' := by
  have hdrop : Kept w (extendInstanceTtl H (emit (.tokenRemoved asset caller) (dropToken asset w))) :=
    Kept.finish (.of_accounts rfl) fun _ => rfl
  cases asset with
  | soroban token =>
    simp only [removeTokenInternal, bind_eq_ok, pure_eq_ok] at h
    obtain ⟨-, -, -, -, rfl⟩ := h
    exact hdrop
  | native | issued issuer code =>
    simp only [removeTokenInternal, bind_eq_ok, pure_eq_ok] at h
    obtain ⟨-, -, rfl⟩ := h
    exact hdrop

theorem invoke_kept (hc : c.plain = true) (h : invoke H auth c w = .ok (r, w')) : Kept w w' := by
  cases c <;> simp only [Call.plain, Bool.false_eq_true] at hc <;>
    simp only [invoke, noRet_eq_ok] at h <;> obtain ⟨-, h⟩ := h
  case setAdmin | pause | unpause | cancelProposal | guardianPause | proposeUpgrade | cancelUpgrade
      | updateToken =>
    refine (?_ : Yields _ _) _ h
    repeat refine yields_bind fun _ => ?_
    exact yields_pure (Kept.finish (.of_accounts rfl) fun _ => rfl)
  case setFeeDistributionConfig | configureMev | setWhitelist | updateKnownPrice =>
    -- no event here
    refine (?_ : Yields _ _) _ h
    repeat refine yields_bind fun _ => ?_
    refine yields_pure (Kept.trans ?_ (extendInstanceTtl_kept _))
    exact .of_accounts rfl
  case migrateToMultisig =>
    simp only [migrateToMultisig, bind_eq_ok, pure_eq_ok] at h
    obtain ⟨-, -, -, -, -, -, -, -, v, hv, rfl⟩ := h
    refine Kept.finish (Kept.trans ?_ (.of_accounts rfl)) fun _ => rfl
    simp only [initGovernance, bind_eq_ok] at hv
    obtain ⟨-, -, -, -, -, -, -, -, -, -, hv⟩ := hv
    split at hv
    all_goals rw [← pure_eq_ok.mp hv]
    · exact Kept.trans (emit_kept (fun _ => rfl) _) (.of_accounts rfl)
    · exact .of_accounts rfl
  case executeUpgrade =>
    simp only [executeUpgrade, bind_eq_ok, pure_eq_ok] at h
    obtain ⟨-, -, -, -, -, -, p, -, -, -, -, -, v, hv, rfl⟩ := h
    have hset : Kept w (setPendingUpgrade none w) := .of_accounts rfl
    exact (hset.trans (executeWasmUpgrade_kept hv)).trans (extendInstanceTtl_kept v)
  case addToken =>
    simp only [addToken, bind_eq_ok] at h
    obtain ⟨-, -, h⟩ := h
    exact addTokenInternal_kept h
  case removeToken =>
    simp only [removeToken, bind_eq_ok] at h
    obtain ⟨-, -, h⟩ := h
    exact removeTokenInternal_kept h
  case addTokensBatch caller tokens =>
    simp only [addTokensBatch, bind_eq_ok] at h
    obtain ⟨-, -, -, -, h⟩ := h
    exact foldlM_inv (P := Kept w) tokens
      (fun _ _ _ _ hb hstep => hb.trans (addTokenInternal_kept hstep)) (.refl w) h
  case commitSwap =>
    simp only [commitSwap, setCommitment, bind_eq_ok, pure_eq_ok] at h
    obtain ⟨-, -, -, -, -, -, -, -, mev, -, _, ⟨t, -, rfl⟩, rfl⟩ := h
    exact Kept.finish (.of_accounts rfl) fun _ => rfl

/-! Executions of proposals -/

theorem dispatchAction_kept (h : dispatchAction H action w = .ok w')
    (haction : ∀ pool poolType, action ≠ .registerPool pool poolType) : Kept w w' := by
  cases action
  case upgrade => exact executeWasmUpgrade_kept h
  case registerPool pool poolType => exact absurd rfl (haction pool poolType)
  case deregisterPool pool =>
    rw [← pure_eq_ok.mp h]
    refine ⟨⟨rfl, rfl, fun _ => rfl, rfl, rfl⟩, rfl, le_rfl, fun p hp => ?_⟩
    rcases eq_or_ne p pool with rfl | hne
    · simp at hp
    · exact ⟨by simpa [hne] using hp, le_rfl⟩
  case pause | unpause =>
    rw [← pure_eq_ok.mp h]
    refine Kept.trans ?_ (emit_kept (fun _ => rfl) _)
    exact .of_accounts rfl
  all_goals
    refine (?_ : Yields _ _) _ h
    repeat refine yields_bind fun _ => ?_
    exact yields_pure (.of_accounts rfl)

theorem dispatch_registerPool_eq_ok {pool : Address} {poolType : PoolType}
    (h : dispatchAction H (.registerPool pool poolType) w = .ok w') :
    BooksKept w w' ∧ w'.pools.supportedPool = Function.update w.pools.supportedPool pool true ∧
      w'.ttl = (extendPoolEntry H 17280 (17280 * 30) pool (setSupportedPool H pool w)).ttl := by
  simp only [dispatchAction, bind_eq_ok, pure_eq_ok] at h
  obtain ⟨count, -, rfl⟩ := h
  exact ⟨⟨rfl, rfl, distributions_emit (fun _ => rfl) _, rfl, rfl⟩, rfl, rfl⟩

theorem dispatchAction_booksKept (h : dispatchAction H action w = .ok w') : BooksKept w w' := by
  by_cases haction : ∃ pool poolType, action = .registerPool pool poolType
  · obtain ⟨pool, poolType, rfl⟩ := haction
    exact (dispatch_registerPool_eq_ok h).1
  · exact (dispatchAction_kept h fun pool poolType heq => haction ⟨pool, poolType, heq⟩).books

/-- The call executes the proposal `p` that `fires` names: its action leads from
`v` to `u`, and what comes before and after keeps books and lifetimes. -/
structure Dispatched (H : Host X) (auth : Auth) (c : Call) (w w' : World X) (p : Proposal)
    (v u : World X) : Prop where
  fires : fires auth c w = some p
  dispatch : dispatchAction H p.action v = .ok u
  before : Kept w v
  ttl : v.ttl = w.ttl
  pools : v.pools = w.pools
  ledger : v.ledger = w.ledger
  after : Kept u w'

theorem Proceeds.dispatched {p : Proposal} (h : Proceeds H auth c w w' p v u) :
    Kept w w' ∨ ∃ p v u, Dispatched H auth c w w' p v u := by
  have hkept : Kept w v := by
    refine Kept.trans ?_ h.event.kept
    exact .of_accounts rfl
  have hafter : Kept u w' := by
    rcases h.final with rfl | rfl
    · exact .refl _
    · exact extendInstanceTtl_kept u
  rcases h.fires with ⟨-, rfl⟩ | ⟨hsome, hexec⟩
  · exact .inl (hkept.trans hafter)
  · obtain ⟨p', config, u', hp, hexecutes, rfl⟩ := governance_executeProposal_eq_ok hexec
    obtain rfl : p = p' := Option.some.inj (h.stored.symm.trans hp)
    have hend := (Kept.finish (H := H) (.refl u') fun _ => rfl).trans hafter
    refine .inr ⟨p, marked p config v, u', hsome, hexecutes.dispatch,
      hkept.trans (.of_accounts rfl), ?_, ?_, ?_, hend⟩
    all_goals
      obtain ⟨es, hv, -⟩ := h.event
      rw [hv]
      rfl

/-- The entry points that can execute a proposal. -/
def Call.governs : Call → Bool
  | .propose .. | .approveProposal .. | .executeProposal _ => true
  | _ => false

theorem invoke_dispatched (hkey : w.gov.Keyed) (hc : c.governs = true)
    (h : invoke H auth c w = .ok (r, w')) :
    Kept w w' ∨ ∃ p v u, Dispatched H auth c w w' p v u := by
  cases c <;> simp only [Call.governs, Bool.false_eq_true] at hc
  case propose =>
    simp only [invoke, bind_eq_ok, pure_eq_ok, Prod.mk.injEq, Prod.exists] at h
    obtain ⟨id, v, hv, -, rfl⟩ := h
    obtain ⟨p, v, u, hp⟩ := propose_proceeds hv
    exact hp.dispatched
  case approveProposal signer id =>
    obtain ⟨p, v, u, hp⟩ := approveProposal_proceeds hkey (noRet_eq_ok.mp h).2
    exact hp.dispatched
  case executeProposal id =>
    obtain ⟨p, v, u, hp⟩ := executeProposal_proceeds hkey (noRet_eq_ok.mp h).2
    exact hp.dispatched

theorem Dispatched.books {p : Proposal} (h : Dispatched H auth c w w' p v u) : BooksKept w w' :=
  (h.before.books.trans (dispatchAction_booksKept h.dispatch)).trans h.after.books

/-! The books, apart from swaps and distributions -/

/-- The account that swaps and what it asks for. -/
def Call.swap : Call → Option (Address × SwapParams)
  | .revealAndExecute sender params _ => some (sender, params)
  | .executeSwap sender params => some (sender, params)
  | .execute sender params => some (sender, params)
  | _ => none

theorem extendStorageTtl_booksKept (w : World X) : BooksKept w (extendStorageTtl H w) := by
  have hpools := foldl_extendPoolTtl_kept (H := H) id w.pools.poolList (extendInstanceTtl H w)
  have hbefore := (extendInstanceTtl_kept (H := H) w).books.trans hpools.books
  exact hbefore.trans ⟨rfl, rfl, distributions_emit (fun _ => rfl) _, rfl, rfl⟩

theorem invoke_booksKept (hkey : w.gov.Keyed) (hswap : c.swap = none)
    (hdist : ∀ asset, c ≠ .distributeFees asset) (h : invoke H auth c w = .ok (r, w')) :
    BooksKept w w' := by
  by_cases hplain : c.plain = true
  · exact (invoke_kept hplain h).books
  by_cases hgoverns : c.governs = true
  · rcases invoke_dispatched hkey hgoverns h with hkept | ⟨p, v, u, hd⟩
    · exact hkept.books
    · exact hd.books
  · cases c <;> simp only [Call.plain, not_true_eq_false] at hplain <;>
      simp only [Call.governs, not_true_eq_false] at hgoverns <;>
      simp only [Call.swap, reduceCtorEq] at hswap
    case initializeRouter =>
      simp only [invoke, noRet_eq_ok, initializeRouter, bind_eq_ok, pure_eq_ok] at h
      obtain ⟨-, -, -, -, -, -, -, rfl⟩ := h
      exact ⟨rfl, rfl, distributions_emit (fun _ => rfl) _, rfl, rfl⟩
    case distributeFees asset => exact absurd rfl (hdist asset)
    case registerPool pool =>
      simp only [invoke, noRet_eq_ok, registerPool, bind_eq_ok, pure_eq_ok] at h
      obtain ⟨-, -, -, -, -, -, -, -, -, -, -, count, -, rfl⟩ := h
      have hset : BooksKept w (setSupportedPool H pool w) := ⟨rfl, rfl, fun _ => rfl, rfl, rfl⟩
      have hv := hset.trans (extendPoolTtl_kept (H := H) pool _).books
      generalize extendPoolTtl H pool (setSupportedPool H pool w) = v at hv
      exact hv.trans ⟨rfl, rfl, distributions_emit (fun _ => rfl) _, rfl, rfl⟩
    case extendStorageTtl =>
      simp only [invoke, pure_eq_ok, Prod.mk.injEq] at h
      exact h.2 ▸ extendStorageTtl_booksKept w

/-! Distributions -/

/-- The router pays out: its calls are its own, and of the fee accounts only the
burned total can change. -/
structure Paid (H : Host X) (w w' : World X) : Prop where
  ledger : w'.ledger = w.ledger
  config : w'.config = w.config
  pools : w'.pools = w.pools
  mev : w'.mev = w.mev
  ttl : w'.ttl = w.ttl
  balance : w'.fees.feeBalance = w.fees.feeBalance
  collected : w'.fees.totalFeesCollected = w.fees.totalFeesCollected
  history : w'.fees.distributionHistory = w.fees.distributionHistory
  distributions : ∀ asset, distributions w' asset = distributions w asset
  calls : ∃ cs, w'.calls = w.calls ++ cs ∧ ∀ call ∈ cs, call.source = H.contract

theorem Paid.refl (w : World X) : Paid H w w :=
  ⟨rfl, rfl, rfl, rfl, rfl, rfl, rfl, rfl, fun _ => rfl, [], (append_nil _).symm,
      forall_mem_nil _⟩

theorem Paid.trans (h : Paid H w1 w2) (h' : Paid H w2 w3) : Paid H w1 w3 := by
  obtain ⟨cs, hcs, hsource⟩ := h.calls
  obtain ⟨cs', hcs', hsource'⟩ := h'.calls
  refine ⟨h'.ledger.trans h.ledger, h'.config.trans h.config, h'.pools.trans h.pools,
    h'.mev.trans h.mev, h'.ttl.trans h.ttl, h'.balance.trans h.balance,
    h'.collected.trans h.collected, h'.history.trans h.history,
    fun a => (h'.distributions a).trans (h.distributions a), cs ++ cs', ?_, fun call hcall => ?_⟩
  · rw [hcs', hcs, append_assoc]
  · rcases mem_append.mp hcall with hcall | hcall
    · exact hsource call hcall
    · exact hsource' call hcall

theorem payRecipient_paid {r : FeeRecipient} {call : Option TokenCall}
    (h : payRecipient H asset r amount w = .ok (call, w')) : Paid H w w' := by
  rcases payRecipient_cases h with ⟨-, x, rfl⟩ | ⟨-, x, es, cs, rfl, hes, hcs, -⟩
  · exact ⟨rfl, rfl, rfl, rfl, rfl, rfl, rfl, rfl, fun _ => rfl, _, rfl,
      fun _ hcall => source_of_mem_assetCalls hcall⟩
  · have hquiet : ∀ e ∈ es, ∀ a, Event.distribution a e = none := fun e he a => by rw [hes e he]; rfl
    exact ⟨rfl, rfl, rfl, rfl, rfl, rfl, rfl, rfl, distributions_append hquiet rfl, cs, rfl, hcs⟩

theorem payRecipients_paid {total : I128} {dust i : ℕ} {remaining : I128} {rs : List FeeRecipient}
    (h : payRecipients H asset total dust i remaining rs w = .ok (ps, w')) : Paid H w w' :=
  payRecipients_inv (P := Paid H w)
    (fun _ _ _ _ _ _ _ hw hpay => hw.trans (payRecipient_paid hpay)) (.refl w) h

/-- What the collection of a fee does besides to the fee accounts. -/
structure Collected (H : Host X) (w w' : World X) : Prop where
  mev : w'.mev = w.mev
  pools : w'.pools = w.pools
  ttl : w'.ttl = w.ttl
  calls : ∃ cs, w'.calls = w.calls ++ cs ∧ ∀ call ∈ cs, call.source = H.contract

theorem Collected.refl (w : World X) : Collected H w w :=
  ⟨rfl, rfl, rfl, [], (append_nil _).symm, forall_mem_nil _⟩

theorem distributeFeesInternal_collected {config : FeeConfig}
    (h : distributeFeesInternal H asset config w = .ok (ps, w')) : Collected H w w' := by
  rcases distributeFeesInternal_cases h with ⟨-, rfl⟩ | ⟨v, hv, rfl⟩
  · exact .refl w'
  · have hpaid := payRecipients_paid hv
    exact ⟨hpaid.mev, hpaid.pools, hpaid.ttl, hpaid.calls⟩

theorem collectFee_rest (h : collectFee H asset fee w = .ok w') : Collected H w w' := by
  rcases collectFee_cases h with ⟨-, rfl⟩ | ⟨-, rfl | ⟨config, ps, -, -, hdist⟩⟩
  · exact .refl w'
  · exact ⟨rfl, rfl, rfl, [], (append_nil _).symm, forall_mem_nil _⟩
  · have hrest := distributeFeesInternal_collected hdist
    exact ⟨hrest.mev, hrest.pools, hrest.ttl, hrest.calls⟩

/-! Swaps -/

/-- Up to `v` the limits of the sender are written and the calls `cs` made, and
nothing else is done to the books. -/
structure Moved (mev : Mev) (cs : List TokenCall) (w v : World X) : Prop where
  mev : v.mev = mev
  fees : v.fees = w.fees
  calls : v.calls = w.calls ++ cs
  distributions : ∀ asset, distributions v asset = distributions w asset
  config : v.config = w.config
  pools : v.pools = w.pools
  ledger : v.ledger = w.ledger
  ttl : v.ttl = w.ttl

/-- A swap from `w` to `w'` with result `s`: the rate limit leads to `w1`, the
transfers of input and output to `v`, the collection of the fee to `u`. -/
structure Swapped (H : Host X) (sender : Address) (params : SwapParams) (s : SwapResult)
    (w w' w1 : World X) (first last : RouteHop) (fee : I128) (v u : World X) : Prop where
  rate : rateLimit H sender w = .ok w1
  head : params.route.hops.head? = some first
  getLast : params.route.hops.getLast? = some last
  moved : Moved w1.mev (assetCalls first.source sender first.pool params.amountIn ++
    assetCalls last.destination H.contract params.recipient s.amountOut) w v
  collect : collectFee H last.destination fee v = .ok u
  after : Kept u w'

/-- The hops of the swap start in `w2` and come to `amount`. -/
structure Hopped (H : Host X) (sender : Address) (params : SwapParams) (s : SwapResult)
    (w w1 : World X) (first : RouteHop) (fee : I128) (w2 : World X) (amount : I128) : Prop where
  paid : transferAsset H first.source sender first.pool params.amountIn
    { w1 with ext := (snapshotReserves H params.route.hops w1.ext).2 } = .ok w2
  hops : ∃ impact y, swapHops H params.route.hops params.amountIn 0 w2.ext =
    .ok (amount, impact, y) ∧ slippageGuards params impact s.amountOut = .ok ()
  split : splitFee w.config.feeRate amount = .ok (fee, s.amountOut)

theorem executeSwapInternal_hopped (h : executeSwapInternal H auth sender params w = .ok (s, w')) :
    ∃ w1 first last fee v u w2 amount, Swapped H sender params s w w' w1 first last fee v u ∧
      Hopped H sender params s w w1 first fee w2 amount ∧ ∃ ledger, w'.events.getLast? =
        some (.swapExecuted sender params.amountIn s.amountOut fee params.route ledger) := by
  simp only [executeSwapInternal, bind_eq_ok, okOr_eq_ok, pure_eq_ok, Prod.mk.injEq,
    Prod.exists] at h
  obtain ⟨-, -, w1, h1, first, hfirst, last, hlast, w2, h2, amount, impact, x, hhops, fee, out,
    hsplit, _, hguards, x', -, w3, h3, w4, h4, w5, h5, rfl, rfl⟩ := h
  refine ⟨w1, first, last, fee, w3, w4, w2, amount,
    ⟨h1, hfirst, hlast, ?moved, h4, ?after⟩, ⟨h2, ⟨impact, x, hhops, hguards⟩, ?split⟩, ?event⟩
  case event => exact ⟨_, getLast?_concat⟩
  case split =>
    obtain ⟨mev, rfl, -⟩ := rateLimit_eq_ok h1
    rw [← (transferAsset_touches h2).config (by simp)]
    exact hsplit
  case after =>
    -- the nonce, the volume, the pool entries and the instance
    simp only [incrementNonce, bind_eq_ok, pure_eq_ok] at h5
    obtain ⟨next, -, rfl⟩ := h5
    have husage : Kept w4 (addSwapVolume params.amountIn
        { w4 with usage.swapNonce := Function.update w4.usage.swapNonce sender next }) :=
      .of_accounts rfl
    have hpools := husage.trans
      (foldl_extendPoolTtl_kept (H := H) RouteHop.pool params.route.hops _)
    exact ((hpools.trans (extendInstanceTtl_kept _)).trans (checkTtlHealth_announces _).kept).trans
      (emit_kept (fun _ => rfl) _)
  case moved =>
    obtain ⟨mev, rfl, -⟩ := rateLimit_eq_ok h1
    obtain ⟨y, rfl⟩ := transferAsset_eq_ok h2
    obtain ⟨z, rfl⟩ := transferAsset_eq_ok h3
    obtain ⟨es, hes, hquiet⟩ := noteImpact_announces sender impact params.amountIn
      { w with mev := mev, ext := x',
               calls := w.calls ++ assetCalls first.source sender first.pool params.amountIn }
    dsimp only
    rw [hes]
    exact ⟨rfl, rfl, append_assoc _ _ _, distributions_append hquiet rfl, rfl, rfl, rfl, rfl⟩

theorem executeSwapInternal_swapped (h : executeSwapInternal H auth sender params w = .ok (s, w')) :
    ∃ w1 first last fee v u, Swapped H sender params s w w' w1 first last fee v u := by
  obtain ⟨w1, first, last, fee, v, u, -, -, hs, -, -⟩ := executeSwapInternal_hopped h
  exact ⟨w1, first, last, fee, v, u, hs⟩

theorem Swapped.rates {first last : RouteHop}
    (h : Swapped H sender params s w w' w1 first last fee v u) :
    w'.mev.accountSwapCount = w1.mev.accountSwapCount ∧
      w'.mev.accountSwapWindowStart = w1.mev.accountSwapWindowStart := by
  have hmev : u.mev = w1.mev := (collectFee_rest h.collect).mev.trans h.moved.mev
  exact ⟨by rw [h.after.books.counts, hmev], by rw [h.after.books.starts, hmev]⟩

/-- The state in which the entry points start the swap: a request or a reveal
has been announced and a commitment may be used up. -/
def swapStart (es : List Event) (commitment : Bytes32 → Option (Temp CommitmentData)) (w : World X) :
    World X :=
  { w with events := w.events ++ es, mev.commitment := commitment }

theorem invoke_swap_eq_ok (hc : c.swap = some (sender, params))
    (h : invoke H auth c w = .ok (r, w')) :
    ∃ s es commitment, r = .swapped s ∧ (∀ e ∈ es, ∀ asset, Event.distribution asset e = none) ∧
      executeSwapInternal H auth sender params (swapStart es commitment w) = .ok (s, w') := by
  cases c <;> simp only [Call.swap, reduceCtorEq, Option.some.injEq, Prod.mk.injEq] at hc <;>
    obtain ⟨rfl, rfl⟩ := hc <;> simp only [invoke, swapRet_eq_ok] at h <;> obtain ⟨s, rfl, h⟩ := h
  case revealAndExecute =>
    simp only [revealAndExecute, bind_eq_ok] at h
    obtain ⟨-, -, -, -, d, -, -, -, -, -, h⟩ := h
    refine ⟨s, _, _, rfl, fun e he => ?_, h⟩
    rw [mem_singleton.mp he]
    exact fun _ => rfl
  case executeSwap =>
    simp only [executeSwap, bind_eq_ok] at h
    obtain ⟨-, -, -, -, -, -, -, -, h⟩ := h
    refine ⟨s, [], w.mev.commitment, rfl, forall_mem_nil _, ?_⟩
    rw [swapStart, append_nil]
    exact h
  case execute =>
    simp only [execute, executeSwap, bind_eq_ok] at h
    obtain ⟨-, -, -, -, -, -, -, -, h⟩ := h
    refine ⟨s, _, _, rfl, fun e he => ?_, h⟩
    rw [mem_singleton.mp he]
    exact fun _ => rfl

theorem invoke_ratesKept (hkey : w.gov.Keyed) (hswap : c.swap = none)
    (h : invoke H auth c w = .ok (r, w')) :
    w'.mev.accountSwapCount = w.mev.accountSwapCount ∧
      w'.mev.accountSwapWindowStart = w.mev.accountSwapWindowStart := by
  by_cases hdist : ∃ asset, c = .distributeFees asset
  · obtain ⟨asset, rfl⟩ := hdist
    simp only [invoke, noRet_eq_ok, distributeFees, bind_eq_ok, pure_eq_ok, Prod.exists] at h
    obtain ⟨-, config, -, ps, v, hv, rfl⟩ := h
    rw [(distributeFeesInternal_collected hv).mev]
    exact ⟨rfl, rfl⟩
  · have hkept := invoke_booksKept hkey hswap (fun asset hc => hdist ⟨asset, hc⟩) h
    exact ⟨hkept.counts, hkept.starts⟩

end StellarRoute.Contracts
