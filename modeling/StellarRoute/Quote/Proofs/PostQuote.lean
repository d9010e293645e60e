import StellarRoute.Lib.Tally
import StellarRoute.Lib.Threads
import StellarRoute.Quote.Proofs.CacheKeys
import StellarRoute.Quote.Spec.PostQuote

/-! Whether a quote is computed once for an `Idempotency-Key`. Nothing marks a
key as being worked on between its lookup and the record of an answer, and
nothing is recorded when the pipeline fails: two requests that overlap both run
the pipeline, and so does one that is sent again after a failure. Where neither
happens, one run of the pipeline answers all. -/

namespace StellarRoute.Quote.PostQuote

open Lib Lib.Interleave List AList Option

abbrev PostEvent (Quote : Type) := Event (PostEnv Quote) DedupeLedger PostOp

abbrev PostPool (Quote : Type) :=
  Pool (PostEnv Quote) DedupeLedger PostOp (PostOp.Res Quote) PostCall (PostOut Quote)

abbrev PostThread (Quote : Type) :=
  Thread (PostEnv Quote) DedupeLedger PostOp (PostOp.Res Quote) PostCall (PostOut Quote)

abbrev PostChoice (Quote : Type) := Choice (PostEnv Quote) PostCall

variable {Quote : Type} (ops : TextOps) (serde : Serde Quote) (k : String) (q : Quote)
  (L : List (PostEvent Quote)) (p : PostPool Quote) (c : PostChoice Quote)

/-- The key of the ledger that the request looks up and records under. -/
def ledgerKey : PostCall → Option String
  | .postQuote _ (some raw) _ =>
    match normaliseKey ops raw with
    | .ok key => some ((identityOf key).canonicalKey ops)
    | .error _ => none
  | _ => none

/-! ### What a request does -/

def Missed : Prop :=
  ∃ env ledger, L = [⟨env, ledger, .lookup k⟩] ∧ ledger.lookup k env.now = none

def Quoted : Prop :=
  ∃ env ledger base quote params L', L = ⟨env, ledger, .getQuoteInner base quote params⟩ :: L' ∧
    env.quote = .ok q ∧ Missed k L'

def Timed : Prop :=
  ∃ env ledger L', L = ⟨env, ledger, .readClock⟩ :: L' ∧ Quoted k q L'

def Stored : Prop :=
  ∃ env ledger entry L', L = ⟨env, ledger, .insert k entry⟩ :: L' ∧
    serde.toVec q = .ok entry.responseBytes ∧ Timed k q L'

def Replayed : Prop :=
  ∃ env ledger cached, L = [⟨env, ledger, .lookup k⟩] ∧
    ledger.lookup k env.now = some cached ∧ serde.fromSlice cached = .ok q

/-- The pipeline has not answered with a quote. -/
def Unquoted : Prop :=
  ∀ e ∈ L, ∀ base quote params, e.op = .getQuoteInner base quote params → ∀ q, e.env.quote ≠ .ok q

/-- What a request under the key `k` has done when it performs an operation. -/
def Rule (call : PostCall) (L : List (PostEvent Quote)) : PostOp → Prop
  | .lookup key => ledgerKey ops call = some key ∧ L = []
  | .getQuoteInner _ _ _ => ∀ k, ledgerKey ops call = some k → Missed k L
  | .readClock => ∃ k q bytes, ledgerKey ops call = some k ∧ serde.toVec q = .ok bytes ∧
    Quoted k q L
  | .insert key entry => ledgerKey ops call = some key ∧ ∃ q,
    serde.toVec q = .ok entry.responseBytes ∧ Timed key q L
  | .cleanup => ledgerKey ops call = none

def Post (call : PostCall) (out : PostOut Quote) (L : List (PostEvent Quote)) : Prop :=
  ∀ k, ledgerKey ops call = some k →
    match out with
    | .ok none => False
    | .ok (some response) => Replayed serde k response.data L ∨ Stored serde k response.data L ∨
      Quoted k response.data L ∧ ∃ e, serde.toVec response.data = .error e
    | .error _ => L ≠ [] ∧ Unquoted L

/-! ### Requests one at a time -/

def runsPipeline : PostOp → Bool
  | .getQuoteInner _ _ _ => true
  | _ => false

/-- How often requests under the key have run the pipeline. -/
def pipelineRuns : ℕ :=
  p.count fun call e => ledgerKey ops call = some k && runsPipeline e.op

/-- What is recorded under the key has not expired. -/
def WithinLifetime : Prop :=
  ∀ x ∈ p.next c, ∀ entry ∈ AList.lookup k p.state, entry.isExpired x.2.env.now = false

/-- The pipeline answers with a quote, and the quote is read back as it was written. -/
def Answers (env : PostEnv Quote) : Prop :=
  ∃ q, env.quote = .ok q ∧ (serde.toVec q >>= serde.fromSlice) = .ok q

/-- Whenever a request under the key runs the pipeline, it is answered. -/
def PipelineAnswers : Prop :=
  ∀ x ∈ p.next c, ledgerKey ops x.1 = some k → runsPipeline x.2.op → Answers serde x.2.env

/-- Requests under the key do not overlap, and the pipeline serves them. -/
structure Serves : Prop where
  within : WithinLifetime k p c
  alone : p.BeginsAlone (fun call => ledgerKey ops call = some k) c
  answers : PipelineAnswers ops serde k p c

structure Once : Prop where
  sound : p.Sound exec (Rule ops serde) (Post ops serde)
  exclusive : p.Exclusive fun call => ledgerKey ops call = some k
  answers : ∀ th ∈ p.threads, ledgerKey ops th.call = some k → ∀ e ∈ th.trace,
    runsPipeline e.op → Answers serde e.env
  /-- while a request is in progress nothing is recorded, and only it has run the pipeline -/
  pending : ∀ th ∈ p.threads, ledgerKey ops th.call = some k → th.InProgress →
    AList.lookup k p.state = none ∧
      pipelineRuns ops k p = th.trace.countP fun e => runsPipeline e.op
  unanswered : AList.lookup k p.state = none →
    (∀ th ∈ p.threads, ledgerKey ops th.call = some k → ∀ response, th.prog ≠ .ret (.ok response)) ∧
      ((∀ th ∈ p.threads, ledgerKey ops th.call = some k → ¬ th.InProgress) →
        pipelineRuns ops k p = 0)
  answered : ∀ entry, AList.lookup k p.state = some entry → pipelineRuns ops k p ≤ 1 ∧
    ∃ q, serde.fromSlice entry.responseBytes = .ok q ∧ ∀ th ∈ p.threads,
      ledgerKey ops th.call = some k → ∀ response, th.prog = .ret (.ok (some response)) →
        response.data = q

variable {ops serde k q L p c} {ttlVar : Option ℕ}

/-! ### One request -/

theorem Missed.ne_nil (h : Missed k L) : L ≠ [] := by
  obtain ⟨env, ledger, rfl, -⟩ := h
  simp

theorem Missed.unquoted (h : Missed k L) : Unquoted L := by
  obtain ⟨env, ledger, rfl, -⟩ := h
  intro e he base quote params hop
  simp [mem_singleton.mp he] at hop

variable {body : PostQuoteRequest} {call : PostCall} {requestId : String}

theorem respond_holds {key : Option String} {L : List (PostEvent Quote)}
    (hkey : ledgerKey ops call = key.map fun key => (identityOf key).canonicalKey ops)
    (hL : ∀ k, ledgerKey ops call = some k → Missed k L) :
    (some <$> respond ops serde ttlVar requestId key body none).run.Holds exec
        (Rule ops serde call) (Post ops serde call) L := by
  unfold respond
  unfold computeQuote
  cases hbase : AssetPath.parse body.base with
  | error e => exact fun k hk => ⟨(hL k hk).ne_nil, (hL k hk).unquoted⟩
  | ok base =>
    cases hquote : AssetPath.parse body.quote with
    | error e => exact fun k hk => ⟨(hL k hk).ne_nil, (hL k hk).unquoted⟩
    | ok quote =>
      refine ⟨hL, fun env ledger => ?_⟩
      cases henv : env.quote with
      | error e =>
        simp only [exec, henv]
        refine fun k hk => ⟨cons_ne_nil _ _, fun e' he' base' quote' params' hop q => ?_⟩
        rcases mem_cons.mp he' with rfl | he'
        · simp [henv]
        · exact (hL k hk).unquoted e' he' base' quote' params' hop q
      | ok q =>
        have hquoted : ∀ k, ledgerKey ops call = some k → Quoted k q
            (⟨env, ledger, .getQuoteInner base quote (paramsOf body)⟩ :: L) :=
          fun k hk => ⟨env, ledger, base, quote, _, L, rfl, henv, hL k hk⟩
        simp only [exec, henv]
        change (some <$> ((store ops serde ttlVar q key >>= fun _ => pure q) >>= fun quote =>
          pure ⟨requestId, quote⟩) : PostM Quote (Option (ApiResponse Quote))).run.Holds _ _ _ _
        cases key with
        | none => exact fun k hk => nomatch hkey.symm.trans hk
        | some key =>
          have hquoted := hquoted _ hkey
          unfold store
          cases hbytes : serde.toVec q with
          | error e =>
            intro k hk
            rw [mem_unique hk hkey]
            exact .inr (.inr ⟨hquoted, e, hbytes⟩)
          | ok bytes =>
            refine ⟨⟨_, q, bytes, hkey, hbytes, hquoted⟩, fun env2 ledger2 => ?_⟩
            refine ⟨⟨hkey, q, hbytes, env2, ledger2, _, rfl, hquoted⟩, fun env3 ledger3 k hk => ?_⟩
            rw [mem_unique hk hkey]
            exact .inr (.inl ⟨env3, ledger3, _, _, rfl, hbytes, env2, ledger2, _, rfl, hquoted⟩)

theorem keyed_holds {key : String}
    (hkey : ledgerKey ops call = some ((identityOf key).canonicalKey ops)) :
    (some <$> (replay ops serde (some key) >>= respond ops serde ttlVar requestId (some key)
      body)).run.Holds exec (Rule ops serde call) (Post ops serde call) [] := by
  simp only [replay]
  obtain ⟨k, hk⟩ : ∃ k, k = (identityOf key).canonicalKey ops := ⟨_, rfl⟩
  rw [← hk] at hkey ⊢
  refine ⟨⟨hkey, rfl⟩, fun env ledger => ?_⟩
  change (some <$> (decodeCached serde (ledger.lookup k env.now) >>= respond ops serde ttlVar
    requestId (some key) body)).run.Holds _ _ _ _
  cases hfound : ledger.lookup k env.now with
  | none =>
    change (some <$> respond ops serde ttlVar requestId (some key) body none).run.Holds _ _ _ _
    subst hk
    refine respond_holds hkey fun k hk => ?_
    rw [mem_unique hk hkey]
    exact ⟨env, ledger, rfl, hfound⟩
  | some cached =>
    simp only [decodeCached]
    cases hquote : serde.fromSlice cached with
    | error e =>
      refine fun k' _ => ⟨cons_ne_nil _ _, fun e he base quote params hop => ?_⟩
      simp [mem_singleton.mp he] at hop
    | ok q =>
      intro k' hk'
      obtain rfl := mem_unique hkey hk'
      exact .inl ⟨env, ledger, cached, rfl, hfound, hquote⟩

theorem start_holds (call : PostCall) :
    (start ops serde ttlVar call).Holds exec (Rule ops serde call) (Post ops serde call) [] := by
  cases call with
  | cleanup => exact ⟨rfl, fun _ _ k hk => nomatch hk⟩
  | postQuote requestId idempotencyKey body =>
    cases idempotencyKey with
    | none =>
      change (some <$> respond ops serde ttlVar requestId none body none).run.Holds _ _ _ _
      refine respond_holds ?_ ?_
      · rfl
      · nofun
    | some raw =>
      cases hkey : normaliseKey ops raw with
      | error e =>
        unfold start postQuote
        simp only [mapM_some, hkey]
        intro k hk
        simp [ledgerKey, hkey] at hk
      | ok key =>
        unfold start postQuote
        simp only [mapM_some, hkey]
        exact keyed_holds (by simp [ledgerKey, hkey])

variable {ledger : DedupeLedger} {q' : Quote}

theorem lookup_exec {env : PostEnv Quote} {o : PostOp} (hrule : Rule ops serde call L o)
    (hwithin : ∀ entry ∈ AList.lookup k ledger, entry.isExpired env.now = false)
    (hother : ledgerKey ops call ≠ some k) :
    AList.lookup k (exec env o ledger).2 = AList.lookup k ledger := by
  cases o with
  | insert key entry =>
    have hne : k ≠ key := by
      rintro rfl
      exact hother hrule.1
    change lookup k (insert key entry ledger) = _
    rw [lookup_insert_ne hne]
  | cleanup =>
    change lookup k (ledger.cleanup env.now) = _
    rw [DedupeLedger.cleanup, HashMap.lookup_deleteKeys, if_neg]
    intro hmem
    obtain ⟨-, hexpired⟩ := mem_filter.mp hmem
    obtain ⟨entry, hentry, hexpired⟩ := (any_eq_true _ _).mp hexpired
    simp [hwithin entry hentry] at hexpired
  | _ => rfl

variable {th : PostThread Quote}

theorem Quoted.unique (h : Quoted k q L) (h' : Quoted k q' L) : q = q' := by
  obtain ⟨env, ledger, base, quote, params, L', rfl, hq, -⟩ := h
  obtain ⟨env', ledger', base', quote', params', L'', heq, hq', -⟩ := h'
  cases heq
  exact Except.ok.inj (hq.symm.trans hq')

theorem Timed.unique (h : Timed k q L) (h' : Timed k q' L) : q = q' := by
  obtain ⟨env, ledger, L', rfl, hquoted⟩ := h
  obtain ⟨env', ledger', L'', heq, hquoted'⟩ := h'
  cases heq
  exact hquoted.unique hquoted'

theorem Missed.countP (h : Missed k L) : L.countP (fun e => runsPipeline e.op) = 0 := by
  obtain ⟨env, ledger, rfl, -⟩ := h
  rfl

theorem Quoted.countP (h : Quoted k q L) : L.countP (fun e => runsPipeline e.op) = 1 := by
  obtain ⟨env, ledger, base, quote, params, L', rfl, -, hmissed⟩ := h
  rw [countP_cons, hmissed.countP]
  rfl

theorem Timed.countP (h : Timed k q L) : L.countP (fun e => runsPipeline e.op) = 1 := by
  obtain ⟨env, ledger, L', rfl, hquoted⟩ := h
  rw [countP_cons, hquoted.countP]
  rfl

theorem Quoted.not_unquoted (h : Quoted k q L) : ¬ Unquoted L := by
  obtain ⟨env, ledger, base, quote, params, L', rfl, hq, -⟩ := h
  exact fun hun => hun _ mem_cons_self base quote params rfl q hq

theorem Quoted.reads_back (h : Quoted k q L)
    (hanswers : ∀ e ∈ L, runsPipeline e.op → Answers serde e.env) :
    (serde.toVec q >>= serde.fromSlice) = .ok q := by
  obtain ⟨env, ledger, base, quote, params, L', rfl, hq, -⟩ := h
  obtain ⟨q', hq', hback⟩ := hanswers _ mem_cons_self rfl
  obtain rfl := Except.ok.inj (hq.symm.trans hq')
  exact hback

/-! What is left of a request, by what it has done. -/

section Left

variable {call : PostCall} {prog : Prog PostOp (PostOp.Res Quote) (PostOut Quote)} {q : Quote}

theorem pending_of_op (h : prog.Holds exec (Rule ops serde call) (Post ops serde call) L)
    (hkey : ledgerKey ops call = some k) (hL : L ≠ []) (hop : prog.isOp) :
    Missed k L ∨ ∃ q, Quoted k q L ∨ Timed k q L := by
  obtain ⟨o, next, rfl⟩ := Prog.isOp_iff.mp hop
  have hrule := h.1
  cases o with
  | lookup key => exact absurd hrule.2 hL
  | getQuoteInner base quote params => exact .inl (hrule k hkey)
  | readClock =>
    obtain ⟨k', q, bytes, hk', -, hquoted⟩ := hrule
    obtain rfl := mem_unique hkey hk'
    exact .inr ⟨q, .inl hquoted⟩
  | insert key entry =>
    obtain ⟨hk', q, -, htimed⟩ := hrule
    obtain rfl := mem_unique hkey hk'
    exact .inr ⟨q, .inr htimed⟩
  | cleanup => exact nomatch hkey.symm.trans hrule

theorem Quoted.isOp (hL : Quoted k q L) {bytes : List UInt8} (hbytes : serde.toVec q = .ok bytes)
    (h : prog.Holds exec (Rule ops serde call) (Post ops serde call) L)
    (hkey : ledgerKey ops call = some k) : prog.isOp := by
  cases prog with
  | op o next => rfl
  | ret out =>
    have hpost := h k hkey
    match out with
    | .error _ => exact absurd hpost.2 hL.not_unquoted
    | .ok none => exact hpost.elim
    | .ok (some response) =>
      rcases hpost with hreplayed | hstored | ⟨hquoted, e, he⟩
      · obtain ⟨_, _, _, rfl, -⟩ := hreplayed
        simp [Quoted] at hL
      · obtain ⟨_, _, _, _, rfl, -⟩ := hstored
        simp [Quoted] at hL
      · simp [hL.unique hquoted, he] at hbytes

theorem Timed.isOp (hL : Timed k q L)
    (h : prog.Holds exec (Rule ops serde call) (Post ops serde call) L)
    (hkey : ledgerKey ops call = some k) : prog.isOp := by
  obtain ⟨env, ledger, L', rfl, hquoted⟩ := hL
  cases prog with
  | op o next => rfl
  | ret out =>
    have hpost := h k hkey
    match out with
    | .error _ =>
      exact absurd (fun e he => hpost.2 e (mem_cons_of_mem _ he)) hquoted.not_unquoted
    | .ok none => exact hpost.elim
    | .ok (some response) => simp [Replayed, Stored, Quoted] at hpost

end Left

/-- What the event `e` of a request under the key does, where no other is in progress: `s` is the
ledger it leaves and `prog` what is left of the request. -/
structure Outcome (ops : TextOps) (serde : Serde Quote) (k : String) (p : PostPool Quote)
    (th : PostThread Quote) (e : PostEvent Quote) (s : DedupeLedger)
    (prog : Prog PostOp (PostOp.Res Quote) (PostOut Quote)) : Prop where
  pending : prog.isOp → AList.lookup k s = none ∧
    pipelineRuns ops k p = th.trace.countP fun e => runsPipeline e.op
  unanswered : AList.lookup k s = none → AList.lookup k p.state = none ∧
    (∀ response, prog ≠ .ret (.ok response)) ∧
      (prog.isOp ∨ pipelineRuns ops k p + (if runsPipeline e.op then 1 else 0) = 0)
  answered : ∀ entry, AList.lookup k s = some entry →
    pipelineRuns ops k p + (if runsPipeline e.op then 1 else 0) ≤ 1 ∧
    ∃ q, serde.fromSlice entry.responseBytes = .ok q ∧ (∀ th' ∈ p.threads,
      ledgerKey ops th'.call = some k → ∀ response, th'.prog = .ret (.ok (some response)) →
        response.data = q) ∧ ∀ response, prog = .ret (.ok (some response)) → response.data = q

namespace Once

variable {i : ℕ} {env : PostEnv Quote} {o : PostOp} {s : DedupeLedger}
  {prog : Prog PostOp (PostOp.Res Quote) (PostOut Quote)} {e : PostEvent Quote}

section

variable {p' : PostPool Quote} (hp : Once ops serde k p)
  (hsound : p'.Sound exec (Rule ops serde) (Post ops serde))
  (hexclusive : p'.Exclusive fun call => ledgerKey ops call = some k)
include hp hsound hexclusive

theorem of_alone (hth : p.threads[i]? = some th) (hkey : ledgerKey ops th.call = some k)
    (hothers : ∀ (j : ℕ) th', p.threads[j]? = some th' → ledgerKey ops th'.call = some k → j ≠ i →
      ¬ th'.InProgress)
    (hp' : p' = ⟨s, p.threads.set i ⟨th.call, prog, e :: th.trace⟩⟩)
    (hanswers : runsPipeline e.op → Answers serde e.env)
    (houtcome : Outcome ops serde k p th e s prog) : Once ops serde k p' := by
  subst hp'
  have hruns : pipelineRuns ops k ⟨s, p.threads.set i ⟨th.call, prog, e :: th.trace⟩⟩ =
      pipelineRuns ops k p + if runsPipeline e.op then 1 else 0 := by
    unfold pipelineRuns
    rw [count_set hth]
    simp [hkey]
  refine ⟨hsound, hexclusive, ?_, ?_, ?_, ?_⟩
  · intro th' hth' hkey' e' he'
    rcases List.mem_or_eq_of_mem_set hth' with hth' | rfl
    · exact hp.answers th' hth' hkey' e' he'
    · rcases List.mem_cons.mp he' with rfl | he'
      · exact hanswers
      · exact hp.answers th (List.mem_of_getElem? hth) hkey e' he'
  · intro th' hth' hkey' hin
    obtain ⟨j, hj⟩ := List.getElem?_of_mem hth'
    rcases thread_of_set hj with ⟨-, rfl⟩ | ⟨hne, hj⟩
    · obtain ⟨hnone, hcount⟩ := houtcome.pending hin.2
      refine ⟨hnone, ?_⟩
      rw [hruns, hcount, List.countP_cons]
    · exact absurd hin (hothers j th' hj hkey' hne)
  · intro hnone
    obtain ⟨hnone', hret, hruns'⟩ := houtcome.unanswered hnone
    refine ⟨fun th' hth' hkey' => ?_, fun hidle => ?_⟩
    · rcases List.mem_or_eq_of_mem_set hth' with hth' | rfl
      · exact (hp.unanswered hnone').1 th' hth' hkey'
      · exact hret
    · rcases hruns' with hop | hzero
      · obtain ⟨hi, -⟩ := List.getElem?_eq_some_iff.mp hth
        exact absurd ⟨List.cons_ne_nil _ _, hop⟩ (hidle _ (List.mem_set hi _) hkey)
      · rw [hruns, hzero]
  · intro entry hentry
    obtain ⟨hone, q, hq, hold, hnew⟩ := houtcome.answered entry hentry
    refine ⟨hruns ▸ hone, q, hq, fun th' hth' hkey' response hret => ?_⟩
    rcases List.mem_or_eq_of_mem_set hth' with hth' | rfl
    · exact hold th' hth' hkey' response hret
    · exact hnew response hret

theorem of_same (hsame : AList.lookup k p'.state = AList.lookup k p.state)
    (hruns : pipelineRuns ops k p' = pipelineRuns ops k p)
    (hback : ∀ th ∈ p'.threads, ledgerKey ops th.call = some k → th ∈ p.threads ∨
      th.trace = [] ∧ ∀ response, th.prog ≠ .ret (.ok response))
    (hkept : ∀ th ∈ p.threads, ledgerKey ops th.call = some k → th ∈ p'.threads) :
    Once ops serde k p' := by
  refine ⟨hsound, hexclusive, fun th hth hkey e he => ?_, fun th hth hkey hin => ?_, ?_, ?_⟩
  · rcases hback th hth hkey with hold | ⟨hnew, -⟩
    · exact hp.answers th hold hkey e he
    · simp [hnew] at he
  · rcases hback th hth hkey with hold | ⟨hnew, -⟩
    · rw [hruns, hsame]
      exact hp.pending th hold hkey hin
    · exact absurd hnew hin.1
  · intro hnone
    rw [hsame] at hnone
    obtain ⟨hret, hzero⟩ := hp.unanswered hnone
    refine ⟨fun th hth hkey => ?_, fun hidle => ?_⟩
    · rcases hback th hth hkey with hold | ⟨-, hnew⟩
      · exact hret th hold hkey
      · exact hnew
    · rw [hruns]
      exact hzero fun th hth hkey => hidle th (hkept th hth hkey) hkey
  · intro entry hentry
    rw [hsame] at hentry
    obtain ⟨hone, q, hq, hall⟩ := hp.answered entry hentry
    refine ⟨hruns ▸ hone, q, hq, fun th hth hkey response hret => ?_⟩
    rcases hback th hth hkey with hold | ⟨-, hnew⟩
    · exact hall th hold hkey response hret
    · exact absurd hret (hnew _)

theorem of_other (hth : p.threads[i]? = some th) (hkey : ledgerKey ops th.call ≠ some k)
    (hp' : p' = ⟨s, p.threads.set i ⟨th.call, prog, e :: th.trace⟩⟩)
    (hsame : AList.lookup k s = AList.lookup k p.state) : Once ops serde k p' := by
  subst hp'
  refine hp.of_same hsound hexclusive hsame ?_ ?_ ?_
  · unfold pipelineRuns
    rw [count_set hth]
    simp [hkey]
  · intro th' hth' hkey'
    rcases mem_or_eq_of_mem_set hth' with hth' | rfl
    · exact .inl hth'
    · exact absurd hkey' hkey
  · intro th' hth' hkey'
    obtain ⟨j, hj⟩ := getElem?_of_mem hth'
    have hne : i ≠ j := by
      rintro rfl
      rw [mem_unique hth hj] at hkey
      exact hkey hkey'
    rw [← getElem?_set_ne hne] at hj
    exact mem_of_getElem? hj

theorem spawn {call : PostCall}
    (hp' : p' = ⟨p.state, p.threads ++ [⟨call, start ops serde ttlVar call, []⟩]⟩) :
    Once ops serde k p' := by
  subst hp'
  refine hp.of_same hsound hexclusive rfl (by simp [pipelineRuns, Pool.count]) ?_
    fun th hth _ => mem_append_left _ hth
  intro th hth hkey
  rcases mem_append.mp hth with hth | hth
  · exact .inl hth
  · rw [mem_singleton.mp hth] at hkey ⊢
    refine .inr ⟨rfl, fun response hret => ?_⟩
    have h : (start ops serde ttlVar call).Holds exec (Rule ops serde call)
        (Post ops serde call) [] := start_holds call
    rw [show start ops serde ttlVar call = _ from hret] at h
    have hpost := h k hkey
    cases response with
    | none => exact hpost
    | some response => simp [Replayed, Stored, Quoted] at hpost

end

theorem outcome_of_op (hp : Once ops serde k p) (hth : th ∈ p.threads)
    (hkey : ledgerKey ops th.call = some k) (hin : th.InProgress) (hop : prog.isOp) :
    Outcome ops serde k p th e p.state prog := by
  have hpending := hp.pending th hth hkey hin
  refine ⟨fun _ => hpending, fun _ => ⟨hpending.1, fun response hret => ?_, .inl hop⟩, ?_⟩
  · rw [hret] at hop
    cases hop
  · intro entry hentry
    rw [hpending.1] at hentry
    cases hentry

theorem outcome_lookup (hp : Once ops serde k p) (hkey : ledgerKey ops th.call = some k)
    (htrace : th.trace = []) (hidle : ∀ th' ∈ p.threads, ledgerKey ops th'.call = some k →
      ¬ th'.InProgress)
    (hwithin : ∀ entry ∈ AList.lookup k p.state, entry.isExpired env.now = false)
    (hleft : prog.Holds exec (Rule ops serde th.call) (Post ops serde th.call)
      (⟨env, p.state, .lookup k⟩ :: th.trace)) :
    Outcome ops serde k p th ⟨env, p.state, .lookup k⟩ p.state prog := by
  rw [htrace] at hleft
  cases hentry : lookup k p.state with
  | none =>
    have hmiss : p.state.lookup k env.now = none := by simp [DedupeLedger.lookup, hentry]
    have hunanswered : ∀ response, prog ≠ .ret (.ok response) := by
      rintro response rfl
      have hpost := hleft k hkey
      cases response with
      | none => exact hpost
      | some response => simp_all [Replayed, Stored, Quoted]
    have hzero := (hp.unanswered hentry).2 hidle
    refine ⟨fun _ => ⟨hentry, ?_⟩, fun _ => ⟨hentry, hunanswered, .inr ?_⟩, ?_⟩
    · rw [hzero, htrace]
      rfl
    · rw [hzero]
      rfl
    · intro entry h
      simp [hentry] at h
  | some entry =>
    have hfound : p.state.lookup k env.now = some entry.responseBytes := by
      simp [DedupeLedger.lookup, hentry, hwithin entry hentry]
    have hstop : ¬ prog.isOp := by
      intro hop
      have := pending_of_op hleft hkey (cons_ne_nil _ _) hop
      simp [Missed, Quoted, Timed, hfound] at this
    refine ⟨fun hop => absurd hop hstop, fun h => ?_, fun entry' h => ?_⟩
    · simp [hentry] at h
    · rw [hentry] at h
      cases h
      obtain ⟨hone, q, hq, hall⟩ := hp.answered entry hentry
      refine ⟨hone, q, hq, hall, fun response hret => ?_⟩
      rw [hret] at hleft
      rcases hleft k hkey with ⟨env', ledger', cached, heq, hfound', hdata⟩ | h | h
      · cases heq
        obtain rfl := mem_unique hfound hfound'
        exact Except.ok.inj (hdata.symm.trans hq)
      · simp [Stored] at h
      · simp [Quoted] at h

theorem outcome_insert {entry : DedupeEntry} {q : Quote} (hp : Once ops serde k p)
    (hth : th ∈ p.threads) (hkey : ledgerKey ops th.call = some k)
    (hbytes : serde.toVec q = .ok entry.responseBytes) (htimed : Timed k q th.trace)
    (hin : th.InProgress)
    (hleft : prog.Holds exec (Rule ops serde th.call) (Post ops serde th.call)
      (⟨env, p.state, .insert k entry⟩ :: th.trace)) :
    Outcome ops serde k p th ⟨env, p.state, .insert k entry⟩ (AList.insert k entry p.state)
      prog := by
  obtain ⟨hnone, hruns⟩ := hp.pending th hth hkey hin
  have hnew : lookup k (insert k entry p.state) = some entry := lookup_insert _
  have hstop : ¬ prog.isOp := by
    intro hop
    have := pending_of_op hleft hkey (cons_ne_nil _ _) hop
    simp [Missed, Quoted, Timed] at this
  have hback : serde.fromSlice entry.responseBytes = .ok q := by
    obtain ⟨env', ledger', L', htrace, hquoted⟩ := htimed
    have h : (serde.toVec q >>= serde.fromSlice) = .ok q :=
      hquoted.reads_back fun e he => hp.answers th hth hkey e
        (htrace ▸ mem_cons_of_mem _ he)
    rwa [hbytes] at h
  refine ⟨fun hop => absurd hop hstop, fun h => ?_, fun entry' h => ?_⟩
  · simp [hnew] at h
  · rw [hnew] at h
    cases h
    refine ⟨?_, q, hback, fun th' hth' hkey' response hret => ?_, fun response hret => ?_⟩
    · rw [hruns, htimed.countP]
      rfl
    · exact absurd hret ((hp.unanswered hnone).1 th' hth' hkey' _)
    · rw [hret] at hleft
      rcases hleft k hkey with h | ⟨env', ledger', entry', L', heq, -, htimed'⟩ | h
      · simp [Replayed] at h
      · cases heq
        exact htimed'.unique htimed
      · simp [Quoted] at h

theorem outcome {next : o.Res Quote → Prog PostOp (PostOp.Res Quote) (PostOut Quote)}
    (hp : Once ops serde k p) (hc : Serves ops serde k p (.step i env))
    (hth : p.threads[i]? = some th) (hprog : th.prog = .op o next)
    (hkey : ledgerKey ops th.call = some k) :
    Outcome ops serde k p th ⟨env, p.state, o⟩ (exec env o p.state).2
      (next (exec env o p.state).1) := by
  have hmem := mem_of_getElem? hth
  have hop : th.prog.isOp := Prog.isOp_iff.mpr ⟨o, next, hprog⟩
  have hnow := hp.sound th hmem
  rw [hprog] at hnow
  obtain ⟨hrule, hleft⟩ := hnow
  have hleft := hleft env p.state
  have hnext := Pool.next_eq env hth hprog
  cases o with
  | lookup key =>
    obtain ⟨hk, htrace⟩ := hrule
    obtain rfl := mem_unique hkey hk
    apply hp.outcome_lookup hkey htrace _ (hc.within _ hnext) hleft
    exact hc.alone th (Pool.beginner_eq hth htrace hop) hkey
  | getQuoteInner base quote params =>
    have hmissed := hrule k hkey
    obtain ⟨q, hq, hback⟩ := hc.answers _ hnext hkey rfl
    obtain ⟨bytes, hbytes, -⟩ := bind_eq_ok.mp hback
    have hquoted : Quoted k q
        (⟨env, p.state, .getQuoteInner base quote params⟩ :: th.trace) :=
      ⟨env, p.state, base, quote, params, _, rfl, hq, hmissed⟩
    exact hp.outcome_of_op hmem hkey ⟨hmissed.ne_nil, hop⟩ (hquoted.isOp hbytes hleft hkey)
  | readClock =>
    obtain ⟨k', q, bytes, hk, -, hquoted⟩ := hrule
    obtain rfl := mem_unique hkey hk
    have htimed : Timed k q (⟨env, p.state, .readClock⟩ :: th.trace) :=
      ⟨env, p.state, _, rfl, hquoted⟩
    apply hp.outcome_of_op hmem hkey ⟨_, hop⟩ (htimed.isOp hleft hkey)
    obtain ⟨_, _, _, _, _, _, htrace, -⟩ := hquoted
    simp [htrace]
  | insert key entry =>
    obtain ⟨hk, q, hbytes, htimed⟩ := hrule
    obtain rfl := mem_unique hkey hk
    apply hp.outcome_insert hmem hkey hbytes htimed ⟨_, hop⟩ hleft
    obtain ⟨_, _, _, htrace, -⟩ := htimed
    simp [htrace]
  | cleanup => exact nomatch hkey.symm.trans hrule

theorem step {c : PostChoice Quote} (hp : Once ops serde k p) (hc : Serves ops serde k p c) :
    Once ops serde k (step exec (start ops serde ttlVar) p c) := by
  have hsound : (Interleave.step exec (start ops serde ttlVar) p c).Sound exec (Rule ops serde)
      (Post ops serde) := hp.sound.step start_holds
  have hexclusive : (Interleave.step exec (start ops serde ttlVar) p c).Exclusive
      fun call => ledgerKey ops call = some k := hp.exclusive.step hc.alone
  rcases step_cases exec (start ops serde ttlVar) p c with
    ⟨call, rfl, h⟩ | h | ⟨i, env, th, o, next, rfl, hth, hprog, h⟩
  · exact hp.spawn hsound hexclusive h
  · rw [h]
    exact hp
  · have hnext := Pool.next_eq env hth hprog
    by_cases hkey : ledgerKey ops th.call = some k
    · have hop : th.prog.isOp := Prog.isOp_iff.mpr ⟨o, next, hprog⟩
      have hothers : ∀ (j : ℕ) th', p.threads[j]? = some th' → ledgerKey ops th'.call = some k →
          j ≠ i → ¬ th'.InProgress := by
        intro j th' hj hkey' hne
        exact hp.exclusive.others hc.alone hth hop hkey hj hkey' hne
      exact hp.of_alone hsound hexclusive hth hkey hothers h (hc.answers _ hnext hkey)
        (hp.outcome hc hth hprog hkey)
    · have hnow := hp.sound th (mem_of_getElem? hth)
      rw [hprog] at hnow
      exact hp.of_other hsound hexclusive hth hkey h
        (lookup_exec hnow.1 (hc.within _ hnext) hkey)

theorem init {ledger : DedupeLedger} (hnew : AList.lookup k ledger = none) :
    Once ops serde k (⟨ledger, []⟩ : PostPool Quote) := by
  refine ⟨?_, ?_, ?_, ?_, fun _ => ⟨?_, fun _ => rfl⟩, fun entry hentry => ?_⟩
  · nofun
  · intro i j th th' hth
    simp at hth
  · nofun
  · nofun
  · nofun
  · simp [hnew] at hentry

theorem runs_le_one (hp : Once ops serde k p) : pipelineRuns ops k p ≤ 1 := by
  cases hentry : lookup k p.state with
  | some entry => exact (hp.answered entry hentry).1
  | none =>
    by_cases hidle : ∀ th ∈ p.threads, ledgerKey ops th.call = some k → ¬ th.InProgress
    · rw [(hp.unanswered hentry).2 hidle]
      exact Nat.zero_le 1
    · push Not at hidle
      obtain ⟨th, hth, hkey, hin⟩ := hidle
      rw [(hp.pending th hth hkey hin).2]
      rcases pending_of_op (hp.sound th hth) hkey hin.1 hin.2 with h | ⟨q, h | h⟩
      · exact h.countP.trans_le (Nat.zero_le 1)
      · exact h.countP.le
      · exact h.countP.le

end Once

/-- Of a key that is new, as long as what it records lives: the pipeline is run at most once for
it, and all who are answered get one quote. -/
theorem quote_computed_once (ops : TextOps) (serde : Serde Quote) (ttlVar : Option ℕ) (k : String)
    (ledger : DedupeLedger) (hnew : AList.lookup k ledger = none)
    (choices : List (PostChoice Quote))
    (hok : Transition.StepsOk (step exec (start ops serde ttlVar)) (Serves ops serde k)
      ⟨ledger, []⟩ choices) :
    pipelineRuns ops k (run exec (start ops serde ttlVar) ⟨ledger, []⟩ choices) ≤ 1 ∧
    ∀ th ∈ (run exec (start ops serde ttlVar) ⟨ledger, []⟩ choices).threads,
      ∀ th' ∈ (run exec (start ops serde ttlVar) ⟨ledger, []⟩ choices).threads,
        ledgerKey ops th.call = some k → ledgerKey ops th'.call = some k →
          ∀ response response', th.prog = .ret (.ok (some response)) →
            th'.prog = .ret (.ok (some response')) → response.data = response'.data := by
  have hp : Once ops serde k (run exec (start ops serde ttlVar) ⟨ledger, []⟩ choices) :=
    Transition.run_inv_of_ok (fun p c hp hc => hp.step hc) (Once.init hnew) hok
  refine ⟨hp.runs_le_one, fun th hth th' hth' hkey hkey' response response' hret hret' => ?_⟩
  cases hentry : lookup k
      (run exec (start ops serde ttlVar) ⟨ledger, []⟩ choices).state with
  | none => exact absurd hret ((hp.unanswered hentry).1 th hth hkey _)
  | some entry =>
    obtain ⟨-, q, -, hall⟩ := hp.answered entry hentry
    rw [hall th hth hkey response hret, hall th' hth' hkey' response' hret']

instance (p : PostPool Quote) (c : PostChoice Quote) : Decidable (WithinLifetime k p c) :=
  inferInstanceAs (Decidable (∀ _ ∈ _, _))

instance [DecidableEq Quote] (env : PostEnv Quote) : Decidable (Answers serde env) :=
  match hquote : env.quote with
  | .error e => isFalse fun ⟨q, hq, _⟩ => nomatch hquote.symm.trans hq
  | .ok q =>
    decidable_of_iff ((serde.toVec q >>= serde.fromSlice) = .ok q) (by simp [Answers, hquote])

instance [DecidableEq Quote] (p : PostPool Quote) (c : PostChoice Quote) :
    Decidable (PipelineAnswers ops serde k p c) := inferInstanceAs (Decidable (∀ _ ∈ _, _))

/-- A quote is a number below 256, and encoded as one byte. -/
def oneByte : Serde UInt8 where
  toVec := fun q => .ok [q]
  fromSlice
    | [q] => .ok q
    | _ => .error "invalid length"

def quoteFor (requestId : String) : PostCall :=
  .postQuote requestId (some " Key-1 ") ⟨"native", "USDC:GISSUER", none, none, none⟩

def keyOne : String := "POST_QUOTE:KEY-1/::0:"

/-- At this second the pipeline has this answer. -/
def moment (now : ℕ) (answer : Except String UInt8) : PostEnv UInt8 := ⟨now, answer⟩

/-- The second request comes when the first is done. -/
def oneAfterTheOther : List (PostChoice UInt8) :=
  [.spawn (quoteFor "a"), .step 0 (moment 10 (.ok 1)), .step 0 (moment 10 (.ok 1)),
    .step 0 (moment 11 (.ok 1)), .step 0 (moment 11 (.ok 1)), .spawn (quoteFor "b"),
    .step 1 (moment 12 (.ok 2))]

theorem quote_computed_once_replayed :
    pipelineRuns plainText keyOne
      (run exec (start plainText oneByte none) ⟨∅, []⟩ oneAfterTheOther) ≤ 1 := by
  have hwithin : Transition.StepsOk (step exec (start plainText oneByte none))
      (WithinLifetime keyOne) ⟨∅, []⟩ oneAfterTheOther := by decide
  have halone : Transition.StepsOk (step exec (start plainText oneByte none))
      (Pool.BeginsAlone fun call => ledgerKey plainText call = some keyOne)
      ⟨∅, []⟩ oneAfterTheOther := by decide
  have hanswers : Transition.StepsOk (step exec (start plainText oneByte none))
      (PipelineAnswers plainText oneByte keyOne) ⟨∅, []⟩ oneAfterTheOther := by decide
  exact (quote_computed_once plainText oneByte none keyOne ∅ rfl oneAfterTheOther
    ((hwithin.and (halone.and hanswers)).mono fun _ _ h => ⟨h.1, h.2.1, h.2.2⟩)).1

/-- Both requests look the key up before either has recorded an answer. -/
def atOnce : List (PostChoice UInt8) :=
  [.spawn (quoteFor "a"), .spawn (quoteFor "b"), .step 0 (moment 10 (.ok 1)),
    .step 1 (moment 10 (.ok 1)), .step 0 (moment 10 (.ok 1)), .step 1 (moment 10 (.ok 2)),
    .step 0 (moment 11 (.ok 1)), .step 0 (moment 11 (.ok 1)), .step 1 (moment 11 (.ok 1)),
    .step 1 (moment 11 (.ok 1))]

/-- The request is sent again after the pipeline has failed. -/
def onceMore : List (PostChoice UInt8) :=
  [.spawn (quoteFor "a"), .step 0 (moment 10 (.ok 1)), .step 0 (moment 10 (.error "no route")),
    .spawn (quoteFor "b"), .step 1 (moment 11 (.ok 1)), .step 1 (moment 11 (.ok 1))]

theorem quote_computed_twice :
    Transition.StepsOk (step exec (start plainText oneByte none)) (WithinLifetime keyOne)
      ⟨∅, []⟩ atOnce ∧
    (run exec (start plainText oneByte none) ⟨∅, []⟩ atOnce).outcome 0 =
      some (.ok (some ⟨"a", 1⟩)) ∧
    (run exec (start plainText oneByte none) ⟨∅, []⟩ atOnce).outcome 1 =
      some (.ok (some ⟨"b", 2⟩)) ∧
    pipelineRuns plainText keyOne (run exec (start plainText oneByte none) ⟨∅, []⟩ atOnce) = 2 ∧
    pipelineRuns plainText keyOne
      (run exec (start plainText oneByte none) ⟨∅, []⟩ onceMore) = 2 := by
  decide

end StellarRoute.Quote.PostQuote
