import StellarRoute.Lib.Window
import StellarRoute.Http.Spec.RateLimit

/-! The rate limit over whole runs. A bucket counts by windows that follow one
another, so an interval that meets two windows can hold twice the limit; and
outside three groups of endpoints every path has a bucket of its own. Where the
client's requests to a group fill one bucket, which is theirs alone, and a new
window opens only after a pause, the limit holds in every interval. -/

namespace StellarRoute.Http

open Lib List Transition AList

variable (parseIp : String → Option String) (cfg : EndpointConfig) (client : String)
  (group : EndpointGroup) (key : String) (arrivals : List Arrival)

def Arrival.Of (a : Arrival) : Prop :=
  extractIdentity parseIp a.request = client ∧ groupOf a.request.path = group

instance (a : Arrival) : Decidable (a.Of parseIp client group) :=
  inferInstanceAs (Decidable (_ ∧ _))

/-- Every interval as long as the window has at most `maxRequests` requests of the client to the
group that were let through. -/
def WithinLimit : Prop :=
  ∀ t, ((admitted parseIp cfg arrivals).filter fun a => a.Of parseIp client group ∧
    t ≤ a.now ∧ a.now < t + (cfg.limit group client).window).length ≤
      (cfg.limit group client).maxRequests

/-- The store when the request comes. -/
def storeAfter : InMemoryStore := Transition.run (afterServe parseIp cfg) ∅ arrivals

/-- The window of the bucket is over when the request comes. -/
def isOver (store : InMemoryStore) (key : String) (config : RateLimitConfig) (now : ℕ) : Bool :=
  (AList.lookup key store).any fun entry => config.window ≤ now - entry.2

/-- The client's requests to the group share a bucket with each other and with no other request,
and one that finds its window over comes no earlier than `window` after those before it. -/
structure Paced : Prop where
  own : ∀ a ∈ arrivals, bucketKey parseIp a.request = key ↔ a.Of parseIp client group
  paused : ∀ before a after, arrivals = before ++ a :: after → a.Of parseIp client group →
    isOver (storeAfter parseIp cfg before) key (cfg.limit group client) a.now = true →
    ∀ b ∈ before, b.Of parseIp client group → b.now + (cfg.limit group client).window ≤ a.now

def Monotone (arrivals : List Arrival) : Prop := arrivals.Pairwise fun a b => a.now ≤ b.now

/-! ### The log of a client -/

def logEntry (store : InMemoryStore) (a : Arrival) : List Window.Entry :=
  if a.Of parseIp client group ∧ (serve parseIp cfg store a).1.denied = false then
    [⟨a.now, (AList.lookup key store).isNone ||
      isOver store key (cfg.limit group client) a.now⟩]
  else []

def log : List Window.Entry :=
  Transition.trace (afterServe parseIp cfg) (logEntry parseIp cfg client group key) ∅ arrivals

/-- What the bucket knows of the log. -/
structure Counted : Prop where
  ordered : Window.Ordered (log parseIp cfg client group key arrivals)
  limited : Window.Limited (cfg.limit group client).maxRequests
    (log parseIp cfg client group key arrivals)
  paused : Window.Paused (cfg.limit group client).window
    (log parseIp cfg client group key arrivals)
  source : ∀ e ∈ log parseIp cfg client group key arrivals,
    ∃ b ∈ arrivals, b.Of parseIp client group ∧ b.now = e.time
  fresh : AList.lookup key (storeAfter parseIp cfg arrivals) = none →
    log parseIp cfg client group key arrivals = []
  count : ∀ count start, AList.lookup key (storeAfter parseIp cfg arrivals) = some (count, start) →
    Window.Backlog count (log parseIp cfg client group key arrivals) ∧
      count ≤ (cfg.limit group client).maxRequests

variable {parseIp cfg client group key arrivals} {a : Arrival}

/-! ### One request -/

section Check

variable {store : InMemoryStore} {config : RateLimitConfig} {now unixNow : ℕ}

theorem windowAt_cases (store : InMemoryStore) (key : String) (config : RateLimitConfig) (now : ℕ) :
    (∃ count start, AList.lookup key store = some (count, start) ∧
      isOver store key config now = false ∧ store.windowAt key config now = (count, start)) ∨
    store.windowAt key config now = (0, now) ∧
      (AList.lookup key store = none ∨ isOver store key config now = true) := by
  cases hentry : lookup key store with
  | none =>
    refine .inr ⟨?_, .inl rfl⟩
    simp [InMemoryStore.windowAt, hentry]
  | some entry =>
    by_cases hover : config.window ≤ now - entry.2
    · refine .inr ⟨?_, .inr ?_⟩
      · simp [InMemoryStore.windowAt, hentry, hover]
      · simp [isOver, hentry, hover]
    · refine .inl ⟨entry.1, entry.2, rfl, ?_, ?_⟩
      · simp [isOver, hentry, hover]
      · simp only [InMemoryStore.windowAt, hentry, Option.getD_some, ge_iff_le, if_neg hover]

theorem check_denied :
    (store.check key config now unixNow).1.denied = true ↔
      config.maxRequests ≤ (store.windowAt key config now).1 := by
  unfold InMemoryStore.check
  cases store.windowAt key config now with
  | mk count start =>
    dsimp only
    split_ifs with hlt
    · simp only [false_iff]
      omega
    · simp only [true_iff]
      omega

theorem check_lookup (k : String) :
    AList.lookup k (store.check key config now unixNow).2 =
      if k = key then
        some (if (store.check key config now unixNow).1.denied then store.windowAt key config now
          else ((store.windowAt key config now).1 + 1, (store.windowAt key config now).2))
      else AList.lookup k store := by
  unfold InMemoryStore.check
  cases store.windowAt key config now with
  | mk count start =>
    dsimp only
    split_ifs with hlt
    all_goals simp_all [HashMap.lookup_insert_eq]

end Check

/-! ### The runs -/

theorem storeAfter_concat : storeAfter parseIp cfg (arrivals ++ [a]) =
    (serve parseIp cfg (storeAfter parseIp cfg arrivals) a).2 := by
  rw [storeAfter, run_append]
  rfl

theorem log_concat : log parseIp cfg client group key (arrivals ++ [a]) =
    log parseIp cfg client group key arrivals ++
      logEntry parseIp cfg client group key (storeAfter parseIp cfg arrivals) a := by
  rw [log, trace_append]
  simp [trace, log, storeAfter]

variable (parseIp cfg client group key arrivals) in
theorem log_times : (log parseIp cfg client group key arrivals).map (·.time) =
    ((admitted parseIp cfg arrivals).filter fun a => a.Of parseIp client group).map (·.now) := by
  induction arrivals using reverseRecOn with
  | nil => rfl
  | append_singleton arrivals a ih =>
    rw [log_concat, admitted, trace_append, map_append, filter_append, map_append, ← admitted, ih,
      logEntry]
    congr 1
    simp only [trace, append_nil]
    rw [← storeAfter]
    cases (serve parseIp cfg (storeAfter parseIp cfg arrivals) a).1.denied with
    | true => simp
    | false =>
      by_cases hof : a.Of parseIp client group
      · simp [hof]
      · simp [hof]

theorem counted_nil : Counted parseIp cfg client group key [] where
  ordered := List.Pairwise.nil
  limited := Window.limited_nil
  paused := List.Pairwise.nil
  source _ h := nomatch h
  fresh _ := rfl
  count _ _ h := nomatch h

theorem serve_of (hof : a.Of parseIp client group) (hkey : bucketKey parseIp a.request = key)
    (store : InMemoryStore) : serve parseIp cfg store a =
      store.check key (cfg.limit group client) a.now a.unixNow := by
  obtain ⟨rfl, rfl⟩ := hof
  subst hkey
  rfl

theorem Counted.other (hC : Counted parseIp cfg client group key arrivals)
    (hof : ¬ a.Of parseIp client group) (hkey : bucketKey parseIp a.request ≠ key) :
    Counted parseIp cfg client group key (arrivals ++ [a]) := by
  have hlog : log parseIp cfg client group key (arrivals ++ [a]) =
      log parseIp cfg client group key arrivals := by
    rw [log_concat, logEntry, if_neg (fun h => hof h.1), append_nil]
  have hstore : lookup key (storeAfter parseIp cfg (arrivals ++ [a])) =
      lookup key (storeAfter parseIp cfg arrivals) := by
    rw [storeAfter_concat, serve, check_lookup, if_neg hkey.symm]
  constructor
  · rw [hlog]
    exact hC.ordered
  · rw [hlog]
    exact hC.limited
  · rw [hlog]
    exact hC.paused
  · rw [hlog]
    intro e he
    obtain ⟨b, hb, hrest⟩ := hC.source e he
    exact ⟨b, mem_append_left _ hb, hrest⟩
  · rw [hlog, hstore]
    exact hC.fresh
  · rw [hlog, hstore]
    exact hC.count

theorem log_eq_nil_of_zero {log : List Window.Entry} (h : Window.Limited 0 log) : log = [] := by
  cases log with
  | nil => rfl
  | cons e log =>
    have hone := h [e] ⟨[], log, rfl⟩ (fun e' he' => nomatch he')
    simp at hone

theorem Counted.refuse (hC : Counted parseIp cfg client group key arrivals)
    (hof : a.Of parseIp client group) (hkey : bucketKey parseIp a.request = key)
    (hdenied : (serve parseIp cfg (storeAfter parseIp cfg arrivals) a).1.denied = true) :
    Counted parseIp cfg client group key (arrivals ++ [a]) := by
  have hlog : log parseIp cfg client group key (arrivals ++ [a]) =
      log parseIp cfg client group key arrivals := by
    rw [log_concat, logEntry, if_neg (by simp [hdenied]), append_nil]
  have hstore : lookup key (storeAfter parseIp cfg (arrivals ++ [a])) =
      some ((storeAfter parseIp cfg arrivals).windowAt key (cfg.limit group client) a.now) := by
    rw [storeAfter_concat]
    rw [serve_of hof hkey] at hdenied ⊢
    rw [check_lookup, if_pos rfl, if_pos hdenied]
  rw [serve_of hof hkey, check_denied] at hdenied
  constructor
  · rw [hlog]
    exact hC.ordered
  · rw [hlog]
    exact hC.limited
  · rw [hlog]
    exact hC.paused
  · rw [hlog]
    intro e he
    obtain ⟨b, hb, hrest⟩ := hC.source e he
    exact ⟨b, mem_append_left _ hb, hrest⟩
  · rw [hstore]
    exact nofun
  · intro count start hentry
    rw [hlog]
    rw [hstore] at hentry
    rcases windowAt_cases (storeAfter parseIp cfg arrivals) key (cfg.limit group client) a.now with
      ⟨count', start', hold, -, hwindow⟩ | ⟨hwindow, -⟩
    · rw [hwindow] at hentry
      cases hentry
      exact hC.count _ _ hold
    · -- a new window that refuses: nothing is ever let through
      rw [hwindow] at hentry hdenied
      cases hentry
      have hzero : (cfg.limit group client).maxRequests = 0 := by
        dsimp only at hdenied
        omega
      have hempty := hC.limited
      rw [hzero] at hempty
      rw [log_eq_nil_of_zero hempty]
      exact ⟨Window.backlog_nil, Nat.zero_le _⟩

theorem Counted.admit (hC : Counted parseIp cfg client group key arrivals)
    (hof : a.Of parseIp client group) (hkey : bucketKey parseIp a.request = key)
    (hdenied : (serve parseIp cfg (storeAfter parseIp cfg arrivals) a).1.denied = false)
    (htime : ∀ b ∈ arrivals, b.now ≤ a.now)
    (hpause : isOver (storeAfter parseIp cfg arrivals) key (cfg.limit group client) a.now = true →
      ∀ b ∈ arrivals, b.Of parseIp client group → b.now + (cfg.limit group client).window ≤ a.now) :
    Counted parseIp cfg client group key (arrivals ++ [a]) := by
  have hlog : log parseIp cfg client group key (arrivals ++ [a]) =
      log parseIp cfg client group key arrivals ++
        [⟨a.now, (lookup key (storeAfter parseIp cfg arrivals)).isNone ||
          isOver (storeAfter parseIp cfg arrivals) key (cfg.limit group client) a.now⟩] := by
    rw [log_concat, logEntry, if_pos ⟨hof, hdenied⟩]
  have hwindow := windowAt_cases (storeAfter parseIp cfg arrivals) key (cfg.limit group client) a.now
  generalize hnow : (storeAfter parseIp cfg arrivals).windowAt key (cfg.limit group client) a.now =
    window at hwindow
  have hstore : lookup key (storeAfter parseIp cfg (arrivals ++ [a])) =
      some (window.1 + 1, window.2) := by
    rw [storeAfter_concat]
    rw [serve_of hof hkey] at hdenied ⊢
    rw [check_lookup, if_pos rfl, if_neg (by simp [hdenied]), hnow]
  have hlt : window.1 < (cfg.limit group client).maxRequests := by
    rw [serve_of hof hkey] at hdenied
    by_contra hge
    simp [check_denied.mpr (hnow ▸ not_lt.mp hge)] at hdenied
  -- what the window of the new entry counts up to now
  have hbacklog : Window.Backlog (window.1 + 1)
      (log parseIp cfg client group key (arrivals ++ [a])) := by
    rw [hlog]
    rcases hwindow with ⟨count, start, hold, -, rfl⟩ | ⟨rfl, hopens⟩
    · exact (hC.count count start hold).1.concat
    · apply Window.backlog_concat_open
      rcases hopens with hnone | hover
      · simp [hnone]
      · simp [hover]
  constructor
  · rw [hlog]
    apply hC.ordered.concat
    intro e he
    obtain ⟨b, hb, -, hnow⟩ := hC.source e he
    rw [← hnow]
    exact htime b hb
  · rw [hlog] at hbacklog ⊢
    exact hC.limited.concat (hbacklog.mono hlt)
  · rw [hlog]
    apply hC.paused.concat
    intro hopens e he
    obtain ⟨b, hb, hbof, hnow⟩ := hC.source e he
    rw [Bool.or_eq_true] at hopens
    rcases hopens with hnone | hover
    · simp [hC.fresh (Option.isNone_iff_eq_none.mp hnone)] at he
    · rw [← hnow]
      exact hpause hover b hb hbof
  · rw [hlog]
    intro e he
    rcases mem_append.mp he with he | he
    · obtain ⟨b, hb, hrest⟩ := hC.source e he
      exact ⟨b, mem_append_left _ hb, hrest⟩
    · rw [mem_singleton.mp he]
      exact ⟨a, by simp, hof, rfl⟩
  · rw [hstore]
    exact nofun
  · intro count start hentry
    rw [hstore] at hentry
    cases hentry
    exact ⟨hbacklog, hlt⟩

theorem counted_of_paced (hmono : Monotone arrivals)
    (hpaced : Paced parseIp cfg client group key arrivals) :
    Counted parseIp cfg client group key arrivals := by
  induction arrivals using reverseRecOn with
  | nil => exact counted_nil
  | append_singleton arrivals a ih =>
    obtain ⟨hbefore, -, hlast⟩ := pairwise_append.mp hmono
    have hC := ih hbefore ⟨fun b hb => hpaced.own b (mem_append_left _ hb),
      fun before b after heq => hpaced.paused before b (after ++ [a]) (by simp [heq])⟩
    have hown := hpaced.own a (by simp)
    by_cases hof : a.Of parseIp client group
    · have hkey := hown.mpr hof
      cases hdenied : (serve parseIp cfg (storeAfter parseIp cfg arrivals) a).1.denied with
      | true => exact hC.refuse hof hkey hdenied
      | false =>
        apply hC.admit hof hkey hdenied
        · exact fun b hb => hlast b hb a (by simp)
        · exact hpaced.paused arrivals a [] rfl hof
    · exact hC.other hof (fun hkey => hof (hown.mp hkey))

theorem within_limit (parseIp : String → Option String) (cfg : EndpointConfig) (client : String)
    (group : EndpointGroup) (key : String) (arrivals : List Arrival) (hmono : Monotone arrivals)
    (hpaced : Paced parseIp cfg client group key arrivals) :
    WithinLimit parseIp cfg client group arrivals := by
  intro t
  have hC := counted_of_paced hmono hpaced
  have hle := Window.interval_le_of_paused hC.ordered hC.limited hC.paused t
  have hsame : ((admitted parseIp cfg arrivals).filter fun a => a.Of parseIp client group ∧
      t ≤ a.now ∧ a.now < t + (cfg.limit group client).window).length =
      ((log parseIp cfg client group key arrivals).filter fun e =>
        t ≤ e.time ∧ e.time < t + (cfg.limit group client).window).length := by
    have htimes := congrArg (fun l => (l.filter fun n =>
      t ≤ n ∧ n < t + (cfg.limit group client).window).length)
      (log_times parseIp cfg client group key arrivals)
    simp only [filter_map, length_map, filter_filter, Function.comp_def] at htimes
    rw [htimes]
    congr 2
    funext a
    rw [Bool.decide_and, Bool.and_comm]
  rw [hsame]
  exact hle

/-! ### Sample requests -/

namespace Sample

def noIp (_ : String) : Option String := none

/-- Two requests in a minute. -/
def twice : RateLimitConfig := ⟨2, 60 * NANOS_PER_SEC⟩

def config : EndpointConfig := ⟨twice, twice, twice, twice, twice, twice, twice, twice, ∅⟩

/-- With the API key `k`, after so many seconds. -/
def get (path : String) (secs : ℕ) : Arrival :=
  ⟨⟨path, some "k", none, none, none⟩, secs * NANOS_PER_SEC, secs⟩

end Sample

theorem paced_of_range
    (hown : ∀ a ∈ arrivals, bucketKey parseIp a.request = key ↔ a.Of parseIp client group)
    (hpaused : ∀ i < arrivals.length, ∀ a ∈ arrivals[i]?, a.Of parseIp client group →
      isOver (storeAfter parseIp cfg (arrivals.take i)) key (cfg.limit group client) a.now = true →
      ∀ b ∈ arrivals.take i, b.Of parseIp client group →
        b.now + (cfg.limit group client).window ≤ a.now) :
    Paced parseIp cfg client group key arrivals where
  own := hown
  paused := by
    rintro before a after rfl
    have h := hpaused before.length (by simp) a (by simp)
    rwa [take_left] at h

open Sample in
theorem within_limit_pause :
    WithinLimit noIp config "apikey:k" .quote
      [get "/api/v1/quote/A/B" 0, get "/api/v1/quote/B/A" 1, get "/api/v1/quote/A/B" 61] := by
  apply within_limit noIp config "apikey:k" .quote "rate_limit:quote:apikey:k"
  · unfold Monotone
    decide
  · apply paced_of_range
    · decide
    · decide

open Sample in
/-- Three requests in an interval that meets two windows; and three requests in one second, each
to a path of its own. -/
theorem over_limit :
    ¬ WithinLimit noIp config "apikey:k" .quote
      [get "/api/v1/quote" 0, get "/api/v1/quote" 59, get "/api/v1/quote" 60,
        get "/api/v1/quote" 61] ∧
    ¬ WithinLimit noIp config "apikey:k" .default
      [get "/api/v1/routes/A" 0, get "/api/v1/routes/B" 0, get "/api/v1/routes/C" 0] := by
  constructor
  · intro h
    have hthree := h (59 * NANOS_PER_SEC)
    revert hthree
    decide
  · intro h
    have hthree := h 0
    revert hthree
    decide

end StellarRoute.Http
