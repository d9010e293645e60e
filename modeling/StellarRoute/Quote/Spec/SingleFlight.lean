import Mathlib.Logic.Function.Basic
import StellarRoute.Lib.HashMap

/-! `SingleFlight::execute` of `cache/mod.rs`: concurrent callers for a key share
one computation. A caller is at one point of the function, and each step takes
it over one access of shared state: the map of entries while its lock is held,
the flag `abandoned`, the result while its lock is held, or the `Notify`, whose
futures are woken by every `notify_waiters` after they were created. A caller
that is dropped at an await point is gone, and a leader first drops its guard.
`execute_with_label` differs in its metrics only. -/

namespace StellarRoute.Quote

open Lib

structure InFlight (V : Type) where
  /-- under which the entry was inserted -/
  key : String
  result : Option V
  /-- how often `notify_waiters` has been called -/
  notified : ℕ
  abandoned : Bool

inductive Phase (V : Type) where
  /-- about to lock the map -/
  | start
  /-- has cloned the entry and released the map -/
  | found (e : ℕ)
  /-- has created its `Notified`, about to read the result -/
  | registered (e seen : ℕ)
  /-- at `notified.await` -/
  | waiting (e seen : ℕ)
  /-- was notified, about to look at `abandoned` -/
  | woken (e : ℕ)
  /-- about to read the result again -/
  | reread (e : ℕ)
  /-- the leader, at `f_taken().await` -/
  | computing (e : ℕ)
  /-- at `result.write().await` -/
  | writing (e : ℕ) (v : V)
  /-- about to notify that the result is there -/
  | written (e : ℕ) (v : V)
  /-- drops its guard, with what it returns if it was not cancelled -/
  | dropping (e : ℕ) (out : Option V)
  /-- the guard is about to notify -/
  | notifying (e : ℕ) (out : Option V)
  /-- the guard is about to spawn the task that removes the entry -/
  | spawning (e : ℕ) (out : Option V)
  | returned (v : V)
  | cancelled
deriving DecidableEq

structure Caller (V : Type) where
  key : String
  phase : Phase V
deriving DecidableEq

/-- The entries are numbered in the order of their creation; the map holds their numbers. -/
structure FlightState (V : Type) where
  inflight : HashMap String ℕ
  entries : ℕ → InFlight V
  next : ℕ
  /-- the tasks that were spawned and have not run -/
  tasks : List (String × ℕ)
  /-- the computations that have finished -/
  computed : List (String × V)

structure SingleFlight (V : Type) where
  state : FlightState V
  callers : List (Caller V)

/-- What a computation yields, and whether `try_read` succeeds. -/
structure FlightEnv (V : Type) where
  value : V
  readable : Bool

inductive FlightChoice (V : Type) where
  | call (key : String)
  | step (i : ℕ) (env : FlightEnv V)
  /-- the future of the caller is dropped -/
  | cancel (i : ℕ)
  /-- a task that was spawned runs -/
  | task (n : ℕ)

variable {V : Type}

namespace FlightState

def update (s : FlightState V) (e : ℕ) (f : InFlight V → InFlight V) : FlightState V :=
  { s with entries := Function.update s.entries e (f (s.entries e)) }

def notifyWaiters (s : FlightState V) (e : ℕ) : FlightState V :=
  s.update e fun entry => { entry with notified := entry.notified + 1 }

/-- `mg.remove(key)`. -/
def remove (s : FlightState V) (key : String) : FlightState V :=
  { s with inflight := s.inflight.erase key }

/-- A new entry in the map. -/
def insert (s : FlightState V) (key : String) : FlightState V :=
  { s with
    inflight := s.inflight.insert key s.next
    entries := Function.update s.entries s.next ⟨key, none, 0, false⟩
    next := s.next + 1 }

/-- With the map locked: take the entry of the key, remove it if it was abandoned, or become the
leader of a new one. -/
def lookUp (s : FlightState V) (key : String) : Phase V × FlightState V :=
  match s.inflight.lookup key with
  | some e => if (s.entries e).abandoned then (.start, s.remove key) else (.found e, s)
  | none => (.computing s.next, s.insert key)

/-- The task of a guard: the entry is removed if it is still that of the guard. -/
def removeEntry (s : FlightState V) (key : String) (e : ℕ) : FlightState V :=
  if s.inflight.lookup key = some e then s.remove key else s

end FlightState

namespace SingleFlight

/-- The next access of the caller, and where it is then. -/
def advance (env : FlightEnv V) (c : Caller V) (s : FlightState V) : Phase V × FlightState V :=
  match c.phase with
  | .start => s.lookUp c.key
  | .found e => (.registered e (s.entries e).notified, s)
  | .registered e seen =>
    match (s.entries e).result with
    | some v => (.returned v, s)
    | none => (.waiting e seen, s)
  | .waiting e seen => (if seen < (s.entries e).notified then .woken e else .waiting e seen, s)
  | .woken e => (if (s.entries e).abandoned then .start else .reread e, s)
  | .reread e =>
    match (s.entries e).result with
    | some v => (.returned v, s)
    | none => (.start, s)
  | .computing e => (.writing e env.value, { s with computed := (c.key, env.value) :: s.computed })
  | .writing e v => (.written e v, s.update e fun entry => { entry with result := some v })
  | .written e v => (.dropping e (some v), s.notifyWaiters e)
  | .dropping e out =>
    let abandoned := if env.readable then (s.entries e).result.isNone else true
    (.notifying e out,
      if abandoned then s.update e fun entry => { entry with abandoned := true } else s)
  | .notifying e out => (.spawning e out, s.notifyWaiters e)
  | .spawning e out =>
    (match out with
      | some v => .returned v
      | none => .cancelled,
      { s with tasks := s.tasks ++ [(c.key, e)] })
  | .returned v => (.returned v, s)
  | .cancelled => (.cancelled, s)

/-- A caller is only dropped at an await point. -/
def drop : Phase V → Phase V
  | .start | .registered _ _ | .waiting _ _ | .reread _ => .cancelled
  | .computing e | .writing e _ => .dropping e none
  | phase => phase

def step (s : SingleFlight V) : FlightChoice V → SingleFlight V
  | .call key => { s with callers := s.callers ++ [⟨key, .start⟩] }
  | .step i env =>
    match s.callers[i]? with
    | none => s
    | some c =>
      let (phase, state) := advance env c s.state
      ⟨state, s.callers.set i { c with phase }⟩
  | .cancel i =>
    match s.callers[i]? with
    | none => s
    | some c => { s with callers := s.callers.set i { c with phase := drop c.phase } }
  | .task n =>
    match s.state.tasks[n]? with
    | none => s
    | some (key, e) =>
      { s with state := { s.state.removeEntry key e with tasks := s.state.tasks.eraseIdx n } }

/-- Nothing is in flight, and nobody calls. -/
def new : SingleFlight V :=
  ⟨⟨∅, fun _ => ⟨"", none, 0, false⟩, 0, [], []⟩, []⟩

end SingleFlight

end StellarRoute.Quote
