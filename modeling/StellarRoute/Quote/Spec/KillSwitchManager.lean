import StellarRoute.Lib.Interleave
import StellarRoute.Quote.Spec.KillSwitch

/-! The kill switch of one API instance, `KillSwitchManager` of `kill_switch.rs`:
a state in memory that is written through to Redis by an update and copied back
from Redis by the background load. The two locks are held as in the source: the
memory for one access, the cache from before a command until what follows from
it is done. A stored payload reads back as the state it was written from.
Metrics are left out. -/

namespace StellarRoute.Quote

open Lib Lib.Interleave

inductive CacheResult (α : Type) where
  | hit (value : α)
  | miss
  | unavailable
deriving DecidableEq

/-- Whether the instance has a cache, and what its Redis makes of a `SETEX` whose expiry is zero:
an error, or a key without expiry as the caller expects. -/
structure KillSwitchConfig where
  cached : Bool
  zeroExpiry : Except String Unit

/-- What the connection to Redis gives at that instant. -/
abbrev Connection := Except String Unit

structure ManagerState where
  memory : KillSwitchState
  /-- under `stellarroute:kill_switches` -/
  redis : Option KillSwitchState
  cacheLocked : Bool
deriving DecidableEq

inductive ManagerOp where
  | setMemory (state : KillSwitchState)
  | lockCache
  | unlockCache
  | get
  /-- the expiry is in seconds -/
  | setEx (state : KillSwitchState) (ttl : ℕ)

def ManagerOp.Res : ManagerOp → Type
  | .get => CacheResult KillSwitchState
  | .setEx _ _ => Except String Unit
  | _ => Unit

def ManagerState.get (s : ManagerState) (connection : Connection) : CacheResult KillSwitchState :=
  match connection, s.redis with
  | .error _, _ => .unavailable
  | .ok (), none => .miss
  | .ok (), some state => .hit state

def ManagerState.setEx (s : ManagerState) (cfg : KillSwitchConfig) (connection : Connection)
    (state : KillSwitchState) (ttl : ℕ) : Except String Unit × ManagerState :=
  match connection, if ttl = 0 then cfg.zeroExpiry else .ok () with
  | .error e, _ => (.error e, s)
  | .ok (), .error e => (.error e, s)
  | .ok (), .ok () => (.ok (), { s with redis := some state })

inductive ManagerCall where
  | load
  | updateState (newState : KillSwitchState)
deriving DecidableEq

abbrev ManagerPool :=
  Pool Connection ManagerState ManagerOp ManagerOp.Res ManagerCall (Except String Unit)

abbrev ManagerThread :=
  Thread Connection ManagerState ManagerOp ManagerOp.Res ManagerCall (Except String Unit)

abbrev ManagerChoice := Choice Connection ManagerCall

namespace KillSwitchManager

variable (cfg : KillSwitchConfig)

def exec : Exec Connection ManagerState ManagerOp ManagerOp.Res
  | _, .setMemory state, s => ((), { s with memory := state })
  | _, .lockCache, s => ((), { s with cacheLocked := true })
  | _, .unlockCache, s => ((), { s with cacheLocked := false })
  | connection, .get, s => (s.get connection, s)
  | connection, .setEx state ttl, s => s.setEx cfg connection state ttl

abbrev ManagerProg := Prog ManagerOp ManagerOp.Res

def perform (o : ManagerOp) : ManagerProg o.Res := .call o

/-- What a load does with the answer of Redis. -/
def copyHit : CacheResult KillSwitchState → ManagerProg Unit
  | .hit state => perform (.setMemory state)
  | .miss | .unavailable => pure ()

def load : ManagerProg Unit :=
  if cfg.cached then do
    let _ ← perform .lockCache
    let result ← perform .get
    copyHit result
    let _ ← perform .unlockCache
    pure ()
  else pure ()

/-- No TTL for kill switches: the expiry is zero. -/
def updateState (newState : KillSwitchState) : ManagerProg (Except String Unit) := do
  let _ ← perform (.setMemory newState)
  if cfg.cached then do
    let _ ← perform .lockCache
    let result ← perform (.setEx newState 0)
    let _ ← perform .unlockCache
    pure (Except.mapError (fun e => s!"Redis error: {e}") result)
  else pure (.ok ())

def start : ManagerCall → ManagerProg (Except String Unit)
  | .load => do
    load cfg
    pure (.ok ())
  | .updateState newState => updateState cfg newState

/-- A lock that is held is waited for. -/
def LockFree (_ : Connection) (s : ManagerState) : ManagerOp → Prop
  | .lockCache => s.cacheLocked = false
  | _ => True

end KillSwitchManager

end StellarRoute.Quote
