import StellarRoute.Lib.HashMap
import StellarRoute.Routing.Spec.Policy

/-! The operators' overrides: the kill switch state of `kill_switch.rs` and what
is built from it for the routing engine (`health/policy.rs`). -/

namespace StellarRoute.Quote

open Lib
open Routing (ProviderPolicy)

inductive VenueType where
  | sdex
  | amm
deriving DecidableEq

inductive OverrideDirective where
  | forceInclude
  | forceExclude
deriving DecidableEq

structure KillSwitchState where
  sources : HashMap VenueType OverrideDirective
  venues : HashMap String OverrideDirective
  /-- bridge adapters and venue operators -/
  providers : HashMap String OverrideDirective
deriving DecidableEq

def KillSwitchState.default : KillSwitchState := ⟨∅, ∅, ∅⟩

structure OverrideEntry where
  venueRef : String
  directive : OverrideDirective

structure OverrideRegistry where
  venueEntries : HashMap String OverrideDirective
  sourceEntries : HashMap VenueType OverrideDirective
deriving DecidableEq

namespace KillSwitchState

def getOverrideRegistry (state : KillSwitchState) : OverrideRegistry where
  venueEntries := state.venues
  sourceEntries := state.sources

/-- One turn of the loop over the providers. -/
def killProvider (killSwitches : String → Option Bool) (provider : String)
    (directive : OverrideDirective) : String → Option Bool :=
  if directive = .forceExclude then Function.update killSwitches provider (some true)
  else killSwitches

def getProviderPolicy (state : KillSwitchState) : ProviderPolicy where
  allowlist := []
  denylist := []
  killSwitches := state.providers.entries.foldl
    (fun killSwitches entry => killProvider killSwitches entry.1 entry.2) fun _ => none

end KillSwitchState

end StellarRoute.Quote
