import Mathlib.Data.String.Basic
import StellarRoute.Lib.Double
import StellarRoute.Lib.MachineInt
import StellarRoute.Quote.Spec.KillSwitch

/-! How a quote chooses its venue: `find_best_price` of `routes/quote.rs`, with
the freshness guard (`health/freshness.rs`) and the exclusion policy
(`health/policy.rs`) it applies on the way. A health score only decides which
threshold exclusions are reported, so scoring is a function the model is given;
so are the circuit breaker's answers and the Soroban simulator. Midpoint and
spread, the texts of prices and the tracing are left out. -/

namespace StellarRoute.Quote

open Lib
open Routing (ProviderPolicy)

/-- Nanoseconds since the epoch. -/
abbrev DateTime := ℤ

inductive ApiError where
  | noRouteFound
  | notExecutable (reason : String)
deriving DecidableEq

abbrev Result := Except ApiError

structure DirectVenueCandidate where
  venueType : String
  venueRef : String
  price : F64
  availableAmount : F64
  priceE7 : I64
  availableAmountE7 : I64
  isInverse : Bool
  feeBps : UInt32
  provider : Option String
  updatedAt : Option DateTime
  /-- `price_e7` of the same row is a cast of the price to `bigint`, which no NaN passes -/
  price_ne_nan : price.isNaN = false
deriving DecidableEq

namespace DirectVenueCandidate

def comparisonSource (c : DirectVenueCandidate) : String := s!"{c.venueType}:{c.venueRef}"

end DirectVenueCandidate

/-! ### Freshness -/

structure VenueScorerInput where
  venueRef : String
  venueType : VenueType
  bestBidE7 : Option ℤ
  bestAskE7 : Option ℤ
  depthTopNE7 : Option ℤ
  reserveAE7 : Option ℤ
  reserveBE7 : Option ℤ
  tvlE7 : Option ℤ
  lastUpdatedAt : Option DateTime

def scorerInput (c : DirectVenueCandidate) : VenueScorerInput :=
  if c.venueType = "amm" then
    { venueRef := c.venueRef
      venueType := .amm
      bestBidE7 := none
      bestAskE7 := none
      depthTopNE7 := none
      reserveAE7 := some c.availableAmountE7.toInt
      reserveBE7 := some c.availableAmountE7.toInt
      tvlE7 := some (SInt.wrap 64 (c.availableAmountE7.toInt * 2)).toInt
      lastUpdatedAt := c.updatedAt }
  else
    { venueRef := c.venueRef
      venueType := .sdex
      bestBidE7 := none
      bestAskE7 := some c.priceE7.toInt
      depthTopNE7 := some c.availableAmountE7.toInt
      reserveAE7 := none
      reserveBE7 := none
      tvlE7 := none
      lastUpdatedAt := c.updatedAt }

structure FreshnessThresholds where
  sdex : ℕ
  amm : ℕ

structure FreshnessResult where
  isFresh : Bool
  stalenessSecs : ℕ

structure FreshnessOutcome where
  fresh : List ℕ
  stale : List ℕ
  maxStalenessSecs : ℕ

namespace FreshnessGuard

def classify (input : VenueScorerInput) (thresholds : FreshnessThresholds) (now : DateTime) :
    FreshnessResult :=
  let threshold := match input.venueType with
    | .sdex => thresholds.sdex
    | .amm => thresholds.amm
  match input.lastUpdatedAt with
  | none => ⟨false, 2 ^ 64 - 1⟩
  | some ts =>
    -- rounded up, so that 60.1 s does not pass for 60
    let stalenessMs := (now - ts).tdiv 1000000
    let stalenessSecs := if stalenessMs ≤ 0 then 0 else ((stalenessMs + 999) / 1000).toNat
    ⟨stalenessSecs ≤ threshold, stalenessSecs⟩

def note (outcome : FreshnessOutcome) (idx : ℕ) (result : FreshnessResult) : FreshnessOutcome where
  fresh := if result.isFresh then outcome.fresh ++ [idx] else outcome.fresh
  stale := if result.isFresh then outcome.stale else outcome.stale ++ [idx]
  maxStalenessSecs := max outcome.maxStalenessSecs result.stalenessSecs

def evaluate (inputs : List VenueScorerInput) (thresholds : FreshnessThresholds)
    (now : DateTime) : FreshnessOutcome :=
  inputs.zipIdx.foldl (fun outcome entry =>
    note outcome entry.2 (classify entry.1 thresholds now)) ⟨[], [], 0⟩

end FreshnessGuard

/-! ### Exclusions -/

inductive ExclusionReason where
  | policyThreshold (threshold : F64)
  | override
  | staleData
  | circuitBreakerOpen
deriving DecidableEq

structure ExcludedVenueInfo where
  venueRef : String
  reason : ExclusionReason
deriving DecidableEq

structure ScoredVenue where
  venueRef : String
  venueType : VenueType
  score : F64

structure ExclusionThresholds where
  sdex : F64
  amm : F64

structure ExclusionPolicy where
  thresholds : ExclusionThresholds
  overrides : OverrideRegistry
  /-- whether the breaker of a venue is open -/
  circuitBreaker : String → Bool

namespace ExclusionPolicy

def exclusion (p : ExclusionPolicy) (venue : ScoredVenue) : Option ExclusionReason :=
  match p.overrides.sourceEntries.lookup venue.venueType,
      p.overrides.venueEntries.lookup venue.venueRef with
  | some .forceExclude, _ => some .override
  | _, some .forceInclude | some .forceInclude, _ => none
  | _, some .forceExclude => some .override
  | none, none =>
    let threshold := match venue.venueType with
      | .sdex => p.thresholds.sdex
      | .amm => p.thresholds.amm
    if p.circuitBreaker venue.venueRef then some .circuitBreakerOpen
    else if venue.score.lt threshold then some (.policyThreshold threshold)
    else none

def apply (p : ExclusionPolicy) (scored : List ScoredVenue) : List ExcludedVenueInfo :=
  scored.filterMap fun venue => (p.exclusion venue).map fun reason => ⟨venue.venueRef, reason⟩

end ExclusionPolicy

structure HealthScoringConfig where
  thresholds : ExclusionThresholds
  overrides : List OverrideEntry
  freshnessThresholdSecs : FreshnessThresholds

/-- The thresholds of both sources are 0.5. -/
def HealthScoringConfig.default : HealthScoringConfig where
  thresholds := ⟨⟨0x3FE0000000000000⟩, ⟨0x3FE0000000000000⟩⟩
  overrides := []
  freshnessThresholdSecs := ⟨30, 60⟩

/-! ### Venue selection -/

def selectRoutingIndicesAfterFreshness (outcome : FreshnessOutcome)
    (directCandidates : List DirectVenueCandidate) : Result (List ℕ × List ExcludedVenueInfo) :=
  if !outcome.fresh.isEmpty then
    let exclusions := (outcome.stale.filterMap (directCandidates[·]?)).map fun candidate =>
      ⟨candidate.venueRef, .staleData⟩
    .ok (outcome.fresh, exclusions)
  else if directCandidates.isEmpty then .error .noRouteFound
  -- all of the data is stale: quote on it anyway
  else if outcome.stale.isEmpty then .ok (List.range directCandidates.length, [])
  else .ok (outcome.stale, [])

def DirectVenueCandidate.cmp (a b : DirectVenueCandidate) : Ordering :=
  (((a.price.partialCmp b.price).getD .eq).then (compare a.venueType b.venueType)).then
    (compare a.venueRef b.venueRef)

def DirectVenueCandidate.executable (amount : F64) (c : DirectVenueCandidate) : Bool :=
  c.availableAmount.ge amount && c.price.gt F64.zero

structure VenueEvaluation where
  source : String
  executable : Bool
deriving DecidableEq

structure QuoteRationaleMetadata where
  strategy : String
  selectedSource : String
  comparedVenues : List VenueEvaluation
deriving DecidableEq

/-- `sort_by`, which is stable. -/
def sortCandidates (candidates : List DirectVenueCandidate) : List DirectVenueCandidate :=
  candidates.insertionSort fun a b => a.cmp b ≠ .gt

def evaluateSingleHopDirectVenues (candidates : List DirectVenueCandidate) (amount : F64) :
    Result (DirectVenueCandidate × QuoteRationaleMetadata) := do
  require (candidates ≠ []) .noRouteFound
  let candidates := sortCandidates candidates
  let comparedVenues := candidates.map fun candidate =>
    ⟨candidate.comparisonSource, candidate.executable amount⟩
  let selected ← okOr (candidates.find? (·.executable amount)) .noRouteFound
  return (selected,
    { strategy := "single_hop_direct_venue_comparison"
      selectedSource := selected.comparisonSource
      comparedVenues })

structure SimulationResult where
  simulated : Bool
  success : Bool
  failureReason : Option String

/-- What the service finds around it when it is asked for a quote. -/
structure Market where
  /-- `none` when the source failed or timed out -/
  sdex : Option (List DirectVenueCandidate)
  amm : Option (List DirectVenueCandidate)
  now : DateTime
  score : VenueScorerInput → F64
  circuitBreaker : String → Bool
  sorobanSimulationEnabled : Bool
  /-- the venue, amount and price of the payload -/
  sorobanSimulator : Option (String → F64 → F64 → SimulationResult)

namespace Market

def candidates (m : Market) : List DirectVenueCandidate := m.sdex.getD [] ++ m.amm.getD []

def directCandidates (m : Market) : List DirectVenueCandidate :=
  m.candidates.filter fun c => !c.isInverse

/-- The dry run of an AMM venue. -/
def simulateVenue (m : Market) (selected : DirectVenueCandidate) (amount : F64) : Result Unit :=
  if selected.venueType = "amm" && m.sorobanSimulationEnabled then
    match m.sorobanSimulator with
    | none => .ok ()
    | some simulate =>
      let result := simulate selected.venueRef amount selected.price
      if result.simulated && !result.success then
        .error (.notExecutable (result.failureReason.getD "simulation_failure"))
      else .ok ()
  else .ok ()

end Market

/-- The price and the path of the answer are those of the selected venue. -/
structure BestPrice where
  selected : DirectVenueCandidate
  rationale : QuoteRationaleMetadata
  excludedVenues : List ExcludedVenueInfo
  freshnessOutcome : FreshnessOutcome
  freshTimestamps : List DateTime

def findBestPrice (m : Market) (killSwitch : KillSwitchState) (amount : F64) :
    Result BestPrice := do
  let directCandidates := m.directCandidates
  let scorerInputs := directCandidates.map scorerInput
  let healthConfig := HealthScoringConfig.default
  let freshnessOutcome :=
    FreshnessGuard.evaluate scorerInputs healthConfig.freshnessThresholdSecs m.now
  let (routingIndices, staleExclusionEntries) ←
    selectRoutingIndicesAfterFreshness freshnessOutcome directCandidates
  let freshCandidates := routingIndices.filterMap (directCandidates[·]?)
  let scored := (routingIndices.filterMap (scorerInputs[·]?)).map fun input =>
    ScoredVenue.mk input.venueRef input.venueType (m.score input)
  let registry := killSwitch.getOverrideRegistry
  let overrides := { registry with
    venueEntries := healthConfig.overrides.foldl
      (fun entries entry => entries.insert entry.venueRef entry.directive) registry.venueEntries }
  let policy : ExclusionPolicy := ⟨healthConfig.thresholds, overrides, m.circuitBreaker⟩
  let providerPolicy := killSwitch.getProviderPolicy
  -- the graph filter is given no edges, so the policy's verdicts are only reported
  let healthExclusionEntries := policy.apply scored
  let providerExcluded :=
    (freshCandidates.filter fun c => !providerPolicy.isProviderAllowed c.provider).map fun c =>
      ExcludedVenueInfo.mk c.venueRef .override
  let freshCandidates := freshCandidates.filter fun c => providerPolicy.isProviderAllowed c.provider
  let (selected, rationale) ← evaluateSingleHopDirectVenues freshCandidates amount
  m.simulateVenue selected amount
  return {
    selected
    rationale
    excludedVenues := staleExclusionEntries ++ healthExclusionEntries ++ providerExcluded
    freshnessOutcome
    freshTimestamps := routingIndices.filterMap fun idx =>
      (scorerInputs[idx]?).bind VenueScorerInput.lastUpdatedAt }

end StellarRoute.Quote
