import StellarRoute.Quote.Sanity.Selection

/-! Whether the kill switch keeps a venue out of a quote. The overrides are
reported with the quote, but the venue is selected from a list they are not
applied to, so a force-excluded venue is left out only when another one comes
before it. -/

namespace StellarRoute.Quote

open Lib DirectVenueCandidate List

variable {m : Market} {killSwitch : KillSwitchState} {amount : F64}

def KillSwitchState.Excludes (killSwitch : KillSwitchState) (c : DirectVenueCandidate) : Prop :=
  killSwitch.venues.lookup c.venueRef = some .forceExclude ∨
    killSwitch.sources.lookup c.source = some .forceExclude

/-- What the policy reports as an override: its source's inclusion outweighs the venue's own
exclusion. -/
def KillSwitchState.Overrides (killSwitch : KillSwitchState) (c : DirectVenueCandidate) : Prop :=
  killSwitch.sources.lookup c.source = some .forceExclude ∨
    killSwitch.venues.lookup c.venueRef = some .forceExclude ∧
      killSwitch.sources.lookup c.source ≠ some .forceInclude

def KillSwitchState.AllowsProvider (killSwitch : KillSwitchState) (c : DirectVenueCandidate) :
    Prop :=
  killSwitch.getProviderPolicy.isProviderAllowed c.provider

/-- The selected venue is not force-excluded, nor listed as excluded by override. -/
def BestPrice.Respects (quote : BestPrice) (killSwitch : KillSwitchState) : Prop :=
  ¬ killSwitch.Excludes quote.selected ∧
    ⟨quote.selected.venueRef, .override⟩ ∉ quote.excludedVenues

namespace Market

/-- The venue can be selected for the amount. -/
structure Considered (m : Market) (killSwitch : KillSwitchState) (amount : F64)
    (c : DirectVenueCandidate) : Prop where
  routed : m.Routed c
  allowed : killSwitch.AllowsProvider c
  executable : c.executable amount

def Reported (m : Market) (killSwitch : KillSwitchState) (venueRef : String) : Prop :=
  ∃ d, m.Routed d ∧ d.venueRef = venueRef ∧
    (killSwitch.Overrides d ∨ ¬ killSwitch.AllowsProvider d)

end Market

variable {c d : DirectVenueCandidate}

theorem exclusion_eq_override {thresholds : ExclusionThresholds} {breaker : String → Bool}
    {score : F64} : (ExclusionPolicy.mk thresholds killSwitch.getOverrideRegistry breaker).exclusion
      ⟨(scorerInput c).venueRef, (scorerInput c).venueType, score⟩ = some .override ↔
    killSwitch.Overrides c := by
  rw [scorerInput_venueRef]
  unfold ExclusionPolicy.exclusion KillSwitchState.Overrides KillSwitchState.getOverrideRegistry
  simp only [DirectVenueCandidate.source]
  generalize killSwitch.sources.lookup (scorerInput c).venueType = source
  generalize killSwitch.venues.lookup c.venueRef = venue
  rcases source with _ | _ | _ <;> rcases venue with _ | _ | _ <;> simp
  split_ifs <;> simp

/-- The selected venue comes first of those considered, and the refs listed as excluded by override
are those of the routed venues that are. -/
structure Chosen (m : Market) (killSwitch : KillSwitchState) (amount : F64) (quote : BestPrice) :
    Prop where
  considered : m.Considered killSwitch amount quote.selected
  le : ∀ c, m.Considered killSwitch amount c → quote.selected.rank ≤ c.rank
  simulated : m.simulateVenue quote.selected amount = .ok ()
  listed : ∀ venueRef, ⟨venueRef, .override⟩ ∈ quote.excludedVenues ↔
    m.Reported killSwitch venueRef

theorem mem_apply {policy : ExclusionPolicy} {scored : List ScoredVenue} {venueRef : String}
    {reason : ExclusionReason} : ⟨venueRef, reason⟩ ∈ policy.apply scored ↔
      ∃ venue ∈ scored, policy.exclusion venue = some reason ∧ venue.venueRef = venueRef := by
  simp only [ExclusionPolicy.apply, mem_filterMap, Option.map_eq_some_iff,
    ExcludedVenueInfo.mk.injEq]
  constructor
  · intro ⟨venue, hmem, r, hr, href, hreason⟩
    exact ⟨venue, hmem, hreason ▸ hr, href⟩
  · intro ⟨venue, hmem, hr, href⟩
    exact ⟨venue, hmem, reason, hr, href, rfl⟩

section Stages

variable {indices : List ℕ} {entries : List ExcludedVenueInfo}

theorem mem_routed (hindices : selectRoutingIndicesAfterFreshness m.freshness m.directCandidates =
    .ok (indices, entries)) {c : DirectVenueCandidate} :
    c ∈ indices.filterMap (m.directCandidates[·]?) ↔ m.Routed c := by
  rw [mem_filterMap, (Market.selectRoutingIndices_eq_ok hindices).1]

theorem mem_scored (hindices : selectRoutingIndicesAfterFreshness m.freshness m.directCandidates =
    .ok (indices, entries)) {venue : ScoredVenue} :
    venue ∈ (indices.filterMap ((m.directCandidates.map scorerInput)[·]?)).map
      (fun input => ScoredVenue.mk input.venueRef input.venueType (m.score input)) ↔
    ∃ c, m.Routed c ∧ venue =
      ⟨(scorerInput c).venueRef, (scorerInput c).venueType, m.score (scorerInput c)⟩ := by
  simp only [mem_map, mem_filterMap, getElem?_map, Option.map_eq_some_iff,
    ← (Market.selectRoutingIndices_eq_ok hindices).1]
  constructor
  · intro ⟨_, ⟨i, hi, c, hc, hinput⟩, hvenue⟩
    subst hinput
    exact ⟨c, ⟨i, hi, hc⟩, hvenue.symm⟩
  · intro ⟨c, ⟨i, hi, hc⟩, hvenue⟩
    exact ⟨_, ⟨i, hi, c, hc, rfl⟩, hvenue.symm⟩

end Stages

theorem findBestPrice_eq_ok {quote : BestPrice}
    (h : findBestPrice m killSwitch amount = .ok quote) : Chosen m killSwitch amount quote := by
  simp only [findBestPrice, bind_eq_ok, pure_eq_ok] at h
  obtain ⟨⟨indices, entries⟩, hindices, ⟨selected, rationale⟩, hselected, ⟨⟩, hsim, rfl⟩ := h
  have hfirst := evaluateSingleHop_eq_ok hselected
  have hmem := hfirst.mem
  simp only [mem_filter, mem_routed hindices] at hmem
  refine ⟨⟨hmem.1, hmem.2, hfirst.executable⟩, ?_, hsim, ?_⟩
  · intro c hc
    apply hfirst.le c _ hc.executable
    simp only [mem_filter, mem_routed hindices]
    exact ⟨hc.routed, hc.allowed⟩
  · intro venueRef
    have hstale : ⟨venueRef, .override⟩ ∉ entries :=
      fun he => by cases (Market.selectRoutingIndices_eq_ok hindices).2 _ he
    simp only [mem_append, hstale, false_or, mem_apply, mem_scored hindices, mem_map,
      mem_filter, mem_routed hindices]
    constructor
    · rintro (⟨venue, ⟨c, hc, rfl⟩, hreason, href⟩ | ⟨c, ⟨hc, hallowed⟩, heq⟩)
      · exact ⟨c, hc, scorerInput_venueRef.symm.trans href, .inl (exclusion_eq_override.mp hreason)⟩
      · refine ⟨c, hc, congrArg ExcludedVenueInfo.venueRef heq, .inr ?_⟩
        simpa [KillSwitchState.AllowsProvider] using hallowed
    · rintro ⟨c, hc, href, hover | hallowed⟩
      · exact .inl ⟨_, ⟨c, hc, rfl⟩, exclusion_eq_override.mpr hover,
          scorerInput_venueRef.trans href⟩
      · refine .inr ⟨c, ⟨hc, ?_⟩, by rw [href]⟩
        simpa [KillSwitchState.AllowsProvider] using hallowed

/-- Once a venue can be selected, one is, and only its simulation can still fail. -/
theorem findBestPrice_total (hc : m.Considered killSwitch amount c) :
    ∃ selected, m.Considered killSwitch amount selected ∧
      (∀ d, m.Considered killSwitch amount d → selected.rank ≤ d.rank) ∧
      (m.simulateVenue selected amount = .ok () →
        ∃ quote, findBestPrice m killSwitch amount = .ok quote ∧ quote.selected = selected) := by
  obtain ⟨⟨indices, entries⟩, hindices⟩ := Market.selectRoutingIndices_total hc.routed
  have hmem : ∀ d, d ∈ (indices.filterMap (m.directCandidates[·]?)).filter
      (fun d => killSwitch.getProviderPolicy.isProviderAllowed d.provider) ↔
      m.Routed d ∧ killSwitch.AllowsProvider d := by
    intro d
    simp only [mem_filter, mem_routed hindices, KillSwitchState.AllowsProvider]
  obtain ⟨⟨selected, rationale⟩, hselected⟩ :=
    evaluateSingleHop_total ((hmem c).mpr ⟨hc.routed, hc.allowed⟩) hc.executable
  have hfirst := evaluateSingleHop_eq_ok hselected
  obtain ⟨hrouted, hallowed⟩ := (hmem selected).mp hfirst.mem
  refine ⟨selected, ⟨hrouted, hallowed, hfirst.executable⟩, ?_, ?_⟩
  · intro d hd
    exact hfirst.le d ((hmem d).mpr ⟨hd.routed, hd.allowed⟩) hd.executable
  · intro hsim
    rw [Market.freshness] at hindices
    simp only [findBestPrice, hindices, ok_bind, hselected, hsim]
    exact ⟨_, rfl, rfl⟩

theorem simulateVenue_congr (h : c.rank = d.rank)
    (hc : c.executable amount) : m.simulateVenue c amount = m.simulateVenue d amount := by
  obtain ⟨hkey, htype, href⟩ := of_rank_eq h
  simp only [DirectVenueCandidate.executable, Bool.and_eq_true] at hc
  have hprice : c.price = d.price := F64.eq_of_key_eq (F64.key_pos_of_gt_zero hc.2) hkey
  simp only [Market.simulateVenue, htype, href, hprice]

theorem excludes_congr (h : c.rank = d.rank) : killSwitch.Excludes c ↔ killSwitch.Excludes d := by
  obtain ⟨-, htype, href⟩ := of_rank_eq h
  rw [KillSwitchState.Excludes, KillSwitchState.Excludes, source_congr htype, href]

/-- A quote keeps to the kill switch exactly when no venue that it force-excludes, or that it
reports, is the first of the executable ones. -/
theorem quote_respects_iff (m : Market) (killSwitch : KillSwitchState) (amount : F64) :
    (∀ quote, findBestPrice m killSwitch amount = .ok quote → quote.Respects killSwitch) ↔
      ∀ c, m.Considered killSwitch amount c → m.simulateVenue c amount = .ok () →
        killSwitch.Excludes c ∨ m.Reported killSwitch c.venueRef →
        ∃ d, m.Considered killSwitch amount d ∧ d.rank < c.rank := by
  constructor
  · intro hquotes c hc hsim hbad
    by_contra hfirst
    obtain ⟨selected, hselected, hle, hquote⟩ := findBestPrice_total hc
    have heq : selected.rank = c.rank := by
      apply le_antisymm (hle c hc)
      rw [← not_lt]
      exact fun hlt => hfirst ⟨selected, hselected, hlt⟩
    obtain ⟨quote, hfind, rfl⟩ := hquote
      ((simulateVenue_congr heq hselected.executable).trans hsim)
    obtain ⟨hexcl, hlisted⟩ := hquotes quote hfind
    rw [(findBestPrice_eq_ok hfind).listed, (of_rank_eq heq).2.2] at hlisted
    rw [excludes_congr heq] at hexcl
    exact hbad.elim hexcl hlisted
  · intro hcond quote hfind
    have hchosen := findBestPrice_eq_ok hfind
    by_contra hbad
    have hreach : killSwitch.Excludes quote.selected ∨
        m.Reported killSwitch quote.selected.venueRef := by
      rw [BestPrice.Respects, hchosen.listed] at hbad
      tauto
    obtain ⟨d, hd, hlt⟩ := hcond _ hchosen.considered hchosen.simulated hreach
    exact absurd (hchosen.le d hd) (not_le.mpr hlt)

def killedPool : DirectVenueCandidate where
  venueType := "amm"
  venueRef := "CPOOL"
  price := ⟨0x3FF0000000000000⟩
  availableAmount := ⟨0x3FF0000000000000⟩
  priceE7 := SInt.wrap 64 10000000
  availableAmountE7 := SInt.wrap 64 10000000
  isInverse := false
  feeBps := 0
  provider := none
  updatedAt := some 0
  price_ne_nan := by decide

def killedMarket : Market where
  sdex := some []
  amm := some [killedPool]
  now := 0
  score := fun _ => ⟨0x3FF0000000000000⟩
  circuitBreaker := fun _ => false
  sorobanSimulationEnabled := false
  sorobanSimulator := none

/-- Every AMM is switched off, and the quote is on an AMM it lists as excluded. -/
theorem killed_pool_selected :
    (findBestPrice killedMarket ⟨AList.singleton .amm .forceExclude, ∅, ∅⟩
        ⟨0x3FF0000000000000⟩).map (fun quote => (quote.selected, quote.excludedVenues)) =
      .ok (killedPool, [⟨"CPOOL", .override⟩]) := by
  decide

end StellarRoute.Quote
