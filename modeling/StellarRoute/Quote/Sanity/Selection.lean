import StellarRoute.Lib.SortedVec
import StellarRoute.Quote.Spec.Selection

/-! What the stages of the quote pipeline hand on: which venues are routed, which
of them are reported as overridden, and that the selected one comes first among
the executable ones. -/

namespace StellarRoute.Quote

open Lib List

namespace DirectVenueCandidate

variable {a b c : DirectVenueCandidate} {l : List DirectVenueCandidate}

def rank (c : DirectVenueCandidate) : ℤ ×ₗ String ×ₗ String :=
  toLex (c.price.key, toLex (c.venueType, c.venueRef))

theorem cmp_eq_compare_rank : a.cmp b = compare a.rank b.rank := by
  have hprice := F64.partialCmp_of_not_nan a.price_ne_nan b.price_ne_nan
  simp only [cmp, hprice, Option.getD_some, rank, Ordering.then_assoc]
  rfl

theorem cmp_ne_gt_iff : a.cmp b ≠ .gt ↔ a.rank ≤ b.rank := by
  rw [cmp_eq_compare_rank]
  exact compare_le_iff_le

theorem of_rank_eq (h : a.rank = b.rank) :
    a.price.key = b.price.key ∧ a.venueType = b.venueType ∧ a.venueRef = b.venueRef := by
  have hpair := toLex.injective h
  have hnames := toLex.injective (congrArg Prod.snd hpair)
  exact ⟨congrArg Prod.fst hpair, congrArg Prod.fst hnames, congrArg Prod.snd hnames⟩

/-- The source the exclusion policy and the freshness guard take the venue to be of. -/
def source (c : DirectVenueCandidate) : VenueType := (scorerInput c).venueType

theorem scorerInput_venueRef : (scorerInput c).venueRef = c.venueRef := by
  unfold scorerInput
  split <;> rfl

theorem source_congr (h : a.venueType = b.venueType) : a.source = b.source := by
  simp only [source, scorerInput, h]
  split <;> rfl

instance : Std.Total fun a b : DirectVenueCandidate => a.cmp b ≠ .gt where
  total a b := by
    rw [cmp_ne_gt_iff, cmp_ne_gt_iff]
    exact le_total _ _

instance : IsTrans DirectVenueCandidate fun a b => a.cmp b ≠ .gt where
  trans a b c := by
    rw [cmp_ne_gt_iff, cmp_ne_gt_iff, cmp_ne_gt_iff]
    exact le_trans

theorem mem_sortCandidates : c ∈ sortCandidates l ↔ c ∈ l :=
  (perm_insertionSort _ l).mem_iff

theorem pairwise_sortCandidates : (sortCandidates l).Pairwise fun a b => a.rank ≤ b.rank := by
  have h := pairwise_insertionSort (fun a b : DirectVenueCandidate => a.cmp b ≠ .gt) l
  exact h.imp cmp_ne_gt_iff.mp

end DirectVenueCandidate

open DirectVenueCandidate

section Evaluate

variable {l : List DirectVenueCandidate} {amount : F64} {c selected : DirectVenueCandidate}

/-- The venue is executable, and no executable one comes before it. -/
structure First (l : List DirectVenueCandidate) (amount : F64) (c : DirectVenueCandidate) :
    Prop where
  mem : c ∈ l
  executable : c.executable amount
  le : ∀ d ∈ l, d.executable amount → c.rank ≤ d.rank

theorem evaluateSingleHop_eq_ok {rationale : QuoteRationaleMetadata}
    (h : evaluateSingleHopDirectVenues l amount = .ok (selected, rationale)) :
    First l amount selected := by
  simp only [evaluateSingleHopDirectVenues, bind_eq_ok, require_eq_ok, okOr_eq_ok, pure_eq_ok,
    Prod.mk.injEq] at h
  obtain ⟨-, -, _, hfind, rfl, -⟩ := h
  refine ⟨mem_sortCandidates.mp (mem_of_find?_eq_some hfind), find?_some hfind, ?_⟩
  intro d hd hexec
  exact le_of_find pairwise_sortCandidates hfind (mem_sortCandidates.mpr hd) hexec

theorem evaluateSingleHop_total (hc : c ∈ l) (hexec : c.executable amount) :
    ∃ out, evaluateSingleHopDirectVenues l amount = .ok out := by
  cases h : evaluateSingleHopDirectVenues l amount with
  | ok out => exact ⟨out, rfl⟩
  | error e =>
    simp only [evaluateSingleHopDirectVenues, bind_eq_error, require_eq_error, okOr_eq_error,
      require_eq_ok, pure_ne_error, and_false, exists_false, or_false, Ne, not_not] at h
    rcases h with ⟨rfl, -⟩ | ⟨-, -, hfind, -⟩
    · cases hc
    · have := find?_eq_none.mp hfind c (mem_sortCandidates.mpr hc)
      exact absurd hexec this

end Evaluate

/-! ### Freshness -/

namespace FreshnessGuard

variable {inputs : List VenueScorerInput} {thresholds : FreshnessThresholds} {now : DateTime}
  {i : ℕ}

theorem foldl_note (entries : List (VenueScorerInput × ℕ)) (outcome : FreshnessOutcome) :
    let noted := entries.foldl
      (fun outcome entry => note outcome entry.2 (classify entry.1 thresholds now)) outcome
    let fresh := fun entry : VenueScorerInput × ℕ => (classify entry.1 thresholds now).isFresh
    noted.fresh = outcome.fresh ++ (entries.filter fresh).map Prod.snd ∧
      noted.stale = outcome.stale ++ (entries.filter fun entry => !fresh entry).map Prod.snd := by
  induction entries generalizing outcome with
  | nil => simp
  | cons entry entries ih =>
    obtain ⟨hfresh, hstale⟩ := ih (note outcome entry.2 (classify entry.1 thresholds now))
    dsimp only at hfresh hstale ⊢
    rw [foldl_cons, hfresh, hstale]
    cases h : (classify entry.1 thresholds now).isFresh <;> simp [note, h]

theorem mem_fresh : i ∈ (evaluate inputs thresholds now).fresh ↔
    ∃ input, inputs[i]? = some input ∧ (classify input thresholds now).isFresh := by
  rw [evaluate, (foldl_note _ _).1]
  simp [mem_zipIdx_iff_getElem?]

theorem mem_stale : i ∈ (evaluate inputs thresholds now).stale ↔
    ∃ input, inputs[i]? = some input ∧ (classify input thresholds now).isFresh = false := by
  rw [evaluate, (foldl_note _ _).2]
  simp [mem_zipIdx_iff_getElem?]

end FreshnessGuard

namespace Market

variable {m : Market} {c : DirectVenueCandidate}

def freshness (m : Market) : FreshnessOutcome :=
  FreshnessGuard.evaluate (m.directCandidates.map scorerInput)
    HealthScoringConfig.default.freshnessThresholdSecs m.now

def isFresh (m : Market) (c : DirectVenueCandidate) : Bool :=
  (FreshnessGuard.classify (scorerInput c) HealthScoringConfig.default.freshnessThresholdSecs
    m.now).isFresh

/-- The venue is fresh, or none is. -/
def Routed (m : Market) (c : DirectVenueCandidate) : Prop :=
  c ∈ m.directCandidates ∧ (m.isFresh c ∨ ∀ d ∈ m.directCandidates, ¬ m.isFresh d)

theorem mem_freshness {i : ℕ} : i ∈ m.freshness.fresh ↔
    ∃ c, m.directCandidates[i]? = some c ∧ m.isFresh c := by
  simp [freshness, FreshnessGuard.mem_fresh, isFresh]

theorem mem_staleness {i : ℕ} : i ∈ m.freshness.stale ↔
    ∃ c, m.directCandidates[i]? = some c ∧ m.isFresh c = false := by
  simp [freshness, FreshnessGuard.mem_stale, isFresh]

theorem freshness_fresh_eq_nil :
    m.freshness.fresh = [] ↔ ∀ d ∈ m.directCandidates, m.isFresh d = false := by
  simp only [eq_nil_iff_forall_not_mem, mem_freshness]
  constructor
  · intro h d hd
    obtain ⟨i, hi⟩ := getElem?_of_mem hd
    cases hfresh : m.isFresh d with
    | false => rfl
    | true => exact absurd ⟨d, hi, hfresh⟩ (h i)
  · intro h i ⟨c, hi, hc⟩
    simp [h c (mem_of_getElem? hi)] at hc

theorem selectRoutingIndices_eq_ok {indices : List ℕ} {entries : List ExcludedVenueInfo}
    (h : selectRoutingIndicesAfterFreshness m.freshness m.directCandidates =
      .ok (indices, entries)) :
    (∀ c, (∃ i ∈ indices, m.directCandidates[i]? = some c) ↔ m.Routed c) ∧
      ∀ e ∈ entries, e.reason = .staleData := by
  unfold selectRoutingIndicesAfterFreshness at h
  simp only [Bool.not_eq_true', List.isEmpty_eq_false_iff, List.isEmpty_iff] at h
  split at h
  case isTrue hfresh =>
    cases h
    rw [Ne, freshness_fresh_eq_nil] at hfresh
    constructor
    · intro c
      simp only [mem_freshness, Routed]
      constructor
      · intro ⟨i, ⟨d, hd, hfr⟩, hc⟩
        cases hd.symm.trans hc
        exact ⟨List.mem_of_getElem? hc, .inl hfr⟩
      · intro ⟨hc, hroute⟩
        obtain ⟨i, hi⟩ := List.getElem?_of_mem hc
        rcases hroute with hfr | hnone
        · exact ⟨i, ⟨c, hi, hfr⟩, hi⟩
        · exact absurd (fun d hd => by simpa using hnone d hd) hfresh
    · intro e he
      obtain ⟨c, -, rfl⟩ := List.mem_map.mp he
      rfl
  case isFalse hfresh =>
    rw [Ne, not_not, freshness_fresh_eq_nil] at hfresh
    have hplace : ∀ i, i ∈ m.freshness.stale ↔ ∃ c, m.directCandidates[i]? = some c := by
      intro i
      rw [mem_staleness]
      constructor
      · intro ⟨c, hc, _⟩
        exact ⟨c, hc⟩
      · intro ⟨c, hc⟩
        exact ⟨c, hc, hfresh c (List.mem_of_getElem? hc)⟩
    have hrouted : ∀ c, (∃ i : ℕ, m.directCandidates[i]? = some c) ↔ m.Routed c := by
      intro c
      rw [← List.mem_iff_getElem?]
      exact ⟨fun hc => ⟨hc, .inr fun d hd => by simp [hfresh d hd]⟩, And.left⟩
    split at h
    · cases h
    · split at h
      -- the guard sorts every venue, so nothing is left over for this case
      case isTrue hne hstale =>
        exfalso
        obtain ⟨c, l, hl⟩ := List.exists_cons_of_ne_nil hne
        have := (hplace 0).mpr ⟨c, by simp [hl]⟩
        simp [hstale] at this
      case isFalse =>
        cases h
        refine ⟨fun c => ?_, fun e he => nomatch he⟩
        rw [← hrouted]
        exact ⟨fun ⟨i, _, hi⟩ => ⟨i, hi⟩, fun ⟨i, hi⟩ => ⟨i, (hplace i).mpr ⟨c, hi⟩, hi⟩⟩

theorem selectRoutingIndices_total (hc : m.Routed c) :
    ∃ out, selectRoutingIndicesAfterFreshness m.freshness m.directCandidates = .ok out := by
  have hne : m.directCandidates ≠ [] := List.ne_nil_of_mem hc.1
  unfold selectRoutingIndicesAfterFreshness
  simp only [List.isEmpty_iff, hne, if_false]
  split
  · exact ⟨_, rfl⟩
  · split <;> exact ⟨_, rfl⟩

end Market

end StellarRoute.Quote
