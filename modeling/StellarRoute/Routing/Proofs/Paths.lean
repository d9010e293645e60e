import StellarRoute.Routing.Sanity.Search

/-! Which paths `find_paths` returns. The depth is checked before the target, so
a path of exactly `max_hops` hops is never returned; the policy filter looks at
the destination of each hop, so the first asset of a path is never checked. -/

namespace StellarRoute.Routing

open Lib List

/-- A simple path of at least one and at most `max_hops` hops over edges that
the liquidity, venue, provider, bridge and asset rules admit. -/
structure AllowedPath (cfg : PathfinderConfig) (policy : RoutingPolicy)
    (edges : List LiquidityEdge) (source target : String) (is : List ℕ) : Prop
    extends SimplePath edges source target is where
  pos : 1 ≤ is.length
  le_maxHops : is.length ≤ policy.maxHops
  edge : ∀ e ∈ edgesAt edges is, AdmitsEdge cfg policy e
  fromAsset : ∀ e ∈ edgesAt edges is, policy.isAssetAllowed e.fromAsset = true
  toAsset : ∀ e ∈ edgesAt edges is, policy.isAssetAllowed e.toAsset = true

/-- The answer holds every allowed path once, or reports that there is none. -/
def FindsExactly (cfg : PathfinderConfig) (policy : RoutingPolicy) (edges : List LiquidityEdge)
    (source target : String) (amountIn : I128) : Result (List SwapPath) → Prop
  | .ok paths => ∃ allowed : List (List ℕ), allowed.Nodup ∧
      (∀ is, is ∈ allowed ↔ AllowedPath cfg policy edges source target is) ∧
      paths.Perm (allowed.map (swapPath edges amountIn))
  | .error (.noRoute _ _) => ∀ is, ¬ AllowedPath cfg policy edges source target is
  | .error _ => False

section Exact

variable {cfg : PathfinderConfig} {policy : RoutingPolicy} {edges : List LiquidityEdge}
  {source target : String} {amountIn : I128} {is : List ℕ}

theorem Leads.length_pos {a b : String} (h : Leads edges a is b) (hne : a ≠ b) :
    1 ≤ is.length := by
  cases is with
  | nil => exact absurd h hne
  | cons i is => simp

theorem Leads.source_mem {a b : String} (h : Leads edges a is b) (hne : a ≠ b) :
    ∃ e ∈ edgesAt edges is, e.fromAsset = a := by
  cases is with
  | nil => exact absurd h hne
  | cons i is =>
    obtain ⟨e, he, hfrom, _⟩ := h
    exact ⟨e, by rw [edgesAt_cons he]; exact mem_cons_self, hfrom⟩

theorem OpenPath.fromAsset_allowed (hopen : OpenPath cfg policy edges source target is)
    (hsource : policy.isAssetAllowed source = true) :
    ∀ e ∈ edgesAt edges is, policy.isAssetAllowed e.fromAsset = true := by
  intro e he
  rcases mem_cons.mp (hopen.leads.fromAsset_mem e he) with heq | hmem
  · exact heq ▸ hsource
  · obtain ⟨e', he', heq⟩ := mem_map.mp hmem
    exact heq ▸ hopen.destination e' he'

theorem allowedPath_iff (hne : source ≠ target) :
    AllowedPath cfg policy edges source target is ↔
      OpenPath cfg policy edges source target is ∧ policy.isAssetAllowed source = true ∧
        is.length ≤ policy.maxHops := by
  constructor
  · rintro ⟨hsimple, _, hle, hedge, hfrom, hto⟩
    obtain ⟨e, he, heq⟩ := hsimple.leads.source_mem hne
    exact ⟨⟨hsimple, hedge, hto⟩, heq ▸ hfrom e he, hle⟩
  · rintro ⟨hopen, hsource, hle⟩
    exact ⟨hopen.toSimplePath, hopen.leads.length_pos hne, hle, hopen.edge,
      hopen.fromAsset_allowed hsource, hopen.destination⟩

/-- The open paths that the depth check or the missing check of the source
makes the search treat differently from the rules. -/
def Misjudged (policy : RoutingPolicy) (source : String) (is : List ℕ) : Prop :=
  if policy.isAssetAllowed source then is.length = policy.maxHops
  else is.length < policy.maxHops

theorem lt_maxHops_iff_allowed (hne : source ≠ target)
    (hopen : OpenPath cfg policy edges source target is) (hok : ¬ Misjudged policy source is) :
    is.length < policy.maxHops ↔ AllowedPath cfg policy edges source target is := by
  rw [allowedPath_iff hne]
  unfold Misjudged at hok
  split_ifs at hok with hsource
  · constructor
    · intro hlt
      exact ⟨hopen, hsource, hlt.le⟩
    · rintro ⟨_, _, hle⟩
      exact lt_of_le_of_ne hle hok
  · constructor
    · intro hlt
      exact absurd hlt hok
    · rintro ⟨_, hallowed, _⟩
      exact absurd hallowed hsource

/-- `find_paths` returns exactly the allowed paths if and only if the amount is
positive and no open path is misjudged. -/
theorem findPaths_exact_iff (cfg : PathfinderConfig) (policy : RoutingPolicy)
    (edges : List LiquidityEdge) (source target : String) (amountIn : I128)
    (hs : source ≠ "") (ht : target ≠ "") (hne : source ≠ target) :
    FindsExactly cfg policy edges source target amountIn
        (findPaths cfg source target edges amountIn policy) ↔
      0 < amountIn ∧
        ∀ is, OpenPath cfg policy edges source target is → ¬ Misjudged policy source is := by
  by_cases hamount : 0 < amountIn
  · obtain ⟨found, hnodup, hmem, paths, hperm, heq⟩ :=
      findPaths_eq cfg policy edges hs ht hne hamount
    rw [heq]
    constructor
    · intro hexact
      refine ⟨hamount, ?_⟩
      intro is hopen hmis
      unfold Misjudged at hmis
      split_ifs at hexact with hpaths
      · -- nothing was returned: a misjudged path would be allowed or would have been found
        have hfound : found = [] := by
          have := hperm.symm
          rw [hpaths, perm_nil] at this
          exact map_eq_nil_iff.mp this
        split_ifs at hmis with hsource
        · exact hexact is ((allowedPath_iff hne).mpr ⟨hopen, hsource, hmis.le⟩)
        · have := (hmem is).mpr ⟨hopen, hmis⟩
          simp [hfound] at this
      · obtain ⟨allowed, hnodup', hmem', hperm'⟩ := hexact
        have hlen : allowed.length = found.length := by
          simpa using (hperm'.symm.trans hperm).length_eq
        split_ifs at hmis with hsource
        · have hsub : found ⊆ allowed := by
            intro js hjs
            obtain ⟨hopen', hlt⟩ := (hmem js).mp hjs
            exact (hmem' js).mpr ((allowedPath_iff hne).mpr ⟨hopen', hsource, hlt.le⟩)
          have hin := (hmem' is).mpr ((allowedPath_iff hne).mpr ⟨hopen, hsource, hmis.le⟩)
          have hall : found.Perm allowed := (hnodup.subperm hsub).perm_of_length_le hlen.le
          have := ((hmem is).mp (hall.symm.subset hin)).2
          omega
        · -- no path is allowed, yet `is` was found
          have hin := (hmem is).mpr ⟨hopen, hmis⟩
          have hpos := length_pos_of_mem hin
          obtain ⟨js, hjs⟩ := exists_mem_of_length_pos (hlen ▸ hpos)
          exact hsource ((allowedPath_iff hne).mp ((hmem' js).mp hjs)).2.1
    · rintro ⟨_, hok⟩
      have hsame : ∀ is, is ∈ found ↔ AllowedPath cfg policy edges source target is := by
        intro is
        rw [hmem]
        constructor
        · rintro ⟨hopen, hlt⟩
          exact (lt_maxHops_iff_allowed hne hopen (hok is hopen)).mp hlt
        · intro hallowed
          have hopen := ((allowedPath_iff hne).mp hallowed).1
          exact ⟨hopen, (lt_maxHops_iff_allowed hne hopen (hok is hopen)).mpr hallowed⟩
      split_ifs with hpaths
      · intro is hallowed
        have := mem_map_of_mem (f := swapPath edges amountIn) ((hsame is).mpr hallowed)
        have := hperm.symm.subset this
        simp [hpaths] at this
      · exact ⟨found, hnodup, hsame, hperm⟩
  · have herr : findPaths cfg source target edges amountIn policy
        = .error (.invalidAmount "amount_in must be positive") := by
      simp [findPaths, require, hs, ht, hne, hamount, bind, Except.bind]
    rw [herr]
    constructor
    · intro hexact
      exact hexact.elim
    · rintro ⟨hpos, _⟩
      exact absurd hpos hamount

end Exact

/-- One pool from `XLM` to `USDC`. -/
def directEdge : LiquidityEdge where
  fromAsset := "XLM"
  toAsset := "USDC"
  venueType := "amm"
  venueRef := "pool-1"
  liquidity := 10000000
  price := 0x3FF0000000000000
  feeBps := 30
  provider := none
  bridge := none

def openPolicy (maxHops : ℕ) (assetDenylist : List String) : RoutingPolicy where
  maxHops := maxHops
  venueAllowlist := []
  venueDenylist := []
  assetDenylist := assetDenylist
  providerPolicy := ⟨[], [], fun _ => none⟩
  allowBridgeEdges := false

theorem directEdge_admitted (maxHops : ℕ) (assetDenylist : List String) :
    AdmitsEdge ⟨1000000⟩ (openPolicy maxHops assetDenylist) directEdge where
  bridge := by
    intro hbridge
    exact absurd hbridge (by decide)
  endpoints := by
    nofun
  venue := rfl
  provider := rfl
  liquidity := by decide

theorem directEdge_simple : SimplePath [directEdge] "XLM" "USDC" [0] where
  leads := ⟨directEdge, rfl, rfl, rfl⟩
  nodup := by decide

/-- With `max_hops = 1` the direct pool is not found. -/
theorem directEdge_missed :
    ¬ FindsExactly ⟨1000000⟩ (openPolicy 1 []) [directEdge] "XLM" "USDC" 1000000
      (findPaths ⟨1000000⟩ "XLM" "USDC" [directEdge] 1000000 (openPolicy 1 [])) := by
  have hnone : findPaths ⟨1000000⟩ "XLM" "USDC" [directEdge] 1000000 (openPolicy 1 [])
      = .error (.noRoute "XLM" "USDC") := by decide
  rw [hnone]
  intro hexact
  refine hexact [0] ⟨directEdge_simple, le_refl 1, le_refl 1, ?_, ?_, ?_⟩
  · intro e he
    rw [mem_singleton.mp he]
    exact directEdge_admitted 1 []
  · intro e _
    rfl
  · intro e _
    rfl

/-- With `max_hops = 2` it is: the only open path has one hop. -/
theorem directEdge_exact :
    FindsExactly ⟨1000000⟩ (openPolicy 2 []) [directEdge] "XLM" "USDC" 1000000
      (findPaths ⟨1000000⟩ "XLM" "USDC" [directEdge] 1000000 (openPolicy 2 [])) := by
  refine (findPaths_exact_iff ⟨1000000⟩ (openPolicy 2 []) [directEdge] "XLM" "USDC" 1000000
    (by decide) (by decide) (by decide)).mpr ⟨by decide, ?_⟩
  intro is hopen hmis
  -- a second hop would have to leave `USDC`
  rw [Misjudged, if_pos (by decide)] at hmis
  obtain ⟨i, j, rfl⟩ := length_eq_two.mp hmis
  obtain ⟨e, he, _, e', he', hfrom, _⟩ := hopen.leads
  rw [mem_singleton.mp (mem_of_getElem? he),
    mem_singleton.mp (mem_of_getElem? he')] at hfrom
  exact absurd hfrom (by decide)

/-! What a returned path can contain. -/

/-- No hop of the path breaks a rule of the policy, and none touches a denied asset. -/
def CleanPath (policy : RoutingPolicy) (path : SwapPath) : Prop :=
  ∀ hop ∈ path.hops,
    policy.isAssetAllowed hop.sourceAsset = true ∧
      policy.isAssetAllowed hop.destinationAsset = true ∧
      policy.isVenueAllowed hop.venueType = true ∧
      policy.isProviderAllowed (providerOr hop.provider hop.bridge) = true ∧
      (isBridgeEdge hop.venueType hop.bridge = true → policy.allowBridgeEdges = true)

/-- A request that `find_paths` searches for at all. -/
structure ValidRequest (source target : String) (amountIn : I128) : Prop where
  source_ne : source ≠ ""
  target_ne : target ≠ ""
  ne : source ≠ target
  amount_pos : 0 < amountIn

section Clean

variable {cfg : PathfinderConfig} {policy : RoutingPolicy} {edges : List LiquidityEdge}
  {source target : String} {amountIn : I128} {is : List ℕ}

theorem cleanPath_swapPath (hne : source ≠ target)
    (hopen : OpenPath cfg policy edges source target is) :
    CleanPath policy (swapPath edges amountIn is) ↔ policy.isAssetAllowed source = true := by
  rw [CleanPath, swapPath, forall_mem_map]
  constructor
  · intro h
    obtain ⟨e, he, heq⟩ := hopen.leads.source_mem hne
    exact heq ▸ (h e he).1
  · intro hsource e he
    have hedge := hopen.edge e he
    exact ⟨hopen.fromAsset_allowed hsource e he, hopen.destination e he, hedge.venue,
      hedge.provider, hedge.bridge⟩

/-- Every returned path is clean if and only if the source is allowed or there
is no open path for the search to return. -/
theorem findPaths_clean_iff (cfg : PathfinderConfig) (policy : RoutingPolicy)
    (edges : List LiquidityEdge) (source target : String) (amountIn : I128) :
    (∀ paths, findPaths cfg source target edges amountIn policy = .ok paths →
        ∀ path ∈ paths, CleanPath policy path) ↔
      (ValidRequest source target amountIn → policy.isAssetAllowed source = true ∨
        ∀ is, OpenPath cfg policy edges source target is → policy.maxHops ≤ is.length) := by
  constructor
  · intro hclean hvalid
    obtain ⟨found, _, hmem, paths, hperm, heq⟩ := findPaths_eq cfg policy edges
      hvalid.source_ne hvalid.target_ne hvalid.ne hvalid.amount_pos
    by_contra hbad
    push Not at hbad
    obtain ⟨hsource, is, hopen, hlt⟩ := hbad
    have hpath : swapPath edges amountIn is ∈ paths :=
      hperm.symm.subset (mem_map_of_mem ((hmem is).mpr ⟨hopen, hlt⟩))
    rw [if_neg (ne_nil_of_mem hpath)] at heq
    exact hsource ((cleanPath_swapPath hvalid.ne hopen).mp (hclean paths heq _ hpath))
  · intro hcond paths hpaths path hpath
    have hvalid : ValidRequest source target amountIn := by
      simp only [findPaths, bind_eq_ok, require_eq_ok] at hpaths
      obtain ⟨_, hempty, _, hne, _, hamount, _⟩ := hpaths
      rw [String.isEmpty_iff, String.isEmpty_iff, not_or] at hempty
      exact ⟨hempty.1, hempty.2, hne, hamount⟩
    obtain ⟨found, _, hmem, paths', hperm, heq⟩ := findPaths_eq cfg policy edges
      hvalid.source_ne hvalid.target_ne hvalid.ne hvalid.amount_pos
    rw [heq] at hpaths
    split_ifs at hpaths
    cases hpaths
    obtain ⟨is, his, rfl⟩ := mem_map.mp (hperm.subset hpath)
    obtain ⟨hopen, hlt⟩ := (hmem is).mp his
    rw [cleanPath_swapPath hvalid.ne hopen]
    rcases hcond hvalid with hsource | hnone
    · exact hsource
    · have := hnone is hopen
      omega

end Clean

/-- A denied source asset is let through. -/
theorem directEdge_deniedSource :
    ∃ paths, findPaths ⟨1000000⟩ "XLM" "USDC" [directEdge] 1000000 (openPolicy 4 ["XLM"])
        = .ok paths ∧
      ∃ path ∈ paths, ¬ CleanPath (openPolicy 4 ["XLM"]) path := by
  refine ⟨[⟨[directEdge.toHop], 995000⟩], by decide, _, mem_singleton_self _, ?_⟩
  intro hclean
  have := (hclean directEdge.toHop (mem_singleton_self _)).1
  revert this
  decide

end StellarRoute.Routing
