import StellarRoute.Routing.Sanity.Paths

/-! The breadth-first search meets every simple path of fewer than `max_hops`
hops exactly once, and the policy filter keeps those whose destination assets
are all allowed. -/

namespace StellarRoute.Routing

open Lib List

/-- The path that a queue entry becomes after the edges at `is`. -/
def SearchNode.finish (edges : List LiquidityEdge) (n : SearchNode) (is : List ℕ) : SwapPath :=
  ⟨n.hops ++ (edgesAt edges is).map LiquidityEdge.toHop,
    estimatedAfterHop^[is.length] n.estimatedOutput⟩

def hopsLeft (maxHops : ℕ) (n : SearchNode) : ℕ := maxHops - n.hops.length

theorem hopsLeft_lt (graph : Graph) (target : String) (maxHops : ℕ) (n : SearchNode) :
    ∀ c ∈ (bfsVisit graph target maxHops n).2, hopsLeft maxHops c < hopsLeft maxHops n := by
  intro c hc
  unfold bfsVisit at hc
  split_ifs at hc with hdepth htarget
  · cases hc
  · cases hc
  · obtain ⟨e, _, rfl⟩ := mem_map.mp hc
    simp only [hopsLeft, SearchNode.follow, length_append, length_singleton]
    omega

section Search

variable (cfg : PathfinderConfig) (edges : List LiquidityEdge) (policy : RoutingPolicy)
  (target : String)

theorem bfsVisit_children_length (n : SearchNode) :
    (bfsVisit (buildGraph cfg edges policy) target policy.maxHops n).2.length ≤ edges.length := by
  unfold bfsVisit
  split_ifs
  · exact Nat.zero_le _
  · exact Nat.zero_le _
  · rw [length_map, buildGraph_apply]
    exact (length_filter_le _ _).trans (length_filter_le _ _)

theorem emitted_bfsVisit {h : ℕ} {n : SearchNode} (hh : hopsLeft policy.maxHops n < h) :
    emitted (bfsVisit (buildGraph cfg edges policy) target policy.maxHops) h n
      = (enumerate edges (keepsEdge cfg policy) target (hopsLeft policy.maxHops n) n.current
          n.visited).map (n.finish edges) := by
  induction h generalizing n with
  | zero => omega
  | succ h ih =>
    rw [emitted, bfsVisit]
    split_ifs with hdepth htarget
    · have hzero : hopsLeft policy.maxHops n = 0 := by
        unfold hopsLeft
        omega
      simp [hzero, enumerate]
    · obtain ⟨k, hk⟩ : ∃ k, hopsLeft policy.maxHops n = k + 1 :=
        ⟨hopsLeft policy.maxHops n - 1, by unfold hopsLeft; omega⟩
      simp [hk, enumerate, htarget, SearchNode.finish]
    · obtain ⟨k, hk⟩ : ∃ k, hopsLeft policy.maxHops n = k + 1 :=
        ⟨hopsLeft policy.maxHops n - 1, by unfold hopsLeft; omega⟩
      have hleft : ∀ e, hopsLeft policy.maxHops (n.follow e) = k := by
        intro e
        simp only [hopsLeft, SearchNode.follow, length_append, length_singleton] at hk ⊢
        omega
      -- the edges that the loop follows are those of `onward`, without their positions
      have hedges : (buildGraph cfg edges policy n.current).filter
            (fun e => !n.visited.contains e.toAsset) =
          (onward edges (keepsEdge cfg policy) n.current n.visited).map Prod.fst := by
        rw [buildGraph_apply, filter_filter, onward]
        conv_lhs => rw [← zipIdx_map_fst 0 edges, filter_map]
        simp only [Function.comp_def, Bool.and_comm]
      rw [hk, enumerate, if_neg htarget, hedges, map_map, flatMap_map, nil_append, map_flatMap]
      apply flatMap_congr
      rintro ⟨e, i⟩ he
      have hget := (mem_onward.mp he).1
      rw [Function.comp_apply, ih (by rw [hleft]; omega), hleft, map_map]
      apply map_congr_left
      intro is _
      simp [SearchNode.finish, SearchNode.follow, edgesAt_cons hget]

/-- The search ends within its fuel, with the simple paths of fewer than `max_hops` hops. -/
theorem bfsPaths_perm (source : String) (amountIn : I128) :
    ∃ paths, bfsPaths (searchFuel edges policy) (buildGraph cfg edges policy) source target
        amountIn policy.maxHops = some paths ∧
      paths.Perm ((enumerate edges (keepsEdge cfg policy) target policy.maxHops source
        [source]).map (swapPath edges amountIn)) := by
  set visit := bfsVisit (buildGraph cfg edges policy) target policy.maxHops
  set start : SearchNode := ⟨source, [], [source], amountIn⟩
  have hrank := hopsLeft_lt (buildGraph cfg edges policy) target policy.maxHops
  have hleft : hopsLeft policy.maxHops start = policy.maxHops := rfl
  have hfuel : ([start].map (treeSize visit (policy.maxHops + 1))).sum
      ≤ searchFuel edges policy := by
    have := treeSize_le hrank (bfsVisit_children_length cfg edges policy target)
      (policy.maxHops + 1) start
    rw [hleft] at this
    simpa [searchFuel, visit] using this
  obtain ⟨paths, hpaths, hperm⟩ := worklist_perm hrank []
    (by simp [hleft] : ∀ s ∈ [start], hopsLeft policy.maxHops s < policy.maxHops + 1) hfuel
  refine ⟨paths, hpaths, hperm.trans ?_⟩
  have hfinish : start.finish edges = swapPath edges amountIn := by
    funext is
    simp [SearchNode.finish, swapPath, start]
  rw [nil_append, flatMap_singleton,
    emitted_bfsVisit cfg edges policy target (by rw [hleft]; omega), hleft, hfinish]

end Search

theorem filterPaths_eq (policy : RoutingPolicy) (paths : List SwapPath) :
    filterPaths policy paths = paths.filter fun path =>
      (policy.shouldExcludeRoute "" (path.hops.map PathHop.toRouteHop)).isNone := by
  have hid : ∀ (s t : String) (hops : List RouteHop),
      (policy.shouldExcludeRoute s hops).isNone = (policy.shouldExcludeRoute t hops).isNone := by
    intro s t hops
    rw [Bool.eq_iff_iff, Option.isNone_iff_eq_none, Option.isNone_iff_eq_none,
      RoutingPolicy.shouldExcludeRoute_eq_none, RoutingPolicy.shouldExcludeRoute_eq_none]
  unfold filterPaths
  -- the index of the first path does not matter
  generalize 0 = k
  induction paths generalizing k with
  | nil => simp
  | cons path paths ih =>
    rw [zipIdx_cons, filterMap_cons, filter_cons,
      hid "" s!"route_{k}" (path.hops.map PathHop.toRouteHop), ih]
    cases hex : policy.shouldExcludeRoute s!"route_{k}" (path.hops.map PathHop.toRouteHop) with
    | none => simp only [hex, Option.isNone_none, if_true]
    | some d => simp only [hex, Option.isNone_some, Bool.false_eq_true, if_false]

/-- A simple path over admitted edges that leads only to allowed assets; its
first asset may be a denied one. -/
structure OpenPath (cfg : PathfinderConfig) (policy : RoutingPolicy) (edges : List LiquidityEdge)
    (source target : String) (is : List ℕ) : Prop extends SimplePath edges source target is where
  edge : ∀ e ∈ edgesAt edges is, AdmitsEdge cfg policy e
  destination : ∀ e ∈ edgesAt edges is, policy.isAssetAllowed e.toAsset = true

section Find

variable {cfg : PathfinderConfig} {policy : RoutingPolicy} {edges : List LiquidityEdge}
  {source target : String} {amountIn : I128}

theorem mem_enumerate_source {h : ℕ} {is : List ℕ} :
    is ∈ enumerate edges (keepsEdge cfg policy) target h source [source] ↔
      is.length < h ∧ SimplePath edges source target is ∧
        ∀ e ∈ edgesAt edges is, AdmitsEdge cfg policy e := by
  rw [mem_enumerate mem_cons_self]
  constructor
  · rintro ⟨hlen, hleads, hnodup, hall⟩
    refine ⟨hlen, ⟨hleads, nodup_cons.mpr ⟨?_, hnodup⟩⟩, ?_⟩
    · intro hmem
      obtain ⟨e, he, hto⟩ := mem_map.mp hmem
      exact (hall e he).2 (mem_singleton.mpr hto)
    · intro e he
      exact keepsEdge_iff.mp (hall e he).1
  · rintro ⟨hlen, ⟨hleads, hnodup⟩, hall⟩
    obtain ⟨hnew, hnodup⟩ := nodup_cons.mp hnodup
    refine ⟨hlen, hleads, hnodup, ?_⟩
    intro e he
    refine ⟨keepsEdge_iff.mpr (hall e he), ?_⟩
    intro hmem
    exact hnew (mem_map.mpr ⟨e, he, mem_singleton.mp hmem⟩)

/-- For a path over admitted edges the policy filter only looks at the destinations. -/
theorem shouldExcludeRoute_swapPath {routeId : String} {is : List ℕ}
    (hall : ∀ e ∈ edgesAt edges is, AdmitsEdge cfg policy e) :
    policy.shouldExcludeRoute routeId
        ((swapPath edges amountIn is).hops.map PathHop.toRouteHop) = none ↔
      ∀ e ∈ edgesAt edges is, policy.isAssetAllowed e.toAsset = true := by
  rw [RoutingPolicy.shouldExcludeRoute_eq_none, swapPath, map_map, forall_mem_map]
  constructor
  · intro h e he
    exact (h e he).2.2.1
  · intro h e he
    exact ⟨(hall e he).bridge, (hall e he).venue, h e he, (hall e he).provider⟩

theorem findPaths_eq (cfg : PathfinderConfig) (policy : RoutingPolicy)
    (edges : List LiquidityEdge) (hs : source ≠ "") (ht : target ≠ "") (hne : source ≠ target)
    (hamount : 0 < amountIn) :
    ∃ found : List (List ℕ), found.Nodup ∧
      (∀ is, is ∈ found ↔
        OpenPath cfg policy edges source target is ∧ is.length < policy.maxHops) ∧
      ∃ paths, paths.Perm (found.map (swapPath edges amountIn)) ∧
        findPaths cfg source target edges amountIn policy
          = if paths = [] then .error (.noRoute source target) else .ok paths := by
  obtain ⟨raw, hraw, hperm⟩ := bfsPaths_perm cfg edges policy target source amountIn
  set found := (enumerate edges (keepsEdge cfg policy) target policy.maxHops source
    [source]).filter fun is => (policy.shouldExcludeRoute ""
      ((swapPath edges amountIn is).hops.map PathHop.toRouteHop)).isNone with hfound
  refine ⟨found, (enumerate_nodup _ _ _).filter _, ?_, filterPaths policy raw, ?_, ?_⟩
  · intro is
    rw [hfound, mem_filter, mem_enumerate_source, Option.isNone_iff_eq_none]
    constructor
    · rintro ⟨⟨hlen, hsimple, hall⟩, hfilter⟩
      exact ⟨⟨hsimple, hall, (shouldExcludeRoute_swapPath hall).mp hfilter⟩, hlen⟩
    · rintro ⟨⟨hsimple, hall, hdest⟩, hlen⟩
      exact ⟨⟨hlen, hsimple, hall⟩, (shouldExcludeRoute_swapPath hall).mpr hdest⟩
  · rw [filterPaths_eq, hfound]
    apply (hperm.filter _).trans
    rw [filter_map]
    rfl
  · have hempty : ¬ (source.isEmpty ∨ target.isEmpty) := by
      rw [String.isEmpty_iff, String.isEmpty_iff]
      tauto
    simp only [findPaths, require, hempty, hne, hamount, hraw, not_false_eq_true, ne_eq, if_true,
      Option.getD_some, pure, Except.pure, bind, Except.bind, ite_not]
    by_cases hr : raw = []
    · simp [hr, filterPaths]
    · by_cases hf : filterPaths policy raw = [] <;> simp [hr, hf]

end Find

end StellarRoute.Routing
