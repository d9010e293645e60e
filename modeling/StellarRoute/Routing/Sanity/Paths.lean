import StellarRoute.Routing.Spec.Pathfinder

/-! What a path is, without reference to the search: a sequence of positions in
the edge list. The search visits exactly the simple ones. -/

namespace StellarRoute.Routing

open Lib List

def edgesAt (edges : List LiquidityEdge) (is : List ℕ) : List LiquidityEdge :=
  is.filterMap (edges[·]?)

def Leads (edges : List LiquidityEdge) : String → List ℕ → String → Prop
  | a, [], b => a = b
  | a, i :: is, b => ∃ e, edges[i]? = some e ∧ e.fromAsset = a ∧ Leads edges e.toAsset is b

/-- A path that meets no asset twice. -/
structure SimplePath (edges : List LiquidityEdge) (source target : String) (is : List ℕ) :
    Prop where
  leads : Leads edges source is target
  nodup : (source :: (edgesAt edges is).map (·.toAsset)).Nodup

/-- The path as the search returns it. -/
def swapPath (edges : List LiquidityEdge) (amountIn : I128) (is : List ℕ) : SwapPath :=
  ⟨(edgesAt edges is).map LiquidityEdge.toHop, estimatedAfterHop^[is.length] amountIn⟩

/-- The liquidity, venue, provider and bridge rules for one edge. -/
structure AdmitsEdge (cfg : PathfinderConfig) (policy : RoutingPolicy) (e : LiquidityEdge) :
    Prop where
  bridge : isBridgeEdge e.venueType e.bridge = true → policy.allowBridgeEdges = true
  endpoints : ∀ b, e.bridge = some b →
    b.validateAgainstEndpoints e.fromAsset e.toAsset = .ok ()
  venue : policy.isVenueAllowed e.venueType = true
  provider : policy.isProviderAllowed (providerOr e.provider e.bridge) = true
  liquidity : cfg.minLiquidityThreshold ≤ e.liquidity

theorem not_lt_iff_le {a b : I128} : ¬ a < b ↔ b ≤ a := Int.not_lt

variable {e : LiquidityEdge} {is : List ℕ} {a b : String}

theorem keepsEdge_iff {cfg : PathfinderConfig} {policy : RoutingPolicy} :
    keepsEdge cfg policy e = true ↔ AdmitsEdge cfg policy e := by
  have hbridge : (e.bridge.any fun b =>
      (b.validateAgainstEndpoints e.fromAsset e.toAsset).toOption.isNone) = false ↔
      ∀ b, e.bridge = some b → b.validateAgainstEndpoints e.fromAsset e.toAsset = .ok () := by
    cases e.bridge with
    | none => simp
    | some b => cases h : b.validateAgainstEndpoints e.fromAsset e.toAsset <;>
        simp [h, Except.toOption]
  constructor
  · intro h
    unfold keepsEdge at h
    split_ifs at h with h1 h2 h3 h4 h5
    exact ⟨by simpa using h1, hbridge.mp (by simpa using h2), by simpa using h3,
      by simpa using h4, not_lt_iff_le.mp h5⟩
  · rintro ⟨h1, h2, h3, h4, h5⟩
    unfold keepsEdge
    rw [if_neg (by simpa using h1), if_neg (by simpa using hbridge.mpr h2), if_neg (by simpa using h3),
      if_neg (by simpa using h4), if_neg (not_lt_iff_le.mpr h5)]

theorem buildGraph_apply (cfg : PathfinderConfig) (edges : List LiquidityEdge)
    (policy : RoutingPolicy) (a : String) :
    buildGraph cfg edges policy a
      = edges.filter fun e => keepsEdge cfg policy e && e.fromAsset == a := by
  have hfold : ∀ (es : List LiquidityEdge) (graph : Graph),
      es.foldl (fun graph e =>
        if keepsEdge cfg policy e then
          Function.update graph e.fromAsset (graph e.fromAsset ++ [e])
        else graph) graph a
        = graph a ++ es.filter fun e => keepsEdge cfg policy e && e.fromAsset == a := by
    intro es
    induction es with
    | nil => simp
    | cons e es ih =>
      intro graph
      rw [foldl_cons, ih]
      by_cases hkeep : keepsEdge cfg policy e = true
      · by_cases ha : e.fromAsset = a
        · subst ha
          simp [hkeep]
        · simp [hkeep, ha, Function.update_of_ne (Ne.symm ha)]
      · simp [hkeep]
  rw [buildGraph, hfold, nil_append]

variable {edges : List LiquidityEdge}

@[simp] theorem edgesAt_nil (edges : List LiquidityEdge) : edgesAt edges [] = [] := rfl

theorem edgesAt_cons {i : ℕ} (h : edges[i]? = some e) :
    edgesAt edges (i :: is) = e :: edgesAt edges is := by
  simp [edgesAt, h]

theorem Leads.last (h : Leads edges a is b) (hne : is ≠ []) :
    ∃ e ∈ edgesAt edges is, e.toAsset = b := by
  induction is generalizing a with
  | nil => exact absurd rfl hne
  | cons i is ih =>
    obtain ⟨e, he, _, hrest⟩ := h
    rw [edgesAt_cons he]
    cases is with
    | nil => exact ⟨e, mem_cons_self, hrest⟩
    | cons j is =>
      obtain ⟨e', he', hto⟩ := ih hrest (cons_ne_nil _ _)
      exact ⟨e', mem_cons_of_mem _ he', hto⟩

theorem Leads.fromAsset_mem (h : Leads edges a is b) :
    ∀ e ∈ edgesAt edges is, e.fromAsset ∈ a :: (edgesAt edges is).map (·.toAsset) := by
  induction is generalizing a with
  | nil => simp
  | cons i is ih =>
    obtain ⟨e, he, hfrom, hrest⟩ := h
    rw [edgesAt_cons he]
    intro e' he'
    rcases mem_cons.mp he' with rfl | he'
    · exact hfrom ▸ mem_cons_self
    · exact mem_cons_of_mem _ (ih hrest e' he')

/-! The simple paths of fewer than `h` hops that the search meets from `current`,
`visited` being the assets already on the way there. -/

section Enumerate

variable (edges : List LiquidityEdge) (keep : LiquidityEdge → Bool) (target : String)

def onward (current : String) (visited : List String) : List (LiquidityEdge × ℕ) :=
  edges.zipIdx.filter fun p =>
    keep p.1 && p.1.fromAsset == current && !visited.contains p.1.toAsset

def enumerate : ℕ → String → List String → List (List ℕ)
  | 0, _, _ => []
  | h + 1, current, visited =>
    if current = target then [[]]
    else (onward edges keep current visited).flatMap fun p =>
      (enumerate h p.1.toAsset (p.1.toAsset :: visited)).map (p.2 :: ·)

variable {edges keep target} {current : String} {visited : List String}

theorem mem_onward {e : LiquidityEdge} {i : ℕ} : (e, i) ∈ onward edges keep current visited ↔
      edges[i]? = some e ∧ keep e = true ∧ e.fromAsset = current ∧ e.toAsset ∉ visited := by
  simp only [onward, mem_filter, mem_zipIdx_iff_getElem?, Bool.and_eq_true,
    beq_iff_eq, Bool.not_eq_true', contains_eq_mem, decide_eq_false_iff_not, and_assoc]

theorem mem_enumerate {h : ℕ} {is : List ℕ} (hcur : current ∈ visited) :
    is ∈ enumerate edges keep target h current visited ↔
      is.length < h ∧ Leads edges current is target ∧ ((edgesAt edges is).map (·.toAsset)).Nodup ∧
        ∀ e ∈ edgesAt edges is, keep e = true ∧ e.toAsset ∉ visited := by
  induction h generalizing current visited is with
  | zero => simp [enumerate]
  | succ h ih =>
    rw [enumerate]
    by_cases htarget : current = target
    · rw [if_pos htarget, mem_singleton]
      constructor
      · rintro rfl
        simp [Leads, htarget]
      · rintro ⟨_, hleads, _, hall⟩
        -- a path that comes back to where it is would meet a visited asset
        by_contra hne
        obtain ⟨e, he, hto⟩ := hleads.last hne
        exact (hall e he).2 (hto ▸ htarget ▸ hcur)
    · rw [if_neg htarget]
      simp only [mem_flatMap, mem_map, Prod.exists]
      constructor
      · rintro ⟨e, i, he, js, hjs, rfl⟩
        obtain ⟨hget, hkeep, hfrom, hnew⟩ := mem_onward.mp he
        obtain ⟨hlen, hleads, hnodup, hall⟩ := (ih mem_cons_self).mp hjs
        rw [edgesAt_cons hget]
        refine ⟨by simpa using hlen, ⟨e, hget, hfrom, hleads⟩, ?_, ?_⟩
        · rw [map_cons, nodup_cons]
          refine ⟨?_, hnodup⟩
          intro hmem
          obtain ⟨e', he', heq⟩ := mem_map.mp hmem
          exact (hall e' he').2 (heq ▸ mem_cons_self)
        · intro e' he'
          rcases mem_cons.mp he' with rfl | he'
          · exact ⟨hkeep, hnew⟩
          · exact ⟨(hall e' he').1, fun hv => (hall e' he').2 (mem_cons_of_mem _ hv)⟩
      · rintro ⟨hlen, hleads, hnodup, hall⟩
        cases is with
        | nil => exact absurd hleads htarget
        | cons i js =>
          obtain ⟨e, hget, hfrom, hrest⟩ := hleads
          rw [edgesAt_cons hget] at hnodup hall
          rw [map_cons, nodup_cons] at hnodup
          obtain ⟨hkeep, hnew⟩ := hall e mem_cons_self
          refine ⟨e, i, mem_onward.mpr ⟨hget, hkeep, hfrom, hnew⟩, js, ?_, rfl⟩
          refine (ih mem_cons_self).mpr ⟨by simpa using hlen, hrest, hnodup.2, ?_⟩
          intro e' he'
          obtain ⟨hkeep', hnew'⟩ := hall e' (mem_cons_of_mem _ he')
          refine ⟨hkeep', ?_⟩
          intro hmem
          rcases mem_cons.mp hmem with heq | hv
          · exact hnodup.1 (mem_map.mpr ⟨e', he', heq⟩)
          · exact hnew' hv

theorem enumerate_nodup (h : ℕ) (current : String) (visited : List String) :
    (enumerate edges keep target h current visited).Nodup := by
  induction h generalizing current visited with
  | zero => exact nodup_nil
  | succ h ih =>
    rw [enumerate]
    split_ifs with htarget
    · exact nodup_singleton _
    · rw [nodup_flatMap]
      constructor
      · intro p _
        exact (ih _ _).map fun _ _ heq => (cons.inj heq).2
      · -- two different onward edges have different positions
        have hidx : ((onward edges keep current visited).map Prod.snd).Nodup := by
          have hall : (edges.zipIdx.map Prod.snd).Nodup := by
            rw [zipIdx_map_snd]
            exact nodup_range'
          exact hall.sublist (filter_sublist.map _)
        apply (pairwise_map.mp hidx).imp
        intro p q hpq is hp hq
        obtain ⟨js, _, rfl⟩ := mem_map.mp hp
        obtain ⟨ks, _, heq⟩ := mem_map.mp hq
        exact hpq (cons.inj heq).1.symm

end Enumerate

end StellarRoute.Routing
