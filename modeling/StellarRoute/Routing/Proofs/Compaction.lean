import StellarRoute.Lib.Grouping
import StellarRoute.Routing.Spec.Compaction
import StellarRoute.Routing.Sanity.Paths

/-! The compacted graph and back. Each pass of `from_edges` is described by what
it leaves behind: the interned assets, the groups, and the layout. -/

namespace StellarRoute.Routing

open Lib CompactedGraph List Function Option

/-- The endpoints of the edges, in the order the first pass meets them. -/
def endpoints (edges : List LiquidityEdge) : List String :=
  edges.flatMap fun e => [e.fromAsset, e.toAsset]

/-- The assets in order of first appearance. -/
def assetsOf (edges : List LiquidityEdge) : List String := (endpoints edges).eraseDups

/-- The edges grouped by source asset, each group in its old order. -/
def groupedBySource (edges : List LiquidityEdge) : List LiquidityEdge :=
  groupedBy LiquidityEdge.fromAsset (assetsOf edges) edges

def assetIdx (assets : List String) (a : String) : UInt32 := UInt32.ofNat (assets.idxOf a)

theorem ofNat_inj_of_lt {m n : ℕ} (hm : m < 2 ^ 32) (hn : n < 2 ^ 32)
    (h : UInt32.ofNat m = UInt32.ofNat n) : m = n := by
  have := congrArg UInt32.toNat h
  rwa [UInt32.toNat_ofNat_of_lt' hm, UInt32.toNat_ofNat_of_lt' hn] at this

variable {a : String} {assets ns : List String} {e : LiquidityEdge} {edges : List LiquidityEdge}

/-! The first pass. -/

/-- The table after the names `ns` have been interned. -/
structure Interns (t : Interner) (ns : List String) : Prop where
  assets : t.assets = ns.eraseDups
  nodup : t.assets.Nodup
  index : ∀ a, t.assetMap a = if a ∈ ns then some (assetIdx t.assets a) else none

theorem eraseDups_concat_of_mem (h : a ∈ ns) : (ns ++ [a]).eraseDups = ns.eraseDups := by
  simp [eraseDups_append, removeAll, h]

theorem eraseDups_concat_of_notMem (h : a ∉ ns) : (ns ++ [a]).eraseDups = ns.eraseDups ++ [a] := by
  simp [eraseDups_append, removeAll, h, eraseDups_cons]

theorem Interns.getAssetIdx {t : Interner} (ht : Interns t ns) (a : String) :
    Interns (t.getAssetIdx a) (ns ++ [a]) := by
  unfold Interner.getAssetIdx
  by_cases ha : a ∈ ns
  · rw [ht.index, if_pos ha]
    refine ⟨by rw [eraseDups_concat_of_mem ha, ht.assets], ht.nodup, ?_⟩
    intro b
    rw [ht.index]
    congr 1
    rw [mem_append, mem_singleton, eq_iff_iff]
    constructor
    · exact Or.inl
    · rintro (hb | rfl)
      · exact hb
      · exact ha
  · have hnew : a ∉ t.assets := by rwa [ht.assets, mem_eraseDups]
    rw [ht.index, if_neg ha]
    refine ⟨by rw [eraseDups_concat_of_notMem ha, ht.assets], ?_, ?_⟩
    · exact nodup_append.mpr ⟨ht.nodup, nodup_singleton a, by
        rintro b hb c hc rfl
        exact hnew (mem_singleton.mp hc ▸ hb)⟩
    · intro b
      by_cases hab : b = a
      · subst hab
        simp [assetIdx, idxOf_append_of_notMem hnew]
      · have hmem : b ∈ ns ++ [a] ↔ b ∈ ns := by simp [hab]
        simp only [update_of_ne hab, ht.index, hmem]
        split_ifs with hb
        · rw [assetIdx, assetIdx,
            idxOf_append_of_mem (by rwa [ht.assets, mem_eraseDups])]
        · rfl

theorem internAssets_interns (edges : List LiquidityEdge) :
    Interns (internAssets edges) (endpoints edges) := by
  have hfold : ∀ (names ns : List String) (t : Interner), Interns t ns →
      Interns (names.foldl Interner.getAssetIdx t) (ns ++ names) := by
    intro names
    induction names with
    | nil =>
      intro ns t ht
      rwa [append_nil]
    | cons a names ih =>
      intro ns t ht
      have := ih (ns ++ [a]) (t.getAssetIdx a) (ht.getAssetIdx a)
      rwa [append_assoc] at this
  have hstart : Interns ⟨[], fun _ => none⟩ [] := ⟨rfl, nodup_nil, by simp⟩
  have := hfold (endpoints edges) [] _ hstart
  rwa [endpoints, foldl_flatMap] at this

theorem fromAsset_mem_endpoints (he : e ∈ edges) :
    e.fromAsset ∈ endpoints edges := mem_flatMap.mpr ⟨e, he, by simp⟩

theorem toAsset_mem_endpoints (he : e ∈ edges) :
    e.toAsset ∈ endpoints edges := mem_flatMap.mpr ⟨e, he, by simp⟩

/-! The second pass. -/

def groupAt (assets : List String) (edges : List LiquidityEdge) (i : UInt32) : List CompactedEdge :=
  (edges.filter (assetIdx assets ·.fromAsset == i)).map fun e =>
    e.compact (assetIdx assets e.toAsset)

theorem groupEdges_eq {m : String → Option UInt32}
    (hm : ∀ e ∈ edges, m e.fromAsset = some (assetIdx assets e.fromAsset) ∧
      m e.toAsset = some (assetIdx assets e.toAsset)) :
    groupEdges m edges = some (groupAt assets edges) := by
  have hfold : ∀ (done rest : List LiquidityEdge), (∀ e ∈ rest, e ∈ edges) →
      rest.foldlM (fun grouped e => do
        let fromIdx ← m e.fromAsset
        let toIdx ← m e.toAsset
        pure (update grouped fromIdx (grouped fromIdx ++ [e.compact toIdx])))
        (groupAt assets done) = some (groupAt assets (done ++ rest)) := by
    intro done rest
    induction rest generalizing done with
    | nil => simp
    | cons e rest ih =>
      intro hrest
      obtain ⟨hfrom, hto⟩ := hm e (hrest e mem_cons_self)
      have hstep : update (groupAt assets done) (assetIdx assets e.fromAsset)
          (groupAt assets done (assetIdx assets e.fromAsset) ++
            [e.compact (assetIdx assets e.toAsset)]) = groupAt assets (done ++ [e]) := by
        funext i
        by_cases hi : i = assetIdx assets e.fromAsset
        · subst hi
          simp [groupAt]
        · simp [groupAt, hi, Ne.symm hi]
      have := ih (done ++ [e]) fun e' he' => hrest e' (mem_cons_of_mem _ he')
      rw [foldlM_cons, hfrom, hto]
      simp only [Option.bind_eq_bind, Option.bind_some, Option.pure_def, hstep]
      rwa [append_assoc] at this
  have := hfold [] edges fun _ he => he
  rwa [nil_append] at this

/-! The layout. -/

def laidOut (grouped : UInt32 → List CompactedEdge) (k : ℕ) : List CompactedEdge :=
  (List.range k).flatMap fun i => grouped (UInt32.ofNat i)

theorem laidOut_succ (grouped : UInt32 → List CompactedEdge) (k : ℕ) :
    laidOut grouped (k + 1) = laidOut grouped k ++ grouped (UInt32.ofNat k) := by
  simp [laidOut, range_succ]

theorem laidOut_append (grouped : UInt32 → List CompactedEdge) (k d : ℕ) :
    ∃ rest, laidOut grouped (k + d) = laidOut grouped k ++ rest := by
  induction d with
  | zero => exact ⟨[], by simp⟩
  | succ d ih =>
    obtain ⟨rest, hrest⟩ := ih
    exact ⟨rest ++ grouped (UInt32.ofNat (k + d)),
      by rw [← Nat.add_assoc, laidOut_succ, hrest, append_assoc]⟩

theorem foldl_layout (grouped : UInt32 → List CompactedEdge) {k : ℕ} (hk : k ≤ 2 ^ 32) :
    let l := (range k).foldl Layout.append ⟨[], [], grouped⟩
    l.finalEdges = laidOut grouped k ∧
      l.offsets = (range k).map (fun i => (laidOut grouped i).length) ∧
      ∀ i, k ≤ i → i < 2 ^ 32 → l.grouped (UInt32.ofNat i) = grouped (UInt32.ofNat i) := by
  induction k with
  | zero => exact ⟨rfl, rfl, fun _ _ _ => rfl⟩
  | succ k ih =>
    obtain ⟨hedges, hoffsets, hgroups⟩ := ih (by omega)
    rw [range_succ, foldl_append, foldl_cons, foldl_nil]
    refine ⟨?_, ?_, ?_⟩
    · rw [laidOut_succ, ← hgroups k le_rfl (by omega), ← hedges]
      rfl
    · rw [map_append, ← hoffsets, map_singleton, ← hedges]
      rfl
    · intro i hi hlt
      rw [← hgroups i (by omega) hlt]
      -- only the group just laid out has been taken
      refine update_of_ne ?_ _ _
      intro heq
      have := ofNat_inj_of_lt hlt (by omega) heq
      omega

/-- What `from_edges` builds. -/
theorem fromEdges_eq (hlt : (assetsOf edges).length < 2 ^ 32) :
    let assets := assetsOf edges
    let grouped := groupAt assets edges
    ∃ m, fromEdges edges = some
      { assets := assets
        assetMap := m
        edges := laidOut grouped assets.length
        offsets := (range (assets.length + 1)).map fun i => (laidOut grouped i).length } := by
  have ht := internAssets_interns edges
  have hassets : (internAssets edges).assets = assetsOf edges := ht.assets
  have hgroup : groupEdges (internAssets edges).assetMap edges
      = some (groupAt (assetsOf edges) edges) := by
    apply groupEdges_eq
    intro e he
    rw [ht.index, ht.index, if_pos (fromAsset_mem_endpoints he),
      if_pos (toAsset_mem_endpoints he), hassets]
    exact ⟨rfl, rfl⟩
  obtain ⟨hedges, hoffsets, _⟩ := foldl_layout (groupAt (assetsOf edges) edges) hlt.le
  refine ⟨(internAssets edges).assetMap, ?_⟩
  simp only [fromEdges, hgroup, bind_eq_bind, bind_some, hassets,
    hedges, hoffsets, range_succ, map_append]
  rfl

/-! And back. -/

theorem slice_laidOut (grouped : UInt32 → List CompactedEdge) {i n : ℕ} (hi : i < n) :
    slice (laidOut grouped n) (laidOut grouped i).length (laidOut grouped (i + 1)).length
      = some (grouped (UInt32.ofNat i)) := by
  obtain ⟨rest, hrest⟩ := laidOut_append grouped (i + 1) (n - (i + 1))
  rw [Nat.add_sub_cancel' hi, laidOut_succ] at hrest
  rw [slice, if_pos]
  · rw [hrest, laidOut_succ, append_assoc, drop_left, length_append,
      Nat.add_sub_cancel_left, take_left]
  · rw [hrest, laidOut_succ]
    simp only [length_append]
    omega

theorem expand_compact (hvenue : e.venueType ≠ "") (i : UInt32) :
    (e.compact i).expand e.fromAsset e.toAsset = e := by
  simp [CompactedEdge.expand, CompactedEdge.resolvedVenueType, LiquidityEdge.compact, hvenue]

theorem assetIdx_eq_iff (hnodup : assets.Nodup) (hlt : assets.length < 2 ^ 32) {b : String} {i : ℕ}
    (ha : a ∈ assets) (hb : assets[i]? = some b) : assetIdx assets a = UInt32.ofNat i ↔ a = b := by
  obtain ⟨hi, hget⟩ := List.getElem?_eq_some_iff.mp hb
  have ha' := List.idxOf_lt_length_iff.mpr ha
  constructor
  · intro h
    have hidx := ofNat_inj_of_lt (by omega) (by omega) h
    have hgeta := List.getElem?_idxOf ha
    rw [hidx, hb] at hgeta
    exact (some_inj.mp hgeta).symm
  · rintro rfl
    rw [assetIdx, ← hget, List.Nodup.idxOf_getElem hnodup]

/-- The edges of the group of the asset `a`, expanded again. -/
theorem expand_groupAt (hnodup : assets.Nodup) (hlt : assets.length < 2 ^ 32)
    (hfrom : ∀ e ∈ edges, e.fromAsset ∈ assets) (hto : ∀ e ∈ edges, e.toAsset ∈ assets)
    (hvenue : ∀ e ∈ edges, e.venueType ≠ "") {i : ℕ} (hi : assets[i]? = some a)
    (acc : List LiquidityEdge) :
    (groupAt assets edges (UInt32.ofNat i)).foldlM (fun edges c => do
      let toAsset ← assets[c.toIdx.toNat]?
      pure (edges ++ [c.expand a toAsset])) acc
      = some (acc ++ edges.filter (·.fromAsset == a)) := by
  have hfilter : edges.filter (assetIdx assets ·.fromAsset == UInt32.ofNat i)
      = edges.filter (·.fromAsset == a) := by
    apply filter_congr
    intro e he
    rw [Bool.eq_iff_iff, beq_iff_eq, beq_iff_eq]
    exact assetIdx_eq_iff hnodup hlt (hfrom e he) hi
  rw [groupAt, foldlM_map, hfilter, foldlM_append_eq (h := fun e => [e])]
  · simp
  · intro e he acc
    obtain ⟨he, hea⟩ := mem_filter.mp he
    rw [beq_iff_eq] at hea
    have hidx : (e.compact (assetIdx assets e.toAsset)).toIdx.toNat = assets.idxOf e.toAsset :=
      UInt32.toNat_ofNat_of_lt' ((idxOf_lt_length_iff.mpr (hto e he)).trans hlt)
    rw [hidx, getElem?_idxOf (hto e he), bind_eq_bind, bind_some, ← hea,
      expand_compact (hvenue e he)]
    rfl

section RoundTrip

variable (edges : List LiquidityEdge)

theorem assetsOf_nodup : (assetsOf edges).Nodup := by
  have ht := internAssets_interns edges
  rw [assetsOf, ← ht.assets]
  exact ht.nodup

theorem fromAsset_mem_assetsOf : ∀ e ∈ edges, e.fromAsset ∈ assetsOf edges := by
  intro e he
  exact mem_eraseDups.mpr (fromAsset_mem_endpoints he)

theorem toAsset_mem_assetsOf : ∀ e ∈ edges, e.toAsset ∈ assetsOf edges := by
  intro e he
  exact mem_eraseDups.mpr (toAsset_mem_endpoints he)

theorem findPaths_groupedBySource (cfg : PathfinderConfig) (source target : String)
    (amountIn : I128) (policy : RoutingPolicy) :
    findPaths cfg source target (groupedBySource edges) amountIn policy
      = findPaths cfg source target edges amountIn policy := by
  have hgraph : buildGraph cfg (groupedBySource edges) policy = buildGraph cfg edges policy := by
    funext a
    rw [buildGraph_apply, buildGraph_apply, groupedBySource,
      filter_groupedBy (assetsOf_nodup edges) (fromAsset_mem_assetsOf edges)]
  have hfuel : searchFuel (groupedBySource edges) policy = searchFuel edges policy := by
    rw [searchFuel, searchFuel, groupedBySource,
      (groupedBy_perm (assetsOf_nodup edges) (fromAsset_mem_assetsOf edges)).length_eq]
  simp only [findPaths, hgraph, hfuel]

theorem bind_toEdges (hvenue : ∀ e ∈ edges, e.venueType ≠ "")
    (hlt : (assetsOf edges).length < 2 ^ 32) :
    (fromEdges edges).bind toEdges = some (groupedBySource edges) := by
  obtain ⟨m, hm⟩ := fromEdges_eq hlt
  rw [hm, bind_some, toEdges, foldlM_append_eq
    (h := fun p => edges.filter (·.fromAsset == p.1))]
  · rw [List.nil_append, groupedBySource, groupedBy]
    conv_rhs => rw [← List.zipIdx_map_fst 0 (assetsOf edges), List.flatMap_map]
  · rintro ⟨a, i⟩ hai acc
    have hi : (assetsOf edges)[i]? = some a := List.mem_zipIdx_iff_getElem?.mp hai
    obtain ⟨hilt, _⟩ := List.getElem?_eq_some_iff.mp hi
    have hoffset : ∀ j, j ≤ (assetsOf edges).length →
        ((List.range ((assetsOf edges).length + 1)).map fun k =>
          (laidOut (groupAt (assetsOf edges) edges) k).length)[j]?
          = some (laidOut (groupAt (assetsOf edges) edges) j).length := by
      intro j hj
      simp [Nat.lt_succ_of_le hj]
    simp only [hoffset i (by omega), hoffset (i + 1) (by omega), bind_eq_bind,
      bind_some, slice_laidOut _ hilt]
    exact expand_groupAt (assetsOf_nodup edges) hlt (fromAsset_mem_assetsOf edges)
      (toAsset_mem_assetsOf edges) hvenue hi acc

/-- The round trip gives back the edges, grouped by source asset in order of
first appearance, and path search does not see the difference. -/
theorem toEdges_fromEdges (edges : List LiquidityEdge)
    (hvenue : ∀ e ∈ edges, e.venueType ≠ "") (hlt : (assetsOf edges).length < 2 ^ 32) :
    (CompactedGraph.fromEdges edges).bind CompactedGraph.toEdges = some (groupedBySource edges) ∧
      (groupedBySource edges).Perm edges ∧
      ∀ (cfg : PathfinderConfig) (source target : String) (amountIn : I128)
        (policy : RoutingPolicy),
        findPaths cfg source target (groupedBySource edges) amountIn policy
          = findPaths cfg source target edges amountIn policy := by
  exact ⟨bind_toEdges edges hvenue hlt,
    groupedBy_perm (assetsOf_nodup edges) (fromAsset_mem_assetsOf edges),
    findPaths_groupedBySource edges⟩

end RoundTrip

def plainEdge (fromAsset toAsset : String) : LiquidityEdge where
  fromAsset := fromAsset
  toAsset := toAsset
  venueType := "sdex"
  venueRef := "sdex:1"
  liquidity := 5000000
  price := 0x3FF0000000000000
  feeBps := 0
  provider := none
  bridge := none

/-- `EUR` is interned before it is a source, so its edge comes forward. -/
theorem triangle_roundTrip :
    (CompactedGraph.fromEdges [plainEdge "XLM" "EUR", plainEdge "USD" "XLM",
        plainEdge "EUR" "USD"]).bind CompactedGraph.toEdges
      = some [plainEdge "XLM" "EUR", plainEdge "EUR" "USD", plainEdge "USD" "XLM"] := by
  rw [(toEdges_fromEdges _ (by decide) (by decide)).1]
  decide

end StellarRoute.Routing
