import StellarRoute.Contracts.Sanity.Frame

/-! The category index of the allowlist, and what a removal does to the check
of routes. The index is append-only: an asset that is removed stays in it, and
is written a second time when it is added again; an update can move an asset to
a category in whose index it is not. In runs that do neither, the index filtered
by the allowlist is exact. The check of routes is off while no token is counted,
so a removal narrows it except when the last token goes. -/

namespace StellarRoute.Contracts

open Lib List Function

variable {X : Type} {H : Host X} {auth : Auth} {c : Call} {w w' : World X}

/-! The index as a list -/

variable {category : TokenCategory} {info : TokenInfo} {asset : Asset} {caller : Address}

theorem pushCatEntry_index (h : pushCatEntry category asset w = .ok w')
    (category' : TokenCategory) : catIndex w' category' =
      if category' = category then catIndex w category ++ [asset] else catIndex w category' := by
  simp only [pushCatEntry, bind_eq_ok, okOr_eq_ok, pure_eq_ok] at h
  obtain ⟨len, hlen, rfl⟩ := h
  have hnext : len.toNat = (w.tokens.catLen category).toNat + 1 := UInt32.toNat_of_checkedAdd hlen
  rcases eq_or_ne category' category with rfl | hne
  · have hold : ∀ i ∈ range (w.tokens.catLen category').toNat,
        UInt32.ofNat i ≠ w.tokens.catLen category' := by
      intro i hi heq
      have hlt := mem_range.mp hi
      have hsize : i < UInt32.size := hlt.trans (w.tokens.catLen category').toNat_lt
      rw [← heq, UInt32.toNat_ofNat_of_lt' hsize] at hlt
      exact lt_irrefl i hlt
    rw [if_pos rfl, catIndex, catIndex]
    simp only [update_self]
    rw [hnext, range_succ, filterMap_append]
    congr 1
    · refine filterMap_congr fun i hi => ?_
      rw [update_of_ne (hold i hi)]
    · simp
  · rw [if_neg hne, catIndex, catIndex]
    simp only [update_of_ne hne]

/-! The invariant -/

/-- No index names an asset twice; an allowed asset stands in the index of its
category and in no other. -/
structure IndexInv (w : World X) : Prop where
  nodup : ∀ category, (catIndex w category).Nodup
  sound : ∀ category a info, a ∈ catIndex w category → w.tokens.allowedToken a = some info →
    info.category = category
  complete : ∀ a info, w.tokens.allowedToken a = some info → a ∈ catIndex w info.category

/-- It is enough that each allowed asset was allowed before, under the same category. -/
theorem IndexInv.of_allowed {v : World X} (hw : IndexInv w)
    (hentry : v.tokens.catEntry = w.tokens.catEntry) (hlen : v.tokens.catLen = w.tokens.catLen)
    (hold : ∀ a info, v.tokens.allowedToken a = some info →
      ∃ info0, w.tokens.allowedToken a = some info0 ∧ info0.category = info.category) :
    IndexInv v := by
  have hindex : ∀ category, catIndex v category = catIndex w category := by
    simp only [catIndex, hentry, hlen, implies_true]
  refine ⟨fun category => ?_, fun category a info ha hinfo => ?_, fun a info hinfo => ?_⟩
  · rw [hindex]
    exact hw.nodup category
  · rw [hindex] at ha
    obtain ⟨info0, hinfo0, hcat⟩ := hold a info hinfo
    exact hcat ▸ hw.sound category a info0 ha hinfo0
  · obtain ⟨info0, hinfo0, hcat⟩ := hold a info hinfo
    rw [hindex, ← hcat]
    exact hw.complete a info0 hinfo0

theorem IndexInv.congr (hw : IndexInv w) (h : w'.tokens = w.tokens) : IndexInv w' :=
  hw.of_allowed (by rw [h]) (by rw [h]) fun _ info hinfo => ⟨info, h ▸ hinfo, rfl⟩

theorem addTokenInternal_eq_ok (h : addTokenInternal H caller info w = .ok w') :
    w.tokens.allowedToken info.asset = none ∧
      w'.tokens.allowedToken = Function.update w.tokens.allowedToken info.asset (some info) ∧
      ∀ category, catIndex w' category = if category = info.category
        then catIndex w info.category ++ [info.asset] else catIndex w category := by
  simp only [addTokenInternal, bind_eq_ok, require_eq_ok, pure_eq_ok, exists_const] at h
  obtain ⟨-, -, hnew, v, hpush, count, -, rfl⟩ := h
  have hallowed : v.tokens.allowedToken = (saveTokenInfo info w).tokens.allowedToken := by
    simp only [pushCatEntry, bind_eq_ok, pure_eq_ok] at hpush
    obtain ⟨-, -, rfl⟩ := hpush
    rfl
  refine ⟨by simpa [isTokenAllowed] using hnew, hallowed, fun category => ?_⟩
  exact pushCatEntry_index hpush category

theorem IndexInv.add (hw : IndexInv w) (hfresh : ∀ category, info.asset ∉ catIndex w category)
    (h : addTokenInternal H caller info w = .ok w') : IndexInv w' := by
  obtain ⟨-, hallowed, hindex⟩ := addTokenInternal_eq_ok h
  refine ⟨fun category => ?_, fun category a info' ha hinfo => ?_, fun a info' hinfo => ?_⟩
  · rw [hindex]
    split_ifs with hcat
    · exact nodup_append_comm.mp
        (nodup_cons.mpr ⟨hfresh info.category, hw.nodup info.category⟩)
    · exact hw.nodup category
  · rw [hindex] at ha
    rw [hallowed] at hinfo
    rcases eq_or_ne a info.asset with rfl | hne
    · rw [update_self, Option.some.injEq] at hinfo
      split_ifs at ha with hcat
      · rw [← hinfo, hcat]
      · exact absurd ha (hfresh category)
    · rw [update_of_ne hne] at hinfo
      refine hw.sound category a info' ?_ hinfo
      split_ifs at ha with hcat
      · simpa [hcat, hne] using ha
      · exact ha
  · rw [hindex]
    rw [hallowed] at hinfo
    rcases eq_or_ne a info.asset with rfl | hne
    · rw [update_self, Option.some.injEq] at hinfo
      simp [hinfo]
    · rw [update_of_ne hne] at hinfo
      have hmem := hw.complete a info' hinfo
      split_ifs with hcat
      · exact mem_append_left _ (hcat ▸ hmem)
      · exact hmem

/-- A batch adds one asset after the other. The condition on the state before
the first addition is enough, because a repeated asset makes the batch fail. -/
theorem IndexInv.addBatch (tokens : List TokenInfo) :
    ∀ {w w' : World X}, IndexInv w →
      (∀ info ∈ tokens, w.tokens.allowedToken info.asset = none →
        ∀ category, info.asset ∉ catIndex w category) →
      tokens.foldlM (fun w info => addTokenInternal H caller info w) w = .ok w' → IndexInv w' := by
  induction tokens with
  | nil =>
    intro w w' hw _ h
    rw [foldlM_nil, pure_eq_ok] at h
    exact h ▸ hw
  | cons info tokens ih =>
    intro w w' hw hfresh h
    rw [foldlM_cons, bind_eq_ok] at h
    obtain ⟨v, hv, h⟩ := h
    obtain ⟨hnone, hallowed, hindex⟩ := addTokenInternal_eq_ok hv
    refine ih (hw.add (hfresh info mem_cons_self hnone) hv) ?_ h
    intro info' hmem hnone' category
    -- the asset is still not allowed, so it is not the one just added
    have hne : info'.asset ≠ info.asset := by
      intro heq
      simp [hallowed, heq, update_self] at hnone'
    rw [hallowed, update_of_ne hne] at hnone'
    have hold := hfresh info' (mem_cons_of_mem _ hmem) hnone'
    rw [hindex]
    split_ifs with hcat
    · simpa [hne] using hold info.category
    · exact hold category

theorem removeToken_eq_ok (h : removeToken H auth caller asset w = .ok w') :
    isTokenAllowed w asset = true ∧ w'.tokens = (dropToken asset w).tokens := by
  simp only [removeToken, removeTokenInternal, bind_eq_ok, require_eq_ok, exists_const] at h
  obtain ⟨-, -, hpresent, h⟩ := h
  refine ⟨hpresent, ?_⟩
  cases asset with
  | soroban addr =>
    simp only [bind_eq_ok, pure_eq_ok] at h
    obtain ⟨-, -, rfl⟩ := h
    rfl
  | native | issued issuer code =>
    rw [← pure_eq_ok.mp h]
    rfl

theorem removeToken_index (hw : IndexInv w) (h : removeToken H auth caller asset w = .ok w') :
    IndexInv w' := by
  obtain ⟨-, hdrop⟩ := removeToken_eq_ok h
  have hallowed : w'.tokens.allowedToken = update w.tokens.allowedToken asset none := by
    rw [hdrop]
    rfl
  refine hw.of_allowed (by rw [hdrop]; rfl) (by rw [hdrop]; rfl) fun a info hinfo => ?_
  rw [hallowed] at hinfo
  rcases eq_or_ne a asset with rfl | hne
  · simp [update_self] at hinfo
  · rw [update_of_ne hne] at hinfo
    exact ⟨info, hinfo, rfl⟩

theorem updateToken_index {updated : TokenInfo} (hw : IndexInv w)
    (hcat : ∀ info, w.tokens.allowedToken asset = some info → updated.category = info.category)
    (h : updateToken H auth caller asset updated w = .ok w') : IndexInv w' := by
  simp only [updateToken, updateTokenInternal, bind_eq_ok, require_eq_ok, pure_eq_ok,
    exists_const] at h
  obtain ⟨-, -, hpresent, rfl, -, -, rfl⟩ := h
  obtain ⟨info, hinfo⟩ := Option.isSome_iff_exists.mp hpresent
  refine hw.of_allowed rfl rfl fun a info' hinfo' => ?_
  change update w.tokens.allowedToken updated.asset (some updated) a = some info' at hinfo'
  rcases eq_or_ne a updated.asset with rfl | hne
  · rw [update_self, Option.some.injEq] at hinfo'
    exact ⟨info, hinfo, hinfo' ▸ (hcat info hinfo).symm⟩
  · rw [update_of_ne hne] at hinfo'
    exact ⟨info', hinfo', rfl⟩

/-! Runs -/

/-- An asset is added only while no index names it. -/
def AddsUnindexed (w : World X) (info : TokenInfo) : Prop :=
  w.tokens.allowedToken info.asset = none → ∀ category, info.asset ∉ catIndex w category

/-- No asset is added again after its removal, and none is moved to another category. -/
def KeepsCategories (w : World X) : Op X → Prop
  | .invoke _ (.addToken _ info) => AddsUnindexed w info
  | .invoke _ (.addTokensBatch _ tokens) => ∀ info ∈ tokens, AddsUnindexed w info
  | .invoke _ (.updateToken _ asset updated) =>
    ∀ info, w.tokens.allowedToken asset = some info → updated.category = info.category
  | _ => True

theorem invoke_indexInv {r : Ret} (hw : IndexInv w) (hop : KeepsCategories w (.invoke auth c))
    (h : invoke H auth c w = .ok (r, w')) : IndexInv w' := by
  by_cases hc : Area.tokens ∈ c.touches
  · cases c <;> simp only [Call.touches, mem_cons, not_mem_nil, reduceCtorEq, or_false,
      or_self] at hc <;> simp only [invoke, noRet_eq_ok] at h
    case addToken caller info =>
      obtain ⟨-, h⟩ := h
      simp only [addToken, bind_eq_ok] at h
      obtain ⟨-, -, h⟩ := h
      exact hw.add (hop (addTokenInternal_eq_ok h).1) h
    case removeToken caller asset => exact removeToken_index hw h.2
    case updateToken caller asset updated => exact updateToken_index hw hop h.2
    case addTokensBatch caller tokens =>
      obtain ⟨-, h⟩ := h
      simp only [addTokensBatch, bind_eq_ok] at h
      obtain ⟨-, -, -, -, h⟩ := h
      exact IndexInv.addBatch tokens hw hop h
  · exact hw.congr ((invoke_touches h).tokens hc)

/-- In every run that neither adds a removed asset again nor changes a
category, the list of a category is exactly what is allowed under it. -/
theorem tokens_by_category_exact {ledger : UInt32} {wasm : Bytes32} {ext : X} {ops : List (Op X)}
    (hops : Transition.StepsOk (step H) KeepsCategories (World.deployed H ledger wasm ext) ops)
    (category : TokenCategory) :
    (getTokensByCategory (run H (World.deployed H ledger wasm ext) ops) category).Nodup ∧
      ∀ a, a ∈ getTokensByCategory (run H (World.deployed H ledger wasm ext) ops) category ↔
        ∃ info, (run H (World.deployed H ledger wasm ext) ops).tokens.allowedToken a = some info ∧
          info.category = category := by
  have hstart : IndexInv (World.deployed H ledger wasm ext) := by
    refine ⟨fun _ => nodup_nil, fun _ _ _ ha => ?_, fun _ _ hinfo => ?_⟩
    · simp [catIndex, World.deployed] at ha
    · cases hinfo
  have hend : IndexInv (run H (World.deployed H ledger wasm ext) ops) :=
    run_keeps_of_ok (fun _ _ _ hw => hw.congr rfl) (fun _ _ hw => hw.congr rfl)
      (fun _ _ _ _ _ hw hop h => invoke_indexInv hw hop h) hstart hops
  refine ⟨(hend.nodup category).filter _, fun a => ?_⟩
  rw [getTokensByCategory, mem_filter, isTokenAllowed, Option.isSome_iff_exists]
  constructor
  · rintro ⟨hmem, info, hinfo⟩
    exact ⟨info, hinfo, hend.sound category a info hmem hinfo⟩
  · rintro ⟨info, hinfo, rfl⟩
    exact ⟨hend.complete a info hinfo, info, hinfo⟩

def sampleToken (token : Address) (category : TokenCategory) : TokenInfo :=
  { asset := .soroban token, name := "Sample", code := "SMPL", decimals := 7, issuerVerified := true,
    category := category, addedAt := 0, addedBy := 1 }

def addThree : List (Op Unit) :=
  [quietSetup, .invoke [1] (.addToken 1 (sampleToken 20 .stablecoin)),
    .invoke [1] (.addTokensBatch 1 [sampleToken 21 .stablecoin, sampleToken 22 .wrapped]),
    .invoke [1] (.removeToken 1 (.soroban 20))]

theorem addThree_exact :
    getTokensByCategory (run quietHost quietWorld addThree) .stablecoin = [.soroban 21] ∧
      ∀ a, a ∈ getTokensByCategory (run quietHost quietWorld addThree) .stablecoin ↔
        ∃ info, (run quietHost quietWorld addThree).tokens.allowedToken a = some info ∧
          info.category = .stablecoin := by
  have hops : Transition.StepsOk (step quietHost) KeepsCategories
      (World.deployed quietHost 1 zeroHash ()) addThree := by
    refine ⟨trivial, ?_, ?_, trivial, trivial⟩
    · intro _ category
      cases category <;> decide
    · intro info hinfo _ category
      rcases mem_cons.mp hinfo with rfl | hinfo
      · cases category <;> decide
      · rw [mem_singleton.mp hinfo]
        cases category <;> decide
  exact ⟨by decide, (tokens_by_category_exact hops .stablecoin).2⟩

/-- The stablecoin becomes a wrapped asset. -/
def recategorized : World Unit :=
  run quietHost quietWorld
    [quietSetup, .invoke [1] (.addToken 1 (sampleToken 20 .stablecoin)),
      .invoke [1] (.updateToken 1 (.soroban 20) (sampleToken 20 .wrapped))]

def addedAgain : World Unit :=
  run quietHost quietWorld
    [quietSetup, .invoke [1] (.addToken 1 (sampleToken 20 .stablecoin)),
      .invoke [1] (.removeToken 1 (.soroban 20)),
      .invoke [1] (.addToken 1 (sampleToken 20 .stablecoin))]

/-- It is still listed under the old category only; an asset added again is
listed twice. -/
theorem category_index_wrong :
    Reachable quietHost recategorized ∧
      recategorized.tokens.allowedToken (.soroban 20) = some (sampleToken 20 .wrapped) ∧
      getTokensByCategory recategorized .stablecoin = [.soroban 20] ∧
      getTokensByCategory recategorized .wrapped = [] ∧
      Reachable quietHost addedAgain ∧
      getTokensByCategory addedAgain .stablecoin = [.soroban 20, .soroban 20] :=
  ⟨reachable_quietWorld.run _, by decide, by decide, by decide,
    reachable_quietWorld.run _, by decide⟩

/-! The check of routes -/

/-- Some hop of the route starts or ends with the asset. -/
def Route.Mentions (route : Route) (asset : Asset) : Prop :=
  ∃ hop ∈ route.hops, hop.source = asset ∨ hop.destination = asset

theorem validateRouteAssets_eq_ok {route : Route} :
    validateRouteAssets w route = .ok () ↔ w.tokens.tokenCount = 0 ∨
      ∀ asset, route.Mentions asset → isTokenAllowed w asset = true := by
  unfold validateRouteAssets
  split_ifs with hzero
  · simp [hzero]
  · rw [require_eq_ok, or_iff_right hzero]
    constructor
    · rintro h asset ⟨hop, hmem, rfl | rfl⟩
      · exact (h hop hmem).1
      · exact (h hop hmem).2
    · intro h hop hmem
      exact ⟨h _ ⟨hop, hmem, .inl rfl⟩, h _ ⟨hop, hmem, .inr rfl⟩⟩

def loopRoute (asset : Asset) : Route := ⟨[⟨asset, asset, 0, .ammConstProd⟩], 0, 0, 0⟩

theorem loopRoute_mentions (asset : Asset) : (loopRoute asset).Mentions asset :=
  ⟨_, mem_singleton_self _, .inl rfl⟩

theorem dropToken_count_eq_zero :
    (dropToken asset w).tokens.tokenCount = 0 ↔ w.tokens.tokenCount.toNat < 2 := by
  rw [← UInt32.toNat_inj, dropToken]
  dsimp only
  split_ifs with hpos
  · rw [UInt32.lt_iff_toNat_lt] at hpos
    have hone : (1 : UInt32) ≤ w.tokens.tokenCount := UInt32.le_iff_toNat_le.mpr hpos
    rw [UInt32.toNat_sub_of_le _ _ hone]
    simp at hpos ⊢
    omega
  · rw [UInt32.lt_iff_toNat_lt] at hpos
    simp at hpos ⊢
    omega

/-- After a removal every accepted route was accepted before and none with the
removed asset is, exactly when at least two tokens were counted. -/
theorem removal_narrows_iff {caller : Address} {asset : Asset}
    (h : removeToken H auth caller asset w = .ok w') :
    ((∀ route, validateRouteAssets w' route = .ok () → validateRouteAssets w route = .ok ()) ∧
        ∀ route : Route, route.Mentions asset → validateRouteAssets w' route ≠ .ok ()) ↔
      2 ≤ w.tokens.tokenCount.toNat := by
  obtain ⟨-, hdrop⟩ := removeToken_eq_ok h
  have hzero : w'.tokens.tokenCount = 0 ↔ w.tokens.tokenCount.toNat < 2 := by
    rw [hdrop, dropToken_count_eq_zero]
  have hallowed : ∀ a, isTokenAllowed w' a = true ↔ a ≠ asset ∧ isTokenAllowed w a = true := by
    intro a
    rcases eq_or_ne a asset with rfl | hne
    · simp [isTokenAllowed, hdrop, dropToken]
    · simp [isTokenAllowed, hdrop, dropToken, hne]
  constructor
  · rintro ⟨-, hnone⟩
    -- with nothing counted any route passes, also one with the removed asset
    by_contra hsmall
    apply hnone (loopRoute asset) (loopRoute_mentions asset)
    exact validateRouteAssets_eq_ok.mpr (.inl (hzero.mpr (by omega)))
  · intro hlarge
    have hon : w'.tokens.tokenCount ≠ 0 := fun h0 => by
      have := hzero.mp h0
      omega
    refine ⟨fun route hroute => ?_, fun route hmentions hroute => ?_⟩
    · have hall := (validateRouteAssets_eq_ok.mp hroute).resolve_left hon
      exact validateRouteAssets_eq_ok.mpr (.inr fun a ha => ((hallowed a).mp (hall a ha)).2)
    · have hall := (validateRouteAssets_eq_ok.mp hroute).resolve_left hon
      exact ((hallowed asset).mp (hall asset hmentions)).1 rfl

/-- The allowlist has one token, or three. -/
def oneToken : World Unit :=
  run quietHost quietWorld [quietSetup, .invoke [1] (.addToken 1 (sampleToken 20 .stablecoin))]

def threeTokens : World Unit :=
  run quietHost oneToken
    [.invoke [1] (.addTokensBatch 1 [sampleToken 21 .stablecoin, sampleToken 22 .wrapped])]

theorem threeTokens_narrowed : ∃ w',
    removeToken quietHost [1] 1 (.soroban 20) threeTokens = .ok w' ∧
      (∀ route, validateRouteAssets w' route = .ok () → validateRouteAssets threeTokens route = .ok ()) ∧
      ∀ route : Route, route.Mentions (.soroban 20) → validateRouteAssets w' route ≠ .ok () := by
  have hok : (removeToken quietHost [1] 1 (.soroban 20) threeTokens).map (fun _ => ()) = .ok () := by
    decide
  obtain ⟨w', hw', -⟩ := map_eq_ok.mp hok
  exact ⟨w', hw', (removal_narrows_iff hw').mpr (by decide)⟩

/-- When the only token goes, routes pass that were refused before, also over
the token that has just been removed. -/
theorem oneToken_widened :
    Reachable quietHost oneToken ∧
      validateRouteAssets oneToken (loopRoute (.soroban 30)) = .error (fail .tokenNotAllowed) ∧
      ∃ w', removeToken quietHost [1] 1 (.soroban 20) oneToken = .ok w' ∧
        validateRouteAssets w' (loopRoute (.soroban 30)) = .ok () ∧
        validateRouteAssets w' (loopRoute (.soroban 20)) = .ok () := by
  have hok : (removeToken quietHost [1] 1 (.soroban 20) oneToken).map
      (fun w' => (validateRouteAssets w' (loopRoute (.soroban 30)),
        validateRouteAssets w' (loopRoute (.soroban 20)))) = .ok (.ok (), .ok ()) := by decide
  obtain ⟨w', hw', hroutes⟩ := map_eq_ok.mp hok
  rw [Prod.mk.injEq] at hroutes
  exact ⟨reachable_quietWorld.run _, by decide, w', hw', hroutes⟩

end StellarRoute.Contracts
