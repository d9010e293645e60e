import StellarRoute.Routing.Proofs.Impact

/-! The greedy fill of an order book. The loop goes through the levels in order
and takes of each what it has or what remains; the cost is rounded down at each
level, and the effective price once more. -/

namespace StellarRoute.Routing.Impact

open Lib List

variable {r c : I128} {fills : List PartialFill} {levels : List Level}

/-- The amounts of the fills, and of the levels, together. -/
def amounts (l : List (I128 × I128)) : ℤ := (l.map (·.1.toInt)).sum

def exactCost (l : List PartialFill) : ℤ := (l.map fun p => p.1.toInt * p.2.toInt).sum

def available (l : List Level) : ℤ := (l.map (·.2.toInt)).sum

/-- The levels in order, all but the last taken completely. -/
def InOrder (levels : List Level) (fills : List PartialFill) : Prop :=
  ∃ taken last rest amount, levels = taken ++ last :: rest ∧
    fills = taken.map Prod.swap ++ [(amount, last.1)] ∧ 0 < amount ∧ amount ≤ last.2

/-- What the loop has done with the levels from an amount `r` and a cost `c` on. -/
structure Filled (r c : I128) (levels : List Level) (new : List PartialFill) (r' c' : I128) :
    Prop where
  rest : r'.toInt = r.toInt - amounts new
  nonneg : 0 ≤ r'.toInt
  pos : ∀ p ∈ new, 0 < p.1.toInt
  done : r'.toInt = 0 → r.toInt = 0 ∧ new = [] ∨ InOrder levels new
  short : 0 < r'.toInt → new = levels.map Prod.swap
  grows : c.toInt ≤ c'.toInt
  cost_le : (c'.toInt - c.toInt) * SCALE_1E7 ≤ exactCost new
  le_cost : exactCost new ≤ (c'.toInt - c.toInt) * SCALE_1E7 + new.length * (SCALE_1E7 - 1)

theorem Filled.nil (hr : 0 ≤ r.toInt) (h : r.toInt = 0 ∨ levels = []) :
    Filled r c levels [] r c where
  rest := by simp [amounts]
  nonneg := hr
  pos p hp := absurd hp not_mem_nil
  done hzero := .inl ⟨hzero, rfl⟩
  short hpos := by
    rcases h with h | rfl
    · omega
    · rfl
  grows := le_rfl
  cost_le := by simp [exactCost]
  le_cost := by simp [exactCost]

theorem amounts_pos {l : List PartialFill} (h : ∀ p ∈ l, 0 < p.1.toInt) (hne : l ≠ []) :
    0 < amounts l := by
  apply sum_pos
  · simpa using fun _ a b hp heq => heq ▸ h (a, b) hp
  · simpa using hne

theorem Filled.cons {r' c' rs cs q : I128} {level : Level} (h : Filled r' c' levels fills rs cs)
    (hprice : 0 < level.1) (hq : 0 < q) (hle : q ≤ level.2) (hrest : r'.toInt = r.toInt - q.toInt)
    (hfull : q = level.2 ∨ r'.toInt = 0)
    (hcost : c'.toInt = c.toInt + q.toInt * level.1.toInt / SCALE_1E7) :
    Filled r c (level :: levels) ((q, level.1) :: fills) rs cs := by
  obtain ⟨hrs, hnonneg, hpos, hdone, hshort, hgrows, hlow, hhigh⟩ := h
  have hk : 0 ≤ q.toInt * level.1.toInt / SCALE_1E7 :=
    Int.ediv_nonneg (mul_nonneg hq.le hprice.le) (by decide)
  have hmul := Int.ediv_mul_le (q.toInt * level.1.toInt) (show SCALE_1E7 ≠ 0 by decide)
  have hlt := Int.lt_ediv_add_one_mul_self (q.toInt * level.1.toInt) (show 0 < SCALE_1E7 by decide)
  generalize q.toInt * level.1.toInt / SCALE_1E7 = k at *
  have hsum : amounts ((q, level.1) :: fills) = q.toInt + amounts fills := by simp [amounts]
  have hexact : exactCost ((q, level.1) :: fills) = q.toInt * level.1.toInt + exactCost fills := by
    simp [exactCost]
  have hfills : 0 ≤ amounts fills := by
    rcases eq_or_ne fills [] with rfl | hne
    · exact le_rfl
    · exact (amounts_pos hpos hne).le
  -- what comes after a level that is not taken completely is nothing
  have hwhole : r'.toInt ≠ 0 → (q, level.1) = level.swap := by
    intro hne
    rw [hfull.resolve_right hne]
    rfl
  constructor
  · rw [hsum]
    omega
  · exact hnonneg
  · rintro p (_ | ⟨_, hp⟩)
    · exact hq
    · exact hpos p hp
  · intro hzero
    refine .inr ?_
    rcases hdone hzero with ⟨-, rfl⟩ | ⟨taken, last, rest, amount, rfl, rfl, hamount, hlast⟩
    · exact ⟨[], level, levels, q, rfl, rfl, hq, hle⟩
    · have hmore := amounts_pos hpos (by simp)
      rw [hwhole (by omega)]
      exact ⟨level :: taken, last, rest, amount, rfl, rfl, hamount, hlast⟩
  · intro hrest'
    rw [hshort hrest', hwhole (by omega), map_cons]
  · omega
  · rw [hexact, show cs.toInt - c.toInt = cs.toInt - c'.toInt + k by omega, add_mul]
    omega
  · rw [hexact, show cs.toInt - c.toInt = cs.toInt - c'.toInt + k by omega, add_mul,
      length_cons]
    push_cast
    rw [add_mul] at hlt ⊢
    omega

theorem fillLevels_meets (hlevels : ∀ l ∈ levels, 0 < l.1 ∧ 0 < l.2) (hr : 0 ≤ r.toInt) :
    Meets (fun out => ∃ new, out.2.2 = fills ++ new ∧ Filled r c levels new out.1 out.2.1) TooLarge
      (fillLevels r c fills levels) := by
  induction levels generalizing r c fills with
  | nil => exact ⟨[], (append_nil _).symm, .nil hr (.inr rfl)⟩
  | cons level levels ih =>
    obtain ⟨hprice, havailable⟩ := hlevels level mem_cons_self
    rw [fillLevels]
    simp only [meets_bind, meets_require]
    refine ⟨fun _ => ?_, fun h => absurd ⟨hprice, havailable⟩ h⟩
    by_cases hzero : r = 0
    · rw [if_pos hzero]
      subst hzero
      exact ⟨[], (append_nil _).symm, .nil hr (.inl SInt.toInt_zero)⟩
    · have hpos : 0 < r.toInt := lt_of_le_of_ne hr fun h => hzero (SInt.ext (by simp [← h]))
      rw [if_neg hzero]
      obtain ⟨q, hq⟩ : ∃ q, q = if r ≤ level.2 then r else level.2 := ⟨_, rfl⟩
      have hfill : 0 < q ∧ q ≤ level.2 ∧ q.toInt ≤ r.toInt ∧
          (q = level.2 ∨ r.toInt - q.toInt = 0) := by
        split_ifs at hq with hle
        · exact ⟨hq ▸ hpos, hq ▸ hle, hq ▸ le_rfl, .inr (by rw [hq, sub_self])⟩
        · have hle' : ¬ r.toInt ≤ level.2.toInt := hle
          subst hq
          exact ⟨havailable, Int.le_refl _, by omega, .inl rfl⟩
      obtain ⟨hqpos, hqle, hqr, hfull⟩ := hfill
      have hcost : 0 ≤ q.toInt * level.1.toInt := mul_nonneg hqpos.le hprice.le
      rw [← hq]
      simp only [meets_bind, meets_unchecked, meets_checked, meets_quotient, TooLarge, true_or,
        or_true, implies_true, true_and]
      intro s hs
      refine ⟨fun h => absurd h (by decide), fun _ k hk total htotal rest hrest => ?_⟩
      rw [hs, Int.tdiv_eq_ediv_of_nonneg hcost] at hk
      refine (ih (fun l hl => hlevels l (mem_cons_of_mem _ hl)) (by omega)).mono ?_ fun _ h => h
      rintro out ⟨new, hnew, hfilled⟩
      refine ⟨(q, level.1) :: new, by simp [hnew], hfilled.cons hprice hqpos hqle hrest ?_ ?_⟩
      · rwa [hrest]
      · rw [htotal, hk]

theorem exactCost_lt {e : ℤ} {l : List PartialFill} (hpos : ∀ p ∈ l, 0 < p.1.toInt) (hne : l ≠ [])
    (hlt : ∀ p ∈ l, p.2.toInt < e) : exactCost l < e * amounts l := by
  rw [exactCost, amounts, ← sum_map_mul_left]
  apply sum_lt_sum_of_ne_nil hne
  intro p hp
  rw [mul_comm e]
  exact mul_lt_mul_of_pos_left (hlt p hp) (hpos p hp)

theorem amounts_swap (l : List Level) : amounts (l.map Prod.swap) = available l := by
  simp [amounts, available, Function.comp_def]

theorem InOrder.le_available (h : InOrder levels fills)
    (hlevels : ∀ l ∈ levels, 0 < l.1 ∧ 0 < l.2) : amounts fills ≤ available levels := by
  obtain ⟨taken, last, rest, amount, rfl, rfl, -, hle⟩ := h
  have hrest : 0 ≤ available rest := by
    apply sum_nonneg
    intro z hz
    obtain ⟨l, hl, rfl⟩ := mem_map.mp hz
    exact (hlevels l (by simp [hl])).2.le
  have hleft : amounts (taken.map Prod.swap ++ [(amount, last.1)]) =
      available taken + amount.toInt := by
    rw [← amounts_swap]
    simp [amounts]
  have hright : available (taken ++ last :: rest) =
      available taken + (last.2.toInt + available rest) := by
    simp [available]
  have hlast : amount.toInt ≤ last.2.toInt := hle
  omega

/-- What a calculation has found. -/
structure Priced (amount : I128) (levels : List Level) (effective : I128)
    (fills : List PartialFill) : Prop where
  inOrder : InOrder levels fills
  sum : amounts fills = amount.toInt
  le_cost : effective.toInt * amount.toInt ≤ exactCost fills
  cost_lt : exactCost fills <
    (effective.toInt + 1) * amount.toInt + fills.length * SCALE_1E7
  price : ∃ p ∈ fills, effective ≤ p.2

theorem calculateImpact_meets {amount : I128} (hamount : 0 < amount)
    (hlevels : ∀ l ∈ levels, 0 < l.1 ∧ 0 < l.2) :
    Meets (fun out => Priced amount levels out.2.1 out.2.2)
      (fun e => TooLarge e ∨ available levels < amount.toInt) (calculateImpact amount levels) := by
  have hpos : 0 < amount.toInt := hamount
  rw [calculateImpact]
  simp only [meets_bind, meets_require, meets_okOr]
  refine ⟨fun _ => ⟨fun base hbase => ?_, fun hnone => .inr ?_⟩, fun h => absurd hamount h⟩
  · refine (fillLevels_meets hlevels hpos.le).mono ?_ fun e he => .inl he
    rintro ⟨remaining, total, fills⟩ ⟨new, hnew, hfilled⟩
    obtain rfl : fills = new := hnew
    dsimp only at hfilled
    simp only [meets_unchecked, meets_quotient]
    refine ⟨fun hle => ⟨fun _ => .inl (.inl rfl), fun s hs => ⟨fun h => absurd h hpos.ne', fun _ =>
      ⟨fun _ => .inl (.inl rfl), fun effective heffective => ?_⟩⟩⟩, fun hgt => .inr ?_⟩
    · have hbase : 0 < base.1 := (hlevels base (mem_of_mem_head? hbase)).1
      refine (meets_impactBps hbase).mono (fun _ _ => ?_) fun _ he => .inl he
      change Priced amount levels effective fills
      have hzero : remaining.toInt = 0 := le_antisymm hle hfilled.nonneg
      have hsum : amounts fills = amount.toInt := by
        have := hfilled.rest
        omega
      have hne : fills ≠ [] := by
        rintro rfl
        exact absurd hsum hpos.ne
      have htotal : 0 ≤ total.toInt * SCALE_1E7 :=
        mul_nonneg (SInt.toInt_zero (w := 128) ▸ hfilled.grows) (by decide)
      rw [hs, Int.tdiv_eq_ediv_of_nonneg htotal] at heffective
      have hlow := hfilled.cost_le
      have hhigh := hfilled.le_cost
      have hmul := Int.ediv_mul_le (total.toInt * SCALE_1E7) hpos.ne'
      have hlt := Int.lt_ediv_add_one_mul_self (total.toInt * SCALE_1E7) hpos
      rw [← heffective] at hmul hlt
      rw [SInt.toInt_zero, sub_zero] at hlow hhigh
      refine ⟨(hfilled.done hzero).resolve_left fun h => hne h.2, hsum, hmul.trans hlow, ?_, ?_⟩
      · rw [mul_sub, mul_one] at hhigh
        omega
      · by_contra hall
        have := exactCost_lt hfilled.pos hne fun p hp => not_le.mp fun h => hall ⟨p, hp, h⟩
        rw [hsum] at this
        omega
    · have hrest := hfilled.rest
      rw [hfilled.short (not_le.mp hgt), amounts_swap] at hrest
      have : ¬ remaining.toInt ≤ 0 := hgt
      omega
  · rw [head?_eq_none_iff] at hnone
    rw [hnone]
    exact hpos

/-- The calculation succeeds exactly when the levels cover the request, and then prices it. -/
theorem calculate_impact_fills (amount : I128) (levels : List Level) (hamount : 0 < amount)
    (hlevels : ∀ l ∈ levels, 0 < l.1 ∧ 0 < l.2)
    (hfits : ∀ e, calculateImpact amount levels = .error e → ¬ TooLarge e) :
    ((∃ out, calculateImpact amount levels = .ok out) ↔ amount.toInt ≤ available levels) ∧
    ∀ impact effective fills, calculateImpact amount levels = .ok (impact, effective, fills) →
      InOrder levels fills ∧ amounts fills = amount.toInt ∧ (∃ p ∈ fills, effective ≤ p.2) ∧
      effective.toInt * amount.toInt ≤ exactCost fills ∧
      exactCost fills < (effective.toInt + 1) * amount.toInt + fills.length * SCALE_1E7 := by
  have hmeets := calculateImpact_meets hamount hlevels
  cases h : calculateImpact amount levels with
  | error e =>
    rw [h] at hmeets
    have hshort := hmeets.resolve_left (hfits e h)
    exact ⟨⟨fun ⟨_, hok⟩ => (nomatch hok), fun hle => by omega⟩, fun _ _ _ hok => nomatch hok⟩
  | ok out =>
    rw [h] at hmeets
    refine ⟨⟨fun _ => ?_, fun _ => ⟨out, rfl⟩⟩, ?_⟩
    · exact hmeets.sum ▸ hmeets.inOrder.le_available hlevels
    · rintro impact effective fills ⟨⟩
      exact ⟨hmeets.inOrder, hmeets.sum, hmeets.price, hmeets.le_cost, hmeets.cost_lt⟩

theorem calculate_impact_fills_two : ∃ impact effective fills,
    calculateImpact 1500000000 [(10000000, 1000000000), (11000000, 500000000)] =
      .ok (impact, effective, fills) ∧ amounts fills = 1500000000 := by
  have h : calculateImpact 1500000000 [(10000000, 1000000000), (11000000, 500000000)] =
      .ok (333, 10333333, [(1000000000, 10000000), (500000000, 11000000)]) := by
    decide
  refine ⟨_, _, _, h, ((calculate_impact_fills _ _ (by decide) (by decide) ?_).2 _ _ _ h).2.1⟩
  rw [h]
  exact nofun

end StellarRoute.Routing.Impact
