import StellarRoute.Lib.ConstantProduct
import StellarRoute.Routing.Spec.Impact

/-! What the calculators of `impact.rs` compute, as long as nothing overflows. -/

namespace StellarRoute.Routing.Impact

open Lib ConstantProduct

variable {a o r x y : I128} {f i : UInt32}

@[simp] theorem unchecked_eq_ok {z : ℤ} : unchecked z = .ok a ↔ a.toInt = z := by
  rw [unchecked, okOr_eq_ok, SInt.ofInt?_eq_some]

@[simp] theorem checked_eq_ok {z : ℤ} : checked z = .ok a ↔ a.toInt = z := by
  rw [checked, okOr_eq_ok, SInt.ofInt?_eq_some]

@[simp] theorem quotient_eq_ok {n d : ℤ} : quotient n d = .ok a ↔ d ≠ 0 ∧ a.toInt = n.tdiv d := by
  simp [quotient, bind_eq_ok]

section Meets

variable {ok : I128 → Prop} {err : Fault → Prop} {n d z : ℤ}

theorem meets_unchecked : Meets ok err (unchecked z) ↔
    (¬ InRange 128 z → err .overflow) ∧ ∀ a, a.toInt = z → ok a := by
  rw [unchecked, meets_okOr, and_comm]
  simp only [SInt.ofInt?_eq_some]
  simp [SInt.ofInt?]

theorem meets_checked : Meets ok err (checked z) ↔
    (¬ InRange 128 z → err (.error .overflow)) ∧ ∀ a, a.toInt = z → ok a := by
  rw [checked, meets_okOr, and_comm]
  simp only [SInt.ofInt?_eq_some]
  simp [SInt.ofInt?]

theorem meets_quotient : Meets ok err (quotient n d) ↔ (d = 0 → err .divisionByZero) ∧
    (d ≠ 0 → (¬ InRange 128 (n.tdiv d) → err .overflow) ∧ ∀ a, a.toInt = n.tdiv d → ok a) := by
  rw [quotient, meets_bind, meets_require, meets_unchecked, and_comm, not_not]

end Meets

/-! ### Quotes -/

/-- The input after the fee. -/
def net (a : I128) (f : UInt32) : ℤ := a.toInt * feeMultiplier f / BASIS_POINTS

/-- What a quote has computed, of an input `a`, an output `o` and an impact `i`. -/
structure Quoted (a x y : I128) (f : UInt32) (o : I128) (i : UInt32) : Prop where
  amount : 0 < a.toInt
  reserveIn : 0 < x.toInt
  reserveOut : 0 < y.toInt
  fee : f.toNat ≤ 10000
  output : o.toInt = out x.toInt y.toInt (net a f)
  pos : 0 < o.toInt
  impact : impactBps (a.toInt * SCALE_1E7 / o.toInt) (y.toInt * SCALE_1E7 / x.toInt) = .ok i

theorem feeMultiplier_nonneg (hf : f.toNat ≤ 10000) : 0 ≤ feeMultiplier f := by
  unfold feeMultiplier BASIS_POINTS
  omega

theorem net_nonneg (ha : 0 < a.toInt) (hf : f.toNat ≤ 10000) : 0 ≤ net a f :=
  Int.ediv_nonneg (mul_nonneg ha.le (feeMultiplier_nonneg hf)) (by decide)

theorem quoted_of_ok (h : quoteConstantProduct a x y f = .ok (o, i)) : Quoted a x y f o i := by
  simp only [quoteConstantProduct, bind_eq_ok, require_eq_ok, unchecked_eq_ok, checked_eq_ok,
    quotient_eq_ok, pure_eq_ok, Prod.mk.injEq, exists_const, SInt.lt_def, SInt.toInt_zero] at h
  obtain ⟨ha, ⟨hx, hy⟩, hf, s, hs, n, ⟨-, hn⟩, num, hnum, den, hden, -, o', ⟨-, ho⟩, hpos, t, ht,
    pb, ⟨-, hpb⟩, u, hu, pa, ⟨-, hpa⟩, i', hi, rfl, rfl⟩ := h
  have hfee : f.toNat ≤ 10000 := UInt32.le_iff_toNat_le.mp hf
  have hn : n.toInt = net a f := by
    rw [hn, hs, net, Int.tdiv_eq_ediv_of_nonneg (mul_nonneg ha.le (feeMultiplier_nonneg hfee))]
  have hnet := net_nonneg ha hfee
  rw [hn] at hnum hden
  rw [hnum, hden, Int.tdiv_eq_ediv_of_nonneg (mul_nonneg hnet hy.le)] at ho
  rw [ht, Int.tdiv_eq_ediv_of_nonneg (mul_nonneg hy.le (by decide))] at hpb
  rw [hu, Int.tdiv_eq_ediv_of_nonneg (mul_nonneg ha.le (by decide))] at hpa
  rw [hpa, hpb] at hi
  exact ⟨ha, hx, hy, hfee, ho, hpos, hi⟩

/-- The input of a reverse quote before the fee. -/
def gross (o x y : I128) : ℤ := x.toInt * o.toInt / (y.toInt - o.toInt) + 1

structure ReverseQuoted (o x y : I128) (f : UInt32) (r : I128) (i : UInt32) : Prop where
  amount : 0 < o.toInt
  lt : o.toInt < y.toInt
  reserveIn : 0 < x.toInt
  fee : 0 < feeMultiplier f
  input : r.toInt = gross o x y * BASIS_POINTS / feeMultiplier f + 1
  impact : impactBps (r.toInt * SCALE_1E7 / o.toInt) (y.toInt * SCALE_1E7 / x.toInt) = .ok i

theorem gross_pos (ho : 0 < o.toInt) (hlt : o.toInt < y.toInt) (hx : 0 < x.toInt) :
    0 < gross o x y := by
  have := Int.ediv_nonneg (mul_nonneg hx.le ho.le) (show 0 ≤ y.toInt - o.toInt by omega)
  unfold gross
  omega

theorem reverseQuoted_of_ok (h : quoteConstantProductReverse o x y f = .ok (r, i)) :
    ReverseQuoted o x y f r i := by
  simp only [quoteConstantProductReverse, bind_eq_ok, require_eq_ok, unchecked_eq_ok, checked_eq_ok,
    quotient_eq_ok, pure_eq_ok, Prod.mk.injEq, exists_const, SInt.lt_def, SInt.toInt_zero] at h
  obtain ⟨⟨ho, hlt⟩, ⟨hx, hy⟩, num, hnum, den, hden, -, q, ⟨-, hq⟩, g, hg, hf, s, hs, t, ⟨-, ht⟩,
    r', hr, u, hu, pb, ⟨-, hpb⟩, v, hv, pa, ⟨-, hpa⟩, i', hi, rfl, rfl⟩ := h
  have hgross := gross_pos ho hlt hx
  rw [hq, hnum, hden, Int.tdiv_eq_ediv_of_nonneg (mul_nonneg hx.le ho.le)] at hg
  change g.toInt = gross o x y at hg
  have hscaled : 0 ≤ gross o x y * BASIS_POINTS := mul_nonneg hgross.le (by decide)
  rw [ht, hs, hg, Int.tdiv_eq_ediv_of_nonneg hscaled] at hr
  have hrpos : 0 ≤ r'.toInt := by
    have := Int.ediv_nonneg hscaled hf.le
    omega
  rw [hu, Int.tdiv_eq_ediv_of_nonneg (mul_nonneg hy.le (by decide))] at hpb
  rw [hv, Int.tdiv_eq_ediv_of_nonneg (mul_nonneg hrpos (by decide))] at hpa
  rw [hpa, hpb] at hi
  exact ⟨ho, hlt, hx, hf, hr, hi⟩

/-- The input of a reverse quote is enough after the fee. -/
theorem ReverseQuoted.gross_le (h : ReverseQuoted o x y f r i) : gross o x y ≤ net r f := by
  have hlt := Int.lt_ediv_add_one_mul_self (gross o x y * BASIS_POINTS) h.fee
  rw [← h.input] at hlt
  exact (Int.le_ediv_iff_mul_le (by decide)).mpr hlt.le

theorem mul_lt_gross (hlt : o.toInt < y.toInt) :
    x.toInt * o.toInt < gross o x y * (y.toInt - o.toInt) :=
  Int.lt_ediv_add_one_mul_self _ (by omega)

theorem ReverseQuoted.le_out (h : ReverseQuoted o x y f r i) :
    o.toInt ≤ out x.toInt y.toInt (net r f) := by
  have hgross := gross_pos h.amount h.lt h.reserveIn
  have hnet := h.gross_le
  rw [le_out_iff h.reserveIn (by omega), mul_comm o.toInt]
  exact (mul_lt_gross h.lt).le.trans (mul_le_mul_of_nonneg_right hnet (by have := h.lt; omega))

/-- An input that is enough is at most one unit before the fee below that of the reverse quote. -/
theorem ReverseQuoted.le_of_out (h : ReverseQuoted o x y f r i) (ha : 0 < a.toInt)
    (hf : f.toNat ≤ 10000) (hout : o.toInt ≤ out x.toInt y.toInt (net a f)) :
    r.toInt ≤ a.toInt + BASIS_POINTS / feeMultiplier f + 1 := by
  have hnet := net_nonneg ha hf
  have hden : 0 < y.toInt - o.toInt := by have := h.lt; omega
  have hgross : gross o x y ≤ net a f + 1 := by
    rw [le_out_iff h.reserveIn hnet, mul_comm o.toInt] at hout
    have := Int.ediv_le_of_le_mul hden hout
    unfold gross
    omega
  have hscaled : gross o x y * BASIS_POINTS ≤ a.toInt * feeMultiplier f + BASIS_POINTS := by
    have hle : net a f * BASIS_POINTS ≤ a.toInt * feeMultiplier f := Int.ediv_mul_le _ (by decide)
    have := mul_le_mul_of_nonneg_right hgross (show 0 ≤ BASIS_POINTS by decide)
    rw [add_mul, one_mul] at this
    omega
  have hdiv := Int.ediv_le_ediv h.fee hscaled
  rw [add_comm (a.toInt * _), Int.add_mul_ediv_right _ _ h.fee.ne'] at hdiv
  rw [h.input]
  omega

/-- The two ways in which a computation can report that a number is too large. -/
def TooLarge (e : Fault) : Prop := e = .overflow ∨ e = .error .overflow

variable {after before : ℤ}

theorem meets_impactBps (h : 0 < before) :
    Meets (fun _ => True) TooLarge (impactBps after before) := by
  unfold impactBps
  split_ifs
  · simp [-bind_pure_comp, meets_unchecked, meets_quotient, h.ne', TooLarge]
  · simp

theorem meets_quote (ha : 0 < a.toInt) (hx : 0 < x.toInt) (hy : 0 < y.toInt) (hf : f.toNat ≤ 10000)
    (hout : 0 < out x.toInt y.toInt (net a f)) (hspot : 0 < y.toInt * SCALE_1E7 / x.toInt) :
    Meets (fun _ => True) TooLarge (quoteConstantProduct a x y f) := by
  have hnet := net_nonneg ha hf
  have e1 : (a.toInt * feeMultiplier f).tdiv BASIS_POINTS = net a f :=
    Int.tdiv_eq_ediv_of_nonneg (mul_nonneg ha.le (feeMultiplier_nonneg hf))
  have e2 : (net a f * y.toInt).tdiv (x.toInt + net a f) = out x.toInt y.toInt (net a f) :=
    Int.tdiv_eq_ediv_of_nonneg (mul_nonneg hnet hy.le)
  have e3 : (y.toInt * SCALE_1E7).tdiv x.toInt = y.toInt * SCALE_1E7 / x.toInt :=
    Int.tdiv_eq_ediv_of_nonneg (mul_nonneg hy.le (by decide))
  have hbasis : BASIS_POINTS ≠ 0 := by decide
  have hden : x.toInt + net a f ≠ 0 := by omega
  simp +contextual [-bind_pure_comp, quoteConstantProduct, meets_unchecked, meets_checked,
    meets_quotient, SInt.lt_def, SInt.ext_iff, UInt32.le_iff_toNat_le, TooLarge, ha, hx, hy, hf,
        e1, e2, e3, hout, hbasis, hden,
    hx.ne', hout.ne', meets_impactBps hspot]

theorem meets_reverse (ho : 0 < o.toInt) (hlt : o.toInt < y.toInt) (hx : 0 < x.toInt)
    (hf : f < 10000) (hspot : 0 < y.toInt * SCALE_1E7 / x.toInt) :
    Meets (fun _ => True) TooLarge (quoteConstantProductReverse o x y f) := by
  have hfee : 0 < feeMultiplier f := by
    have := UInt32.lt_iff_toNat_lt.mp hf
    unfold feeMultiplier BASIS_POINTS
    simp at this
    omega
  have e1 : (y.toInt * SCALE_1E7).tdiv x.toInt = y.toInt * SCALE_1E7 / x.toInt :=
    Int.tdiv_eq_ediv_of_nonneg (mul_nonneg (ho.trans hlt).le (by decide))
  have hden : y.toInt - o.toInt ≠ 0 := by omega
  simp +contextual [-bind_pure_comp, quoteConstantProductReverse, meets_unchecked, meets_checked,
    meets_quotient, SInt.lt_def, TooLarge, ho, hlt, hx, ho.trans hlt, e1, hfee, hfee.ne', hden,
    hx.ne', ho.ne', meets_impactBps hspot]

theorem net_le (ha : 0 < a.toInt) (f : UInt32) : net a f ≤ a.toInt := by
  apply Int.ediv_le_of_le_mul (by decide)
  exact mul_le_mul_of_nonneg_left (by unfold feeMultiplier; omega) ha.le

theorem ReverseQuoted.pos (h : ReverseQuoted o x y f r i) : 0 < r.toInt := by
  have hgross := gross_pos h.amount h.lt h.reserveIn
  have := Int.ediv_nonneg (mul_nonneg hgross.le (show 0 ≤ BASIS_POINTS by decide)) h.fee.le
  rw [h.input]
  omega

theorem ne_zero_of_impactBps (hlt : before < after) (h : impactBps after before = .ok i) :
    before ≠ 0 := by
  simp only [impactBps, if_pos hlt, bind_eq_ok, quotient_eq_ok] at h
  obtain ⟨-, -, -, -, -, ⟨hne, -⟩, -⟩ := h
  exact hne

/-- A price of zero before the trade is exceeded by what an output costs. -/
theorem spot_pos (ha : 0 < a.toInt) (hx : 0 < x.toInt) (hy : 0 < y.toInt) (hf : f.toNat ≤ 10000)
    (ho : 0 < o.toInt) (hout : o.toInt ≤ out x.toInt y.toInt (net a f))
    (h : impactBps (a.toInt * SCALE_1E7 / o.toInt) (y.toInt * SCALE_1E7 / x.toInt) = .ok i) :
    0 < y.toInt * SCALE_1E7 / x.toInt := by
  refine lt_of_le_of_ne (Int.ediv_nonneg (mul_nonneg hy.le (by decide)) hx.le) fun hzero => ?_
  have hskew : y.toInt * SCALE_1E7 < 1 * x.toInt := (Int.ediv_lt_iff_lt_mul hx).mp (by omega)
  unfold SCALE_1E7 at *
  have hpaid := le_of_le_out hx hy (net_nonneg ha hf) ho.le (by omega) hout
  have hle := hpaid.trans (net_le ha f)
  rw [← hzero] at h
  refine ne_zero_of_impactBps ?_ h rfl
  rw [Int.lt_iff_add_one_le, zero_add, Int.le_ediv_iff_mul_le ho]
  omega

/-- The laws of an output. -/
theorem Quoted.correct (h : Quoted a x y f o i) : 0 < o ∧ o < y ∧
    x.toInt * y.toInt ≤ (x.toInt + a.toInt) * (y.toInt - o.toInt) ∧
    ∀ a' o' i', a ≤ a' → quoteConstantProduct a' x y f = .ok (o', i') → o ≤ o' := by
  have hnet := net_nonneg h.amount h.fee
  refine ⟨h.pos, ?_, ?_, fun a' o' i' hle h' => ?_⟩
  · change o.toInt < y.toInt
    rw [h.output]
    exact out_lt h.reserveIn h.reserveOut hnet
  · rw [h.output]
    exact product_le h.reserveIn h.reserveOut.le hnet (net_le h.amount f)
  · change o.toInt ≤ o'.toInt
    rw [h.output, (quoted_of_ok h').output]
    exact out_mono h.reserveIn h.reserveOut.le hnet (Int.ediv_le_ediv (by decide)
      (mul_le_mul_of_nonneg_right hle (feeMultiplier_nonneg h.fee)))

/-- After the fee the input is worth `m` units of the output. -/
def Payable (a x y : I128) (f : UInt32) (m : ℤ) : Prop :=
  ∃ n, 0 ≤ n ∧ n * BASIS_POINTS ≤ a.toInt * feeMultiplier f ∧ m * x.toInt ≤ n * (y.toInt - m)

theorem payable_iff {m : ℤ} (ha : 0 < a.toInt) (hx : 0 < x.toInt) (hy : 0 < y.toInt)
    (hf : f.toNat ≤ 10000) : Payable a x y f m ↔ m ≤ out x.toInt y.toInt (net a f) := by
  have hnet := net_nonneg ha hf
  constructor
  · rintro ⟨n, hn, hle, hm⟩
    rw [← le_out_iff hx hn] at hm
    exact hm.trans (out_mono hx hy.le hn ((Int.le_ediv_iff_mul_le (by decide)).mpr hle))
  · exact fun h => ⟨net a f, hnet, Int.ediv_mul_le _ (by decide), (le_out_iff hx hnet).mp h⟩

theorem spot_pos_iff (hx : 0 < x.toInt) :
    0 < y.toInt * SCALE_1E7 / x.toInt ↔ x.toInt ≤ y.toInt * SCALE_1E7 := by
  rw [Int.lt_iff_add_one_le, zero_add, Int.le_ediv_iff_mul_le hx, one_mul]

/-- The call does not end with a number that is too large. -/
def NoOverflow {α : Type} : Calc α → Prop := Meets (fun _ => True) (¬ TooLarge ·)

theorem NoOverflow.ok {α : Type} {c : Calc α} (h : NoOverflow c)
    (hmeets : Meets (fun _ => True) TooLarge c) : ∃ v, c = .ok v := by
  cases c with
  | ok v => exact ⟨v, rfl⟩
  | error e => exact absurd hmeets h

/-- Without an overflow, a quote that pays out something and a reverse quote return, with an output
and an input as they should be, just if `reserve_in` is at most `10^7` times `reserve_out`: the
price before the trade is divided by. -/
theorem constant_product_quotes_iff (x y : I128) (f : UInt32) (hx : 0 < x) (hy : 0 < y)
    (hf : f ≤ 10000) :
    (∀ a, 0 < a → NoOverflow (quoteConstantProduct a x y f) →
      ((∃ o i, quoteConstantProduct a x y f = .ok (o, i) ∧ 0 < o ∧ o < y ∧
        x.toInt * y.toInt ≤ (x.toInt + a.toInt) * (y.toInt - o.toInt) ∧
        ∀ a' o' i', a ≤ a' → quoteConstantProduct a' x y f = .ok (o', i') → o ≤ o') ↔
      Payable a x y f 1 ∧ x.toInt ≤ y.toInt * SCALE_1E7)) ∧
    ∀ o, 0 < o → o < y → f < 10000 → NoOverflow (quoteConstantProductReverse o x y f) →
      (∀ r j, quoteConstantProductReverse o x y f = .ok (r, j) →
        NoOverflow (quoteConstantProduct r x y f)) →
      ((∃ r j, quoteConstantProductReverse o x y f = .ok (r, j) ∧
        (∃ o' i, quoteConstantProduct r x y f = .ok (o', i) ∧ o ≤ o') ∧
        ∀ a o' i, quoteConstantProduct a x y f = .ok (o', i) → o ≤ o' →
          r.toInt - a.toInt ≤ BASIS_POINTS / feeMultiplier f + 1) ↔
      x.toInt ≤ y.toInt * SCALE_1E7) := by
  have hfee : f.toNat ≤ 10000 := UInt32.le_iff_toNat_le.mp hf
  refine ⟨fun a ha hfits => ⟨?_, fun ⟨hpays, hspot⟩ => ?_⟩,
    fun o ho hlt hless hfits hfits' => ⟨?_, fun hspot => ?_⟩⟩
  · rintro ⟨o, i, h, -⟩
    have hq := quoted_of_ok h
    refine ⟨(payable_iff ha hx hy hfee).mpr ?_, (spot_pos_iff hx).mp ?_⟩
    · rw [← hq.output]
      exact hq.pos
    · exact spot_pos ha hx hy hfee hq.pos hq.output.le hq.impact
  · have hout := (payable_iff ha hx hy hfee).mp hpays
    obtain ⟨q, hq⟩ := hfits.ok (meets_quote ha hx hy hfee hout ((spot_pos_iff hx).mpr hspot))
    exact ⟨q.1, q.2, hq, (quoted_of_ok hq).correct⟩
  · rintro ⟨r, j, h, -⟩
    have hr := reverseQuoted_of_ok h
    exact (spot_pos_iff hx).mp (spot_pos hr.pos hx hy hfee ho hr.le_out hr.impact)
  · have hpos := (spot_pos_iff hx).mpr hspot
    obtain ⟨⟨r, j⟩, h⟩ := hfits.ok (meets_reverse ho hlt hx hless hpos)
    have hr := reverseQuoted_of_ok h
    have hout := hr.le_out
    obtain ⟨q, hq⟩ := (hfits' r j h).ok
      (meets_quote hr.pos hx hy hfee (hr.amount.trans_le hout) hpos)
    refine ⟨r, j, h, ⟨q.1, q.2, hq, ?_⟩, fun a o' i hq hle => ?_⟩
    · change o.toInt ≤ q.1.toInt
      rw [(quoted_of_ok hq).output]
      exact hout
    · have hq := quoted_of_ok hq
      have := hr.le_of_out hq.amount hfee (hq.output ▸ hle)
      omega

theorem constant_product_quotes_even :
    (∃ o i, quoteConstantProduct 100 1000 1000 30 = .ok (o, i) ∧ 0 < o) ∧
    ∃ r j, quoteConstantProductReverse 90 1000 1000 30 = .ok (r, j) ∧
      ∃ o' i, quoteConstantProduct r 1000 1000 30 = .ok (o', i) ∧ 90 ≤ o' := by
  have h := constant_product_quotes_iff 1000 1000 30 (by decide) (by decide) (by decide)
  have hr : quoteConstantProductReverse 90 1000 1000 30 = .ok (100, 1111) := by decide
  have hq : quoteConstantProduct 100 1000 1000 30 = .ok (90, 1111) := by decide
  constructor
  · obtain ⟨o, i, hq, hpos, -⟩ := (h.1 100 (by decide) (by rw [hq]; trivial)).mpr
      ⟨⟨99, by decide, by decide, by decide⟩, by decide⟩
    exact ⟨o, i, hq, hpos⟩
  · obtain ⟨r, j, hr, hq, -⟩ := (h.2 90 (by decide) (by decide) (by decide) (by rw [hr]; trivial)
      (fun r j h => by
        rw [hr] at h
        cases h
        rw [hq]
        trivial)).mpr (by decide)
    exact ⟨r, j, hr, hq⟩

/-- A unit of the output is paid for, but the scaled price before the trade is zero. -/
theorem quotes_divide_by_zero : Payable 100000000 30000000 2 0 1 ∧
    quoteConstantProduct 100000000 30000000 2 0 = .error .divisionByZero ∧
    quoteConstantProductReverse 1 30000000 2 0 = .error .divisionByZero :=
  ⟨⟨100000000, by decide, by decide, by decide⟩, by decide, by decide⟩

/-! ### The impact of a quote -/

/-- The excess of a price over another in basis points, in exact arithmetic. -/
def exactImpact (after before : ℤ) : ℤ :=
  if before < after then (after - before) * BASIS_POINTS / before else 0

theorem impactBps_eq_ok (hbefore : 0 ≤ before) (h : impactBps after before = .ok i)
    (hfits : exactImpact after before < 2 ^ 32) : (i.toNat : ℤ) = exactImpact after before := by
  unfold impactBps at h
  unfold exactImpact at hfits ⊢
  split_ifs at h hfits ⊢ with hlt
  · simp only [bind_eq_ok, unchecked_eq_ok, quotient_eq_ok, pure_eq_ok] at h
    obtain ⟨excess, hexcess, scaled, hscaled, bps, ⟨-, hbps⟩, rfl⟩ := h
    have hnum : 0 ≤ (after - before) * BASIS_POINTS := mul_nonneg (by omega) (by decide)
    have hnonneg := Int.ediv_nonneg hnum hbefore
    rw [hscaled, hexcess, Int.tdiv_eq_ediv_of_nonneg hnum] at hbps
    rw [hbps, UInt32.toNat_ofNat']
    omega
  · rw [← pure_eq_ok.mp h]
    rfl

/-- A larger input has no better price, up to one unit of the output and one of the net input. -/
theorem Quoted.price_mono {a' o' : I128} {i' : UInt32} (h : Quoted a x y f o i)
    (h' : Quoted a' x y f o' i') (hle : a ≤ a') :
    a.toInt * feeMultiplier f * o'.toInt <
      a'.toInt * feeMultiplier f * (o.toInt + 1) + BASIS_POINTS * o'.toInt := by
  have hnet := net_nonneg h.amount h.fee
  have hmono : net a f ≤ net a' f := Int.ediv_le_ediv (by decide)
    (mul_le_mul_of_nonneg_right hle (feeMultiplier_nonneg h.fee))
  have hn : a.toInt * feeMultiplier f < (net a f + 1) * BASIS_POINTS :=
    Int.lt_ediv_add_one_mul_self _ (by decide)
  have hn' : net a' f * BASIS_POINTS ≤ a'.toInt * feeMultiplier f := Int.ediv_mul_le _ (by decide)
  have ho : net a f * y.toInt < (o.toInt + 1) * (x.toInt + net a f) := by
    rw [h.output]
    exact Int.lt_ediv_add_one_mul_self _ (by have := h.reserveIn; omega)
  have ho' : o'.toInt * (x.toInt + net a' f) ≤ net a' f * y.toInt := by
    rw [h'.output]
    exact Int.ediv_mul_le _ (by have := h.reserveIn; omega)
  have hpos := h.pos
  have hpos' := h'.pos
  have hx := h.reserveIn
  -- both quotients are compared over the larger of the two denominators
  have hcross : o'.toInt * net a f ≤ net a' f * (o.toInt + 1) := by
    apply le_of_mul_le_mul_right _ (show 0 < x.toInt + net a' f by omega)
    calc o'.toInt * net a f * (x.toInt + net a' f)
        = o'.toInt * (x.toInt + net a' f) * net a f := by ring
      _ ≤ net a' f * y.toInt * net a f := mul_le_mul_of_nonneg_right ho' hnet
      _ = net a' f * (net a f * y.toInt) := by ring
      _ ≤ net a' f * ((o.toInt + 1) * (x.toInt + net a f)) :=
          mul_le_mul_of_nonneg_left ho.le (hnet.trans hmono)
      _ ≤ net a' f * ((o.toInt + 1) * (x.toInt + net a' f)) := by gcongr; omega
      _ = net a' f * (o.toInt + 1) * (x.toInt + net a' f) := by ring
  calc a.toInt * feeMultiplier f * o'.toInt
      < (net a f + 1) * BASIS_POINTS * o'.toInt := mul_lt_mul_of_pos_right hn hpos'
    _ = BASIS_POINTS * (o'.toInt * net a f) + BASIS_POINTS * o'.toInt := by ring
    _ ≤ BASIS_POINTS * (net a' f * (o.toInt + 1)) + BASIS_POINTS * o'.toInt := by
        unfold BASIS_POINTS; omega
    _ = net a' f * BASIS_POINTS * (o.toInt + 1) + BASIS_POINTS * o'.toInt := by ring
    _ ≤ a'.toInt * feeMultiplier f * (o.toInt + 1) + BASIS_POINTS * o'.toInt := by
        gcongr

/-- The input is less than `2^32` basis points above a unit of input for a unit of output. -/
def ImpactBelow (a x y : I128) (f : UInt32) : Prop :=
  ∃ m, Payable a x y f m ∧ a.toInt * BASIS_POINTS < (2 ^ 32 + BASIS_POINTS) * m

/-- For equal reserves the basis points are those of the input over the output, rounded down. -/
theorem Quoted.impact_even (h : Quoted a x x f o i) (hfits : ImpactBelow a x x f) :
    i.toNat * o.toInt ≤ (a.toInt - o.toInt) * BASIS_POINTS ∧
      (a.toInt - o.toInt) * BASIS_POINTS < (i.toNat + 1) * o.toInt := by
  obtain ⟨ha, hx, -, hf, hout, ho, himpact⟩ := h
  obtain ⟨m, hpays, hm⟩ := hfits
  rw [payable_iff ha hx hx hf, ← hout] at hpays
  have hle : o.toInt ≤ a.toInt :=
    (le_of_le_out hx hx (net_nonneg ha hf) ho.le le_rfl hout.le).trans (net_le ha f)
  have hspot : x.toInt * SCALE_1E7 / x.toInt = SCALE_1E7 := Int.mul_ediv_cancel_left _ hx.ne'
  have ho₁ := Int.ediv_mul_le (a.toInt * SCALE_1E7) ho.ne'
  have ho₂ := Int.lt_ediv_add_one_mul_self (a.toInt * SCALE_1E7) ho
  rw [hspot] at himpact
  generalize a.toInt * SCALE_1E7 / o.toInt = after at *
  unfold SCALE_1E7 BASIS_POINTS at *
  have hafter : after < 10000000 + 2 ^ 32 * 1000 := by
    apply lt_of_mul_lt_mul_right _ ho.le
    linarith
  have hi := impactBps_eq_ok (by decide) himpact (by
    unfold exactImpact BASIS_POINTS
    split_ifs <;> omega)
  unfold exactImpact BASIS_POINTS at hi
  split_ifs at hi with hlt
  · have h₁ : (i.toNat * 1000 + 10000000) * o.toInt ≤ after * o.toInt :=
      mul_le_mul_of_nonneg_right (by omega) ho.le
    have h₂ : (after + 1) * o.toInt ≤ ((i.toNat + 1) * 1000 + 10000000) * o.toInt :=
      mul_le_mul_of_nonneg_right (by omega) ho.le
    constructor <;> linarith
  · have h₂ : (after + 1) * o.toInt ≤ (10000000 + 1) * o.toInt :=
      mul_le_mul_of_nonneg_right (by omega) ho.le
    rw [hi]
    constructor <;> linarith

/-- Of the two ratios only the one with the larger numerator reaches the scale. -/
theorem ratio_lt (hx : 0 < x.toInt) (hlt : x.toInt < y.toInt) :
    x.toInt * SCALE_1E7 / y.toInt < y.toInt * SCALE_1E7 / x.toInt := by
  unfold SCALE_1E7
  calc x.toInt * 10000000 / y.toInt < 10000000 := Int.ediv_lt_of_lt_mul (by omega) (by omega)
    _ ≤ y.toInt * 10000000 / x.toInt := (Int.le_ediv_iff_mul_le hx).mpr (by omega)

theorem ratio_eq_iff (hx : 0 < x.toInt) (hy : 0 < y.toInt) :
    y.toInt * SCALE_1E7 / x.toInt = x.toInt * SCALE_1E7 / y.toInt ↔ x = y := by
  refine ⟨fun heq => SInt.ext ?_, fun heq => heq ▸ rfl⟩
  rcases lt_trichotomy x.toInt y.toInt with hlt | heq' | hlt
  · exact absurd heq (ratio_lt hx hlt).ne'
  · exact heq'
  · exact absurd heq (ratio_lt hy hlt).ne

/-- The impact `i` is the excess of the price of a trade over `reserve_in / reserve_out` in basis
points, rounded down. A larger input has no smaller one, up to one unit of the output and one of the
net input. -/
structure OverSpot (a x y : I128) (f : UInt32) (o : I128) (i : UInt32) : Prop where
  le : i.toNat * (o.toInt * x.toInt) ≤ (a.toInt * y.toInt - o.toInt * x.toInt) * BASIS_POINTS
  lt : (a.toInt * y.toInt - o.toInt * x.toInt) * BASIS_POINTS <
    (i.toNat + 1) * (o.toInt * x.toInt)
  pos : 101 * (o.toInt * x.toInt) ≤ 100 * (a.toInt * y.toInt) → 0 < i
  mono : ∀ a' o' i', a ≤ a' → quoteConstantProduct a' x y f = .ok (o', i') → ImpactBelow a' x y f →
    (a.toInt * feeMultiplier f - BASIS_POINTS) * BASIS_POINTS <
      (i'.toNat + 1 + BASIS_POINTS) * ((o.toInt + 1) * feeMultiplier f)

/-- The price that the impact is measured against is that before the trade just for equal reserves.
The impact is then as it should be just if it is less than `2^32` basis points. -/
theorem impact_over_spot_of_even (a x y o : I128) (f i : UInt32)
    (h : quoteConstantProduct a x y f = .ok (o, i)) :
    (y.toInt * SCALE_1E7 / x.toInt = x.toInt * SCALE_1E7 / y.toInt ↔ x = y) ∧
    (x = y → (OverSpot a x y f o i ↔ ImpactBelow a x y f)) := by
  have hq := quoted_of_ok h
  have hx := hq.reserveIn
  have hpos := hq.pos
  refine ⟨ratio_eq_iff hx hq.reserveOut, ?_⟩
  rintro rfl
  refine ⟨fun ⟨_, hhigh, _, _⟩ => ⟨o.toInt, ?_, ?_⟩, fun hfits => ?_⟩
  · exact (payable_iff hq.amount hx hx hq.fee).mpr hq.output.le
  · have hhigh : (a.toInt - o.toInt) * BASIS_POINTS < (i.toNat + 1) * o.toInt :=
      lt_of_mul_lt_mul_right (by linarith) hx.le
    have hi : ((i.toNat : ℤ) + 1) * o.toInt ≤ 2 ^ 32 * o.toInt :=
      mul_le_mul_of_nonneg_right (by have := i.toNat_lt; omega) hpos.le
    linarith
  obtain ⟨hlow, hhigh⟩ := hq.impact_even hfits
  refine ⟨?_, ?_, fun hworse => ?_, fun a' o' i' hle h' hfits' => ?_⟩
  · have := mul_le_mul_of_nonneg_right hlow hx.le
    linarith
  · have := mul_lt_mul_of_pos_right hhigh hx
    linarith
  · have hworse : 101 * o.toInt ≤ 100 * a.toInt :=
      le_of_mul_le_mul_right (by linarith) hx
    rw [UInt32.lt_iff_toNat_lt]
    by_contra hzero
    have : i.toNat = 0 := by simpa using hzero
    rw [this] at hhigh
    unfold BASIS_POINTS at hhigh
    omega
  · have hq' := quoted_of_ok h'
    have hprice := hq.price_mono hq' hle
    have hhigh' := (hq'.impact_even hfits').2
    have hfactor : 0 ≤ (o.toInt + 1) * feeMultiplier f :=
      mul_nonneg (by omega) (feeMultiplier_nonneg hq.fee)
    apply lt_of_mul_lt_mul_right _ hq'.pos.le
    calc (a.toInt * feeMultiplier f - BASIS_POINTS) * BASIS_POINTS * o'.toInt
        = (a.toInt * feeMultiplier f * o'.toInt - BASIS_POINTS * o'.toInt) * BASIS_POINTS := by ring
      _ < a'.toInt * feeMultiplier f * (o.toInt + 1) * BASIS_POINTS :=
          mul_lt_mul_of_pos_right (by omega) (by decide)
      _ = a'.toInt * BASIS_POINTS * ((o.toInt + 1) * feeMultiplier f) := by ring
      _ ≤ (i'.toNat + 1 + BASIS_POINTS) * o'.toInt * ((o.toInt + 1) * feeMultiplier f) :=
          mul_le_mul_of_nonneg_right (by linarith) hfactor
      _ = (i'.toNat + 1 + BASIS_POINTS) * ((o.toInt + 1) * feeMultiplier f) * o'.toInt := by ring

theorem impact_over_spot_hundred : quoteConstantProduct 100 1000 1000 0 = .ok (90, 1111) ∧
    ∀ a' o' i', 100 ≤ a' → quoteConstantProduct a' 1000 1000 0 = .ok (o', i') →
      ImpactBelow a' 1000 1000 0 →
      (100 * 10000 - 10000) * 10000 < (i'.toNat + 1 + 10000 : ℤ) * ((90 + 1) * 10000) := by
  have h : quoteConstantProduct 100 1000 1000 0 = .ok (90, 1111) := by decide
  exact ⟨h, (((impact_over_spot_of_even 100 1000 1000 90 0 1111 h).2 rfl).mpr
    ⟨90, ⟨100, by decide, by decide, by decide⟩, by decide⟩).mono⟩

/-- Ten per cent worse than the price before the trade, with an impact of zero. -/
theorem impact_not_over_spot : ∃ a x y o, quoteConstantProduct a x y 0 = .ok (o, 0) ∧
    110 * (x.toInt * o.toInt) ≤ 100 * (a.toInt * y.toInt) :=
  ⟨100, 1000, 2000, 181, by decide, by decide⟩

end StellarRoute.Routing.Impact
