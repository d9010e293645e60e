import StellarRoute.Lib.ConstantProduct
import StellarRoute.Contracts.Spec.Adapter

/-! What the adapter of a constant-product pool quotes. The fee of 3 in 1000 is
taken from the input, so the quote is that of a pool in which each unit of the
input reserve counts 1000 and each unit of the input 997, while a trade adds
1000 for each. -/

namespace StellarRoute.Contracts.ConstantProductAdapter

open Lib ConstantProduct

variable {pool after : Pool} {A B : Asset} {dx dy : I128}

/-- No step of the quote leaves the range of `i128`. -/
structure Fits (pool : Pool) (dx : I128) : Prop where
  numerator : InRange 128 (dx.toInt * 997 * pool.2.toInt)
  denominator : InRange 128 (pool.1.toInt * 1000 + dx.toInt * 997)

structure Traded (pool : Pool) (dx dy : I128) (after : Pool) : Prop where
  input : after.1.toInt = pool.1.toInt + dx.toInt
  output : after.2.toInt = pool.2.toInt - dy.toInt

theorem adapterQuote_steps : adapterQuote pool A B dx = .ok dy ↔
    InRange 128 (dx.toInt * 997) ∧ InRange 128 (dx.toInt * 997 * pool.2.toInt) ∧
      InRange 128 (pool.1.toInt * 1000) ∧ InRange 128 (pool.1.toInt * 1000 + dx.toInt * 997) ∧
      pool.1.toInt * 1000 + dx.toInt * 997 ≠ 0 ∧
      dy.toInt = (dx.toInt * 997 * pool.2.toInt).tdiv (pool.1.toInt * 1000 + dx.toInt * 997) := by
  have h997 : (997 : I128).toInt = 997 := rfl
  have h1000 : (1000 : I128).toInt = 1000 := rfl
  simp only [adapterQuote, quoteReserves, getRsrvs, bind_eq_ok, okOr_eq_ok, Option.bind_eq_some_iff,
    require_eq_ok, SInt.checkedMul, SInt.checkedAdd, SInt.ofInt?_eq_some, SInt.checkedDiv,
    Option.ite_none_left_eq_some, h997, h1000, exists_const, Ne, SInt.ext_iff, SInt.toInt_zero]
  constructor
  · rintro ⟨a, ha, n, hn, d, ⟨s, hs, hd⟩, hne, -, h⟩
    rw [ha] at hn hd
    rw [hs] at hd
    rw [hd] at hne h
    exact ⟨ha ▸ a.inRange, hn ▸ n.inRange, hs ▸ s.inRange, hd ▸ d.inRange, hne, hn ▸ h⟩
  · rintro ⟨ha, hn, hs, hd, hne, h⟩
    exact ⟨⟨_, ha⟩, rfl, ⟨_, hn⟩, rfl, ⟨_, hd⟩, ⟨⟨_, hs⟩, rfl, rfl⟩, hne, hne, h⟩

theorem adapterQuote_eq_ok (hy : 0 ≤ pool.2.toInt) (hdx : 0 ≤ dx.toInt)
    (h : adapterQuote pool A B dx = .ok dy) :
    dy.toInt = out (pool.1.toInt * 1000) pool.2.toInt (dx.toInt * 997) := by
  obtain ⟨-, -, -, -, -, h⟩ := adapterQuote_steps.mp h
  rw [h, out, Int.tdiv_eq_ediv_of_nonneg]
  exact mul_nonneg (mul_nonneg hdx (by norm_num)) hy

theorem exists_adapterQuote (hx : 0 < pool.1.toInt) (hy : 0 ≤ pool.2.toInt) (hdx : 0 ≤ dx.toInt)
    (hfits : Fits pool dx) : ∃ dy, adapterQuote pool A B dx = .ok dy := by
  obtain ⟨hnum, hden⟩ := hfits
  have hn : 0 ≤ dx.toInt * 997 * pool.2.toInt := mul_nonneg (mul_nonneg hdx (by norm_num)) hy
  have hle := Int.ediv_le_self (pool.1.toInt * 1000 + dx.toInt * 997) hn
  have hpos : 0 ≤ dx.toInt * 997 * pool.2.toInt / (pool.1.toInt * 1000 + dx.toInt * 997) :=
    Int.ediv_nonneg hn (by omega)
  simp only [adapterQuote_steps, Int.tdiv_eq_ediv_of_nonneg hn]
  refine ⟨⟨_, ?_⟩, ⟨?_, ?_⟩, hnum, ⟨?_, ?_⟩, hden, ?_, rfl⟩
  · exact ⟨hpos.trans' (by norm_num), hle.trans_lt hnum.2⟩
  all_goals
    have := hden.2
    omega

/-- What a quote is, and how it compares with a larger one and with two in a row. -/
theorem adapter_quote_laws (pool : Pool) (A B : Asset) (dx : I128) (hx : 0 < pool.1.toInt)
    (hy : 0 ≤ pool.2.toInt) (hdx : 0 ≤ dx.toInt) (hfits : Fits pool dx) :
    ∃ dy, adapterQuote pool A B dx = .ok dy ∧ 0 ≤ dy.toInt ∧
      (0 < pool.2.toInt → dy.toInt < pool.2.toInt) ∧
      pool.1.toInt * pool.2.toInt ≤ (pool.1.toInt + dx.toInt) * (pool.2.toInt - dy.toInt) ∧
      (∀ dx' dy', dx ≤ dx' → adapterQuote pool A B dx' = .ok dy' → dy ≤ dy') ∧
      ∀ after dx₂ dy₂ dxs dys, Traded pool dx dy after → 0 ≤ dx₂.toInt →
        dxs.toInt = dx.toInt + dx₂.toInt → adapterQuote after A B dx₂ = .ok dy₂ →
        adapterQuote pool A B dxs = .ok dys → dy.toInt + dy₂.toInt ≤ dys.toInt := by
  obtain ⟨dy, h⟩ := exists_adapterQuote (A := A) (B := B) hx hy hdx hfits
  have hdy := adapterQuote_eq_ok hy hdx h
  have hX : 0 < pool.1.toInt * 1000 := by omega
  have hN : 0 ≤ dx.toInt * 997 := by omega
  refine ⟨dy, h, ?_, ?_, ?_, ?_, ?_⟩
  · rw [hdy]
    exact out_nonneg hX hy hN
  · intro hpos
    rw [hdy]
    exact out_lt hX hpos hN
  · have hproduct := product_le hX hy hN (show dx.toInt * 997 ≤ dx.toInt * 1000 by omega)
    rw [← hdy] at hproduct
    nlinarith
  · intro dx' dy' hle h'
    have hle' : dx.toInt ≤ dx'.toInt := hle
    change dy.toInt ≤ dy'.toInt
    rw [hdy, adapterQuote_eq_ok hy (hdx.trans hle') h']
    exact out_mono hX hy hN (by omega)
  · intro after dx₂ dy₂ dxs dys htrade hdx₂ hsum h₂ hs
    have hrest : 0 ≤ pool.2.toInt - dy.toInt := by
      rw [hdy]
      exact sub_nonneg.mpr (out_le hX hy hN)
    have hdy₂ := adapterQuote_eq_ok (htrade.output ▸ hrest) hdx₂ h₂
    rw [htrade.output, hdy] at hdy₂
    rw [adapterQuote_eq_ok hy (by omega) hs, hdy₂, hdy, hsum, add_mul]
    apply out_split hX hy hN (by omega)
    rw [htrade.input]
    omega

theorem adapter_quote_laws_plain : Fits (1000, 1000000) 10 ∧
    ∃ dy, adapterQuote (1000, 1000000) .native .native 10 = .ok dy ∧ 0 ≤ dy.toInt :=
  have hfits : Fits (1000, 1000000) 10 := ⟨by decide, by decide⟩
  have ⟨dy, h, hdy, _⟩ := adapter_quote_laws (1000, 1000000) .native .native 10 (by decide)
    (by decide) (by decide) hfits
  ⟨hfits, dy, h, hdy⟩

/-! ### There and back -/

theorem adapterQuote_le (hx : 0 < pool.1.toInt) (hy : 0 ≤ pool.2.toInt) (hdx : 0 ≤ dx.toInt)
    (hle : pool.2.toInt ≤ pool.1.toInt) (h : adapterQuote pool A B dx = .ok dy) :
    dy.toInt ≤ dx.toInt := by
  by_contra hlt
  have hdy := adapterQuote_eq_ok hy hdx h
  have hreach := (le_out_iff (o := dx.toInt + 1) (y := pool.2.toInt)
    (show 0 < pool.1.toInt * 1000 by omega) (show 0 ≤ dx.toInt * 997 by omega)).mp (by omega)
  have hgive : dx.toInt * pool.2.toInt ≤ dx.toInt * pool.1.toInt :=
    mul_le_mul_of_nonneg_left hle hdx
  nlinarith [mul_nonneg hdx hdx, mul_nonneg hdx hx.le]

/-- The way back is quoted from the reserves in the same order, not in the opposite one. Both
are the same only in a pool with equal reserves, and there a round trip does not profit. -/
theorem round_trip_iff (pool : Pool) (A B : Asset) (hx : 0 < pool.1.toInt) (hy : 0 < pool.2.toInt) :
    ((∀ dx dy back after, 0 ≤ dx.toInt → adapterQuote pool A B dx = .ok dy →
        Traded pool dx dy after → adapterQuote after B A dy = .ok back → back ≤ dx) ∧
      quoteReserves pool B A = (quoteReserves pool A B).swap) ↔ pool.1 = pool.2 := by
  constructor
  · rintro ⟨-, horder⟩
    exact congrArg Prod.fst horder
  · intro heq
    refine ⟨fun dx dy back after hdx h htrade hback => ?_, ?_⟩
    · have hdy := adapterQuote_eq_ok hy.le hdx h
      have hnonneg := out_nonneg (show 0 < pool.1.toInt * 1000 by omega) hy.le
        (show 0 ≤ dx.toInt * 997 by omega)
      have hlt := out_lt (show 0 < pool.1.toInt * 1000 by omega) hy
        (show 0 ≤ dx.toInt * 997 by omega)
      rw [← hdy] at hnonneg hlt
      have hsame : pool.2.toInt = pool.1.toInt := by rw [heq]
      have hthere : dy.toInt ≤ dx.toInt := adapterQuote_le hx hy.le hdx hsame.le h
      have hhere : back.toInt ≤ dy.toInt := by
        obtain ⟨hinput, houtput⟩ := htrade
        exact adapterQuote_le (by omega) (by omega) hnonneg (by omega) hback
      exact hhere.trans hthere
    · exact Prod.ext heq heq.symm

theorem round_trip_even : 0 < (1000 : I128).toInt ∧ ∀ dx dy back after, 0 ≤ dx.toInt →
    adapterQuote (1000, 1000) .native (.soroban 1) dx = .ok dy → Traded (1000, 1000) dx dy after →
    adapterQuote after (.soroban 1) .native dy = .ok back → back ≤ dx :=
  ⟨by decide, ((round_trip_iff (1000, 1000) .native (.soroban 1) (by decide) (by decide)).mpr rfl).1⟩

theorem round_trip_profits : ∃ pool A B dx dy back after, 0 < pool.1 ∧ 0 < pool.2 ∧ 0 < dx ∧
    adapterQuote pool A B dx = .ok dy ∧ Traded pool dx dy after ∧
    adapterQuote after B A dy = .ok back ∧ dx < back ∧
    quoteReserves pool B A ≠ (quoteReserves pool A B).swap := by
  refine ⟨(1000, 1000000), .native, .soroban 1, 10, 9871, 897972, (1010, 990129), ?_⟩
  refine ⟨by decide, by decide, by decide, by decide, ⟨by decide, by decide⟩, ?_⟩
  exact ⟨by decide, by decide, by decide⟩

end StellarRoute.Contracts.ConstantProductAdapter
