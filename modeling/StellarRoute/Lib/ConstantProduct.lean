import Mathlib.Tactic

/-! A pool that keeps the product of its reserves. For an input it gives the
largest whole amount that does not lower the product, so an amount is within
reach exactly when it satisfies one inequality; every law of the pool is that
inequality at some other reserves. -/

namespace Lib.ConstantProduct

/-- What the reserves `x` and `y` give for the input `n`. -/
def out (x y n : ℤ) : ℤ := n * y / (x + n)

variable {x x' y n n' o : ℤ}

theorem le_out_iff (hx : 0 < x) (hn : 0 ≤ n) : o ≤ out x y n ↔ o * x ≤ n * (y - o) := by
  rw [out, Int.le_ediv_iff_mul_le (by omega), mul_add, mul_sub, mul_comm o n]
  constructor <;> intro h <;> omega

theorem out_mul_le (hx : 0 < x) (hn : 0 ≤ n) : out x y n * x ≤ n * (y - out x y n) :=
  (le_out_iff hx hn).mp le_rfl

theorem out_nonneg (hx : 0 < x) (hy : 0 ≤ y) (hn : 0 ≤ n) : 0 ≤ out x y n := by
  rw [le_out_iff hx hn, zero_mul, sub_zero]
  exact mul_nonneg hn hy

theorem out_le (hx : 0 < x) (hy : 0 ≤ y) (hn : 0 ≤ n) : out x y n ≤ y := by
  by_contra hlt
  have hleft : 0 < out x y n * x := mul_pos (by omega) hx
  have hright : n * (y - out x y n) ≤ 0 := mul_nonpos_of_nonneg_of_nonpos hn (by omega)
  have := out_mul_le (y := y) hx hn
  omega

theorem out_lt (hx : 0 < x) (hy : 0 < y) (hn : 0 ≤ n) : out x y n < y := by
  refine lt_of_le_of_ne (out_le hx hy.le hn) fun heq => ?_
  have h := out_mul_le (y := y) hx hn
  rw [heq, sub_self, mul_zero] at h
  exact absurd (mul_pos hy hx) (not_lt.mpr h)

/-- The product does not fall, also when more is added to `x` than counts as input. -/
theorem product_le (hx : 0 < x) (hy : 0 ≤ y) (hn : 0 ≤ n) (hle : n ≤ n') :
    x * y ≤ (x + n') * (y - out x y n) := by
  have hrest : n * (y - out x y n) ≤ n' * (y - out x y n) :=
    mul_le_mul_of_nonneg_right hle (sub_nonneg.mpr (out_le hx hy hn))
  have := out_mul_le (y := y) hx hn
  have hexpand : (x + n') * (y - out x y n) = x * y - out x y n * x + n' * (y - out x y n) := by
    ring
  omega

theorem out_mono (hx : 0 < x) (hy : 0 ≤ y) (hn : 0 ≤ n) (hle : n ≤ n') :
    out x y n ≤ out x y n' := by
  rw [le_out_iff hx (hn.trans hle)]
  exact (out_mul_le hx hn).trans
    (mul_le_mul_of_nonneg_right hle (sub_nonneg.mpr (out_le hx hy hn)))

/-- The side with the larger reserve is worth less. -/
theorem le_of_le_out (hx : 0 < x) (hy : 0 < y) (hn : 0 ≤ n) (ho : 0 ≤ o) (hyx : y ≤ x)
    (h : o ≤ out x y n) : o ≤ n := by
  rw [le_out_iff hx hn] at h
  apply le_of_mul_le_mul_right _ hy
  calc o * y ≤ o * x := mul_le_mul_of_nonneg_left hyx ho
    _ ≤ n * (y - o) := h
    _ ≤ n * y := mul_le_mul_of_nonneg_left (by omega) hn

theorem out_split (hx : 0 < x) (hy : 0 ≤ y) (hn : 0 ≤ n) (hn' : 0 ≤ n') (hadd : x + n ≤ x') :
    out x y n + out x' (y - out x y n) n' ≤ out x y (n + n') := by
  have hrest : 0 ≤ y - out x y n := sub_nonneg.mpr (out_le hx hy hn)
  have hfirst := out_mul_le (y := y) hx hn
  have hsecond := out_mul_le (x := x') (y := y - out x y n) (by omega) hn'
  have hnonneg := out_nonneg (x := x') (by omega) hrest hn'
  generalize out x y n = a at *
  generalize out x' (y - a) n' = b at *
  have hmore : b * (x + n) ≤ b * x' := mul_le_mul_of_nonneg_left hadd hnonneg
  rw [le_out_iff hx (by omega)]
  calc (a + b) * x ≤ n * (y - a) + b * x := by rw [add_mul]; omega
    _ ≤ n * (y - a) + (n' * (y - a - b) - b * n) := by rw [mul_add] at hmore; omega
    _ = (n + n') * (y - (a + b)) := by ring

end Lib.ConstantProduct
