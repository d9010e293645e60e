import Mathlib.Tactic

/-! Big-endian byte strings of a fixed length. Two numbers have the same bytes
exactly when they agree modulo the number of such strings, so concatenated
fields of fixed lengths can be told apart. -/

namespace Lib

/-- The `k` lowest bytes of `n`, the highest one first. -/
def beBytes : ℕ → ℕ → List UInt8
  | 0, _ => []
  | k + 1, n => beBytes k (n / 256) ++ [UInt8.ofNat n]

@[simp] theorem beBytes_length (k n : ℕ) : (beBytes k n).length = k := by
  induction k generalizing n with
  | zero => rfl
  | succ k ih => rw [beBytes, List.length_append, ih, List.length_singleton]

theorem beBytes_inj {k m n : ℕ} (h : beBytes k m = beBytes k n) :
    m % 256 ^ k = n % 256 ^ k := by
  induction k generalizing m n with
  | zero => simp [Nat.mod_one]
  | succ k ih =>
    have hlen : (beBytes k (m / 256)).length = (beBytes k (n / 256)).length := by simp
    obtain ⟨hhigh, hlow⟩ := List.append_inj h hlen
    have hlow : m % 256 = n % 256 := by
      have := congrArg UInt8.toNat (List.singleton_inj.mp hlow)
      simpa using this
    have hhigh := ih hhigh
    rw [pow_succ', Nat.mod_mul, Nat.mod_mul (x := n), hlow, hhigh]

theorem beBytes_inj_of_lt {k m n : ℕ} (hm : m < 256 ^ k) (hn : n < 256 ^ k)
    (h : beBytes k m = beBytes k n) : m = n := by
  have := beBytes_inj h
  rwa [Nat.mod_eq_of_lt hm, Nat.mod_eq_of_lt hn] at this

end Lib
