import Mathlib.Tactic

/-! IEEE-754 binary64 numbers by their bit patterns, as far as comparing them
goes. Apart from NaN, two numbers compare as their sign and magnitude read as an
integer, in which both zeros are 0. -/

namespace Lib

structure F64 where
  bits : BitVec 64
deriving DecidableEq

namespace F64

/-- The exponent and significand fields together. -/
def magnitude (x : F64) : ℕ := x.bits.toNat % 2 ^ 63

def isNaN (x : F64) : Bool := 2047 * 2 ^ 52 < x.magnitude

def key (x : F64) : ℤ := if x.bits.toNat < 2 ^ 63 then x.magnitude else -x.magnitude

def zero : F64 := ⟨0⟩

def partialCmp (a b : F64) : Option Ordering :=
  if a.isNaN || b.isNaN then none else some (compare a.key b.key)

def lt (a b : F64) : Bool := a.partialCmp b = some .lt

def gt (a b : F64) : Bool := a.partialCmp b = some .gt

def ge (a b : F64) : Bool := a.gt b || a.partialCmp b = some .eq

theorem partialCmp_of_not_nan {a b : F64} (ha : a.isNaN = false) (hb : b.isNaN = false) :
    a.partialCmp b = some (compare a.key b.key) := by
  simp [partialCmp, ha, hb]

theorem key_pos_of_gt_zero {a : F64} (h : a.gt zero) : 0 < a.key := by
  unfold gt partialCmp at h
  split at h
  · simp at h
  · simp only [Option.some.injEq, decide_eq_true_eq, compare_gt_iff_gt] at h
    exact h

theorem eq_of_key_eq {a b : F64} (hpos : 0 < a.key) (h : a.key = b.key) : a = b := by
  obtain ⟨a⟩ := a
  obtain ⟨b⟩ := b
  congr 1
  apply BitVec.eq_of_toNat_eq
  simp only [key, magnitude] at hpos h
  split at hpos <;> split at h <;> omega

end F64

end Lib
