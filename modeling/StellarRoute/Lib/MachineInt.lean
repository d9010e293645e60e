import Mathlib.Tactic

/-! Fixed-width integers. Signed ones are kept as their value with its range,
so that a comparison or a bound is a fact about `ℤ`; a checked operation
returns `none` exactly when the true result leaves the range. For the unsigned
ones Lean's own `UIntN` are used, whose `+` wraps. -/

namespace Lib

/-- The values of a signed integer of `w` bits. -/
def InRange (w : ℕ) (z : ℤ) : Prop := -2 ^ (w - 1) ≤ z ∧ z < 2 ^ (w - 1)

instance (w : ℕ) (z : ℤ) : Decidable (InRange w z) := inferInstanceAs (Decidable (_ ∧ _))

structure SInt (w : ℕ) where
  toInt : ℤ
  inRange : InRange w toInt
deriving DecidableEq

abbrev I64 := SInt 64
abbrev I128 := SInt 128

namespace SInt

variable {w : ℕ} {a b : SInt w}

theorem ext (h : a.toInt = b.toInt) : a = b := by
  cases a; cases b; cases h; rfl

theorem ext_iff : a = b ↔ a.toInt = b.toInt := ⟨fun h => h ▸ rfl, ext⟩

instance : LE (SInt w) := ⟨fun a b => a.toInt ≤ b.toInt⟩
instance : LT (SInt w) := ⟨fun a b => a.toInt < b.toInt⟩
instance (a b : SInt w) : Decidable (a ≤ b) := inferInstanceAs (Decidable (a.toInt ≤ b.toInt))
instance (a b : SInt w) : Decidable (a < b) := inferInstanceAs (Decidable (a.toInt < b.toInt))

instance : Max (SInt w) := ⟨fun a b => if a ≤ b then b else a⟩

@[simp] theorem toInt_max (a b : SInt w) : (max a b).toInt = max a.toInt b.toInt := by
  change (if a.toInt ≤ b.toInt then b else a).toInt = _
  rw [apply_ite SInt.toInt, max_def]

theorem lt_def : a < b ↔ a.toInt < b.toInt := Iff.rfl

/-- The nearest value of the type. -/
def saturate (w : ℕ) (z : ℤ) : SInt w :=
  ⟨max (-2 ^ (w - 1)) (min z (2 ^ (w - 1) - 1)), by
    have h : (0 : ℤ) < 2 ^ (w - 1) := by positivity
    constructor <;> omega⟩

theorem toInt_saturate {z : ℤ} (h : InRange w z) : (saturate w z).toInt = z := by
  obtain ⟨h1, h2⟩ := h
  simp only [saturate]
  omega

instance (n : ℕ) : OfNat (SInt w) n := ⟨saturate w n⟩

@[simp] theorem toInt_zero : (0 : SInt w).toInt = 0 := by
  apply toInt_saturate (z := 0)
  have h : (0 : ℤ) < 2 ^ (w - 1) := by positivity
  constructor <;> omega

def maxValue (w : ℕ) : SInt w := saturate w (2 ^ (w - 1) - 1)
def minValue (w : ℕ) : SInt w := saturate w (-2 ^ (w - 1))

def ofInt? (w : ℕ) (z : ℤ) : Option (SInt w) := if h : InRange w z then some ⟨z, h⟩ else none

theorem ofInt?_eq_some {z : ℤ} : ofInt? w z = some a ↔ a.toInt = z := by
  unfold ofInt?
  split_ifs with h
  · rw [Option.some_inj, ext_iff, eq_comm]
  · constructor
    · nofun
    · intro he
      exact absurd (he ▸ a.inRange) h

def checkedAdd (a b : SInt w) : Option (SInt w) := ofInt? w (a.toInt + b.toInt)
def checkedSub (a b : SInt w) : Option (SInt w) := ofInt? w (a.toInt - b.toInt)
def checkedMul (a b : SInt w) : Option (SInt w) := ofInt? w (a.toInt * b.toInt)

theorem toInt_checkedAdd_getD_max (h : -2 ^ (w - 1) ≤ a.toInt + b.toInt) :
    ((a.checkedAdd b).getD (maxValue w)).toInt = min (a.toInt + b.toInt) (2 ^ (w - 1) - 1) := by
  have hpos : (0 : ℤ) < 2 ^ (w - 1) := by positivity
  unfold checkedAdd ofInt?
  split_ifs with hrange
  · rw [Option.getD_some, min_eq_left (by have := hrange.2; omega)]
  · have hmax : (maxValue w).toInt = 2 ^ (w - 1) - 1 := by
      rw [maxValue, toInt_saturate]
      constructor <;> omega
    have hlarge : 2 ^ (w - 1) ≤ a.toInt + b.toInt := by
      by_contra hlt
      exact hrange ⟨h, by omega⟩
    rw [Option.getD_none, hmax, min_eq_right (by omega)]

/-- Division rounds towards zero. -/
def checkedDiv (a b : SInt w) : Option (SInt w) :=
  if b.toInt = 0 then none else ofInt? w (a.toInt.tdiv b.toInt)

def saturatingSub (a b : SInt w) : SInt w := saturate w (a.toInt - b.toInt)
def saturatingMul (a b : SInt w) : SInt w := saturate w (a.toInt * b.toInt)

/-- The value of the type that differs by a multiple of `2 ^ w`. -/
def wrap (w : ℕ) (z : ℤ) : SInt w :=
  ⟨Int.bmod z (2 ^ (w - 1) * 2 : ℕ), by
    have hpos : 0 < 2 ^ (w - 1) * 2 := by positivity
    have hle := Int.le_bmod (x := z) hpos
    have hlt := Int.bmod_lt (x := z) hpos
    push_cast at hle hlt
    constructor <;> omega⟩

theorem toInt_wrap {z : ℤ} (h : InRange w z) : (wrap w z).toInt = z := by
  obtain ⟨hle, hlt⟩ := h
  refine Int.bmod_eq_of_le ?_ ?_ <;> push_cast <;> omega

theorem toInt_wrap_sub {z : ℤ} (h : InRange w (z - 2 ^ (w - 1) * 2)) :
    (wrap w z).toInt = z - 2 ^ (w - 1) * 2 := by
  rw [← toInt_wrap h]
  simpa [wrap] using (Int.sub_bmod_right z (2 ^ (w - 1) * 2)).symm

def wrappingAdd (a b : SInt w) : SInt w := wrap w (a.toInt + b.toInt)
def wrappingSub (a b : SInt w) : SInt w := wrap w (a.toInt - b.toInt)
def wrappingAbs (a : SInt w) : SInt w := wrap w |a.toInt|

/-- Division by a positive number, which rounds towards zero and stays in range. -/
def divPos (a b : SInt w) : SInt w := saturate w (a.toInt.tdiv b.toInt)

theorem toInt_saturatingSub (h : InRange w (a.toInt - b.toInt)) :
    (a.saturatingSub b).toInt = a.toInt - b.toInt := toInt_saturate h

end SInt

end Lib

/-- Rust's `checked_add` on `u32`. -/
def UInt32.checkedAdd (a b : UInt32) : Option UInt32 :=
  if a.toNat + b.toNat < 2 ^ 32 then some (a + b) else none

theorem UInt32.toNat_of_checkedAdd {a b c : UInt32} (h : a.checkedAdd b = some c) :
    c.toNat = a.toNat + b.toNat := by
  unfold UInt32.checkedAdd at h
  split_ifs at h with hlt
  cases h
  rw [UInt32.toNat_add, Nat.mod_eq_of_lt hlt]

/-- Rust's `checked_add` on `u64`. -/
def UInt64.checkedAdd (a b : UInt64) : Option UInt64 :=
  if a.toNat + b.toNat < 2 ^ 64 then some (a + b) else none

theorem UInt64.toNat_of_checkedAdd {a b c : UInt64} (h : a.checkedAdd b = some c) :
    c.toNat = a.toNat + b.toNat := by
  unfold UInt64.checkedAdd at h
  split_ifs at h with hlt
  cases h
  rw [UInt64.toNat_add, Nat.mod_eq_of_lt hlt]

/-- Rust's `saturating_add` on `u64`. -/
def UInt64.saturatingAdd (a b : UInt64) : UInt64 := (a.checkedAdd b).getD (-1)

/-- Rust's `saturating_sub` on `u32`. -/
def UInt32.saturatingSub (a b : UInt32) : UInt32 := if a ≤ b then 0 else a - b

theorem UInt32.toNat_saturatingSub (a b : UInt32) :
    (a.saturatingSub b).toNat = a.toNat - b.toNat := by
  unfold UInt32.saturatingSub
  split_ifs with h
  · exact (Nat.sub_eq_zero_of_le (UInt32.le_iff_toNat_le.mp h)).symm
  · exact UInt32.toNat_sub_of_le _ _ (UInt32.le_of_lt (UInt32.not_le.mp h))
