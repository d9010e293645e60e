import Mathlib.Data.List.DropRight
import Mathlib.Tactic

/-! Operations on strings, by their characters: trimming, splitting at the
first separator, ASCII case and decimal numbers. Lengths are counted in bytes
of the UTF-8 form. -/

namespace Lib

open List

/-- The `White_Space` property. -/
def isWhitespace (c : Char) : Bool :=
  (9 ≤ c.toNat && c.toNat ≤ 13) || c.toNat == 0x20 || c.toNat == 0x85 || c.toNat == 0xA0 ||
    c.toNat == 0x1680 || (0x2000 ≤ c.toNat && c.toNat ≤ 0x200A) || c.toNat == 0x2028 ||
    c.toNat == 0x2029 || c.toNat == 0x202F || c.toNat == 0x205F || c.toNat == 0x3000

def trimChars (cs : List Char) : List Char :=
  ((cs.dropWhile isWhitespace).reverse.dropWhile isWhitespace).reverse

theorem trimChars_of_forall {cs : List Char} (h : ∀ c ∈ cs, isWhitespace c = false) :
    trimChars cs = cs := by
  have hdrop : ∀ l : List Char, (∀ c ∈ l, isWhitespace c = false) → l.dropWhile isWhitespace = l := by
    intro l hl
    cases l with
    | nil => rfl
    | cons c l => rw [dropWhile_cons, hl c mem_cons_self]; rfl
  rw [trimChars, hdrop cs h, hdrop cs.reverse fun c hc => h c (mem_reverse.mp hc),
    reverse_reverse]

theorem trimChars_trimChars (cs : List Char) : trimChars (trimChars cs) = trimChars cs := by
  have htrim : ∀ l, trimChars l = (l.dropWhile isWhitespace).rdropWhile isWhitespace := fun _ => rfl
  -- what is dropped at the end leaves the first character
  have hfirst : ((cs.dropWhile isWhitespace).rdropWhile isWhitespace).dropWhile isWhitespace =
      (cs.dropWhile isWhitespace).rdropWhile isWhitespace := by
    rw [dropWhile_eq_self_iff]
    intro hlen
    have hpre := rdropWhile_prefix isWhitespace (cs.dropWhile isWhitespace)
    rw [hpre.getElem hlen]
    exact dropWhile_get_zero_not _ _ (hlen.trans_le hpre.length_le)
  rw [htrim, htrim, hfirst, rdropWhile_idempotent]

def trim (s : String) : String := String.ofList (trimChars s.toList)

theorem trim_trim (s : String) : trim (trim s) = trim s := by
  rw [trim, trim, String.toList_ofList, trimChars_trimChars]

/-- The parts before and after the first `sep`. -/
def splitOnceChars (sep : Char) : List Char → Option (List Char × List Char)
  | [] => none
  | c :: cs =>
    if c = sep then some ([], cs)
    else (splitOnceChars sep cs).map fun p => (c :: p.1, p.2)

def splitOnce (s : String) (sep : Char) : Option (String × String) :=
  (splitOnceChars sep s.toList).map fun p => (String.ofList p.1, String.ofList p.2)

def toAsciiLowercase (s : String) : String := String.ofList (s.toList.map Char.toLower)

def toAsciiUppercase (s : String) : String := String.ofList (s.toList.map Char.toUpper)

def eqIgnoreAsciiCase (s t : String) : Bool :=
  s.toList.map Char.toLower == t.toList.map Char.toLower

def isAsciiHexdigit (c : Char) : Bool :=
  c.isDigit || ('a' ≤ c && c ≤ 'f') || ('A' ≤ c && c ≤ 'F')

def byteLen (s : String) : ℕ := (s.toList.map Char.utf8Size).sum

theorem utf8Size_toLower (c : Char) : c.toLower.utf8Size = c.utf8Size := by
  unfold Char.toLower
  split
  · next h =>
    -- capital letters and their lower case are ASCII
    have hle : c.val.toNat ≤ 90 := UInt32.le_iff_toNat_le.mp h.2
    have hlower : (c.val + ('a'.val - 'A'.val)).toNat ≤ 127 := by
      rw [UInt32.toNat_add, show ('a'.val - 'A'.val).toNat = 32 from rfl]
      omega
    simp only [Char.utf8Size]
    rw [if_pos (UInt32.le_iff_toNat_le.mpr hlower),
      if_pos (UInt32.le_iff_toNat_le.mpr (hle.trans (by decide)))]
  · rfl

theorem byteLen_toAsciiLowercase (s : String) : byteLen (toAsciiLowercase s) = byteLen s := by
  simp [byteLen, toAsciiLowercase, Function.comp_def, utf8Size_toLower]

theorem byteLen_append (s t : String) : byteLen (s ++ t) = byteLen s + byteLen t := by
  simp [byteLen]

def containsText (s part : String) : Bool := part.toList <:+: s.toList

def digitVal (c : Char) : ℕ := c.toNat - '0'.toNat

def decimalVal (cs : List Char) : ℕ := cs.foldl (fun n c => 10 * n + digitVal c) 0

theorem toString_nat_inj {n m : ℕ} : toString n = toString m ↔ n = m := by
  constructor
  · intro h
    rw [Nat.toString_eq_repr, Nat.toString_eq_repr] at h
    have hdigits := congrArg String.toList h
    rw [Nat.toList_repr, Nat.toList_repr] at hdigits
    rw [← Nat.ofDigitChars_ten_toDigits (n := n), hdigits, Nat.ofDigitChars_ten_toDigits]
  · exact congrArg _

theorem toList_toString_negSucc (n : ℕ) :
    (toString (Int.negSucc n)).toList = '-' :: (toString (n + 1)).toList := by
  change ("-" ++ (n + 1).repr).toList = _
  simp [String.toList_append, Nat.toString_eq_repr]

theorem toString_ofNat_ne_negSucc (n m : ℕ) :
    toString (Int.ofNat n) ≠ toString (Int.negSucc m) := by
  intro h
  have hminus : '-' ∈ (toString (Int.ofNat n)).toList := by
    rw [h, toList_toString_negSucc]
    exact mem_cons_self
  change '-' ∈ n.repr.toList at hminus
  rw [Nat.toList_repr] at hminus
  exact absurd (Nat.isDigit_of_mem_toDigits (by decide) (by decide) hminus) (by decide)

theorem toString_int_inj {i j : ℤ} : toString i = toString j ↔ i = j := by
  refine ⟨fun h => ?_, congrArg _⟩
  cases i with
  | ofNat n =>
    cases j with
    | ofNat m => exact congrArg _ (toString_nat_inj.mp h)
    | negSucc m => exact absurd h (toString_ofNat_ne_negSucc n m)
  | negSucc n =>
    cases j with
    | ofNat m => exact absurd h.symm (toString_ofNat_ne_negSucc m n)
    | negSucc m =>
      have hlist := congrArg String.toList h
      rw [toList_toString_negSucc, toList_toString_negSucc, cons.injEq, String.toList_inj,
        toString_nat_inj] at hlist
      exact congrArg Int.negSucc (by omega)

/-- A decimal number below `bound`; one leading `+` is accepted. -/
def parseDecimal (bound : ℕ) (s : String) : Option ℕ :=
  let digits := match s.toList with
    | '+' :: ds => ds
    | ds => ds
  if digits ≠ [] ∧ digits.all Char.isDigit ∧ decimalVal digits < bound then
    some (decimalVal digits)
  else none

theorem parseDecimal_toString {bound n : ℕ} (h : n < bound) :
    parseDecimal bound (toString n) = some n := by
  have hlist : (toString n).toList = Nat.toDigits 10 n := by
    simp [toString, Nat.repr]
  have hdigit : ∀ c ∈ Nat.toDigits 10 n, c.isDigit = true :=
    fun c hc => Nat.isDigit_of_mem_toDigits (by decide) (by decide) hc
  have hval : decimalVal (Nat.toDigits 10 n) = n := Nat.ofDigitChars_ten_toDigits
  unfold parseDecimal
  rw [hlist]
  cases hcs : Nat.toDigits 10 n with
  | nil => exact absurd hcs Nat.toDigits_ne_nil
  | cons c cs =>
    rw [hcs] at hdigit hval
    dsimp only
    split
    · next heq =>
      -- a digit is no sign
      obtain ⟨rfl, -⟩ := cons.inj heq
      exact absurd (hdigit '+' mem_cons_self) (by decide)
    · rw [hval, if_pos ⟨cons_ne_nil c cs, all_eq_true.mpr hdigit, h⟩]

end Lib
