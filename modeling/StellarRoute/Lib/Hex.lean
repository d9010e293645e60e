import StellarRoute.Lib.Text

/-! Hexadecimal text and big-endian bytes. -/

namespace Lib

open List

def utf8 (s : String) : List UInt8 := s.toUTF8.data.toList

theorem utf8_injective : Function.Injective utf8 := fun _ _ h =>
  String.toByteArray_inj.mp (ByteArray.ext (Array.toList_inj.mp h))

/-- The text without one leading `0x` or `0X`. -/
def strip0x (s : String) : String :=
  match s.toList with
  | '0' :: 'x' :: cs => String.ofList cs
  | '0' :: 'X' :: cs => String.ofList cs
  | _ => s

def hexDigitVal (c : Char) : Option ℕ :=
  if c.isDigit then some (c.toNat - '0'.toNat)
  else if 'a' ≤ c ∧ c ≤ 'f' then some (c.toNat - 'a'.toNat + 10)
  else if 'A' ≤ c ∧ c ≤ 'F' then some (c.toNat - 'A'.toNat + 10)
  else none

/-- Two digits of either case for each byte. -/
def hexBytes : List Char → Option (List UInt8)
  | [] => some []
  | [_] => none
  | a :: b :: cs => do
    let hi ← hexDigitVal a
    let lo ← hexDigitVal b
    let rest ← hexBytes cs
    pure (UInt8.ofNat (16 * hi + lo) :: rest)

def hexDecode (s : String) : Option (List UInt8) := hexBytes s.toList

def hexDigit (n : ℕ) : Char :=
  if n < 10 then Char.ofNat ('0'.toNat + n) else Char.ofNat ('a'.toNat + (n - 10))

def hexEncode (bytes : List UInt8) : String :=
  String.ofList (bytes.flatMap fun b => [hexDigit (b.toNat / 16), hexDigit (b.toNat % 16)])

def trimStart0x : List Char → List Char
  | '0' :: 'x' :: cs => trimStart0x cs
  | cs => cs

/-- A hexadecimal number below `bound`, after any number of leading `0x`; one leading `+` is
accepted. -/
def parseHex (bound : ℕ) (s : String) : Option ℕ :=
  let digits := match trimStart0x s.toList with
    | '+' :: ds => ds
    | ds => ds
  match digits with
  | [] => none
  | _ => do
    let n ← digits.foldlM (fun n c => (hexDigitVal c).map (16 * n + ·)) 0
    if n < bound then some n else none

/-- The number whose big-endian bytes these are. -/
def beNat (bytes : List UInt8) : ℕ := bytes.foldl (fun n b => 256 * n + b.toNat) 0

def slice (bytes : List UInt8) (offset len : ℕ) : Option (List UInt8) :=
  if offset + len ≤ bytes.length then some ((bytes.drop offset).take len) else none

variable {bytes field rest : List UInt8} {offset len n : ℕ}

theorem slice_length {out : List UInt8}
    (h : slice bytes offset len = some out) : out.length = len := by
  unfold slice at h
  split at h
  · cases h
    simp only [length_take, length_drop]
    omega
  · cases h

theorem drop_field (h : bytes.drop offset = field ++ rest) (hlen : field.length = len) :
    bytes.drop (offset + len) = rest := by
  rw [← drop_drop, h, ← hlen, drop_left]

theorem slice_field
    (h : bytes.drop offset = field ++ rest) (hlen : field.length = len) (hpos : 0 < len) :
    slice bytes offset len = some field := by
  have hbound : offset + len ≤ bytes.length := by
    have hlength := congrArg length h
    simp only [length_drop, length_append] at hlength
    omega
  rw [slice, if_pos hbound, h, ← hlen, take_left]

/-! ### Encoding and decoding -/

theorem hexDigitVal_hexDigit (h : n < 16) : hexDigitVal (hexDigit n) = some n := by
  interval_cases n <;> rfl

theorem isWhitespace_hexDigit (h : n < 16) : isWhitespace (hexDigit n) = false := by
  interval_cases n <;> rfl

theorem hexDigit_ne_x (h : n < 16) : hexDigit n ≠ 'x' ∧ hexDigit n ≠ 'X' := by
  interval_cases n <;> decide

def hexChars (bytes : List UInt8) : List Char :=
  bytes.flatMap fun b => [hexDigit (b.toNat / 16), hexDigit (b.toNat % 16)]

theorem hexChars_cons (b : UInt8) (bytes : List UInt8) :
    hexChars (b :: bytes) =
      hexDigit (b.toNat / 16) :: hexDigit (b.toNat % 16) :: hexChars bytes := rfl

theorem toList_hexEncode (bytes : List UInt8) : (hexEncode bytes).toList = hexChars bytes :=
  String.toList_ofList

theorem hexBytes_hexChars (bytes : List UInt8) : hexBytes (hexChars bytes) = some bytes := by
  induction bytes with
  | nil => rfl
  | cons b bytes ih =>
    have hb := b.toNat_lt
    have hhi := hexDigitVal_hexDigit (n := b.toNat / 16) (by omega)
    have hlo := hexDigitVal_hexDigit (n := b.toNat % 16) (by omega)
    have hbyte : UInt8.ofNat (16 * (b.toNat / 16) + b.toNat % 16) = b := by
      rw [Nat.div_add_mod, UInt8.ofNat_toNat]
    rw [hexChars_cons, hexBytes, hhi, hlo, ih]
    change some (UInt8.ofNat (16 * (b.toNat / 16) + b.toNat % 16) :: bytes) = some (b :: bytes)
    rw [hbyte]

theorem hexDecode_hexEncode (bytes : List UInt8) : hexDecode (hexEncode bytes) = some bytes := by
  rw [hexDecode, toList_hexEncode, hexBytes_hexChars]

theorem hexEncode_injective : Function.Injective hexEncode := by
  intro bytes bytes' h
  have hdecode := congrArg hexDecode h
  rw [hexDecode_hexEncode, hexDecode_hexEncode] at hdecode
  exact Option.some.inj hdecode

theorem mem_hexChars {ch : Char} (h : ch ∈ hexChars bytes) : ∃ n < 16, ch = hexDigit n := by
  obtain ⟨b, -, hch⟩ := mem_flatMap.mp h
  have hb := b.toNat_lt
  rcases mem_pair.mp hch with rfl | rfl
  · exact ⟨_, by omega, rfl⟩
  · exact ⟨_, by omega, rfl⟩

theorem trim_hexEncode (bytes : List UInt8) : trim (hexEncode bytes) = hexEncode bytes := by
  have hchars : trimChars (hexChars bytes) = hexChars bytes := by
    apply trimChars_of_forall
    intro ch hch
    obtain ⟨n, hn, rfl⟩ := mem_hexChars hch
    exact isWhitespace_hexDigit hn
  rw [trim, toList_hexEncode, hchars]
  rfl

theorem strip0x_hexEncode (bytes : List UInt8) : strip0x (hexEncode bytes) = hexEncode bytes := by
  cases bytes with
  | nil => rfl
  | cons b bytes =>
    have hb := b.toNat_lt
    obtain ⟨hx, hX⟩ := hexDigit_ne_x (n := b.toNat % 16) (by omega)
    rw [strip0x, toList_hexEncode, hexChars_cons]
    split
    · next heq => exact absurd (cons.inj (cons.inj heq).2).1 hx
    · next heq => exact absurd (cons.inj (cons.inj heq).2).1 hX
    · rfl

end Lib
