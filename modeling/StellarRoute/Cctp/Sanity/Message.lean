import StellarRoute.Cctp.Spec.Message

/-! The layout of a CCTP message. What `encodeMessage` writes is what
`parseCctpV2Message` reads, so a message that meets the expectations of a
transfer exists. -/

namespace StellarRoute.Cctp

open Lib List

/-! ### Numbers on a fixed number of bytes -/

theorem length_toBeBytes (k n : ℕ) : (toBeBytes k n).length = k := by
  simp [toBeBytes]

theorem toBeBytes_succ (k n : ℕ) :
    toBeBytes (k + 1) n = toBeBytes k (n / 256) ++ [UInt8.ofNat (n % 256)] := by
  have hinit : ∀ i ∈ range k, UInt8.ofNat (n / 256 ^ (k + 1 - 1 - i) % 256) =
      UInt8.ofNat (n / 256 / 256 ^ (k - 1 - i) % 256) := by
    intro i hi
    rw [mem_range] at hi
    have hexp : k + 1 - 1 - i = (k - 1 - i) + 1 := by omega
    rw [hexp, pow_succ, Nat.mul_comm, Nat.div_div_eq_div_mul]
  rw [toBeBytes, range_succ, map_append, map_congr_left hinit]
  simp [toBeBytes]

theorem beNat_append_singleton (bytes : Bytes) (b : UInt8) :
    beNat (bytes ++ [b]) = 256 * beNat bytes + b.toNat := by
  simp [beNat]

theorem beNat_toBeBytes {k n : ℕ} (h : n < 256 ^ k) : beNat (toBeBytes k n) = n := by
  induction k generalizing n with
  | zero =>
    obtain rfl : n = 0 := by simpa using h
    rfl
  | succ k ih =>
    have hdiv : n / 256 < 256 ^ k := by
      rw [Nat.div_lt_iff_lt_mul (by norm_num)]
      simpa [pow_succ] using h
    have hmod : (UInt8.ofNat (n % 256)).toNat = n % 256 := by
      rw [UInt8.toNat_ofNat']
      exact Nat.mod_mod n 256
    rw [toBeBytes_succ, beNat_append_singleton, ih hdiv, hmod, Nat.div_add_mod]

theorem toBeBytes_add (a b n : ℕ) :
    toBeBytes (a + b) n = toBeBytes a (n / 256 ^ b) ++ toBeBytes b n := by
  induction b generalizing n with
  | zero => simp [toBeBytes]
  | succ b ih =>
    rw [← Nat.add_assoc, toBeBytes_succ, ih, toBeBytes_succ, append_assoc,
      Nat.div_div_eq_div_mul, pow_succ, Nat.mul_comm 256]

/-! ### Fields -/

section Fields

variable {bytes rest : Bytes} {offset : ℕ}

theorem readU32Be_field {n : ℕ} (h : bytes.drop offset = toBeBytes 4 n ++ rest) (hn : n < 2 ^ 32) :
    readU32Be bytes offset = .ok n := by
  have hslice := slice_field h (length_toBeBytes 4 n) (by norm_num)
  rw [readU32Be, hslice]
  change Except.ok (beNat (toBeBytes 4 n)) = _
  rw [beNat_toBeBytes (by norm_num; exact hn)]

theorem readBytes32_field {x : Bytes32} (h : bytes.drop offset = x.bytes ++ rest) :
    readBytes32 bytes offset = .ok x := by
  have hslice := slice_field h x.length_eq (by norm_num)
  unfold readBytes32
  split
  · next out hout =>
    obtain rfl : x.bytes = out := Option.mem_unique hslice hout
    rfl
  · next hnone => exact absurd (hslice.symm.trans hnone) (by simp)

theorem readU256_field {n : ℕ} (h : bytes.drop offset = toBeBytes 32 n ++ rest) (hn : n < 2 ^ 128) :
    readU256 bytes offset = .ok n := by
  have hslice := slice_field h (length_toBeBytes 32 n) (by norm_num)
  have hhigh : n / 256 ^ 16 = 0 := Nat.div_eq_of_lt (hn.trans_le (by norm_num))
  have hsplit : toBeBytes 32 n = replicate 16 0 ++ toBeBytes 16 n := by
    rw [show 32 = 16 + 16 from rfl, toBeBytes_add, hhigh]
    rfl
  have htake : (toBeBytes 32 n).take 16 = replicate 16 0 := by
    rw [hsplit]
    exact take_left' (by simp)
  have hdrop : (toBeBytes 32 n).drop 16 = toBeBytes 16 n := by
    rw [hsplit]
    exact drop_left' (by simp)
  have hvalue : beNat (toBeBytes 16 n) = n := beNat_toBeBytes (hn.trans_le (by norm_num))
  simp only [readU256, hslice, bind_eq_ok, okOr_eq_ok, require_eq_ok, pure_eq_ok]
  exact ⟨_, rfl, (), htake, by rw [hdrop, hvalue]⟩

end Fields

/-! ### Messages -/

def encodeBody (b : ParsedBurnMessageBody) : Bytes :=
  toBeBytes 4 b.version ++ (b.burnToken.bytes ++ (b.mintRecipient.bytes ++ (toBeBytes 32 b.amount ++
    (b.messageSender.bytes ++ (toBeBytes 32 b.maxFee ++ (toBeBytes 32 b.feeExecuted ++
    (toBeBytes 32 b.expirationBlock ++ b.hookData)))))))

def encodeMessage (m : ParsedCctpMessage) : Bytes :=
  toBeBytes 4 m.version ++ (toBeBytes 4 m.sourceDomain ++ (toBeBytes 4 m.destinationDomain ++
    (m.nonce.bytes ++ (m.sender.bytes ++ (m.recipient.bytes ++ (m.destinationCaller.bytes ++
    (toBeBytes 4 m.minFinalityThreshold ++ (toBeBytes 4 m.finalityThresholdExecuted ++
    encodeBody m.body))))))))

/-- The numbers fit their fields. -/
structure ParsedBurnMessageBody.Fits (b : ParsedBurnMessageBody) : Prop where
  version : b.version < 2 ^ 32
  amount : b.amount < 2 ^ 128
  maxFee : b.maxFee < 2 ^ 128
  feeExecuted : b.feeExecuted < 2 ^ 128
  expirationBlock : b.expirationBlock < 2 ^ 128

structure ParsedCctpMessage.Fits (m : ParsedCctpMessage) : Prop where
  version : m.version < 2 ^ 32
  sourceDomain : m.sourceDomain < 2 ^ 32
  destinationDomain : m.destinationDomain < 2 ^ 32
  minFinalityThreshold : m.minFinalityThreshold < 2 ^ 32
  finalityThresholdExecuted : m.finalityThresholdExecuted < 2 ^ 32
  body : m.body.Fits

theorem length_encodeBody (b : ParsedBurnMessageBody) :
    (encodeBody b).length = 228 + b.hookData.length := by
  simp only [encodeBody, length_append, length_toBeBytes, BytesN.length_eq]
  omega

theorem length_encodeMessage (m : ParsedCctpMessage) :
    (encodeMessage m).length = 376 + m.body.hookData.length := by
  simp only [encodeMessage, length_append, length_toBeBytes, BytesN.length_eq,
    length_encodeBody]
  omega

theorem parse_encodeBody {b : ParsedBurnMessageBody} (h : b.Fits) :
    parseBurnMessageBody (encodeBody b) = .ok b := by
  have h0 : (encodeBody b).drop 0 = encodeBody b := rfl
  have h1 := drop_field h0 (length_toBeBytes 4 _)
  have h2 := drop_field h1 b.burnToken.length_eq
  have h3 := drop_field h2 b.mintRecipient.length_eq
  have h4 := drop_field h3 (length_toBeBytes 32 _)
  have h5 := drop_field h4 b.messageSender.length_eq
  have h6 := drop_field h5 (length_toBeBytes 32 _)
  have h7 := drop_field h6 (length_toBeBytes 32 _)
  have h8 := drop_field h7 (length_toBeBytes 32 _)
  have hlen : 228 ≤ (encodeBody b).length := by rw [length_encodeBody]; omega
  simp only [parseBurnMessageBody, bind_eq_ok, require_eq_ok, pure_eq_ok]
  exact ⟨(), hlen, _, readU32Be_field h0 h.version, _, readBytes32_field h1, _,
    readBytes32_field h2, _, readU256_field h3 h.amount, _, readBytes32_field h4, _,
    readU256_field h5 h.maxFee, _, readU256_field h6 h.feeExecuted, _,
    readU256_field h7 h.expirationBlock, congrArg _ h8⟩

theorem parse_encodeMessage {m : ParsedCctpMessage} (h : m.Fits) :
    parseCctpV2Message (encodeMessage m) = .ok m := by
  have h0 : (encodeMessage m).drop 0 = encodeMessage m := rfl
  have h1 := drop_field h0 (length_toBeBytes 4 _)
  have h2 := drop_field h1 (length_toBeBytes 4 _)
  have h3 := drop_field h2 (length_toBeBytes 4 _)
  have h4 := drop_field h3 m.nonce.length_eq
  have h5 := drop_field h4 m.sender.length_eq
  have h6 := drop_field h5 m.recipient.length_eq
  have h7 := drop_field h6 m.destinationCaller.length_eq
  have h8 := drop_field h7 (length_toBeBytes 4 _)
  have h9 := drop_field h8 (length_toBeBytes 4 _)
  have hlen : MESSAGE_HEADER_LEN ≤ (encodeMessage m).length := by
    rw [length_encodeMessage, MESSAGE_HEADER_LEN]
    omega
  have hbody : parseBurnMessageBody ((encodeMessage m).drop 148) = .ok m.body := by
    rw [show (encodeMessage m).drop 148 = encodeBody m.body from h9]
    exact parse_encodeBody h.body
  simp only [parseCctpV2Message, bind_eq_ok, require_eq_ok, pure_eq_ok]
  exact ⟨(), hlen, _, readU32Be_field h0 h.version, _, readU32Be_field h1 h.sourceDomain, _,
    readU32Be_field h2 h.destinationDomain, _, readBytes32_field h3, _, readBytes32_field h4, _,
    readBytes32_field h5, _, readBytes32_field h6, _, readU32Be_field h7 h.minFinalityThreshold, _,
    readU32Be_field h8 h.finalityThresholdExecuted, _, hbody, rfl⟩

/-! ### A message that meets the expectations -/

/-- Every field as expected, and final. -/
def messageFor (e : CorridorMessageExpectations) : ParsedCctpMessage where
  version := 1
  sourceDomain := e.sourceDomain
  destinationDomain := e.destinationDomain
  nonce := zero32
  sender := e.headerSender
  recipient := e.headerRecipient
  destinationCaller := e.destinationCaller
  minFinalityThreshold := e.minFinality
  finalityThresholdExecuted := FINALITY_STANDARD
  body :=
    { version := 1, burnToken := e.burnToken, mintRecipient := e.mintRecipient
      amount := e.amountCctpSubunits, messageSender := e.bodyMessageSender, maxFee := 0
      feeExecuted := 0, expirationBlock := 0, hookData := e.hookData.getD [] }

structure CorridorMessageExpectations.Meetable (e : CorridorMessageExpectations) : Prop where
  sourceDomain : e.sourceDomain < 2 ^ 32
  destinationDomain : e.destinationDomain < 2 ^ 32
  amount : e.amountCctpSubunits < 2 ^ 128
  minFinality : e.minFinality < 2 ^ 32
  hookLen : (e.hookData.getD []).length ≤ MAX_HOOK_DATA_BYTES
  noHook : e.hookDataRequiredEmpty → e.hookData = none

section Meet

variable {e : CorridorMessageExpectations}

theorem fits_messageFor (h : e.Meetable) : (messageFor e).Fits where
  version := by norm_num [messageFor]
  sourceDomain := h.sourceDomain
  destinationDomain := h.destinationDomain
  minFinalityThreshold := h.minFinality
  finalityThresholdExecuted := by norm_num [messageFor, FINALITY_STANDARD]
  body := by
    constructor
    · norm_num [messageFor]
    · exact h.amount
    · norm_num [messageFor]
    · norm_num [messageFor]
    · norm_num [messageFor]

theorem normalizeFinality_le (threshold : ℕ) : normalizeFinality threshold ≤ FINALITY_STANDARD := by
  unfold normalizeFinality
  split_ifs
  · norm_num [FINALITY_FAST, FINALITY_STANDARD]
  · exact le_rfl

theorem hookDataExpected_messageFor (h : e.hookDataRequiredEmpty → e.hookData = none) :
    hookDataExpected e (messageFor e).body.hookData := by
  unfold hookDataExpected messageFor
  cases hhook : e.hookData with
  | none => simp
  | some hook =>
    have hempty : e.hookDataRequiredEmpty = false := by
      cases hr : e.hookDataRequiredEmpty with
      | false => rfl
      | true => exact absurd (hhook.symm.trans (h hr)) (by simp)
    simp [hempty]

theorem decodeHexMessage_hexEncode (bytes : Bytes) :
    decodeHexMessage (hexEncode bytes) = .ok bytes := by
  rw [decodeHexMessage, trim_hexEncode, strip0x_hexEncode, hexDecode_hexEncode]
  rfl

theorem length_messageFor_le (h : e.Meetable) :
    (encodeMessage (messageFor e)).length ≤ MAX_RAW_MESSAGE_BYTES := by
  have hlen : (messageFor e).body.hookData.length ≤ MAX_HOOK_DATA_BYTES := h.hookLen
  rw [length_encodeMessage]
  unfold MAX_HOOK_DATA_BYTES at hlen
  unfold MAX_RAW_MESSAGE_BYTES
  omega

theorem validate_messageFor (h : e.Meetable) :
    validateMessageForCorridor (hexEncode (encodeMessage (messageFor e))) e =
      .ok (messageFor e) := by
  have hparse := parse_encodeMessage (fits_messageFor h)
  have hlen := length_messageFor_le h
  simp only [validateMessageForCorridor, decodeHexMessage_hexEncode, bind_eq_ok, mapError_eq_ok,
    require_eq_ok, pure_eq_ok, Except.ok.injEq, exists_eq_left', exists_const]
  refine ⟨hlen, messageFor e, hparse, rfl, rfl, rfl, rfl, rfl, rfl, rfl, rfl, rfl, rfl, ?_, ?_, ?_,
    rfl⟩
  · exact normalizeFinality_le _
  · exact h.hookLen
  · exact hookDataExpected_messageFor h.noHook

end Meet

section Build

variable {c : Codec} {t : CctpTransfer} {e : CorridorMessageExpectations}

theorem parseDecimalToSubunits_lt {amount : String} {scale n : ℕ}
    (h : parseDecimalToSubunits amount scale = .ok n) : n < 2 ^ 128 := by
  rw [parseDecimalToSubunits, bind_eq_ok] at h
  obtain ⟨⟨whole, fraction⟩, -, h⟩ := h
  have h := okOr_eq_ok.mp h
  unfold parseDecimal at h
  dsimp only at h
  split_ifs at h with hdigits
  rw [Option.some.injEq] at h
  exact h ▸ hdigits.2.2

theorem amountCctpSubunits_lt {n : ℕ} (h : amountCctpSubunits t = .ok n) : n < 2 ^ 128 := by
  unfold amountCctpSubunits expect at h
  split at h
  · simp only [bind_eq_ok, mapError_eq_ok, pure_eq_ok] at h
    obtain ⟨⟨amount, rem⟩, h, rfl⟩ := h
    rw [stellarOutboundCctpAmount, bind_eq_ok] at h
    obtain ⟨⟨whole, fraction⟩, -, h⟩ := h
    simp only [bind_eq_ok, pure_eq_ok, Prod.mk.injEq] at h
    obtain ⟨cctp, h, rfl, -⟩ := h
    exact parseDecimalToSubunits_lt h
  · rw [mapError_eq_ok] at h
    exact parseDecimalToSubunits_lt h

theorem corridorMinFinality_lt (finality : CctpFinality) : corridorMinFinality finality < 2 ^ 32 := by
  cases finality <;> norm_num [corridorMinFinality, FINALITY_STANDARD, FINALITY_FAST]

/-- A string key has at most 69 characters. -/
def Codec.StrkeysShort (c : Codec) : Prop :=
  ∀ key : StellarRecipientKey, (key.toStrkey c).toUTF8.toList.length ≤ 69

theorem meetable_of_build (hc : c.StrkeysShort) (h : buildCorridorExpectations c t = .ok e) :
    e.Meetable := by
  unfold buildCorridorExpectations at h
  rw [bind_eq_ok] at h
  obtain ⟨amount, hamount, h⟩ := h
  have hlt := amountCctpSubunits_lt hamount
  have hfinality := corridorMinFinality_lt t.finality
  split at h
  · simp only [bind_eq_ok, pure_eq_ok] at h
    obtain ⟨_, -, _, -, _, -, _, -, _, -, rfl⟩ := h
    exact ⟨by norm_num [STELLAR_TESTNET_DOMAIN], by norm_num [SEPOLIA_DOMAIN], hlt, hfinality,
      by norm_num, fun _ => rfl⟩
  · simp only [expect, bind_eq_ok, mapError_eq_ok, pure_eq_ok] at h
    obtain ⟨_, -, _, -, hook, hhook, _, -, _, -, _, -, rfl⟩ := h
    refine ⟨by norm_num [SEPOLIA_DOMAIN], by norm_num [STELLAR_TESTNET_DOMAIN], hlt, hfinality, ?_,
      by rintro ⟨⟩⟩
    unfold buildForwarderHookDataRecipient at hhook
    split at hhook
    · cases hhook
    · cases hhook
    · next key _ hkey =>
      rw [pure_eq_ok] at hhook
      have hshort := hc key
      rw [← hhook]
      simp only [Option.getD_some, length_append, length_replicate, length_toBeBytes,
        MAX_HOOK_DATA_BYTES]
      omega

end Build

end StellarRoute.Cctp
