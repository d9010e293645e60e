import StellarRoute.Cctp.Sanity.Message

/-! The messages that are read and accepted. The fields of a message fill it from
its first byte to the hook data, so writing them back gives the bytes; and the
expectations of a transfer fix every field that is compared, up to the limit on
the hook data. -/

namespace StellarRoute.Cctp

open Lib List

theorem beNat_lt (bytes : Bytes) : beNat bytes < 256 ^ bytes.length := by
  induction bytes using reverseRecOn with
  | nil => simp [beNat]
  | append_singleton bytes b ih =>
    have hb := b.toNat_lt
    rw [beNat_append_singleton, length_append, length_singleton, pow_succ]
    omega

theorem toBeBytes_beNat (bytes : Bytes) : toBeBytes bytes.length (beNat bytes) = bytes := by
  induction bytes using reverseRecOn with
  | nil => rfl
  | append_singleton bytes b ih =>
    have hb := b.toNat_lt
    have hdiv : (256 * beNat bytes + b.toNat) / 256 = beNat bytes := by omega
    have hmod : (256 * beNat bytes + b.toNat) % 256 = b.toNat := by omega
    rw [length_append, length_singleton, beNat_append_singleton, toBeBytes_succ, hdiv,
      hmod, ih, UInt8.ofNat_toNat]

theorem toBeBytes_of_length {out : Bytes} {len : ℕ} (h : out.length = len) :
    toBeBytes len (beNat out) = out ∧ beNat out < 256 ^ len := by
  subst h
  exact ⟨toBeBytes_beNat out, beNat_lt out⟩

/-! ### Fields -/

section Fields

variable {bytes out : Bytes} {offset len n : ℕ}

theorem drop_of_slice (h : slice bytes offset len = some out) :
    bytes.drop offset = out ++ bytes.drop (offset + len) := by
  unfold slice at h
  split_ifs at h with hlen
  cases h
  rw [← drop_drop, take_append_drop]

theorem readU32Be_eq_ok (h : readU32Be bytes offset = .ok n) :
    n < 2 ^ 32 ∧ bytes.drop offset = toBeBytes 4 n ++ bytes.drop (offset + 4) := by
  simp only [readU32Be, bind_eq_ok, okOr_eq_ok, pure_eq_ok] at h
  obtain ⟨out, hout, rfl⟩ := h
  obtain ⟨hbytes, hlt⟩ := toBeBytes_of_length (slice_length hout)
  rw [hbytes]
  exact ⟨hlt.trans_eq (by norm_num), drop_of_slice hout⟩

theorem readBytes32_eq_ok {x : Bytes32} (h : readBytes32 bytes offset = .ok x) :
    bytes.drop offset = x.bytes ++ bytes.drop (offset + 32) := by
  unfold readBytes32 at h
  split at h
  · next out hout =>
    cases h
    exact drop_of_slice hout
  · cases h

theorem readU256_eq_ok (h : readU256 bytes offset = .ok n) :
    n < 2 ^ 128 ∧ bytes.drop offset = toBeBytes 32 n ++ bytes.drop (offset + 32) := by
  simp only [readU256, bind_eq_ok, okOr_eq_ok, require_eq_ok, pure_eq_ok, exists_const] at h
  obtain ⟨out, hout, hzero, rfl⟩ := h
  have hlen := slice_length hout
  have hvalue : beNat out = beNat (out.drop 16) := by
    conv_lhs => rw [← take_append_drop 16 out, hzero]
    simp [beNat, replicate_succ]
  obtain ⟨-, hlt⟩ := @toBeBytes_of_length (out.drop 16) 16 (by simp [hlen])
  rw [← hvalue, (toBeBytes_of_length hlen).1, hvalue]
  exact ⟨hlt.trans_eq (by norm_num), drop_of_slice hout⟩

theorem drop_eq_field (h : offset + len ≤ bytes.length) :
    bytes.drop offset =
      toBeBytes len (beNat ((bytes.drop offset).take len)) ++ (bytes.drop offset).drop len := by
  have hlen : ((bytes.drop offset).take len).length = len := by
    rw [length_take, length_drop]
    omega
  rw [(toBeBytes_of_length hlen).1, take_append_drop]

theorem exists_readU32Be (bytes : Bytes) (offset : ℕ) (h : offset + 4 ≤ bytes.length) :
    ∃ n, readU32Be bytes offset = .ok n := by
  refine ⟨_, readU32Be_field (drop_eq_field h) ?_⟩
  refine (beNat_lt _).trans_le ((Nat.pow_le_pow_right (by norm_num) (length_take_le 4 _)).trans ?_)
  norm_num

theorem exists_readBytes32 (bytes : Bytes) (offset : ℕ) (h : offset + 32 ≤ bytes.length) :
    ∃ x, readBytes32 bytes offset = .ok x := by
  have hlen : ((bytes.drop offset).take 32).length = 32 := by
    rw [length_take, length_drop]
    omega
  exact ⟨⟨_, hlen⟩, readBytes32_field (take_append_drop 32 _).symm⟩

theorem exists_readU256_iff (h : offset + 32 ≤ bytes.length) :
    (∃ n, readU256 bytes offset = .ok n) ↔ beNat ((bytes.drop offset).take 32) < 2 ^ 128 := by
  constructor
  · rintro ⟨n, hn⟩
    obtain ⟨hlt, hdrop⟩ := readU256_eq_ok hn
    rw [hdrop, take_left' (length_toBeBytes 32 n),
      beNat_toBeBytes (hlt.trans_le (by norm_num))]
    exact hlt
  · exact fun hlt => ⟨_, readU256_field (drop_eq_field h) hlt⟩

end Fields

/-! ### Messages -/

theorem encodeBody_of_parse {bytes : Bytes} {b : ParsedBurnMessageBody}
    (h : parseBurnMessageBody bytes = .ok b) : b.Fits ∧ encodeBody b = bytes := by
  simp only [parseBurnMessageBody, bind_eq_ok, require_eq_ok, pure_eq_ok, exists_const] at h
  obtain ⟨-, _, h0, _, h1, _, h2, _, h3, _, h4, _, h5, _, h6, _, h7, rfl⟩ := h
  obtain ⟨hversion, h0⟩ := readU32Be_eq_ok h0
  obtain ⟨hamount, h3⟩ := readU256_eq_ok h3
  obtain ⟨hmaxFee, h5⟩ := readU256_eq_ok h5
  obtain ⟨hfee, h6⟩ := readU256_eq_ok h6
  obtain ⟨hexpiration, h7⟩ := readU256_eq_ok h7
  refine ⟨⟨hversion, hamount, hmaxFee, hfee, hexpiration⟩, ?_⟩
  rw [encodeBody, ← h7, ← h6, ← h5, ← readBytes32_eq_ok h4, ← h3, ← readBytes32_eq_ok h2,
    ← readBytes32_eq_ok h1, ← h0, drop_zero]

variable {m : ParsedCctpMessage} {e : CorridorMessageExpectations}

theorem encodeMessage_of_parse {bytes : Bytes}
    (h : parseCctpV2Message bytes = .ok m) : m.Fits ∧ encodeMessage m = bytes := by
  simp only [parseCctpV2Message, bind_eq_ok, require_eq_ok, pure_eq_ok, exists_const] at h
  obtain ⟨-, _, h0, _, h1, _, h2, _, h3, _, h4, _, h5, _, h6, _, h7, _, h8, body, h9, rfl⟩ := h
  obtain ⟨hversion, h0⟩ := readU32Be_eq_ok h0
  obtain ⟨hsource, h1⟩ := readU32Be_eq_ok h1
  obtain ⟨hdestination, h2⟩ := readU32Be_eq_ok h2
  obtain ⟨hfinality, h7⟩ := readU32Be_eq_ok h7
  obtain ⟨hexecuted, h8⟩ := readU32Be_eq_ok h8
  obtain ⟨hbody, h9⟩ := encodeBody_of_parse h9
  refine ⟨⟨hversion, hsource, hdestination, hfinality, hexecuted, hbody⟩, ?_⟩
  rw [encodeMessage, h9, ← h8, ← h7, ← readBytes32_eq_ok h6, ← readBytes32_eq_ok h5,
    ← readBytes32_eq_ok h4, ← readBytes32_eq_ok h3, ← h2, ← h1, ← h0, drop_zero]

/-- The message is long enough, and its four amounts are below `2 ^ 128`. -/
def Readable (bytes : Bytes) : Prop :=
  376 ≤ bytes.length ∧
    ∀ offset ∈ [216, 280, 312, 344], beNat ((bytes.drop offset).take 32) < 2 ^ 128

theorem exists_parseBody_iff (bytes : Bytes) :
    (∃ b, parseBurnMessageBody bytes = .ok b) ↔ 228 ≤ bytes.length ∧
      ∀ offset ∈ [68, 132, 164, 196], beNat ((bytes.drop offset).take 32) < 2 ^ 128 := by
  simp only [parseBurnMessageBody, bind_eq_ok, require_eq_ok, pure_eq_ok, exists_const,
    forall_mem_cons, not_mem_nil, false_imp_iff, implies_true, and_true]
  constructor
  · rintro ⟨b, hlen, _, -, _, -, _, -, _, h3, _, -, _, h5, _, h6, _, h7, -⟩
    exact ⟨hlen, (exists_readU256_iff (by omega)).mp ⟨_, h3⟩,
      (exists_readU256_iff (by omega)).mp ⟨_, h5⟩, (exists_readU256_iff (by omega)).mp ⟨_, h6⟩,
      (exists_readU256_iff (by omega)).mp ⟨_, h7⟩⟩
  · rintro ⟨hlen, h3, h5, h6, h7⟩
    obtain ⟨_, h0⟩ := exists_readU32Be bytes 0 (by omega)
    obtain ⟨_, h1⟩ := exists_readBytes32 bytes 4 (by omega)
    obtain ⟨_, h2⟩ := exists_readBytes32 bytes 36 (by omega)
    obtain ⟨_, h3⟩ := (exists_readU256_iff (by omega)).mpr h3
    obtain ⟨_, h4⟩ := exists_readBytes32 bytes 100 (by omega)
    obtain ⟨_, h5⟩ := (exists_readU256_iff (by omega)).mpr h5
    obtain ⟨_, h6⟩ := (exists_readU256_iff (by omega)).mpr h6
    obtain ⟨_, h7⟩ := (exists_readU256_iff (by omega)).mpr h7
    exact ⟨_, hlen, _, h0, _, h1, _, h2, _, h3, _, h4, _, h5, _, h6, _, h7, rfl⟩

theorem exists_parse_iff (bytes : Bytes) :
    (∃ m, parseCctpV2Message bytes = .ok m) ↔ Readable bytes := by
  have hbody := exists_parseBody_iff (bytes.drop 148)
  simp only [Readable, length_drop, drop_drop, forall_mem_cons, Nat.reduceAdd,
    not_mem_nil, false_imp_iff, implies_true, parseCctpV2Message, bind_eq_ok, require_eq_ok,
    pure_eq_ok, exists_const] at hbody ⊢
  constructor
  · rintro ⟨m, -, _, -, _, -, _, -, _, -, _, -, _, -, _, -, _, -, _, -, b, h, -⟩
    obtain ⟨hlen, hwords⟩ := hbody.mp ⟨b, h⟩
    exact ⟨by omega, hwords⟩
  · rintro ⟨hlen, hwords⟩
    obtain ⟨_, h0⟩ := exists_readU32Be bytes 0 (by omega)
    obtain ⟨_, h1⟩ := exists_readU32Be bytes 4 (by omega)
    obtain ⟨_, h2⟩ := exists_readU32Be bytes 8 (by omega)
    obtain ⟨_, h3⟩ := exists_readBytes32 bytes 12 (by omega)
    obtain ⟨_, h4⟩ := exists_readBytes32 bytes 44 (by omega)
    obtain ⟨_, h5⟩ := exists_readBytes32 bytes 76 (by omega)
    obtain ⟨_, h6⟩ := exists_readBytes32 bytes 108 (by omega)
    obtain ⟨_, h7⟩ := exists_readU32Be bytes 140 (by omega)
    obtain ⟨_, h8⟩ := exists_readU32Be bytes 144 (by omega)
    obtain ⟨_, h9⟩ := hbody.mpr ⟨by omega, hwords⟩
    have hheader : MESSAGE_HEADER_LEN ≤ bytes.length := by
      unfold MESSAGE_HEADER_LEN
      omega
    exact ⟨_, hheader, _, h0, _, h1, _, h2, _, h3, _, h4, _, h5, _, h6, _, h7, _, h8, _, h9, rfl⟩

/-! ### Expectations -/

/-- Every field that is compared is as expected, and the message is as final as it has to be. -/
structure CorridorMessageExpectations.Agrees (e : CorridorMessageExpectations)
    (m : ParsedCctpMessage) : Prop where
  sourceDomain : m.sourceDomain = e.sourceDomain
  destinationDomain : m.destinationDomain = e.destinationDomain
  recipient : m.recipient = e.headerRecipient
  sender : m.sender = e.headerSender
  burnToken : m.body.burnToken = e.burnToken
  mintRecipient : m.body.mintRecipient = e.mintRecipient
  messageSender : m.body.messageSender = e.bodyMessageSender
  destinationCaller : m.destinationCaller = e.destinationCaller
  amount : m.body.amount = e.amountCctpSubunits
  tier : normalizeFinality m.minFinalityThreshold = normalizeFinality e.minFinality
  executed : normalizeFinality e.minFinality ≤ m.finalityThresholdExecuted
  hookData : hookDataExpected e m.body.hookData

/-- The message is read from the text, agrees, and its hook data is within the limit. -/
def Accepts (raw : String) (e : CorridorMessageExpectations) (m : ParsedCctpMessage) : Prop :=
  ∃ bytes, decodeHexMessage raw = .ok bytes ∧ parseCctpV2Message bytes = .ok m ∧ e.Agrees m ∧
    m.body.hookData.length ≤ MAX_HOOK_DATA_BYTES

theorem validate_eq_ok_iff {raw : String} :
    validateMessageForCorridor raw e = .ok m ↔ Accepts raw e m := by
  simp only [validateMessageForCorridor, bind_eq_ok, mapError_eq_ok, require_eq_ok, pure_eq_ok,
    exists_const]
  constructor
  · rintro ⟨bytes, hdecode, -, m, hparse, h1, h2, h3, h4, h5, h6, h7, h8, h9, htier, hexecuted, hlen,
      hhook, rfl⟩
    exact ⟨bytes, hdecode, hparse, ⟨h1, h2, h3, h4, h5, h6, h7, h8, h9, htier, htier ▸ hexecuted,
      hhook⟩, hlen⟩
  · rintro ⟨bytes, hdecode, hparse, h, hlen⟩
    -- with its hook data within the limit the whole message is
    have hbytes : bytes.length ≤ MAX_RAW_MESSAGE_BYTES := by
      rw [← (encodeMessage_of_parse hparse).2, length_encodeMessage]
      simp only [MAX_HOOK_DATA_BYTES, MAX_RAW_MESSAGE_BYTES] at hlen ⊢
      omega
    exact ⟨bytes, hdecode, hbytes, m, hparse, h.1, h.2, h.3, h.4, h.5, h.6, h.7, h.8, h.9, h.10,
      h.10 ▸ h.11, hlen, h.12, rfl⟩

theorem hookData_unique {hook hook' : Bytes}
    (h : hookDataExpected e hook) (h' : hookDataExpected e hook') : hook = hook' := by
  unfold hookDataExpected at h h'
  split_ifs at h h'
  · rw [isEmpty_iff.mp h, isEmpty_iff.mp h']
  · split at h <;> simp_all

/-- The message without its versions, nonce, finality, fees and expiration. -/
def ParsedCctpMessage.compared (m : ParsedCctpMessage) : ParsedCctpMessage :=
  { m with
    version := 0, nonce := zero32, minFinalityThreshold := 0, finalityThresholdExecuted := 0
    body := { m.body with version := 0, maxFee := 0, feeExecuted := 0, expirationBlock := 0 } }

/-- A message is read exactly when it is long enough and its amounts fit, and nothing of it is lost.
It is accepted exactly when it agrees with the expectations and its hook data is within the limit,
and two messages that are accepted do not differ in what is compared. -/
theorem message_accepted_exactly (bytes : Bytes) (raw raw' : String)
    (e : CorridorMessageExpectations) (m m' : ParsedCctpMessage) :
    ((∃ m, parseCctpV2Message bytes = .ok m) ↔ Readable bytes) ∧
    (parseCctpV2Message bytes = .ok m → encodeMessage m = bytes) ∧
    (validateMessageForCorridor raw e = .ok m ↔ Accepts raw e m) ∧
    (validateMessageForCorridor raw e = .ok m → validateMessageForCorridor raw' e = .ok m' →
      m.compared = m'.compared) := by
  refine ⟨exists_parse_iff bytes, fun h => (encodeMessage_of_parse h).2, validate_eq_ok_iff, ?_⟩
  intro h h'
  obtain ⟨-, -, -, h, -⟩ := validate_eq_ok_iff.mp h
  obtain ⟨-, -, -, h', -⟩ := validate_eq_ok_iff.mp h'
  have hhook := hookData_unique h.hookData h'.hookData
  simp only [ParsedCctpMessage.compared, h.1, h.2, h.3, h.4, h.5, h.6, h.7, h.8, h.9, hhook, h'.1,
    h'.2, h'.3, h'.4, h'.5, h'.6, h'.7, h'.8, h'.9]

def longHook : CorridorMessageExpectations :=
  ⟨0, 27, zero32, zero32, zero32, zero32, zero32, 1, FINALITY_STANDARD, zero32,
    some (List.replicate 4097 0), false⟩

/-- The message agrees with the expectations in every field, and is refused. -/
theorem long_hook_refused : ∃ raw bytes m, decodeHexMessage raw = .ok bytes ∧
    parseCctpV2Message bytes = .ok m ∧ longHook.Agrees m ∧
      validateMessageForCorridor raw longHook ≠ .ok m := by
  have hfits : (messageFor longHook).Fits :=
    ⟨by decide, by decide, by decide, by decide, by decide, by decide, by decide, by decide, by decide,
      by decide⟩
  refine ⟨_, _, _, decodeHexMessage_hexEncode _, parse_encodeMessage hfits, ?_, ?_⟩
  · exact ⟨rfl, rfl, rfl, rfl, rfl, rfl, rfl, rfl, rfl, rfl, normalizeFinality_le _,
      hookDataExpected_messageFor nofun⟩
  · intro h
    obtain ⟨-, -, -, -, hlen⟩ := validate_eq_ok_iff.mp h
    have hlong : (messageFor longHook).body.hookData.length = 4097 := length_replicate
    rw [hlong] at hlen
    exact absurd hlen (by decide)

end StellarRoute.Cctp
