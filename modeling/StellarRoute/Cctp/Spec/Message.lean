import StellarRoute.Lib.Hex
import StellarRoute.Cctp.Spec.Codec

/-! Amounts and addresses on the wire (`encoding.rs`, `stellar_muxed.rs`), the
validation of a quote request (`v2_cctp.rs`), the raw CCTP v2 message
(`message.rs`) and what a transfer expects of its message and of its burn
(`expectations.rs`). The contract addresses are the ones of `config.rs`; the
environment does not override them. -/

namespace StellarRoute.Cctp

open Lib

def CCTP_PROVIDER_ID : String := "circle-cctp"
def CCTP_TESTNET_CORRIDOR_ID : String := "circle-cctp:usdc:stellar-testnet:ethereum-sepolia"
def STELLAR_TESTNET_CHAIN_ID : String := "stellar:testnet"
def SEPOLIA_CHAIN_ID : String := "eip155:11155111"
def STELLAR_TESTNET_USDC_ASSET : String :=
  "erc20:CBIELTK6YBZJU5UP2WWQEUCYKLPU6AUNZ2BQ4WWFEIE3USCIHMXQDAMA"
def STELLAR_TESTNET_USDC_CANONICAL : String :=
  "stellar:testnet/erc20:CBIELTK6YBZJU5UP2WWQEUCYKLPU6AUNZ2BQ4WWFEIE3USCIHMXQDAMA"
def SEPOLIA_USDC_ASSET : String := "erc20:0x1c7d4b196cb0c7b01d743fbc6116a902379c7238"
def SEPOLIA_USDC_CANONICAL : String :=
  "eip155:11155111/erc20:0x1c7d4b196cb0c7b01d743fbc6116a902379c7238"

def STELLAR_TESTNET_DOMAIN : ℕ := 27
def SEPOLIA_DOMAIN : ℕ := 0
def STELLAR_TOKEN_MESSENGER : String := "CDNG7HXAPBWICI2E3AUBP3YZWZELJLYSB6F5CC7WLDTLTHVM74SLRTHP"
def STELLAR_MESSAGE_TRANSMITTER : String :=
  "CBJ6MTCKKZG73PMDZCJMSFRD7DQEMI4FKDH7CGDSV4W6FHCRBCQAVVJY"
def STELLAR_CCTP_FORWARDER : String := "CA66Q2WFBND6V4UEB7RD4SAXSVIWMD6RA4X3U32ELVFGXV5PJK4T4VSZ"
def STELLAR_USDC_CONTRACT : String := "CBIELTK6YBZJU5UP2WWQEUCYKLPU6AUNZ2BQ4WWFEIE3USCIHMXQDAMA"
def SEPOLIA_TOKEN_MESSENGER : String := "0x8FE6B999Dc680CcFDD5Bf7EB0974218be2542DAA"
def SEPOLIA_MESSAGE_TRANSMITTER : String := "0xE737e5cEBEEBa77EFE34D4aa090756590b1CE275"
def SEPOLIA_USDC : String := "0x1c7d4b196cb0c7b01d743fbc6116a902379c7238"

def FINALITY_STANDARD : ℕ := 2000
def FINALITY_FAST : ℕ := 1000
def MAX_RAW_MESSAGE_BYTES : ℕ := 8192
def MAX_ATTESTATION_BYTES : ℕ := 8192
def MAX_HOOK_DATA_BYTES : ℕ := 4096
def MAX_MESSAGE_NONCE_LEN : ℕ := 128
def MAX_TX_HASH_LEN : ℕ := 66
def MESSAGE_HEADER_LEN : ℕ := 148

def corridorMinFinality : CctpFinality → ℕ
  | .standard => FINALITY_STANDARD
  | .fast => FINALITY_FAST

inductive EncodingError where
  | invalidEvmAddress (address : String)
  | invalidStellarContract (strkey : String)
  | invalidStellarAccount (address : String)
  | amountOverflow
  | stellarRemainder (rem : String)
  | invalidHookData
deriving DecidableEq

def EncodingError.display : EncodingError → String
  | .invalidEvmAddress address => s!"invalid EVM address: {address}"
  | .invalidStellarContract strkey => s!"invalid Stellar contract strkey: {strkey}"
  | .invalidStellarAccount address => s!"invalid Stellar G-address: {address}"
  | .amountOverflow => "amount overflow"
  | .stellarRemainder rem => s!"amount has non-zero 7th decimal remainder: {rem}"
  | .invalidHookData => "invalid hook data"

/-! ### Amounts -/

/-- Digits with at most one `.`; no sign, exponent or white space, and not zero. -/
def isValidPositiveDecimalAmount (amount : String) : Bool :=
  let digits (s : String) : Bool := !s.isEmpty && s.toList.all Char.isDigit
  let whole := (splitOnce amount '.').elim amount (·.1)
  digits whole && !(byteLen whole > 1 && whole.toList.head? == some '0') &&
    match splitOnce amount '.' with
    | none => whole ≠ "0"
    | some (_, fraction) =>
      digits fraction && !(whole == "0" && fraction.toList.all (· == '0'))

def splitDecimal (amount : String) : Except EncodingError (String × String) :=
  match splitOnce amount '.' with
  | none => .ok (amount, "")
  | some (whole, fraction) =>
    if fraction.toList.contains '.' then .error .amountOverflow else .ok (whole, fraction)

def padFraction (fraction : String) (width : ℕ) : String :=
  String.ofList ((fraction.toList ++ List.replicate width '0').take width)

def parseDecimalToSubunits (amount : String) (scale : ℕ) : Except EncodingError ℕ := do
  let (whole, fraction) ← splitDecimal amount
  okOr (parseDecimal (2 ^ 128) (whole ++ padFraction fraction scale)) .amountOverflow

def decimalToCctpSubunits (amount : String) : Except EncodingError ℕ :=
  parseDecimalToSubunits amount 6

def cctpSubunitsToStellarSubunits (cctp : ℕ) : Except EncodingError ℕ := do
  require (cctp * 10 < 2 ^ 128) .amountOverflow
  pure (cctp * 10)

/-- What is burned, and the seventh decimal that stays on the source account. -/
def stellarOutboundCctpAmount (amount7dp : String) : Except EncodingError (ℕ × Option String) := do
  let (whole, fraction) ← splitDecimal amount7dp
  let frac7 := (padFraction fraction 7).toList
  let remainderDigit := frac7.getD 6 '0'
  let cctp ← parseDecimalToSubunits (whole ++ "." ++ String.ofList (frac7.take 6)) 6
  pure (cctp, if remainderDigit ≠ '0' then some ("0.000000".push remainderDigit) else none)

def stellarOutboundCctpAmountStrict (amount7dp : String) : Except EncodingError ℕ := do
  let (cctp, rem) ← stellarOutboundCctpAmount amount7dp
  match rem with
  | some digit => .error (.stellarRemainder digit)
  | none => pure cctp

def stellarLocalToCanonicalAmount (local_ : ℤ) : Except EncodingError ℤ := do
  require (0 < local_) .amountOverflow
  require (local_ % 10 = 0) (.stellarRemainder (toString local_))
  pure (local_ / 10)

def stellarLocalToCanonicalAmountAllowZero (local_ : ℤ) : Except EncodingError ℤ :=
  if local_ = 0 then pure 0 else stellarLocalToCanonicalAmount local_

def formatStellarAmount (subunits : ℕ) : String :=
  let frac := (Nat.toDigits 10 (subunits % 10000000))
  s!"{subunits / 10000000}." ++ String.ofList (List.replicate (7 - frac.length) '0' ++ frac)

/-! ### Addresses -/

def isValidEvmAddress (address : String) : Bool :=
  let trimmed := trim address
  byteLen trimmed = 42 && trimmed.toList.take 2 = ['0', 'x'] &&
    (trimmed.toList.drop 2).all isAsciiHexdigit

/-- The address behind twelve zero bytes. -/
def leftPad (address : EvmAddress) : Bytes32 :=
  ⟨List.replicate 12 0 ++ address.bytes, by simp [address.length_eq]⟩

def parseEvmAddress (address : String) : Option EvmAddress :=
  match hexDecode (strip0x (trim address)) with
  | some bytes => if h : bytes.length = 20 then some ⟨bytes, h⟩ else none
  | none => none

def evmAddressToBytes32 (address : String) : Except EncodingError Bytes32 := do
  require (isValidEvmAddress address) (.invalidEvmAddress address)
  let parsed ← okOr (parseEvmAddress address) (.invalidEvmAddress address)
  pure (leftPad parsed)

/-- `0x` and forty digits in lower case. -/
def EvmAddress.format (address : EvmAddress) : String := "0x" ++ hexEncode address.bytes

variable (c : Codec)

def stellarContractToBytes32 (strkey : String) : Except EncodingError Bytes32 :=
  okOr (c.contractFromString (trim strkey)) (.invalidStellarContract strkey)

def stellarAccountToBytes32 (gAddress : String) : Except EncodingError Bytes32 :=
  okOr (c.accountFromString (trim gAddress)) (.invalidStellarAccount gAddress)

inductive StellarRecipientKey where
  | account (key : Bytes32)
  | muxed (key : Bytes32) (id : ℕ)
  | contract (id : Bytes32)
deriving DecidableEq

def StellarRecipientKey.toStrkey : StellarRecipientKey → String
  | .account key => c.accountToString key
  | .muxed key id => c.muxedToString key id
  | .contract id => c.contractToString id

def parseRecipientStrkey (s : String) : Except VerifierError StellarRecipientKey :=
  match c.accountFromString (trim s), c.muxedFromString (trim s), c.contractFromString (trim s) with
  | some key, _, _ => .ok (.account key)
  | none, some (key, id), _ => .ok (.muxed key id)
  | none, none, some id => .ok (.contract id)
  | none, none, none => .error (.failed "invalid recipient strkey")

def isValidStellarRecipient (address : String) : Bool :=
  match parseRecipientStrkey c address with
  | .ok (.account _) | .ok (.muxed _ _) => true
  | _ => false

def isValidStellarAccount (address : String) : Bool := (c.accountFromString (trim address)).isSome

def isValidTxHash (txHash : String) : Bool :=
  let hex := strip0x (trim txHash)
  byteLen hex = 64 && hex.toList.all isAsciiHexdigit

/-- The bytes of `n` on `k` places, the highest first. -/
def toBeBytes (k n : ℕ) : Bytes :=
  (List.range k).map fun i => UInt8.ofNat (n / 256 ^ (k - 1 - i) % 256)

/-- 24 zero bytes, the version 0, the length and the text of the recipient key. -/
def buildForwarderHookDataRecipient (recipient : String) : Except EncodingError Bytes := do
  match parseRecipientStrkey c recipient with
  | .error _ => .error (.invalidStellarAccount recipient)
  | .ok (.contract _) => .error .invalidHookData
  | .ok key =>
    let text := (key.toStrkey c).toUTF8.toList
    pure (List.replicate 24 0 ++ toBeBytes 4 0 ++ toBeBytes 4 text.length ++ text)

/-! ### Quote requests -/

def assetMatchesFrozen (asset : CctpChainAsset) (chainId assetId canonical : String) : Bool :=
  asset.chainId = chainId && asset.asset = assetId && asset.canonical = canonical

def CctpQuoteRequest.validate (r : CctpQuoteRequest) : Except CctpValidationError Unit := do
  require (r.corridorId = CCTP_TESTNET_CORRIDOR_ID ∧ r.provider = CCTP_PROVIDER_ID)
    .unsupportedCorridor
  let stellar := (STELLAR_TESTNET_CHAIN_ID, STELLAR_TESTNET_USDC_ASSET,
    STELLAR_TESTNET_USDC_CANONICAL)
  let sepolia := (SEPOLIA_CHAIN_ID, SEPOLIA_USDC_ASSET, SEPOLIA_USDC_CANONICAL)
  let (source, destination) := match r.direction with
    | .stellarToEvm => (stellar, sepolia)
    | .evmToStellar => (sepolia, stellar)
  require (r.sourceChainId = source.1 ∧ r.destinationChainId = destination.1 ∧
    assetMatchesFrozen r.sourceAsset source.1 source.2.1 source.2.2 ∧
    assetMatchesFrozen r.destinationAsset destination.1 destination.2.1 destination.2.2)
    .unsupportedCorridor
  require (isValidPositiveDecimalAmount r.amount) .invalidAmount
  match r.direction with
  | .stellarToEvm =>
    require (isValidEvmAddress r.recipient) .invalidRecipient
    let sender ← okOr r.sender .invalidSender
    require (isValidStellarAccount c sender) .invalidSender
  | .evmToStellar =>
    require (isValidStellarRecipient c r.recipient) .invalidRecipient
    let sender ← okOr r.sender .invalidSender
    require (isValidEvmAddress sender) .invalidSender
    let submitter ← okOr r.mintSubmitter .invalidMintSubmitter
    require (isValidStellarAccount c submitter) .invalidMintSubmitter

/-! ### Messages -/

inductive MessageParseError where
  | tooShort
  | invalidHex
  | bodyTooShort
  | overflow
deriving DecidableEq

def MessageParseError.display : MessageParseError → String
  | .tooShort => "too short"
  | .invalidHex => "invalid hex"
  | .bodyTooShort => "body too short"
  | .overflow => "overflow"

structure ParsedBurnMessageBody where
  version : ℕ
  burnToken : Bytes32
  mintRecipient : Bytes32
  amount : ℕ
  messageSender : Bytes32
  maxFee : ℕ
  feeExecuted : ℕ
  expirationBlock : ℕ
  hookData : Bytes
deriving DecidableEq

structure ParsedCctpMessage where
  version : ℕ
  sourceDomain : ℕ
  destinationDomain : ℕ
  nonce : Bytes32
  sender : Bytes32
  recipient : Bytes32
  destinationCaller : Bytes32
  minFinalityThreshold : ℕ
  finalityThresholdExecuted : ℕ
  body : ParsedBurnMessageBody
deriving DecidableEq

def decodeHexMessage (raw : String) : Except MessageParseError Bytes :=
  okOr (hexDecode (strip0x (trim raw))) .invalidHex

def readU32Be (bytes : Bytes) (offset : ℕ) : Except MessageParseError ℕ := do
  pure (beNat (← okOr (slice bytes offset 4) .tooShort))

def readBytes32 (bytes : Bytes) (offset : ℕ) : Except MessageParseError Bytes32 :=
  match h : slice bytes offset 32 with
  | some out => .ok ⟨out, slice_length h⟩
  | none => .error .tooShort

/-- Only amounts below `2^128` are read. -/
def readU256 (bytes : Bytes) (offset : ℕ) : Except MessageParseError ℕ := do
  let out ← okOr (slice bytes offset 32) .tooShort
  require (out.take 16 = List.replicate 16 0) .overflow
  pure (beNat (out.drop 16))

def parseBurnMessageBody (bytes : Bytes) : Except MessageParseError ParsedBurnMessageBody := do
  require (228 ≤ bytes.length) .bodyTooShort
  let version ← readU32Be bytes 0
  let burnToken ← readBytes32 bytes 4
  let mintRecipient ← readBytes32 bytes 36
  let amount ← readU256 bytes 68
  let messageSender ← readBytes32 bytes 100
  let maxFee ← readU256 bytes 132
  let feeExecuted ← readU256 bytes 164
  let expirationBlock ← readU256 bytes 196
  pure { version, burnToken, mintRecipient, amount, messageSender, maxFee, feeExecuted,
         expirationBlock, hookData := bytes.drop 228 }

def parseCctpV2Message (bytes : Bytes) : Except MessageParseError ParsedCctpMessage := do
  require (MESSAGE_HEADER_LEN ≤ bytes.length) .tooShort
  let version ← readU32Be bytes 0
  let sourceDomain ← readU32Be bytes 4
  let destinationDomain ← readU32Be bytes 8
  let nonce ← readBytes32 bytes 12
  let sender ← readBytes32 bytes 44
  let recipient ← readBytes32 bytes 76
  let destinationCaller ← readBytes32 bytes 108
  let minFinalityThreshold ← readU32Be bytes 140
  let finalityThresholdExecuted ← readU32Be bytes 144
  let body ← parseBurnMessageBody (bytes.drop 148)
  pure { version, sourceDomain, destinationDomain, nonce, sender, recipient, destinationCaller,
         minFinalityThreshold, finalityThresholdExecuted, body }

structure CorridorMessageExpectations where
  sourceDomain : ℕ
  destinationDomain : ℕ
  headerRecipient : Bytes32
  headerSender : Bytes32
  burnToken : Bytes32
  mintRecipient : Bytes32
  destinationCaller : Bytes32
  amountCctpSubunits : ℕ
  minFinality : ℕ
  bodyMessageSender : Bytes32
  hookData : Option Bytes
  hookDataRequiredEmpty : Bool
deriving DecidableEq

inductive MessageValidationError where
  | parse (e : MessageParseError)
  | wrongSourceDomain
  | wrongDestinationDomain
  | wrongHeaderRecipient
  | wrongHeaderSender
  | wrongBurnToken
  | wrongMintRecipient
  | wrongDestinationCaller
  | wrongAmount
  | wrongFinality
  | wrongMessageSender
  | wrongHookData
  | finalityNotExecuted
  | hookDataTooLarge
deriving DecidableEq

def MessageValidationError.display : MessageValidationError → String
  | .parse e => "parse: " ++ e.display
  | .wrongSourceDomain => "wrong source domain"
  | .wrongDestinationDomain => "wrong destination domain"
  | .wrongHeaderRecipient => "wrong header recipient"
  | .wrongHeaderSender => "wrong header sender"
  | .wrongBurnToken => "wrong burn token"
  | .wrongMintRecipient => "wrong mint recipient"
  | .wrongDestinationCaller => "wrong destination caller"
  | .wrongAmount => "wrong amount"
  | .wrongFinality => "wrong finality"
  | .wrongMessageSender => "wrong message sender"
  | .wrongHookData => "wrong hook data"
  | .finalityNotExecuted => "finality not executed"
  | .hookDataTooLarge => "hook data too large"

def normalizeFinality (threshold : ℕ) : ℕ :=
  if threshold ≤ FINALITY_FAST then FINALITY_FAST else FINALITY_STANDARD

def hookDataExpected (expected : CorridorMessageExpectations) (hookData : Bytes) : Bool :=
  if expected.hookDataRequiredEmpty then hookData.isEmpty
  else match expected.hookData with
    | some hook => hookData = hook
    | none => hookData.isEmpty

def validateMessageForCorridor (rawHex : String) (expected : CorridorMessageExpectations) :
    Except MessageValidationError ParsedCctpMessage := do
  let bytes ← (decodeHexMessage rawHex).mapError .parse
  require (bytes.length ≤ MAX_RAW_MESSAGE_BYTES) (.parse .tooShort)
  let parsed ← (parseCctpV2Message bytes).mapError .parse
  require (parsed.sourceDomain = expected.sourceDomain) .wrongSourceDomain
  require (parsed.destinationDomain = expected.destinationDomain) .wrongDestinationDomain
  require (parsed.recipient = expected.headerRecipient) .wrongHeaderRecipient
  require (parsed.sender = expected.headerSender) .wrongHeaderSender
  require (parsed.body.burnToken = expected.burnToken) .wrongBurnToken
  require (parsed.body.mintRecipient = expected.mintRecipient) .wrongMintRecipient
  require (parsed.body.messageSender = expected.bodyMessageSender) .wrongMessageSender
  require (parsed.destinationCaller = expected.destinationCaller) .wrongDestinationCaller
  require (parsed.body.amount = expected.amountCctpSubunits) .wrongAmount
  require (normalizeFinality parsed.minFinalityThreshold = normalizeFinality expected.minFinality)
    .wrongFinality
  require (normalizeFinality parsed.minFinalityThreshold ≤ parsed.finalityThresholdExecuted)
    .finalityNotExecuted
  require (parsed.body.hookData.length ≤ MAX_HOOK_DATA_BYTES) .hookDataTooLarge
  require (hookDataExpected expected parsed.body.hookData) .wrongHookData
  pure parsed

/-! ### Expectations -/

/-- `ExpectationError::Encoding`; the other variant is never built. -/
structure ExpectationError where
  encoding : String
deriving DecidableEq

def ExpectationError.display (e : ExpectationError) : String := "encoding: " ++ e.encoding

/-- Any address may call `receive_message` on the destination. -/
def ANY_DESTINATION_CALLER : Bytes32 := zero32

def expect {α : Type} (x : Except EncodingError α) : Except ExpectationError α :=
  x.mapError fun e => ⟨e.display⟩

def amountCctpSubunits (t : CctpTransfer) : Except ExpectationError ℕ :=
  match t.direction with
  | .stellarToEvm => do
    let (amt, _) ← expect (stellarOutboundCctpAmount t.amount)
    pure amt
  | .evmToStellar => expect (decimalToCctpSubunits t.amount)

def bodyMessageSender (t : CctpTransfer) (direction : CctpDirection) :
    Except ExpectationError Bytes32 :=
  match direction with
  | .stellarToEvm =>
    if t.sender.isEmpty then pure zero32 else expect (stellarAccountToBytes32 c t.sender)
  | .evmToStellar =>
    if t.sender.isEmpty then pure zero32 else expect (evmAddressToBytes32 t.sender)

def buildCorridorExpectations (t : CctpTransfer) :
    Except ExpectationError CorridorMessageExpectations := do
  let amount ← amountCctpSubunits t
  match t.direction with
  | .stellarToEvm =>
    let burnToken ← expect (stellarContractToBytes32 c STELLAR_USDC_CONTRACT)
    let mintRecipient ← expect (evmAddressToBytes32 t.recipient)
    let bodySender ← bodyMessageSender c t .stellarToEvm
    let headerRecipient ← expect (evmAddressToBytes32 SEPOLIA_TOKEN_MESSENGER)
    let headerSender ← expect (stellarContractToBytes32 c STELLAR_TOKEN_MESSENGER)
    pure { sourceDomain := STELLAR_TESTNET_DOMAIN, destinationDomain := SEPOLIA_DOMAIN,
           headerRecipient, headerSender, burnToken, mintRecipient,
           destinationCaller := ANY_DESTINATION_CALLER, amountCctpSubunits := amount,
           minFinality := corridorMinFinality t.finality, bodyMessageSender := bodySender,
           hookData := none, hookDataRequiredEmpty := true }
  | .evmToStellar =>
    let burnToken ← expect (evmAddressToBytes32 SEPOLIA_USDC)
    let forwarder ← expect (stellarContractToBytes32 c STELLAR_CCTP_FORWARDER)
    let hook ← expect (buildForwarderHookDataRecipient c t.recipient)
    let bodySender ← bodyMessageSender c t .evmToStellar
    let headerRecipient ← expect (stellarContractToBytes32 c STELLAR_TOKEN_MESSENGER)
    let headerSender ← expect (evmAddressToBytes32 SEPOLIA_TOKEN_MESSENGER)
    pure { sourceDomain := SEPOLIA_DOMAIN, destinationDomain := STELLAR_TESTNET_DOMAIN,
           headerRecipient, headerSender, burnToken, mintRecipient := forwarder,
           destinationCaller := forwarder, amountCctpSubunits := amount,
           minFinality := corridorMinFinality t.finality, bodyMessageSender := bodySender,
           hookData := some hook, hookDataRequiredEmpty := false }

def sourceChain : CctpDirection → String × ℕ × ℕ
  | .stellarToEvm => (STELLAR_TESTNET_CHAIN_ID, STELLAR_TESTNET_DOMAIN, SEPOLIA_DOMAIN)
  | .evmToStellar => (SEPOLIA_CHAIN_ID, SEPOLIA_DOMAIN, STELLAR_TESTNET_DOMAIN)

def buildExpectedBurnFacts (t : CctpTransfer) (txHash : String) :
    Except ExpectationError VerifiedBurnFacts := do
  let amount ← amountCctpSubunits t
  let expectations ← buildCorridorExpectations c t
  let (chain, sourceDomain, destinationDomain) := sourceChain t.direction
  let tokenMessenger ← match t.direction with
    | .stellarToEvm => expect (stellarContractToBytes32 c STELLAR_TOKEN_MESSENGER)
    | .evmToStellar => expect (evmAddressToBytes32 SEPOLIA_TOKEN_MESSENGER)
  pure { txHash, sourceChainId := chain, sourceDomain, destinationDomain, sender := t.sender,
         amountCctpSubunits := amount, burnToken := expectations.burnToken,
         mintRecipient := expectations.mintRecipient,
         destinationCaller := expectations.destinationCaller,
         minFinalityThreshold := corridorMinFinality t.finality,
         hookData := expectations.hookData, tokenMessenger, blockOrLedger := none }

end StellarRoute.Cctp
