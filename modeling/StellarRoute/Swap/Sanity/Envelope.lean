import StellarRoute.Swap.Spec.Submit

/-! What a validated envelope is. -/

namespace StellarRoute.Swap

open Lib Lib.Interleave

variable {Body : Type} (stellar : Stellar Body)

/-- The text is an envelope of `tx` with one signature, which is the account's over the hash of
`tx` on the network, and `txHash` is that hash. -/
def SignedBy (account networkPassphrase : String) (tx : Transaction Body) (txHash xdr : String) :
    Prop :=
  ∃ decorated key hash, stellar.fromXdrBase64 xdr = .ok (.tx tx [decorated]) ∧
    stellar.publicKeyFromString account = some key ∧
    stellar.transactionHash tx networkPassphrase = .ok hash ∧
    stellar.verify key hash decorated.signature = true ∧ txHash = hexEncode hash

variable {stellar}

theorem hashXdr_injective : Function.Injective stellar.hashXdr := fun _ _ h =>
  utf8_injective (stellar.sha256_injective (hexEncode_injective h))

variable {decorated : DecoratedSignature} {signatures : List DecoratedSignature} {account : String}

theorem onlySignature_eq_ok
    (h : Stellar.onlySignature signatures = .ok decorated) : signatures = [decorated] := by
  unfold Stellar.onlySignature at h
  split at h
  · cases h
  · cases h
    rfl
  · cases h

theorem expectTx_eq_ok {envelope : TransactionEnvelope Body} {tx : Transaction Body}
    (h : Stellar.expectTx envelope = .ok (tx, signatures)) : envelope = .tx tx signatures := by
  cases envelope with
  | tx tx' signatures' =>
    cases h
    rfl
  | other => cases h

/-- What the transaction of an accepted envelope is: by its hash, the prepared one. -/
theorem validate_eq_ok {signedXdr unsignedXdrHash networkPassphrase txHash : String}
    (h : stellar.validateSignedAgainstPrepared signedXdr unsignedXdrHash account networkPassphrase =
      .ok txHash) {tx : Transaction Body} {xdr : String} (hxdr : stellar.toXdrBase64 tx [] = .ok xdr)
    (hhash : stellar.hashXdr xdr = unsignedXdrHash) :
    SignedBy stellar (trim account) networkPassphrase tx txHash (trim signedXdr) := by
  simp only [Stellar.validateSignedAgainstPrepared, bind_eq_ok, require_eq_ok,
    mapError_eq_ok] at h
  obtain ⟨envelope, henv, ⟨tx', signatures⟩, htx, decorated, hsig, source, -, -, -, recomputed, hrec,
    -, hsame, hash, hhash', _, hcheck, hret⟩ := h
  dsimp only at hsig hhash' hrec
  obtain rfl : xdr = recomputed := hashXdr_injective (hhash.trans hsame.symm)
  obtain ⟨rfl, -⟩ := stellar.toXdr_injective _ _ _ _ _ hxdr hrec
  simp only [Stellar.checkSignature, bind_eq_ok, require_eq_ok, okOr_eq_ok] at hcheck
  obtain ⟨key, hkey, -, -, -, -, -, -, hverify⟩ := hcheck
  rw [expectTx_eq_ok htx, onlySignature_eq_ok hsig] at henv
  cases hret
  exact ⟨decorated, key, hash, henv, hkey, hhash', hverify, rfl⟩

/-! ### A network with one transaction

Envelopes are words here. The hashes and the signature are those of SHA-256 and Ed25519. -/

namespace Sample

def bytes (len n : ℕ) : List UInt8 := (List.range len).reverse.map fun i => UInt8.ofNat (n >>> (8 * i))

def key : List UInt8 := bytes 32 0x3b6a27bcceb6a42d62a3a8d02a6f0d73653215771de243a63ac048a18b59da29

def sender : String := "GA5WUJ54Z23KILLCUOUNAKTPBVZWKMQVO4O6EQ5GHLAERIMLLHNCSKYH"

def tx : Transaction Unit := ⟨.ed25519 key, ()⟩

/-- The transaction has the fee 100, the sequence number 1 and the time limit 300. -/
def payload (networkId : List UInt8) : List UInt8 :=
  networkId ++ bytes 8 0x0000000200000000 ++ key ++
    bytes 44 (100 <<< 320 + 1 <<< 256 + 1 <<< 224 + 300 <<< 96)

def networkId : List UInt8 :=
  bytes 32 0xcee0302d59844d32bdca915c8203dd44b33fbb7edc19051ea37abedf28ecd472

def payloadHash : List UInt8 :=
  bytes 32 0x14d618137d862311df992f229bd217a0cf0f8a499a1975b5055a718846b2584a

def signature : DecoratedSignature := ⟨key.drop 28,
  bytes 32 0x776ef9907be088baa391df0474f473fbcc56ae3c8f0a064dbdc07dbb44b21669 ++
    bytes 32 0x4873bccc7e04edef3cac966e6f03138f2d49400190ae715832d74b59120c160a⟩

def sha256 : Equiv.Perm (List UInt8) :=
  Equiv.swap (utf8 "Test SDF Network ; September 2015") networkId *
    Equiv.swap (payload networkId) payloadHash *
    Equiv.swap (utf8 "unsigned")
      (bytes 32 0xceffe727ab2fa2c7c3322ee4a1aa0c2d2a4664836c2133df93dd15055bb617be) *
    Equiv.swap (utf8 "signedTx")
      (bytes 32 0x6a31b63811f883aa6579a8785c94c60ae87ef7af99585f73ffda49c1344daa25)

def toXdrBase64 (tx' : Transaction Unit) (sigs : List DecoratedSignature) : Except String String :=
  if tx' ≠ tx then .error "another transaction"
  else if sigs = [] then .ok "unsigned"
  else if sigs = [signature] then .ok "signedTx"
  else .error "other signatures"

def fromXdrBase64 (xdr : String) : Except String (TransactionEnvelope Unit) :=
  if xdr = "signedTx" then .ok (.tx tx [signature])
  else if xdr = "unsigned" then .ok (.tx tx [])
  else .error "invalid"

def network : Stellar Unit where
  isBase64 text := text = "unsigned" || text = "signedTx"
  fromXdrBase64 := fromXdrBase64
  toXdrBase64 := toXdrBase64
  signaturePayload networkId _ := .ok (payload networkId)
  sha256 := sha256
  publicKeyToString key' := if key' = key then sender else ""
  publicKeyFromString text := if text = sender then some key else none
  isVerifyingKey key' := key' = key
  verify key' message sig := key' = key && message = payloadHash && sig = signature.signature
  toXdr_injective := by
    intro tx' sigs tx'' sigs' xdr h h'
    unfold toXdrBase64 at h h'
    split_ifs at h h' with htx hnil hone htx' hnil' hone'
    all_goals cases h
    all_goals simp_all
  sha256_injective := sha256.injective

def plan : Plan Unit where
  tx := tx
  networkPassphrase := "Test SDF Network ; September 2015"
  sourceSequence := 1
  timeboundsMax := 300
  baseFee := 100
  timeoutSecs := 300
  expectedOutput := "98.0000000"
  minOutput := "97.0000000"
  amountIn := "100.0000000"
  routeDigest := "route"
  priceDigest := "price"

/-- After so many seconds; the network accepts every envelope and finds no transaction. -/
def after (secs : ℕ) (uuid : String) : SwapEnv Unit where
  elapsed := 1000000000 * secs
  plan := .ok plan
  uuid := uuid
  submit := .ok ⟨"", "pending", none⟩
  lookup := .ok none

def request (quoteId : String) : SwapSubmitRequest := ⟨quoteId, "signedTx"⟩

abbrev pool (choices : List (Choice (SwapEnv Unit) SwapCall)) :=
  run exec (start network) ⟨⟨∅, 0⟩, []⟩ choices

end Sample

end StellarRoute.Swap
