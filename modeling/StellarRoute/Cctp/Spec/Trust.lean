import StellarRoute.Lib.Interleave
import StellarRoute.Lib.SortedVec
import StellarRoute.Cctp.Spec.Types

/-! The attester sets that attestations are checked against: the validation of
`attester_set.rs` and the cache of `attestation_trust.rs`. A refresh is a
program over atomic operations under the refresh lock; queries take no lock.
Every operation may take time, so the clock never goes back. Metrics and the
counter of successful builds are left out. -/

namespace StellarRoute.Cctp

open Lib Lib.Interleave

def MAX_ENABLED_ATTESTERS : ℕ := 256

def MAX_SIGNATURE_THRESHOLD : ℕ := 64

def MAX_IRIS_PUBLIC_KEYS : ℕ := 256

/-- The order of `[u8; n]`: the first byte that differs decides. -/
instance {n : ℕ} : LinearOrder (BytesN n) :=
  LinearOrder.lift' (fun a => a.bytes.map UInt8.toNat) fun a b h => by
    obtain ⟨as, ha⟩ := a
    obtain ⟨bs, hb⟩ := b
    obtain rfl : as = bs := List.map_injective_iff.mpr (fun x y h => UInt8.toNat_inj.mp h) h
    rfl

/-! ### Attester sets -/

inductive AttesterDestination where
  | sepolia
  | stellarTestnet
deriving DecidableEq

structure RawOnChainAttesterSet where
  signatureThreshold : ℕ
  enabledAddresses : List EvmAddress
  blockOrLedger : Option String
deriving DecidableEq

structure AttesterSetSnapshot where
  destination : AttesterDestination
  signatureThreshold : ℕ
  enabledAddresses : List EvmAddress
  irisSetHash : Bytes32
  onChainSetHash : Bytes32
  enabledCount : ℕ
  verifiedAt : Time
  blockOrLedger : Option String
  source : String
  generation : ℕ
deriving DecidableEq

inductive AttesterSetError where
  | notReady
  | transient (msg : String)
  | thresholdZero
  | thresholdExceedsEnabled
  | insufficientEnabled
  | onChainNotInIris
  | emptySet
  | stale
  | irisSetHashMismatch
  | enabledCountMismatch
  | enumerationCapExceeded
  | thresholdCapExceeded
deriving DecidableEq

def AttesterSetError.display : AttesterSetError → String
  | .notReady => "not ready"
  | .transient msg => s!"transient: {msg}"
  | .thresholdZero => "threshold zero"
  | .thresholdExceedsEnabled => "threshold exceeds enabled attesters"
  | .insufficientEnabled => "insufficient enabled attesters"
  | .onChainNotInIris => "on-chain attester not represented in Iris v2 keys"
  | .emptySet => "empty enabled set"
  | .stale => "stale snapshot"
  | .irisSetHashMismatch => "iris set hash mismatch"
  | .enabledCountMismatch => "enabled count mismatch"
  | .enumerationCapExceeded => "enumeration cap exceeded"
  | .thresholdCapExceeded => "threshold cap exceeded"

/-- What a cache is made with: the hash functions, the two limits (in nanoseconds) and the
destinations of its readers. -/
structure TrustContext where
  keccak256 : Bytes → Bytes32
  sha256 : Bytes → Bytes32
  ttl : ℕ
  staleMax : ℕ
  readers : List AttesterDestination

section Validation

variable (ctx : TrustContext)

def irisCandidateHash (addresses : List EvmAddress) : Bytes32 :=
  ctx.keccak256 (addresses.flatMap BytesN.bytes)

def onChainSetHash (addresses : List EvmAddress) : Bytes32 :=
  ctx.sha256 ((addresses.insertionSort (· ≤ ·)).flatMap BytesN.bytes)

def validateAttesterSetParity (destination : AttesterDestination) (onChain : RawOnChainAttesterSet)
    (irisAddresses : List EvmAddress) (irisSetHash : Bytes32) (generation : ℕ) (verifiedAt : Time)
    (source : String) : Except AttesterSetError AttesterSetSnapshot := do
  require (irisCandidateHash ctx irisAddresses = irisSetHash) .irisSetHashMismatch
  require (onChain.signatureThreshold ≠ 0) .thresholdZero
  require (onChain.signatureThreshold ≤ MAX_SIGNATURE_THRESHOLD) .thresholdCapExceeded
  require (onChain.enabledAddresses ≠ []) .emptySet
  require (onChain.enabledAddresses.length ≤ MAX_ENABLED_ATTESTERS) .enumerationCapExceeded
  let enabled := sortDedup onChain.enabledAddresses
  require (enabled.length = onChain.enabledAddresses.length) .enabledCountMismatch
  require (enabled.length < 2 ^ 32) .enumerationCapExceeded
  require (onChain.signatureThreshold ≤ enabled.length) .thresholdExceedsEnabled
  require (∀ a ∈ enabled, a ∈ irisAddresses) .onChainNotInIris
  pure {
    destination, signatureThreshold := onChain.signatureThreshold, enabledAddresses := enabled
    irisSetHash, onChainSetHash := onChainSetHash ctx enabled, enabledCount := enabled.length
    verifiedAt, blockOrLedger := onChain.blockOrLedger, source, generation }

end Validation

/-! ### The cache -/

structure IrisTrustSnapshot where
  addresses : List EvmAddress
  setHash : Bytes32
deriving DecidableEq

structure AttestationTrustGeneration where
  generation : ℕ
  refreshedAt : Time
  iris : IrisTrustSnapshot
  sepolia : AttesterSetSnapshot
  stellar : AttesterSetSnapshot
deriving DecidableEq

inductive AttestationTrustError where
  | notReady
  | stale
  | refreshFailed
  | attesterSet (msg : String)
  | iris (msg : String)
deriving DecidableEq

structure TrustState where
  clock : Time
  state : Option AttestationTrustGeneration
  generationCounter : ℕ
  /-- the refresh lock -/
  locked : Bool
deriving DecidableEq

def TrustState.initial : TrustState := ⟨0, none, 0, false⟩

/-- The outside world at one operation: how long it took to come, and what is answered. -/
structure TrustEnv where
  elapsed : ℕ
  fetchPublicKeys : Except String (List EvmAddress)
  readOnChainSet : ℕ → Except AttesterSetError RawOnChainAttesterSet

inductive TrustOp where
  | now
  | lock
  | unlock
  /-- `state.load_full()` -/
  | load
  | fetchPublicKeys
  /-- `generation_counter.fetch_add(1) + 1` -/
  | nextGeneration
  /-- the reader at this place of the list -/
  | readOnChainSet (reader : ℕ)
  | store (generation : AttestationTrustGeneration)

abbrev TrustOp.Res : TrustOp → Type
  | .now => Time
  | .lock => Unit
  | .unlock => Unit
  | .load => Option AttestationTrustGeneration
  | .fetchPublicKeys => Except String (List EvmAddress)
  | .nextGeneration => ℕ
  | .readOnChainSet _ => Except AttesterSetError RawOnChainAttesterSet
  | .store _ => Unit

def TrustState.after (s : TrustState) (elapsed : ℕ) : TrustState :=
  { s with clock := s.clock + elapsed }

def TrustOp.exec : Exec TrustEnv TrustState TrustOp TrustOp.Res
  | env, .now, s => (s.clock + env.elapsed, s.after env.elapsed)
  | env, .lock, s => ((), { s.after env.elapsed with locked := true })
  | env, .unlock, s => ((), { s.after env.elapsed with locked := false })
  | env, .load, s => (s.state, s.after env.elapsed)
  | env, .fetchPublicKeys, s => (env.fetchPublicKeys, s.after env.elapsed)
  | env, .nextGeneration, s =>
    (s.generationCounter + 1,
      { s.after env.elapsed with generationCounter := s.generationCounter + 1 })
  | env, .readOnChainSet reader, s => (env.readOnChainSet reader, s.after env.elapsed)
  | env, .store generation, s => ((), { s.after env.elapsed with state := some generation })

/-- `Instant::duration_since`. -/
def durationSince (later earlier : Time) : ℕ := (later - earlier).toNat

abbrev Trust := ExceptT AttestationTrustError (Prog TrustOp TrustOp.Res)

namespace Trust

variable (ctx : TrustContext)

def perform (o : TrustOp) : Trust o.Res := ExceptT.lift (Prog.call o)

def checked {α : Type} (x : Except AttestationTrustError α) : Trust α := ExceptT.mk (pure x)

def isFresh (gen : AttestationTrustGeneration) : Trust Bool := do
  let now ← perform .now
  pure (durationSince now gen.refreshedAt ≤ ctx.ttl)

def isStaleBeyond (gen : AttestationTrustGeneration) : Trust Bool := do
  let now ← perform .now
  pure (ctx.staleMax < durationSince now gen.refreshedAt)

def isReady : Trust Bool := do
  match ← perform .load with
  | none => pure false
  | some gen =>
    let stale ← isStaleBeyond ctx gen
    pure !stale

def snapshotFor (dest : AttesterDestination) : Trust (Option AttesterSetSnapshot) := do
  match ← perform .load with
  | none => pure none
  | some gen =>
    if ← isStaleBeyond ctx gen then pure none
    else match dest with
      | .sepolia => pure (some gen.sepolia)
      | .stellarTestnet => pure (some gen.stellar)

def sourceOf : AttesterDestination → String
  | .sepolia => "evm_message_transmitter_v2"
  | .stellarTestnet => "stellar_message_transmitter_v2"

/-- The loop over the readers, from number `i` on; the sets found so far. -/
def readSets (iris : IrisTrustSnapshot) (generation : ℕ) (now : Time) :
    List AttesterDestination → ℕ → Option AttesterSetSnapshot × Option AttesterSetSnapshot →
    Trust (Option AttesterSetSnapshot × Option AttesterSetSnapshot)
  | [], _, found => pure found
  | dest :: readers, i, found => do
    let answer ← perform (.readOnChainSet i)
    let onChain ← checked (answer.mapError fun e => AttestationTrustError.attesterSet e.display)
    let snap ← checked ((validateAttesterSetParity ctx dest onChain iris.addresses iris.setHash
      generation now (sourceOf dest)).mapError fun e => AttestationTrustError.attesterSet e.display)
    readSets iris generation now readers (i + 1) <|
      match dest with
      | .sepolia => (some snap, found.2)
      | .stellarTestnet => (found.1, some snap)

def buildGeneration : Trust AttestationTrustGeneration := do
  let now ← perform .now
  let answer ← perform .fetchPublicKeys
  let irisAddresses ← checked (answer.mapError AttestationTrustError.iris)
  checked (require (irisAddresses ≠ []) (.iris "empty"))
  checked (require (irisAddresses.length ≤ MAX_IRIS_PUBLIC_KEYS) (.iris "too many keys"))
  let sortedIris := sortDedup irisAddresses
  let iris : IrisTrustSnapshot := ⟨sortedIris, irisCandidateHash ctx sortedIris⟩
  let generation ← perform .nextGeneration
  let found ← readSets ctx iris generation now ctx.readers 0 (none, none)
  let sepolia ← checked (okOr found.1 (.attesterSet "missing sepolia reader"))
  let stellar ← checked (okOr found.2 (.attesterSet "missing stellar reader"))
  pure { generation, refreshedAt := now, iris, sepolia, stellar }

/-- A forced refresh does not look at the freshness limit. -/
def leaveFresh (force : Bool) (gen : AttestationTrustGeneration) : Trust Bool :=
  if force then pure false else isFresh ctx gen

/-- Whether the present generation has to be rebuilt. -/
def checkCurrent (force : Bool) : Trust Bool := do
  match ← perform .load with
  | none => pure true
  | some gen =>
    if ← leaveFresh ctx force gen then pure false
    else if ← isStaleBeyond ctx gen then throw .stale
    else pure true

/-- Under the lock. What a failed build returns does not depend on the present generation. -/
def rebuild (force : Bool) : Trust Unit := do
  if ← checkCurrent ctx force then
    let gen ← buildGeneration ctx
    perform (.store gen)
  else pure ()

/-- The guard is dropped however the body ends. -/
def fullRefreshInner (force : Bool) : Trust Unit := do
  perform .lock
  let result ← ExceptT.lift (rebuild ctx force).run
  perform .unlock
  checked result

def fullRefresh : Trust Unit := fullRefreshInner ctx false

def forceFullRefresh : Trust Unit := fullRefreshInner ctx true

def ensureFresh : Trust Unit := do
  match ← perform .load with
  | some gen =>
    if ← isFresh ctx gen then pure ()
    else if ← isStaleBeyond ctx gen then throw .stale
    else fullRefresh ctx
  | none => fullRefresh ctx

/-- `generation().is_some_and(|g| is_fresh(&g))`. -/
def hasFresh : Trust Bool := do
  match ← perform .load with
  | none => pure false
  | some gen => isFresh ctx gen

def upToDate : Trust Bool := do
  if ← isReady ctx then hasFresh ctx else pure false

/-- One turn of the loop of `spawn_background_refresh`. -/
def backgroundTick : Trust Unit := do
  if ← upToDate ctx then pure ()
  else tryCatch (fullRefresh ctx) fun _ => pure ()

end Trust

inductive TrustCall where
  | ensureFresh
  | fullRefresh
  | forceFullRefresh
  | backgroundTick
  | isReady
  | snapshotFor (dest : AttesterDestination)

inductive TrustAnswer where
  | done
  | ready (b : Bool)
  | snapshot (found : Option AttesterSetSnapshot)
deriving DecidableEq

def TrustCall.program (ctx : TrustContext) : TrustCall → Trust TrustAnswer
  | .ensureFresh => do
    Trust.ensureFresh ctx
    pure .done
  | .fullRefresh => do
    Trust.fullRefresh ctx
    pure .done
  | .forceFullRefresh => do
    Trust.forceFullRefresh ctx
    pure .done
  | .backgroundTick => do
    Trust.backgroundTick ctx
    pure .done
  | .isReady => do
    let b ← Trust.isReady ctx
    pure (.ready b)
  | .snapshotFor dest => do
    let found ← Trust.snapshotFor ctx dest
    pure (.snapshot found)

abbrev TrustEvent := Event TrustEnv TrustState TrustOp

abbrev TrustUsers := Pool TrustEnv TrustState TrustOp TrustOp.Res TrustCall
  (Except AttestationTrustError TrustAnswer)

def TrustCall.start (ctx : TrustContext) (call : TrustCall) :
    Prog TrustOp TrustOp.Res (Except AttestationTrustError TrustAnswer) := (call.program ctx).run

def trust (ctx : TrustContext) (choices : List (Choice TrustEnv TrustCall)) : TrustUsers :=
  run TrustOp.exec (TrustCall.start ctx) ⟨TrustState.initial, []⟩ choices

end StellarRoute.Cctp
