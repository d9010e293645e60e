import StellarRoute.Cctp.Spec.Types

/-! What the bridge takes from libraries: Stellar string keys, XDR, the
Solidity ABI, JSON and SHA-256. They are parameters of the model, gathered in
`Codec`; the data they produce is described here. -/

namespace StellarRoute.Cctp

/-- `MuxedAccount` of `stellar_xdr`. -/
inductive MuxedAccount where
  | ed25519 (key : Bytes32)
  | muxedEd25519 (key : Bytes32) (id : ℕ)
deriving DecidableEq

inductive ScAddress where
  | account (key : Bytes32)
  | contract (id : Bytes32)
  | muxedAccount (key : Bytes32) (id : ℕ)
  /-- claimable balances and liquidity pools -/
  | other
deriving DecidableEq

inductive ScVal where
  | bool (b : Bool)
  | void
  | u32 (n : ℕ)
  | i128 (n : ℤ)
  | bytes (b : Bytes)
  | symbol (s : String)
  | address (a : ScAddress)
  | map (entries : Option (List (ScVal × ScVal)))
  | other

structure ContractEvent where
  contractId : Option Bytes32
  topics : List ScVal
  data : ScVal

inductive OperationBody where
  | invokeContract (contractAddress : ScAddress) (functionName : String) (args : List ScVal)
  /-- `InvokeHostFunction` with another host function -/
  | invokeOther
  | other

structure Operation where
  sourceAccount : Option MuxedAccount
  body : OperationBody

inductive TransactionEnvelope where
  | tx (sourceAccount : MuxedAccount) (operations : List Operation)
  | txV0
  | txFeeBump

/-- The arguments of `depositForBurn` and `depositForBurnWithHook`. -/
structure BurnCall where
  amount : ℕ
  destinationDomain : ℕ
  mintRecipient : Bytes32
  burnToken : EvmAddress
  destinationCaller : Bytes32
  maxFee : ℕ
  minFinalityThreshold : ℕ
  hookData : Bytes
deriving DecidableEq

structure DepositForBurn where
  burnToken : EvmAddress
  amount : ℕ
  depositor : EvmAddress
  mintRecipient : Bytes32
  destinationDomain : ℕ
  destinationTokenMessenger : Bytes32
  destinationCaller : Bytes32
  maxFee : ℕ
  minFinalityThreshold : ℕ
  hookData : Bytes
deriving DecidableEq

structure MessageReceived where
  caller : EvmAddress
  sourceDomain : ℕ
  nonce : Bytes32
  sender : Bytes32
  finalityThresholdExecuted : ℕ
  messageBody : Bytes
deriving DecidableEq

structure Codec where
  /-- `stellar_strkey::ed25519::PublicKey` -/
  accountFromString : String → Option Bytes32
  accountToString : Bytes32 → String
  /-- `stellar_strkey::ed25519::MuxedAccount` -/
  muxedFromString : String → Option (Bytes32 × ℕ)
  muxedToString : Bytes32 → ℕ → String
  /-- `stellar_strkey::Contract` -/
  contractFromString : String → Option Bytes32
  contractToString : Bytes32 → String
  /-- `TransactionEnvelope::from_xdr_base64` -/
  envelopeFromXdr : String → Except String TransactionEnvelope
  /-- SHA-256 of the signature payload of a v1 envelope for a network passphrase -/
  transactionHash : String → String → Bytes32
  /-- a v1 envelope encoded again without its signatures -/
  withoutSignatures : String → String
  contractEventFromXdr : String → Except String ContractEvent
  abiDepositForBurn : Bytes → Except String BurnCall
  abiDepositForBurnWithHook : Bytes → Except String BurnCall
  abiReceiveMessage : Bytes → Except String (Bytes × Bytes)
  encodeReceiveMessage : Bytes → Bytes → Bytes
  encodeUsedNonces : Bytes32 → Bytes
  depositForBurnLog : List Bytes32 → Bytes → Option DepositForBurn
  messageReceivedLog : List Bytes32 → Bytes → Option MessageReceived
  walletPayloadJson : PreparedWalletPayload → Bytes
  burnBundleJsonLen : PreparedBurnBundle → ℕ
  mintBundleJsonLen : PreparedMintBundle → ℕ
  sha256 : Bytes → Bytes32

end StellarRoute.Cctp
