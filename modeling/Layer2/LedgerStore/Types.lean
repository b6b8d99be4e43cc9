import Layer2.Common.Basic

/-! # Blocks, execution results and the ledger's collaborators

The records of `types` and `store` that the ledger store reads, the overlay and cache it
executes against, and the external collaborators of §6 of the specification: hashing,
signatures, merkle trees and the execution engine, gathered in `Collaborators` so that every
result holds for any of them.
-/

namespace Layer2.LedgerStore

abbrev PublicKey := Bytes
abbrev Sig := Bytes

abbrev KV := GoMap Bytes Bytes

structure Header where
  height : UInt32
  prevBlockHash : Uint256
  timestamp : UInt32
  transactionsRoot : Uint256
  blockRoot : Uint256
  bookkeepers : List PublicKey
  nextBookkeeper : Address
  sigData : List Sig
  deriving DecidableEq, Repr

inductive TransactionType
  | deploy
  | invokeNeo
  | other (tag : UInt8)
  deriving DecidableEq, Repr

structure Transaction where
  txType : TransactionType
  payload : Bytes
  deriving DecidableEq, Repr

structure Block where
  header : Header
  transactions : List Transaction
  deriving DecidableEq, Repr

structure Layer2State where
  height : UInt32
  version : UInt8
  statesRoot : Uint256
  sigData : List Sig
  deriving DecidableEq, Repr

def CONTRACT_STATE_FAIL : UInt8 := 0

structure ExecuteNotify where
  txHash : Uint256
  state : UInt8
  deriving DecidableEq, Repr

structure ExecuteResult where
  hash : Uint256
  writeSet : KV
  merkleRoot : Uint256
  notify : List ExecuteNotify
  updatedAccountStateRoot : Uint256
  updatedAccountState : List Uint256

/-- `KeyState`: an account address and the concatenated values written under it. -/
structure KeyState where
  key : Bytes
  value : Bytes
  deriving DecidableEq, Repr

/-- `overlaydb.OverlayDB`: a memory table of writes over the committed state. An empty value
marks a deleted key; `dbErr` is the backend fault that `Error()` reports. -/
structure OverlayDB where
  store : KV
  memdb : KV
  dbErr : Option String

structure CacheDB where
  memdb : KV

/-- What a deploy or invoke handler leaves behind for one transaction: the writes it made
through the cache (committed into the overlay), the notification state, and a backend
fault of the overlay if it hit one. -/
structure TxRun where
  cacheWrites : KV
  state : UInt8
  dbErr : Option String

/-- The collaborators of the ledger store that live outside the source: header, transaction
and layer2-state hashing, key sorting and signature checks, the state store's merkle trees, SHA-256, the
overlay's change hash, the global-parameter refresh, the two transaction handlers, the data
prefixes of the `scom` package, and the order in which Go ranges over a map of
`KeyState`s. -/
structure Collaborators where
  headerHash : Header → Uint256
  txHash : Transaction → Uint256
  layer2StateHash : Layer2State → Uint256
  addressFromBookkeepers : List PublicKey → Except String Address
  sortPublicKeys : List PublicKey → List PublicKey
  verifyMultiSignature : Uint256 → List PublicKey → Int → List Sig → Except String Unit
  /-- Root of the block merkle tree over every transaction root it holds. -/
  blockMerkleRoot : List Uint256 → Uint256
  /-- Root of the state merkle tree over every state hash it holds. -/
  stateMerkleRoot : List Uint256 → Uint256
  hashFullTreeWithLeafHash : List Uint256 → Uint256
  sha256 : Bytes → Uint256
  changeHash : KV → Uint256
  refreshGlobalParam : Header → KV → Except String Unit
  handleDeployTransaction : OverlayDB → Block → Transaction → TxRun
  handleInvokeTransaction : OverlayDB → Block → Transaction → TxRun
  ST_CONTRACT : UInt8
  ST_STORAGE : UInt8
  CURR_LAYER2_STATE_VERSION : UInt8
  rangeStates : List KeyState → List KeyState
  /-- Ranging over a map visits each of its values once. -/
  rangeStates_perm : ∀ states, (rangeStates states).Perm states

/-- Collaborators for evaluating concrete runs: a header hashes to its height and timestamp,
merkle roots and SHA-256 count their input, keys keep their order, every signature and
every transaction is accepted, and Go ranges over a map in insertion order. -/
def sampleCollaborators : Collaborators where
  headerHash h := BitVec.ofNat 256 (h.height.toNat * 4294967296 + h.timestamp.toNat + 1)
  txHash _ := 1
  layer2StateHash _ := 0
  addressFromBookkeepers _ := .ok 0
  sortPublicKeys := id
  verifyMultiSignature _ _ _ _ := .ok ()
  blockMerkleRoot l := BitVec.ofNat 256 l.length
  stateMerkleRoot l := BitVec.ofNat 256 l.length
  hashFullTreeWithLeafHash l := BitVec.ofNat 256 l.length
  sha256 bs := BitVec.ofNat 256 bs.length
  changeHash _ := 0
  refreshGlobalParam _ _ := .ok ()
  handleDeployTransaction _ _ _ := ⟨∅, 1, none⟩
  handleInvokeTransaction _ _ _ := ⟨∅, 1, none⟩
  ST_CONTRACT := 4
  ST_STORAGE := 5
  CURR_LAYER2_STATE_VERSION := 0
  rangeStates := id
  rangeStates_perm := List.Perm.refl

def Block.hash (C : Collaborators) (b : Block) : Uint256 := C.headerHash b.header

end Layer2.LedgerStore
