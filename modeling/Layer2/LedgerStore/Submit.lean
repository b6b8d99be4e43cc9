import Layer2.LedgerStore.Execute
import Mathlib.Data.Finset.Card

/-! # Validation and the commit protocol

`SubmitBlock` checks the height, the header and the layer2 state before anything changes;
`submitBlock` checks the block root, stages the block's writes in the three batches and
commits them Block → Event → State, and only then moves the current-block pointer. The
header index entry and the flush counter are written while staging, before any commit.
-/

namespace Layer2.LedgerStore

def SYSTEM_VERSION : UInt8 := 1

def HEADER_INDEX_BATCH_SIZE : UInt32 := 2000

@[simp] theorem HEADER_INDEX_BATCH_SIZE_toNat : HEADER_INDEX_BATCH_SIZE.toNat = 2000 := rfl

-- The read accessors over the in-memory fields.
namespace LedgerStoreImp

variable (m : LedgerStoreImp)

def GetCurrentBlock : UInt32 × Uint256 := (m.currBlockHeight, m.currBlockHash)

def GetCurrentBlockHash : Uint256 := m.currBlockHash

def GetCurrentBlockHeight : UInt32 := m.currBlockHeight

/-- `getHeaderIndex`: a missing height reads as the zero hash. -/
def GetBlockHash (height : UInt32) : Uint256 := (m.headerIndex.lookup height).getD 0

def GetCurrentHeaderHeight : UInt32 :=
  let size := m.headerIndex.entries.length
  if size = 0 then 0 else UInt32.ofNat size - 1

def GetCurrentHeaderHash : Uint256 :=
  let size := m.headerIndex.entries.length
  if size = 0 then 0 else m.GetBlockHash (UInt32.ofNat size - 1)

end LedgerStoreImp

def setHeaderIndex (height : UInt32) (blockHash : Uint256) : LedgerM Unit :=
  modifyMem fun m => { m with headerIndex := m.headerIndex.insert height blockHash }

def setCurrentBlock (height : UInt32) (blockHash : Uint256) : LedgerM Unit :=
  modifyMem fun m => { m with currBlockHash := blockHash, currBlockHeight := height }

/-- The threshold `m = n - (n-1)/3` of `verifyHeader` and `verifyLayer2State`, with Go's
truncating division on `int`. -/
def multiSigThreshold (n : Nat) : Int := n - Int.tdiv (n - 1) 3

theorem multiSigThreshold_eq {n : Nat} (hn : 1 ≤ n) :
    multiSigThreshold n = n - ((n : Int) - 1) / 3 := by
  rw [multiSigThreshold, Int.tdiv_eq_ediv (by omega) (by decide)]

/-- **The threshold is a Byzantine quorum.** With `n ≥ 1` bookkeepers, of which
`f = (n - 1) / 3` may be faulty, the threshold `m = n - f` lies between 1 and `n`, is more than
two thirds of `n`, and `2m - n`, the least overlap of two sets of `m` signers, exceeds `f`. -/
theorem multiSigThreshold_quorum (n : Nat) (hn : 1 ≤ n) :
    1 ≤ multiSigThreshold n ∧ multiSigThreshold n ≤ n ∧ 3 * multiSigThreshold n > 2 * (n : Int) ∧
      2 * multiSigThreshold n - n ≥ Int.tdiv ((n : Int) - 1) 3 + 1 := by
  rw [multiSigThreshold_eq hn, Int.tdiv_eq_ediv (by omega) (by decide)]
  omega

theorem four_bookkeepers_quorum :
    1 ≤ 4 ∧ 1 ≤ multiSigThreshold 4 ∧ multiSigThreshold 4 ≤ 4 ∧
      3 * multiSigThreshold 4 > 2 * ((4 : Nat) : Int) ∧
      2 * multiSigThreshold 4 - (4 : Nat) ≥ Int.tdiv (((4 : Nat) : Int) - 1) 3 + 1 :=
  ⟨by decide, multiSigThreshold_quorum 4 (by decide)⟩

/-- **Two quorums share an honest bookkeeper.** Two sets of signers drawn from `n ≥ 1`
bookkeepers, each at least the threshold, have more than `(n - 1) / 3` signers in common. -/
theorem quorums_intersect {α : Type} [DecidableEq α] {bookkeepers S T : Finset α}
    (hn : 1 ≤ bookkeepers.card) (hS : S ⊆ bookkeepers) (hT : T ⊆ bookkeepers)
    (hs : multiSigThreshold bookkeepers.card ≤ S.card)
    (ht : multiSigThreshold bookkeepers.card ≤ T.card) :
    Int.tdiv ((bookkeepers.card : Int) - 1) 3 + 1 ≤ (S ∩ T).card := by
  have hunion : (S ∪ T).card ≤ bookkeepers.card := Finset.card_le_card (Finset.union_subset hS hT)
  have hsum := Finset.card_union_add_card_inter S T
  rw [multiSigThreshold_eq hn] at hs ht
  rw [Int.tdiv_eq_ediv (by omega) (by decide)]
  omega

theorem four_bookkeepers_intersect :
    1 ≤ ({0, 1, 2, 3} : Finset Nat).card ∧ ({0, 1, 2} : Finset Nat) ⊆ {0, 1, 2, 3} ∧
      ({1, 2, 3} : Finset Nat) ⊆ {0, 1, 2, 3} ∧
      multiSigThreshold ({0, 1, 2, 3} : Finset Nat).card ≤ ({0, 1, 2} : Finset Nat).card ∧
      multiSigThreshold ({0, 1, 2, 3} : Finset Nat).card ≤ ({1, 2, 3} : Finset Nat).card ∧
      Int.tdiv ((({0, 1, 2, 3} : Finset Nat).card : Int) - 1) 3 + 1 ≤
        (({0, 1, 2} : Finset Nat) ∩ {1, 2, 3}).card :=
  have h1 : 1 ≤ ({0, 1, 2, 3} : Finset Nat).card := by decide
  have hS : ({0, 1, 2} : Finset Nat) ⊆ {0, 1, 2, 3} := by decide
  have hT : ({1, 2, 3} : Finset Nat) ⊆ {0, 1, 2, 3} := by decide
  have hs : multiSigThreshold ({0, 1, 2, 3} : Finset Nat).card ≤ ({0, 1, 2} : Finset Nat).card := by
    decide
  have ht : multiSigThreshold ({0, 1, 2, 3} : Finset Nat).card ≤ ({1, 2, 3} : Finset Nat).card := by
    decide
  ⟨h1, hS, hT, hs, ht, quorums_intersect h1 hS hT hs ht⟩

/-- `saveHeaderIndexList`: once the current height is a whole batch past the flushed count,
the next batch of index entries goes into the Block Store's batch and the count moves on. -/
def saveHeaderIndexList : LedgerM Unit := do
  let l ← get
  let storeCount := l.mem.storedIndexCount
  let currHeight := l.mem.currBlockHeight
  if currHeight - storeCount < HEADER_INDEX_BATCH_SIZE then return
  let headerList := (List.range HEADER_INDEX_BATCH_SIZE.toNat).map fun i =>
    l.mem.GetBlockHash (storeCount + UInt32.ofNat i)
  modifyBlockStore (·.put (.saveHeaderIndexList storeCount headerList))
  modifyMem fun m => { m with storedIndexCount := m.storedIndexCount + HEADER_INDEX_BATCH_SIZE }

section

variable (C : Collaborators) (fault : Option FailPoint)

/-- `GetBlockRootWithNewTxRoots`; slicing past the end of `txRoots` is Go's runtime panic. -/
def GetBlockRootWithNewTxRoots (m : LedgerStoreImp) (stateLog : List StateWrite)
    (startHeight : UInt32) (txRoots : List Uint256) : Except String Uint256 :=
  if m.currBlockHeight > startHeight + UInt32.ofNat txRoots.length - 1 then .ok UINT256_EMPTY
  else if m.currBlockHeight + 1 < startHeight then .ok UINT256_EMPTY
  else
    let i := (m.currBlockHeight + 1 - startHeight).toNat
    if i ≤ txRoots.length then
      .ok (C.blockMerkleRoot (StateStore.blockRoots stateLog ++ txRoots.drop i))
    else .error "runtime error: slice bounds out of range"

def verifyHeader (log : List BlockWrite) (header : Header) : Except String Unit := do
  if header.height = 0 then return
  if fault = some .getHeader then throw "get prev header error "
  let some prevHeader := BlockStore.getHeader C log header.prevBlockHash
    | throw "cannot find pre header by blockHash"
  if prevHeader.height + 1 ≠ header.height then throw "block height is incorrect"
  if prevHeader.timestamp ≥ header.timestamp then throw "block timestamp is incorrect"
  let address ← C.addressFromBookkeepers header.bookkeepers
  if prevHeader.nextBookkeeper ≠ address then throw "bookkeeper address error"
  C.verifyMultiSignature (C.headerHash header) header.bookkeepers
    (multiSigThreshold header.bookkeepers.length) header.sigData

def verifyLayer2State (layer2State : Layer2State) (bookkeepers : List PublicKey) : Except String Unit :=
  C.verifyMultiSignature (C.layer2StateHash layer2State) bookkeepers
    (multiSigThreshold bookkeepers.length) layer2State.sigData

def saveBlockToBlockStore (block : Block) : LedgerM Unit := do
  let blockHash := block.hash C
  let blockHeight := block.header.height
  setHeaderIndex blockHeight blockHash
  saveHeaderIndexList
  failAt fault .blockSaveCurrentBlock "SaveCurrentBlock error "
  modifyBlockStore (·.putAll [.saveCurrentBlock blockHeight blockHash, .saveBlockHash blockHeight blockHash])
  failAt fault .saveBlock s!"SaveBlock height {blockHeight} error "
  modifyBlockStore (·.put (.saveBlock block))

def rawWrites (writeSet : KV) : List StateWrite :=
  writeSet.entries.map fun e => if e.2 = [] then .batchDeleteRawKey e.1 else .batchPutRawKeyVal e.1 e.2

def saveBlockToStateStore (block : Block) (result : ExecuteResult) : LedgerM Unit := do
  let blockHash := block.hash C
  let blockHeight := block.header.height
  modifyEventStore (·.putAll (result.notify.map fun n => .saveNotify n.txHash n))
  failAt fault .addStateMerkleTreeRoot "AddBlockMerkleTreeRoot error "
  modifyStateStore (·.put (.addStateMerkleTreeRoot blockHeight result.hash))
  failAt fault .addBlockMerkleTreeRoot "AddBlockMerkleTreeRoot error "
  modifyStateStore (·.put (.addBlockMerkleTreeRoot block.header.transactionsRoot))
  failAt fault .stateSaveCurrentBlock "SaveCurrentBlock error "
  modifyStateStore (·.put (.saveCurrentBlock blockHeight blockHash))
  failAt fault .saveLayer2States "SaveLayer2States error "
  modifyStateStore
    (·.putAll (.saveLayer2States blockHeight result.updatedAccountState :: rawWrites result.writeSet))

def saveBlockToEventStore (block : Block) : LedgerM Unit := do
  let blockHash := block.hash C
  let blockHeight := block.header.height
  let txs := block.transactions.map C.txHash
  modifyEventStore fun s =>
    (if txs.length > 0 then s.put (.saveEventNotifyByBlock blockHeight txs) else s).put
      (.saveCurrentBlock blockHeight blockHash)

def submitBlock (block : Block) (layer2Msg : Option Layer2State) (result : ExecuteResult) :
    LedgerM Unit := do
  let blockHash := block.hash C
  let blockHeight := block.header.height
  let l ← get
  let blockRoot ← match GetBlockRootWithNewTxRoots C l.mem l.stateStore.log blockHeight
      [block.header.transactionsRoot] with
    | .ok r => pure r
    | .error e => throw e
  if blockHeight ≠ 0 ∧ blockRoot ≠ block.header.blockRoot then throw "wrong block root"
  modifyBlockStore SubStore.newBatch
  modifyStateStore SubStore.newBatch
  modifyEventStore SubStore.newBatch
  withContext "save to block store error:" (saveBlockToBlockStore C fault block)
  failAt fault .saveMsgToLayer2Store "save to msg layer2 state store error:"
  modify fun l => { l with layer2Store := l.layer2Store ++ [layer2Msg] }
  withContext "save to state store error:" (saveBlockToStateStore C fault block result)
  saveBlockToEventStore C block
  failAt fault .blockCommit "blockStore.CommitTo error "
  modifyBlockStore SubStore.commitTo
  failAt fault .eventCommit "eventStore.CommitTo error "
  modifyEventStore SubStore.commitTo
  failAt fault .stateCommit "stateStore.CommitTo error "
  modifyStateStore SubStore.commitTo
  setCurrentBlock blockHeight blockHash

/-- `ExecuteBlock`: a height already committed returns its stored state root, the next height
is executed, any other height is refused. Nothing is written. -/
def ExecuteBlock (stateHashCheckHeight : UInt32) (block : Block) (l : Ledger) :
    Except String ExecuteResult :=
  let currBlockHeight := l.mem.currBlockHeight
  let blockHeight := block.header.height
  if blockHeight ≤ currBlockHeight then
    match StateStore.getStateMerkleRoot C l.stateStore.log blockHeight with
    | some root => .ok ⟨0, ∅, root, [], 0, []⟩
    | none => .error ErrNotFound
  else if blockHeight ≠ currBlockHeight + 1 then
    let nextBlockHeight := currBlockHeight + 1
    .error s!"block height {blockHeight} not equal next block height {nextBlockHeight}"
  else executeBlock C stateHashCheckHeight l.stateStore.log block

def Close : LedgerM Unit := modifyMem fun m => { m with closing := true }

def SubmitBlock (block : Block) (layer2State : Option Layer2State) (result : ExecuteResult) :
    LedgerM Unit := do
  let l ← get
  if l.mem.closing then throw "save block error: ledger is closing"
  let currBlockHeight := l.mem.currBlockHeight
  let blockHeight := block.header.height
  if blockHeight ≤ currBlockHeight then return
  let nextBlockHeight := currBlockHeight + 1
  if blockHeight ≠ nextBlockHeight then
    throw s!"block height {blockHeight} not equal next block height {nextBlockHeight}"
  if let .error e := verifyHeader C fault l.blockStore.log block.header then
    throw ("verifyHeader error " ++ e)
  if let some l2 := layer2State then
    let height := l2.height
    if height ≠ nextBlockHeight then
      throw s!"layer2 state msg height {nextBlockHeight} not equal next block height {height}"
    let expected := C.CURR_LAYER2_STATE_VERSION
    let actual := l2.version
    if actual ≠ expected then
      throw s!"error layer2 state msg version excepted:{expected} actual:{actual}"
    if let .error e := verifyLayer2State C l2 block.header.bookkeepers then
      throw ("verifyLayer2State error: " ++ e)
  withContext "saveBlock error " (submitBlock C fault block layer2State result)

end

end Layer2.LedgerStore
