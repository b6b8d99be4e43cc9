import Layer2.LedgerStore.Submit

/-! # Initialisation and recovery

A ledger without a version marker is cleared and committed from its genesis block. One with
the marker reloads the current block and the header index from the Block Store and then
`recoverStore` re-executes and re-persists, into the State and Event Stores, the blocks of
the heights from the State Store's height up to, and not including, the Block Store's.
-/

namespace Layer2.LedgerStore

def faultAt (fault : Option (UInt32 × FailPoint)) (i : UInt32) : Option FailPoint :=
  match fault with
  | some (j, p) => if j = i then some p else none
  | none => none

def liftExcept {α : Type} : Except String α → LedgerM α
  | .ok a => pure a
  | .error e => throw e

/-- `NewLedgerStore` over existing data: a new process, with fresh in-memory fields and no open
batch. -/
def Ledger.reopen (l : Ledger) : Ledger :=
  { mem := ⟨0, 0, 0, ∅, false⟩, blockStore := ⟨l.blockStore.log, []⟩,
    stateStore := ⟨l.stateStore.log, []⟩, eventStore := ⟨l.eventStore.log, []⟩,
    layer2Store := l.layer2Store, memWrites := [] }

def loadCurrentBlock : LedgerM Unit := do
  let l ← get
  let some (currentBlockHash, currentBlockHeight) := BlockStore.getCurrentBlock l.blockStore.log
    | throw ("LoadCurrentBlock error " ++ ErrNotFound)
  modifyMem fun m => { m with currBlockHash := currentBlockHash, currBlockHeight := currentBlockHeight }

def loadBlockHashes (i : UInt32) : Nat → LedgerM Unit
  | 0 => pure ()
  | n + 1 => do
    let l ← get
    let some blockHash := BlockStore.getBlockHash l.blockStore.log i
      | throw s!"LoadBlockHash height {i} error {ErrNotFound}"
    if blockHash = UINT256_EMPTY then throw s!"LoadBlockHash height {i} hash nil"
    modifyMem fun m => { m with headerIndex := m.headerIndex.insert i blockHash }
    loadBlockHashes (i + 1) n

/-- `loadHeaderIndexList`; its loop runs `for i := storeIndexCount; i <= currBlockHeight`. -/
def loadHeaderIndexList : LedgerM Unit := do
  let l ← get
  let currBlockHeight := l.mem.currBlockHeight
  let headerIndex := BlockStore.getHeaderIndexList l.blockStore.log
  let storeIndexCount := UInt32.ofNat headerIndex.entries.length
  modifyMem fun m => { m with headerIndex := headerIndex, storedIndexCount := storeIndexCount }
  loadBlockHashes storeIndexCount (currBlockHeight.toNat + 1 - storeIndexCount.toNat)

section

variable (C : Collaborators) (stateHashCheckHeight : UInt32) (fault : Option (UInt32 × FailPoint))

def recoverBlock (i : UInt32) : LedgerM Unit := do
  let l ← get
  let some blockHash := BlockStore.getBlockHash l.blockStore.log i
    | throw s!"blockStore.GetBlockHash height:{i} error:{ErrNotFound}"
  let some block := BlockStore.getBlock C l.blockStore.log blockHash
    | throw s!"blockStore.GetBlock height:{i} error:{ErrNotFound}"
  modifyEventStore SubStore.newBatch
  modifyStateStore SubStore.newBatch
  let result ← liftExcept (executeBlock C stateHashCheckHeight l.stateStore.log block)
  withContext s!"save to state store height:{i} error:"
    (saveBlockToStateStore C (faultAt fault i) block result)
  saveBlockToEventStore C block
  failAt (faultAt fault i) .eventCommit s!"eventStore.CommitTo height:{i} error "
  modifyEventStore SubStore.commitTo
  failAt (faultAt fault i) .stateCommit s!"stateStore.CommitTo height:{i} error "
  modifyStateStore SubStore.commitTo

def recoverBlocks (i : UInt32) : Nat → LedgerM Unit
  | 0 => pure ()
  | n + 1 => do
    recoverBlock C stateHashCheckHeight fault i
    recoverBlocks (i + 1) n

/-- `recoverStore`: `for i := stateHeight; i < blockHeight; i++`. -/
def recoverStore : LedgerM Unit := do
  let l ← get
  let blockHeight := l.mem.currBlockHeight
  let some (_, stateHeight) := StateStore.getCurrentBlock l.stateStore.log
    | throw ("stateStore.GetCurrentBlock error " ++ ErrNotFound)
  recoverBlocks C stateHashCheckHeight fault stateHeight (blockHeight.toNat - stateHeight.toNat)

def init : LedgerM Unit := do
  withContext "loadCurrentBlock error " loadCurrentBlock
  withContext "loadHeaderIndexList error " loadHeaderIndexList
  withContext "recoverStore error " (recoverStore C stateHashCheckHeight fault)

def InitLedgerStoreWithGenesisBlock (genesisBlock : Block) (defaultBookkeeper : List PublicKey) :
    LedgerM Unit := do
  let l ← get
  if BlockStore.getVersion l.blockStore.log ≠ some SYSTEM_VERSION then
    modifyBlockStore SubStore.clearAll
    modifyStateStore SubStore.clearAll
    modifyEventStore SubStore.clearAll
    let bookkeepers := C.sortPublicKeys defaultBookkeeper
    modifyStateStore (·.putDirect (.saveBookkeeperState bookkeepers bookkeepers))
    let l ← get
    let result ← liftExcept (executeBlock C stateHashCheckHeight l.stateStore.log genesisBlock)
    withContext "save genesis block error " (submitBlock C (faultAt fault 0) genesisBlock none result)
    modifyBlockStore (·.putDirect (.saveVersion SYSTEM_VERSION))
  else
    if (BlockStore.getBlock C l.blockStore.log (genesisBlock.hash C)).isNone then
      throw "GenesisBlock arenot init correctly"
    withContext "init error " (init C stateHashCheckHeight fault)

end

end Layer2.LedgerStore
