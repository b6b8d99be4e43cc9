import Layer2.LedgerStore.Store

/-! # Block execution

`executeBlock` runs a block's transactions on an overlay over the committed state, resetting
one shared cache before each, and then derives the change hash, the write set, the merkle
root of the three-phase policy keyed by `stateHashCheckHeight`, and the per-account state
hashes of `calculateChangeStateRoot`. Nothing here writes to a store.
-/

namespace Layer2.LedgerStore

namespace OverlayDB

def new (store : KV) : OverlayDB := ⟨store, ∅, none⟩

/-- The overlay's live entries in iteration order: its own writes that are not deletions,
then the committed entries it has not written over. -/
def entries (o : OverlayDB) : List (Bytes × Bytes) :=
  (o.memdb.entries.filter (fun e => e.2 ≠ [])).map (fun e => (e.1, e.2)) ++
    (o.store.entries.filter (fun e => e.1 ∉ o.memdb)).map (fun e => (e.1, e.2))

def newIterator (o : OverlayDB) (pfx : Bytes) : List (Bytes × Bytes) :=
  o.entries.filter (fun e => pfx.isPrefixOf e.1)

def commitCache (o : OverlayDB) (writes : KV) : OverlayDB :=
  { o with memdb := writes.entries.foldr (fun e m => m.insert e.1 e.2) o.memdb }

end OverlayDB

def CacheDB.reset (_ : CacheDB) : CacheDB := ⟨∅⟩

section

variable (C : Collaborators)

/-- `handleTransaction`: a deploy or invoke handler runs the transaction; a fault of the
overlay aborts the block, any other outcome is only the notification's state. -/
def handleTransaction (overlay : OverlayDB) (cache : CacheDB) (block : Block) (tx : Transaction) :
    Except String (ExecuteNotify × OverlayDB × CacheDB) :=
  let notify : ExecuteNotify := ⟨C.txHash tx, CONTRACT_STATE_FAIL⟩
  let run (handler : OverlayDB → Block → Transaction → TxRun) (name : String) :=
    let r := handler overlay block tx
    let overlay := { overlay.commitCache r.cacheWrites with dbErr := r.dbErr }
    match overlay.dbErr with
    | some e => .error s!"{name} tx error {e}"
    | none => .ok ({ notify with state := r.state }, overlay, ⟨r.cacheWrites⟩)
  match tx.txType with
  | .deploy => run C.handleDeployTransaction "HandleDeployTransaction"
  | .invokeNeo => run C.handleInvokeTransaction "HandleInvokeTransaction"
  | .other _ => .ok (notify, overlay, cache)

/-- The transaction loop of `executeBlock`: `cache.Reset()` before every transaction. -/
def executeTransactions (block : Block) :
    List Transaction → OverlayDB → CacheDB → List ExecuteNotify →
      Except String (List ExecuteNotify × OverlayDB × CacheDB)
  | [], overlay, cache, notifies => .ok (notifies, overlay, cache)
  | tx :: txs, overlay, cache, notifies =>
    match handleTransaction C overlay cache.reset block tx with
    | .error e => .error e
    | .ok (notify, overlay, cache) =>
      executeTransactions block txs overlay cache (notifies ++ [notify])

/-- `accumulateHash`: each key and then its value is written into the hasher, modelled as
the byte stream it has been fed. -/
def accumulateHash (stream : Bytes) (iter : List (Bytes × Bytes)) : Bytes :=
  iter.foldl (fun s e => s ++ e.1 ++ e.2) stream

/-- The byte stream `calculateTotalStateHash` feeds to SHA-256: the contract entries, then
the storage entries. -/
def totalStateStream (overlay : OverlayDB) : Bytes :=
  accumulateHash (accumulateHash [] (overlay.newIterator [C.ST_CONTRACT]))
    (overlay.newIterator [C.ST_STORAGE])

/-- `calculateTotalStateHash`; an iterator reports the overlay's backend fault. -/
def calculateTotalStateHash (overlay : OverlayDB) : Except String Uint256 :=
  match overlay.dbErr with
  | some e => .error e
  | none => .ok (C.sha256 (totalStateStream C overlay))

def isAccountUpdateStore (key _val : Bytes) : Bool := key.length == 41

/-- The `states` map that `memdb.ForEach` fills: for each account address (the last twenty
bytes of a 41-byte storage key), the values written under its keys, concatenated. -/
def collectStates (memdb : List (Bytes × Bytes)) : GoMap Bytes KeyState :=
  memdb.foldl (fun states e =>
    if isAccountUpdateStore e.1 e.2 then
      let accountAddr := e.1.drop 21
      match states.lookup accountAddr with
      | none => states.insert accountAddr ⟨accountAddr, e.2⟩
      | some item => states.insert accountAddr { item with value := item.value ++ e.2 }
    else states) ∅

def bytesCompare : Bytes → Bytes → Ordering
  | [], [] => .eq
  | [], _ :: _ => .lt
  | _ :: _, [] => .gt
  | a :: as, b :: bs => match compare a b with
    | .eq => bytesCompare as bs
    | o => o

/-- `sort.Sort(KeyStateSlice(..))`: `Less` puts the larger key first. -/
def sortKeyStateSlice (slice : List KeyState) : List KeyState :=
  slice.mergeSort (fun a b => bytesCompare a.key b.key != .lt)

/-- `calculateChangeStateRoot`. `stateSlice` is sorted and never read again: the hashes are
taken while ranging over the map `states`, in the order `C.rangeStates` chooses. -/
def calculateChangeStateRoot (cache : CacheDB) : Uint256 × List Uint256 :=
  let states := (collectStates (cache.memdb.entries.map (fun e => (e.1, e.2)))).entries.map (·.2)
  let _stateSlice := sortKeyStateSlice (C.rangeStates states)
  let hashs := (C.rangeStates states).map (fun item => C.sha256 item.value)
  if hashs.isEmpty then (UINT256_EMPTY, []) else (C.hashFullTreeWithLeafHash hashs, hashs)

/-- `executeBlock` against the committed state-store log, with `stateHashCheckHeight` the
checkpoint height `T` of the merkle-root policy. -/
def executeBlock (stateHashCheckHeight : UInt32) (stateLog : List StateWrite) (block : Block) :
    Except String ExecuteResult := do
  let overlay := OverlayDB.new (StateStore.kv stateLog)
  if block.header.height ≠ 0 then
    C.refreshGlobalParam block.header (StateStore.kv stateLog)
  let (notifies, overlay, cache) ←
    executeTransactions C block block.transactions overlay ⟨∅⟩ []
  let changeHash := C.changeHash overlay.memdb
  let (merkleRoot, hash) ←
    if block.header.height < stateHashCheckHeight then
      pure (UINT256_EMPTY, changeHash)
    else if block.header.height = stateHashCheckHeight then do
      let res ← calculateTotalStateHash C overlay
      pure (res, res)
    else
      pure (C.stateMerkleRoot (StateStore.stateHashes stateLog ++ [changeHash]), changeHash)
  let (accountRoot, accountState) := calculateChangeStateRoot C cache
  pure { hash, writeSet := overlay.memdb, merkleRoot, notify := notifies,
         updatedAccountStateRoot := accountRoot, updatedAccountState := accountState }

end

end Layer2.LedgerStore
