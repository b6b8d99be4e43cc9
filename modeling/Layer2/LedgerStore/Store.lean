import Layer2.LedgerStore.Types

/-! # Sub-stores and the ledger state

Each sub-store is its committed log of writes together with the batch opened by `NewBatch`;
`CommitTo` appends the whole batch to the log (§6: batched, transactional writes), and a read
returns the last write of its key. The Layer2 store has no batch: its writes are durable at
once. `Ledger` puts the in-memory fields of `LedgerStoreImp` beside the four stores; every
operation of the model runs in `LedgerM`, which keeps the state reached when a call fails.
-/

namespace Layer2.LedgerStore

def ErrNotFound : String := "leveldb: not found"

inductive BlockWrite
  | saveCurrentBlock (height : UInt32) (blockHash : Uint256)
  | saveBlockHash (height : UInt32) (blockHash : Uint256)
  | saveBlock (block : Block)
  | saveHeaderIndexList (startIndex : UInt32) (indexList : List Uint256)
  | saveVersion (version : UInt8)
  deriving DecidableEq

def BlockWrite.currentBlock? : BlockWrite → Option (Uint256 × UInt32)
  | .saveCurrentBlock h x => some (x, h)
  | _ => none

inductive StateWrite
  | saveBookkeeperState (curr next : List PublicKey)
  | addStateMerkleTreeRoot (height : UInt32) (writeSetHash : Uint256)
  | addBlockMerkleTreeRoot (txRoot : Uint256)
  | saveCurrentBlock (height : UInt32) (blockHash : Uint256)
  | saveLayer2States (height : UInt32) (hashes : List Uint256)
  | batchPutRawKeyVal (key val : Bytes)
  | batchDeleteRawKey (key : Bytes)
  deriving DecidableEq

def StateWrite.currentBlock? : StateWrite → Option (Uint256 × UInt32)
  | .saveCurrentBlock h x => some (x, h)
  | _ => none

inductive EventWrite
  | saveNotify (txHash : Uint256) (notify : ExecuteNotify)
  | saveEventNotifyByBlock (height : UInt32) (txs : List Uint256)
  | saveCurrentBlock (height : UInt32) (blockHash : Uint256)
  deriving DecidableEq

def EventWrite.currentBlock? : EventWrite → Option (Uint256 × UInt32)
  | .saveCurrentBlock h x => some (x, h)
  | _ => none

structure SubStore (W : Type) where
  log : List W
  batch : List W
  deriving DecidableEq

namespace SubStore

variable {W : Type}

def empty : SubStore W := ⟨[], []⟩

def newBatch (s : SubStore W) : SubStore W := { s with batch := [] }

def put (s : SubStore W) (w : W) : SubStore W := { s with batch := s.batch ++ [w] }

def putAll (s : SubStore W) (ws : List W) : SubStore W := { s with batch := s.batch ++ ws }

def commitTo (s : SubStore W) : SubStore W := ⟨s.log ++ s.batch, []⟩

def clearAll (_ : SubStore W) : SubStore W := ⟨[], []⟩

def putDirect (s : SubStore W) (w : W) : SubStore W := { s with log := s.log ++ [w] }

@[simp] theorem newBatch_log (s : SubStore W) : s.newBatch.log = s.log := rfl
@[simp] theorem put_log (s : SubStore W) (w : W) : (s.put w).log = s.log := rfl
@[simp] theorem putAll_log (s : SubStore W) (ws : List W) : (s.putAll ws).log = s.log := rfl
@[simp] theorem commitTo_log (s : SubStore W) : s.commitTo.log = s.log ++ s.batch := rfl

end SubStore

/-- Last value a log assigns through `f`. -/
def lastSome {W α : Type} (f : W → Option α) (log : List W) : Option α :=
  log.foldl (fun acc w => (f w).or acc) none

theorem lastSome_append {W α : Type} (f : W → Option α) (xs ys : List W) :
    lastSome f (xs ++ ys) = (lastSome f ys).or (lastSome f xs) := by
  unfold lastSome
  rw [List.foldl_append]
  generalize List.foldl (fun acc w => (f w).or acc) none xs = a
  induction ys generalizing a with
  | nil => simp
  | cons w ws ih =>
    simp only [List.foldl_cons]
    rw [ih, ih ((f w).or none), Option.or_none, Option.or_assoc]

theorem lastSome_cons {W α : Type} (f : W → Option α) (w : W) (ws : List W) :
    lastSome f (w :: ws) = (lastSome f ws).or (f w) := by
  rw [← List.singleton_append, lastSome_append]; simp [lastSome]

theorem lastSome_mem {W α : Type} {f : W → Option α} {a : α} :
    ∀ {log : List W}, lastSome f log = some a → ∃ w ∈ log, f w = some a
  | [], h => by simp [lastSome] at h
  | w :: ws, h => by
    rw [lastSome_cons] at h
    cases hs : lastSome f ws with
    | none => exact ⟨w, List.mem_cons_self _ _, by simpa [hs] using h⟩
    | some b =>
      obtain ⟨v, hv, hfv⟩ := lastSome_mem (hs.trans (by simpa [hs] using h))
      exact ⟨v, List.mem_cons_of_mem _ hv, hfv⟩

theorem lastSome_eq_none {W α : Type} {f : W → Option α} {log : List W}
    (h : ∀ w ∈ log, f w = none) : lastSome f log = none := by
  cases hs : lastSome f log with
  | none => rfl
  | some a =>
    obtain ⟨w, hw, hfw⟩ := lastSome_mem hs
    rw [h w hw] at hfw
    cases hfw

namespace BlockStore

def getCurrentBlock (log : List BlockWrite) : Option (Uint256 × UInt32) :=
  lastSome BlockWrite.currentBlock? log

def getBlockHash (log : List BlockWrite) (height : UInt32) : Option Uint256 :=
  lastSome (fun | .saveBlockHash h x => if h = height then some x else none | _ => none) log

def getBlock (C : Collaborators) (log : List BlockWrite) (blockHash : Uint256) : Option Block :=
  lastSome (fun | .saveBlock b => if b.hash C = blockHash then some b else none | _ => none) log

def getHeader (C : Collaborators) (log : List BlockWrite) (blockHash : Uint256) : Option Header :=
  (getBlock C log blockHash).map Block.header

theorem getBlock_saved {C : Collaborators} {log : List BlockWrite} {x : Uint256} {b : Block}
    (h : getBlock C log x = some b) : BlockWrite.saveBlock b ∈ log ∧ b.hash C = x := by
  obtain ⟨w, hw, hf⟩ := lastSome_mem h
  cases w <;> simp only [reduceCtorEq] at hf
  split at hf
  · cases hf; exact ⟨hw, ‹_›⟩
  · cases hf

def getVersion (log : List BlockWrite) : Option UInt8 :=
  lastSome (fun | .saveVersion v => some v | _ => none) log

def getHeaderIndexList (log : List BlockWrite) : GoMap UInt32 Uint256 :=
  log.foldl (fun m w => match w with
    | .saveHeaderIndexList start hs =>
      hs.enum.foldl (fun m p => m.insert (start + UInt32.ofNat p.1) p.2) m
    | _ => m) ∅

end BlockStore

namespace StateStore

def getCurrentBlock (log : List StateWrite) : Option (Uint256 × UInt32) :=
  lastSome StateWrite.currentBlock? log

/-- The committed key/value state, as `BatchPutRawKeyVal` and `BatchDeleteRawKey` left it. -/
def kv (log : List StateWrite) : KV :=
  log.foldl (fun m w => match w with
    | .batchPutRawKeyVal k v => m.insert k v
    | .batchDeleteRawKey k => m.erase k
    | _ => m) ∅

def blockRoots (log : List StateWrite) : List Uint256 :=
  log.filterMap fun | .addBlockMerkleTreeRoot r => some r | _ => none

def stateHashes (log : List StateWrite) : List Uint256 :=
  log.filterMap fun | .addStateMerkleTreeRoot _ h => some h | _ => none

/-- `GetStateMerkleRoot`: the state root the tree had once the hash of `height` was added. -/
def getStateMerkleRoot (C : Collaborators) (log : List StateWrite) (height : UInt32) :
    Option Uint256 :=
  lastSome (fun p => match p.1 with
    | .addStateMerkleTreeRoot h _ =>
      if h = height then some (C.stateMerkleRoot (stateHashes (log.take (p.2 + 1)))) else none
    | _ => none) (log.zip (List.range log.length))

end StateStore

def EventStore.getCurrentBlock (log : List EventWrite) : Option (Uint256 × UInt32) :=
  lastSome EventWrite.currentBlock? log

/-- The in-memory fields of `LedgerStoreImp`. -/
structure LedgerStoreImp where
  storedIndexCount : UInt32
  currBlockHeight : UInt32
  currBlockHash : Uint256
  headerIndex : GoMap UInt32 Uint256
  closing : Bool

/-- A running ledger: the in-memory fields, the four sub-stores, and, in order, the in-memory
fields as each write to them left them, which is what a reader between two writes can see. -/
structure Ledger where
  mem : LedgerStoreImp
  blockStore : SubStore BlockWrite
  stateStore : SubStore StateWrite
  eventStore : SubStore EventWrite
  layer2Store : List (Option Layer2State)
  memWrites : List LedgerStoreImp

/-- `NewLedgerStore` over empty directories. -/
def Ledger.empty : Ledger := ⟨⟨0, 0, 0, ∅, false⟩, .empty, .empty, .empty, [], []⟩

abbrev LedgerM := EStateM String Ledger

def ledgerAfter {α : Type} : EStateM.Result String Ledger α → Ledger
  | .ok _ l => l
  | .error _ l => l

def succeeded {α : Type} : EStateM.Result String Ledger α → Bool
  | .ok _ _ => true
  | .error _ _ => false

section Apply

variable {α β : Type}

@[simp] theorem bind_apply (x : LedgerM α) (f : α → LedgerM β) (l : Ledger) :
    (x >>= f) l = match x l with | .ok a l' => f a l' | .error e l' => .error e l' := by
  show EStateM.bind x f l = _
  unfold EStateM.bind
  cases x l <;> rfl

theorem bind_eq_ok {x : LedgerM α} {f : α → LedgerM β} {l l' : Ledger} {b : β}
    (h : (x >>= f) l = .ok b l') : ∃ a l₁, x l = .ok a l₁ ∧ f a l₁ = .ok b l' := by
  rw [bind_apply] at h
  split at h
  · exact ⟨_, _, ‹_›, h⟩
  · cases h

@[simp] theorem get_apply (l : Ledger) : (get : LedgerM Ledger) l = .ok l l := rfl

@[simp] theorem pure_apply (a : α) (l : Ledger) : (pure a : LedgerM α) l = .ok a l := rfl

@[simp] theorem throw_apply (e : String) (l : Ledger) : (throw e : LedgerM α) l = .error e l := rfl

@[simp] theorem modify_apply (f : Ledger → Ledger) (l : Ledger) :
    (modify f : LedgerM Unit) l = .ok () (f l) := rfl

@[simp] theorem ledgerAfter_ok (a : α) (l : Ledger) : ledgerAfter (.ok a l) = l := rfl

@[simp] theorem ledgerAfter_error (e : String) (l : Ledger) :
    ledgerAfter (.error e l : EStateM.Result String Ledger α) = l := rfl

@[simp] theorem succeeded_ok (a : α) (l : Ledger) : succeeded (.ok a l) = true := rfl

@[simp] theorem succeeded_error (e : String) (l : Ledger) :
    succeeded (.error e l : EStateM.Result String Ledger α) = false := rfl

end Apply

/-- The sub-store calls that can fail. A call run with `some p` fails when it reaches `p`. -/
inductive FailPoint
  | getHeader
  | blockSaveCurrentBlock
  | saveBlock
  | saveMsgToLayer2Store
  | addStateMerkleTreeRoot
  | addBlockMerkleTreeRoot
  | stateSaveCurrentBlock
  | saveLayer2States
  | blockCommit
  | eventCommit
  | stateCommit
  deriving DecidableEq, Repr

def failAt (fault : Option FailPoint) (p : FailPoint) (msg : String) : LedgerM Unit :=
  if fault = some p then throw msg else pure ()

@[simp] theorem failAt_apply (fault : Option FailPoint) (p : FailPoint) (msg : String) (l : Ledger) :
    failAt fault p msg l = if fault = some p then .error msg l else .ok () l := by
  unfold failAt; split <;> rfl

def modifyMem (f : LedgerStoreImp → LedgerStoreImp) : LedgerM Unit :=
  modify fun l => { l with mem := f l.mem, memWrites := l.memWrites ++ [f l.mem] }

def modifyBlockStore (f : SubStore BlockWrite → SubStore BlockWrite) : LedgerM Unit :=
  modify fun l => { l with blockStore := f l.blockStore }

def modifyStateStore (f : SubStore StateWrite → SubStore StateWrite) : LedgerM Unit :=
  modify fun l => { l with stateStore := f l.stateStore }

def modifyEventStore (f : SubStore EventWrite → SubStore EventWrite) : LedgerM Unit :=
  modify fun l => { l with eventStore := f l.eventStore }

@[simp] theorem modifyMem_apply (f : LedgerStoreImp → LedgerStoreImp) (l : Ledger) :
    modifyMem f l = .ok () { l with mem := f l.mem, memWrites := l.memWrites ++ [f l.mem] } := rfl

@[simp] theorem modifyBlockStore_apply (f : SubStore BlockWrite → SubStore BlockWrite) (l : Ledger) :
    modifyBlockStore f l = .ok () { l with blockStore := f l.blockStore } := rfl

@[simp] theorem modifyStateStore_apply (f : SubStore StateWrite → SubStore StateWrite) (l : Ledger) :
    modifyStateStore f l = .ok () { l with stateStore := f l.stateStore } := rfl

@[simp] theorem modifyEventStore_apply (f : SubStore EventWrite → SubStore EventWrite) (l : Ledger) :
    modifyEventStore f l = .ok () { l with eventStore := f l.eventStore } := rfl

section Bind

variable {α : Type} (f : Unit → LedgerM α) (l : Ledger)

@[simp] theorem failAt_bind_apply (fault : Option FailPoint) (p : FailPoint) (msg : String) :
    (failAt fault p msg >>= f) l = if fault = some p then .error msg l else f () l := by
  by_cases h : fault = some p <;> simp [failAt, h]

@[simp] theorem modifyMem_bind_apply (g : LedgerStoreImp → LedgerStoreImp) :
    (modifyMem g >>= f) l = f () { l with mem := g l.mem, memWrites := l.memWrites ++ [g l.mem] } :=
  rfl

@[simp] theorem modifyBlockStore_bind_apply (g : SubStore BlockWrite → SubStore BlockWrite) :
    (modifyBlockStore g >>= f) l = f () { l with blockStore := g l.blockStore } := rfl

@[simp] theorem modifyStateStore_bind_apply (g : SubStore StateWrite → SubStore StateWrite) :
    (modifyStateStore g >>= f) l = f () { l with stateStore := g l.stateStore } := rfl

@[simp] theorem modifyEventStore_bind_apply (g : SubStore EventWrite → SubStore EventWrite) :
    (modifyEventStore g >>= f) l = f () { l with eventStore := g l.eventStore } := rfl

end Bind

def withContext {α : Type} (ctx : String) (x : LedgerM α) : LedgerM α :=
  tryCatch x fun e => throw (ctx ++ e)

theorem ledgerAfter_withContext {α : Type} (ctx : String) (x : LedgerM α) (l : Ledger) :
    ledgerAfter (withContext ctx x l) = ledgerAfter (x l) := by
  show ledgerAfter (EStateM.tryCatch x _ l) = _
  unfold EStateM.tryCatch
  cases x l <;> rfl

theorem succeeded_withContext {α : Type} (ctx : String) (x : LedgerM α) (l : Ledger) :
    succeeded (withContext ctx x l) = succeeded (x l) := by
  show succeeded (EStateM.tryCatch x _ l) = _
  unfold EStateM.tryCatch
  cases x l <;> rfl

@[simp] theorem withContext_apply {α : Type} (ctx : String) (x : LedgerM α) (l : Ledger) :
    withContext ctx x l = match x l with
      | .ok a l' => .ok a l'
      | .error e l' => .error (ctx ++ e) l' := by
  show EStateM.tryCatch x _ l = _
  unfold EStateM.tryCatch
  cases x l <;> rfl

theorem withContext_eq_ok {α : Type} {ctx : String} {x : LedgerM α} {l l' : Ledger} {a : α}
    (h : withContext ctx x l = .ok a l') : x l = .ok a l' := by
  rw [withContext_apply] at h
  split at h
  · cases h; assumption
  · cases h

end Layer2.LedgerStore
